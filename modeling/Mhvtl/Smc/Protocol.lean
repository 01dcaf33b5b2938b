import Mathlib.Data.List.Nodup
import Mathlib.Logic.Function.Basic
import Mhvtl.Lib.Run
import Mhvtl.Smc.MapSlots
import Mhvtl.Smc.TapeDaemon

/-!
# The library, its drives and the user tool

The parties exchange messages through one queue per receiver. The library handles
messages while it is idle, and in a move waits for whatever message comes next.
Drives handle their messages and obey their hosts, and the user tool sends what
it likes, in any interleaving. Messages carry a serial number and the number of
the request they answer, which no party looks at.
-/

namespace Mhvtl

open Interact

/-- A message under way. -/
structure Envelope where
  /-- Queue of the receiver. -/
  rcv_id : ℕ
  /-- The message. -/
  msg : QMsg
  /-- Serial number, for the record. -/
  serial : ℕ
  /-- Request to a drive that this answers, for the record. -/
  answers : Option ℕ
deriving DecidableEq

/-- Queue numbers of the daemons. -/
structure Parties where
  /-- The library. -/
  library_id : ℕ
  /-- The drives. -/
  drive_ids : List ℕ
  /-- The library is not a drive. -/
  apart : library_id ∉ drive_ids

/-- What the library is at. -/
inductive LibraryPhase where
  /-- Between commands. -/
  | idle (smc : Smc)
  /-- In a move: the inventory and the command it began with, what is left to do, and
  the drive and number of the request that is not answered yet. -/
  | moving (smc : Smc) (cdb : Cdb) (p : Proc Moved) (awaited : Option (ℕ × ℕ))
  /-- After the end of the daemon. -/
  | gone

/-- The inventory, in a move the one it began with. -/
def LibraryPhase.inventory : LibraryPhase → Option Smc
  | .idle smc => some smc
  | .moving smc _ _ _ => some smc
  | .gone => none

/-- The library waits for an answer. -/
def LibraryPhase.Awaits : LibraryPhase → Prop
  | .moving _ _ _ (some _) => True
  | _ => False

/-- All parties with the messages between them. -/
structure System where
  /-- Messages for each receiver, the oldest first. -/
  inbox : ℕ → List Envelope
  /-- Number of messages sent so far. -/
  posted : ℕ
  /-- The library. -/
  library : LibraryPhase
  /-- The drives. -/
  drives : ℕ → TapeDrive

namespace System

/-- The messages that `send_msg` makes of some texts: a text that is too long is dropped. -/
def letters (snd_id rcv_id : ℕ) (answers : Option ℕ) : ℕ → List Text → List Envelope
  | _, [] => []
  | n, text :: texts =>
    if text.length ≤ MAXTEXTLEN then
      ⟨rcv_id, ⟨snd_id, text⟩, n, answers⟩ :: letters snd_id rcv_id answers (n + 1) texts
    else
      letters snd_id rcv_id answers n texts

/-- Put messages into the queues of their receivers. -/
def deliver (s : System) (es : List Envelope) : System :=
  { s with
    inbox := fun id => s.inbox id ++ es.filter fun e => e.rcv_id == id
    posted := s.posted + es.length }

/-- What is left in a queue after its first message was taken. -/
def taken (s : System) (id : ℕ) (rest : List Envelope) : System :=
  { s with inbox := Function.update s.inbox id rest }

/-- The library gets on. -/
def setLibrary (s : System) (phase : LibraryPhase) : System := { s with library := phase }

/-- A drive gets on. -/
def setDrive (s : System) (d : ℕ) (drive : TapeDrive) : System :=
  { s with drives := Function.update s.drives d drive }

end System

/-- What happened in a step, with the messages that were sent in it. -/
inductive Event where
  /-- The idle library handled a message. -/
  | libraryHandles (e : Envelope) (sent : List Envelope)
  /-- A move began. -/
  | moveBegins (smc : Smc) (cdb : Cdb)
  /-- The library sent a request in a move. -/
  | libraryAsks (sent : List Envelope)
  /-- The move script ran. -/
  | libraryRuns
  /-- The library took a message in a move, when it waited for the answer of a drive
  to the request with a number. -/
  | libraryHears (e : Envelope) (awaited : Option (ℕ × ℕ))
  /-- A move ended. -/
  | moveEnds (smc : Smc) (cdb : Cdb) (r : Moved)
  /-- A drive handled a message. -/
  | driveHandles (d : ℕ) (e : Envelope) (sent : List Envelope)
  /-- A drive obeyed its host. -/
  | driveObeys (d : ℕ) (command : HostCommand) (sent : List Envelope)
  /-- The daemon of a drive was ended and started again. -/
  | driveRestarts (d : ℕ)
  /-- The user tool sent a message. -/
  | userSends (sent : List Envelope)
  /-- The user tool read a message. -/
  | userReads (user : ℕ) (e : Envelope)

/-- The messages sent in a step. -/
def Event.sent : Event → List Envelope
  | .libraryHandles _ sent => sent
  | .libraryAsks sent => sent
  | .driveHandles _ _ sent => sent
  | .driveObeys _ _ sent => sent
  | .userSends sent => sent
  | _ => []

section

variable (P : Parties)

/-- Steps of the parties, in any order. -/
inductive ProtocolStep : System → Event → System → Prop where
  /-- The idle library handles a message and may answer its sender. -/
  | libraryHandles {s : System} {smc smc' : Smc} {e : Envelope} {rest : List Envelope}
      {out : List Text} {es : List Envelope} (hphase : s.library = .idle smc)
      (hnext : s.inbox P.library_id = e :: rest) (hrun : smc.processMessageQ e.msg = some (smc', out))
      (hes : es = System.letters P.library_id e.msg.snd_id none s.posted out) :
      ProtocolStep s (.libraryHandles e es)
        (((s.taken P.library_id rest).setLibrary (.idle smc')).deliver es)
  /-- Handling a message ends the library's daemon. -/
  | libraryFails {s : System} {smc : Smc} {e : Envelope} {rest : List Envelope}
      (hphase : s.library = .idle smc) (hnext : s.inbox P.library_id = e :: rest)
      (hrun : smc.processMessageQ e.msg = none) :
      ProtocolStep s (.libraryHandles e []) ((s.taken P.library_id rest).setLibrary .gone)
  /-- A move begins. -/
  | moveBegins {s : System} {smc : Smc} (cdb : Cdb) (hphase : s.library = .idle smc) :
      ProtocolStep s (.moveBegins smc cdb)
        (s.setLibrary (.moving smc cdb (smc.smc_move_medium cdb) none))
  /-- The library sends a request. -/
  | libraryAsks {s : System} {smc : Smc} {cdb : Cdb} {cmd : Text} {rcv_id : ℕ}
      {k : Unit → Proc Moved} {awaited : Option (ℕ × ℕ)} {es : List Envelope}
      (hphase : s.library = .moving smc cdb (.act (.send_msg cmd rcv_id) k) awaited)
      (hes : es = System.letters P.library_id rcv_id none s.posted [cmd]) :
      ProtocolStep s (.libraryAsks es)
        ((s.setLibrary (.moving smc cdb (k ()) (some (rcv_id, s.posted)))).deliver es)
  /-- The move script ends with some exit code. -/
  | libraryRuns {s : System} {smc : Smc} {cdb : Cdb} {c : MoveCommand} {k : ℤ → Proc Moved}
      {awaited : Option (ℕ × ℕ)} (code : ℤ)
      (hphase : s.library = .moving smc cdb (.act (.run_command c) k) awaited) :
      ProtocolStep s .libraryRuns (s.setLibrary (.moving smc cdb (k code) awaited))
  /-- The library takes the next message for an answer. -/
  | libraryHears {s : System} {smc : Smc} {cdb : Cdb} {k : Text → Proc Moved}
      {awaited : Option (ℕ × ℕ)} {e : Envelope} {rest : List Envelope}
      (hphase : s.library = .moving smc cdb (.act .msgrcv k) awaited)
      (hnext : s.inbox P.library_id = e :: rest) :
      ProtocolStep s (.libraryHears e awaited)
        ((s.taken P.library_id rest).setLibrary (.moving smc cdb (k e.msg.text) none))
  /-- A move ends. -/
  | moveEnds {s : System} {smc : Smc} {cdb : Cdb} {r : Moved} {awaited : Option (ℕ × ℕ)}
      (hphase : s.library = .moving smc cdb (.done r) awaited) :
      ProtocolStep s (.moveEnds smc cdb r)
        (s.setLibrary ((r.map fun x => LibraryPhase.idle x.1).getD .gone))
  /-- A drive handles a message and may answer its sender. -/
  | driveHandles {s : System} {d : ℕ} {e : Envelope} {rest : List Envelope} {drive : TapeDrive}
      {out : List Text} {es : List Envelope} (result : LoadResult) (hd : d ∈ P.drive_ids)
      (hnext : s.inbox d = e :: rest)
      (hrun : (s.drives d).processMessageQ e.msg result = some (drive, out))
      (hes : es = System.letters d e.msg.snd_id (some e.serial) s.posted out) :
      ProtocolStep s (.driveHandles d e es) (((s.taken d rest).setDrive d drive).deliver es)
  /-- A drive obeys its host and may tell the library. -/
  | driveObeys {s : System} {d : ℕ} {es : List Envelope} (command : HostCommand)
      (hd : d ∈ P.drive_ids)
      (hes : es = System.letters d (s.drives d).library_id none s.posted
        ((s.drives d).host command).2.toList) :
      ProtocolStep s (.driveObeys d command es)
        ((s.setDrive d ((s.drives d).host command).1).deliver es)
  /-- The daemon of a drive is ended and started again. -/
  | driveRestarts {s : System} {d : ℕ} (hd : d ∈ P.drive_ids) :
      ProtocolStep s (.driveRestarts d) (s.setDrive d (TapeDrive.start P.library_id))
  /-- The user tool sends a message. -/
  | userSends {s : System} {es : List Envelope} (user rcv_id : ℕ) (text : Text)
      (hlibrary : user ≠ P.library_id) (hdrive : user ∉ P.drive_ids)
      (hes : es = System.letters user rcv_id none s.posted [text]) :
      ProtocolStep s (.userSends es) (s.deliver es)
  /-- The user tool reads an answer. -/
  | userReads {s : System} {user : ℕ} {e : Envelope} {rest : List Envelope}
      (hlibrary : user ≠ P.library_id) (hdrive : user ∉ P.drive_ids)
      (hnext : s.inbox user = e :: rest) : ProtocolStep s (.userReads user e) (s.taken user rest)

/-- The drives of the inventory are drives. -/
def Wired (smc : Smc) : Prop :=
  ∀ sp ∈ smc.slots, ∀ drv, sp.drive = some drv → drv.drv_id ∈ P.drive_ids

/-- The library has just registered with its drives, which hold nothing. -/
structure Started (s : System) : Prop where
  /-- The library is idle. -/
  library : ∃ smc, s.library = .idle smc ∧ Wired P smc
  /-- Every drive has one message, that of the library. -/
  registered : ∀ d ∈ P.drive_ids, ∃ e, s.inbox d = [e] ∧ e.msg = ⟨P.library_id, "Register".toList⟩ ∧
    e.serial < s.posted
  /-- No other message is under way. -/
  others : ∀ id, id ∉ P.drive_ids → s.inbox id = []
  /-- The drives were just started. -/
  drives : ∀ d ∈ P.drive_ids, s.drives d = TapeDrive.start P.library_id

end

end Mhvtl
