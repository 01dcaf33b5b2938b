import Mhvtl.Smc.Messages
import Mhvtl.Smc.Moves

/-!
# Messages of a tape drive

The drive's daemon remembers the bar code of the cartridge in its mouth. It loads
and unloads when it is told to, answers most requests, and tells its library when
the host ejects the cartridge. Whether a cartridge can be loaded is up to its files
and the drive, and open here.
-/

namespace Mhvtl

/-- Load state of a drive. -/
inductive LoadStatus where
  /-- Nothing is loaded. -/
  | TAPE_UNLOADED
  /-- A cartridge is loaded and ready. -/
  | TAPE_LOADED
  /-- A cartridge is loaded and not ready yet. -/
  | TAPE_LOADING
deriving DecidableEq

/-- How a load may end. -/
inductive LoadResult where
  /-- The cartridge is loaded. -/
  | loaded
  /-- The drive does not take this kind of medium. -/
  | mismatch
  /-- The cartridge could not be opened. -/
  | failed
deriving DecidableEq

/-- The part of the drive's private data its messages are about. -/
structure TapeDrive where
  /-- Bar code of the cartridge in the mouth of the drive. -/
  barcode : Option Text
  /-- Load state. -/
  load_status : LoadStatus
  /-- A library has registered. -/
  inLibrary : Bool
  /-- Queue of the library, by the configuration. -/
  library_id : ℕ
deriving DecidableEq

/-- What the host makes the drive do. -/
inductive HostCommand where
  /-- LOAD. -/
  | load (result : LoadResult)
  /-- UNLOAD. -/
  | unload
  /-- The load time is over. -/
  | finish_mount
deriving DecidableEq

/-- The bar code behind a command word, up to the next white space. -/
def strip_PCL (str : Text) (start : ℕ) : Text := (str.drop start).takeWhile fun c => !Text.isspace c

/-- Texts of the drive are made in a buffer of this size. -/
def replySize : ℕ := 128

/-- A text in the reply buffer. -/
def replyText (t : Text) : Text := t.take (replySize - 1)

/-- Answer to a load when there is a cartridge in the mouth of the drive. -/
def alreadyInMouth (barcode : Text) : Text :=
  replyText ("Load failed - ".toList ++ barcode ++ " is already in mouth of drive".toList)

/-- Answer to a load that was tried. -/
def loadReply (s pcl : Text) : Text := replyText (s ++ ": ".toList ++ pcl)

namespace TapeDrive

/-- A drive whose daemon was just started. -/
def start (library_id : ℕ) : TapeDrive := ⟨none, .TAPE_UNLOADED, false, library_id⟩

/-- Load a cartridge. -/
def loadTape (d : TapeDrive) : LoadResult → TapeDrive
  | .loaded => { d with load_status := .TAPE_LOADING }
  | .mismatch => { d with load_status := .TAPE_UNLOADED }
  | .failed => d

/-- Unload the cartridge, and tell the library when asked to. -/
def unloadTape (d : TapeDrive) (update_library : Bool) : TapeDrive × Option Text :=
  ({ d with load_status := .TAPE_UNLOADED },
    if update_library && d.inLibrary && d.library_id != 0 then some msg_eject else none)

/-- The library loads a cartridge. -/
def handleLload (d : TapeDrive) (msg : QMsg) (result : LoadResult) : TapeDrive × Option Text :=
  if !d.inLibrary then
    (d, none)
  else
    match d.barcode with
    | some barcode => (d, some (alreadyInMouth barcode))
    | none =>
      let pcl := strip_PCL msg.text 6
      let d := d.loadTape result
      let s := if d.load_status = .TAPE_UNLOADED then msg_load_failed else msg_load_ok
      ({ d with barcode := if result = .loaded then some pcl else none },
        some (loadReply s pcl))

/-- The user loads a cartridge. -/
def handleLoad (d : TapeDrive) (msg : QMsg) (result : LoadResult) : TapeDrive × Option Text :=
  let pcl := strip_PCL msg.text 5
  let d := if d.load_status = .TAPE_LOADED then d else d.loadTape result
  ({ d with barcode := some pcl }, none)

/-- The cartridge is taken out of the drive. -/
def handleUnload (d : TapeDrive) : TapeDrive × Option Text :=
  ({ (d.unloadTape false).1 with barcode := none }, some msg_unload_ok)

/-- The library asks whether there is a cartridge. -/
def handleMountState (d : TapeDrive) : TapeDrive × Option Text :=
  (d, some (if d.barcode.isSome then msg_occupied else msg_not_occupied))

/-- The library tells that it is there. -/
def handleRegister (d : TapeDrive) : TapeDrive × Option Text := ({ d with inLibrary := true }, none)

/-- Handlers of the drive's messages by the start of their texts, in the order in
which they are tried, when a load ends as given. -/
def handlers (result : LoadResult) : List (Handler TapeDrive) :=
  [ ("lload".toList, fun d msg => some (d.handleLload msg result)),
    ("load".toList, fun d msg => some (d.handleLoad msg result)),
    (msg_set_empty, fun d _ => some d.handleUnload),
    (msg_mount_state, fun d _ => some d.handleMountState),
    ("unload".toList, fun d _ => some d.handleUnload),
    ("Register".toList, fun d _ => some d.handleRegister) ]

/-- Handle a message. -/
def processMessageQ (d : TapeDrive) (msg : QMsg) (result : LoadResult) :
    Option (TapeDrive × List Text) :=
  runHandlers msg (handlers result) d

/-- Obey the host. -/
def host (d : TapeDrive) : HostCommand → TapeDrive × Option Text
  | .load result =>
    if d.load_status = .TAPE_UNLOADED ∧ d.barcode.isSome = true then (d.loadTape result, none)
    else (d, none)
  | .unload => if d.load_status = .TAPE_LOADED then d.unloadTape true else (d, none)
  | .finish_mount =>
    (if d.load_status = .TAPE_LOADING then { d with load_status := .TAPE_LOADED } else d, none)

/-- Nothing is loaded into a drive with an empty mouth. -/
def Sound (d : TapeDrive) : Prop := d.barcode = none → d.load_status = .TAPE_UNLOADED

variable {d d' : TapeDrive} {msg : QMsg} {result : LoadResult} {out : List Text}

/-- A request that the drive has to answer. -/
def Request (text : Text) : Prop :=
  "lload".toList <+: text ∨ "unload".toList <+: text ∨ msg_set_empty <+: text ∨
    msg_mount_state <+: text

/-- A message by what the drive does with it. -/
inductive Handled (d : TapeDrive) (msg : QMsg) (result : LoadResult) :
    TapeDrive → List Text → Prop where
  /-- A load for the library. -/
  | lload (h : "lload".toList <+: msg.text) :
      Handled d msg result (d.handleLload msg result).1 (d.handleLload msg result).2.toList
  /-- A load for the user. -/
  | load (h : "load".toList <+: msg.text) : Handled d msg result (d.handleLoad msg result).1 []
  /-- An unload, or the end of one. -/
  | unload (h : "unload".toList <+: msg.text ∨ msg_set_empty <+: msg.text) :
      Handled d msg result d.handleUnload.1 [msg_unload_ok]
  /-- A question. -/
  | mountState (h : msg_mount_state <+: msg.text) :
      Handled d msg result d [if d.barcode.isSome then msg_occupied else msg_not_occupied]
  /-- A library registers. -/
  | register (h : "Register".toList <+: msg.text) : Handled d msg result d.handleRegister.1 []
  /-- Any other message. -/
  | ignored (h : ∀ x ∈ handlers result, ¬ x.1 <+: msg.text) : Handled d msg result d []

/-- A message is handled in one of these ways. -/
theorem processMessageQ_handled (d : TapeDrive) (msg : QMsg) (result : LoadResult) :
    ∃ d' out, d.processMessageQ msg result = some (d', out) ∧ Handled d msg result d' out := by
  have hstarts : Unambiguous (handlers result) := by
    have hall : Unambiguous (handlers .failed) := by decide
    exact hall
  rcases runHandlers_cases hstarts d with ⟨hnone, hrun⟩ | ⟨x, hx, hpre, hrun⟩
  · exact ⟨d, [], hrun, Handled.ignored hnone⟩
  · simp only [handlers, List.mem_cons, List.not_mem_nil, or_false] at hx
    rcases hx with rfl | rfl | rfl | rfl | rfl | rfl
    · exact ⟨_, _, hrun, Handled.lload hpre⟩
    · exact ⟨_, _, hrun, Handled.load hpre⟩
    · exact ⟨_, _, hrun, Handled.unload (Or.inr hpre)⟩
    · exact ⟨_, _, hrun, Handled.mountState hpre⟩
    · exact ⟨_, _, hrun, Handled.unload (Or.inl hpre)⟩
    · exact ⟨_, _, hrun, Handled.register hpre⟩

/-- Two texts that start a third one: one of them starts the other. -/
theorem starts_disjoint {a b text : Text} (ha : a <+: text) (hb : b <+: text)
    (h : ¬ a <+: b ∧ ¬ b <+: a) : False := by
  rcases List.prefix_or_prefix_of_prefix ha hb with hab | hba
  · exact h.1 hab
  · exact h.2 hba

/-- A registration is not a request. -/
theorem Request.not_register {text : Text} (hreq : Request text) :
    ¬ "Register".toList <+: text := by
  intro h
  rcases hreq with hreq | hreq | hreq | hreq
  all_goals exact starts_disjoint h hreq (by decide)

/-- A text in the reply buffer can be sent. -/
theorem length_replyText (t : Text) : (replyText t).length ≤ MAXTEXTLEN := by
  simp only [replyText, replySize, MAXTEXTLEN, List.length_take]
  omega

/-- A drive answers a request, once, when it knows the library it is to load for. -/
theorem Handled.answers (h : Handled d msg result d' out) (hreq : Request msg.text)
    (hlib : "lload".toList <+: msg.text → d.inLibrary = true) :
    ∃ t, out = [t] ∧ t.length ≤ MAXTEXTLEN := by
  cases h with
  | lload h =>
    simp only [handleLload, hlib h]
    cases d.barcode with
    | none => exact ⟨_, rfl, length_replyText _⟩
    | some barcode => exact ⟨_, rfl, length_replyText _⟩
  | load h =>
    rcases hreq with hreq | hreq | hreq | hreq
    all_goals exact (starts_disjoint h hreq (by decide)).elim
  | unload h => exact ⟨msg_unload_ok, rfl, by decide⟩
  | mountState h =>
    refine ⟨_, rfl, ?_⟩
    split
    · decide
    · decide
  | register h =>
    rcases hreq with hreq | hreq | hreq | hreq
    all_goals exact (starts_disjoint h hreq (by decide)).elim
  | ignored h =>
    simp only [handlers, List.forall_mem_cons] at h
    rcases hreq with hreq | hreq | hreq | hreq
    · exact absurd hreq h.1
    · exact absurd hreq h.2.2.2.2.1
    · exact absurd hreq h.2.2.1
    · exact absurd hreq h.2.2.2.1

/-- Nothing but requests is answered. -/
theorem Handled.silent (h : Handled d msg result d' out) (hreq : ¬ Request msg.text) :
    out = [] := by
  cases h with
  | lload h => exact absurd (Or.inl h) hreq
  | load h => rfl
  | unload h => exact absurd (h.elim (fun h => Or.inr (Or.inl h)) fun h => Or.inr (Or.inr (Or.inl h))) hreq
  | mountState h => exact absurd (Or.inr (Or.inr (Or.inr h))) hreq
  | register h => rfl
  | ignored h => rfl

/-- A message that puts a cartridge into a drive that has one, or takes it out. -/
def ChangesCartridge (text : Text) : Prop :=
  "load".toList <+: text ∨ "unload".toList <+: text ∨ msg_set_empty <+: text

/-- Other messages only put a cartridge into an empty mouth. -/
theorem Handled.barcode (h : Handled d msg result d' out) :
    d.barcode = none ∨ d'.barcode = d.barcode ∨ ChangesCartridge msg.text := by
  cases h with
  | lload h =>
    cases hb : d.barcode with
    | none => exact Or.inl rfl
    | some barcode =>
      refine Or.inr (Or.inl ?_)
      simp only [handleLload, hb]
      split <;> exact hb
  | load h => exact Or.inr (Or.inr (Or.inl h))
  | unload h => exact Or.inr (Or.inr (Or.inr h))
  | mountState h => exact Or.inr (Or.inl rfl)
  | register h => exact Or.inr (Or.inl rfl)
  | ignored h => exact Or.inr (Or.inl rfl)

/-- A reply that is not that of a failed load starts like that of a good one. -/
theorem saysLoadFailed_false {reply : Text} (h : saysLoadFailed reply = false) :
    msg_load_ok <+: reply := by
  rw [saysLoadFailed, Bool.not_eq_false', Text.strncmp_comm] at h
  exact Text.strncmp_iff_prefix.mp h

/-- The answer when there is a cartridge already is that of a failed load. -/
theorem alreadyInMouth_failed (barcode : Text) : ¬ msg_load_ok <+: alreadyInMouth barcode := by
  intro h
  have hstart : "Load failed - ".toList <+: "Load failed - ".toList ++
      (barcode ++ " is already in mouth of drive".toList) := List.prefix_append _ _
  rw [← List.append_assoc] at hstart
  exact starts_disjoint (h.trans (List.take_prefix _ _)) hstart (by decide)

/-- The answer to a failed load is one. -/
theorem loadReply_failed (pcl : Text) : ¬ msg_load_ok <+: loadReply msg_load_failed pcl := by
  intro h
  have hstart : msg_load_failed <+: msg_load_failed ++ (": ".toList ++ pcl) := List.prefix_append _ _
  rw [← List.append_assoc] at hstart
  exact starts_disjoint (h.trans (List.take_prefix _ _)) hstart (by decide)

/-- A drive that says that it loaded holds the cartridge it was told to. -/
theorem Handled.loads {reply : Text} (h : Handled d msg result d' [reply]) (hd : d.Sound)
    (hreq : "lload".toList <+: msg.text) (hok : saysLoadFailed reply = false) :
    d'.barcode = some (strip_PCL msg.text 6) := by
  have hprefix := saysLoadFailed_false hok
  generalize hout : [reply] = out at h
  cases h with
  | lload _ =>
    simp only [handleLload] at hout ⊢
    split at hout
    · cases hout
    rename_i hlib
    simp only [hlib]
    cases hb : d.barcode with
    | some barcode =>
      simp only [hb, Option.toList_some, List.cons.injEq, and_true] at hout
      rw [hout] at hprefix
      exact absurd hprefix (alreadyInMouth_failed barcode)
    | none =>
      simp only [hb, Option.toList_some, List.cons.injEq, and_true] at hout
      rw [hout] at hprefix
      cases result with
      | loaded => rfl
      | mismatch => exact absurd hprefix (loadReply_failed _)
      | failed =>
        have hstatus : (d.loadTape .failed).load_status = .TAPE_UNLOADED := hd hb
        simp only [hstatus, if_true] at hprefix
        exact absurd hprefix (loadReply_failed _)
  | load h => exact (starts_disjoint h hreq (by decide)).elim
  | unload h =>
    rcases h with h | h
    all_goals exact (starts_disjoint h hreq (by decide)).elim
  | mountState h => exact (starts_disjoint h hreq (by decide)).elim
  | register h => cases hout
  | ignored h => cases hout

/-- An empty mouth stays empty of anything loaded. -/
theorem Handled.sound (h : Handled d msg result d' out) (hd : d.Sound) : d'.Sound := by
  cases h with
  | lload h =>
    simp only [handleLload]
    split
    · exact hd
    · cases hb : d.barcode with
      | some barcode => exact hd
      | none =>
        cases result with
        | loaded => intro hnone; cases hnone
        | mismatch => intro _; rfl
        | failed => intro _; exact hd hb
  | load h => intro hnone; cases hnone
  | unload h => intro _; rfl
  | mountState h => exact hd
  | register h => exact hd
  | ignored h => exact hd

/-- The host does not load a drive with an empty mouth. -/
theorem Sound.host (hd : d.Sound) (command : HostCommand) : (d.host command).1.Sound := by
  cases command with
  | load result =>
    simp only [TapeDrive.host]
    split
    · rename_i h
      intro hnone
      have hnone : d.barcode = none := by
        cases result <;> exact hnone
      rw [hnone] at h
      exact absurd h.2 (by decide)
    · exact hd
  | unload =>
    simp only [TapeDrive.host]
    split
    · intro _; rfl
    · exact hd
  | finish_mount =>
    simp only [TapeDrive.host]
    split
    · rename_i h
      intro hnone
      rw [hd hnone] at h
      cases h
    · exact hd

/-- The host leaves the bar code and the registration alone. -/
theorem host_keeps (d : TapeDrive) (command : HostCommand) :
    (d.host command).1.barcode = d.barcode ∧ (d.host command).1.inLibrary = d.inLibrary := by
  cases command with
  | load result =>
    simp only [TapeDrive.host]
    split
    · cases result <;> exact ⟨rfl, rfl⟩
    · exact ⟨rfl, rfl⟩
  | unload =>
    simp only [TapeDrive.host]
    split <;> exact ⟨rfl, rfl⟩
  | finish_mount =>
    simp only [TapeDrive.host]
    split <;> exact ⟨rfl, rfl⟩

/-- The host makes a drive tell of ejected cartridges, and of nothing else. -/
theorem host_tells (d : TapeDrive) (command : HostCommand) :
    ∀ t ∈ (d.host command).2.toList, t = msg_eject := by
  intro t ht
  cases command with
  | load result =>
    simp only [TapeDrive.host] at ht
    split at ht <;> cases ht
  | unload =>
    simp only [TapeDrive.host] at ht
    split at ht
    · simp only [unloadTape] at ht
      split at ht
      · exact List.mem_singleton.mp ht
      · cases ht
    · cases ht
  | finish_mount =>
    simp only [TapeDrive.host] at ht
    cases ht

end TapeDrive

end Mhvtl
