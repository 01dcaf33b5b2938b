import Mhvtl.Smc.Agreement

/-!
# Undisturbed moves

Every step that disturbs no move keeps the exchange between the library and its
drives in order. So in every run of such steps the protocol is kept, and the
drives hold what the library shows.
-/

namespace Mhvtl

open Interact TapeDrive

variable {P : Parties} {s s' : System} {l : Event} {ls : List Event}

/-- Moves into a drive are from somewhere else, of cartridges with plain bar codes. -/
def PlainMoves (s : System) : Prop :=
  ∀ smc cdb p awaited, s.library = .moving smc cdb p awaited →
    (destDrive smc cdb).isSome = true → cdb.source ≠ cdb.destination ∧ SourcePlain smc cdb

/-- What holds between any two steps. -/
structure InOrder (P : Parties) (s : System) : Prop where
  /-- Messages are numbered. -/
  numbered : Numbered s
  /-- Nothing is loaded into an empty mouth. -/
  sound : SoundDrives P s
  /-- Moves into drives are plain. -/
  plain : PlainMoves s
  /-- The library, its messages and those of its drives fit together. -/
  exchange : Exchange P s s.library

/-- The same messages have the same requests in them. -/
theorem NoRequest.same (h : NoRequest P s) (hinbox : s'.inbox = s.inbox) : NoRequest P s' := by
  intro d hd x hx
  rw [hinbox] at hx
  exact h d hd x hx

/-- The same messages have the same notices in them. -/
theorem EjectsOnly.same (h : EjectsOnly P s) (hinbox : s'.inbox = s.inbox) : EjectsOnly P s' := by
  intro x hx
  rw [hinbox] at hx
  exact h x hx

/-- The same drives hold the same. -/
theorem heldBy_same {dest : Option ℕ} (hdrives : s'.drives = s.drives) :
    heldBy s' dest = heldBy s dest := by
  simp only [heldBy, hdrives]

/-- Another drive than the destination got on. -/
theorem heldBy_setDrive {d : ℕ} {drive : TapeDrive} {dest : Option ℕ} {word : Option Text}
    (hne : dest ≠ some d) (hdrives : s'.drives = (s.setDrive d drive).drives) :
    Drift word (heldBy s dest) (heldBy s' dest) := by
  intro t _ hbefore
  cases dest with
  | none => cases hbefore
  | some d' =>
    have hd : d' ≠ d := fun heq => hne (by rw [heq])
    have hbarcode : (s.drives d').barcode = some t := hbefore
    simp [heldBy, hdrives, System.setDrive, hd, hbarcode]

section Library

variable {smc : Smc} {cdb : Cdb} {awaited : Option (ℕ × ℕ)}

/-- The idle library answers no drive, so its drives get no request. -/
theorem Exchange.libraryHandles {smc' : Smc} {e : Envelope} {rest : List Envelope}
    {out : List Text} {es : List Envelope} (h : Exchange P s (.idle smc))
    (hnext : s.inbox P.library_id = e :: rest) (hrun : smc.processMessageQ e.msg = some (smc', out))
    (hes : es = System.letters P.library_id e.msg.snd_id none s.posted out)
    (hq : QueueStep P s (.libraryHandles e es) s') : Exchange P s' (.idle smc') := by
  cases h with
  | idle hwired hmail hejects =>
    refine Exchange.idle ((Keeps.processMessageQ hrun).wired hwired) ?_ ?_
    · intro d hd x hx hsnd
      rcases hq.mem_cases hx with hold | ⟨hnew, hrcv⟩
      · exact hmail d hd x hold hsnd
      · have hnew : x ∈ System.letters P.library_id e.msg.snd_id none s.posted out := hes ▸ hnew
        have hletter := System.letters_mem hnew
        have hdrive : e.msg.snd_id ∈ P.drive_ids := by
          rw [← hletter.1, hrcv]
          exact hd
        have htext := hejects e (hnext ▸ List.mem_cons_self) hdrive
        rw [Smc.processMessageQ_eject htext hrun] at hnew
        cases hnew
    · intro x hx hsnd
      rcases hq.mem_cases hx with hold | ⟨hnew, _⟩
      · exact hejects x hold hsnd
      · have hnew : x ∈ System.letters P.library_id e.msg.snd_id none s.posted out := hes ▸ hnew
        rw [(System.letters_mem hnew).2.1] at hsnd
        exact absurd hsnd P.apart

/-- A move begins with nothing under way. -/
theorem Exchange.moveBegins (h : Exchange P s (.idle smc)) (cdb : Cdb)
    (hinbox : s'.inbox = s.inbox) :
    Exchange P s' (.moving smc cdb (smc.smc_move_medium cdb) none) := by
  cases h with
  | idle hwired hmail hejects =>
    exact Exchange.quiet hwired (hmail.same hinbox) (hejects.same hinbox)
      fun held _ => talk_smc_move_medium hwired cdb held

/-- A request goes to a drive, and the library waits for its answer next. -/
theorem Exchange.libraryAsks {cmd : Text} {rcv_id : ℕ} {k : Unit → Proc Moved} {es : List Envelope}
    (h : Exchange P s (.moving smc cdb (.act (.send_msg cmd rcv_id) k) awaited))
    (hempty : s.inbox P.library_id = [])
    (hes : es = System.letters P.library_id rcv_id none s.posted [cmd])
    (hq : QueueStep P s (.libraryAsks es) s') (hdrives : s'.drives = s.drives) :
    Exchange P s' (.moving smc cdb (k ()) (some (rcv_id, s.posted))) := by
  cases h with
  | quiet hwired hmail hejects hfollows =>
    have hasks : ∀ held, Drift (cargo smc cdb) (heldBy s (destDrive smc cdb)) held →
        (rcv_id ∈ P.drive_ids ∧ Request cmd ∧ cmd.length ≤ MAXTEXTLEN ∧
          Brings (destDrive smc cdb) (cargo smc cdb) rcv_id cmd) ∧
        wp (talking P (destDrive smc cdb) (cargo smc cdb)) (CommandEnds smc cdb) (k ())
          ⟨some (rcv_id, cmd), held⟩ := by
      intro held hheld
      obtain ⟨⟨_, hallowed⟩, hnext⟩ := hfollows held hheld
      exact ⟨hallowed, hnext () _ rfl⟩
    obtain ⟨⟨hd, hreq, hlen, hbrings⟩, hnext⟩ := hasks _ fun _ _ hbefore => hbefore
    rw [System.letters_singleton hlen] at hes
    subst hes
    have hfollows' : Follows P s' smc cdb (some (rcv_id, cmd)) (k ()) := by
      intro held hheld
      rw [heldBy_same hdrives] at hheld
      exact (hasks held hheld).2
    have hempty' : s'.inbox P.library_id = [] := by
      rw [hq.inbox_eq (fun e he => nomatch he), hempty]
      intro x hx heq
      cases List.mem_singleton.mp hx
      exact P.apart (heq ▸ hd)
    have hmail' : OneRequest P s' rcv_id s.posted cmd := by
      have hsent : (⟨rcv_id, ⟨P.library_id, cmd⟩, s.posted, none⟩ : Envelope) ∈
          (Event.libraryAsks [⟨rcv_id, ⟨P.library_id, cmd⟩, s.posted, none⟩]).sent :=
        List.mem_cons_self
      refine ⟨_, hq.arrives hsent, rfl, rfl, fun d' hd' y hy hysnd => ?_⟩
      rcases hq.mem_cases hy with hold | ⟨hnew, hrcv⟩
      · exact Or.inl (hmail d' hd' y hold hysnd)
      · cases List.mem_singleton.mp hnew
        exact Or.inr ⟨hrcv.symm, rfl⟩
    -- with a request under way, nothing but taking a message is in order
    generalize k () = p at hnext hfollows' ⊢
    cases p with
    | done r => exact (nomatch hnext.1)
    | act a k' =>
      cases a with
      | send_msg cmd' id => exact (nomatch hnext.1.1)
      | run_command c => exact (nomatch hnext.1)
      | msgrcv => exact Exchange.asked hwired hd hreq hbrings hmail' hempty' hfollows'

/-- The move script is no business of the drives. -/
theorem Exchange.libraryRuns {c : MoveCommand} {k : ℤ → Proc Moved} {code : ℤ}
    (h : Exchange P s (.moving smc cdb (.act (.run_command c) k) awaited))
    (hinbox : s'.inbox = s.inbox) (hdrives : s'.drives = s.drives) :
    Exchange P s' (.moving smc cdb (k code) awaited) := by
  cases h with
  | quiet hwired hmail hejects hfollows =>
    refine Exchange.quiet hwired (hmail.same hinbox) (hejects.same hinbox) fun held hheld => ?_
    rw [heldBy_same hdrives] at hheld
    exact (hfollows held hheld).2 code _ rfl

/-- The library only hears the answer it waits for. -/
theorem Exchange.libraryHears {k : Text → Proc Moved} {e : Envelope} {rest : List Envelope}
    (h : Exchange P s (.moving smc cdb (.act .msgrcv k) awaited))
    (hnext : s.inbox P.library_id = e :: rest)
    (hq : QueueStep P s (.libraryHears e awaited) s') (hdrives : s'.drives = s.drives) :
    (∃ d n, awaited = some (d, n) ∧ d ∈ P.drive_ids ∧ e.msg.snd_id = d ∧ e.answers = some n) ∧
      Exchange P s' (.moving smc cdb (k e.msg.text) none) := by
  cases h with
  | quiet hwired hmail hejects hfollows =>
    -- without a request under way nobody waits
    have hwaits := (hfollows _ fun _ _ hbefore => hbefore).1
    cases hwaits
  | asked hwired hd hreq hbrings hmail hempty hfollows =>
    rw [hempty] at hnext
    cases hnext
  | @answered _ _ _ d n _ _ hwired hd hmail hanswer hsnd hans hejects hfollows =>
    cases hanswer.symm.trans hnext
    refine ⟨⟨d, n, rfl, hd, hsnd, hans⟩, Exchange.quiet hwired ?_ ?_ ?_⟩
    · intro d' hd' x hx
      rcases hq.mem_cases hx with hold | ⟨hnew, _⟩
      · exact hmail d' hd' x hold
      · cases hnew
    · obtain ⟨left, hnew, ⟨_, hnone⟩ | ⟨x, _, hold⟩⟩ := hq.inbox P.library_id
      · exact absurd rfl (hnone e)
      · cases hnext.symm.trans hold
        have hbox : s'.inbox P.library_id = rest := hnew.trans (List.append_nil rest)
        intro x hx hxsnd
        rw [hbox] at hx
        exact hejects x hx hxsnd
    · intro held hheld
      rw [heldBy_same hdrives] at hheld
      exact hfollows held hheld

/-- Elements keep their places in a move. -/
theorem TouchesAt.places {smc' : Smc} (h : TouchesAt smc cdb smc') (k : ℕ) :
    (smc'.slots[k]?).map Slot.place = (smc.slots[k]?).map Slot.place := by
  rcases h with rfl | ⟨_, _, _, _, _, _, ht⟩
  · rfl
  · exact ht.places k

/-- The drives of the inventory are still drives after a move. -/
theorem TouchesAt.wired {smc' : Smc} (h : TouchesAt smc cdb smc') (hw : Wired P smc) :
    Wired P smc' := by
  intro sp' hsp' drv hdrive
  obtain ⟨k, hk⟩ := List.mem_iff_getElem?.mp hsp'
  have hplace := h.places k
  rw [hk, Option.map_some, eq_comm, Option.map_eq_some_iff] at hplace
  obtain ⟨sp, hsp, heq⟩ := hplace
  simp only [Slot.place, Prod.mk.injEq] at heq
  exact hw sp (List.mem_of_getElem? hsp) drv (heq.2.trans hdrive)

/-- A move ends with nothing under way. -/
theorem Exchange.moveEnds {r : Moved} (h : Exchange P s (.moving smc cdb (.done r) awaited))
    (hinbox : s'.inbox = s.inbox) :
    CommandEnds smc cdb ⟨none, heldBy s (destDrive smc cdb)⟩ r ∧
      Exchange P s' ((r.map fun x => LibraryPhase.idle x.1).getD .gone) := by
  cases h with
  | quiet hwired hmail hejects hfollows =>
    have hends := hfollows _ fun _ _ hbefore => hbefore
    refine ⟨hends, ?_⟩
    cases r with
    | none => exact Exchange.gone
    | some x =>
      obtain ⟨smc', status⟩ := x
      exact Exchange.idle ((hends.2 smc' status rfl).1.wired hwired) (hmail.same hinbox)
        (hejects.same hinbox)

end Library

section Drives

variable {d : ℕ} {drive : TapeDrive} {es : List Envelope}

/-- The answer of the drive that the library asked is on its way to it. -/
theorem Exchange.driveAnswers {e : Envelope} {rest : List Envelope} {out : List Text}
    {result : LoadResult} {phase : LibraryPhase} (h : Exchange P s phase) (hs : InOrder P s)
    (hd : d ∈ P.drive_ids) (hnext : s.inbox d = e :: rest) (hsnd : e.msg.snd_id = P.library_id)
    (hregister : ¬ "Register".toList <+: e.msg.text)
    (hknown : "lload".toList <+: e.msg.text → (s.drives d).inLibrary = true)
    (hhandled : Handled (s.drives d) e.msg result drive out)
    (hes : es = System.letters d e.msg.snd_id (some e.serial) s.posted out)
    (hq : QueueStep P s (.driveHandles d e es) s')
    (hdrives : s'.drives = (s.setDrive d drive).drives) : Exchange P s' phase := by
  have hhead : e ∈ s.inbox d := hnext ▸ List.mem_cons_self
  cases h with
  | idle hwired hmail hejects => exact absurd (hmail d hd e hhead hsnd) hregister
  | gone => exact Exchange.gone
  | quiet hwired hmail hejects hfollows => exact absurd (hmail d hd e hhead hsnd) hregister
  | answered hwired hd' hmail hanswer hsnd' hans hejects hfollows =>
    exact absurd (hmail d hd e hhead hsnd) hregister
  | @asked smc cdb k d' n text hwired hd' hreq hbrings hmail hempty hfollows =>
    obtain ⟨x, hx, rfl, hmsg, honly⟩ := hmail
    obtain ⟨rfl, rfl⟩ : d = d' ∧ e = x := by
      rcases honly d hd e hhead hsnd with hreg | hsame
      · exact absurd hreg hregister
      · exact hsame
    have htext : e.msg.text = text := by rw [hmsg]
    obtain ⟨reply, rfl, hlen⟩ := hhandled.answers (htext ▸ hreq) hknown
    rw [System.letters_singleton hlen, hsnd] at hes
    subst hes
    obtain ⟨left, hnew, ⟨_, hnone⟩ | ⟨y, htook, hold⟩⟩ := hq.inbox d
    · exact absurd rfl (hnone e)
    cases hnext.symm.trans hold
    have hgone : e ∉ s'.inbox d := by
      intro hin
      have hnodup := hs.numbered.nodup d
      rw [hnext, List.nodup_cons] at hnodup
      rw [hnew, List.mem_append, List.mem_filter] at hin
      rcases hin with hin | ⟨hin, hrcv⟩
      · exact hnodup.1 hin
      · have hrcv : P.library_id = d := by
          rw [List.mem_singleton.mp hin] at hrcv
          exact beq_iff_eq.mp hrcv
        exact P.apart (hrcv ▸ hd)
    have hmail' : NoRequest P s' := by
      intro d' hd' y hy hysnd
      rcases hq.mem_cases hy with hold' | ⟨hnew', hrcv⟩
      · rcases honly d' hd' y hold' hysnd with hreg | ⟨rfl, rfl⟩
        · exact hreg
        · exact absurd hy hgone
      · have hrcv : P.library_id = d' := by
          rw [List.mem_singleton.mp hnew'] at hrcv
          exact hrcv
        exact absurd (hrcv ▸ hd') P.apart
    have hanswer : s'.inbox P.library_id = [⟨P.library_id, ⟨d, reply⟩, s.posted, some e.serial⟩] := by
      obtain ⟨left', hnew', ⟨hold', _⟩ | ⟨y, htook', _⟩⟩ := hq.inbox P.library_id
      · rw [hempty] at hold'
        rw [hnew', ← hold']
        simp [Event.sent]
      · cases htook'
        exact absurd hd P.apart
    refine Exchange.answered hwired hd hmail' hanswer rfl rfl (fun x hx => absurd hx List.not_mem_nil)
      fun held hheld => ?_
    refine (hfollows _ fun _ _ hbefore => hbefore).2 reply ⟨none, held⟩ ⟨rfl, fun id cmd heq => ?_⟩
    cases heq
    intro hdest hlload hok
    -- the drive holds what it says, and does not lose it before the library hears of it
    have hloaded : heldBy s' (destDrive smc cdb) = some (strip_PCL e.msg.text 6) := by
      have hword : "lload".toList <+: e.msg.text :=
        (List.prefix_append "lload".toList [' ']).trans (htext ▸ hlload)
      simpa [heldBy, hdest, hdrives, System.setDrive] using
        hhandled.loads (hs.sound d hd) hword hok
    rw [htext] at hloaded
    exact hheld _ (hbrings hdest hlload) hloaded

/-- A drive handles a message, and leaves the cartridge alone that a move goes to. -/
theorem Exchange.driveHandles {e : Envelope} {rest : List Envelope} {out : List Text}
    {result : LoadResult} (hs : InOrder P s)
    (hpeace : Peaceful P s (.driveHandles d e es)) (hd : d ∈ P.drive_ids)
    (hnext : s.inbox d = e :: rest) (hhandled : Handled (s.drives d) e.msg result drive out)
    (hes : es = System.letters d e.msg.snd_id (some e.serial) s.posted out)
    (hq : QueueStep P s (.driveHandles d e es) s')
    (hdrives : s'.drives = (s.setDrive d drive).drives) : Exchange P s' s.library := by
  by_cases hasked : e.msg.snd_id = P.library_id ∧ ¬ "Register".toList <+: e.msg.text
  · exact hs.exchange.driveAnswers hs hd hnext hasked.1 hasked.2 hpeace.1 hhandled hes hq hdrives
  -- no answer to the library
  have hsilent : ∀ x ∈ es, x.msg.snd_id = d ∧ x.rcv_id ≠ P.library_id := by
    intro x hx
    by_cases hsnd : e.msg.snd_id = P.library_id
    · have hregister : "Register".toList <+: e.msg.text := not_not.mp fun h => hasked ⟨hsnd, h⟩
      rw [hhandled.silent fun hreq => hreq.not_register hregister] at hes
      subst hes
      cases hx
    · rw [hes] at hx
      have hletter := System.letters_mem hx
      exact ⟨hletter.2.1, hletter.1 ▸ hsnd⟩
  refine hs.exchange.frame hq ?_ ?_ ?_ ?_ ?_ ?_
  · intro x hx
    cases hx
    exact P.apart hd
  · exact fun _ _ x hx => (hsilent x hx).2
  · intro x hx heq
    rw [(hsilent x hx).1] at heq
    exact P.apart (heq ▸ hd)
  · exact fun x hx hrcv => absurd hrcv (hsilent x hx).2
  · intro d' _ x hx hsnd
    cases hx
    exact not_not.mp fun h => hasked ⟨hsnd, h⟩
  · intro smc cdb p awaited hphase
    by_cases hdest : destDrive smc cdb = some d
    · intro t hcargo hbefore
      rw [hdest] at hbefore ⊢
      have hbarcode : (s.drives d).barcode = some t := hbefore
      have hheld : heldBy s' (some d) = drive.barcode := by
        simp [heldBy, hdrives, System.setDrive]
      rw [hheld]
      rcases hhandled.barcode with hnone | hsame | hchanges
      · rw [hbarcode] at hnone
        cases hnone
      · exact hsame.trans hbarcode
      · rcases hpeace.2 ⟨smc, cdb, p, awaited, t, hphase, hdest, hcargo, hbarcode⟩ with hsnd | hkeeps
        · have hregister : "Register".toList <+: e.msg.text := not_not.mp fun h => hasked ⟨hsnd, h⟩
          rcases hchanges with hchanges | hchanges | hchanges
          all_goals exact (starts_disjoint hchanges hregister (by decide)).elim
        · exact absurd hchanges hkeeps
    · exact heldBy_setDrive hdest hdrives

/-- A drive obeys its host, which tells the library nothing in a move. -/
theorem Exchange.driveObeys {command : HostCommand} (hs : InOrder P s)
    (hpeace : Peaceful P s (.driveObeys d command es)) (hd : d ∈ P.drive_ids)
    (hes : es = System.letters d (s.drives d).library_id none s.posted
      ((s.drives d).host command).2.toList)
    (hq : QueueStep P s (.driveObeys d command es) s')
    (hdrives : s'.drives = (s.setDrive d ((s.drives d).host command).1).drives) :
    Exchange P s' s.library := by
  have hletter : ∀ x ∈ es, x.msg.snd_id = d ∧ x.msg.text = msg_eject := by
    intro x hx
    rw [hes] at hx
    have hmem := System.letters_mem hx
    exact ⟨hmem.2.1, host_tells _ _ _ hmem.2.2.1⟩
  refine hs.exchange.frame hq ?_ hpeace ?_ ?_ ?_ ?_
  · exact fun e he => nomatch he
  · intro x hx heq
    rw [(hletter x hx).1] at heq
    exact P.apart (heq ▸ hd)
  · exact fun x hx _ _ => (hletter x hx).2
  · exact fun d' _ x hx => nomatch hx
  · intro smc cdb p awaited _
    by_cases hdest : destDrive smc cdb = some d
    · intro t _ hbefore
      rw [hdest] at hbefore ⊢
      have hbarcode : (s.drives d).barcode = some t := hbefore
      simp [heldBy, hdrives, System.setDrive, (host_keeps (s.drives d) command).1, hbarcode]
    · exact heldBy_setDrive hdest hdrives

/-- A drive is started again, when no move brought it a cartridge. -/
theorem Exchange.driveRestarts (hs : InOrder P s) (hpeace : ¬ Brought s d)
    (hq : QueueStep P s (.driveRestarts d) s')
    (hdrives : s'.drives = (s.setDrive d drive).drives) : Exchange P s' s.library := by
  refine hs.exchange.frame hq ?_ ?_ ?_ ?_ ?_ ?_
  · exact fun e he => nomatch he
  · exact fun _ _ x hx => nomatch hx
  · exact fun x hx => nomatch hx
  · exact fun x hx => nomatch hx
  · exact fun d' _ x hx => nomatch hx
  · intro smc cdb p awaited hphase
    by_cases hdest : destDrive smc cdb = some d
    · intro t hcargo hbefore
      rw [hdest] at hbefore
      exact absurd ⟨smc, cdb, p, awaited, t, hphase, hdest, hcargo, hbefore⟩ hpeace
    · exact heldBy_setDrive hdest hdrives

end Drives

/-- What the library and its drives say stays in order. -/
theorem InOrder.exchange_step (hs : InOrder P s) (h : PeacefulStep P s l s') :
    Exchange P s' s'.library := by
  obtain ⟨hstep, hpeace⟩ := h
  have hq := hstep.queues
  have hex := hs.exchange
  cases hstep with
  | libraryHandles hphase hnext hrun hes =>
    rw [hphase] at hex
    exact hex.libraryHandles hnext hrun hes hq
  | libraryFails hphase hnext hrun => exact Exchange.gone
  | moveBegins cdb hphase =>
    rw [hphase] at hex
    exact hex.moveBegins cdb rfl
  | libraryAsks hphase hes =>
    rw [hphase] at hex
    exact hex.libraryAsks hpeace hes hq rfl
  | libraryRuns code hphase =>
    rw [hphase] at hex
    exact hex.libraryRuns rfl rfl
  | libraryHears hphase hnext =>
    rw [hphase] at hex
    exact (hex.libraryHears hnext hq rfl).2
  | @moveEnds _ _ r _ hphase =>
    rw [hphase] at hex
    have hsame : (s.setLibrary ((r.map fun x => LibraryPhase.idle x.1).getD .gone)).inbox = s.inbox :=
      rfl
    exact (hex.moveEnds hsame).2
  | @driveHandles d e rest drive out es result hd hnext hrun hes =>
    obtain ⟨drive', out', hrun', hhandled⟩ := processMessageQ_handled (s.drives d) e.msg result
    cases hrun.symm.trans hrun'
    have hkept := Exchange.driveHandles hs hpeace hd hnext hhandled hes hq rfl
    exact hkept
  | driveObeys command hd hes =>
    have hkept := Exchange.driveObeys hs hpeace hd hes hq rfl
    exact hkept
  | driveRestarts hd =>
    have hkept := Exchange.driveRestarts hs hpeace hq rfl
    exact hkept
  | userSends user rcv_id text hlibrary hdrive hes =>
    subst hes
    refine hex.frame hq ?_ hpeace ?_ ?_ ?_ fun _ _ _ _ _ _ _ hbefore => hbefore
    · exact fun e he => nomatch he
    · intro x hx heq
      exact hlibrary ((System.letters_mem hx).2.1.symm.trans heq)
    · intro x hx _ hsnd
      exact absurd ((System.letters_mem hx).2.1 ▸ hsnd) hdrive
    · exact fun d _ x hx => nomatch hx
  | userReads hlibrary hdrive hnext =>
    refine hex.frame hq ?_ ?_ ?_ ?_ ?_ fun _ _ _ _ _ _ _ hbefore => hbefore
    · intro e he
      cases he
      exact hlibrary rfl
    · exact fun _ _ x hx => nomatch hx
    · exact fun x hx => nomatch hx
    · exact fun x hx => nomatch hx
    · intro d hd x hx
      cases hx
      exact absurd hd hdrive

/-- Moves into drives stay plain. -/
theorem InOrder.plain_step (hs : InOrder P s) (h : PeacefulStep P s l s') : PlainMoves s' := by
  obtain ⟨hstep, hpeace⟩ := h
  -- the move goes on, or there is none
  have hgoes : ∀ {smc cdb p awaited p' awaited'}, s.library = .moving smc cdb p awaited →
      s'.library = .moving smc cdb p' awaited' → PlainMoves s' := by
    intro smc cdb p awaited p' awaited' hold hnew smc₁ cdb₁ p₁ awaited₁ heq
    cases hnew.symm.trans heq
    exact hs.plain _ _ _ _ hold
  have hnone : (∀ smc cdb p awaited, s'.library ≠ .moving smc cdb p awaited) → PlainMoves s' :=
    fun hne smc cdb p awaited heq => absurd heq (hne smc cdb p awaited)
  cases hstep with
  | libraryHandles hphase hnext hrun hes => exact hnone fun _ _ _ _ heq => nomatch heq
  | libraryFails hphase hnext hrun => exact hnone fun _ _ _ _ heq => nomatch heq
  | moveBegins cdb hphase =>
    intro smc₁ cdb₁ p₁ awaited₁ heq
    cases heq
    exact hpeace
  | libraryAsks hphase hes => exact hgoes hphase rfl
  | libraryRuns code hphase => exact hgoes hphase rfl
  | libraryHears hphase hnext => exact hgoes hphase rfl
  | @moveEnds _ _ r _ hphase =>
    refine hnone fun smc cdb p awaited heq => ?_
    cases r with
    | none => cases heq
    | some x => cases heq
  | driveHandles result hd hnext hrun hes => exact hs.plain
  | driveObeys command hd hes => exact hs.plain
  | driveRestarts hd => exact hs.plain
  | userSends user rcv_id text hlibrary hdrive hes => exact hs.plain
  | userReads hlibrary hdrive hnext => exact hs.plain

/-- Steps that disturb no move keep everything in order. -/
theorem InOrder.step (hs : InOrder P s) (h : PeacefulStep P s l s') : InOrder P s' where
  numbered := hs.numbered.step h.1.queues
  sound := hs.sound.step h.1
  plain := hs.plain_step h
  exchange := hs.exchange_step h

/-- Everything is in order at the start. -/
theorem Started.inOrder (h : Started P s) : InOrder P s := by
  obtain ⟨smc, hidle, hwired⟩ := h.library
  constructor
  · constructor
    · intro id e he
      by_cases hid : id ∈ P.drive_ids
      · obtain ⟨x, hx, _, hserial⟩ := h.registered id hid
        rw [hx] at he
        rw [List.mem_singleton.mp he]
        exact hserial
      · rw [h.others id hid] at he
        cases he
    · intro id
      by_cases hid : id ∈ P.drive_ids
      · obtain ⟨x, hx, _, _⟩ := h.registered id hid
        rw [hx]
        exact List.nodup_singleton x
      · rw [h.others id hid]
        exact List.nodup_nil
  · intro d hd
    rw [h.drives d hd]
    exact fun _ => rfl
  · intro smc' cdb p awaited heq
    rw [hidle] at heq
    cases heq
  · rw [hidle]
    refine Exchange.idle hwired ?_ ?_
    · intro d hd x hx _
      obtain ⟨y, hy, hmsg, _⟩ := h.registered d hd
      rw [hy] at hx
      refine ⟨[], ?_⟩
      rw [List.mem_singleton.mp hx, hmsg, List.append_nil]
    · intro x hx
      rw [h.others _ P.apart] at hx
      cases hx

/-- Nothing is recorded at the start. -/
theorem Started.recorded (h : Started P s) : Recorded P s [] := by
  constructor
  · intro x hx
    cases hx
  · intro x hx
    cases hx
  · intro d hd x hx hreq
    obtain ⟨y, hy, hmsg, _⟩ := h.registered d hd
    rw [hy] at hx
    rw [List.mem_singleton.mp hx, hmsg] at hreq
    exact absurd (List.prefix_refl _) hreq.not_register
  · intro x hx
    cases hx

end Mhvtl
