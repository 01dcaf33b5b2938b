import Mhvtl.Smc.Answers
import Mhvtl.Smc.Exchange
import Mhvtl.Smc.Inventories

/-!
# What the library and its drives agree on

While the library waits in a move it hears the drive it asked, as long as nobody
else sends it a message meanwhile. Then each move is an exchange of requests and
their answers, and after one that ended well in a drive the drive holds the
cartridge that the library's element shows, until something else is done to it.
-/

namespace Mhvtl

open Interact TapeDrive

section

variable (P : Parties)

/-- The cartridge of the source has a plain bar code. -/
def SourcePlain (smc : Smc) (cdb : Cdb) : Prop :=
  ∀ i src barcode, smc.slot2struct cdb.source = some (i, src) → smc.barcode i = some barcode →
    barcode.Plain

/-- A drive holds the cartridge that a move under way brings to it. -/
def Brought (s : System) (d : ℕ) : Prop :=
  ∃ smc cdb p awaited t, s.library = .moving smc cdb p awaited ∧ destDrive smc cdb = some d ∧
    cargo smc cdb = some t ∧ (s.drives d).barcode = some t

/-- Nobody disturbs a move: no message is there for the library when it asks a drive, and
none arrives before the answer; the drive knows the library; and a drive that got its
cartridge in a move keeps it until the move ends. Moves into a drive are from somewhere
else, and of cartridges with plain bar codes. -/
def Peaceful (s : System) : Event → Prop
  | .moveBegins smc cdb =>
    (destDrive smc cdb).isSome = true → cdb.source ≠ cdb.destination ∧ SourcePlain smc cdb
  | .libraryAsks _ => s.inbox P.library_id = []
  | .userSends sent => s.library.Awaits → s.inbox P.library_id = [] →
    ∀ e ∈ sent, e.rcv_id ≠ P.library_id
  | .driveObeys _ _ sent => s.library.Awaits → s.inbox P.library_id = [] →
    ∀ e ∈ sent, e.rcv_id ≠ P.library_id
  | .driveHandles d e _ => ("lload".toList <+: e.msg.text → (s.drives d).inLibrary = true) ∧
    (Brought s d → e.msg.snd_id = P.library_id ∨ ¬ ChangesCartridge e.msg.text)
  | .driveRestarts d => ¬ Brought s d
  | _ => True

/-- A step that disturbs no move. -/
def PeacefulStep (s : System) (l : Event) (s' : System) : Prop :=
  ProtocolStep P s l s' ∧ Peaceful P s l

/-- Something is done to a drive: it handles a message, ejects for its host or is started
again, or a move begins from or to its element. -/
def Event.Involves (d : ℕ) : Event → Prop
  | .moveBegins smc cdb => ∃ addr i sp drv, (addr = cdb.source ∨ addr = cdb.destination) ∧
    smc.slot2struct addr = some (i, sp) ∧ sp.drive = some drv ∧ drv.drv_id = d
  | .driveHandles d' _ _ => d' = d
  | .driveObeys d' command _ => d' = d ∧ command = .unload
  | .driveRestarts d' => d' = d
  | _ => False

/-- The library and its drives keep their protocol in a run that ends in a state. -/
structure ProtocolKept (ls : List Event) (s : System) : Prop where
  /-- In a move the library only hears the drive it asked, and that drive's answer to
  what it asked. -/
  heard : ∀ e awaited, Event.libraryHears e awaited ∈ ls →
    ∃ d n, awaited = some (d, n) ∧ d ∈ P.drive_ids ∧ e.msg.snd_id = d ∧ e.answers = some n
  /-- Every message to the library waits, was handled, or was heard. -/
  kept : ∀ e ∈ sentIn ls, e.rcv_id = P.library_id → e ∈ s.inbox P.library_id ∨
    ∃ l ∈ ls, l.took P = some (P.library_id, e)
  /-- Every request to a drive waits without an answer, or was answered once, to its sender. -/
  answered : ∀ x ∈ sentIn ls, x.rcv_id ∈ P.drive_ids → Request x.msg.text →
    x ∈ s.inbox x.rcv_id ∧ answersTo x.serial ls = 0 ∨
      x ∉ s.inbox x.rcv_id ∧ answersTo x.serial ls = 1 ∧ AnswerSent x ls
  /-- After a move that ended well in a drive to which nothing was done since, the drive
  holds the cartridge whose bar code the element shows, up to blanks after it. -/
  agrees : ∀ pre smc cdb smc' status post,
    ls = pre ++ Event.moveEnds smc cdb (some (smc', status)) :: post →
    status.sam_stat = SAM_STAT_GOOD → cdb 11 = 0 → ∀ d, destDrive smc cdb = some d →
    (∀ l ∈ post, ¬ l.Involves d) → ∀ smc'', s.library.inventory = some smc'' →
      ∃ j dst t n, smc.slot2struct cdb.destination = some (j, dst) ∧
        (s.drives d).barcode = some t ∧ smc''.barcode j = some (t ++ List.replicate n ' ')

/-- The library's messages to its drives are those it registered with. -/
def NoRequest (s : System) : Prop :=
  ∀ d ∈ P.drive_ids, ∀ x ∈ s.inbox d, x.msg.snd_id = P.library_id → "Register".toList <+: x.msg.text

/-- One request of the library waits. -/
def OneRequest (s : System) (d n : ℕ) (text : Text) : Prop :=
  ∃ x ∈ s.inbox d, x.serial = n ∧ x.msg = ⟨P.library_id, text⟩ ∧
    ∀ d' ∈ P.drive_ids, ∀ y ∈ s.inbox d', y.msg.snd_id = P.library_id →
      "Register".toList <+: y.msg.text ∨ d' = d ∧ y = x

/-- Drives only tell of ejected cartridges. -/
def EjectsOnly (s : System) : Prop :=
  ∀ x ∈ s.inbox P.library_id, x.msg.snd_id ∈ P.drive_ids → x.msg.text = msg_eject

/-- What a drive may hold after a while: anything, but what a move brought to it is kept. -/
def Drift (cargo before after : Option Text) : Prop :=
  ∀ t, cargo = some t → before = some t → after = some t

/-- What the drive that a move goes to holds. -/
def heldBy (s : System) (dest : Option ℕ) : Option Text := dest.bind fun d => (s.drives d).barcode

/-- What is left of a move is in order, whatever its drive holds by then. -/
def Follows (s : System) (smc : Smc) (cdb : Cdb) (asked : Option (ℕ × Text)) (p : Proc Moved) :
    Prop :=
  ∀ held, Drift (cargo smc cdb) (heldBy s (destDrive smc cdb)) held →
    wp (talking P (destDrive smc cdb) (cargo smc cdb)) (CommandEnds smc cdb) p ⟨asked, held⟩

/-- The library, its messages and those of its drives fit together. -/
inductive Exchange (s : System) : LibraryPhase → Prop where
  /-- Between commands. -/
  | idle {smc : Smc} (hwired : Wired P smc) (hmail : NoRequest P s) (hejects : EjectsOnly P s) :
      Exchange s (.idle smc)
  /-- After the end. -/
  | gone : Exchange s .gone
  /-- In a move, with nothing under way. -/
  | quiet {smc : Smc} {cdb : Cdb} {p : Proc Moved} (hwired : Wired P smc) (hmail : NoRequest P s)
      (hejects : EjectsOnly P s) (hfollows : Follows P s smc cdb none p) :
      Exchange s (.moving smc cdb p none)
  /-- In a move, with a request under way. -/
  | asked {smc : Smc} {cdb : Cdb} {k : Text → Proc Moved} {d n : ℕ} {text : Text}
      (hwired : Wired P smc) (hd : d ∈ P.drive_ids) (hreq : Request text)
      (hbrings : Brings (destDrive smc cdb) (cargo smc cdb) d text)
      (hmail : OneRequest P s d n text) (hempty : s.inbox P.library_id = [])
      (hfollows : Follows P s smc cdb (some (d, text)) (.act .msgrcv k)) :
      Exchange s (.moving smc cdb (.act .msgrcv k) (some (d, n)))
  /-- In a move, with an answer under way. -/
  | answered {smc : Smc} {cdb : Cdb} {k : Text → Proc Moved} {d n : ℕ} {e : Envelope}
      {rest : List Envelope} (hwired : Wired P smc) (hd : d ∈ P.drive_ids) (hmail : NoRequest P s)
      (hanswer : s.inbox P.library_id = e :: rest) (hsnd : e.msg.snd_id = d)
      (hans : e.answers = some n)
      (hejects : ∀ x ∈ rest, x.msg.snd_id ∈ P.drive_ids → x.msg.text = msg_eject)
      (hfollows : Follows P s smc cdb none (k e.msg.text)) :
      Exchange s (.moving smc cdb (.act .msgrcv k) (some (d, n)))

end

variable {P : Parties} {s s' : System} {l : Event}

/-- What follows does not depend on what the drive drifts to. -/
theorem Follows.drift {smc : Smc} {cdb : Cdb} {asked : Option (ℕ × Text)} {p : Proc Moved}
    (h : Follows P s smc cdb asked p) (hdrift : Drift (cargo smc cdb)
      (heldBy s (destDrive smc cdb)) (heldBy s' (destDrive smc cdb))) :
    Follows P s' smc cdb asked p :=
  fun held hheld => h held fun t hcargo hbefore => hheld t hcargo (hdrift t hcargo hbefore)

/-- Steps of others leave the exchange alone: while the library waits they send it nothing,
they take no request of the library, and the drive that a move goes to drifts. -/
theorem Exchange.frame {phase : LibraryPhase} (h : Exchange P s phase) (hq : QueueStep P s l s')
    (htook : ∀ e, l.took P ≠ some (P.library_id, e))
    (hawaits : phase.Awaits → s.inbox P.library_id = [] → ∀ x ∈ l.sent, x.rcv_id ≠ P.library_id)
    (hsent : ∀ x ∈ l.sent, x.msg.snd_id ≠ P.library_id)
    (hejects : ∀ x ∈ l.sent, x.rcv_id = P.library_id → x.msg.snd_id ∈ P.drive_ids →
      x.msg.text = msg_eject)
    (hrequests : ∀ d ∈ P.drive_ids, ∀ x, l.took P = some (d, x) → x.msg.snd_id = P.library_id →
      "Register".toList <+: x.msg.text)
    (hheld : ∀ smc cdb p awaited, phase = .moving smc cdb p awaited →
      Drift (cargo smc cdb) (heldBy s (destDrive smc cdb)) (heldBy s' (destDrive smc cdb))) :
    Exchange P s' phase := by
  have hmail : ∀ d, ∀ x ∈ s'.inbox d, x.msg.snd_id = P.library_id → x ∈ s.inbox d := by
    intro d x hx hsnd
    rcases hq.mem_cases hx with hold | ⟨hnew, _⟩
    · exact hold
    · exact absurd hsnd (hsent x hnew)
  have hnone : NoRequest P s → NoRequest P s' :=
    fun hno d hd x hx hsnd => hno d hd x (hmail d x hx hsnd) hsnd
  have honly : EjectsOnly P s → EjectsOnly P s' := by
    intro hej x hx hsnd
    rcases hq.mem_cases hx with hold | ⟨hnew, hrcv⟩
    · exact hej x hold hsnd
    · exact hejects x hnew hrcv hsnd
  cases h with
  | idle hwired hno hej => exact Exchange.idle hwired (hnone hno) (honly hej)
  | gone => exact Exchange.gone
  | quiet hwired hno hej hfollows =>
    exact Exchange.quiet hwired (hnone hno) (honly hej) (hfollows.drift (hheld _ _ _ _ rfl))
  | asked hwired hd hreq hbrings hone hempty hfollows =>
    have hempty' : s'.inbox P.library_id = [] := by
      rw [hq.inbox_eq htook (hawaits trivial hempty), hempty]
    refine Exchange.asked hwired hd hreq hbrings ?_ hempty' (hfollows.drift (hheld _ _ _ _ rfl))
    obtain ⟨x, hx, hserial, hmsg, honly⟩ := hone
    refine ⟨x, ?_, hserial, hmsg, fun d' hd' y hy hysnd => ?_⟩
    · rcases hq.stays_or_taken hx with hstays | htaken
      · exact hstays
      · have hregister := hrequests _ hd x htaken (by rw [hmsg])
        rw [hmsg] at hregister
        exact absurd hregister hreq.not_register
    · exact honly d' hd' y (hmail d' y hy hysnd) hysnd
  | @answered _ _ _ d n e rest hwired hd hno hanswer hsnd hans hej hfollows =>
    obtain ⟨left, hnew, ⟨hold, _⟩ | ⟨x, htaken, _⟩⟩ := hq.inbox P.library_id
    · rw [← hold, hanswer, List.cons_append] at hnew
      refine Exchange.answered hwired hd (hnone hno) hnew hsnd hans (fun x hx hxsnd => ?_)
        (hfollows.drift (hheld _ _ _ _ rfl))
      rw [List.mem_append, List.mem_filter] at hx
      rcases hx with hx | ⟨hx, hrcv⟩
      · exact hej x hx hxsnd
      · exact hejects x hx (beq_iff_eq.mp hrcv) hxsnd
    · exact absurd htaken (htook x)

/-- Messages of the library leave the drives' elements and their cartridges alone. -/
structure Keeps (smc smc' : Smc) : Prop where
  /-- There are no new drives. -/
  drives : ∀ (k : ℕ) (sp' : Slot) (drv : DriveInfo), smc'.slots[k]? = some sp' →
    sp'.drive = some drv → ∃ sp, smc.slots[k]? = some sp ∧ sp.drive = some drv
  /-- Drives' elements stay, with their cartridges. -/
  elements : ∀ (k : ℕ) (sp : Slot) (drv : DriveInfo), smc.slots[k]? = some sp →
    sp.drive = some drv →
      ∃ sp', smc'.slots[k]? = some sp' ∧ sp'.drive = some drv ∧ sp'.media = sp.media
  /-- Cartridges keep their bar codes. -/
  barcodes : ∀ (m : ℕ) (mp : MediaInfo), smc.media_list[m]? = some mp →
    ∃ mp', smc'.media_list[m]? = some mp' ∧ mp'.barcode = mp.barcode

namespace Keeps

variable {smc smc' : Smc}

/-- Nothing changed. -/
theorem refl (smc : Smc) : Keeps smc smc :=
  ⟨fun _ sp' _ h hd => ⟨sp', h, hd⟩, fun _ sp _ h hd => ⟨sp, h, hd, rfl⟩, fun _ mp h => ⟨mp, h, rfl⟩⟩

/-- Status bits changed. -/
theorem mapSlots {f : Slot → Slot} (hslots : smc'.slots = smc.slots.map f)
    (hmedia : smc'.media_list = smc.media_list)
    (hf : ∀ sp, (f sp).drive = sp.drive ∧ (f sp).media = sp.media) : Keeps smc smc' := by
  constructor
  · intro k sp' drv h hd
    rw [hslots, List.getElem?_map, Option.map_eq_some_iff] at h
    obtain ⟨sp, hsp, rfl⟩ := h
    exact ⟨sp, hsp, (hf sp).1 ▸ hd⟩
  · intro k sp drv h hd
    refine ⟨f sp, ?_, (hf sp).1.trans hd, (hf sp).2⟩
    rw [hslots, List.getElem?_map, h, Option.map_some]
  · intro m mp h
    exact ⟨mp, hmedia ▸ h, rfl⟩

/-- The drives of the inventory are still drives. -/
theorem wired (h : Keeps smc smc') (hw : Wired P smc) : Wired P smc' := by
  intro sp hsp drv hd
  obtain ⟨k, hk⟩ := List.mem_iff_getElem?.mp hsp
  obtain ⟨sp', hsp', hd'⟩ := h.drives k sp drv hk hd
  exact hw sp' (List.mem_of_getElem? hsp') drv hd'

/-- A drive's element still shows its bar code. -/
theorem barcode (h : Keeps smc smc') {k : ℕ} {sp : Slot} {drv : DriveInfo} {barcode : Text}
    (hsp : smc.slots[k]? = some sp) (hd : sp.drive = some drv)
    (hb : smc.barcode k = some barcode) : smc'.barcode k = some barcode := by
  simp only [Smc.barcode, hsp, Option.bind_some, Smc.barcodeOf, Option.bind_eq_some_iff,
    Option.map_eq_some_iff] at hb
  obtain ⟨m, hm, mp, hmp, rfl⟩ := hb
  obtain ⟨sp', hsp', _, hm'⟩ := h.elements k sp drv hsp hd
  obtain ⟨mp', hmp', hbar⟩ := h.barcodes m mp hmp
  simp [Smc.barcode, Smc.barcodeOf, hsp', hm', hm, hmp', hbar]

/-- A slot of the port was filled with a cartridge of the same bar code. -/
theorem imported {i m : ℕ} {barcode : Text} {known : Smc}
    (hknown : known.slots = smc.slots) (hlist : smc.media_list <+: known.media_list)
    (hport : ∀ sp, smc.slots[i]? = some sp → sp.drive = none)
    (hbar : ∀ mp, smc.media_list[m]? = some mp → mp.barcode = barcodeField barcode) :
    Keeps smc ((known.updateMedia m fun m => { m with
      barcode := barcodeField barcode
      barcode_length := length_barcodeField barcode
      internal_status := 0 }).updateSlot i fun sp => sp.imported m) := by
  constructor
  · intro k sp' drv h hd
    by_cases hk : i = k
    · subst hk
      simp only [Smc.updateSlot, Smc.updateMedia, List.getElem?_modify_eq, hknown,
        Option.map_eq_map, Option.map_eq_some_iff] at h
      obtain ⟨sp, hsp, rfl⟩ := h
      have hnone := hport sp hsp
      have hsome : sp.drive = some drv := hd
      rw [hnone] at hsome
      cases hsome
    · refine ⟨sp', ?_, hd⟩
      simpa [Smc.updateSlot, Smc.updateMedia, hk, hknown] using h
  · intro k sp drv h hd
    have hk : i ≠ k := by
      rintro rfl
      rw [hport sp h] at hd
      cases hd
    exact ⟨sp, by simp [Smc.updateSlot, Smc.updateMedia, hk, hknown, h], hd, rfl⟩
  · intro n mp h
    obtain ⟨hlt, heq⟩ := List.getElem?_eq_some_iff.mp h
    have hmp : known.media_list[n]? = some mp := by
      obtain ⟨rest, hrest⟩ := hlist
      rw [← hrest, List.getElem?_append_left hlt]
      exact h
    by_cases hn : m = n
    · subst hn
      exact ⟨{ mp with
        barcode := barcodeField barcode
        barcode_length := length_barcodeField barcode
        internal_status := 0 }, by simp [Smc.updateSlot, Smc.updateMedia, hmp], (hbar mp h).symm⟩
    · exact ⟨mp, by simp [Smc.updateSlot, Smc.updateMedia, hn, hmp], rfl⟩

/-- Loading the port. -/
theorem load_map {msg : QMsg} {reply : Text} (h : smc.load_map msg = some (smc', reply)) :
    Keeps smc smc' := by
  simp only [Smc.load_map] at h
  split at h
  · cases h
    exact refl smc
  split at h
  · cases h
    exact refl smc
  generalize (msg.text.drop 9).dropWhile (fun c => !c.isAlphanum) = barcode at h
  split at h
  · cases h
  · cases h
    exact refl smc
  split at h
  · cases h
    exact refl smc
  rename_i hlen
  have hlen : barcode.length ≤ MAX_BARCODE_LEN := not_lt.mp hlen
  split at h
  · cases h
    exact refl smc
  rename_i i hmap
  have hport : ∀ sp, smc.slots[i]? = some sp → sp.drive = none := by
    intro sp hsp
    obtain ⟨hlt, hfound, _⟩ := List.findIdx?_eq_some_iff_getElem.mp hmap
    rw [List.getElem?_eq_getElem hlt, Option.some.injEq] at hsp
    rw [hsp, Bool.and_eq_true, Slot.is_map_slot, beq_iff_eq] at hfound
    cases hd : sp.drive with
    | none => rfl
    | some drv =>
      have htype := sp.wired.mpr (by rw [hd]; rfl)
      rw [hfound.2] at htype
      cases htype
  have hfield : barcodeField barcode = Text.leftJust MAX_BARCODE_LEN barcode := by
    rw [barcodeField, List.take_of_length_le hlen]
  cases hlookup : smc.lookup_barcode barcode with
  | some m =>
    simp only [hlookup, Option.map_some, Option.some_or, Option.some.injEq, Prod.mk.injEq] at h
    obtain ⟨rfl, _⟩ := h
    refine imported rfl (List.prefix_refl _) hport fun mp hmp => ?_
    obtain ⟨mp', hmp', hbar⟩ := Smc.lookup_barcode_some hlen hlookup
    cases hmp.symm.trans hmp'
    have hfull := mp.barcode_length
    rw [hfield, Text.leftJust_full (by rw [← hbar, hfull]), hbar]
  | none =>
    obtain ⟨mp, hadd⟩ := Smc.add_barcode_some hlen hlookup
    simp only [hlookup, hadd, Option.map_none, Option.none_or, Option.some.injEq,
      Prod.mk.injEq] at h
    obtain ⟨rfl, _⟩ := h
    refine imported rfl (List.prefix_append _ _) hport fun mp' hmp' => ?_
    rw [List.getElem?_eq_none (le_refl _)] at hmp'
    cases hmp'

/-- Adding a storage slot. -/
theorem add_storage_slot (smc : Smc) : Keeps smc smc.add_storage_slot.1 := by
  constructor
  · intro k sp' drv h hd
    simp only [Smc.add_storage_slot, List.getElem?_append] at h
    split at h
    · exact ⟨sp', h, hd⟩
    · obtain ⟨_, rfl⟩ := List.getElem?_eq_some_iff.mp h
      simp [Slot.setSlotEmpty, Slot.setFullStatus, Slot.setStatus] at hd
  · intro k sp drv h hd
    obtain ⟨hlt, _⟩ := List.getElem?_eq_some_iff.mp h
    refine ⟨sp, ?_, hd, rfl⟩
    simp only [Smc.add_storage_slot]
    rw [List.getElem?_append_left hlt]
    exact h
  · exact fun _ mp h => ⟨mp, h, rfl⟩

/-- Any message. -/
theorem processMessageQ {msg : QMsg} {out : List Text}
    (h : smc.processMessageQ msg = some (smc', out)) : Keeps smc smc' := by
  rcases Smc.processMessageQ_cases smc msg with hnone | ⟨x, hx, _, hrun⟩
  · cases hnone.symm.trans h
    exact refl smc
  rw [hrun] at h
  simp only [Smc.handlers, List.mem_cons, List.not_mem_nil, or_false] at hx
  rcases hx with rfl | rfl | rfl | rfl | rfl | rfl | rfl
  · cases h
    exact add_storage_slot smc
  · cases h
    simp only [Smc.empty_map]
    split
    · exact refl smc
    · refine mapSlots rfl rfl fun sp => ?_
      split <;> exact ⟨rfl, rfl⟩
  · cases h
    refine mapSlots rfl rfl fun sp => ?_
    split <;> exact ⟨rfl, rfl⟩
  · cases h
    exact ⟨(refl smc).1, (refl smc).2, (refl smc).3⟩
  · cases h
    exact ⟨(refl smc).1, (refl smc).2, (refl smc).3⟩
  · simp only [Option.map_map, Option.map_eq_some_iff, Function.comp_def, Prod.mk.injEq] at h
    obtain ⟨text, _, rfl, _⟩ := h
    exact refl smc
  · simp only [Option.map_map, Option.map_eq_some_iff, Function.comp_def, Prod.mk.injEq] at h
    obtain ⟨⟨smc'', reply⟩, hload, rfl, _⟩ := h
    exact load_map hload

end Keeps

/-- A notice of an ejected cartridge is not answered. -/
theorem Smc.processMessageQ_eject {smc smc' : Smc} {msg : QMsg} {out : List Text}
    (htext : msg.text = msg_eject) (h : smc.processMessageQ msg = some (smc', out)) : out = [] := by
  have hmem : (msg_eject, fun (smc : Smc) msg => some (smc.set_access_bit msg, none)) ∈
      Smc.handlers := List.mem_cons_of_mem _ (List.mem_cons_of_mem _ List.mem_cons_self)
  have hstart : msg_eject <+: msg.text := ⟨[], by rw [htext, List.append_nil]⟩
  have hrun := runHandlers_of_mem (by decide) hmem hstart smc
  rw [Smc.processMessageQ, hrun] at h
  cases h
  rfl

end Mhvtl
