import Mhvtl.Smc.Outcomes
import Mhvtl.Smc.Protocol

/-!
# Moves as sequences of requests

In a move every request goes to a drive, and the library waits for its answer
before it goes on. A move touches its two elements only. When it ends well in a
drive, that drive was the last to be told to load, and said that it did.
-/

namespace Mhvtl

open Interact TapeDrive

/-- What stays of an element whatever is in it. -/
def Slot.place (sp : Slot) : ℕ × Option DriveInfo := (sp.slot_location, sp.drive)

/-- Nothing changed but the contents of two elements. -/
structure Touches (smc : Smc) (i j : ℕ) (smc' : Smc) : Prop where
  /-- The addresses are laid out as before. -/
  slot_type : smc'.slot_type = smc.slot_type
  /-- The elements are where they were. -/
  places : ∀ k : ℕ, (smc'.slots[k]?).map Slot.place = (smc.slots[k]?).map Slot.place
  /-- Every other element is as it was. -/
  others : ∀ k : ℕ, k ≠ i → k ≠ j → smc'.slots[k]? = smc.slots[k]?
  /-- The bar codes of the cartridges are as they were. -/
  barcodes : ∀ m : ℕ, (smc'.media_list[m]?).map MediaInfo.barcode =
    (smc.media_list[m]?).map MediaInfo.barcode

namespace Touches

variable {smc smc' : Smc} {i j : ℕ}

/-- Nothing changed. -/
theorem refl (smc : Smc) (i j : ℕ) : Touches smc i j smc :=
  ⟨rfl, fun _ => rfl, fun _ _ _ => rfl, fun _ => rfl⟩

/-- One of the elements changed. -/
theorem updateSlot (h : Touches smc i j smc') {k : ℕ} (hk : k = i ∨ k = j) {f : Slot → Slot}
    (hf : ∀ sp, (f sp).place = sp.place) : Touches smc i j (smc'.updateSlot k f) := by
  constructor
  · exact h.slot_type
  · intro n
    rw [← h.places n]
    by_cases hn : k = n
    · simp [Smc.updateSlot, hn, Option.map_map, Function.comp_def, hf]
    · simp [Smc.updateSlot, hn]
  · intro n hni hnj
    have hn : k ≠ n := by omega
    rw [← h.others n hni hnj]
    simp [Smc.updateSlot, hn]
  · exact h.barcodes

/-- The location of a cartridge changed. -/
theorem updateMedia (h : Touches smc i j smc') {m : ℕ} {f : MediaInfo → MediaInfo}
    (hf : ∀ mp, (f mp).barcode = mp.barcode) : Touches smc i j (smc'.updateMedia m f) := by
  constructor
  · exact h.slot_type
  · exact h.places
  · exact h.others
  · intro n
    rw [← h.barcodes n]
    by_cases hn : m = n
    · simp [Smc.updateMedia, hn, Option.map_map, Function.comp_def, hf]
    · simp [Smc.updateMedia, hn]

/-- A destination stays where it is. -/
theorem place_filled (dest : Slot) (m loc : ℕ) : (dest.filled m loc).place = dest.place := by
  simp only [Slot.filled]
  split <;> rfl

/-- A cartridge moved from one of the elements to the other. -/
theorem move_cart (h : Touches smc i j smc') {a b : ℕ} (ha : a = i ∨ a = j) (hb : b = i ∨ b = j)
    {smc'' : Smc} (hmove : smc'.move_cart a b = some smc'') : Touches smc i j smc'' := by
  simp only [Smc.move_cart, Option.bind_eq_some_iff, Option.map_eq_some_iff] at hmove
  obtain ⟨sp, _, m, _, rfl⟩ := hmove
  refine ((h.updateMedia ?_).updateSlot hb ?_).updateSlot ha ?_
  · exact fun _ => rfl
  · exact fun dp => place_filled dp m sp.slot_location
  · exact fun _ => rfl

end Touches

/-- Bar codes in an inventory fill their field. -/
theorem Smc.length_barcode {smc : Smc} {i : ℕ} {barcode : Text} (h : smc.barcode i = some barcode) :
    barcode.length = MAX_BARCODE_LEN := by
  simp only [Smc.barcode, Smc.barcodeOf, Option.bind_eq_some_iff, Option.map_eq_some_iff] at h
  obtain ⟨sp, _, m, _, mp, _, rfl⟩ := h
  exact mp.barcode_length

/-- A cartridge that moved is in its new place, with its bar code. -/
theorem Smc.barcode_move_cart {smc smc' : Smc} {i j : ℕ} {dest : Slot} (hne : i ≠ j)
    (hdest : smc.slots[j]? = some dest) (h : smc.move_cart i j = some smc') :
    smc'.barcode j = smc.barcode i := by
  simp only [Smc.move_cart, Option.bind_eq_some_iff, Option.map_eq_some_iff] at h
  obtain ⟨sp, hsp, m, hm, rfl⟩ := h
  have hslot : (((smc.updateMedia m fun mp => { mp with last_location := sp.slot_location }).updateSlot
      j fun dp => dp.filled m sp.slot_location).updateSlot i Slot.vacated).slots[j]? =
        some (dest.filled m sp.slot_location) := by
    simp [Smc.updateSlot, Smc.updateMedia, hne, hdest]
  simp only [Smc.barcode, hslot, Option.bind_some, Smc.barcodeOf, Slot.media_filled, hsp, hm]
  simp [Smc.updateSlot, Smc.updateMedia, Option.map_map, Function.comp_def]

/-- Changes of status bits leave the bar codes alone. -/
theorem Smc.barcode_updateSlot {smc : Smc} {k : ℕ} {f : Slot → Slot}
    (hf : ∀ sp, (f sp).media = sp.media) (i : ℕ) : (smc.updateSlot k f).barcode i = smc.barcode i := by
  by_cases hk : k = i
  · simp only [Smc.barcode, Smc.updateSlot, List.getElem?_modify, hk, if_true]
    cases smc.slots[i]? with
    | none => rfl
    | some sp => simp [Smc.barcodeOf, hf]
  · have hslot : (smc.updateSlot k f).slots[i]? = smc.slots[i]? := by simp [Smc.updateSlot, hk]
    simp only [Smc.barcode, hslot]
    rfl

/-- The exchange between the library and its drives in a move. -/
structure Talk where
  /-- The request that waits for its answer. -/
  asked : Option (ℕ × Text)
  /-- What the drive that the move goes to holds. -/
  held : Option Text

/-- A drive that says that it loaded holds the cartridge it was told to. -/
def Loads (dest : Option ℕ) (id : ℕ) (cmd reply : Text) (held : Option Text) : Prop :=
  dest = some id → "lload ".toList <+: cmd → saysLoadFailed reply = false →
    held = some (strip_PCL cmd 6)

/-- A drive is told to load what a move brings to it. -/
def Brings (dest : Option ℕ) (cargo : Option Text) (id : ℕ) (cmd : Text) : Prop :=
  dest = some id → "lload ".toList <+: cmd → cargo = some (strip_PCL cmd 6)

/-- Drives that answer the request they were sent. The one a move goes to is `dest`,
and it is only told to load `cargo`. -/
def talking (P : Parties) (dest : Option ℕ) (cargo : Option Text) :
    Surroundings Action Answer Talk where
  allows := fun σ a =>
    match a with
    | .send_msg cmd id =>
      σ.asked = none ∧ id ∈ P.drive_ids ∧ Request cmd ∧ cmd.length ≤ MAXTEXTLEN ∧
        Brings dest cargo id cmd
    | .msgrcv => σ.asked.isSome = true
    | .run_command _ => σ.asked = none
  answers := fun σ a b σ' =>
    match a, b with
    | .send_msg cmd id, _ => σ' = ⟨some (id, cmd), σ.held⟩
    | .msgrcv, (reply : Text) =>
      σ'.asked = none ∧ ∀ id cmd, σ.asked = some (id, cmd) → Loads dest id cmd reply σ'.held
    | .run_command _, _ => σ' = σ

section Steps

variable {P : Parties} {dest : Option ℕ} {cargo held : Option Text} {R : Type}
  {Q : Talk → R → Prop}

/-- A request that is not one to load brings nothing. -/
theorem Brings.of_other {id : ℕ} {cmd start : Text} (hstart : start <+: cmd)
    (h : ¬ "lload ".toList <+: start ∧ ¬ start <+: "lload ".toList) : Brings dest cargo id cmd :=
  fun _ hload => (starts_disjoint hload hstart h).elim

/-- A request and its answer. -/
theorem wp_ask {id : ℕ} {cmd : Text} {k : Text → Proc R} (hid : id ∈ P.drive_ids)
    (hreq : Request cmd) (hlen : cmd.length ≤ MAXTEXTLEN) (hbrings : Brings dest cargo id cmd)
    (h : ∀ reply held', Loads dest id cmd reply held' →
      wp (talking P dest cargo) Q (k reply) ⟨none, held'⟩) :
    wp (talking P dest cargo) Q (send_msg cmd id >>= fun _ => msgrcv >>= k) ⟨none, held⟩ := by
  refine ⟨⟨rfl, hid, hreq, hlen, hbrings⟩, fun _ σ₁ hsend => ?_⟩
  cases hsend
  refine ⟨rfl, fun reply σ₂ hrecv => ?_⟩
  obtain ⟨asked, held'⟩ := σ₂
  obtain ⟨rfl, hloads⟩ := hrecv
  exact h reply held' (hloads id cmd rfl)

/-- The drive is asked for its state. -/
theorem wp_ask_driveOccupied {sp : Slot} {drv : DriveInfo} {f : Bool → Proc R}
    (hid : drv.drv_id ∈ P.drive_ids)
    (h : ∀ occupied held', wp (talking P dest cargo) Q (f occupied) ⟨none, held'⟩) :
    wp (talking P dest cargo) Q (driveOccupied sp drv >>= f) ⟨none, held⟩ := by
  have hreq : Request msg_mount_state := Or.inr (Or.inr (Or.inr (List.prefix_refl _)))
  have hfits : msg_mount_state.length ≤ MAXTEXTLEN := by decide
  have hbrings : Brings dest cargo drv.drv_id msg_mount_state :=
    Brings.of_other (List.prefix_refl _) (by decide)
  exact @wp_ask P dest cargo held R Q drv.drv_id msg_mount_state
    (fun text => f (sp.slotOccupied || saysOccupied text)) hid hreq hfits hbrings
    fun _ held' _ => h _ held'

/-- The drive is told to unload. -/
theorem wp_ask_unload {id : ℕ} {barcode : Text} {f : Bool → Proc R} (hid : id ∈ P.drive_ids)
    (hlen : barcode.length = MAX_BARCODE_LEN)
    (h : ∀ failed held', wp (talking P dest cargo) Q (f failed) ⟨none, held'⟩) :
    wp (talking P dest cargo) Q (send_msg (unload barcode) id >>= fun _ => check_tape_unload >>= f)
      ⟨none, held⟩ := by
  have hreq : Request (unload barcode) := by
    refine Or.inr (Or.inl ⟨' ' :: barcode, ?_⟩)
    rfl
  have hfits : (unload barcode).length ≤ MAXTEXTLEN := by
    have hstartLen : "unload ".toList.length = 7 := by decide +kernel
    have hsplit : unload barcode = "unload ".toList ++ barcode := rfl
    rw [hsplit, List.length_append, hstartLen, hlen, MAX_BARCODE_LEN, MAXTEXTLEN]
    omega
  have hbrings : Brings dest cargo id (unload barcode) := by
    have hstart : "unload ".toList <+: unload barcode := ⟨barcode, rfl⟩
    exact Brings.of_other hstart (by decide)
  exact @wp_ask P dest cargo held R Q id (unload barcode) (fun text => f (saysUnloadFailed text)) hid
    hreq hfits hbrings fun _ held' _ => h _ held'

/-- The drive is told to load. -/
theorem wp_ask_load {id : ℕ} {barcode : Text} {f : Bool → Proc R} (hid : id ∈ P.drive_ids)
    (hlen : barcode.length = MAX_BARCODE_LEN) (hcargo : cargo = some (strip_PCL (lload barcode) 6))
    (h : ∀ failed held', (dest = some id → failed = false →
      held' = some (strip_PCL (lload barcode) 6)) → wp (talking P dest cargo) Q (f failed) ⟨none, held'⟩) :
    wp (talking P dest cargo) Q (send_msg (lload barcode) id >>= fun _ => check_tape_load >>= f)
      ⟨none, held⟩ := by
  have hstart : "lload ".toList <+: lload barcode := ⟨_, rfl⟩
  have hreq : Request (lload barcode) := Or.inl ⟨' ' :: barcode.truncate_spaces, rfl⟩
  have hfits : (lload barcode).length ≤ MAXTEXTLEN := by
    have hword : barcode.truncate_spaces.length ≤ barcode.length :=
      (List.takeWhile_prefix _).length_le
    have hstartLen : "lload ".toList.length = 6 := by decide +kernel
    rw [hlen, MAX_BARCODE_LEN] at hword
    rw [lload, List.length_append, hstartLen, MAXTEXTLEN]
    omega
  exact @wp_ask P dest cargo held R Q id (lload barcode) (fun text => f (saysLoadFailed text)) hid hreq
    hfits (fun _ _ => hcargo) fun _ held' hloads =>
      h _ held' fun hdest hloaded => hloads hdest hstart hloaded

/-- The drive is told that it is empty. -/
theorem wp_ask_setDriveEmpty {smc : Smc} {i : ℕ} {drv : DriveInfo} {f : Smc → Proc R}
    (hid : drv.drv_id ∈ P.drive_ids)
    (h : ∀ held', wp (talking P dest cargo) Q (f (smc.updateSlot i fun sp => sp.setFullStatus false))
      ⟨none, held'⟩) :
    wp (talking P dest cargo) Q (smc.setDriveEmpty i drv >>= f) ⟨none, held⟩ := by
  have hreq : Request msg_set_empty := Or.inr (Or.inr (Or.inl (List.prefix_refl _)))
  have hfits : msg_set_empty.length ≤ MAXTEXTLEN := by decide
  have hbrings : Brings dest cargo drv.drv_id msg_set_empty :=
    Brings.of_other (List.prefix_refl _) (by decide)
  exact @wp_ask P dest cargo held R Q drv.drv_id msg_set_empty
    (fun _ => f (smc.updateSlot i fun sp => sp.setFullStatus false)) hid hreq hfits hbrings
    fun _ held' _ => h held'

end Steps

/-- What the drive that a move goes to is told to load. -/
def cargoOf (smc : Smc) (i : ℕ) : Option Text :=
  (smc.barcode i).map fun barcode => strip_PCL (lload barcode) 6

/-- How a move may end: with two elements touched, and when it ends well in a drive,
with that drive holding the cartridge that is in its element. -/
structure Settles (smc : Smc) (i j : ℕ) (dest : Option ℕ) (Q : Talk → Moved → Prop) : Prop where
  /-- With the use of a cartridge that is not there. -/
  crashed : ∀ held, Q ⟨none, held⟩ none
  /-- Refused, or undone. -/
  refused : ∀ held smc' status, status.sam_stat = SAM_STAT_CHECK_CONDITION → Touches smc i j smc' →
    Q ⟨none, held⟩ (some (smc', status))
  /-- Well, in a slot. -/
  moved : dest = none → ∀ held smc', Touches smc i j smc' →
    Q ⟨none, held⟩ (some (smc', Status.good))
  /-- Well, in a drive. -/
  loaded : ∀ id, dest = some id → ∀ barcode smc', smc.barcode i = some barcode →
    smc'.barcode j = some barcode → Touches smc i j smc' →
    Q ⟨none, some (strip_PCL (lload barcode) 6)⟩ (some (smc', Status.good))

section Moves

variable {P : Parties} {dest : Option ℕ} {cargo held : Option Text} {smc : Smc} {i j : ℕ}
  {src dst : Slot} {Q : Talk → Moved → Prop}

/-- The move script is no business of the drives. -/
theorem talk_after_move_command {next : Proc Moved} (hends : Settles smc i j dest Q)
    (hnext : wp (talking P dest cargo) Q next ⟨none, held⟩) :
    wp (talking P dest cargo) Q (smc.after_move_command i src dst next) ⟨none, held⟩ := by
  apply wp_bind
  simp only [Smc.run_move_command]
  cases smc.movecommand with
  | none => exact hnext
  | some command =>
    cases hb : smc.barcode i with
    | none => exact hends.crashed held
    | some barcode =>
      refine ⟨rfl, fun (res : ℤ) σ hrun => ?_⟩
      cases hrun
      change wp (talking P dest cargo) _ (if res ≠ 0 then pure (some (sam_hardware_error _))
        else pure (some Status.good)) ⟨none, held⟩
      by_cases hres : res ≠ 0
      · rw [if_pos hres]
        exact hends.refused held smc _ rfl (Touches.refl smc i j)
      · rw [if_neg hres]
        exact hnext

/-- From one slot to another. -/
theorem talk_move_slot2slot (hends : Settles smc i j dest Q) (hdest : dest = none) :
    wp (talking P dest cargo) Q (smc.move_slot2slot i src j dst) ⟨none, held⟩ := by
  have hrefused := fun status h => hends.refused held smc status h (Touches.refl smc i j)
  simp only [Smc.move_slot2slot, Smc.refuse]
  split
  · exact hrefused _ rfl
  split
  · exact hrefused _ rfl
  split
  · exact hrefused _ rfl
  split
  · exact hrefused _ rfl
  cases smc.barcode i with
  | none => exact hends.crashed held
  | some barcode =>
    apply talk_after_move_command hends
    cases hmove : smc.move_cart i j with
    | none => exact hends.crashed held
    | some smc' =>
      exact hends.moved hdest held smc'
        ((Touches.refl smc i j).move_cart (Or.inl rfl) (Or.inr rfl) hmove)

/-- From a slot into a drive. -/
theorem talk_move_slot2drive {drv : DriveInfo} (hends : Settles smc i j dest Q)
    (hid : drv.drv_id ∈ P.drive_ids) (hdest : dest = some drv.drv_id) (hne : i ≠ j)
    (hdst : smc.slots[j]? = some dst) (hcargo : cargo = cargoOf smc i) :
    wp (talking P dest cargo) Q (smc.move_slot2drive i src j dst drv) ⟨none, held⟩ := by
  have hrefused := fun held status h => hends.refused held smc status h (Touches.refl smc i j)
  simp only [Smc.move_slot2drive, Smc.refuse]
  split
  · exact hrefused _ _ rfl
  apply wp_ask_driveOccupied hid
  intro occupied held₁
  split
  · exact hrefused _ _ rfl
  split
  · exact hrefused _ _ rfl
  apply talk_after_move_command hends
  cases hb : smc.barcode i with
  | none => exact hends.crashed held₁
  | some barcode =>
    apply wp_ask_load hid (Smc.length_barcode hb) (by rw [hcargo, cargoOf, hb]; rfl)
    intro failed held₂ hloaded
    split
    · exact hrefused _ _ rfl
    rename_i hok
    cases hmove : smc.move_cart i j with
    | none => exact hends.crashed held₂
    | some smc' =>
      rw [hloaded hdest (by simpa using hok)]
      apply hends.loaded drv.drv_id hdest barcode _ hb
      · refine (Smc.barcode_updateSlot ?_ j).trans ((Smc.barcode_move_cart hne hdst hmove).trans hb)
        exact fun _ => rfl
      · exact ((Touches.refl smc i j).move_cart (Or.inl rfl) (Or.inr rfl) hmove).updateSlot
          (Or.inr rfl) fun _ => rfl

/-- Out of a drive. -/
theorem talk_leave_drive {drv : DriveInfo} (hends : Settles smc i j dest Q)
    (hid : drv.drv_id ∈ P.drive_ids) (hdest : dest = none) :
    wp (talking P dest cargo) Q (smc.leave_drive i j drv) ⟨none, held⟩ := by
  simp only [Smc.leave_drive]
  cases hmove : smc.move_cart i j with
  | none => exact hends.crashed held
  | some smc' =>
    apply wp_ask_setDriveEmpty hid
    intro held'
    exact hends.moved hdest held' _ (((Touches.refl smc i j).move_cart (Or.inl rfl) (Or.inr rfl)
      hmove).updateSlot (Or.inl rfl) fun _ => rfl)

/-- From a drive into a slot. -/
theorem talk_move_drive2slot {drv : DriveInfo} (hends : Settles smc i j dest Q)
    (hid : drv.drv_id ∈ P.drive_ids) (hdest : dest = none) :
    wp (talking P dest cargo) Q (smc.move_drive2slot i src drv j dst) ⟨none, held⟩ := by
  have hrefused := fun held status h => hends.refused held smc status h (Touches.refl smc i j)
  simp only [Smc.move_drive2slot, Smc.refuse]
  apply wp_ask_driveOccupied hid
  intro occupied held₁
  split
  · exact hrefused _ _ rfl
  split
  · exact hrefused _ _ rfl
  split
  · exact hrefused _ _ rfl
  apply talk_after_move_command hends
  split
  · exact talk_leave_drive hends hid hdest
  cases hb : smc.barcode i with
  | none => exact hends.crashed held₁
  | some barcode =>
    apply wp_ask_unload hid (Smc.length_barcode hb)
    intro failed held₂
    split
    · exact hrefused _ _ rfl
    · exact talk_leave_drive hends hid hdest

/-- The cartridge goes back. -/
theorem talk_put_back {smc' : Smc} {drv : DriveInfo} (hends : Settles smc i j dest Q)
    (hid : drv.drv_id ∈ P.drive_ids) (hne : i ≠ j) (hsrc : smc.slots[i]? = some src)
    (hcargo : cargo = cargoOf smc i) (ht : Touches smc i j smc')
    (hb : smc'.barcode j = smc.barcode i) :
    wp (talking P dest cargo) Q (smc'.put_back i drv j) ⟨none, held⟩ := by
  simp only [Smc.put_back, Smc.refuse]
  cases hmove : smc'.move_cart j i with
  | none => exact hends.crashed held
  | some smc'' =>
    have ht' := ht.move_cart (Or.inr rfl) (Or.inl rfl) hmove
    have hplace := ht.places i
    rw [hsrc, Option.map_some, Option.map_eq_some_iff] at hplace
    obtain ⟨src', hsrc', _⟩ := hplace
    have hback := (Smc.barcode_move_cart hne.symm hsrc' hmove).trans hb
    simp only []
    cases hb' : smc''.barcode i with
    | none => exact hends.crashed held
    | some barcode =>
      apply wp_ask_load hid (Smc.length_barcode hb') (by rw [hcargo, cargoOf, ← hback, hb']; rfl)
      intro failed held' _
      exact hends.refused held' smc'' _ rfl ht'

/-- Into the destination drive, or back. -/
theorem talk_enter_drive {smc' : Smc} {srcDrive destDrive : DriveInfo}
    (hends : Settles smc i j dest Q) (hsrcId : srcDrive.drv_id ∈ P.drive_ids)
    (hdestId : destDrive.drv_id ∈ P.drive_ids) (hdest : dest = some destDrive.drv_id)
    (hne : i ≠ j) (hsrc : smc.slots[i]? = some src) (hcargo : cargo = cargoOf smc i)
    (ht : Touches smc i j smc') (hb : smc'.barcode j = smc.barcode i) :
    wp (talking P dest cargo) Q (smc'.enter_drive i srcDrive j destDrive) ⟨none, held⟩ := by
  simp only [Smc.enter_drive]
  cases hb' : smc'.barcode j with
  | none => exact hends.crashed held
  | some barcode =>
    apply wp_ask_load hdestId (Smc.length_barcode hb') (by rw [hcargo, cargoOf, ← hb, hb']; rfl)
    intro failed held' hloaded
    split
    · exact talk_put_back hends hsrcId hne hsrc hcargo ht hb
    rename_i hok
    rw [hloaded hdest (by simpa using hok)]
    apply hends.loaded destDrive.drv_id hdest barcode _ (hb.symm.trans hb')
    · refine (Smc.barcode_updateSlot ?_ j).trans hb'
      exact fun _ => rfl
    · exact ht.updateSlot (Or.inr rfl) fun _ => rfl

/-- From one drive to another. -/
theorem talk_move_drive2drive {srcDrive destDrive : DriveInfo} {src_addr dest_addr : ℕ}
    (hends : Settles smc i j dest Q) (hsrcId : srcDrive.drv_id ∈ P.drive_ids)
    (hdestId : destDrive.drv_id ∈ P.drive_ids) (hdest : dest = some destDrive.drv_id)
    (hne : src_addr ≠ dest_addr → i ≠ j) (hsrc : smc.slots[i]? = some src)
    (hdst : smc.slots[j]? = some dst) (hcargo : cargo = cargoOf smc i)
    (hsame : src_addr = dest_addr → Q ⟨none, held⟩ (some (smc, Status.good))) :
    wp (talking P dest cargo) Q
      (smc.move_drive2drive src_addr i src srcDrive dest_addr j dst destDrive) ⟨none, held⟩ := by
  have hrefused := fun held status h => hends.refused held smc status h (Touches.refl smc i j)
  simp only [Smc.move_drive2drive, Smc.refuse]
  split
  · rename_i heq
    exact hsame heq
  rename_i haddr
  apply wp_ask_driveOccupied hsrcId
  intro occupied held₁
  split
  · exact hrefused _ _ rfl
  apply wp_ask_driveOccupied hdestId
  intro occupied' held₂
  split
  · exact hrefused _ _ rfl
  apply talk_after_move_command hends
  cases hb : smc.barcode i with
  | none => exact hends.crashed held₂
  | some barcode =>
    apply wp_ask_unload hsrcId (Smc.length_barcode hb)
    intro failed held₃
    split
    · exact hrefused _ _ rfl
    cases hmove : smc.move_cart i j with
    | none => exact hends.crashed held₃
    | some smc' =>
      apply wp_ask_setDriveEmpty hsrcId
      intro held₄
      apply talk_enter_drive hends hsrcId hdestId hdest (hne haddr) hsrc hcargo
      · exact ((Touches.refl smc i j).move_cart (Or.inl rfl) (Or.inr rfl) hmove).updateSlot
          (Or.inl rfl) fun _ => rfl
      · refine (Smc.barcode_updateSlot ?_ j).trans (Smc.barcode_move_cart (hne haddr) hdst hmove)
        exact fun _ => rfl

end Moves

/-- The source address of a move. -/
def Cdb.source (cdb : Cdb) : ℕ := cdb.get_unaligned_be16 4

/-- The destination address of a move. -/
def Cdb.destination (cdb : Cdb) : ℕ := cdb.get_unaligned_be16 6

/-- The drive that a move goes to, when it goes to one. -/
def destDrive (smc : Smc) (cdb : Cdb) : Option ℕ :=
  if smc.slot_type cdb.destination = some .DATA_TRANSFER then
    (smc.drive2struct cdb.destination).map fun d => d.2.2.drv_id
  else none

/-- What that drive is told to load. -/
def cargo (smc : Smc) (cdb : Cdb) : Option Text :=
  (smc.slot2struct cdb.source).bind fun x => cargoOf smc x.1

/-- Nothing changed but the contents of the elements of the command. -/
def TouchesAt (smc : Smc) (cdb : Cdb) (smc' : Smc) : Prop :=
  smc' = smc ∨ ∃ i src j dst, smc.slot2struct cdb.source = some (i, src) ∧
    smc.slot2struct cdb.destination = some (j, dst) ∧ Touches smc i j smc'

/-- The drive of the destination holds the cartridge of the source. -/
def Delivered (smc : Smc) (cdb : Cdb) (held : Option Text) (smc' : Smc) : Prop :=
  ∃ i src j dst barcode, smc.slot2struct cdb.source = some (i, src) ∧
    smc.slot2struct cdb.destination = some (j, dst) ∧ smc.barcode i = some barcode ∧
    smc'.barcode j = some barcode ∧ held = some (strip_PCL (lload barcode) 6)

/-- How a command ends. -/
def CommandEnds (smc : Smc) (cdb : Cdb) (σ : Talk) (r : Moved) : Prop :=
  σ.asked = none ∧ ∀ smc' status, r = some (smc', status) → TouchesAt smc cdb smc' ∧
    (status.sam_stat = SAM_STAT_GOOD → cdb 11 = 0 → cdb.source ≠ cdb.destination →
      (destDrive smc cdb).isSome = true → Delivered smc cdb σ.held smc')

section Command

variable {P : Parties} {smc : Smc} {cdb : Cdb}

/-- A refused command. -/
theorem CommandEnds.of_refused {held : Option Text} {smc' : Smc} {status : Status}
    (hcheck : status.sam_stat = SAM_STAT_CHECK_CONDITION) (ht : TouchesAt smc cdb smc') :
    CommandEnds smc cdb ⟨none, held⟩ (some (smc', status)) := by
  refine ⟨rfl, fun smc'' status' heq => ?_⟩
  cases heq
  refine ⟨ht, fun hgood => ?_⟩
  rw [hcheck] at hgood
  cases hgood

/-- The elements of a command settle its end. -/
theorem CommandEnds.settles {i j : ℕ} {src dst : Slot}
    (hsrc : smc.slot2struct cdb.source = some (i, src))
    (hdst : smc.slot2struct cdb.destination = some (j, dst)) :
    Settles smc i j (destDrive smc cdb) (CommandEnds smc cdb) := by
  constructor
  · exact fun held => ⟨rfl, fun smc' status heq => nomatch heq⟩
  · intro held smc' status hcheck ht
    exact CommandEnds.of_refused hcheck (Or.inr ⟨i, src, j, dst, hsrc, hdst, ht⟩)
  · intro hnone held smc' ht
    refine ⟨rfl, fun smc'' status' heq => ?_⟩
    cases heq
    refine ⟨Or.inr ⟨i, src, j, dst, hsrc, hdst, ht⟩, fun _ _ _ hsome => ?_⟩
    rw [hnone] at hsome
    cases hsome
  · intro id _ barcode smc' hb hb' ht
    refine ⟨rfl, fun smc'' status' heq => ?_⟩
    cases heq
    exact ⟨Or.inr ⟨i, src, j, dst, hsrc, hdst, ht⟩,
      fun _ _ _ _ => ⟨i, src, j, dst, barcode, hsrc, hdst, hb, hb', rfl⟩⟩

/-- Drives of elements are drives. -/
theorem Wired.drive (hw : Wired P smc) {addr i : ℕ} {sp : Slot} {drv : DriveInfo}
    (h : smc.drive2struct addr = some (i, sp, drv)) : drv.drv_id ∈ P.drive_ids := by
  obtain ⟨hslot, hdrive⟩ := Smc.drive2struct_some h
  exact hw sp (List.mem_of_getElem? (Smc.slot2struct_some hslot).1) drv hdrive

/-- The cartridge of the source. -/
theorem cargo_of_source {i : ℕ} {src : Slot} (hsrc : smc.slot2struct cdb.source = some (i, src)) :
    cargo smc cdb = cargoOf smc i := by
  rw [cargo, hsrc, Option.bind_some]

/-- A move between two valid addresses. -/
theorem talk_move (hw : Wired P smc) {held : Option Text}
    (hsrc : smc.valid_slot cdb.source = true) (hdst : smc.valid_slot cdb.destination = true) :
    wp (talking P (destDrive smc cdb) (cargo smc cdb)) (CommandEnds smc cdb)
      (smc.move cdb.source cdb.destination) ⟨none, held⟩ := by
  simp only [Smc.move]
  by_cases hsrcType : smc.slot_type cdb.source = some .DATA_TRANSFER
  · obtain ⟨i, src, srcDrive, hsd⟩ := Smc.valid_slot_drive hsrc hsrcType
    have hs := (Smc.drive2struct_some hsd).1
    by_cases hdstType : smc.slot_type cdb.destination = some .DATA_TRANSFER
    · obtain ⟨j, dst, dstDrive, hdd⟩ := Smc.valid_slot_drive hdst hdstType
      have hd := (Smc.drive2struct_some hdd).1
      simp only [hsrcType, hdstType, if_true, hsd, hdd]
      apply talk_move_drive2drive (CommandEnds.settles hs hd) (hw.drive hsd) (hw.drive hdd)
      · simp [destDrive, hdstType, hdd]
      · exact fun hne => Smc.slot2struct_ne hne hs hd
      · exact (Smc.slot2struct_some hs).1
      · exact (Smc.slot2struct_some hd).1
      · exact cargo_of_source hs
      · intro heq
        refine ⟨rfl, fun smc' status h => ?_⟩
        cases h
        exact ⟨Or.inl rfl, fun _ _ hne => absurd heq hne⟩
    · obtain ⟨j, dst, hd⟩ := Smc.valid_slot_slot hdst hdstType
      simp only [hsrcType, hdstType, if_true, if_false, hsd, hd]
      apply talk_move_drive2slot (CommandEnds.settles hs hd) (hw.drive hsd)
      simp [destDrive, hdstType]
  · obtain ⟨i, src, hs⟩ := Smc.valid_slot_slot hsrc hsrcType
    by_cases hdstType : smc.slot_type cdb.destination = some .DATA_TRANSFER
    · obtain ⟨j, dst, dstDrive, hdd⟩ := Smc.valid_slot_drive hdst hdstType
      have hd := (Smc.drive2struct_some hdd).1
      have hne : cdb.source ≠ cdb.destination := by
        intro heq
        rw [heq] at hsrcType
        exact hsrcType hdstType
      simp only [hsrcType, hdstType, if_true, if_false, hs, hdd]
      apply talk_move_slot2drive (CommandEnds.settles hs hd) (hw.drive hdd)
      · simp [destDrive, hdstType, hdd]
      · exact Smc.slot2struct_ne hne hs hd
      · exact (Smc.slot2struct_some hd).1
      · exact cargo_of_source hs
    · obtain ⟨j, dst, hd⟩ := Smc.valid_slot_slot hdst hdstType
      simp only [hsrcType, hdstType, if_false, hs, hd]
      apply talk_move_slot2slot (CommandEnds.settles hs hd)
      simp [destDrive, hdstType]

/-- The MOVE MEDIUM command as an exchange with the drives. -/
theorem talk_smc_move_medium (hw : Wired P smc) (cdb : Cdb) (held : Option Text) :
    wp (talking P (destDrive smc cdb) (cargo smc cdb)) (CommandEnds smc cdb) (smc.smc_move_medium cdb)
      ⟨none, held⟩ := by
  simp only [Smc.smc_move_medium, Smc.refuse]
  split
  · exact CommandEnds.of_refused rfl (Or.inl rfl)
  split
  · exact CommandEnds.of_refused rfl (Or.inl rfl)
  split
  · rename_i hport
    refine ⟨rfl, fun smc' status heq => ?_⟩
    cases heq
    exact ⟨Or.inl rfl, fun _ hzero => absurd hzero hport⟩
  rcases smc.addressStatus_cases
    (if cdb.get_unaligned_be16 2 = 0 then smc.pm.start_picker else cdb.get_unaligned_be16 2)
    (cdb.get_unaligned_be16 4) (cdb.get_unaligned_be16 6) with hbad | ⟨hgood, hsrc, hdst⟩
  · rw [if_neg (by rw [hbad]; decide)]
    exact CommandEnds.of_refused hbad (Or.inl rfl)
  · rw [if_pos hgood]
    exact talk_move hw hsrc hdst

end Command

end Mhvtl
