import Mhvtl.Smc.Conservation

/-!
# Outcomes of a move

Against drives that answer anything, a move is refused with the inventory as it
was, or is a transfer. Two sequences of answers lead elsewhere: a source drive
that claims a cartridge its element does not have, and a destination drive that
fails to load a cartridge that left its source already.
-/

namespace Mhvtl

open Interact

/-- Surroundings of which only the texts received are remembered. -/
def hearing : Surroundings Action Answer (List Text) where
  allows := fun _ _ => True
  answers := fun ts a b ts' =>
    match a, b with
    | .send_msg _ _, _ => ts' = ts
    | .msgrcv, (text : Text) => ts' = ts ++ [text]
    | .run_command _, _ => ts' = ts

/-- The texts received in an execution. -/
def replies : List (Sigma Answer) → List Text
  | [] => []
  | ⟨.send_msg _ _, _⟩ :: tr => replies tr
  | ⟨.msgrcv, (text : Text)⟩ :: tr => text :: replies tr
  | ⟨.run_command _, _⟩ :: tr => replies tr

/-- Every execution is heard. -/
theorem hearing_admits (tr : List (Sigma Answer)) (ts : List Text) :
    hearing.Admits ts tr (ts ++ replies tr) := by
  induction tr generalizing ts with
  | nil => simpa [replies] using Surroundings.Admits.nil ts
  | cons e tr ih =>
    obtain ⟨a, b⟩ := e
    cases a with
    | send_msg cmd id => exact Surroundings.Admits.cons rfl (ih ts)
    | msgrcv =>
      change Text at b
      have htail := ih (ts ++ [b])
      rw [List.append_assoc] at htail
      exact Surroundings.Admits.cons rfl htail
    | run_command c => exact Surroundings.Admits.cons rfl (ih ts)

/-- A move may end like this: refused, or with a transfer. -/
structure Ends (smc : Smc) (i j : ℕ) (Q : List Text → Moved → Prop) : Prop where
  /-- Refused with the inventory as it was. -/
  refused : ∀ ts status, status.sam_stat = SAM_STAT_CHECK_CONDITION → Q ts (some (smc, status))
  /-- A transfer. -/
  moved : ∀ ts smc', Transfer smc i j smc' → Q ts (some (smc', Status.good))

section Steps

variable {R : Type} {Q : List Text → R → Prop} {ts : List Text}

/-- A drive may say anything when it is asked. -/
theorem wp_driveOccupied {sp : Slot} {drv : DriveInfo} {f : Bool → Proc R}
    (h : ∀ text, wp hearing Q (f (sp.slotOccupied || saysOccupied text)) (ts ++ [text])) :
    wp hearing Q (driveOccupied sp drv >>= f) ts := by
  refine ⟨trivial, fun _ ts₁ hsend => ⟨trivial, fun text ts₂ hrecv => ?_⟩⟩
  cases hsend
  cases hrecv
  exact h text

/-- A drive may answer anything to a load. -/
theorem wp_load {cmd : Text} {id : ℕ} {f : Bool → Proc R}
    (h : ∀ text, wp hearing Q (f (saysLoadFailed text)) (ts ++ [text])) :
    wp hearing Q (send_msg cmd id >>= fun _ => check_tape_load >>= f) ts := by
  refine ⟨trivial, fun _ ts₁ hsend => ⟨trivial, fun text ts₂ hrecv => ?_⟩⟩
  cases hsend
  cases hrecv
  exact h text

/-- A drive may answer anything to an unload. -/
theorem wp_unload {cmd : Text} {id : ℕ} {f : Bool → Proc R}
    (h : ∀ text, wp hearing Q (f (saysUnloadFailed text)) (ts ++ [text])) :
    wp hearing Q (send_msg cmd id >>= fun _ => check_tape_unload >>= f) ts := by
  refine ⟨trivial, fun _ ts₁ hsend => ⟨trivial, fun text ts₂ hrecv => ?_⟩⟩
  cases hsend
  cases hrecv
  exact h text

/-- Whatever the drive answers, its element is marked empty. -/
theorem wp_setDriveEmpty {smc : Smc} {i : ℕ} {drv : DriveInfo} {f : Smc → Proc R}
    (h : ∀ text, wp hearing Q (f (smc.updateSlot i fun sp => sp.setFullStatus false))
      (ts ++ [text])) :
    wp hearing Q (smc.setDriveEmpty i drv >>= f) ts := by
  refine ⟨trivial, fun _ ts₁ hsend => ⟨trivial, fun text ts₂ hrecv => ?_⟩⟩
  cases hsend
  cases hrecv
  exact h text

end Steps

/-- A postcondition that no further text can spoil holds of every program. -/
theorem wp_hearing_of_forall {R : Type} {Q : List Text → R → Prop} {p : Proc R} {ts : List Text}
    (h : ∀ ts' r, Q (ts ++ ts') r) : wp hearing Q p ts := by
  induction p generalizing ts with
  | done r =>
    have hr := h [] r
    rw [List.append_nil] at hr
    exact hr
  | act a k ih =>
    refine ⟨trivial, fun b ts' hb => ih b fun ts'' r => ?_⟩
    cases a with
    | send_msg cmd id =>
      cases hb
      exact h ts'' r
    | msgrcv =>
      cases hb
      rw [List.append_assoc]
      exact h (_ :: ts'') r
    | run_command c =>
      cases hb
      exact h ts'' r

variable {smc : Smc} {i j : ℕ} {src dest : Slot} {Q : List Text → Moved → Prop} {ts : List Text}

/-- The move script is run for a cartridge that is there, and may fail. -/
theorem wp_run_move_command {R : Type} {Q : List Text → R → Prop} {f : Option Status → Proc R}
    (hcart : smc.barcode i = none → wp hearing Q (f none) ts)
    (hfailed : wp hearing Q (f (some (sam_hardware_error E_MANUAL_INTERVENTION_REQ))) ts)
    (hgood : wp hearing Q (f (some Status.good)) ts) :
    wp hearing Q (smc.run_move_command i src dest >>= f) ts := by
  apply wp_bind
  simp only [Smc.run_move_command]
  cases smc.movecommand with
  | none => exact hgood
  | some command =>
    cases hb : smc.barcode i with
    | none => exact hcart hb
    | some barcode =>
      refine ⟨trivial, fun (res : ℤ) ts₁ hrun => ?_⟩
      cases hrun
      change wp hearing _ (if res ≠ 0 then pure (some (sam_hardware_error _))
        else pure (some Status.good)) ts
      by_cases hres : res ≠ 0
      · rw [if_pos hres]
        exact hfailed
      · rw [if_neg hres]
        exact hgood

/-- The rest of the move comes after the move script. -/
theorem wp_after_move_command {next : Proc Moved} (hcart : smc.barcode i = none → Q ts none)
    (hends : Ends smc i j Q) (hnext : wp hearing Q next ts) :
    wp hearing Q (smc.after_move_command i src dest next) ts := by
  apply wp_run_move_command
  · exact hcart
  · exact hends.refused ts _ rfl
  · exact hnext

/-- A full element has a cartridge with a bar code. -/
theorem Conserved.cartridge (hc : Conserved smc) (hsrc : smc.slots[i]? = some src)
    (hfull : src.slotOccupied = true) :
    ∃ m barcode, src.media = some m ∧ smc.barcode i = some barcode := by
  have hmem := List.mem_of_getElem? hsrc
  obtain ⟨m, hm⟩ := Option.isSome_iff_exists.mp ((hc.full_iff src hmem).symm.trans hfull)
  have hlt := hc.known src hmem m hm
  exact ⟨m, smc.media_list[m].barcode, hm, by simp [Smc.barcode, Smc.barcodeOf, hsrc, hm, hlt]⟩

/-- An element that is not full has no cartridge. -/
theorem Conserved.no_cartridge (hc : Conserved smc) (hsrc : smc.slots[i]? = some src)
    (hempty : src.slotOccupied = false) : src.media = none ∧ smc.barcode i = none := by
  have hmem := List.mem_of_getElem? hsrc
  have hnone : src.media = none := by
    simpa using (hc.full_iff src hmem).symm.trans hempty
  exact ⟨hnone, by simp [Smc.barcode, Smc.barcodeOf, hsrc, hnone]⟩

/-- A cartridge that is there can be moved. -/
theorem move_cart_some {m : ℕ} (j : ℕ) (hsrc : smc.slots[i]? = some src)
    (hm : src.media = some m) : ∃ smc', smc.move_cart i j = some smc' := by
  simp [Smc.move_cart, hsrc, hm]

/-- From one slot to another: a transfer or nothing. -/
theorem wp_move_slot2slot (hc : Conserved smc) (hsrc : smc.slots[i]? = some src)
    (hdest : smc.slots[j]? = some dest) (hends : Ends smc i j Q) :
    wp hearing Q (smc.move_slot2slot i src j dest) ts := by
  simp only [Smc.move_slot2slot, Smc.refuse]
  split
  · exact hends.refused ts _ rfl
  · rename_i hfull
    split
    · exact hends.refused ts _ rfl
    rename_i hfree
    split
    · exact hends.refused ts _ rfl
    split
    · exact hends.refused ts _ rfl
    have hne : i ≠ j := by
      rintro rfl
      cases hsrc.symm.trans hdest
      simp [hfree] at hfull
    obtain ⟨m, barcode, hm, hb⟩ := hc.cartridge hsrc (by simpa using hfull)
    simp only [hb]
    apply wp_after_move_command
    · intro hnone
      cases hb.symm.trans hnone
    · exact hends
    · obtain ⟨smc', hmove⟩ := move_cart_some j hsrc hm
      simp only [hmove, Option.map_some]
      exact hends.moved ts smc' (Transfer.of_move_cart hne hsrc hm hdest hmove)

/-- From a slot into a drive: a transfer or nothing. -/
theorem wp_move_slot2drive {drv : DriveInfo} (hc : Conserved smc) (hne : i ≠ j)
    (hsrc : smc.slots[i]? = some src) (hdest : smc.slots[j]? = some dest) (hends : Ends smc i j Q) :
    wp hearing Q (smc.move_slot2drive i src j dest drv) ts := by
  simp only [Smc.move_slot2drive, Smc.refuse]
  split
  · exact hends.refused ts _ rfl
  · rename_i hfull
    obtain ⟨m, barcode, hm, hb⟩ := hc.cartridge hsrc (by simpa using hfull)
    simp only [hb]
    apply wp_driveOccupied
    intro state
    split
    · exact hends.refused _ _ rfl
    split
    · exact hends.refused _ _ rfl
    apply wp_after_move_command
    · intro hnone
      cases hb.symm.trans hnone
    · exact hends
    apply wp_load
    intro answer
    split
    · exact hends.refused _ _ rfl
    · obtain ⟨smc', hmove⟩ := move_cart_some j hsrc hm
      simp only [hmove, Option.map_some]
      apply hends.moved
      apply (Transfer.of_move_cart hne hsrc hm hdest hmove).updateDest
      · intro sp
        rfl
      · intro sp _
        simp [Slot.setSlotFull]

/-- A cartridge that left its drive is in its new place. -/
theorem wp_leave_drive {drv : DriveInfo} {m : ℕ} (hne : i ≠ j) (hsrc : smc.slots[i]? = some src)
    (hm : src.media = some m) (hdest : smc.slots[j]? = some dest) (hends : Ends smc i j Q) :
    wp hearing Q (smc.leave_drive i j drv) ts := by
  obtain ⟨smc', hmove⟩ := move_cart_some j hsrc hm
  simp only [Smc.leave_drive, hmove]
  apply wp_setDriveEmpty
  intro answer
  apply hends.moved
  apply (Transfer.of_move_cart hne hsrc hm hdest hmove).updateSource
  · intro sp
    rfl
  · intro sp _
    simp

/-- From a drive into a slot: a transfer or nothing, unless the drive claims a
cartridge that its element does not have and nothing else stands in the way. -/
theorem wp_move_drive2slot {drv : DriveInfo} (hc : Conserved smc) (hne : i ≠ j)
    (hsrc : smc.slots[i]? = some src) (hdest : smc.slots[j]? = some dest) (hends : Ends smc i j Q)
    (hmissing : ∀ state, src.slotOccupied = false → saysOccupied state = true →
      dest.slotOccupied = false → (dest.is_map_slot = true → smc.cap_closed = true) →
      ∀ ts, Q (state :: ts) none) :
    wp hearing Q (smc.move_drive2slot i src drv j dest) [] := by
  simp only [Smc.move_drive2slot, Smc.refuse]
  apply wp_driveOccupied
  intro state
  split
  · exact hends.refused _ _ rfl
  rename_i hocc
  split
  · exact hends.refused _ _ rfl
  rename_i hfree
  split
  · exact hends.refused _ _ rfl
  rename_i hmap
  have hport : dest.is_map_slot = true → smc.cap_closed = true := by
    intro h
    simpa [Smc.map_access_ok, h] using hmap
  by_cases hfull : src.slotOccupied = true
  · obtain ⟨m, barcode, hm, hb⟩ := hc.cartridge hsrc hfull
    simp only [hb]
    apply wp_after_move_command
    · intro hnone
      cases hb.symm.trans hnone
    · exact hends
    split
    · exact wp_leave_drive hne hsrc hm hdest hends
    · apply wp_unload
      intro answer
      split
      · exact hends.refused _ _ rfl
      · exact wp_leave_drive hne hsrc hm hdest hends
  · have hgone := hmissing state (by simpa using hfull) (by simpa [hfull] using hocc)
      (by simpa using hfree) hport
    obtain ⟨hnone, hbar⟩ := hc.no_cartridge hsrc (by simpa using hfull)
    have hmove : smc.move_cart i j = none := by simp [Smc.move_cart, hsrc, hnone]
    simp only [hbar, Smc.leave_drive, hmove]
    apply wp_after_move_command
    · intro _
      exact hgone []
    · exact hends
    · split
      · exact hgone []
      · exact hgone []

/-- The destination drive loads a cartridge that is in its element already. -/
theorem wp_enter_drive {smc' : Smc} {srcDrive destDrive : DriveInfo} (hc : Conserved smc')
    (ht : Transfer smc i j smc') (hends : Ends smc i j Q)
    (hback : ∀ answer, saysLoadFailed answer = true → ∀ ts' r, Q (ts ++ [answer] ++ ts') r) :
    wp hearing Q (smc'.enter_drive i srcDrive j destDrive) ts := by
  obtain ⟨sp, dp, m, hsp, hm, hdp, hdm, hfull⟩ := ht.destination
  obtain ⟨n, barcode, hn, hb⟩ := hc.cartridge hdp hfull
  simp only [Smc.enter_drive, hb]
  apply wp_load
  intro answer
  split
  · rename_i hfailed
    exact wp_hearing_of_forall (hback answer hfailed)
  · apply hends.moved
    apply ht.updateDest
    · intro sp
      rfl
    · intro sp hsp
      simpa using hsp

/-- From one drive to another: a transfer or nothing, unless the source drive
claims a cartridge its element does not have and nothing else stands in the way,
or the destination drive fails to load. -/
theorem wp_move_drive2drive {srcDrive destDrive : DriveInfo} {src_addr dest_addr : ℕ}
    (hc : Conserved smc) (hne : src_addr ≠ dest_addr → i ≠ j) (hsrc : smc.slots[i]? = some src)
    (hdest : smc.slots[j]? = some dest) (hends : Ends smc i j Q)
    (hsame : src_addr = dest_addr → Q [] (some (smc, Status.good)))
    (hmissing : ∀ state state', src.slotOccupied = false → saysOccupied state = true →
      dest.slotOccupied = false → saysOccupied state' = false →
      ∀ ts, Q (state :: state' :: ts) none)
    (hback : ∀ state state' unloaded emptied loaded, saysLoadFailed loaded = true →
      ∀ ts r, Q (state :: state' :: unloaded :: emptied :: loaded :: ts) r) :
    wp hearing Q
      (smc.move_drive2drive src_addr i src srcDrive dest_addr j dest destDrive) [] := by
  simp only [Smc.move_drive2drive, Smc.refuse]
  split
  · rename_i heq
    exact hsame heq
  rename_i haddr
  apply wp_driveOccupied
  intro state
  split
  · exact hends.refused _ _ rfl
  rename_i hocc
  apply wp_driveOccupied
  intro state'
  split
  · exact hends.refused _ _ rfl
  rename_i hfree
  rw [Bool.not_eq_true, Bool.or_eq_false_iff] at hfree
  by_cases hfull : src.slotOccupied = true
  · obtain ⟨m, barcode, hm, hb⟩ := hc.cartridge hsrc hfull
    obtain ⟨smc', hmove⟩ := move_cart_some j hsrc hm
    simp only [hb, hmove]
    apply wp_after_move_command
    · intro hnone
      cases hb.symm.trans hnone
    · exact hends
    apply wp_unload
    intro unloaded
    split
    · exact hends.refused _ _ rfl
    apply wp_setDriveEmpty
    intro emptied
    have ht : Transfer smc i j (smc'.updateSlot i fun sp => sp.setFullStatus false) := by
      apply (Transfer.of_move_cart (hne haddr) hsrc hm hdest hmove).updateSource
      · intro sp
        rfl
      · intro sp _
        simp
    apply wp_enter_drive (hc.transfer ht) ht hends
    intro loaded hfailed ts' r
    exact hback state state' unloaded emptied loaded hfailed ts' r
  · have hgone := hmissing state state' (by simpa using hfull) (by simpa [hfull] using hocc)
      hfree.1 hfree.2
    have hbar := (hc.no_cartridge hsrc (by simpa using hfull)).2
    simp only [hbar]
    apply wp_after_move_command
    · intro _
      exact hgone []
    · exact hends
    · exact hgone []

namespace Smc

/-- The element found at an address has it. -/
theorem slot2struct_some {smc : Smc} {addr i : ℕ} {sp : Slot}
    (h : smc.slot2struct addr = some (i, sp)) :
    smc.slots[i]? = some sp ∧ sp.slot_location = addr := by
  simp only [slot2struct, Option.bind_eq_some_iff, Option.map_eq_some_iff, Prod.mk.injEq] at h
  obtain ⟨k, hfind, s, hget, rfl, rfl⟩ := h
  refine ⟨hget, ?_⟩
  obtain ⟨hlt, hloc, _⟩ := List.findIdx?_eq_some_iff_getElem.mp hfind
  rw [List.getElem?_eq_getElem hlt, Option.some.injEq] at hget
  rw [hget] at hloc
  simpa using hloc

/-- The drive found at an address is that of the element. -/
theorem drive2struct_some {smc : Smc} {addr i : ℕ} {sp : Slot} {drv : DriveInfo}
    (h : smc.drive2struct addr = some (i, sp, drv)) :
    smc.slot2struct addr = some (i, sp) ∧ sp.drive = some drv := by
  simp only [drive2struct, Option.bind_eq_some_iff, Option.map_eq_some_iff, Prod.mk.injEq] at h
  obtain ⟨⟨k, s⟩, hfind, d, hdrive, rfl, rfl, rfl⟩ := h
  exact ⟨hfind, hdrive⟩

/-- A valid drive address has a drive. -/
theorem valid_slot_drive {smc : Smc} {addr : ℕ} (h : smc.valid_slot addr = true)
    (htype : smc.slot_type addr = some .DATA_TRANSFER) :
    ∃ i sp drv, smc.drive2struct addr = some (i, sp, drv) := by
  simp only [valid_slot, htype] at h
  cases hd : smc.drive2struct addr with
  | none => simp [hd] at h
  | some d => exact ⟨d.1, d.2.1, d.2.2, rfl⟩

/-- A valid address other than a drive's has an element. -/
theorem valid_slot_slot {smc : Smc} {addr : ℕ} (h : smc.valid_slot addr = true)
    (htype : smc.slot_type addr ≠ some .DATA_TRANSFER) :
    ∃ i sp, smc.slot2struct addr = some (i, sp) := by
  have hsome : (smc.slot2struct addr).isSome = true := by
    cases ht : smc.slot_type addr with
    | none => simp [valid_slot, ht] at h
    | some t =>
      cases t with
      | MEDIUM_TRANSPORT => simp [valid_slot, ht] at h
      | STORAGE_ELEMENT => simpa [valid_slot, ht] using h
      | MAP_ELEMENT => simpa [valid_slot, ht] using h
      | DATA_TRANSFER => exact absurd ht htype
  obtain ⟨⟨i, sp⟩, hsp⟩ := Option.isSome_iff_exists.mp hsome
  exact ⟨i, sp, hsp⟩

/-- Elements at different addresses are different. -/
theorem slot2struct_ne {smc : Smc} {a b i j : ℕ} {sp dp : Slot} (hab : a ≠ b)
    (ha : smc.slot2struct a = some (i, sp)) (hb : smc.slot2struct b = some (j, dp)) : i ≠ j := by
  obtain ⟨hi, hloc⟩ := slot2struct_some ha
  obtain ⟨hj, hloc'⟩ := slot2struct_some hb
  rintro rfl
  cases hi.symm.trans hj
  exact hab (hloc.symm.trans hloc')

/-- Nothing at the destination stands in the way of a move, going by the answers. -/
def DestinationFree (smc : Smc) (dest_addr : ℕ) (ts : List Text) : Prop :=
  if smc.slot_type dest_addr = some .DATA_TRANSFER then
    ∃ j dest drv state, smc.drive2struct dest_addr = some (j, dest, drv) ∧
      dest.slotOccupied = false ∧ ts[1]? = some state ∧ saysOccupied state = false
  else
    ∃ j dest, smc.slot2struct dest_addr = some (j, dest) ∧ dest.slotOccupied = false ∧
      (dest.is_map_slot = true → smc.cap_closed = true)

/-- The source drive claims a cartridge its element does not have. -/
def Phantom (smc : Smc) (src_addr dest_addr : ℕ) (ts : List Text) : Prop :=
  smc.slot_type src_addr = some .DATA_TRANSFER ∧
    ∃ i src drv state, smc.drive2struct src_addr = some (i, src, drv) ∧
      src.slotOccupied = false ∧ ts[0]? = some state ∧ saysOccupied state = true ∧
      smc.DestinationFree dest_addr ts

/-- The destination drive of a move between drives fails to load: the fifth
answer, after both states, the unload and the emptying of the source. -/
def UndoneLoad (smc : Smc) (src_addr dest_addr : ℕ) (ts : List Text) : Prop :=
  smc.slot_type src_addr = some .DATA_TRANSFER ∧ smc.slot_type dest_addr = some .DATA_TRANSFER ∧
    ∃ answer, ts[4]? = some answer ∧ saysLoadFailed answer = true

/-- What a move between two addresses ends with. -/
inductive Outcome (smc : Smc) (src_addr dest_addr : ℕ) : List Text → Moved → Prop where
  /-- Refused with the inventory as it was. -/
  | refused {ts : List Text} {status : Status} (h : status.sam_stat = SAM_STAT_CHECK_CONDITION) :
      Outcome smc src_addr dest_addr ts (some (smc, status))
  /-- A transfer from the one address to the other. -/
  | moved {ts : List Text} {i j : ℕ} {src dest : Slot} {smc' : Smc}
      (hsrc : smc.slot2struct src_addr = some (i, src))
      (hdest : smc.slot2struct dest_addr = some (j, dest)) (h : Transfer smc i j smc') :
      Outcome smc src_addr dest_addr ts (some (smc', Status.good))
  /-- Nothing to do between an address and itself. -/
  | same {ts : List Text} (h : src_addr = dest_addr) :
      Outcome smc src_addr dest_addr ts (some (smc, Status.good))
  /-- The source drive claims a cartridge its element does not have. -/
  | phantom {ts : List Text} (h : smc.Phantom src_addr dest_addr ts) :
      Outcome smc src_addr dest_addr ts none
  /-- The destination drive fails to load. -/
  | undone {ts : List Text} {r : Moved} (h : smc.UndoneLoad src_addr dest_addr ts) :
      Outcome smc src_addr dest_addr ts r

/-- A move between two addresses that are valid. -/
theorem wp_move {smc : Smc} {src_addr dest_addr : ℕ} (hc : Conserved smc)
    (hsrc : smc.valid_slot src_addr = true) (hdest : smc.valid_slot dest_addr = true) :
    wp hearing (Outcome smc src_addr dest_addr) (smc.move src_addr dest_addr) [] := by
  have hends : ∀ i j src dest, smc.slot2struct src_addr = some (i, src) →
      smc.slot2struct dest_addr = some (j, dest) →
      Ends smc i j (Outcome smc src_addr dest_addr) := by
    intro i j src dest hs hd
    exact ⟨fun ts status h => Outcome.refused h, fun ts smc' h => Outcome.moved hs hd h⟩
  simp only [move]
  by_cases hsrcType : smc.slot_type src_addr = some .DATA_TRANSFER
  · obtain ⟨i, src, srcDrive, hsd⟩ := valid_slot_drive hsrc hsrcType
    obtain ⟨hs, hsdrive⟩ := drive2struct_some hsd
    by_cases hdestType : smc.slot_type dest_addr = some .DATA_TRANSFER
    · obtain ⟨j, dest, destDrive, hdd⟩ := valid_slot_drive hdest hdestType
      obtain ⟨hd, hddrive⟩ := drive2struct_some hdd
      simp only [hsrcType, hdestType, if_true, hsd, hdd]
      apply wp_move_drive2drive hc (fun hne => slot2struct_ne hne hs hd) (slot2struct_some hs).1
        (slot2struct_some hd).1 (hends i j src dest hs hd)
      · exact Outcome.same
      · intro state state' hempty hclaim hfree hfree' ts
        refine Outcome.phantom ⟨hsrcType, i, src, srcDrive, state, hsd, hempty, rfl, hclaim, ?_⟩
        rw [DestinationFree, if_pos hdestType]
        exact ⟨j, dest, destDrive, state', hdd, hfree, rfl, hfree'⟩
      · intro state state' unloaded emptied loaded hfailed ts r
        exact Outcome.undone ⟨hsrcType, hdestType, loaded, rfl, hfailed⟩
    · obtain ⟨j, dest, hd⟩ := valid_slot_slot hdest hdestType
      have hne : src_addr ≠ dest_addr := by
        rintro rfl
        exact hdestType hsrcType
      simp only [hsrcType, hdestType, if_true, if_false, hsd, hd]
      apply wp_move_drive2slot hc (slot2struct_ne hne hs hd) (slot2struct_some hs).1
        (slot2struct_some hd).1 (hends i j src dest hs hd)
      intro state hempty hclaim hfree hmap ts
      refine Outcome.phantom ⟨hsrcType, i, src, srcDrive, state, hsd, hempty, rfl, hclaim, ?_⟩
      rw [DestinationFree, if_neg hdestType]
      exact ⟨j, dest, hd, hfree, hmap⟩
  · obtain ⟨i, src, hs⟩ := valid_slot_slot hsrc hsrcType
    by_cases hdestType : smc.slot_type dest_addr = some .DATA_TRANSFER
    · obtain ⟨j, dest, destDrive, hdd⟩ := valid_slot_drive hdest hdestType
      obtain ⟨hd, hddrive⟩ := drive2struct_some hdd
      have hne : src_addr ≠ dest_addr := by
        rintro rfl
        exact hsrcType hdestType
      simp only [hsrcType, hdestType, if_true, if_false, hs, hdd]
      exact wp_move_slot2drive hc (slot2struct_ne hne hs hd) (slot2struct_some hs).1
        (slot2struct_some hd).1 (hends i j src dest hs hd)
    · obtain ⟨j, dest, hd⟩ := valid_slot_slot hdest hdestType
      simp only [hsrcType, hdestType, if_false, hs, hd]
      exact wp_move_slot2slot hc (slot2struct_some hs).1 (slot2struct_some hd).1
        (hends i j src dest hs hd)

/-- Bad addresses are refused, good ones are valid. -/
theorem addressStatus_cases (smc : Smc) (transport_addr src_addr dest_addr : ℕ) :
    (smc.addressStatus transport_addr src_addr dest_addr).sam_stat = SAM_STAT_CHECK_CONDITION ∨
      (smc.addressStatus transport_addr src_addr dest_addr).sam_stat = SAM_STAT_GOOD ∧
        smc.valid_slot src_addr = true ∧ smc.valid_slot dest_addr = true := by
  simp only [addressStatus]
  split
  · exact Or.inl rfl
  rename_i hdest
  split
  · exact Or.inl rfl
  rename_i hsrc
  split
  · exact Or.inl rfl
  · exact Or.inr ⟨rfl, by simpa using hsrc, by simpa using hdest⟩

/-- A command that does not move anything, or a move between its addresses. -/
theorem smc_move_medium_cases {smc : Smc} {cdb : Cdb} {tr : List (Sigma Answer)} {r : Moved}
    (hc : Conserved smc) (h : Exec (smc.smc_move_medium cdb) tr r) :
    cdb 11 ≠ 0 ∧ r = some (smc, Status.good) ∨
      Outcome smc (cdb.get_unaligned_be16 4) (cdb.get_unaligned_be16 6) (replies tr) r := by
  have hwp : wp hearing (fun ts r => cdb 11 ≠ 0 ∧ r = some (smc, Status.good) ∨
      Outcome smc (cdb.get_unaligned_be16 4) (cdb.get_unaligned_be16 6) ts r)
      (smc.smc_move_medium cdb) [] := by
    simp only [smc_move_medium, refuse]
    split
    · exact Or.inr (Outcome.refused rfl)
    split
    · exact Or.inr (Outcome.refused rfl)
    split
    · rename_i hport
      exact Or.inl ⟨hport, rfl⟩
    rcases smc.addressStatus_cases
      (if cdb.get_unaligned_be16 2 = 0 then smc.pm.start_picker else cdb.get_unaligned_be16 2)
      (cdb.get_unaligned_be16 4) (cdb.get_unaligned_be16 6) with hbad | ⟨hgood, hsrc, hdest⟩
    · rw [if_neg (by rw [hbad]; decide)]
      exact Or.inr (Outcome.refused hbad)
    · rw [if_pos hgood]
      exact wp_mono (wp_move hc hsrc hdest) fun _ _ => Or.inr
  simpa using h.of_wp (hearing_admits tr []) hwp

end Smc

end Mhvtl
