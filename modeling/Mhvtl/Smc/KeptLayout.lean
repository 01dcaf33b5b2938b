import Mhvtl.Smc.Inventories
import Mhvtl.Smc.Layout

/-!
# Steps keep the layout

A move edits elements in place, and messages of the library do so too, except for one that
adds a storage slot. So a library stays laid out as it was, as long as slots are added
only where there is room for them.
-/

namespace Mhvtl

open Interact

/-- A change in a list keeps what it keeps of the one it changes. -/
theorem map_modify {α β : Type} (l : List α) (i : ℕ) {f : α → α} {g : α → β}
    (hf : ∀ a, g (f a) = g a) : (l.modify i f).map g = l.map g := by
  apply List.ext_getElem?
  intro k
  simp only [List.getElem?_map, List.getElem?_modify]
  cases l[k]? with
  | none => rfl
  | some a =>
    by_cases hik : i = k
    · simp [hik, hf]
    · simp [hik]

/-- Elements have the addresses and types they had, and so has the library. -/
structure SameLayout (smc smc' : Smc) : Prop where
  /-- Start addresses. -/
  pm : smc'.pm = smc.pm
  /-- Numbers of elements. -/
  num : ∀ t, smc'.num t = smc.num t
  /-- Addresses and types. -/
  places : smc'.slots.map (fun sp => (sp.slot_location, sp.element_type)) =
    smc.slots.map fun sp => (sp.slot_location, sp.element_type)

namespace SameLayout

variable {smc smc₁ smc₂ : Smc}

/-- Nothing happened. -/
theorem refl (smc : Smc) : SameLayout smc smc := ⟨rfl, fun _ => rfl, rfl⟩

/-- Two steps. -/
theorem trans (h : SameLayout smc smc₁) (h' : SameLayout smc₁ smc₂) : SameLayout smc smc₂ :=
  ⟨h'.pm.trans h.pm, fun t => (h'.num t).trans (h.num t), h'.places.trans h.places⟩

/-- An element keeps its place in a change. -/
theorem updateSlot (smc : Smc) (i : ℕ) {f : Slot → Slot}
    (hf : ∀ sp, (f sp).slot_location = sp.slot_location ∧ (f sp).element_type = sp.element_type) :
    SameLayout smc (smc.updateSlot i f) := by
  refine ⟨rfl, fun t => by cases t <;> rfl, ?_⟩
  exact map_modify smc.slots i fun sp => Prod.ext (hf sp).1 (hf sp).2

/-- Every element keeps its place in a change. -/
theorem mapSlots (smc : Smc) {f : Slot → Slot}
    (hf : ∀ sp, (f sp).slot_location = sp.slot_location ∧ (f sp).element_type = sp.element_type) :
    SameLayout smc { smc with slots := smc.slots.map f } := by
  refine ⟨rfl, fun t => by cases t <;> rfl, ?_⟩
  rw [List.map_map]
  exact List.map_congr_left fun sp _ => Prod.ext (hf sp).1 (hf sp).2

/-- Cartridge records have no place. -/
theorem updateMedia (smc : Smc) (m : ℕ) (f : MediaInfo → MediaInfo) :
    SameLayout smc (smc.updateMedia m f) := ⟨rfl, fun t => by cases t <;> rfl, rfl⟩

/-- The port has no place. -/
theorem port (smc : Smc) (closed : Bool) : SameLayout smc { smc with cap_closed := closed } :=
  ⟨rfl, fun t => by cases t <;> rfl, rfl⟩

/-- A cartridge changes its element. -/
theorem move_cart {i j : ℕ} (h : smc.move_cart i j = some smc₁) : SameLayout smc smc₁ := by
  obtain ⟨sp, -, hrest⟩ := Option.bind_eq_some_iff.mp h
  obtain ⟨m, -, rfl⟩ := Option.map_eq_some_iff.mp hrest
  refine ((updateMedia smc m _).trans (updateSlot _ j fun dp => ?_)).trans
    (updateSlot _ i fun _ => ⟨rfl, rfl⟩)
  simp only [Slot.filled]
  split <;> exact ⟨rfl, rfl⟩

/-- A library with the same layout is laid out, too. -/
theorem laidOut (h : SameLayout smc smc₁) (hl : smc.LaidOut) : smc₁.LaidOut := by
  have hstart : ∀ t, smc₁.pm.start t = smc.pm.start t := fun t => by rw [h.pm]
  have hasc : smc₁.slots.Pairwise fun sp sq => sp.slot_location < sq.slot_location := by
    have hpairs : (smc₁.slots.map fun sp => (sp.slot_location, sp.element_type)).Pairwise
        fun a b => a.1 < b.1 := by
      rw [h.places, List.pairwise_map]
      exact hl.ascending
    rwa [List.pairwise_map] at hpairs
  have hplace : ∀ sp ∈ smc₁.slots, ∃ sq ∈ smc.slots, sq.slot_location = sp.slot_location ∧
      sq.element_type = sp.element_type := by
    intro sp hsp
    have hmem := List.mem_map_of_mem (f := fun sp : Slot => (sp.slot_location, sp.element_type)) hsp
    rw [h.places] at hmem
    obtain ⟨sq, hsq, heq⟩ := List.mem_map.mp hmem
    exact ⟨sq, hsq, (Prod.mk.inj heq).1, (Prod.mk.inj heq).2⟩
  refine ⟨h.pm ▸ hl.starts, ?_, ?_, ?_, ?_, hasc, ?_⟩
  · intro t u hlt
    rw [hstart, hstart] at hlt
    rw [hstart, hstart, h.num]
    exact hl.apart t u hlt
  · intro t
    rw [hstart]
    exact hl.positive t
  · intro t
    rw [hstart, h.num]
    exact hl.fits t
  · intro sp hsp
    obtain ⟨sq, hsq, hloc, htype⟩ := hplace sp hsp
    rw [hstart, h.num, ← hloc, ← htype]
    exact hl.inRange sq hsq
  · intro t
    have hcount : ∀ l : List Slot, (l.countP fun sp => sp.element_type == t) =
        (l.map fun sp => (sp.slot_location, sp.element_type)).countP fun a => a.2 == t := by
      intro l
      rw [List.countP_map]
      rfl
    rw [hcount, h.places, ← hcount, hl.counted, h.num]

end SameLayout

section Moves

variable {smc smc' : Smc} {i j : ℕ} {src dest : Slot} {ts : List Text}

/-- A result whose library has the layout of another. -/
def KeepsLayout (smc : Smc) (_ : List Text) (r : Moved) : Prop :=
  ∀ x ∈ r, SameLayout smc x.1

/-- The daemon ended. -/
theorem KeepsLayout.ended : KeepsLayout smc ts none := by
  intro x hx
  cases hx

/-- A library with the same layout. -/
theorem KeepsLayout.of_same {status : Status} (h : SameLayout smc smc') :
    KeepsLayout smc ts (some (smc', status)) := by
  intro x hx
  rw [← Option.some.inj hx]
  exact h

/-- A refused move. -/
theorem KeepsLayout.refuse (h : SameLayout smc smc') (status : Status) :
    wp hearing (KeepsLayout smc) (smc'.refuse status) ts := KeepsLayout.of_same h

/-- The rest of a move comes after the move script. -/
theorem KeepsLayout.after_move_command {next : Proc Moved} (h : SameLayout smc smc')
    (hnext : wp hearing (KeepsLayout smc) next ts) :
    wp hearing (KeepsLayout smc) (smc'.after_move_command i src dest next) ts :=
  wp_run_move_command (fun _ => KeepsLayout.ended) (KeepsLayout.refuse h _) hnext

/-- From a slot into a drive. -/
theorem KeepsLayout.move_slot2drive (smc : Smc) (drv : DriveInfo) :
    wp hearing (KeepsLayout smc) (smc.move_slot2drive i src j dest drv) ts := by
  have hrefl := SameLayout.refl smc
  simp only [Smc.move_slot2drive]
  split
  · exact KeepsLayout.refuse hrefl _
  apply wp_driveOccupied
  intro state
  split
  · exact KeepsLayout.refuse hrefl _
  split
  · exact KeepsLayout.refuse hrefl _
  apply KeepsLayout.after_move_command hrefl
  cases smc.barcode i with
  | none => exact KeepsLayout.ended
  | some barcode =>
    apply wp_load
    intro answer
    split
    · exact KeepsLayout.refuse hrefl _
    cases hmove : smc.move_cart i j with
    | none => exact KeepsLayout.ended
    | some smc₁ =>
      exact KeepsLayout.of_same
        ((SameLayout.move_cart hmove).trans (SameLayout.updateSlot _ j fun _ => ⟨rfl, rfl⟩))

/-- From one slot to another. -/
theorem KeepsLayout.move_slot2slot (smc : Smc) :
    wp hearing (KeepsLayout smc) (smc.move_slot2slot i src j dest) ts := by
  have hrefl := SameLayout.refl smc
  simp only [Smc.move_slot2slot]
  split
  · exact KeepsLayout.refuse hrefl _
  split
  · exact KeepsLayout.refuse hrefl _
  split
  · exact KeepsLayout.refuse hrefl _
  split
  · exact KeepsLayout.refuse hrefl _
  cases smc.barcode i with
  | none => exact KeepsLayout.ended
  | some barcode =>
    apply KeepsLayout.after_move_command hrefl
    cases hmove : smc.move_cart i j with
    | none => exact KeepsLayout.ended
    | some smc₁ => exact KeepsLayout.of_same (SameLayout.move_cart hmove)

/-- Second half of a move out of a drive. -/
theorem KeepsLayout.leave_drive (smc : Smc) (drv : DriveInfo) :
    wp hearing (KeepsLayout smc) (smc.leave_drive i j drv) ts := by
  simp only [Smc.leave_drive]
  cases hmove : smc.move_cart i j with
  | none => exact KeepsLayout.ended
  | some smc₁ =>
    apply wp_setDriveEmpty
    intro answer
    exact KeepsLayout.of_same
      ((SameLayout.move_cart hmove).trans (SameLayout.updateSlot _ i fun _ => ⟨rfl, rfl⟩))

/-- From a drive into a slot. -/
theorem KeepsLayout.move_drive2slot (smc : Smc) (drv : DriveInfo) :
    wp hearing (KeepsLayout smc) (smc.move_drive2slot i src drv j dest) ts := by
  have hrefl := SameLayout.refl smc
  apply wp_driveOccupied
  intro state
  split
  · exact KeepsLayout.refuse hrefl _
  split
  · exact KeepsLayout.refuse hrefl _
  split
  · exact KeepsLayout.refuse hrefl _
  apply KeepsLayout.after_move_command hrefl
  split
  · exact KeepsLayout.leave_drive smc drv
  cases smc.barcode i with
  | none => exact KeepsLayout.ended
  | some barcode =>
    apply wp_unload
    intro answer
    split
    · exact KeepsLayout.refuse hrefl _
    · exact KeepsLayout.leave_drive smc drv

/-- The cartridge goes back into the drive it came from. -/
theorem KeepsLayout.put_back (h : SameLayout smc smc') (drv : DriveInfo) :
    wp hearing (KeepsLayout smc) (smc'.put_back i drv j) ts := by
  simp only [Smc.put_back]
  cases hmove : smc'.move_cart j i with
  | none => exact KeepsLayout.ended
  | some smc₁ =>
    dsimp only
    cases smc₁.barcode i with
    | none => exact KeepsLayout.ended
    | some barcode =>
      apply wp_load
      intro answer
      exact KeepsLayout.refuse (h.trans (SameLayout.move_cart hmove)) _

/-- Second half of a move between drives. -/
theorem KeepsLayout.enter_drive (h : SameLayout smc smc') (srcDrive destDrive : DriveInfo) :
    wp hearing (KeepsLayout smc) (smc'.enter_drive i srcDrive j destDrive) ts := by
  simp only [Smc.enter_drive]
  cases smc'.barcode j with
  | none => exact KeepsLayout.ended
  | some barcode =>
    apply wp_load
    intro answer
    split
    · exact KeepsLayout.put_back h srcDrive
    · exact KeepsLayout.of_same (h.trans (SameLayout.updateSlot _ j fun _ => ⟨rfl, rfl⟩))

/-- From one drive to another. -/
theorem KeepsLayout.move_drive2drive (smc : Smc) (src_addr dest_addr : ℕ)
    (srcDrive destDrive : DriveInfo) : wp hearing (KeepsLayout smc)
      (smc.move_drive2drive src_addr i src srcDrive dest_addr j dest destDrive) ts := by
  have hrefl := SameLayout.refl smc
  simp only [Smc.move_drive2drive]
  split
  · exact KeepsLayout.of_same hrefl
  apply wp_driveOccupied
  intro state
  split
  · exact KeepsLayout.refuse hrefl _
  apply wp_driveOccupied
  intro state'
  split
  · exact KeepsLayout.refuse hrefl _
  apply KeepsLayout.after_move_command hrefl
  cases smc.barcode i with
  | none => exact KeepsLayout.ended
  | some barcode =>
    apply wp_unload
    intro answer
    split
    · exact KeepsLayout.refuse hrefl _
    cases hmove : smc.move_cart i j with
    | none => exact KeepsLayout.ended
    | some smc₁ =>
      apply wp_setDriveEmpty
      intro answer'
      apply KeepsLayout.enter_drive
      exact (SameLayout.move_cart hmove).trans (SameLayout.updateSlot _ i fun _ => ⟨rfl, rfl⟩)

/-- Any move. -/
theorem KeepsLayout.move (smc : Smc) (src_addr dest_addr : ℕ) :
    wp hearing (KeepsLayout smc) (smc.move src_addr dest_addr) ts := by
  simp only [Smc.move]
  split
  · split
    · split
      · exact KeepsLayout.move_drive2drive smc _ _ _ _
      · exact KeepsLayout.ended
    · split
      · exact KeepsLayout.move_drive2slot smc _
      · exact KeepsLayout.ended
  · split
    · split
      · exact KeepsLayout.move_slot2drive smc _
      · exact KeepsLayout.ended
    · split
      · exact KeepsLayout.move_slot2slot smc
      · exact KeepsLayout.ended

/-- MOVE MEDIUM, whatever its surroundings answer. -/
theorem SameLayout.smc_move_medium {cdb : Cdb} {tr : List (Sigma Answer)} {r : Moved}
    (h : Exec (smc.smc_move_medium cdb) tr r) : ∀ x ∈ r, SameLayout smc x.1 := by
  have hrefl := SameLayout.refl smc
  have hwp : wp hearing (KeepsLayout smc) (smc.smc_move_medium cdb) [] := by
    simp only [Smc.smc_move_medium]
    split
    · exact KeepsLayout.refuse hrefl _
    split
    · exact KeepsLayout.refuse hrefl _
    split
    · exact KeepsLayout.of_same hrefl
    generalize smc.addressStatus _ _ _ = status
    by_cases hgood : status.sam_stat = SAM_STAT_GOOD
    · rw [if_pos hgood]
      exact KeepsLayout.move smc _ _
    · rw [if_neg hgood]
      exact KeepsLayout.refuse hrefl _
  exact h.of_wp (hearing_admits tr []) hwp

end Moves

section Messages

variable {smc smc' : Smc}

/-- A message that puts a cartridge into the port. -/
theorem SameLayout.load_map {msg : QMsg} {text : Text} (h : smc.load_map msg = some (smc', text)) :
    SameLayout smc smc' := by
  have hrefl := SameLayout.refl smc
  simp only [Smc.load_map] at h
  split at h
  · cases h
    exact hrefl
  split at h
  · cases h
    exact hrefl
  split at h
  · cases h
  · cases h
    exact hrefl
  split at h
  · cases h
    exact hrefl
  split at h
  · cases h
    exact hrefl
  split at h
  · cases h
  · next i _ _ smc₁ mp hor =>
    cases h
    have hrecord : SameLayout smc smc₁ := by
      rcases Option.or_eq_some_iff.mp hor with hknown | ⟨-, hadd⟩
      · obtain ⟨_, -, heq⟩ := Option.map_eq_some_iff.mp hknown
        cases heq
        exact hrefl
      · simp only [Smc.add_barcode] at hadd
        split at hadd
        · cases hadd
        split at hadd
        · cases hadd
        cases hadd
        exact ⟨rfl, fun t => by cases t <;> rfl, rfl⟩
    exact (hrecord.trans (SameLayout.updateMedia _ mp _)).trans
      (SameLayout.updateSlot _ i fun _ => ⟨rfl, rfl⟩)

/-- Storage slots come last, and there is an address for one more. -/
structure Smc.HasRoom (smc : Smc) : Prop where
  /-- Storage slots come last. -/
  last : ∀ t, t ≠ .STORAGE_ELEMENT → smc.pm.start t < smc.pm.start .STORAGE_ELEMENT
  /-- There is an address left. -/
  room : smc.pm.start .STORAGE_ELEMENT + smc.num .STORAGE_ELEMENT < 65536

/-- A storage slot that is added where there is room. -/
theorem Smc.LaidOut.add_storage_slot (h : smc.LaidOut) (hroom : smc.HasRoom) :
    smc.add_storage_slot.1.LaidOut := by
  have hnum : ∀ t, smc.add_storage_slot.1.num t =
      smc.num t + if t = .STORAGE_ELEMENT then 1 else 0 := fun t => by cases t <;> rfl
  have hfirst : ∀ t, smc.pm.start t ≤ smc.pm.start .STORAGE_ELEMENT := by
    intro t
    by_cases ht : t = .STORAGE_ELEMENT
    · rw [ht]
    · exact (hroom.last t ht).le
  have hloc : smc.num_storage + 1 + smc.pm.start_storage - 1 =
      smc.pm.start .STORAGE_ELEMENT + smc.num .STORAGE_ELEMENT := by
    simp only [Personality.start, Smc.num]
    omega
  refine h.append rfl rfl hnum hloc (fun sp _ => hfirst _) (fun u hlt => ?_) ?_
  · exact absurd (hlt.trans_le (hfirst u)) (Nat.lt_irrefl _)
  · exact (congrArg (· + 1) hloc).trans_le hroom.room

/-- Slots are added where there is room for them. -/
def RoomForSlots (st : Option Smc) (l : LibraryEvent) : Prop :=
  ∀ smc msg, st = some smc → l = .message msg → "add slot".toList <+: msg.text → smc.HasRoom

/-- A message that adds no slot keeps the layout. -/
theorem SameLayout.processMessageQ {msg : QMsg} {out : List Text}
    (hrun : smc.processMessageQ msg = some (smc', out)) :
    "add slot".toList <+: msg.text ∧ smc' = smc.add_storage_slot.1 ∨ SameLayout smc smc' := by
  rcases Smc.processMessageQ_cases smc msg with hnone | ⟨x, hx, hstart, hcall⟩
  · rw [hnone] at hrun
    cases hrun
    exact Or.inr (SameLayout.refl smc)
  rw [hcall] at hrun
  simp only [Smc.handlers, List.mem_cons, List.not_mem_nil, or_false] at hx
  rcases hx with rfl | rfl | rfl | rfl | rfl | rfl | rfl
  · cases hrun
    exact Or.inl ⟨hstart, rfl⟩
  · cases hrun
    right
    simp only [Smc.empty_map]
    split
    · exact SameLayout.refl smc
    · apply SameLayout.mapSlots
      intro sp
      split <;> exact ⟨rfl, rfl⟩
  · cases hrun
    right
    apply SameLayout.mapSlots
    intro sp
    split <;> exact ⟨rfl, rfl⟩
  · cases hrun
    exact Or.inr (SameLayout.port smc false)
  · cases hrun
    exact Or.inr (SameLayout.port smc true)
  · obtain ⟨r, hr, heq⟩ := Option.map_eq_some_iff.mp hrun
    obtain ⟨text, -, rfl⟩ := Option.map_eq_some_iff.mp hr
    cases heq
    exact Or.inr (SameLayout.refl smc)
  · obtain ⟨r, hr, heq⟩ := Option.map_eq_some_iff.mp hrun
    obtain ⟨q, hq, rfl⟩ := Option.map_eq_some_iff.mp hr
    cases heq
    exact Or.inr (SameLayout.load_map hq)

/-- A message, with room for the slot if it adds one. -/
theorem Smc.LaidOut.processMessageQ (h : smc.LaidOut) {msg : QMsg} {out : List Text}
    (hroom : "add slot".toList <+: msg.text → smc.HasRoom)
    (hrun : smc.processMessageQ msg = some (smc', out)) : smc'.LaidOut := by
  rcases SameLayout.processMessageQ hrun with ⟨hstart, rfl⟩ | hsame
  · exact h.add_storage_slot (hroom hstart)
  · exact hsame.laidOut h

end Messages

/-- Elements keep their places, and others come behind them. -/
structure PlacesKept (smc smc' : Smc) : Prop where
  /-- Start addresses. -/
  pm : smc'.pm = smc.pm
  /-- Addresses and types. -/
  places : (smc.slots.map fun sp => (sp.slot_location, sp.element_type)) <+:
    smc'.slots.map fun sp => (sp.slot_location, sp.element_type)

namespace PlacesKept

variable {smc smc₁ smc₂ : Smc}

/-- Two steps. -/
theorem trans (h : PlacesKept smc smc₁) (h' : PlacesKept smc₁ smc₂) : PlacesKept smc smc₂ :=
  ⟨h'.pm.trans h.pm, h.places.trans h'.places⟩

/-- The layout is the same. -/
theorem of_same (h : SameLayout smc smc₁) : PlacesKept smc smc₁ :=
  ⟨h.pm, h.places ▸ List.prefix_rfl⟩

/-- A message adds a slot at most. -/
theorem processMessageQ {msg : QMsg} {out : List Text}
    (hrun : smc.processMessageQ msg = some (smc₁, out)) : PlacesKept smc smc₁ := by
  rcases SameLayout.processMessageQ hrun with ⟨-, rfl⟩ | hsame
  · refine ⟨rfl, ?_⟩
    simp only [Smc.add_storage_slot, List.map_append]
    exact List.prefix_append _ _
  · exact of_same hsame

end PlacesKept

end Mhvtl
