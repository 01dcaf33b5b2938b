import Mhvtl.Smc.Configured
import Mhvtl.Smc.KeptLayout

/-!
# The drives of a library

Behind its contents file the library reads the device file, which tells the message queues of its
drives. A drive without an element gets one, under no address of the library.
-/

namespace Mhvtl

open Scanf

/-- Scan a line for the queue of a drive, `"Drive: %ld"`. -/
def scanDrive (b : Text) : Option ℤ :=
  (literal "Drive:".toList b).andThen fun _ rest =>
    (number rest).andThen fun drv_id _ => some drv_id

/-- Scan a line for a library and the number of an element, `" Library ID: %ld Slot: %d"`. -/
def scanElement (b : Text) : Option (ℤ × ℤ) :=
  (literal "Library".toList (skipSpace b)).andThen fun _ rest =>
    (literal "ID:".toList (skipSpace rest)).andThen fun _ rest =>
      (number rest).andThen fun lib_id rest =>
        (literal "Slot:".toList (skipSpace rest)).andThen fun _ rest =>
          (number rest).andThen fun slot _ => some (lib_id, slot)

/-- The drive of an element has another queue. -/
def Slot.setDrive (sp : Slot) (drv_id : ℕ) : Slot :=
  { sp with
    drive := sp.drive.map fun _ => ⟨drv_id⟩
    wired := by
      rw [Option.isSome_map]
      exact sp.wired }

/-- An element for a drive that has none. -/
def Slot.added (drv_id : ℕ) : Slot where
  slot_location := 0
  last_location := 0
  drive := some ⟨drv_id⟩
  media := none
  status := 0
  element_type := .DATA_TRANSFER
  wired := Slot.wired_drive ⟨drv_id⟩

namespace Smc

/-- A drive is in the element with a number. -/
def drive_found (smc : Smc) (slot : ℤ) (drv_id : ℕ) : Smc :=
  match smc.lookup_drive slot with
  | some i => smc.updateSlot i fun sp => sp.setDrive drv_id
  | none => { smc with slots := smc.slots ++ [Slot.added drv_id] }

/-- Read a line of the device file, behind the line with the queue of a drive if that is not
negative. -/
def update_drive_line (my_id : ℤ) (s : Smc × ℤ) (line : Text) : Smc × ℤ :=
  let b := readline line
  if b.head? = some '#' then s
  else
    match scanDrive b, scanElement b with
    | some drv_id, _ => (s.1, drv_id)
    | none, some (lib_id, slot) =>
      if lib_id = my_id ∧ 0 ≤ s.2 then (s.1.drive_found slot s.2.toNat, s.2) else s
    | none, none => if b.length = 1 then (s.1, -1) else s

/-- Read the device file. -/
def update_drive_details (smc : Smc) (my_id : ℤ) (conf : List Text) : Smc :=
  (conf.foldl (update_drive_line my_id) (smc, -1)).1

/-- Every drive that the device file puts into the library has its element. -/
def NamesDrives (smc : Smc) (my_id : ℤ) (conf : List Text) : Prop :=
  ∀ line ∈ conf, ∀ slot, scanElement (readline line) = some (my_id, slot) →
    (smc.lookup_drive slot).isSome = true

/-- Where a drive is found tells its place. -/
theorem lookup_drive_eq (smc : Smc) (slot : ℤ) : smc.lookup_drive slot =
    (smc.slots.map fun sp => (sp.slot_location, sp.element_type)).findIdx? fun x =>
      x.2 == .DATA_TRANSFER && x.1 == smc.location slot .DATA_TRANSFER := by
  rw [List.findIdx?_map]
  rfl

end Smc

/-- A drive is still found where elements keep their places. -/
theorem PlacesKept.lookup_drive {smc smc' : Smc} (h : PlacesKept smc smc') {slot : ℤ}
    (hfound : (smc.lookup_drive slot).isSome = true) :
    (smc'.lookup_drive slot).isSome = true := by
  have hloc : smc'.location slot .DATA_TRANSFER = smc.location slot .DATA_TRANSFER := by
    rw [Smc.location, Smc.location, h.pm]
  obtain ⟨others, hothers⟩ := h.places
  rw [Smc.lookup_drive_eq] at hfound
  rw [Smc.lookup_drive_eq, ← hothers, List.findIdx?_append, Option.isSome_or, hloc, hfound]
  rfl

/-- The device file still names the drives that are there. -/
theorem Smc.NamesDrives.kept {smc smc' : Smc} {my_id : ℤ} {conf : List Text}
    (h : smc.NamesDrives my_id conf) (hkept : PlacesKept smc smc') :
    smc'.NamesDrives my_id conf :=
  fun line hline slot hscan => hkept.lookup_drive (h line hline slot hscan)

/-- Elements are what they were, but for the queues of their drives. -/
structure Redriven (smc smc' : Smc) : Prop where
  /-- Addresses and types. -/
  layout : SameLayout smc smc'
  /-- What they hold. -/
  held : smc'.slots.map (fun sp => (sp.slotOccupied, sp.media)) =
    smc.slots.map fun sp => (sp.slotOccupied, sp.media)
  /-- The cartridges. -/
  media_list : smc'.media_list = smc.media_list

namespace Redriven

variable {smc smc₁ smc₂ : Smc}

/-- Nothing happened. -/
theorem refl (smc : Smc) : Redriven smc smc := ⟨SameLayout.refl smc, rfl, rfl⟩

/-- Two steps. -/
theorem trans (h : Redriven smc smc₁) (h' : Redriven smc₁ smc₂) : Redriven smc smc₂ :=
  ⟨h.layout.trans h'.layout, h'.held.trans h.held, h'.media_list.trans h.media_list⟩

/-- A drive has another queue. -/
theorem updateSlot (smc : Smc) (i drv_id : ℕ) :
    Redriven smc (smc.updateSlot i fun sp => sp.setDrive drv_id) := by
  have hplaces := SameLayout.updateSlot smc i (f := fun sp => sp.setDrive drv_id)
    fun _ => ⟨rfl, rfl⟩
  exact ⟨hplaces, map_modify smc.slots i fun _ => rfl, rfl⟩

/-- An element held the same before. -/
theorem before (h : Redriven smc smc₁) {i : ℕ} {sp : Slot} (hi : smc₁.slots[i]? = some sp) :
    ∃ sq, smc.slots[i]? = some sq ∧ sp.slotOccupied = sq.slotOccupied ∧ sp.media = sq.media := by
  have hheld := congrArg (fun l : List (Bool × Option ℕ) => l[i]?) h.held
  simp only [List.getElem?_map, hi, Option.map_some] at hheld
  obtain ⟨sq, hsq, heq⟩ := Option.map_eq_some_iff.mp hheld.symm
  obtain ⟨hfull, hmedia⟩ := Prod.mk.inj heq
  exact ⟨sq, hsq, hfull.symm, hmedia.symm⟩

/-- Full elements and cartridges belong together. -/
theorem conserved (h : Redriven smc smc₁) (hc : Conserved smc) : Conserved smc₁ := by
  constructor
  · intro sp hsp
    obtain ⟨i, hi⟩ := List.mem_iff_getElem?.mp hsp
    obtain ⟨sq, hsq, hfull, hmedia⟩ := h.before hi
    rw [hfull, hmedia]
    exact hc.full_iff sq (List.mem_of_getElem? hsq)
  · intro sp hsp m hm
    obtain ⟨i, hi⟩ := List.mem_iff_getElem?.mp hsp
    obtain ⟨sq, hsq, -, hmedia⟩ := h.before hi
    rw [h.media_list]
    exact hc.known sq (List.mem_of_getElem? hsq) m (hmedia ▸ hm)
  · intro i j si sj m hi hj hmi hmj
    obtain ⟨ti, hti, -, hmediai⟩ := h.before hi
    obtain ⟨tj, htj, -, hmediaj⟩ := h.before hj
    exact hc.alone i j ti tj m hti htj (hmediai ▸ hmi) (hmediaj ▸ hmj)

end Redriven

/-- A line of the device file tells the queue of a drive at most. -/
theorem Redriven.line {smc : Smc} {my_id : ℤ} {conf : List Text} (h : smc.NamesDrives my_id conf)
    {s : Smc × ℤ} (hs : Redriven smc s.1) {line : Text} (hline : line ∈ conf) :
    Redriven smc (Smc.update_drive_line my_id s line).1 := by
  unfold Smc.update_drive_line
  dsimp only
  split
  · exact hs
  split
  · exact hs
  · next lib_id slot _ hscan =>
    split
    · next hhere =>
      have hfound := h line hline slot (by rw [hscan, hhere.1])
      have hthere := (PlacesKept.of_same hs.layout).lookup_drive hfound
      obtain ⟨i, hi⟩ := Option.isSome_iff_exists.mp hthere
      have hstep : s.1.drive_found slot s.2.toNat =
          s.1.updateSlot i fun sp => sp.setDrive s.2.toNat := by
        rw [Smc.drive_found, hi]
      rw [hstep]
      exact hs.trans (Redriven.updateSlot s.1 i s.2.toNat)
    · exact hs
  · split
    · exact hs
    · exact hs

/-- So does the device file when it puts no drive where there is no element. -/
theorem Smc.update_drive_details_redriven {smc : Smc} {my_id : ℤ} {conf : List Text}
    (h : smc.NamesDrives my_id conf) : Redriven smc (smc.update_drive_details my_id conf) := by
  have hstart : Redriven smc (smc, (-1 : ℤ)).1 := Redriven.refl smc
  exact List.foldlRecOn (motive := fun s : Smc × ℤ => Redriven smc s.1) conf
    (Smc.update_drive_line my_id) hstart fun s hs line hline => Redriven.line h hs hline

end Mhvtl
