import Mhvtl.Smc.Configuration
import Mhvtl.Smc.KeptLayout

/-!
# Shutting a library down

At its end the library forces the cartridges out of its drives, each into the storage slot
it came from or else into the first empty one, and saves its contents in a file. No
cartridge is lost on the way, and one stays in its drive only when every storage slot is full.
-/

namespace Mhvtl

namespace Smc

/-- The storage slot an element's cartridge came from, if it is empty. -/
def previous_storage_slot (smc : Smc) (s : Slot) : Option ℕ :=
  smc.slots.findIdx? fun sp => sp.element_type == .STORAGE_ELEMENT &&
    sp.slot_location == s.last_location && !sp.slotOccupied

/-- The first empty storage slot. -/
def find_empty_storage_slot (smc : Smc) (_ : Slot) : Option ℕ :=
  smc.slots.findIdx? fun sp => !sp.slotOccupied && sp.element_type == .STORAGE_ELEMENT

/-- Force a cartridge into a slot, if there is one. -/
def unload_drive_on_shutdown (smc : Smc) (src : ℕ) : Option ℕ → Option Smc
  | none => some smc
  | some dest => smc.move_cart src dest

/-- Indices of the drive elements, in the order of the list of drives. -/
def drive_list (smc : Smc) : List ℕ :=
  (List.range smc.slots.length).filter fun i =>
    smc.slots[i]?.any fun sp => sp.element_type == .DATA_TRANSFER

/-- Force the cartridge of a drive, if it has one, into the slot that is found for it. -/
def unloadDrive (find : Smc → Slot → Option ℕ) (smc : Smc) (i : ℕ) : Option Smc :=
  (smc.slots[i]?).bind fun sp =>
    if sp.slotOccupied then smc.unload_drive_on_shutdown i (find smc sp) else some smc

/-- Force the cartridges out of the drives, in two walks. -/
def unloadDrives (smc : Smc) : Option Smc :=
  (smc.drive_list.foldlM (unloadDrive previous_storage_slot) smc).bind fun smc =>
    smc.drive_list.foldlM (unloadDrive find_empty_storage_slot) smc

/-- A number as `%d` prints it. -/
def decimal (z : ℤ) : Text := z.repr.toList

/-- Number of an element. -/
def slotNumber (smc : Smc) (sp : Slot) : ℤ :=
  (sp.slot_location : ℤ) - smc.pm.start sp.element_type + 1

/-- What a line on an element begins with. -/
def lineFront (smc : Smc) (sp : Slot) : Text :=
  keyword sp.element_type ++ ' ' :: (decimal (smc.slotNumber sp) ++ [':'])

/-- The line on an element. The one on a drive has no cartridge. -/
def saveLine (smc : Smc) (sp : Slot) : Option Text :=
  if sp.element_type = .DATA_TRANSFER then some (smc.lineFront sp)
  else if sp.slotOccupied then
    (smc.barcodeOf sp).map fun barcode => smc.lineFront sp ++ ' ' :: barcode
  else some (smc.lineFront sp ++ [' '])

/-- The lines on some elements, with an empty one in front of each type. -/
def saveLines (smc : Smc) (last_element_type : Option ElementType) : List Slot → Option (List Text)
  | [] => some []
  | sp :: slots =>
    (smc.saveLine sp).bind fun line =>
      (saveLines smc (some sp.element_type) slots).map fun lines =>
        (if last_element_type = some sp.element_type then [] else [[]]) ++ line :: lines

/-- Save the contents: the library as it then is, and the file. -/
def save_config (smc : Smc) : Option (Smc × List Text) :=
  smc.unloadDrives.bind fun smc =>
    (smc.saveLines none smc.slots).map fun lines => (smc, lines)

end Smc

/-- Cartridges that elements hold. -/
def Smc.Holds (smc : Smc) (m : ℕ) : Prop := ∃ sp ∈ smc.slots, sp.media = some m

/-- Cartridges were taken out of drives and into empty storage slots. -/
structure TakenOut (smc smc' : Smc) : Prop where
  /-- The elements are the same ones. -/
  layout : SameLayout smc smc'
  /-- Full elements and cartridges belong together. -/
  conserved : Conserved smc'
  /-- The bar codes are the same ones. -/
  barcodes : smc'.media_list.map MediaInfo.barcode = smc.media_list.map MediaInfo.barcode
  /-- The same cartridges are in elements. -/
  held : ∀ m, smc'.Holds m ↔ smc.Holds m
  /-- No drive got a cartridge. -/
  drives : ∀ (i : ℕ) (sp : Slot), smc'.slots[i]? = some sp → sp.element_type = .DATA_TRANSFER →
    sp.slotOccupied = true →
    ∃ sq, smc.slots[i]? = some sq ∧ sq.element_type = .DATA_TRANSFER ∧ sq.slotOccupied = true
  /-- No storage slot lost its cartridge. -/
  storage : ∀ (i : ℕ) (sp : Slot), smc'.slots[i]? = some sp → sp.element_type = .STORAGE_ELEMENT →
    sp.slotOccupied = false →
    ∃ sq, smc.slots[i]? = some sq ∧ sq.element_type = .STORAGE_ELEMENT ∧ sq.slotOccupied = false

namespace TakenOut

variable {smc smc₁ smc₂ : Smc}

/-- Nothing was taken. -/
theorem refl (hc : Conserved smc) : TakenOut smc smc :=
  ⟨SameLayout.refl smc, hc, rfl, fun _ => Iff.rfl, fun _ sp hi ht ho => ⟨sp, hi, ht, ho⟩,
    fun _ sp hi ht ho => ⟨sp, hi, ht, ho⟩⟩

/-- One after the other. -/
theorem trans (h : TakenOut smc smc₁) (h' : TakenOut smc₁ smc₂) : TakenOut smc smc₂ where
  layout := h.layout.trans h'.layout
  conserved := h'.conserved
  barcodes := h'.barcodes.trans h.barcodes
  held m := (h'.held m).trans (h.held m)
  drives i sp hi ht ho := by
    obtain ⟨sq, hsq, htype, hfull⟩ := h'.drives i sp hi ht ho
    exact h.drives i sq hsq htype hfull
  storage i sp hi ht ho := by
    obtain ⟨sq, hsq, htype, hempty⟩ := h'.storage i sp hi ht ho
    exact h.storage i sq hsq htype hempty

/-- An element has the type it had. -/
theorem place (h : SameLayout smc smc₁) {i : ℕ} {sp : Slot} (hi : smc₁.slots[i]? = some sp) :
    ∃ sq, smc.slots[i]? = some sq ∧ sq.element_type = sp.element_type := by
  have hplaces := congrArg (fun l => l[i]?) h.places
  simp only [List.getElem?_map, hi, Option.map_some] at hplaces
  obtain ⟨sq, hsq, heq⟩ := Option.map_eq_some_iff.mp hplaces.symm
  exact ⟨sq, hsq, (Prod.mk.inj heq).2⟩

/-- A cartridge that is taken out of a drive into an empty storage slot. -/
theorem of_move_cart (hc : Conserved smc) {i j : ℕ} {sp dp : Slot} (hi : smc.slots[i]? = some sp)
    (hdrive : sp.element_type = .DATA_TRANSFER) (hfull : sp.slotOccupied = true)
    (hj : smc.slots[j]? = some dp) (hstorage : dp.element_type = .STORAGE_ELEMENT)
    (hempty : dp.slotOccupied = false) :
    ∃ smc', smc.move_cart i j = some smc' ∧ TakenOut smc smc' ∧
      ∃ sq, smc'.slots[i]? = some sq ∧ sq.slotOccupied = false := by
  have hne : i ≠ j := by
    rintro rfl
    rw [hi] at hj
    rw [Option.some.inj hj, hempty] at hfull
    cases hfull
  rw [hc.full_iff sp (List.mem_of_getElem? hi)] at hfull
  rw [hc.full_iff dp (List.mem_of_getElem? hj)] at hempty
  obtain ⟨m, hm⟩ := Option.isSome_iff_exists.mp hfull
  obtain ⟨smc', hmove⟩ : ∃ smc', smc.move_cart i j = some smc' := by
    rw [Smc.move_cart, hi, Option.bind_some, hm]
    exact ⟨_, rfl⟩
  have ht := Transfer.of_move_cart hne hi hm hj hmove
  have hlayout := SameLayout.move_cart hmove
  obtain ⟨vacant, hvacant, hvmedia, hvfull⟩ := ht.source
  obtain ⟨sp', dp', m', hsp', hm', hdp', hdm', hdfull⟩ := ht.destination
  cases hi.symm.trans hsp'
  cases hm.symm.trans hm'
  refine ⟨smc', hmove, ⟨hlayout, hc.transfer ht, ?_, ?_, ?_, ?_⟩, vacant, hvacant, hvfull⟩
  · rw [Smc.move_cart, hi, Option.bind_some, hm, Option.map_some] at hmove
    rw [← Option.some.inj hmove]
    exact map_modify smc.media_list m fun _ => rfl
  · intro n
    constructor
    · rintro ⟨sq, hsq, hn⟩
      obtain ⟨k, hk⟩ := List.mem_iff_getElem?.mp hsq
      by_cases hki : k = i
      · rw [hki, hvacant] at hk
        rw [← Option.some.inj hk, hvmedia] at hn
        cases hn
      by_cases hkj : k = j
      · rw [hkj, hdp'] at hk
        rw [← Option.some.inj hk, hdm'] at hn
        exact ⟨sp, List.mem_of_getElem? hi, hm.trans hn⟩
      · rw [ht.others k hki hkj] at hk
        exact ⟨sq, List.mem_of_getElem? hk, hn⟩
    · rintro ⟨sq, hsq, hn⟩
      obtain ⟨k, hk⟩ := List.mem_iff_getElem?.mp hsq
      by_cases hki : k = i
      · rw [hki, hi] at hk
        rw [← Option.some.inj hk] at hn
        exact ⟨dp', List.mem_of_getElem? hdp', hdm'.trans (hm.symm.trans hn)⟩
      by_cases hkj : k = j
      · -- the destination was empty
        rw [hkj, hj] at hk
        rw [← Option.some.inj hk] at hn
        rw [hn] at hempty
        cases hempty
      · rw [← ht.others k hki hkj] at hk
        exact ⟨sq, List.mem_of_getElem? hk, hn⟩
  · intro k sq hk htype hoccupied
    by_cases hki : k = i
    · rw [hki, hvacant] at hk
      rw [← Option.some.inj hk, hvfull] at hoccupied
      cases hoccupied
    by_cases hkj : k = j
    · obtain ⟨sr, hsr, heq⟩ := place hlayout hk
      rw [hkj, hj] at hsr
      rw [← Option.some.inj hsr, hstorage, htype] at heq
      cases heq
    · rw [ht.others k hki hkj] at hk
      exact ⟨sq, hk, htype, hoccupied⟩
  · intro k sq hk htype hoccupied
    by_cases hki : k = i
    · obtain ⟨sr, hsr, heq⟩ := place hlayout hk
      rw [hki, hi] at hsr
      rw [← Option.some.inj hsr, hdrive, htype] at heq
      cases heq
    by_cases hkj : k = j
    · rw [hkj, hdp'] at hk
      rw [← Option.some.inj hk, hdfull] at hoccupied
      cases hoccupied
    · rw [ht.others k hki hkj] at hk
      exact ⟨sq, hk, htype, hoccupied⟩

end TakenOut

namespace Smc

variable {smc : Smc}

/-- A search finds empty storage slots only. -/
def FindsEmpty (find : Smc → Slot → Option ℕ) : Prop :=
  ∀ smc sp j, find smc sp = some j → ∃ dp, smc.slots[j]? = some dp ∧
    dp.element_type = .STORAGE_ELEMENT ∧ dp.slotOccupied = false

/-- The slot a cartridge came from, if it is found, is an empty storage slot. -/
theorem previous_storage_slot_empty : FindsEmpty previous_storage_slot := by
  intro smc sp j hj
  obtain ⟨hlt, hfound, -⟩ := List.findIdx?_eq_some_iff_getElem.mp hj
  simp only [Bool.and_eq_true, beq_iff_eq, Bool.not_eq_true'] at hfound
  exact ⟨_, List.getElem?_eq_getElem hlt, hfound.1.1, hfound.2⟩

/-- The first empty storage slot is one. -/
theorem find_empty_storage_slot_empty : FindsEmpty find_empty_storage_slot := by
  intro smc sp j hj
  obtain ⟨hlt, hfound, -⟩ := List.findIdx?_eq_some_iff_getElem.mp hj
  simp only [Bool.and_eq_true, beq_iff_eq, Bool.not_eq_true'] at hfound
  exact ⟨_, List.getElem?_eq_getElem hlt, hfound.2, hfound.1⟩

/-- Forcing the cartridge out of one drive. It stays only when no slot is found for it. -/
theorem unloadDrive_takenOut (hc : Conserved smc) {find : Smc → Slot → Option ℕ}
    (hfind : FindsEmpty find) {i : ℕ} {sp : Slot} (hi : smc.slots[i]? = some sp)
    (hdrive : sp.element_type = .DATA_TRANSFER) :
    ∃ smc', unloadDrive find smc i = some smc' ∧ TakenOut smc smc' ∧
      ((∃ sq, smc'.slots[i]? = some sq ∧ sq.slotOccupied = false) ∨
        smc' = smc ∧ find smc sp = none) := by
  rw [unloadDrive, hi, Option.bind_some]
  cases hfull : sp.slotOccupied with
  | false => exact ⟨smc, rfl, TakenOut.refl hc, Or.inl ⟨sp, hi, hfull⟩⟩
  | true =>
    rw [if_pos rfl]
    cases hslot : find smc sp with
    | none => exact ⟨smc, rfl, TakenOut.refl hc, Or.inr ⟨rfl, rfl⟩⟩
    | some j =>
      obtain ⟨dp, hj, hstorage, hempty⟩ := hfind smc sp j hslot
      obtain ⟨smc', hmove, htaken, hvacant⟩ :=
        TakenOut.of_move_cart hc hi hdrive hfull hj hstorage hempty
      exact ⟨smc', hmove, htaken, Or.inl hvacant⟩

/-- Every storage slot is full. -/
def StorageFull (smc : Smc) : Prop :=
  ∀ sp ∈ smc.slots, sp.element_type = .STORAGE_ELEMENT → sp.slotOccupied = true

/-- No drive has a cartridge. -/
def DrivesEmpty (smc : Smc) (is : List ℕ) : Prop :=
  ∀ i ∈ is, ∃ sp, smc.slots[i]? = some sp ∧ sp.slotOccupied = false

/-- Full storage slots stay full. -/
theorem StorageFull.takenOut {smc' : Smc} (hfull : smc.StorageFull) (h : TakenOut smc smc') :
    smc'.StorageFull := by
  intro sp hsp htype
  obtain ⟨i, hi⟩ := List.mem_iff_getElem?.mp hsp
  by_contra hempty
  obtain ⟨sq, hsq, hstorage, hsqempty⟩ := h.storage i sp hi htype (Bool.not_eq_true _ ▸ hempty)
  rw [hfull sq (List.mem_of_getElem? hsq) hstorage] at hsqempty
  cases hsqempty

/-- The elements at these indices are drives. -/
def AreDrives (smc : Smc) (is : List ℕ) : Prop :=
  ∀ i ∈ is, ∃ sp, smc.slots[i]? = some sp ∧ sp.element_type = .DATA_TRANSFER

/-- Drives stay drives. -/
theorem AreDrives.takenOut {smc' : Smc} {is : List ℕ} (hd : smc.AreDrives is)
    (h : TakenOut smc smc') : smc'.AreDrives is := by
  intro i hi
  obtain ⟨sp, hsp, htype⟩ := hd i hi
  have hlen : smc'.slots.length = smc.slots.length := by
    have hplaces := congrArg List.length h.layout.places
    rwa [List.length_map, List.length_map] at hplaces
  have hlt := (List.getElem?_eq_some_iff.mp hsp).1
  have hget := List.getElem?_eq_getElem (hlen.symm ▸ hlt : i < smc'.slots.length)
  obtain ⟨sq, hsq, heq⟩ := TakenOut.place h.layout hget
  cases hsp.symm.trans hsq
  exact ⟨_, hget, heq.symm.trans htype⟩

/-- Empty drives stay empty. -/
theorem DrivesEmpty.takenOut {smc' : Smc} {is : List ℕ} (hempty : smc.DrivesEmpty is)
    (hd : smc.AreDrives is) (h : TakenOut smc smc') : smc'.DrivesEmpty is := by
  intro i hi
  obtain ⟨sp, hsp, htype⟩ := hd.takenOut h i hi
  refine ⟨sp, hsp, ?_⟩
  by_contra hfull
  obtain ⟨sq, hsq, -, hsqfull⟩ := h.drives i sp hsp htype (Bool.not_eq_false _ ▸ hfull)
  obtain ⟨sr, hsr, hsrempty⟩ := hempty i hi
  cases hsq.symm.trans hsr
  rw [hsrempty] at hsqfull
  cases hsqfull

/-- Without an empty storage slot all of them are full. -/
theorem find_empty_storage_slot_none {sp : Slot} (h : smc.find_empty_storage_slot sp = none) :
    smc.StorageFull := by
  intro sq hsq htype
  have hnone := List.findIdx?_eq_none_iff.mp h sq hsq
  simpa [htype] using hnone

/-- One walk over drives. -/
theorem unloadDrives_walk {find : Smc → Slot → Option ℕ} (hfind : FindsEmpty find) {is : List ℕ}
    (hc : Conserved smc) (hd : smc.AreDrives is) :
    ∃ smc', is.foldlM (unloadDrive find) smc = some smc' ∧ TakenOut smc smc' ∧
      ((∀ smc sp, find smc sp = none → smc.StorageFull) →
        smc'.StorageFull ∨ smc'.DrivesEmpty is) := by
  induction is generalizing smc with
  | nil =>
    refine ⟨smc, rfl, TakenOut.refl hc, fun _ => Or.inr ?_⟩
    intro i hi
    cases hi
  | cons i is ih =>
    obtain ⟨sp, hsp, htype⟩ := hd i (List.mem_cons_self ..)
    obtain ⟨smc₁, hone, h₁, hend⟩ := unloadDrive_takenOut hc hfind hsp htype
    obtain ⟨smc₂, hrest, h₂, hwalk⟩ := ih h₁.conserved
      fun k hk => hd.takenOut h₁ k (List.mem_cons_of_mem _ hk)
    refine ⟨smc₂, ?_, h₁.trans h₂, fun hfull => ?_⟩
    · rw [List.foldlM_cons, hone]
      exact hrest
    rcases hend with hvacant | ⟨rfl, hnone⟩
    · refine (hwalk hfull).imp_right fun hempty k hk => ?_
      rcases List.mem_cons.mp hk with rfl | hk
      · have hfirst : smc₁.DrivesEmpty [k] := fun n hn => by
          rw [List.mem_singleton.mp hn]
          exact hvacant
        have hdrive : smc₁.AreDrives [k] := fun n hn => by
          rw [List.mem_singleton.mp hn]
          exact hd.takenOut h₁ k (List.mem_cons_self ..)
        exact hfirst.takenOut hdrive h₂ k (List.mem_cons_self ..)
      · exact hempty k hk
    · exact Or.inl ((hfull _ _ hnone).takenOut h₂)

/-- The list of drives has drives. -/
theorem drive_list_areDrives (smc : Smc) : smc.AreDrives smc.drive_list := by
  intro i hi
  have hany := (List.mem_filter.mp hi).2
  obtain ⟨sp, hsp⟩ : ∃ sp, smc.slots[i]? = some sp := by
    cases hsp : smc.slots[i]? with
    | none =>
      rw [hsp] at hany
      cases hany
    | some sp => exact ⟨sp, rfl⟩
  rw [hsp, Option.any_some] at hany
  exact ⟨sp, hsp, eq_of_beq hany⟩

/-- Forcing the cartridges out of the drives. -/
theorem unloadDrives_takenOut (hc : Conserved smc) :
    ∃ smc', smc.unloadDrives = some smc' ∧ TakenOut smc smc' ∧
      (smc'.StorageFull ∨
        ∀ sp ∈ smc'.slots, sp.element_type = .DATA_TRANSFER → sp.slotOccupied = false) := by
  obtain ⟨smc₁, hfirst, h₁, -⟩ :=
    unloadDrives_walk previous_storage_slot_empty hc smc.drive_list_areDrives
  obtain ⟨smc₂, hsecond, h₂, hend⟩ :=
    unloadDrives_walk find_empty_storage_slot_empty h₁.conserved smc₁.drive_list_areDrives
  refine ⟨smc₂, ?_, h₁.trans h₂, ?_⟩
  · rw [unloadDrives, hfirst]
    exact hsecond
  refine (hend fun smc sp => find_empty_storage_slot_none).imp_right fun hempty sp hsp htype => ?_
  obtain ⟨i, hi⟩ := List.mem_iff_getElem?.mp hsp
  obtain ⟨sq, hsq, heq⟩ := TakenOut.place h₂.layout hi
  have hlisted : i ∈ smc₁.drive_list := by
    refine List.mem_filter.mpr ⟨List.mem_range.mpr (List.getElem?_eq_some_iff.mp hsq).1, ?_⟩
    rw [hsq, Option.any_some, heq, htype]
    rfl
  obtain ⟨sr, hsr, hsrempty⟩ := hempty i hlisted
  cases hi.symm.trans hsr
  exact hsrempty

end Smc

end Mhvtl
