import Mhvtl.Lib.BubbleSort
import Mhvtl.Smc.Inventory
import Mathlib.Data.List.Nodup

/-!
# Address layout of a library

Every type of element has a range of addresses of its own, from the start address of its
personality on. Commands that go over all elements take the types by start address.
-/

namespace Mhvtl

open BubbleSort

/-- Number of an element type in commands and reports. -/
def ElementType.code : ElementType → ℕ
  | .MEDIUM_TRANSPORT => 1
  | .STORAGE_ELEMENT => 2
  | .MAP_ELEMENT => 3
  | .DATA_TRANSFER => 4

/-- Different types have different numbers. -/
theorem ElementType.code_inj {t u : ElementType} (h : t.code = u.code) : t = u := by
  cases t <;> cases u <;> first | rfl | exact absurd h (by decide)

/-- Start address of a type. -/
def Personality.start (pm : Personality) : ElementType → ℕ
  | .MEDIUM_TRANSPORT => pm.start_picker
  | .STORAGE_ELEMENT => pm.start_storage
  | .MAP_ELEMENT => pm.start_map
  | .DATA_TRANSFER => pm.start_drive

/-- `struct smc_type_slot`. -/
structure TypeSlot where
  /-- Type of element. -/
  type : ElementType
  /-- Its start address. -/
  start : ℕ
deriving DecidableEq

/-- The type with a start address. Of types with one start address it is the last
that is looked at. -/
def Personality.typeAt (pm : Personality) (a : ℕ) : TypeSlot :=
  if pm.start_storage = a then ⟨.STORAGE_ELEMENT, pm.start_storage⟩
  else if pm.start_map = a then ⟨.MAP_ELEMENT, pm.start_map⟩
  else if pm.start_picker = a then ⟨.MEDIUM_TRANSPORT, pm.start_picker⟩
  else ⟨.DATA_TRANSFER, pm.start_drive⟩

/-- Start addresses in the order in which they are put into the array. -/
def Personality.starts (pm : Personality) : List ℕ :=
  [pm.start_drive, pm.start_picker, pm.start_map, pm.start_storage]

/-- Types by start address. -/
def sort_library_slot_type (pm : Personality) : List TypeSlot :=
  (bubbleSort pm.starts).map pm.typeAt

namespace Personality

variable {pm : Personality}

/-- The start address of a type is in the array. -/
theorem start_mem (pm : Personality) (t : ElementType) : pm.start t ∈ pm.starts := by
  cases t <;> simp [start, starts]

/-- With different start addresses every type is found at its own. -/
theorem typeAt_start (h : pm.starts.Nodup) (t : ElementType) :
    pm.typeAt (pm.start t) = ⟨t, pm.start t⟩ := by
  simp only [starts, List.nodup_cons, List.mem_cons, List.not_mem_nil, or_false, not_or] at h
  obtain ⟨⟨hdp, hdm, hds⟩, ⟨hpm, hps⟩, hms, -⟩ := h
  cases t with
  | MEDIUM_TRANSPORT =>
    rw [start, typeAt, if_neg (Ne.symm hps), if_neg (Ne.symm hpm), if_pos rfl]
  | STORAGE_ELEMENT => rw [start, typeAt, if_pos rfl]
  | MAP_ELEMENT => rw [start, typeAt, if_neg (Ne.symm hms), if_pos rfl]
  | DATA_TRANSFER =>
    rw [start, typeAt, if_neg (Ne.symm hds), if_neg (Ne.symm hdm), if_neg (Ne.symm hdp)]

/-- A start address belongs to a type. -/
theorem exists_start {a : ℕ} (h : a ∈ pm.starts) : ∃ t, pm.start t = a := by
  simp only [starts, List.mem_cons, List.not_mem_nil, or_false] at h
  rcases h with rfl | rfl | rfl | rfl
  · exact ⟨.DATA_TRANSFER, rfl⟩
  · exact ⟨.MEDIUM_TRANSPORT, rfl⟩
  · exact ⟨.MAP_ELEMENT, rfl⟩
  · exact ⟨.STORAGE_ELEMENT, rfl⟩

end Personality

section Sorted

variable {pm : Personality}

/-- The sorted array holds types at their own start addresses. -/
theorem sort_library_slot_type_start (h : pm.starts.Nodup) {x : TypeSlot}
    (hx : x ∈ sort_library_slot_type pm) : x.start = pm.start x.type := by
  obtain ⟨a, ha, rfl⟩ := List.mem_map.mp hx
  obtain ⟨t, rfl⟩ := Personality.exists_start ((bubbleSort_perm _).mem_iff.mp ha)
  rw [Personality.typeAt_start h t]

/-- It holds every type. -/
theorem mem_sort_library_slot_type (h : pm.starts.Nodup) (t : ElementType) :
    ⟨t, pm.start t⟩ ∈ sort_library_slot_type pm := by
  rw [← Personality.typeAt_start h t]
  exact List.mem_map_of_mem ((bubbleSort_perm _).mem_iff.mpr (pm.start_mem t))

/-- Its start addresses ascend. -/
theorem sort_library_slot_type_ascending (h : pm.starts.Nodup) :
    (sort_library_slot_type pm).Pairwise fun x y => x.start < y.start := by
  apply List.pairwise_map.mpr
  apply (bubbleSort_ascending h).imp_of_mem
  intro a b ha hb hab
  obtain ⟨t, rfl⟩ := Personality.exists_start ((bubbleSort_perm _).mem_iff.mp ha)
  obtain ⟨u, rfl⟩ := Personality.exists_start ((bubbleSort_perm _).mem_iff.mp hb)
  rw [Personality.typeAt_start h t, Personality.typeAt_start h u]
  exact hab

end Sorted

namespace Smc

/-- Number of elements of a type. -/
def num (smc : Smc) : ElementType → ℕ
  | .MEDIUM_TRANSPORT => smc.num_picker
  | .STORAGE_ELEMENT => smc.num_storage
  | .MAP_ELEMENT => smc.num_map
  | .DATA_TRANSFER => smc.num_drives

/-- Every type has addresses of its own, behind one another, every element has an address
of its type, and the list goes by address. -/
structure LaidOut (smc : Smc) : Prop where
  /-- Types start at different addresses. -/
  starts : smc.pm.starts.Nodup
  /-- No type reaches into the addresses of another. -/
  apart : ∀ t u, smc.pm.start t < smc.pm.start u → smc.pm.start t + smc.num t ≤ smc.pm.start u
  /-- Address zero is not in use. -/
  positive : ∀ t, 0 < smc.pm.start t
  /-- Addresses have two bytes. -/
  fits : ∀ t, smc.pm.start t + smc.num t ≤ 65536
  /-- An element has an address of its type. -/
  inRange : ∀ sp ∈ smc.slots, smc.pm.start sp.element_type ≤ sp.slot_location ∧
    sp.slot_location < smc.pm.start sp.element_type + smc.num sp.element_type
  /-- The list goes by address. -/
  ascending : smc.slots.Pairwise fun sp sq => sp.slot_location < sq.slot_location
  /-- The elements of a type are as many as are counted. -/
  counted : ∀ t, (smc.slots.countP fun sp => sp.element_type == t) = smc.num t

/-- Types with the same start address are the same. -/
theorem LaidOut.start_inj {smc : Smc} (h : smc.LaidOut) {t u : ElementType}
    (heq : smc.pm.start t = smc.pm.start u) : t = u := by
  have hu := Personality.typeAt_start h.starts u
  rw [← heq, Personality.typeAt_start h.starts t] at hu
  exact congrArg TypeSlot.type hu

/-- One more element behind the others, where no other type starts. -/
theorem LaidOut.append {smc smc' : Smc} (h : smc.LaidOut) {sp : Slot} (hpm : smc'.pm = smc.pm)
    (hslots : smc'.slots = smc.slots ++ [sp])
    (hnum : ∀ u, smc'.num u = smc.num u + if u = sp.element_type then 1 else 0)
    (hloc : sp.slot_location = smc.pm.start sp.element_type + smc.num sp.element_type)
    (hlast : ∀ sq ∈ smc.slots, smc.pm.start sq.element_type ≤ smc.pm.start sp.element_type)
    (hroom : ∀ u, smc.pm.start sp.element_type < smc.pm.start u →
      sp.slot_location + 1 ≤ smc.pm.start u)
    (hfits : sp.slot_location + 1 ≤ 65536) : smc'.LaidOut := by
  rw [hloc] at hroom hfits
  refine ⟨hpm ▸ h.starts, ?_, fun t => hpm ▸ h.positive t, ?_, ?_, ?_, ?_⟩
  · intro t u hlt
    rw [hpm] at hlt ⊢
    rw [hnum]
    by_cases ht : t = sp.element_type
    · rw [ht] at hlt
      rw [ht, if_pos rfl, ← Nat.add_assoc]
      exact hroom u hlt
    · rw [if_neg ht]
      exact h.apart t u hlt
  · intro t
    rw [hpm, hnum]
    by_cases ht : t = sp.element_type
    · rw [ht, if_pos rfl, ← Nat.add_assoc]
      exact hfits
    · rw [if_neg ht]
      exact h.fits t
  · intro sq hsq
    rw [hpm, hnum]
    rw [hslots] at hsq
    rcases List.mem_append.mp hsq with hsq | hsq
    · have hrange := h.inRange sq hsq
      exact ⟨hrange.1, hrange.2.trans_le (by rw [← Nat.add_assoc]; exact Nat.le_add_right _ _)⟩
    · rw [List.mem_singleton.mp hsq, if_pos rfl, hloc]
      omega
  · rw [hslots]
    refine List.pairwise_append.mpr ⟨h.ascending, List.pairwise_singleton _ _, fun sq hsq sr hsr => ?_⟩
    have hrange := (h.inRange sq hsq).2
    rw [List.mem_singleton.mp hsr, hloc]
    rcases (hlast sq hsq).lt_or_eq with hlt | heq
    · have hapart := h.apart _ _ hlt
      omega
    · rw [h.start_inj heq] at hrange
      exact hrange
  · intro t
    rw [hslots, List.countP_append, h.counted, hnum, List.countP_singleton]
    by_cases ht : t = sp.element_type
    · simp [ht]
    · simp [ht, Ne.symm ht]

/-- The type of an address by the ranges is the type whose range it is in. -/
theorem LaidOut.slot_type_eq {smc : Smc} (h : smc.LaidOut) {t : ElementType} {a : ℕ}
    (hlo : smc.pm.start t ≤ a) (hhi : a < smc.pm.start t + smc.num t) :
    smc.slot_type a = some t := by
  have hout : ∀ u, u ≠ t → ¬ (smc.pm.start u ≤ a ∧ a < smc.pm.start u + smc.num u) := by
    intro u hu ⟨hulo, huhi⟩
    rcases lt_trichotomy (smc.pm.start u) (smc.pm.start t) with hlt | heq | hgt
    · have := h.apart u t hlt
      omega
    · exact hu (h.start_inj heq)
    · have := h.apart t u hgt
      omega
  have hd := hout .DATA_TRANSFER
  have hp := hout .MEDIUM_TRANSPORT
  have hm := hout .MAP_ELEMENT
  simp only [Personality.start, num] at hd hp hm
  cases t with
  | DATA_TRANSFER => exact if_pos ⟨hlo, hhi⟩
  | MEDIUM_TRANSPORT =>
    rw [slot_type, if_neg (hd (by decide))]
    exact if_pos ⟨hlo, hhi⟩
  | MAP_ELEMENT =>
    rw [slot_type, if_neg (hd (by decide)), if_neg (hp (by decide))]
    exact if_pos ⟨hlo, hhi⟩
  | STORAGE_ELEMENT =>
    rw [slot_type, if_neg (hd (by decide)), if_neg (hp (by decide)), if_neg (hm (by decide))]
    exact if_pos ⟨hlo, hhi⟩

end Smc

end Mhvtl
