import Mhvtl.Lib.Run
import Mhvtl.Smc.MapSlots

/-!
# Conservation of cartridges

Every cartridge is in one element at most, and an element is full exactly when
it points to a cartridge. A move takes the cartridge of its source to its
destination or changes nothing, and no step uses a cartridge that is not there,
as long as no full import/export slot is emptied, no drive claims a cartridge
its element does not have, and no move between drives has to be undone.
-/

namespace Mhvtl

open Interact

/-- Full elements and cartridges belong together, one to one. -/
structure Conserved (smc : Smc) : Prop where
  /-- An element is full exactly when it points to a cartridge. -/
  full_iff : ∀ sp ∈ smc.slots, sp.slotOccupied = sp.media.isSome
  /-- Elements point to records there are. -/
  known : ∀ sp ∈ smc.slots, ∀ m, sp.media = some m → m < smc.media_list.length
  /-- No cartridge is in two elements. -/
  alone : ∀ (i j : ℕ) (si sj : Slot) (m : ℕ), smc.slots[i]? = some si → smc.slots[j]? = some sj →
    si.media = some m → sj.media = some m → i = j

/-- The cartridge of one element is in another, and nothing else moved. -/
structure Transfer (smc : Smc) (i j : ℕ) (smc' : Smc) : Prop where
  /-- There are two elements. -/
  ne : i ≠ j
  /-- The source is empty. -/
  source : ∃ sp, smc'.slots[i]? = some sp ∧ sp.media = none ∧ sp.slotOccupied = false
  /-- The destination holds what the source held. -/
  destination : ∃ sp dp m, smc.slots[i]? = some sp ∧ sp.media = some m ∧
    smc'.slots[j]? = some dp ∧ dp.media = some m ∧ dp.slotOccupied = true
  /-- Every other element is as it was. -/
  others : ∀ k, k ≠ i → k ≠ j → smc'.slots[k]? = smc.slots[k]?
  /-- The records are the same ones. -/
  records : smc'.media_list.length = smc.media_list.length

/-- Taking a cartridge along keeps the cartridges apart. -/
theorem Conserved.transfer {smc smc' : Smc} {i j : ℕ} (hc : Conserved smc)
    (ht : Transfer smc i j smc') : Conserved smc' := by
  obtain ⟨vacant, hvacant, hvacantMedia, hvacantFull⟩ := ht.source
  obtain ⟨sp, dp, m, hsp, hm, hdp, hdpMedia, hdpFull⟩ := ht.destination
  -- an element with a cartridge is the destination, or it was there before
  have horigin : ∀ (k : ℕ) (s : Slot) (n : ℕ), smc'.slots[k]? = some s → s.media = some n →
      ∃ k' s', smc.slots[k']? = some s' ∧ s'.media = some n ∧
        (k' = i ∧ k = j ∨ k' = k ∧ k ≠ i ∧ k ≠ j) := by
    intro k s n hs hn
    by_cases hki : k = i
    · subst hki
      cases hvacant.symm.trans hs
      rw [hvacantMedia] at hn
      cases hn
    by_cases hkj : k = j
    · subst hkj
      cases hdp.symm.trans hs
      rw [hdpMedia] at hn
      cases hn
      exact ⟨i, sp, hsp, hm, Or.inl ⟨rfl, rfl⟩⟩
    · rw [ht.others k hki hkj] at hs
      exact ⟨k, s, hs, hn, Or.inr ⟨rfl, hki, hkj⟩⟩
  constructor
  · intro s hs
    obtain ⟨k, hk⟩ := List.mem_iff_getElem?.mp hs
    by_cases hki : k = i
    · subst hki
      cases hvacant.symm.trans hk
      rw [hvacantMedia, hvacantFull]
      rfl
    by_cases hkj : k = j
    · subst hkj
      cases hdp.symm.trans hk
      rw [hdpMedia, hdpFull]
      rfl
    · rw [ht.others k hki hkj] at hk
      exact hc.full_iff s (List.mem_of_getElem? hk)
  · intro s hs n hn
    obtain ⟨k, hk⟩ := List.mem_iff_getElem?.mp hs
    obtain ⟨k', s', hs', hn', _⟩ := horigin k s n hk hn
    rw [ht.records]
    exact hc.known s' (List.mem_of_getElem? hs') n hn'
  · intro k l sk sl n hk hl hnk hnl
    obtain ⟨k', sk', hsk', hnk', hkcase⟩ := horigin k sk n hk hnk
    obtain ⟨l', sl', hsl', hnl', hlcase⟩ := horigin l sl n hl hnl
    have hsame := hc.alone k' l' sk' sl' n hsk' hsl' hnk' hnl'
    have hne := ht.ne
    omega

/-- A destination holds the cartridge it was given. -/
theorem Slot.media_filled (dest : Slot) (m loc : ℕ) : (dest.filled m loc).media = some m := by
  simp only [Slot.filled]
  split <;> rfl

/-- A destination is full. -/
theorem Slot.slotOccupied_filled (dest : Slot) (m loc : ℕ) :
    (dest.filled m loc).slotOccupied = true := by
  simp only [Slot.filled]
  split <;> simp [Slot.setSlotFull]

/-- A source holds nothing any more. -/
theorem Slot.media_vacated (src : Slot) : src.vacated.media = none := rfl

/-- A source is not full any more. -/
theorem Slot.slotOccupied_vacated (src : Slot) : src.vacated.slotOccupied = false := by
  simp [Slot.vacated, Slot.setSlotEmpty]

namespace Transfer

variable {smc smc' : Smc} {i j : ℕ}

/-- Moving a cartridge is a transfer. -/
theorem of_move_cart {sp dp : Slot} {m : ℕ} (hne : i ≠ j) (hsp : smc.slots[i]? = some sp)
    (hm : sp.media = some m) (hdp : smc.slots[j]? = some dp) (h : smc.move_cart i j = some smc') :
    Transfer smc i j smc' := by
  simp only [Smc.move_cart, hsp, Option.bind_some, hm, Option.map_some, Option.some.injEq] at h
  subst h
  constructor
  · exact hne
  · refine ⟨sp.vacated, ?_, Slot.media_vacated sp, Slot.slotOccupied_vacated sp⟩
    simp [Smc.updateSlot, Smc.updateMedia, hne.symm, hsp]
  · refine ⟨sp, dp.filled m sp.slot_location, m, hsp, hm, ?_, Slot.media_filled _ _ _,
      Slot.slotOccupied_filled _ _ _⟩
    simp [Smc.updateSlot, Smc.updateMedia, hne, hdp]
  · intro k hki hkj
    simp [Smc.updateSlot, Smc.updateMedia, Ne.symm hki, Ne.symm hkj]
  · simp [Smc.updateSlot, Smc.updateMedia]

/-- Status bits of the destination other than the full bit do not matter. -/
theorem updateDest {f : Slot → Slot} (h : Transfer smc i j smc')
    (hmedia : ∀ sp, (f sp).media = sp.media)
    (hfull : ∀ sp, sp.slotOccupied = true → (f sp).slotOccupied = true) :
    Transfer smc i j (smc'.updateSlot j f) := by
  obtain ⟨sp, dp, m, hsp, hm, hdp, hdm, hdf⟩ := h.destination
  obtain ⟨vacant, hvacant, hrest⟩ := h.source
  constructor
  · exact h.ne
  · refine ⟨vacant, ?_, hrest⟩
    simpa [Smc.updateSlot, h.ne.symm] using hvacant
  · refine ⟨sp, f dp, m, hsp, hm, ?_, (hmedia dp).trans hdm, hfull dp hdf⟩
    simp [Smc.updateSlot, hdp]
  · intro k hki hkj
    simpa [Smc.updateSlot, Ne.symm hkj] using h.others k hki hkj
  · exact h.records

/-- Status bits of the source other than the full bit do not matter. -/
theorem updateSource {f : Slot → Slot} (h : Transfer smc i j smc')
    (hmedia : ∀ sp, (f sp).media = sp.media)
    (hfull : ∀ sp, sp.slotOccupied = false → (f sp).slotOccupied = false) :
    Transfer smc i j (smc'.updateSlot i f) := by
  obtain ⟨sp, dp, m, hsp, hm, hdp, hdest⟩ := h.destination
  obtain ⟨vacant, hvacant, hvm, hvf⟩ := h.source
  constructor
  · exact h.ne
  · refine ⟨f vacant, ?_, (hmedia vacant).trans hvm, hfull vacant hvf⟩
    simp [Smc.updateSlot, hvacant]
  · refine ⟨sp, dp, m, hsp, hm, ?_, hdest⟩
    simpa [Smc.updateSlot, h.ne] using hdp
  · intro k hki hkj
    simpa [Smc.updateSlot, Ne.symm hki] using h.others k hki hkj
  · exact h.records

end Transfer

end Mhvtl
