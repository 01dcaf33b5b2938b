import Mhvtl.Lib.Shares
import Mhvtl.Ssc.Blocks
import Mhvtl.Ssc.ModePages

/-!
# Capacities of the partitions

What the medium partition page makes of a medium: fixed sizes, scaled down when they do
not fit, and equal parts of what is left.
-/

namespace Mhvtl.Ssc

open Bytes Cart

section Sizes

variable (mp : ModePage) (M num : ℕ)

/-- The size that a descriptor asks for, in bytes. -/
def fixedSize (p : ℕ) : ℕ := mp.descriptor p * 10 ^ ((mp.byte 6).toNat % 16)

/-- The partitions that ask for what is left. -/
def remainderPartitions : List ℕ := (List.range num).filter (mp.descriptor · = REMAINDER)

/-- The partitions that ask for a size. -/
def fixedPartitions : List ℕ := (List.range num).filter (¬mp.descriptor · = REMAINDER)

/-- All the sizes that are asked for. -/
def requestedBytes : ℕ := ((fixedPartitions mp num).map (fixedSize mp)).sum

/-- What the fixed sizes may take of a medium. -/
def fixedBudget : ℕ := if (remainderPartitions mp num).length ≠ 0 then M / 2 else M

/-- Bytes that rounding may lose beside those of the equal parts. -/
def scalingLoss : ℕ :=
  if requestedBytes mp num ≤ fixedBudget mp M num then 0 else (fixedPartitions mp num).length - 1

/-- The capacities add up to the medium. -/
structure AddsUp (f : ℕ → ℕ) : Prop where
  /-- They are no more than the medium. -/
  total : ((List.range num).map f).sum ≤ M
  /-- With a part for what is left, rounding is all that is lost. -/
  nearly : (remainderPartitions mp num).length ≠ 0 →
    M < ((List.range num).map f).sum + (remainderPartitions mp num).length + scalingLoss mp M num
  /-- Beside such a part, sizes that are scaled down take at most half. -/
  half : (remainderPartitions mp num).length ≠ 0 → fixedBudget mp M num < requestedBytes mp num →
    ((fixedPartitions mp num).map f).sum ≤ M / 2
  /-- Sizes that fit are met. -/
  exact : requestedBytes mp num ≤ fixedBudget mp M num →
    ∀ p ∈ fixedPartitions mp num, f p = fixedSize mp p

end Sizes

section Shared

variable {L : Libs} {mp : ModePage} {M num : ℕ}

/-- A size that is asked for is one of them all. -/
theorem fixedSize_le {p : ℕ} (hp : p ∈ fixedPartitions mp num) :
    fixedSize mp p ≤ requestedBytes mp num :=
  List.le_sum_of_mem (List.mem_map_of_mem hp)

/-- When no number is cut to 64 bits, the parts are these. -/
theorem sharedOut_eq (hscale : ∀ s b f, L.scale s b f = s * b / f)
    (hfit : requestedBytes mp num < 2 ^ 64) {p : ℕ} (hp : p < num) :
    sharedOut L mp M num p = if mp.descriptor p = REMAINDER
      then (M - min (requestedBytes mp num) (fixedBudget mp M num)) /
        (remainderPartitions mp num).length
      else if fixedBudget mp M num < requestedBytes mp num
        then fixedSize mp p * fixedBudget mp M num / requestedBytes mp num
        else fixedSize mp p := by
  have hsize : ∀ k ∈ fixedPartitions mp num,
      mp.descriptor k * 10 ^ ((mp.byte 6).toNat % 16) % 2 ^ 64 = fixedSize mp k := by
    intro k hk
    exact Nat.mod_eq_of_lt ((fixedSize_le hk).trans_lt hfit)
  have hfixed : ((List.range num).map fun k => if mp.descriptor k = REMAINDER then 0
      else mp.descriptor k * 10 ^ ((mp.byte 6).toNat % 16) % 2 ^ 64).sum % 2 ^ 64 =
      requestedBytes mp num := by
    rw [Shares.sum_two_kinds (mp.descriptor · = REMAINDER), Nat.mul_zero, Nat.zero_add]
    change ((fixedPartitions mp num).map _).sum % 2 ^ 64 = _
    rw [List.map_congr_left hsize]
    exact Nat.mod_eq_of_lt hfit
  rw [sharedOut]
  by_cases hr : mp.descriptor p = REMAINDER
  · simp only [hr, if_true]
    rw [hfixed]
    rfl
  · have hmem : p ∈ fixedPartitions mp num := by
      rw [fixedPartitions, List.mem_filter]
      exact ⟨List.mem_range.mpr hp, decide_eq_true hr⟩
    simp only [hr, if_false]
    rw [hfixed, hscale, hsize p hmem]
    rfl

/-- What the partitions take together: the equal parts, and the sizes. -/
theorem sum_sharedOut (hscale : ∀ s b f, L.scale s b f = s * b / f)
    (hfit : requestedBytes mp num < 2 ^ 64) :
    ((List.range num).map (sharedOut L mp M num)).sum =
      (remainderPartitions mp num).length *
        ((M - min (requestedBytes mp num) (fixedBudget mp M num)) /
          (remainderPartitions mp num).length) +
      ((fixedPartitions mp num).map (sharedOut L mp M num)).sum := by
  have hkind : ((List.range num).map (sharedOut L mp M num)) = (List.range num).map fun p =>
      if mp.descriptor p = REMAINDER
      then (M - min (requestedBytes mp num) (fixedBudget mp M num)) /
        (remainderPartitions mp num).length
      else sharedOut L mp M num p := by
    apply List.map_congr_left
    intro p hp
    by_cases hr : mp.descriptor p = REMAINDER
    · rw [if_pos hr, sharedOut_eq hscale hfit (List.mem_range.mp hp), if_pos hr]
    · rw [if_neg hr]
  rw [hkind, Shares.sum_two_kinds (mp.descriptor · = REMAINDER)]
  rfl

/-- A partition that asks for a size is one of the medium, and has what is left of its size. -/
theorem sharedOut_fixed (hscale : ∀ s b f, L.scale s b f = s * b / f)
    (hfit : requestedBytes mp num < 2 ^ 64) {p : ℕ} (hp : p ∈ fixedPartitions mp num) :
    sharedOut L mp M num p = if fixedBudget mp M num < requestedBytes mp num
      then fixedSize mp p * fixedBudget mp M num / requestedBytes mp num else fixedSize mp p := by
  obtain ⟨hrange, hr⟩ := List.mem_filter.mp hp
  rw [sharedOut_eq hscale hfit (List.mem_range.mp hrange), if_neg (of_decide_eq_true hr)]

/-- The sizes that are met or scaled down fill their budget but for the bytes that rounding
loses. -/
theorem sum_fixed_sharedOut (hscale : ∀ s b f, L.scale s b f = s * b / f)
    (hfit : requestedBytes mp num < 2 ^ 64) :
    ((fixedPartitions mp num).map (sharedOut L mp M num)).sum ≤
      min (requestedBytes mp num) (fixedBudget mp M num) ∧
    min (requestedBytes mp num) (fixedBudget mp M num) ≤
      ((fixedPartitions mp num).map (sharedOut L mp M num)).sum + scalingLoss mp M num := by
  have hmap := List.map_congr_left fun p hp => sharedOut_fixed (M := M) hscale hfit (p := p) hp
  rw [hmap, scalingLoss]
  by_cases hscaled : fixedBudget mp M num < requestedBytes mp num
  · have hpos : 0 < requestedBytes mp num := by omega
    have hle := Shares.sum_shares_le (fixedSize mp) (fixedBudget mp M num) hpos
      (l := fixedPartitions mp num) rfl
    have hlt := Shares.budget_lt_sum_shares (fixedSize mp) (fixedBudget mp M num) hpos
      (l := fixedPartitions mp num) rfl
    simp only [hscaled, if_true, Nat.not_le_of_lt hscaled, if_false]
    omega
  · simp only [hscaled, if_false, Nat.le_of_not_lt hscaled, if_true]
    change requestedBytes mp num ≤ _ ∧ _ ≤ requestedBytes mp num + 0
    omega

/-- The parts of a medium add up to it. -/
theorem sharedOut_addsUp (hscale : ∀ s b f, L.scale s b f = s * b / f)
    (hfit : requestedBytes mp num < 2 ^ 64) : AddsUp mp M num (sharedOut L mp M num) := by
  obtain ⟨hfixed, hloss⟩ := sum_fixed_sharedOut (M := M) hscale hfit
  have hsum := sum_sharedOut (M := M) hscale hfit
  have hbudget : fixedBudget mp M num ≤ M := by
    rw [fixedBudget]
    split <;> omega
  refine ⟨?_, ?_, ?_, ?_⟩
  · rw [hsum]
    rcases Nat.eq_zero_or_pos (remainderPartitions mp num).length with hzero | hpos
    · rw [hzero]
      omega
    · have hparts := Shares.equal_parts
        (M - min (requestedBytes mp num) (fixedBudget mp M num)) hpos
      omega
  · intro hne
    have hparts := Shares.equal_parts
      (M - min (requestedBytes mp num) (fixedBudget mp M num)) (Nat.pos_of_ne_zero hne)
    rw [hsum]
    omega
  · intro hne hscaled
    have hhalf : fixedBudget mp M num = M / 2 := if_pos hne
    omega
  · intro hmet p hp
    rw [sharedOut_fixed hscale hfit hp, if_neg (Nat.not_lt_of_le hmet)]

end Shared

section Capacity

variable {L : Libs} {d : Drive} {mp : ModePage}

/-- Two partitions or more share the medium out by their page. -/
theorem from_mode_page_shared (hpage : lookup_mode_pg d.mode_pg MODE_MEDIUM_PARTITION 0 = some mp)
    (htwo : 2 ≤ partitionCount d.cart.mam) (hmax : partitionCount d.cart.mam ≤ MAX_PARTITIONS)
    {p : ℕ} (hp : p < partitionCount d.cart.mam) :
    medium_partition_capacity_from_mode_page L d p =
      some (sharedOut L mp (d.cart.mam.be .max_capacity) (partitionCount d.cart.mam) p) := by
  have hnot : ¬partitionCount d.cart.mam ≤ p := by omega
  have hone : ¬partitionCount d.cart.mam = 1 := by omega
  have hroom : ¬MAX_PARTITIONS < partitionCount d.cart.mam := by omega
  simp only [medium_partition_capacity_from_mode_page, if_neg hnot, if_neg hone, hpage,
    if_neg hroom]

/-- A single partition has the medium, whatever its descriptor. -/
theorem from_mode_page_single (hone : partitionCount d.cart.mam = 1) :
    medium_partition_capacity_from_mode_page L d 0 = some (d.cart.mam.be .max_capacity) := by
  have hnot : ¬1 ≤ 0 := by decide
  simp only [medium_partition_capacity_from_mode_page, hone, if_neg hnot, if_true]

/-- The capacities of the partitions add up to the medium, when what is asked for is less than
`2 ^ 64` bytes. -/
theorem partition_capacities_add_up (hscale : ∀ s b f, L.scale s b f = s * b / f)
    (hpage : lookup_mode_pg d.mode_pg MODE_MEDIUM_PARTITION 0 = some mp)
    (hmax : partitionCount d.cart.mam ≤ MAX_PARTITIONS) :
    (partitionCount d.cart.mam = 1 →
      medium_partition_capacity_from_mode_page L d 0 = some (d.cart.mam.be .max_capacity)) ∧
    (2 ≤ partitionCount d.cart.mam → requestedBytes mp (partitionCount d.cart.mam) < 2 ^ 64 →
      ∃ f : ℕ → ℕ, (∀ p < partitionCount d.cart.mam,
        medium_partition_capacity_from_mode_page L d p = some (f p)) ∧
        AddsUp mp (d.cart.mam.be .max_capacity) (partitionCount d.cart.mam) f) := by
  constructor
  · exact from_mode_page_single
  · intro htwo hfit
    exact ⟨_, fun p hp => from_mode_page_shared hpage htwo hmax hp, sharedOut_addsUp hscale hfit⟩

end Capacity

/-- The medium partition page with some units and descriptors. -/
def partitionPage (units : UInt8) (sizes : ℕ → ℕ) : ModePage :=
  (List.range MAX_PARTITIONS).foldl (fun m k => m.setBe16 (8 + 2 * k) (sizes k))
    (add_mode_medium_partition.setByte 6 units)

/-- A drive with that page, and a cartridge of some capacity and number of partitions. -/
def partitionedDrive (capacity : ℕ) (num : UInt8) (page : ModePage) : Drive :=
  { emptyDrive with mode_pg := [page] }.setMam fun m =>
    (m.putBe .max_capacity capacity).putByte .num_partitions num

/-- Two partitions of a hundred bytes, and a third one for what is left. -/
def tightSizes : ℕ → ℕ
  | 2 => REMAINDER
  | _ => 100

/-- A medium of a kilobyte has room for them, and what is left is the third one. -/
theorem capacities_add_up_kilobyte : ∃ f : ℕ → ℕ,
    (∀ p < 3, medium_partition_capacity_from_mode_page storedLibs
      (partitionedDrive 1024 3 (partitionPage 0 tightSizes)) p = some (f p)) ∧
    AddsUp (partitionPage 0 tightSizes) 1024 3 f := by
  have hcount : partitionCount
      (partitionedDrive 1024 3 (partitionPage 0 tightSizes)).cart.mam = 3 := by decide +kernel
  have hcap : (partitionedDrive 1024 3 (partitionPage 0 tightSizes)).cart.mam.be .max_capacity =
      1024 := by decide +kernel
  have hpage : lookup_mode_pg (partitionedDrive 1024 3 (partitionPage 0 tightSizes)).mode_pg
      MODE_MEDIUM_PARTITION 0 = some (partitionPage 0 tightSizes) := by decide +kernel
  have hadd := (partition_capacities_add_up (L := storedLibs) (fun _ _ _ => rfl) hpage
    (by rw [hcount]; decide)).2
  rw [hcount, hcap] at hadd
  exact hadd (by decide) (by decide +kernel)

/-- On a medium of six bytes the shares of the sizes are rounded down, and a byte is lost beside
the single part for what is left. A single partition of five bytes has a medium of a hundred. -/
theorem shares_rounded_down :
    (remainderPartitions (partitionPage 0 tightSizes) 3).length = 1 ∧
    (List.range 3).map (medium_partition_capacity_from_mode_page storedLibs
      (partitionedDrive 6 3 (partitionPage 0 tightSizes))) = [some 1, some 1, some 3] ∧
    ¬6 - 1 < 1 + 1 + 3 ∧
    fixedSize (partitionPage 0 fun _ => 5) 0 = 5 ∧
    medium_partition_capacity_from_mode_page storedLibs
      (partitionedDrive 100 1 (partitionPage 0 fun _ => 5)) 0 = some 100 := by
  decide +kernel

end Mhvtl.Ssc
