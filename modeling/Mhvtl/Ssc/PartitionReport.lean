import Mhvtl.Ssc.Capacities
import Mhvtl.Ssc.ModeAgreement
import Mathlib.Data.Nat.GCD.BigOperators

/-!
# The partition page of a loaded volume

At load the medium partition page is rewritten to report the volume. Where the medium
records the sizes of its partitions, nothing else changes by it. Where it does not, they
are read off the page while it is rewritten.
-/

namespace Mhvtl.Ssc

open Bytes Cart

/-- The units of the page. -/
def ModePage.partitionUnit (mp : ModePage) : ℕ := 10 ^ ((mp.byte 6).toNat % 16)

/-- Two sizes are less than a unit apart. -/
def WithinUnit (unit a b : ℕ) : Prop := a < b + unit ∧ b < a + unit

/-- Making the page report the volume does not change how it is partitioned. -/
structure Reports (L : Libs) (d d' : Drive) : Prop where
  /-- The page reports every partition within a unit. -/
  reported : ∀ mp, lookup_mode_pg d'.mode_pg MODE_MEDIUM_PARTITION 0 = some mp →
    ∀ k < partitionCount d.cart.mam, ∃ sz, medium_partition_capacity L d k = some sz ∧
      (sz ≠ 0 → mp.descriptor k ≠ 0) ∧
      WithinUnit mp.partitionUnit (mp.descriptor k * mp.partitionUnit) sz
  /-- It reports no other partition. -/
  absent : ∀ mp, lookup_mode_pg d'.mode_pg MODE_MEDIUM_PARTITION 0 = some mp →
    ∀ k < MAX_PARTITIONS, partitionCount d.cart.mam ≤ k → mp.descriptor k = 0
  /-- The partitions keep their sizes within a unit. -/
  kept : ∀ mp, lookup_mode_pg d'.mode_pg MODE_MEDIUM_PARTITION 0 = some mp →
    ∀ k < partitionCount d.cart.mam, ∃ sz sz', medium_partition_capacity L d k = some sz ∧
      medium_partition_capacity L d' k = some sz' ∧
      sz ≤ sz' + mp.partitionUnit ∧ sz' ≤ sz + mp.partitionUnit
  /-- The page is at rest. -/
  again : update_medium_partition_page L d' = some d'

section Units

/-- The units are those of the page field, and coarse enough for a 64-bit size. -/
theorem partitionUnits_spec {largest : ℕ} (h : largest < 2 ^ 64) :
    partitionUnits largest ≤ 15 ∧ largest / 10 ^ partitionUnits largest ≤ 0xfffe := by
  rw [partitionUnits]
  cases hfind : (List.range 15).find? fun units => largest / 10 ^ units ≤ 0xfffe with
  | none =>
    rw [Option.getD_none]
    omega
  | some u =>
    have hmem := List.mem_range.mp (List.mem_of_find?_eq_some hfind)
    have hfits := List.find?_some hfind
    rw [Option.getD_some]
    exact ⟨by omega, of_decide_eq_true hfits⟩

/-- They are the finest such units. -/
theorem partitionUnits_le {largest u : ℕ} (hu : u ≤ 15) (h : largest / 10 ^ u ≤ 0xfffe) :
    partitionUnits largest ≤ u := by
  rw [partitionUnits]
  cases hfind : (List.range 15).find? fun units => largest / 10 ^ units ≤ 0xfffe with
  | none =>
    rw [Option.getD_none]
    by_contra hlt
    rw [List.find?_eq_none] at hfind
    exact hfind u (List.mem_range.mpr (by omega)) (decide_eq_true h)
  | some v =>
    rw [Option.getD_some]
    by_contra hlt
    have hfirst := (List.find?_range_eq_some.mp hfind).2.2 u (by omega)
    simp [h] at hfirst

/-- A descriptor is the size in units, at least one when there is a size. -/
theorem partitionDescriptor_spec {sz unit : ℕ} (hunit : 0 < unit) (hfits : sz / unit ≤ 0xfffe) :
    partitionDescriptor sz unit < 65536 ∧ (sz ≠ 0 → partitionDescriptor sz unit ≠ 0) ∧
      WithinUnit unit (partitionDescriptor sz unit * unit) sz := by
  have hmod : sz / unit % 65536 = sz / unit := Nat.mod_eq_of_lt (by omega)
  have hdiv := Nat.div_add_mod' sz unit
  have hlt := Nat.mod_lt sz hunit
  simp only [partitionDescriptor, hmod, WithinUnit]
  by_cases hforced : sz / unit = 0 ∧ sz ≠ 0
  · rw [if_pos hforced]
    rw [hforced.1] at hdiv
    omega
  · rw [if_neg hforced]
    refine ⟨by omega, fun hsz hzero => hforced ⟨hzero, hsz⟩, by omega, by omega⟩

/-- The byte of the units, beside the partitioning type. -/
theorem units_byte (b : UInt8) {u : ℕ} (hu : u ≤ 15) :
    ((b &&& 0xf0) ||| UInt8.ofNat u).toNat % 16 = u ∧
      (((b &&& 0xf0) ||| UInt8.ofNat u) &&& 0xf0) ||| UInt8.ofNat u =
        (b &&& 0xf0) ||| UInt8.ofNat u := by
  have htop : ∀ n < 256, UInt8.ofNat n &&& 0xf0 = UInt8.ofNat (n / 16 * 16) := by decide +kernel
  have hall : ∀ a < 16, ∀ v < 16, (UInt8.ofNat (a * 16) ||| UInt8.ofNat v).toNat % 16 = v ∧
      ((UInt8.ofNat (a * 16) ||| UInt8.ofNat v) &&& 0xf0) ||| UInt8.ofNat v =
        UInt8.ofNat (a * 16) ||| UInt8.ofNat v := by decide +kernel
  have hb := b.toNat_lt
  have h := htop b.toNat hb
  rw [UInt8.ofNat_toNat] at h
  rw [h]
  exact hall (b.toNat / 16) (by omega) u (by omega)

end Units

section Descriptors

/-- Descriptors stored one after the other. -/
def ModePage.putDescriptors (m : ModePage) (D : ℕ → ℕ) (ks : List ℕ) : ModePage :=
  ks.foldl (fun m k => m.setBe16 (8 + 2 * k) (D k)) m

variable {D : ℕ → ℕ} {ks : List ℕ}

/-- The page keeps its length and its other bytes. -/
theorem putDescriptors_other (m : ModePage) :
    (m.putDescriptors D ks).pcodePointer.length = m.pcodePointer.length ∧
      (m.putDescriptors D ks).pcode = m.pcode ∧ (m.putDescriptors D ks).subpcode = m.subpcode ∧
      ∀ i < 8, (m.putDescriptors D ks).byte i = m.byte i := by
  induction ks generalizing m with
  | nil => exact ⟨rfl, rfl, rfl, fun _ _ => rfl⟩
  | cons k ks ih =>
    obtain ⟨hlen, hpage, hsub, hbyte⟩ := ih (m.setBe16 (8 + 2 * k) (D k))
    refine ⟨hlen.trans (by simp [ModePage.setBe16]), hpage, hsub, fun i hi => ?_⟩
    refine (hbyte i hi).trans ?_
    rw [ModePage.setBe16, ModePage.setByte_byte_other _ (by omega),
      ModePage.setByte_byte_other _ (by omega)]

/-- A descriptor that is stored is read back, and the others are left alone. -/
theorem setBe16_descriptor (m : ModePage) {j k n : ℕ} (hlen : 8 + 2 * k + 1 < m.pcodePointer.length)
    (hn : n < 65536) :
    (m.setBe16 (8 + 2 * k) n).descriptor j = if j = k then n else m.descriptor j := by
  rw [ModePage.descriptor, ModePage.be16, ModePage.setBe16]
  by_cases h : j = k
  · subst h
    rw [if_pos rfl, ModePage.setByte_byte_same _ (by rwa [ModePage.setByte_length]),
      ModePage.setByte_byte_other _ (by omega), ModePage.setByte_byte_same _ (by omega)]
    simp only [UInt8.toNat_ofNat']
    omega
  · rw [if_neg h, ModePage.setByte_byte_other _ (by omega), ModePage.setByte_byte_other _ (by omega),
      ModePage.setByte_byte_other _ (by omega), ModePage.setByte_byte_other _ (by omega)]
    rfl

/-- All that are stored are read back. -/
theorem putDescriptors_descriptor (m : ModePage) (hD : ∀ k, D k < 65536)
    (hks : ∀ k ∈ ks, 8 + 2 * k + 1 < m.pcodePointer.length) (j : ℕ) :
    (m.putDescriptors D ks).descriptor j = if j ∈ ks then D j else m.descriptor j := by
  induction ks generalizing m with
  | nil => simp [ModePage.putDescriptors]
  | cons k ks ih =>
    have hlen : (m.setBe16 (8 + 2 * k) (D k)).pcodePointer.length = m.pcodePointer.length := by
      simp [ModePage.setBe16]
    have htail := ih (m.setBe16 (8 + 2 * k) (D k)) fun i hi => by
      rw [hlen]
      exact hks i (List.mem_cons_of_mem k hi)
    have hhead := @setBe16_descriptor m j k (D k) (hks k List.mem_cons_self) (hD k)
    change ((m.setBe16 (8 + 2 * k) (D k)).putDescriptors D ks).descriptor j = _
    rw [htail, hhead]
    by_cases hj : j ∈ ks
    · rw [if_pos hj, if_pos (List.mem_cons_of_mem k hj)]
    · rw [if_neg hj]
      by_cases hjk : j = k
      · rw [if_pos hjk, hjk, if_pos List.mem_cons_self]
      · rw [if_neg hjk, if_neg (by simp [hjk, hj])]

/-- Storing what is there changes nothing. -/
theorem putDescriptors_self (m : ModePage) (hD : ∀ k ∈ ks, m.descriptor k = D k)
    (hks : ∀ k ∈ ks, 8 + 2 * k + 1 < m.pcodePointer.length) : m.putDescriptors D ks = m := by
  induction ks with
  | nil => rfl
  | cons k ks ih =>
    have hself : m.setBe16 (8 + 2 * k) (D k) = m := by
      rw [← hD k List.mem_cons_self]
      exact setBe16_self m (hks k List.mem_cons_self)
    change (m.setBe16 (8 + 2 * k) (D k)).putDescriptors D ks = m
    rw [hself]
    exact ih (fun j hj => hD j (List.mem_cons_of_mem k hj)) fun j hj =>
      hks j (List.mem_cons_of_mem k hj)

end Descriptors

/-- One change of a page after another. -/
theorem modify_modify (l : List ModePage) (page subpage : UInt8) {f g : ModePage → ModePage}
    (hf : KeepsCodes f) :
    modify_mode_pg (modify_mode_pg l page subpage f) page subpage g =
      modify_mode_pg l page subpage fun m => g (f m) := by
  induction l with
  | nil => rfl
  | cons m l ih =>
    simp only [modify_mode_pg]
    by_cases h : m.pcode = page ∧ m.subpcode = subpage
    · rw [if_pos h, if_pos h, modify_mode_pg, (hf m).1, (hf m).2, if_pos h]
    · rw [if_neg h, if_neg h, modify_mode_pg, if_neg h, ih]

/-- Something found for each entry of a list. -/
theorem mapM_some {α β : Type} {f : α → Option β} {g : α → β} {l : List α}
    (h : ∀ a ∈ l, f a = some (g a)) : l.mapM f = some (l.map g) := by
  induction l with
  | nil => rfl
  | cons a l ih =>
    rw [List.mapM_cons, h a List.mem_cons_self, ih fun b hb => h b (List.mem_cons_of_mem a hb)]
    rfl

/-- The drive with other mode pages. -/
def Drive.withPages (d : Drive) (l : List ModePage) : Drive := { d with mode_pg := l }

/-- The sizes of the partitions do not depend on the pages. -/
def FixedCapacities (L : Libs) (d : Drive) (cap : ℕ → ℕ) : Prop :=
  ∀ (l : List ModePage) (k : ℕ), k < partitionCount d.cart.mam →
    medium_partition_capacity L (d.withPages l) k = some (cap k)

/-- The bytes of the page in front of the descriptors. -/
def ModePage.describe (m : ModePage) (most : UInt8) (num units : ℕ) : ModePage :=
  ((m.setByte 2 (if most ≠ 0 then most - 1 else 0)).setByte 3 (UInt8.ofNat (num - 1))).setByte 6
    ((m.byte 6 &&& 0xf0) ||| UInt8.ofNat units)

/-- The descriptor that reports a partition. -/
def reportedDescriptor (cap : ℕ → ℕ) (num units k : ℕ) : ℕ :=
  partitionDescriptor (if k < num then cap k else 0) (10 ^ units)

/-- The page that reports the partitions. -/
def ModePage.report (m : ModePage) (most : UInt8) (cap : ℕ → ℕ) (num units : ℕ) : ModePage :=
  (m.describe most num units).putDescriptors (reportedDescriptor cap num units)
    (List.range MAX_PARTITIONS)

section Fixed

variable {L : Libs} {d : Drive} {cap : ℕ → ℕ}

/-- Descriptors of sizes that are known are stored one after the other. -/
theorem storeDescriptors_fixed (hcap : FixedCapacities L d cap) (units : ℕ) (ks : List ℕ)
    (l : List ModePage) :
    ks.foldlM (storeDescriptor L (partitionCount d.cart.mam) (10 ^ units)) (d.withPages l) =
      some (d.withPages (modify_mode_pg l MODE_MEDIUM_PARTITION 0
        (·.putDescriptors (reportedDescriptor cap (partitionCount d.cart.mam) units) ks))) := by
  induction ks generalizing l with
  | nil =>
    have hself : modify_mode_pg l MODE_MEDIUM_PARTITION 0
        (·.putDescriptors (reportedDescriptor cap (partitionCount d.cart.mam) units) []) = l :=
      modify_self fun _ _ => rfl
    rw [hself]
    rfl
  | cons k ks ih =>
    have hsize : (if k < partitionCount d.cart.mam
        then medium_partition_capacity L (d.withPages l) k else some 0) =
        some (if k < partitionCount d.cart.mam then cap k else 0) := by
      by_cases hk : k < partitionCount d.cart.mam
      · rw [if_pos hk, if_pos hk, hcap l k hk]
      · rw [if_neg hk, if_neg hk]
    have hcodes : KeepsCodes fun m => m.setBe16 (8 + 2 * k)
        (reportedDescriptor cap (partitionCount d.cart.mam) units k) := fun _ => ⟨rfl, rfl⟩
    have hstore : storeDescriptor L (partitionCount d.cart.mam) (10 ^ units) (d.withPages l) k =
        some (d.withPages (modify_mode_pg l MODE_MEDIUM_PARTITION 0 fun m =>
          m.setBe16 (8 + 2 * k) (reportedDescriptor cap (partitionCount d.cart.mam) units k))) := by
      rw [storeDescriptor, hsize]
      rfl
    rw [List.foldlM_cons, hstore]
    change ks.foldlM _ _ = _
    rw [ih, modify_modify _ _ _ hcodes]
    rfl

/-- When the sizes do not depend on the pages, the page becomes its report. -/
theorem update_fixed (hcap : FixedCapacities L d cap)
    (hmax : partitionCount d.cart.mam ≤ MAX_PARTITIONS)
    (hpage : lookup_mode_pg d.mode_pg MODE_MEDIUM_PARTITION 0 ≠ none) :
    update_medium_partition_page L d = some (d.withPages
      (modify_mode_pg d.mode_pg MODE_MEDIUM_PARTITION 0
        (·.report (d.cart.mam.byte .max_partitions) cap (partitionCount d.cart.mam)
          (partitionUnits (((List.range (partitionCount d.cart.mam)).map cap).foldl max 0))))) := by
  have hsizes : (List.range (partitionCount d.cart.mam)).mapM (medium_partition_capacity L d) =
      some ((List.range (partitionCount d.cart.mam)).map cap) :=
    mapM_some fun k hk => hcap d.mode_pg k (List.mem_range.mp hk)
  have hcodes : ∀ most num units, KeepsCodes fun m => m.describe most num units :=
    fun _ _ _ _ => ⟨rfl, rfl⟩
  rw [update_medium_partition_page, if_neg hpage, Nat.min_eq_left hmax]
  simp only [hsizes]
  refine (storeDescriptors_fixed hcap _ _ _).trans ?_
  exact congrArg (fun l => some (d.withPages l)) (modify_modify _ _ _ (hcodes _ _ _))

/-- Everything that is reported can be read back, and reporting it again changes nothing. -/
theorem report_spec {m : ModePage} (most : UInt8) {num units : ℕ} (hlen : m.pcodePointer.length = 16)
    (hunits : units ≤ 15) (hD : ∀ k, reportedDescriptor cap num units k < 65536) :
    (m.report most cap num units).partitionUnit = 10 ^ units ∧
      (∀ k < MAX_PARTITIONS,
        (m.report most cap num units).descriptor k = reportedDescriptor cap num units k) ∧
      (m.report most cap num units).report most cap num units = m.report most cap num units := by
  have hdescribe : (m.describe most num units).pcodePointer.length = 16 := by
    simp [ModePage.describe, hlen]
  have hroom : ∀ k ∈ List.range MAX_PARTITIONS,
      8 + 2 * k + 1 < (m.describe most num units).pcodePointer.length := by
    intro k hk
    have hlt : k < 4 := List.mem_range.mp hk
    omega
  obtain ⟨hlen', -, -, hbyte⟩ := @putDescriptors_other (reportedDescriptor cap num units)
    (List.range MAX_PARTITIONS) (m.describe most num units)
  have hread := putDescriptors_descriptor (m.describe most num units) hD hroom
  obtain ⟨hunit, hagain⟩ := units_byte (m.byte 6) hunits
  have hsix : (m.describe most num units).byte 6 = (m.byte 6 &&& 0xf0) ||| UInt8.ofNat units :=
    ModePage.setByte_byte_same _ (by simp [hlen]) _
  have hthree : (m.describe most num units).byte 3 = UInt8.ofNat (num - 1) := by
    rw [ModePage.describe, ModePage.setByte_byte_other _ (by decide),
      ModePage.setByte_byte_same _ (by simp [hlen])]
  have htwo : (m.describe most num units).byte 2 = if most ≠ 0 then most - 1 else 0 := by
    rw [ModePage.describe, ModePage.setByte_byte_other _ (by decide),
      ModePage.setByte_byte_other _ (by decide), ModePage.setByte_byte_same _ (by omega)]
  have hdesc : ∀ k < MAX_PARTITIONS,
      (m.report most cap num units).descriptor k = reportedDescriptor cap num units k := by
    intro k hk
    rw [ModePage.report, hread, if_pos (List.mem_range.mpr hk)]
  refine ⟨?_, hdesc, ?_⟩
  · rw [ModePage.partitionUnit, ModePage.report, hbyte 6 (by decide), hsix, hunit]
  · have hsame : (m.report most cap num units).describe most num units =
        m.report most cap num units := by
      have h2 := hbyte 2 (by decide)
      have h3 := hbyte 3 (by decide)
      have h6 := hbyte 6 (by decide)
      change (m.report most cap num units).byte 2 = _ at h2
      change (m.report most cap num units).byte 3 = _ at h3
      change (m.report most cap num units).byte 6 = _ at h6
      have hsize : (m.report most cap num units).pcodePointer.length = 16 := hlen'.trans hdescribe
      rw [ModePage.describe, h6, hsix, hagain, ← hsix, ← h6, ← hthree, ← h3, ← htwo, ← h2,
        ModePage.setByte_self _ (by omega), ModePage.setByte_self _ (by omega),
        ModePage.setByte_self _ (by omega)]
    have hsize : (m.report most cap num units).pcodePointer.length = 16 := hlen'.trans hdescribe
    rw [ModePage.report, hsame]
    apply putDescriptors_self
    · exact fun k hk => hdesc k (List.mem_range.mp hk)
    · intro k hk
      have hlt : k < 4 := List.mem_range.mp hk
      omega

/-- The largest size is at least each of them, and is one of them or zero. -/
theorem le_foldl_max {l : List ℕ} {a b : ℕ} : (a ∈ l ∨ a ≤ b → a ≤ l.foldl max b) ∧
    ∀ {c}, (∀ x ∈ l, x ≤ c) → b ≤ c → l.foldl max b ≤ c := by
  induction l generalizing b with
  | nil => exact ⟨fun h => h.elim (fun hm => absurd hm List.not_mem_nil) id, fun _ hb => hb⟩
  | cons x l ih =>
    rw [List.foldl_cons]
    constructor
    · intro h
      apply (@ih (max b x)).1
      rcases h with hm | hle
      · rcases List.mem_cons.mp hm with rfl | hm
        · exact Or.inr (le_max_right _ _)
        · exact Or.inl hm
      · exact Or.inr (hle.trans (le_max_left _ _))
    · intro c hall hb
      exact (@ih (max b x)).2 (fun y hy => hall y (List.mem_cons_of_mem x hy))
        (max_le hb (hall x List.mem_cons_self))

/-- When the sizes do not depend on the pages, reporting them leaves them alone. -/
theorem reports_fixed (hcap : FixedCapacities L d cap)
    (hlt : ∀ k < partitionCount d.cart.mam, cap k < 2 ^ 64)
    (hmax : partitionCount d.cart.mam ≤ MAX_PARTITIONS)
    (hlen : ∀ m, lookup_mode_pg d.mode_pg MODE_MEDIUM_PARTITION 0 = some m →
      m.pcodePointer.length = 16) :
    ∃ d', update_medium_partition_page L d = some d' ∧ Reports L d d' := by
  cases hpage : lookup_mode_pg d.mode_pg MODE_MEDIUM_PARTITION 0 with
  | none =>
    have hstay : update_medium_partition_page L d = some d := by
      rw [update_medium_partition_page, if_pos hpage]
    have hno : ∀ mp, ¬lookup_mode_pg d.mode_pg MODE_MEDIUM_PARTITION 0 = some mp := by
      intro mp hmp
      rw [hpage] at hmp
      exact absurd hmp (Option.some_ne_none mp).symm
    exact ⟨d, hstay, fun mp h => absurd h (hno mp), fun mp h => absurd h (hno mp),
      fun mp h => absurd h (hno mp), hstay⟩
  | some m =>
    let most := d.cart.mam.byte .max_partitions
    let num := partitionCount d.cart.mam
    let largest := ((List.range num).map cap).foldl max 0
    let units := partitionUnits largest
    have hlargest : largest < 2 ^ 64 := by
      have hle : largest ≤ 2 ^ 64 - 1 := by
        apply (@le_foldl_max _ 0 0).2
        · intro x hx
          obtain ⟨k, hk, rfl⟩ := List.mem_map.mp hx
          have h := hlt k (List.mem_range.mp hk)
          omega
        · exact Nat.zero_le _
      omega
    obtain ⟨hunits, hcoarse⟩ := partitionUnits_spec hlargest
    have hunit : 0 < 10 ^ units := Nat.pow_pos (by decide)
    have hspec : ∀ k, reportedDescriptor cap num units k < 65536 ∧
        ((if k < num then cap k else 0) ≠ 0 → reportedDescriptor cap num units k ≠ 0) ∧
        WithinUnit (10 ^ units) (reportedDescriptor cap num units k * 10 ^ units)
          (if k < num then cap k else 0) := by
      intro k
      apply partitionDescriptor_spec hunit
      refine (Nat.div_le_div_right ?_).trans hcoarse
      by_cases hk : k < num
      · rw [if_pos hk]
        exact (@le_foldl_max _ (cap k) 0).1
          (Or.inl (List.mem_map_of_mem (List.mem_range.mpr hk)))
      · rw [if_neg hk]
        exact Nat.zero_le _
    obtain ⟨hpu, hdesc, hagain⟩ := report_spec most (hlen m hpage) hunits
      fun k => (hspec k).1
    have hne : lookup_mode_pg d.mode_pg MODE_MEDIUM_PARTITION 0 ≠ none := by
      rw [hpage]
      exact Option.some_ne_none m
    let l' := modify_mode_pg d.mode_pg MODE_MEDIUM_PARTITION 0 (·.report most cap num units)
    have hcodes : KeepsCodes fun m => m.report most cap num units := by
      intro m
      obtain ⟨-, hpcode, hsub, -⟩ := @putDescriptors_other (reportedDescriptor cap num units)
        (List.range MAX_PARTITIONS) (m.describe most num units)
      exact ⟨hpcode, hsub⟩
    have hfound : lookup_mode_pg l' MODE_MEDIUM_PARTITION 0 = some (m.report most cap num units) := by
      rw [lookup_modify_same _ _ _ hcodes, hpage]
      rfl
    have hthe : ∀ mp, lookup_mode_pg (d.withPages l').mode_pg MODE_MEDIUM_PARTITION 0 = some mp →
        mp = m.report most cap num units := by
      intro mp hmp
      exact Option.some.inj (hmp.symm.trans hfound)
    refine ⟨d.withPages l', update_fixed hcap hmax hne, ?_, ?_, ?_, ?_⟩
    · intro mp hmp k hk
      obtain ⟨-, hnonzero, hwithin⟩ := hspec k
      have hk' : k < num := hk
      rw [if_pos hk'] at hnonzero hwithin
      rw [hthe mp hmp, hpu, hdesc k (hk.trans_le hmax)]
      exact ⟨cap k, hcap d.mode_pg k hk, hnonzero, hwithin⟩
    · intro mp hmp k hk hnum
      have hk' : ¬k < num := Nat.not_lt_of_le hnum
      rw [hthe mp hmp, hdesc k hk, reportedDescriptor, if_neg hk', partitionDescriptor, Nat.zero_div]
      rfl
    · intro mp hmp k hk
      exact ⟨cap k, cap k, hcap d.mode_pg k hk, hcap l' k hk, Nat.le_add_right _ _,
        Nat.le_add_right _ _⟩
    · have hcap' : FixedCapacities L (d.withPages l') cap := hcap
      have hne' : lookup_mode_pg (d.withPages l').mode_pg MODE_MEDIUM_PARTITION 0 ≠ none := by
        change lookup_mode_pg l' MODE_MEDIUM_PARTITION 0 ≠ none
        rw [hfound]
        exact Option.some_ne_none _
      have hself : modify_mode_pg l' MODE_MEDIUM_PARTITION 0 (·.report most cap num units) = l' := by
        refine modify_self fun m' hm' => ?_
        rw [hthe m' hm', hagain]
      refine (update_fixed hcap' hmax hne').trans ?_
      exact congrArg (fun l => some (d.withPages l)) hself

end Fixed

/-- The sizes of the partitions are recorded, or there is nothing to share out. -/
def SizesSettled (d : Drive) : Prop :=
  (∀ k < partitionCount d.cart.mam, recorded_partition_capacity d.cart.mam k ≠ 0) ∨
    partitionCount d.cart.mam = 1 ∨ d.cart.mam.be .max_capacity = 0

/-- A product of double precision that fits its mantissa is exact, and so is the quotient after
it is cut. -/
def ExactScale (L : Libs) : Prop := ∀ s b f, s * b < 2 ^ 53 → L.scale s b f = s * b / f

section Settled

variable {L : Libs} {d : Drive}

/-- Recorded numbers have eight bytes. -/
theorem capacity_lt (m : Mam) (f : MamField) (hf : f.length = 8) : m.be f < 2 ^ 64 := by
  have h := beNat_lt (m.bytes f)
  rwa [Mam.bytes_length, hf, show 256 ^ 8 = 2 ^ 64 from by norm_num] at h

/-- A recorded size is below `2 ^ 64`. -/
theorem recorded_lt (m : Mam) (k : ℕ) : recorded_partition_capacity m k < 2 ^ 64 := by
  rw [recorded_partition_capacity]
  split
  · apply capacity_lt
    rw [partitionCapacity.eq_def]
    split <;> rfl
  · exact Nat.two_pow_pos 64

/-- Sizes that add up to a multiple of `2 ^ 64` bytes add up to nothing. -/
theorem no_whole_wrap {u S : ℕ} (hu : u < 16) (hS : S < 2 ^ 18) (h : S * 10 ^ u % 2 ^ 64 = 0) :
    S = 0 := by
  have hpow : S * 10 ^ u = S * 2 ^ u * 5 ^ u := by
    rw [Nat.mul_assoc, ← Nat.mul_pow]
  have hcoprime : Nat.Coprime (2 ^ 64) (5 ^ u) := Nat.Coprime.pow _ _ (by decide)
  have hdvd : 2 ^ 64 ∣ S * 2 ^ u := by
    apply hcoprime.dvd_of_dvd_mul_right
    rw [← hpow]
    exact Nat.dvd_of_mod_eq_zero h
  have hlt : S * 2 ^ u < 2 ^ 64 := by
    calc S * 2 ^ u ≤ 2 ^ 18 * 2 ^ 15 :=
          Nat.mul_le_mul hS.le (Nat.pow_le_pow_right (by decide) (by omega))
      _ < 2 ^ 64 := by decide
  have hzero := Nat.eq_zero_of_dvd_of_lt hdvd hlt
  exact (Nat.mul_eq_zero.mp hzero).resolve_right (Nat.two_pow_pos u).ne'

/-- A descriptor has two bytes. -/
theorem descriptor_lt (mp : ModePage) (k : ℕ) : mp.descriptor k < 65536 := by
  have hhigh := (mp.byte (8 + 2 * k)).toNat_lt
  have hlow := (mp.byte (8 + 2 * k + 1)).toNat_lt
  rw [ModePage.descriptor, ModePage.be16]
  omega

/-- Products that are cut add up to what the product of the sum is cut to. -/
theorem sum_cut (D : ℕ → ℕ) (u n : ℕ) (l : List ℕ) :
    (l.map fun k => D k * u % n).sum % n = (l.map D).sum * u % n := by
  induction l with
  | nil => simp
  | cons k l ih =>
    rw [List.map_cons, List.sum_cons, List.map_cons, List.sum_cons, Nat.add_mod, ih, Nat.mod_mod,
      Nat.add_mul, ← Nat.add_mod]

/-- Numbers of two bytes do not add up to much. -/
theorem sum_lt_of_bounded {D : ℕ → ℕ} (hD : ∀ k, D k < 65536) (n : ℕ) :
    ((List.range n).map D).sum ≤ n * 65535 := by
  induction n with
  | zero => simp
  | succ n ih =>
    have hn := hD n
    rw [List.range_succ, List.map_append, List.sum_append, List.map_singleton, List.sum_singleton]
    omega

/-- An empty medium leaves nothing for its partitions. -/
theorem sharedOut_empty (hscale : ExactScale L) (mp : ModePage) {num p : ℕ} (hp : p < num)
    (hmax : num ≤ MAX_PARTITIONS) : sharedOut L mp 0 num p = 0 := by
  let D : ℕ → ℕ := fun k => if mp.descriptor k = REMAINDER then 0 else mp.descriptor k
  let u := (mp.byte 6).toNat % 16
  have hsize : (fun k => if mp.descriptor k = REMAINDER then 0
      else mp.descriptor k * 10 ^ u % 2 ^ 64) = fun k => D k * 10 ^ u % 2 ^ 64 := by
    funext k
    by_cases hr : mp.descriptor k = REMAINDER
    · simp only [D, if_pos hr, Nat.zero_mul, Nat.zero_mod]
    · simp only [D, if_neg hr]
  have hD : ∀ k, D k < 65536 := by
    intro k
    have hlt := descriptor_lt mp k
    simp only [D]
    split <;> omega
  rw [sharedOut]
  by_cases hr : mp.descriptor p = REMAINDER
  · simp [hr]
  · simp only [hr, if_false]
    rw [hsize, sum_cut]
    by_cases hfixed : 0 < ((List.range num).map D).sum * 10 ^ u % 2 ^ 64
    · simp only [Nat.zero_div, ite_self, hfixed, if_true]
      rw [hscale _ _ _ (by simp), Nat.mul_zero, Nat.zero_div]
    · have hbound := sum_lt_of_bounded hD num
      have hfour : num ≤ 4 := hmax
      have hsum := no_whole_wrap (Nat.mod_lt _ (by decide) : u < 16) (by omega)
        (Nat.eq_zero_of_not_pos hfixed)
      have hDp : D p ≤ ((List.range num).map D).sum :=
        List.le_sum_of_mem (List.mem_map_of_mem (List.mem_range.mpr hp))
      have hzero : mp.descriptor p = 0 := by
        rw [hsum] at hDp
        exact (if_neg hr).symm.trans (Nat.le_zero.mp hDp)
      simp only [Nat.zero_div, ite_self, hfixed, if_false]
      rw [hzero, Nat.zero_mul, Nat.zero_mod]

/-- The size of a partition of an empty medium, when none is recorded. -/
theorem from_mode_page_empty (hscale : ExactScale L) (hempty : d.cart.mam.be .max_capacity = 0)
    (hmax : partitionCount d.cart.mam ≤ MAX_PARTITIONS) {k : ℕ}
    (hk : k < partitionCount d.cart.mam) :
    medium_partition_capacity_from_mode_page L d k = some 0 := by
  by_cases hone : partitionCount d.cart.mam = 1
  · have hzero : k = 0 := by omega
    rw [hzero, from_mode_page_single hone, hempty]
  · cases hpage : lookup_mode_pg d.mode_pg MODE_MEDIUM_PARTITION 0 with
    | none =>
      have hnot : ¬partitionCount d.cart.mam ≤ k := by omega
      simp only [medium_partition_capacity_from_mode_page, if_neg hnot, if_neg hone, hpage, hempty,
        Nat.zero_div]
    | some mp =>
      rw [from_mode_page_shared hpage (by omega) hmax hk, hempty, sharedOut_empty hscale mp hk hmax]

/-- When the sizes are settled, they do not depend on the pages. -/
theorem SizesSettled.fixed (h : SizesSettled d) (hscale : ExactScale L)
    (hmax : partitionCount d.cart.mam ≤ MAX_PARTITIONS) : ∃ cap, FixedCapacities L d cap ∧
      ∀ k < partitionCount d.cart.mam, cap k < 2 ^ 64 := by
  have hmedium : d.cart.mam.be .max_capacity < 2 ^ 64 := capacity_lt _ _ rfl
  let cap : ℕ → ℕ := fun k => if recorded_partition_capacity d.cart.mam k ≠ 0
    then recorded_partition_capacity d.cart.mam k else d.cart.mam.be .max_capacity
  refine ⟨cap, ?_, ?_⟩
  · intro l k hk
    by_cases hrec : recorded_partition_capacity d.cart.mam k ≠ 0
    · have hcap : cap k = recorded_partition_capacity d.cart.mam k := if_pos hrec
      rw [hcap]
      exact if_pos hrec
    · have hcap : cap k = d.cart.mam.be .max_capacity := if_neg hrec
      rw [hcap]
      refine (if_neg hrec).trans ?_
      rcases h with hall | hone | hempty
      · exact absurd (hall k hk) hrec
      · have hzero : k = 0 := by omega
        rw [hzero]
        exact from_mode_page_single hone
      · rw [hempty]
        exact from_mode_page_empty (d := d.withPages l) hscale hempty hmax hk
  · intro k _
    have hrec := recorded_lt d.cart.mam k
    by_cases hne : recorded_partition_capacity d.cart.mam k ≠ 0
    · exact (if_pos hne).trans_lt hrec
    · exact (if_neg hne).trans_lt hmedium

end Settled

/-- Whatever the page was before, reporting the volume does not change its partitions. -/
def ReportsAlways (L : Libs) (d : Drive) : Prop :=
  ∀ l : List ModePage,
    (∀ m, lookup_mode_pg l MODE_MEDIUM_PARTITION 0 = some m → m.pcodePointer.length = 16) →
    ∃ d', update_medium_partition_page L (d.withPages l) = some d' ∧ Reports L (d.withPages l) d'

/-- Storing the descriptor of a partition whose size is read off the page. -/
def ModePage.storeShared (L : Libs) (M num unit : ℕ) (m : ModePage) (k : ℕ) : ModePage :=
  m.setBe16 (8 + 2 * k) (partitionDescriptor (if k < num then sharedOut L m M num k else 0) unit)

/-- The page after it reported sizes that were read off itself. -/
def ModePage.reportShared (L : Libs) (M num units : ℕ) (most : UInt8) (m : ModePage) : ModePage :=
  (List.range MAX_PARTITIONS).foldl (ModePage.storeShared L M num (10 ^ units))
    (m.describe most num units)

section Unrecorded

variable {L : Libs} {d : Drive} {m : ModePage}

/-- Without recorded sizes they are those of the page. -/
theorem unrecorded_capacity (hnone : ∀ k < partitionCount d.cart.mam,
      recorded_partition_capacity d.cart.mam k = 0)
    (htwo : 2 ≤ partitionCount d.cart.mam) (hmax : partitionCount d.cart.mam ≤ MAX_PARTITIONS)
    (hm : m.pcode = MODE_MEDIUM_PARTITION ∧ m.subpcode = 0) {k : ℕ}
    (hk : k < partitionCount d.cart.mam) :
    medium_partition_capacity L (d.withPages [m]) k =
      some (sharedOut L m (d.cart.mam.be .max_capacity) (partitionCount d.cart.mam) k) := by
  have hpage : lookup_mode_pg [m] MODE_MEDIUM_PARTITION 0 = some m := by
    rw [lookup_cons, if_pos hm]
  have hrec : ¬recorded_partition_capacity d.cart.mam k ≠ 0 := fun hne => hne (hnone k hk)
  refine (if_neg hrec).trans ?_
  exact from_mode_page_shared (d := d.withPages [m]) hpage htwo hmax hk

/-- Descriptors are stored one after the other, each with the page as it is then. -/
theorem storeDescriptors_shared (hnone : ∀ k < partitionCount d.cart.mam,
      recorded_partition_capacity d.cart.mam k = 0)
    (htwo : 2 ≤ partitionCount d.cart.mam) (hmax : partitionCount d.cart.mam ≤ MAX_PARTITIONS)
    (hm : m.pcode = MODE_MEDIUM_PARTITION ∧ m.subpcode = 0) (unit : ℕ) (ks : List ℕ) :
    ks.foldlM (storeDescriptor L (partitionCount d.cart.mam) unit) (d.withPages [m]) =
      some (d.withPages [ks.foldl (ModePage.storeShared L (d.cart.mam.be .max_capacity)
        (partitionCount d.cart.mam) unit) m]) := by
  induction ks generalizing m with
  | nil => rfl
  | cons k ks ih =>
    have hsize : (if k < partitionCount d.cart.mam
        then medium_partition_capacity L (d.withPages [m]) k else some 0) =
        some (if k < partitionCount d.cart.mam
          then sharedOut L m (d.cart.mam.be .max_capacity) (partitionCount d.cart.mam) k
          else 0) := by
      by_cases hk : k < partitionCount d.cart.mam
      · rw [if_pos hk, if_pos hk, unrecorded_capacity hnone htwo hmax hm hk]
      · rw [if_neg hk, if_neg hk]
    have hstore : storeDescriptor L (partitionCount d.cart.mam) unit (d.withPages [m]) k =
        some (d.withPages [m.storeShared L (d.cart.mam.be .max_capacity)
          (partitionCount d.cart.mam) unit k]) := by
      rw [storeDescriptor, hsize]
      simp only [Drive.withPages, modify_mode_pg, if_pos hm]
      rfl
    rw [List.foldlM_cons, hstore]
    exact ih (m := m.storeShared L _ _ unit k) hm

/-- The page reports sizes that were read off itself. -/
theorem update_shared (hnone : ∀ k < partitionCount d.cart.mam,
      recorded_partition_capacity d.cart.mam k = 0)
    (htwo : 2 ≤ partitionCount d.cart.mam) (hmax : partitionCount d.cart.mam ≤ MAX_PARTITIONS)
    (hm : m.pcode = MODE_MEDIUM_PARTITION ∧ m.subpcode = 0) :
    update_medium_partition_page L (d.withPages [m]) = some (d.withPages
      [m.reportShared L (d.cart.mam.be .max_capacity) (partitionCount d.cart.mam)
        (partitionUnits (((List.range (partitionCount d.cart.mam)).map
          (sharedOut L m (d.cart.mam.be .max_capacity) (partitionCount d.cart.mam))).foldl max 0))
        (d.cart.mam.byte .max_partitions)]) := by
  have hpage : lookup_mode_pg (d.withPages [m]).mode_pg MODE_MEDIUM_PARTITION 0 ≠ none := by
    change lookup_mode_pg [m] MODE_MEDIUM_PARTITION 0 ≠ none
    rw [lookup_cons, if_pos hm]
    exact Option.some_ne_none m
  have hsizes : (List.range (partitionCount d.cart.mam)).mapM
      (medium_partition_capacity L (d.withPages [m])) = some ((List.range (partitionCount d.cart.mam)).map
        (sharedOut L m (d.cart.mam.be .max_capacity) (partitionCount d.cart.mam))) :=
    mapM_some fun k hk => unrecorded_capacity hnone htwo hmax hm (List.mem_range.mp hk)
  have hmin : min (partitionCount (d.withPages [m]).cart.mam) MAX_PARTITIONS =
      partitionCount d.cart.mam := Nat.min_eq_left hmax
  rw [update_medium_partition_page, if_neg hpage, hmin]
  simp only [hsizes]
  have hdescribe : ∀ units, modify_mode_pg [m] MODE_MEDIUM_PARTITION 0
      (·.describe (d.cart.mam.byte .max_partitions) (partitionCount d.cart.mam) units) =
      [m.describe (d.cart.mam.byte .max_partitions) (partitionCount d.cart.mam) units] := by
    intro units
    rw [modify_mode_pg, if_pos hm]
  refine Eq.trans ?_ (storeDescriptors_shared (m := m.describe _ _ _) hnone htwo hmax hm _ _)
  exact congrArg (fun l => (List.range MAX_PARTITIONS).foldlM
    (storeDescriptor L (partitionCount d.cart.mam) _) (d.withPages l)) (hdescribe _)

/-- The first descriptor is stored, and then the others. -/
theorem reportShared_first (M num units : ℕ) (most : UInt8) :
    m.reportShared L M num units most = [1, 2, 3].foldl (ModePage.storeShared L M num (10 ^ units))
      ((m.describe most num units).storeShared L M num (10 ^ units) 0) := by
  have hrange : List.range MAX_PARTITIONS = [0, 1, 2, 3] := rfl
  rw [ModePage.reportShared, hrange, List.foldl_cons]

/-- Other bytes of the page are left alone while descriptors are stored. -/
theorem storeShared_keeps {M num unit : ℕ} {ks : List ℕ} (m : ModePage) :
    (ks.foldl (ModePage.storeShared L M num unit) m).pcodePointer.length = m.pcodePointer.length ∧
      (∀ i < 8, (ks.foldl (ModePage.storeShared L M num unit) m).byte i = m.byte i) ∧
      ∀ j, j ∉ ks →
        (ks.foldl (ModePage.storeShared L M num unit) m).descriptor j = m.descriptor j := by
  induction ks generalizing m with
  | nil => exact ⟨rfl, fun _ _ => rfl, fun _ _ => rfl⟩
  | cons k ks ih =>
    obtain ⟨hlen, hbyte, hother⟩ := ih (m.storeShared L M num unit k)
    refine ⟨hlen.trans (by simp [ModePage.storeShared, ModePage.setBe16]), ?_, ?_⟩
    · intro i hi
      refine (hbyte i hi).trans ?_
      rw [ModePage.storeShared, ModePage.setBe16, ModePage.setByte_byte_other _ (by omega),
        ModePage.setByte_byte_other _ (by omega)]
    · intro j hj
      rw [List.mem_cons, not_or] at hj
      have hjk := hj.1
      refine (hother j hj.2).trans ?_
      rw [ModePage.descriptor, ModePage.descriptor, ModePage.be16, ModePage.be16,
        ModePage.storeShared, ModePage.setBe16]
      rw [ModePage.setByte_byte_other _ (by omega), ModePage.setByte_byte_other _ (by omega),
        ModePage.setByte_byte_other _ (by omega), ModePage.setByte_byte_other _ (by omega)]

/-- The page keeps its codes. -/
theorem storeShared_codes {M num unit : ℕ} {ks : List ℕ} (m : ModePage) :
    (ks.foldl (ModePage.storeShared L M num unit) m).pcode = m.pcode ∧
      (ks.foldl (ModePage.storeShared L M num unit) m).subpcode = m.subpcode := by
  induction ks generalizing m with
  | nil => exact ⟨rfl, rfl⟩
  | cons k ks ih => exact ih (m.storeShared L M num unit k)

/-- A single descriptor of one unit takes that, or the medium when it is smaller. -/
theorem sharedOut_lone (hscale : ExactScale L) {mp : ModePage} {v M n : ℕ} (hv : v ≤ 1)
    (hunits : (mp.byte 6).toNat % 16 = v) (hfirst : mp.descriptor 0 = 1)
    (hrest : ∀ k, k ≠ 0 → mp.descriptor k = 0) (k : ℕ) :
    sharedOut L mp M (n + 1) k = if k = 0 then min M (10 ^ v) else 0 := by
  have hten : 10 ^ v ≤ 10 := by
    calc 10 ^ v ≤ 10 ^ 1 := Nat.pow_le_pow_right (by decide) hv
      _ = 10 := by decide
  have hne : ∀ k, ¬mp.descriptor k = REMAINDER := by
    intro k hr
    by_cases hk : k = 0
    · rw [hk, hfirst] at hr
      exact absurd hr (by decide)
    · rw [hrest k hk] at hr
      exact absurd hr (by decide)
  have hsize : ∀ k, mp.descriptor k * 10 ^ v % 2 ^ 64 = if k = 0 then 10 ^ v else 0 := by
    intro k
    by_cases hk : k = 0
    · rw [if_pos hk, hk, hfirst, Nat.one_mul, Nat.mod_eq_of_lt (by omega)]
    · rw [if_neg hk, hrest k hk, Nat.zero_mul, Nat.zero_mod]
  have hsum : ((List.range (n + 1)).map fun k => if k = 0 then 10 ^ v else 0).sum % 2 ^ 64 =
      10 ^ v := by
    have hrestsum : ((List.range n).map fun k => if k + 1 = 0 then 10 ^ v else 0).sum = 0 := by
      simp
    rw [List.range_succ_eq_map, List.map_cons, List.map_map, List.sum_cons, if_pos rfl]
    change (10 ^ v + ((List.range n).map fun k => if k + 1 = 0 then 10 ^ v else 0).sum) % 2 ^ 64 = _
    rw [hrestsum, Nat.add_zero, Nat.mod_eq_of_lt (by omega)]
  have hcount : ((List.range (n + 1)).filter fun k => mp.descriptor k = REMAINDER).length = 0 := by
    simp [hne]
  simp only [sharedOut, hcount, ne_eq, not_true_eq_false, if_false]
  simp only [hunits, hne, if_false, hsize, hsum]
  by_cases hfew : M < 10 ^ v
  · have hpos : 0 < 10 ^ v := Nat.pow_pos (by decide)
    rw [if_pos hfew, Nat.min_eq_left hfew.le]
    by_cases hk : k = 0
    · have hsmall : 10 ^ v * M < 2 ^ 53 := by
        calc 10 ^ v * M ≤ 10 * 10 := Nat.mul_le_mul hten (by omega)
          _ < 2 ^ 53 := by decide
      rw [if_pos hk, if_pos hk, hscale _ _ _ hsmall, Nat.mul_div_cancel_left M hpos]
    · rw [if_neg hk, if_neg hk, hscale _ _ _ (by simp), Nat.zero_mul, Nat.zero_div]
  · rw [if_neg hfew, Nat.min_eq_right (Nat.le_of_not_lt hfew)]

/-- The front of the page does not touch its descriptors. -/
theorem describe_descriptor (m : ModePage) (most : UInt8) (num units k : ℕ) :
    (m.describe most num units).descriptor k = m.descriptor k := by
  rw [ModePage.descriptor, ModePage.descriptor, ModePage.be16, ModePage.be16, ModePage.describe]
  rw [ModePage.setByte_byte_other _ (by omega), ModePage.setByte_byte_other _ (by omega),
    ModePage.setByte_byte_other _ (by omega), ModePage.setByte_byte_other _ (by omega),
    ModePage.setByte_byte_other _ (by omega), ModePage.setByte_byte_other _ (by omega)]

/-- It has the units. -/
theorem describe_units {m : ModePage} (hlen : m.pcodePointer.length = 16) (most : UInt8)
    (num : ℕ) {units : ℕ} (hunits : units ≤ 15) :
    ((m.describe most num units).byte 6).toNat % 16 = units := by
  have hsix : (m.describe most num units).byte 6 = (m.byte 6 &&& 0xf0) ||| UInt8.ofNat units :=
    ModePage.setByte_byte_same _ (by simp [hlen]) _
  rw [hsix]
  exact (units_byte (m.byte 6) hunits).1

/-- A page of four bytes for each of its descriptors has no other ones. -/
theorem descriptor_out {m : ModePage} (hlen : m.pcodePointer.length = 16) {k : ℕ} (hk : 4 ≤ k) :
    m.descriptor k = 0 := by
  have hout : ∀ i, 16 ≤ i → m.byte i = 0 := by
    intro i hi
    rw [ModePage.byte, List.getD_eq_default _ _ (by omega)]
  rw [ModePage.descriptor, ModePage.be16, hout _ (by omega), hout _ (by omega)]
  rfl

/-- The volume is not reported when, in units of a byte, the page reports another size for a
partition than it had. -/
theorem not_reported_of_page (hnone : ∀ k < partitionCount d.cart.mam,
      recorded_partition_capacity d.cart.mam k = 0)
    (htwo : 2 ≤ partitionCount d.cart.mam) (hmax : partitionCount d.cart.mam ≤ MAX_PARTITIONS)
    (hm : m.pcode = MODE_MEDIUM_PARTITION ∧ m.subpcode = 0) (hlen : m.pcodePointer.length = 16)
    (hlargest : ((List.range (partitionCount d.cart.mam)).map (sharedOut L m
      (d.cart.mam.be .max_capacity) (partitionCount d.cart.mam))).foldl max 0 ≤ 10)
    {k : ℕ} (hk : k < partitionCount d.cart.mam)
    (hne : (m.reportShared L (d.cart.mam.be .max_capacity) (partitionCount d.cart.mam) 0
      (d.cart.mam.byte .max_partitions)).descriptor k ≠
        sharedOut L m (d.cart.mam.be .max_capacity) (partitionCount d.cart.mam) k) :
    ¬ReportsAlways L d := by
  intro h
  have hpage : ∀ m', lookup_mode_pg [m] MODE_MEDIUM_PARTITION 0 = some m' →
      m'.pcodePointer.length = 16 := by
    intro m' hm'
    rw [lookup_cons, if_pos hm, Option.some.injEq] at hm'
    rw [← hm', hlen]
  obtain ⟨d', hd', hrep⟩ := h [m] hpage
  have hunits : partitionUnits (((List.range (partitionCount d.cart.mam)).map (sharedOut L m
      (d.cart.mam.be .max_capacity) (partitionCount d.cart.mam))).foldl max 0) = 0 :=
    Nat.le_zero.mp (partitionUnits_le (by decide) (by omega))
  rw [update_shared hnone htwo hmax hm, Option.some.injEq, hunits] at hd'
  subst hd'
  let page := m.describe (d.cart.mam.byte .max_partitions) (partitionCount d.cart.mam) 0
  let m' := m.reportShared L (d.cart.mam.be .max_capacity) (partitionCount d.cart.mam) 0
    (d.cart.mam.byte .max_partitions)
  obtain ⟨hpcode, hsub⟩ := @storeShared_codes L (d.cart.mam.be .max_capacity)
    (partitionCount d.cart.mam) (10 ^ 0) (List.range MAX_PARTITIONS) page
  obtain ⟨-, hbyte, -⟩ := @storeShared_keeps L (d.cart.mam.be .max_capacity)
    (partitionCount d.cart.mam) (10 ^ 0) (List.range MAX_PARTITIONS) page
  have hfound : lookup_mode_pg [m'] MODE_MEDIUM_PARTITION 0 = some m' :=
    (lookup_cons _ _ _ _).trans (if_pos ⟨hpcode.trans hm.1, hsub.trans hm.2⟩)
  have hunit : (m'.byte 6).toNat % 16 = 0 := (congrArg (·.toNat % 16) (hbyte 6 (by decide))).trans
    (describe_units hlen (d.cart.mam.byte .max_partitions) (partitionCount d.cart.mam) (Nat.zero_le 15))
  obtain ⟨sz, hsz, -, hwithin⟩ := hrep.reported m' hfound k hk
  rw [unrecorded_capacity hnone htwo hmax hm hk, Option.some.injEq] at hsz
  rw [WithinUnit, ModePage.partitionUnit, hunit, ← hsz] at hwithin
  change m'.descriptor k ≠ _ at hne
  omega

/-- A page with one descriptor of ten bytes. -/
def lonePage : ModePage := partitionPage 1 fun k => if k = 0 then 1 else 0

/-- Its descriptors. -/
theorem lonePage_descriptor (k : ℕ) (hk : k ≠ 0) : lonePage.descriptor k = 0 := by
  by_cases hlt : k < 4
  · have hall : ∀ k < 4, k ≠ 0 → lonePage.descriptor k = 0 := by decide +kernel
    exact hall k hlt hk
  · exact descriptor_out (by decide +kernel) (Nat.le_of_not_lt hlt)

/-- Reporting a descriptor of ten bytes makes it one of a byte. -/
theorem lonePage_not_reported (hscale : ExactScale L)
    (hnone : ∀ k < partitionCount d.cart.mam, recorded_partition_capacity d.cart.mam k = 0)
    (htwo : 2 ≤ partitionCount d.cart.mam) (hmax : partitionCount d.cart.mam ≤ MAX_PARTITIONS)
    (hM : 2 ≤ d.cart.mam.be .max_capacity) : ¬ReportsAlways L d := by
  have hlen : lonePage.pcodePointer.length = 16 := by decide +kernel
  obtain ⟨n, hn⟩ : ∃ n, partitionCount d.cart.mam = n + 1 :=
    ⟨partitionCount d.cart.mam - 1, by omega⟩
  have hshared := sharedOut_lone hscale (M := d.cart.mam.be .max_capacity) (n := n) (le_refl 1)
    (by decide +kernel) (by decide +kernel) lonePage_descriptor
  apply not_reported_of_page hnone htwo hmax (by decide +kernel) hlen _ (Nat.zero_lt_of_lt htwo)
  · let page := lonePage.describe (d.cart.mam.byte .max_partitions) (partitionCount d.cart.mam) 0
    let stored := page.storeShared L (d.cart.mam.be .max_capacity) (partitionCount d.cart.mam)
      (10 ^ 0) 0
    have hbyte : (page.byte 6).toNat % 16 = 0 := describe_units hlen _ _ (Nat.zero_le 15)
    have hfirst : page.descriptor 0 = 1 := by
      rw [describe_descriptor]
      decide +kernel
    have hrest : ∀ k, k ≠ 0 → page.descriptor k = 0 := by
      intro k hk
      rw [describe_descriptor, lonePage_descriptor k hk]
    have hone : sharedOut L page (d.cart.mam.be .max_capacity) (partitionCount d.cart.mam) 0 = 1 := by
      rw [hn, sharedOut_lone hscale (Nat.zero_le 1) hbyte hfirst hrest, if_pos rfl]
      omega
    have hstored : stored.descriptor 0 = 1 := by
      have hpart : 0 < partitionCount d.cart.mam := by omega
      have hroom : 8 + 2 * 0 + 1 < page.pcodePointer.length := by
        simp [page, ModePage.describe, hlen]
      change (page.setBe16 (8 + 2 * 0) _).descriptor 0 = 1
      rw [if_pos hpart, hone, setBe16_descriptor page hroom (by decide), if_pos rfl]
      rfl
    obtain ⟨-, -, hkept⟩ := @storeShared_keeps L (d.cart.mam.be .max_capacity)
      (partitionCount d.cart.mam) (10 ^ 0) [1, 2, 3] stored
    have hread := (hkept 0 (by decide)).trans hstored
    rw [reportShared_first, hn, hshared, if_pos rfl, ← hn]
    intro heq
    have hmin := hread.symm.trans heq
    omega
  · apply (@le_foldl_max _ 0 0).2
    · intro x hx
      obtain ⟨k, -, rfl⟩ := List.mem_map.mp hx
      rw [hn, hshared]
      split <;> omega
    · omega

/-- When nothing but what is left is asked for, it is shared out in equal parts. -/
theorem sharedOut_equal {mp : ModePage} {M num : ℕ}
    (h : ∀ k, mp.descriptor k = REMAINDER ∨ mp.descriptor k = 0) (p : ℕ) :
    sharedOut L mp M num p =
      if mp.descriptor p = REMAINDER then M / (remainderPartitions mp num).length else 0 := by
  have hsize : ∀ k u, (if mp.descriptor k = REMAINDER then 0
      else mp.descriptor k * u % 2 ^ 64) = 0 := by
    intro k u
    rcases h k with hr | hzero
    · rw [if_pos hr]
    · rw [hzero, Nat.zero_mul, Nat.zero_mod, ite_self]
  have hsum : ((List.range num).map fun _ => 0).sum = 0 := by simp
  simp only [sharedOut, hsize, hsum, Nat.zero_mod, Nat.not_lt_zero, if_false, Nat.zero_min,
    Nat.sub_zero]
  rfl

/-- A page that asks for what is left, in two parts. -/
def evenPage : ModePage := partitionPage 0 fun k => if k < 2 then REMAINDER else 0

/-- Its descriptors. -/
theorem evenPage_descriptor (k : ℕ) : evenPage.descriptor k = if k < 2 then REMAINDER else 0 := by
  by_cases hlt : k < 4
  · have hall : ∀ k < 4, evenPage.descriptor k = if k < 2 then REMAINDER else 0 := by decide +kernel
    exact hall k hlt
  · rw [descriptor_out (by decide +kernel) (Nat.le_of_not_lt hlt), if_neg (by omega)]

/-- The parts of a medium of one byte, for the partitions that ask for what is left. -/
theorem sharedOut_byte {mp : ModePage} {num : ℕ} (q : ℕ → Prop) [DecidablePred q]
    (hdesc : ∀ k, mp.descriptor k = if q k then REMAINDER else 0) (p : ℕ) :
    sharedOut L mp 1 num p = if q p then 1 / ((List.range num).filter q).length else 0 := by
  have hq : ∀ k, mp.descriptor k = REMAINDER ↔ q k := by
    intro k
    rw [hdesc]
    by_cases hk : q k
    · simp [hk]
    · simp [hk, REMAINDER]
  have hkinds : ∀ k, mp.descriptor k = REMAINDER ∨ mp.descriptor k = 0 := by
    intro k
    rw [hdesc]
    split
    · exact Or.inl rfl
    · exact Or.inr rfl
  simp only [sharedOut_equal hkinds, remainderPartitions, hq]

/-- On a medium of one byte, reporting that the first part is nothing gives the byte to the
second. -/
theorem evenPage_not_reported
    (hnone : ∀ k < partitionCount d.cart.mam, recorded_partition_capacity d.cart.mam k = 0)
    (htwo : 2 ≤ partitionCount d.cart.mam) (hmax : partitionCount d.cart.mam ≤ MAX_PARTITIONS)
    (hM : d.cart.mam.be .max_capacity = 1) : ¬ReportsAlways L d := by
  have hlen : evenPage.pcodePointer.length = 16 := by decide +kernel
  have hnum : partitionCount d.cart.mam = 2 ∨ partitionCount d.cart.mam = 3 ∨
      partitionCount d.cart.mam = 4 := by
    have hfour : MAX_PARTITIONS = 4 := rfl
    omega
  have hnothing : ∀ mp : ModePage, (∀ k, mp.descriptor k = if k < 2 then REMAINDER else 0) →
      ∀ k, sharedOut L mp 1 (partitionCount d.cart.mam) k = 0 := by
    intro mp hdesc k
    rw [sharedOut_byte (· < 2) hdesc]
    rcases hnum with hn | hn | hn <;> rw [hn] <;> split <;> rfl
  apply not_reported_of_page hnone htwo hmax (by decide +kernel) hlen _ htwo
  · rw [hM, hnothing evenPage evenPage_descriptor]
    let page := evenPage.describe (d.cart.mam.byte .max_partitions) (partitionCount d.cart.mam) 0
    let first := page.storeShared L 1 (partitionCount d.cart.mam) (10 ^ 0) 0
    let second := first.storeShared L 1 (partitionCount d.cart.mam) (10 ^ 0) 1
    have hpage : page.pcodePointer.length = 16 := by simp [page, ModePage.describe, hlen]
    have hpart : 0 < partitionCount d.cart.mam ∧ 1 < partitionCount d.cart.mam := by omega
    have hdesc : ∀ k, page.descriptor k = if k < 2 then REMAINDER else 0 := by
      intro k
      rw [describe_descriptor, evenPage_descriptor]
    have hfirst : ∀ k, first.descriptor k = if k = 1 then REMAINDER else 0 := by
      intro k
      change (page.setBe16 (8 + 2 * 0) _).descriptor k = _
      rw [if_pos hpart.1, hnothing page hdesc, setBe16_descriptor page (by omega) (by decide), hdesc]
      rcases Nat.lt_trichotomy k 1 with hk | hk | hk
      · have hzero : k = 0 := by omega
        rw [hzero]
        rfl
      · rw [hk]
        rfl
      · rw [if_neg (by omega), if_neg (by omega), if_neg (by omega)]
    have hbyte : sharedOut L first 1 (partitionCount d.cart.mam) 1 = 1 := by
      rw [sharedOut_byte (· = 1) hfirst]
      rcases hnum with hn | hn | hn <;> rw [hn] <;> rfl
    have hroom : 8 + 2 * 1 + 1 < first.pcodePointer.length := by
      have hfirstlen : first.pcodePointer.length = page.pcodePointer.length := by
        simp [first, ModePage.storeShared, ModePage.setBe16]
      omega
    have hsecond : second.descriptor 1 = 1 := by
      change (first.setBe16 (8 + 2 * 1) _).descriptor 1 = 1
      rw [if_pos hpart.2, hbyte, setBe16_descriptor first hroom (by decide), if_pos rfl]
      rfl
    obtain ⟨-, -, hkept⟩ := @storeShared_keeps L 1 (partitionCount d.cart.mam) (10 ^ 0) [2, 3] second
    have hread := (hkept 1 (by decide)).trans hsecond
    rw [reportShared_first, List.foldl_cons]
    intro heq
    have hzero := hread.symm.trans heq
    omega
  · apply (@le_foldl_max _ 0 0).2
    · intro x hx
      obtain ⟨k, -, rfl⟩ := List.mem_map.mp hx
      rw [hM, hnothing evenPage evenPage_descriptor]
      omega
    · omega

end Unrecorded

section Report

variable {L : Libs} {d : Drive}

/-- Settled sizes are reported whatever the page was before. -/
theorem SizesSettled.reports (h : SizesSettled d) (hscale : ExactScale L)
    (hmax : partitionCount d.cart.mam ≤ MAX_PARTITIONS) : ReportsAlways L d := by
  obtain ⟨cap, hcap, hlt⟩ := h.fixed hscale hmax
  intro l hlen
  exact reports_fixed (d := d.withPages l) hcap hlt hmax hlen

/-- Reporting the volume in the partition page leaves its partitions alone when their sizes are
settled. Where none is recorded, it does so for every earlier page only then. -/
theorem partition_report_iff (hscale : ExactScale L)
    (hmax : partitionCount d.cart.mam ≤ MAX_PARTITIONS) :
    (SizesSettled d → ReportsAlways L d) ∧
    ((∀ k < partitionCount d.cart.mam, recorded_partition_capacity d.cart.mam k = 0) →
      (ReportsAlways L d ↔
        partitionCount d.cart.mam = 1 ∨ d.cart.mam.be .max_capacity = 0)) := by
  refine ⟨fun h => h.reports hscale hmax, fun hnone => ⟨fun h => ?_, fun h => ?_⟩⟩
  · by_contra hsettled
    obtain ⟨hone, hempty⟩ := not_or.mp hsettled
    have htwo : 2 ≤ partitionCount d.cart.mam := by
      have hpos : 0 < partitionCount d.cart.mam := by
        rw [partitionCount]
        split <;> omega
      omega
    by_cases hM : d.cart.mam.be .max_capacity = 1
    · exact evenPage_not_reported hnone htwo hmax hM h
    · exact lonePage_not_reported hscale hnone htwo hmax (by omega) h
  · exact SizesSettled.reports (Or.inr h) hscale hmax

end Report

/-- The rounding of the sizes that were stored is exact. -/
theorem storedLibs_exactScale : ExactScale storedLibs := fun _ _ _ _ => rfl

/-- Two partitions of a kilobyte whose sizes are recorded. -/
def recordedSizes : Drive :=
  (partitionedDrive 1024 2 (partitionPage 0 tightSizes)).setMam fun m =>
    (m.putBe .partition_capacity0 600).putBe .partition_capacity1 424

/-- They are reported whatever the page was before. -/
theorem reports_kilobyte : ReportsAlways storedLibs recordedSizes := by
  have hcount : partitionCount recordedSizes.cart.mam = 2 := by decide +kernel
  refine (partition_report_iff storedLibs_exactScale (by rw [hcount]; decide)).1 (Or.inl ?_)
  rw [hcount]
  decide +kernel

/-- Two partitions, of which the page asks for ten bytes for the first one. Reporting them makes
it one byte. -/
theorem lone_partition_shrinks :
    let d := partitionedDrive 1024 2 lonePage
    medium_partition_capacity storedLibs d 0 = some 10 ∧
    ((update_medium_partition_page storedLibs d).bind fun d' =>
      medium_partition_capacity storedLibs d' 0) = some 1 ∧
    ¬ReportsAlways storedLibs d := by
  intro d
  have hcount : partitionCount d.cart.mam = 2 := by decide +kernel
  have hnone : ∀ k < partitionCount d.cart.mam, recorded_partition_capacity d.cart.mam k = 0 := by
    rw [hcount]
    decide +kernel
  exact ⟨by decide +kernel, by decide +kernel, lonePage_not_reported storedLibs_exactScale hnone
    (by rw [hcount]) (by rw [hcount]; decide) (by decide +kernel)⟩

end Mhvtl.Ssc
