import Mhvtl.Cart.Loading
import Mhvtl.Mam.RoundTrip
import Mhvtl.Ssc.Capacities
import Mhvtl.Ssc.Residuals
import Mhvtl.Ssc.Volume

/-!
# What a reformat leaves

FORMAT MEDIUM and SET CAPACITY remove all partitions of a volume and create empty ones.
Only the first records their capacities and writes the attributes out.
-/

namespace Mhvtl.Ssc

open Bytes Cart Store

section Files

/-- Whoever reads the attribute files finds attributes with the property. -/
def FilesTell (dir : Dir) (P : Mam → Prop) : Prop :=
  ∀ x, (read_mam dir.mam dir.mhvtl_data x).1 = 0 ∧ P (read_mam dir.mam dir.mhvtl_data x).2

/-- What the attribute files have behind the size of new contents keeps the property. -/
def RemainsKeep (dir : Dir) (P : Mam → Prop) : Prop :=
  ∀ mam mhvtl, dir.mam = some mam → dir.mhvtl_data = some mhvtl → LeftoverKeeps mam mhvtl P

/-- What is told is a fact about the two files. -/
theorem FilesTell.congr {dir dir' : Dir} {P : Mam → Prop} (hmam : dir'.mam = dir.mam)
    (hmhvtl : dir'.mhvtl_data = dir.mhvtl_data) : FilesTell dir' P ↔ FilesTell dir P := by
  rw [FilesTell, FilesTell, hmam, hmhvtl]

/-- So is what remains. -/
theorem RemainsKeep.congr {dir dir' : Dir} {P : Mam → Prop} (hmam : dir'.mam = dir.mam)
    (hmhvtl : dir'.mhvtl_data = dir.mhvtl_data) : RemainsKeep dir' P ↔ RemainsKeep dir P := by
  rw [RemainsKeep, RemainsKeep, hmam, hmhvtl]

variable {c : Store}

/-- With open files, the attributes are stored over the old ones. -/
theorem write_mam_held (ha : AttrsOpen c) (hio : c.io = []) : ∃ m v,
    c.dir.mam = some m ∧ c.dir.mhvtl_data = some v ∧
    c.write_mam.2.dir.mam = some (Mhvtl.write_mam c.mam m v).1 ∧
    c.write_mam.2.dir.mhvtl_data = some (Mhvtl.write_mam c.mam m v).2 := by
  obtain ⟨m, hm⟩ := Option.isSome_iff_exists.mp ha.mam
  obtain ⟨v, hv⟩ := Option.isSome_iff_exists.mp ha.mhvtl_data
  have hhead : c.io.headD .ok = .ok := by
    rw [hio]
    rfl
  refine ⟨m, v, hm, hv, ?_, ?_⟩
  · simp only [Store.write_mam, ha.mamfile, hm, ha.mhvtlfile, hv, nextIo, hhead]
    rw [List.take_of_length_le (Nat.le_add_right _ _)]
    rfl
  · simp only [Store.write_mam, ha.mamfile, hm, ha.mhvtlfile, hv, nextIo, hhead]
    rw [Nat.add_sub_cancel_left, List.take_of_length_le (Nat.le_refl _)]
    rfl

/-- Whether they are open does not depend on anything else. -/
theorem attrsOpen_congr (c c' : Store) (hmamfile : c'.mamfile = c.mamfile)
    (hmhvtlfile : c'.mhvtlfile = c.mhvtlfile) (hmam : c'.dir.mam = c.dir.mam)
    (hmhvtl : c'.dir.mhvtl_data = c.dir.mhvtl_data) : AttrsOpen c' ↔ AttrsOpen c := by
  constructor
  · intro h
    exact ⟨hmamfile.symm.trans h.mamfile, hmam ▸ h.mam, hmhvtlfile.symm.trans h.mhvtlfile,
      hmhvtl ▸ h.mhvtl_data⟩
  · intro h
    exact ⟨hmamfile.trans h.mamfile, hmam.symm ▸ h.mam, hmhvtlfile.trans h.mhvtlfile,
      hmhvtl.symm ▸ h.mhvtl_data⟩

/-- Nor do attributes in memory, permission and status matter. -/
theorem attrsOpen_settled (c : Store) (m : Mam) (ok : Bool) (st : Status) :
    AttrsOpen { c with mam := m, OK_to_write := ok, status := st } ↔ AttrsOpen c :=
  attrsOpen_congr c { c with mam := m, OK_to_write := ok, status := st } rfl rfl rfl rfl

/-- Rewriting writes nothing, or it writes the attributes and then reports. -/
theorem rewriteMAM_cases (c : Store) : (∃ st, c.rewriteMAM.2 = { c with status := st }) ∨
    ∃ st, c.rewriteMAM.2 = { c.write_mam.2 with status := st } := by
  unfold Store.rewriteMAM
  by_cases hopen : c.fd .data c.partition_id = true
  · right
    simp only [Store.tape_loaded, hopen, if_true, Bool.not_true, Bool.false_eq_true, if_false]
    split
    · exact ⟨_, rfl⟩
    · exact ⟨_, rfl⟩
  · left
    simp only [Store.tape_loaded, hopen, Bool.false_eq_true, if_false, Bool.not_false, if_true]
    exact ⟨_, rfl⟩

/-- Without open files nothing is written. -/
theorem write_mam_closed (ha : ¬AttrsOpen c) : c.write_mam = (-1, c) := by
  unfold Store.write_mam
  split
  · rename_i hmam hm hmhvtl hv
    exact absurd ⟨hmam, by rw [hm, Option.isSome_some], hmhvtl, by rw [hv, Option.isSome_some]⟩ ha
  · rfl

/-- Nor does rewriting touch the files then. -/
theorem rewriteMAM_closed (ha : ¬AttrsOpen c) : c.rewriteMAM.2.dir = c.dir := by
  rcases rewriteMAM_cases c with ⟨st, h⟩ | ⟨st, h⟩
  · rw [h]
  · rw [h, write_mam_closed ha]

/-- With an open data file it writes the attributes. -/
theorem rewriteMAM_opened (hopen : c.fd .data c.partition_id = true) :
    c.rewriteMAM.2.dir = c.write_mam.2.dir := by
  unfold Store.rewriteMAM
  simp only [Store.tape_loaded, hopen, if_true, Bool.not_true, Bool.false_eq_true, if_false]
  split
  · rfl
  · rfl

/-- It leaves what is behind the new contents. -/
theorem rewriteMAM_remains (hio : c.io = []) (P : Mam → Prop) :
    RemainsKeep c.rewriteMAM.2.dir P ↔ RemainsKeep c.dir P := by
  have hwrite : RemainsKeep c.write_mam.2.dir P ↔ RemainsKeep c.dir P := by
    by_cases ha : AttrsOpen c
    · obtain ⟨m, v, hm, hv, hm', hv'⟩ := write_mam_held ha hio
      rw [RemainsKeep, RemainsKeep, hm, hv, hm', hv']
      constructor
      · rintro h _ _ ⟨⟩ ⟨⟩
        exact (leftoverKeeps_written c.mam m v P).mp (h _ _ rfl rfl)
      · rintro h _ _ ⟨⟩ ⟨⟩
        exact (leftoverKeeps_written c.mam m v P).mpr (h _ _ rfl rfl)
    · rw [write_mam_closed ha]
  rcases rewriteMAM_cases c with ⟨st, h⟩ | ⟨st, h⟩
  · rw [h]
  · rw [h]
    exact hwrite

/-- Attributes with the property that are written out are found in the files just when nothing that
remains there takes it away. -/
theorem rewriteMAM_tells {P : Mam → Prop} {fields : List MamField} (hpin : PinnedBy P fields)
    (hP : P c.mam) (hopen : c.fd .data c.partition_id = true) (ha : AttrsOpen c) (hio : c.io = []) :
    FilesTell c.rewriteMAM.2.dir P ↔ RemainsKeep c.dir P := by
  obtain ⟨m, v, hm, hv, hm', hv'⟩ := write_mam_held ha hio
  rw [rewriteMAM_opened hopen, FilesTell, hm', hv']
  refine (written_tells hpin hP m v).trans ⟨fun h mam mhvtl hmam hmhvtl => ?_, fun h => h m v hm hv⟩
  rw [hm, Option.some.injEq] at hmam
  rw [hv, Option.some.injEq] at hmhvtl
  rw [← hmam, ← hmhvtl]
  exact h

/-- It neither opens nor closes them. -/
theorem rewriteMAM_open (c : Store) : AttrsOpen c.rewriteMAM.2 ↔ AttrsOpen c := by
  by_cases ha : AttrsOpen c
  · refine iff_of_true ?_ ha
    have hwrite : AttrsOpen c.write_mam.2 := by
      unfold Store.write_mam
      split
      · cases hio : c.io.headD .ok with
        | ok =>
          simp only [nextIo, hio]
          exact ⟨ha.mamfile, rfl, ha.mhvtlfile, rfl⟩
        | fail =>
          simp only [nextIo, hio]
          exact ⟨ha.mamfile, ha.mam, ha.mhvtlfile, ha.mhvtl_data⟩
        | short n =>
          simp only [nextIo, hio]
          split
          · exact ⟨ha.mamfile, rfl, ha.mhvtlfile, rfl⟩
          · exact ⟨ha.mamfile, ha.mam, ha.mhvtlfile, ha.mhvtl_data⟩
      · exact ha
    rcases rewriteMAM_cases c with ⟨st, h⟩ | ⟨st, h⟩
    · rw [h]
      exact (attrsOpen_settled c _ _ _).mpr ha
    · rw [h]
      exact (attrsOpen_settled c.write_mam.2 _ _ _).mpr hwrite
  · refine iff_of_false ?_ ha
    rcases rewriteMAM_cases c with ⟨st, h⟩ | ⟨st, h⟩
    · rw [h]
      exact fun ho => ha ((attrsOpen_settled c _ _ _).mp ho)
    · rw [h, write_mam_closed ha]
      exact fun ho => ha ((attrsOpen_settled c _ _ _).mp ho)

end Files

section Capacities

/-- Capacities stored one after the other. -/
def putCapacities (size : ℕ → ℕ) (ks : List ℕ) (m : Mam) : Mam :=
  ks.foldl (fun m k => m.putBe (partitionCapacity k) (size k)) m

/-- Every partition has its own attribute, of eight bytes. -/
theorem partitionCapacity_spec {j k : ℕ} (hj : j < MAX_PARTITIONS) (hk : k < MAX_PARTITIONS) :
    (partitionCapacity j = partitionCapacity k ↔ j = k) ∧ (partitionCapacity k).length = 8 := by
  have hall : ∀ j < MAX_PARTITIONS, ∀ k < MAX_PARTITIONS,
      (partitionCapacity j = partitionCapacity k ↔ j = k) ∧ (partitionCapacity k).length = 8 := by
    decide
  exact hall j hj k hk

/-- What is stored last is read back, cut to 64 bits. -/
theorem putCapacities_capacity {size : ℕ → ℕ} {ks : List ℕ} (hks : ∀ k ∈ ks, k < MAX_PARTITIONS)
    (m : Mam) {j : ℕ} (hj : j < MAX_PARTITIONS) :
    (putCapacities size ks m).be (partitionCapacity j) =
      if j ∈ ks then size j % 2 ^ 64 else m.be (partitionCapacity j) := by
  induction ks generalizing m with
  | nil => simp [putCapacities]
  | cons k ks ih =>
    have hk := hks k List.mem_cons_self
    obtain ⟨hsame, hlen⟩ := partitionCapacity_spec hj hk
    have hhead : (m.putBe (partitionCapacity k) (size k)).be (partitionCapacity j) =
        if j = k then size j % 2 ^ 64 else m.be (partitionCapacity j) := by
      by_cases h : j = k
      · subst h
        rw [if_pos rfl, Mam.be, Mam.putBe, Mam.bytes_put_self m (beBytes_length _ _), beNat,
          beBytes, List.reverse_reverse, leNat_leBytes, hlen]
        rfl
      · rw [if_neg h, Mam.be, Mam.be, Mam.putBe,
          Mam.bytes_put_other m _ fun heq => h (hsame.mp heq)]
    change (putCapacities size ks _).be _ = _
    rw [ih (fun i hi => hks i (List.mem_cons_of_mem k hi)), hhead]
    by_cases hjs : j ∈ ks
    · rw [if_pos hjs, if_pos (List.mem_cons_of_mem k hjs)]
    · by_cases hjk : j = k
      · rw [if_neg hjs, if_pos hjk, hjk, if_pos List.mem_cons_self]
      · rw [if_neg hjs, if_neg hjk, if_neg (by simp [hjk, hjs])]

/-- The other attributes stay. -/
theorem putCapacities_other (size : ℕ → ℕ) (ks : List ℕ) (m : Mam) {f : MamField}
    (hf : ∀ k, f ≠ partitionCapacity k) : (putCapacities size ks m).bytes f = m.bytes f := by
  induction ks generalizing m with
  | nil => rfl
  | cons k ks ih =>
    exact (ih _).trans (Mam.bytes_put_other m _ (hf k))

/-- No other attribute is the capacity of a partition. -/
theorem ne_partitionCapacity {f : MamField} (hf : ∀ k < MAX_PARTITIONS, f ≠ partitionCapacity k)
    (k : ℕ) : f ≠ partitionCapacity k := by
  by_cases hk : k < MAX_PARTITIONS
  · exact hf k hk
  · obtain ⟨j, rfl⟩ : ∃ j, k = j + 3 := ⟨k - 3, by
      have hfour : MAX_PARTITIONS = 4 := rfl
      omega⟩
    exact hf 3 (by decide)

end Capacities

section Asked

variable {L : Libs} {d d' : Drive}

/-- What the medium partition page asks for depends on the page, the number of partitions and
the capacity of the medium. -/
theorem from_mode_page_congr (hpages : d'.mode_pg = d.mode_pg)
    (hmax : d'.cart.mam.be .max_capacity = d.cart.mam.be .max_capacity)
    (hnum : d'.cart.mam.num_partitions = d.cart.mam.num_partitions) (p : ℕ) :
    medium_partition_capacity_from_mode_page L d' p =
      medium_partition_capacity_from_mode_page L d p := by
  rw [medium_partition_capacity_from_mode_page, medium_partition_capacity_from_mode_page,
    partitionCount, partitionCount, hpages, hmax, hnum]

/-- It is defined as long as the page has room. -/
theorem from_mode_page_defined (hmax : partitionCount d.cart.mam ≤ MAX_PARTITIONS) (p : ℕ) :
    ∃ size, medium_partition_capacity_from_mode_page L d p = some size := by
  unfold medium_partition_capacity_from_mode_page
  dsimp only
  split
  · exact ⟨_, rfl⟩
  split
  · exact ⟨_, rfl⟩
  split
  · exact ⟨_, rfl⟩
  · rw [if_neg (Nat.not_lt_of_le hmax)]
    exact ⟨_, rfl⟩

/-- The attributes with the capacities of `num` partitions and no others. -/
def recordCapacities (num : ℕ) (size : ℕ → ℕ) (m : Mam) : Mam :=
  putCapacities size (List.range num) (putCapacities (fun _ => 0) (List.range MAX_PARTITIONS) m)

/-- They can be read back. -/
theorem recorded_recordCapacities {num : ℕ} (hmax : num ≤ MAX_PARTITIONS) (size : ℕ → ℕ) (m : Mam)
    {p : ℕ} (hp : p < MAX_PARTITIONS) :
    recorded_partition_capacity (recordCapacities num size m) p =
      if p < num then size p % 2 ^ 64 else 0 := by
  have hnew : ∀ k ∈ List.range num, k < MAX_PARTITIONS :=
    fun k hk => (List.mem_range.mp hk).trans_le hmax
  have hall : ∀ k ∈ List.range MAX_PARTITIONS, k < MAX_PARTITIONS := fun k hk => List.mem_range.mp hk
  rw [recorded_partition_capacity, if_pos hp, recordCapacities, putCapacities_capacity hnew _ hp,
    putCapacities_capacity hall _ hp, if_pos (List.mem_range.mpr hp), Nat.zero_mod]
  simp only [List.mem_range]

/-- No other attribute changes. -/
theorem recordCapacities_other (num : ℕ) (size : ℕ → ℕ) (m : Mam) {f : MamField}
    (hf : ∀ k < MAX_PARTITIONS, f ≠ partitionCapacity k) :
    (recordCapacities num size m).bytes f = m.bytes f := by
  rw [recordCapacities, putCapacities_other _ _ _ (ne_partitionCapacity hf),
    putCapacities_other _ _ _ (ne_partitionCapacity hf)]

/-- The page is asked for one partition after the other, and the answers are recorded. -/
theorem foldlM_capacities {size : ℕ → ℕ} (ks : List ℕ)
    (hsize : ∀ k ∈ ks, medium_partition_capacity_from_mode_page L d k = some (size k)) (m : Mam)
    (hmax : m.be .max_capacity = d.cart.mam.be .max_capacity)
    (hnum : m.num_partitions = d.cart.mam.num_partitions) :
    ks.foldlM (fun d k => (medium_partition_capacity_from_mode_page L d k).map fun size =>
      d.setMam (·.putBe (partitionCapacity k) size)) (d.setMam fun _ => m) =
      some (d.setMam fun _ => putCapacities size ks m) := by
  have hfield : ∀ k, MamField.max_capacity ≠ partitionCapacity k ∧
      MamField.num_partitions ≠ partitionCapacity k :=
    fun k => ⟨ne_partitionCapacity (by decide) k, ne_partitionCapacity (by decide) k⟩
  induction ks generalizing m with
  | nil => rfl
  | cons k ks ih =>
    have hhead : medium_partition_capacity_from_mode_page L (d.setMam fun _ => m) k =
        some (size k) :=
      (@from_mode_page_congr L d (d.setMam fun _ => m) rfl hmax hnum k).trans
        (hsize k List.mem_cons_self)
    rw [List.foldlM_cons, hhead]
    refine ih (fun j hj => hsize j (List.mem_cons_of_mem k hj)) (m.putBe (partitionCapacity k) (size k))
      ?_ ?_
    · rw [← hmax, Mam.be, Mam.be, Mam.putBe, Mam.bytes_put_other m _ (hfield k).1]
    · rw [← hnum, Mam.num_partitions, Mam.num_partitions, Mam.putBe,
        Mam.byte_put_other m _ (hfield k).2]

/-- All the capacities are recorded. -/
theorem set_medium_partition_capacity_spec (hmax : partitionCount d.cart.mam ≤ MAX_PARTITIONS) :
    ∃ size : ℕ → ℕ, (∀ p, medium_partition_capacity_from_mode_page L d p = some (size p)) ∧
      set_medium_partition_capacity L d =
        some (d.setMam (recordCapacities (partitionCount d.cart.mam) size)) := by
  choose size hsize using from_mode_page_defined (L := L) hmax
  refine ⟨size, hsize, ?_⟩
  have hzero : ∀ f, (∀ k < MAX_PARTITIONS, f ≠ partitionCapacity k) →
      (putCapacities (fun _ => 0) (List.range MAX_PARTITIONS) d.cart.mam).bytes f =
        d.cart.mam.bytes f :=
    fun f hf => putCapacities_other _ _ _ (ne_partitionCapacity hf)
  have hrun := foldlM_capacities (L := L) (d := d) (List.range (partitionCount d.cart.mam))
    (fun k _ => hsize k) (putCapacities (fun _ => 0) (List.range MAX_PARTITIONS) d.cart.mam)
    (by rw [Mam.be, Mam.be, hzero _ (by decide)])
    (by rw [Mam.num_partitions, Mam.num_partitions, Mam.byte, Mam.byte, hzero _ (by decide)])
  rw [set_medium_partition_capacity]
  refine (if_neg (Nat.not_lt_of_le hmax)).trans ?_
  exact hrun

end Asked

section Layout

variable (L : Libs) (d : Drive) (cdb : Cdb) (num : ℕ)

/-- What the medium partition page of a drive asks for, for a number of partitions. -/
def askedCapacity (p : ℕ) : Option ℕ :=
  medium_partition_capacity_from_mode_page L
    (d.setMam (·.putByte .num_partitions (UInt8.ofNat num))) p

/-- Attributes with the layout that is asked for. -/
def HoldsLayout (m : Mam) : Prop :=
  m.num_partitions = num ∧
    ∀ p < MAX_PARTITIONS, askedCapacity L d num p = some (recorded_partition_capacity m p)

/-- Exactly `num` partitions, all of them empty, with the head at the start of the first. -/
structure Emptied (c : Store) : Prop where
  /-- They have their files, and no other partition has any. -/
  there : ∀ kind p, (c.dir.file kind p).isSome ↔ p < num
  /-- The files hold no records. -/
  blank : ∀ p < num, Rep p (c.part p) []
  /-- The ends of data are at the start, and the filemark maps are empty. -/
  ends : ∀ p < num, c.eod_blk_number p = 0 ∧ c.eod_data_offset p = 0 ∧ (c.part p).filemarkMap = []
  /-- Where the head stands. -/
  start : c.partition_id = 0 ∧ c.c_pos.blk_number = 0

/-- What a drive has become when it was to format its medium to `num` partitions. -/
structure Reformatted (d' : Drive) : Prop where
  /-- The partitions. -/
  emptied : Emptied num d'.cart
  /-- They have capacities, and no others have. -/
  recorded : ∀ p < MAX_PARTITIONS, recorded_partition_capacity d'.cart.mam p ≠ 0 ↔ p < num
  /-- The capacities are those that the page asks for. -/
  layout : HoldsLayout L d num d'.cart.mam
  /-- Whoever reads the attribute files finds them. -/
  stored : FilesTell d'.cart.dir (HoldsLayout L d num)

/-- Only the permission to write and the status differ. -/
def LeftAlone (d' : Drive) : Prop :=
  ∃ ok st, d' = { d with cart := { d.cart with OK_to_write := ok, status := st } }

/-- The format of FORMAT MEDIUM. -/
def formatCode : UInt8 := cdb 2 &&& 0x0f

/-- The number of partitions of the medium partition page. -/
def pagePartitions : Option ℕ :=
  (lookup_mode_pg d.mode_pg MODE_MEDIUM_PARTITION 0).map fun mp => (mp.byte 3).toNat + 1

/-- The number of partitions that FORMAT MEDIUM asks for. -/
def requestedPartitions : Option ℕ := if formatCode cdb = 0 then some 1 else pagePartitions d

/-- FORMAT MEDIUM is accepted at the beginning of a partition, for the formats that there are. -/
def FormatAccepted (allowed : Bool) : Prop :=
  allowed = true ∧ d.cart.c_pos.blk_number = 0 ∧
    (formatCode cdb = 0 ∨ formatCode cdb = 1 ∨ formatCode cdb = 2)

/-- SET CAPACITY is accepted there with a loaded tape. -/
def CapacityAccepted : Prop := d.cart.c_pos.blk_number = 0 ∧ d.load_status = TAPE_LOADED

/-- FORMAT MEDIUM formats the medium as it was asked to when it is accepted, and leaves
everything alone when not. -/
def FormatKept (allowed : Bool) : Prop :=
  (FormatAccepted d cdb allowed → ∀ num, requestedPartitions d cdb = some num →
    ∃ d', ssc_format_medium L d cdb = some d' ∧ Reformatted L d num d') ∧
  (¬FormatAccepted d cdb allowed → ∃ d', ssc_format_medium L d cdb = some d' ∧ LeftAlone d d')

/-- SET CAPACITY formats the medium to one partition, or leaves everything alone. -/
def CapacityKept : Prop :=
  (CapacityAccepted d → ∃ d', ssc_set_capacity d = some d' ∧ Reformatted L d 1 d') ∧
  (¬CapacityAccepted d → ∃ d', ssc_set_capacity d = some d' ∧ LeftAlone d d')

/-- The layout can be recorded: there is room for the partitions, each has a capacity of up to 64
bits, and the attribute files are open and have nothing behind the new contents that changes the
layout when it is read, or they tell the layout already. -/
structure LayoutFits : Prop where
  /-- Room for the partitions. -/
  room : num ≤ MAX_PARTITIONS
  /-- Their capacities. -/
  sizes : ∀ p < num, ∃ size, askedCapacity L d num p = some size ∧ size ≠ 0 ∧ size < 2 ^ 64
  /-- The files. -/
  files : (AttrsOpen d.cart ∧ RemainsKeep d.cart.dir (HoldsLayout L d num)) ∨
    (¬AttrsOpen d.cart ∧ FilesTell d.cart.dir (HoldsLayout L d num))

/-- When FORMAT MEDIUM does what it should: the page and the attributes agree on the number of
partitions, and the layout can be recorded; in front of a format that there is not, the volume
change reference was counted up before. -/
def FormatFits (allowed : Bool) : Prop :=
  (FormatAccepted d cdb allowed → ∀ num, requestedPartitions d cdb = some num →
    (formatCode cdb ≠ 0 → d.cart.mam.num_partitions = num) ∧ LayoutFits L d num) ∧
  (allowed = true → d.cart.c_pos.blk_number = 0 →
    ¬(formatCode cdb = 0 ∨ formatCode cdb = 1 ∨ formatCode cdb = 2) → d.vcr_updated = true)

/-- The capacity of the medium is recorded for the first partition and nothing for others. -/
def RecordsWhole (m : Mam) (capacity : ℕ) : Prop :=
  ∀ p < MAX_PARTITIONS, recorded_partition_capacity m p = if p = 0 then capacity else 0

/-- When SET CAPACITY does what it should: what it leaves as it is was right before, in memory and
in the attribute files. -/
def CapacityFits : Prop :=
  CapacityAccepted d → d.cart.mam.be .max_capacity ≠ 0 ∧
    RecordsWhole d.cart.mam (d.cart.mam.be .max_capacity) ∧
    FilesTell d.cart.dir fun m =>
      m.num_partitions = 1 ∧ RecordsWhole m (d.cart.mam.be .max_capacity)

end Layout

section Layouts

variable {L : Libs} {d d' : Drive} {num : ℕ}

/-- Storing the number of partitions leaves the other attributes alone. -/
theorem be_putByte_num (m : Mam) (b : UInt8) {f : MamField} (hf : f ≠ .num_partitions) :
    (m.putByte .num_partitions b).be f = m.be f := by
  rw [Mam.be, Mam.be, Mam.putByte, Mam.bytes_put_other m _ hf]

/-- The number that was stored. -/
theorem num_putByte (m : Mam) (hnum : num < 256) :
    (m.putByte .num_partitions (UInt8.ofNat num)).num_partitions = num := by
  rw [Mam.num_partitions, Mam.byte_putByte m _ rfl, UInt8.toNat_ofNat_of_lt' hnum]

/-- What is asked for, read off another drive with the page and that many partitions. -/
theorem askedCapacity_eq (hpages : d'.mode_pg = d.mode_pg)
    (hmax : d'.cart.mam.be .max_capacity = d.cart.mam.be .max_capacity)
    (hnum : d'.cart.mam.num_partitions = num) (hlt : num < 256) (p : ℕ) :
    askedCapacity L d num p = medium_partition_capacity_from_mode_page L d' p := by
  refine (@from_mode_page_congr L (d.setMam (·.putByte .num_partitions (UInt8.ofNat num))) d' hpages
    (hmax.trans ?_) (hnum.trans ?_) p).symm
  · exact (be_putByte_num _ _ (by decide)).symm
  · exact (num_putByte _ hlt).symm

/-- Partitions that are not asked for have no capacity. -/
theorem askedCapacity_behind (hpos : 1 ≤ num) (hlt : num < 256) {p : ℕ} (hp : num ≤ p) :
    askedCapacity L d num p = some 0 := by
  have hnum : (d.setMam (·.putByte .num_partitions (UInt8.ofNat num))).cart.mam.num_partitions =
      num := num_putByte _ hlt
  have hcount : partitionCount (d.setMam (·.putByte .num_partitions (UInt8.ofNat num))).cart.mam =
      num := by
    rw [partitionCount, hnum, if_neg (by omega)]
  rw [askedCapacity, medium_partition_capacity_from_mode_page, hcount]
  exact if_pos hp

/-- A single partition is to have the whole medium. -/
theorem askedCapacity_one (p : ℕ) :
    askedCapacity L d 1 p = some (if p = 0 then d.cart.mam.be .max_capacity else 0) := by
  by_cases hp : p = 0
  · subst hp
    have hcount : partitionCount (d.setMam (·.putByte .num_partitions (UInt8.ofNat 1))).cart.mam =
        1 := by
      have hnum : (d.setMam (·.putByte .num_partitions (UInt8.ofNat 1))).cart.mam.num_partitions =
          1 := num_putByte _ (by decide)
      rw [partitionCount, hnum, if_neg (by decide)]
    rw [askedCapacity, from_mode_page_single hcount, if_pos rfl]
    exact congrArg some (be_putByte_num _ _ (by decide))
  · rw [askedCapacity_behind (le_refl 1) (by decide) (by omega), if_neg hp]

/-- What attributes hold for a single partition. -/
theorem holdsLayout_one (m : Mam) : HoldsLayout L d 1 m ↔
    m.num_partitions = 1 ∧ RecordsWhole m (d.cart.mam.be .max_capacity) := by
  unfold HoldsLayout RecordsWhole
  simp only [askedCapacity_one, Option.some.injEq, eq_comm]

/-- Attributes in which the capacities were recorded hold the layout when no capacity was cut. -/
theorem holdsLayout_recorded {size : ℕ → ℕ} {m : Mam} (hpos : 1 ≤ num) (hmax : num ≤ MAX_PARTITIONS)
    (hnum : m.num_partitions = num) (hsize : ∀ p, askedCapacity L d num p = some (size p))
    (hrec : ∀ p < MAX_PARTITIONS,
      recorded_partition_capacity m p = if p < num then size p % 2 ^ 64 else 0) :
    HoldsLayout L d num m ↔ ∀ p < num, size p < 2 ^ 64 := by
  have hfour : MAX_PARTITIONS = 4 := rfl
  constructor
  · rintro ⟨-, hlayout⟩ p hp
    have hp' : size p = size p % 2 ^ 64 := by
      have heq := hlayout p (by omega)
      rwa [hsize, hrec p (by omega), if_pos hp, Option.some.injEq] at heq
    have hlt := Nat.mod_lt (size p) (Nat.two_pow_pos 64)
    omega
  · refine fun hlt => ⟨hnum, fun p hp => ?_⟩
    rw [hrec p hp]
    by_cases hpn : p < num
    · rw [if_pos hpn, hsize, Nat.mod_eq_of_lt (hlt p hpn)]
    · rw [if_neg hpn, askedCapacity_behind hpos (by omega) (Nat.le_of_not_lt hpn)]

/-- The attributes that make the layout. -/
def layoutFields : List MamField :=
  .num_partitions :: (List.range MAX_PARTITIONS).map partitionCapacity

/-- The layout says what they hold. -/
theorem holdsLayout_pinned : PinnedBy (HoldsLayout L d num) layoutFields := by
  refine ⟨by decide, fun m m' hm => ⟨fun hm' f hf => ?_, fun hsame => ?_⟩⟩
  · rcases List.mem_cons.mp hf with rfl | hf
    · have hbyte : m'.byte .num_partitions = m.byte .num_partitions :=
        UInt8.toNat_inj.mp (hm'.1.trans hm.1.symm)
      rw [Mam.bytes_of_byte m' rfl, Mam.bytes_of_byte m rfl, hbyte]
    · obtain ⟨p, hp, rfl⟩ := List.mem_map.mp hf
      rw [List.mem_range] at hp
      have hcap := (hm'.2 p hp).symm.trans (hm.2 p hp)
      rw [recorded_partition_capacity, if_pos hp, recorded_partition_capacity, if_pos hp,
        Option.some.injEq] at hcap
      exact beNat_inj (by rw [Mam.bytes_length, Mam.bytes_length]) hcap
  · refine ⟨?_, fun p hp => ?_⟩
    · rw [← hm.1, Mam.num_partitions, Mam.num_partitions, Mam.byte, Mam.byte,
        hsame _ List.mem_cons_self]
    · have hmem : partitionCapacity p ∈ layoutFields :=
        List.mem_cons_of_mem _ (List.mem_map_of_mem (List.mem_range.mpr hp))
      rw [hm.2 p hp, recorded_partition_capacity, if_pos hp, recorded_partition_capacity, if_pos hp,
        Mam.be, Mam.be, hsame _ hmem]

/-- A mounted volume without records, at its start. -/
theorem Emptied.of_mounted {c : Store} (h : Mounted num c fun _ => []) (hat : At c 0 [] 0) :
    Emptied num c where
  there := h.there
  blank := h.rep
  ends p hp := ⟨(h.rep p hp).eod_blk, (h.rep p hp).eod_off, (h.rep p hp).marks⟩
  start := ⟨hat.partition_id, hat.blk_number⟩

/-- The number of partitions is the only one. -/
theorem Emptied.unique {c : Store} {k : ℕ} (h : Emptied num c)
    (hk : ∀ kind p, (c.dir.file kind p).isSome ↔ p < k) : k = num := by
  have hiff : ∀ p, p < k ↔ p < num := fun p => (hk .data p).symm.trans (h.there .data p)
  have h₁ := hiff k
  have h₂ := hiff num
  omega

end Layouts

/-- A drive `e` that a command has made out of `d`, in front of the formatting. -/
structure Prepared (n : ℕ) (recs : ℕ → List Record) (d e : Drive) : Prop where
  /-- The volume. -/
  mounted : Mounted n e.cart recs
  /-- The arrays behind it. -/
  spare : Spare n e.cart
  /-- The mode pages. -/
  mode_pg : e.mode_pg = d.mode_pg
  /-- The capacity of the medium. -/
  max_capacity : e.cart.mam.be .max_capacity = d.cart.mam.be .max_capacity
  /-- What is open of the attribute files. -/
  attrs : AttrsOpen e.cart ↔ AttrsOpen d.cart
  /-- Attribute files that are not open are those of before. -/
  files : ¬AttrsOpen d.cart → e.cart.dir = d.cart.dir
  /-- What is behind new contents is what was there before. -/
  remains : ∀ P, RemainsKeep e.cart.dir P ↔ RemainsKeep d.cart.dir P

section Prepare

variable {n : ℕ} {recs : ℕ → List Record} {d e e' : Drive}

/-- Permission and status. -/
theorem Prepared.start (h : Mounted n d.cart recs) (hs : Spare n d.cart) (ok : Bool) (st : Status) :
    Prepared n recs d { d with cart := { d.cart with OK_to_write := ok, status := st } } where
  mounted := (SameTape.of_mam d.cart d.cart.mam ok st).mounted h
  spare := hs
  mode_pg := rfl
  max_capacity := rfl
  attrs := attrsOpen_settled d.cart d.cart.mam ok st
  files _ := rfl
  remains _ := Iff.rfl

/-- An attribute that is not the capacity of the medium. -/
theorem Prepared.put (h : Prepared n recs d e) {f : MamField} (hf : f ≠ .max_capacity)
    (bs : List UInt8) : Prepared n recs d (e.setMam (·.put f bs)) where
  mounted := (SameTape.of_mam e.cart _ e.cart.OK_to_write e.cart.status).mounted h.mounted
  spare := h.spare
  mode_pg := h.mode_pg
  max_capacity := (congrArg beNat (Mam.bytes_put_other _ _ hf.symm)).trans h.max_capacity
  attrs := (attrsOpen_settled e.cart _ e.cart.OK_to_write e.cart.status).trans h.attrs
  files := h.files
  remains := h.remains

/-- The attributes are written out. -/
theorem Prepared.rewriteMAM (h : Prepared n recs d e) :
    Prepared n recs d (e.onCart fun c => c.rewriteMAM.2) where
  mounted := (SameTape.rewriteMAM e.cart).mounted h.mounted
  spare := h.spare.of_part fun q _ => (SameTape.rewriteMAM e.cart).part q
  mode_pg := h.mode_pg
  max_capacity := (congrArg (Mam.be · .max_capacity) (rewriteMAM_mam e.cart)).trans h.max_capacity
  attrs := (rewriteMAM_open e.cart).trans h.attrs
  files hd := (rewriteMAM_closed (h.attrs.not.mpr hd)).trans (h.files hd)
  remains P := (rewriteMAM_remains h.mounted.io P).trans (h.remains P)

/-- The volume change reference is counted up. -/
theorem Prepared.update_volume_change_reference (h : Prepared n recs d e) :
    Prepared n recs d (update_volume_change_reference e) := by
  unfold Ssc.update_volume_change_reference
  split
  · exact h
  · extract_lets vcr vcr' e₁
    have hput : Prepared n recs d e₁ := h.put (by decide) (beBytes 4 vcr')
    have hmark : Prepared n recs d { e₁ with vcr_updated := true } :=
      ⟨hput.mounted, hput.spare, hput.mode_pg, hput.max_capacity, hput.attrs, hput.files,
        hput.remains⟩
    exact hmark.rewriteMAM

/-- Counting the volume change reference up sets no other attribute. -/
theorem update_volume_change_reference_other (d : Drive) {f : MamField}
    (hf : f ≠ .VolumeChangeReference) :
    (update_volume_change_reference d).cart.mam.bytes f = d.cart.mam.bytes f := by
  unfold update_volume_change_reference
  split
  · rfl
  · extract_lets vcr vcr' e
    have hmam : ({ e with vcr_updated := true } : Drive).cart.rewriteMAM.2.mam = e.cart.mam :=
      Store.rewriteMAM_mam e.cart
    exact (congrArg (Mam.bytes · f) hmam).trans (Mam.bytes_put_other _ _ hf)

/-- The number of partitions is left alone by it. -/
theorem update_volume_change_reference_num (d : Drive) :
    (update_volume_change_reference d).cart.mam.num_partitions = d.cart.mam.num_partitions := by
  rw [Mam.num_partitions, Mam.num_partitions, Mam.byte, Mam.byte,
    update_volume_change_reference_other d (by decide)]

/-- The drive in front of the formatting of FORMAT MEDIUM. -/
def formatStart (d : Drive) (cdb : Cdb) : Drive :=
  if formatCode cdb = 0 then (writeStart d).setMam (·.putByte .num_partitions 1) else writeStart d

/-- It is prepared. -/
theorem formatStart_prepared (h : Mounted n d.cart recs) (hs : Spare n d.cart) (cdb : Cdb) :
    Prepared n recs d (formatStart d cdb) := by
  have hstart : Prepared n recs d (writeStart d) :=
    (Prepared.start h hs true _).update_volume_change_reference
  unfold formatStart
  split
  · exact hstart.put (by decide) [1]
  · exact hstart

/-- Its number of partitions. -/
theorem formatStart_num (d : Drive) (cdb : Cdb) : (formatStart d cdb).cart.mam.num_partitions =
    if formatCode cdb = 0 then 1 else d.cart.mam.num_partitions := by
  have hstart : (writeStart d).cart.mam.num_partitions = d.cart.mam.num_partitions :=
    update_volume_change_reference_num _
  unfold formatStart
  split
  · exact num_putByte _ (by decide : 1 < 256)
  · exact hstart

end Prepare

section Format

variable {L : Libs} {n : ℕ} {recs : ℕ → List Record} {d e : Drive}

/-- The formatting of FORMAT MEDIUM, with the capacities and the attribute files. -/
def Drive.reformat (L : Libs) (d : Drive) : Option Drive :=
  d.formatTape.bind fun d => (set_medium_partition_capacity L d).map fun d =>
    (d.onCart fun c => c.rewriteMAM.2).returns SAM_STAT_GOOD

/-- The tape of a prepared drive is formatted. -/
theorem Prepared.formatTape (h : Prepared n recs d e)
    (hmax : e.cart.mam.num_partitions ≤ MAX_PARTITIONS) :
    ∃ c, e.formatTape = some { e with cart := c } ∧ SameAttrs e.cart c ∧
      (∀ kind q, (c.dir.file kind q).isSome ↔ q < e.cart.mam.num_partitions) ∧
      (1 ≤ e.cart.mam.num_partitions →
        Mounted e.cart.mam.num_partitions c (fun _ => []) ∧ At c 0 [] 0) := by
  obtain ⟨c, hrun, hattrs, hthere, -, hopen⟩ := h.mounted.format_tape_spare h.spare hmax
  exact ⟨c, Option.map_eq_some_iff.mpr ⟨c, hrun, rfl⟩, hattrs, hthere, hopen⟩

/-- The arrays have no room for more partitions. -/
theorem formatTape_none (hmax : MAX_PARTITIONS < e.cart.mam.num_partitions) : e.formatTape = none := by
  have hnone : e.cart.format_tape = none := by
    unfold Store.format_tape
    cases herase : e.cart.erasePartitions MAX_PARTITIONS 0 with
    | none => rfl
    | some c =>
      have hmam : c.mam = e.cart.mam := (SameAttrs.erasePartitions herase).mam
      dsimp only
      rw [hmam, if_pos hmax]
  rw [Drive.formatTape, hnone, Option.map_none]

/-- Attributes with the layout that are written out are found in open files when these keep it;
closed ones stay. -/
theorem Prepared.written_out {num : ℕ} {c : Store} {m : Mam} (h : Prepared n recs d e)
    (hattrs : SameAttrs e.cart c) (hmounted : Mounted num c fun _ => []) (hat : At c 0 [] 0)
    (hm : HoldsLayout L d num m) :
    FilesTell ({ c with mam := m } : Store).rewriteMAM.2.dir (HoldsLayout L d num) ↔
      (AttrsOpen d.cart ∧ RemainsKeep d.cart.dir (HoldsLayout L d num)) ∨
        (¬AttrsOpen d.cart ∧ FilesTell d.cart.dir (HoldsLayout L d num)) := by
  let c₁ : Store := { c with mam := m }
  have hopen : AttrsOpen c₁ ↔ AttrsOpen d.cart := (attrsOpen_congr e.cart c₁ hattrs.mamfile
    hattrs.mhvtlfile hattrs.dir_mam hattrs.dir_mhvtl_data).trans h.attrs
  by_cases ha : AttrsOpen d.cart
  · have hopened : c₁.fd .data c₁.partition_id = true :=
      (congrArg (c.fd .data) hat.partition_id).trans (hat.opened .data)
    have hremains : RemainsKeep c₁.dir (HoldsLayout L d num) ↔
        RemainsKeep d.cart.dir (HoldsLayout L d num) :=
      (RemainsKeep.congr hattrs.dir_mam hattrs.dir_mhvtl_data).trans (h.remains _)
    have htells :=
      rewriteMAM_tells (c := c₁) holdsLayout_pinned hm hopened (hopen.mpr ha) hmounted.io
    simp only [ha, true_and, not_true_eq_false, false_and, or_false]
    exact htells.trans hremains
  · have hclosed : c₁.rewriteMAM.2.dir = c₁.dir := rewriteMAM_closed (hopen.not.mpr ha)
    have hsame : FilesTell c₁.dir (HoldsLayout L d num) ↔
        FilesTell d.cart.dir (HoldsLayout L d num) := by
      rw [← h.files ha]
      exact FilesTell.congr hattrs.dir_mam hattrs.dir_mhvtl_data
    simp only [ha, false_and, false_or, not_false_eq_true, true_and]
    rw [hclosed]
    exact hsame

/-- When the capacities of empty partitions are recorded and the attributes written out, everything
is as it should be just when the layout can be recorded. -/
theorem Prepared.recorded {num : ℕ} {c : Store} {size : ℕ → ℕ} {d' : Drive}
    (h : Prepared n recs d e) (hattrs : SameAttrs e.cart c) (hmounted : Mounted num c fun _ => [])
    (hat : At c 0 [] 0) (hnum : c.mam.num_partitions = num) (h1 : 1 ≤ num)
    (hasked : ∀ p, askedCapacity L d num p = some (size p))
    (hd' : ∃ st, d'.cart =
      { ({ c with mam := recordCapacities num size c.mam } : Store).rewriteMAM.2 with status := st }) :
    Reformatted L d num d' ↔ LayoutFits L d num := by
  obtain ⟨st, hd'⟩ := hd'
  have hmax : num ≤ MAX_PARTITIONS := hmounted.n_le
  let c₁ : Store := { c with mam := recordCapacities num size c.mam }
  have htape : SameTape c d'.cart := by
    rw [hd']
    exact ((SameTape.of_mam c c₁.mam c.OK_to_write c.status).trans (SameTape.rewriteMAM c₁)).trans
      (SameTape.of_mam _ _ _ _)
  have hmam : d'.cart.mam = recordCapacities num size c.mam := by
    rw [hd']
    exact rewriteMAM_mam c₁
  have hrec : ∀ p < MAX_PARTITIONS, recorded_partition_capacity d'.cart.mam p =
      if p < num then size p % 2 ^ 64 else 0 := by
    intro p hp
    rw [hmam, recorded_recordCapacities hmax _ _ hp]
  have hnum' : d'.cart.mam.num_partitions = num := by
    rw [hmam, ← hnum, Mam.num_partitions, Mam.num_partitions, Mam.byte, Mam.byte,
      recordCapacities_other _ _ _ (by decide)]
  have hholds := holdsLayout_recorded h1 hmax hnum' hasked hrec
  have hdir : d'.cart.dir = c₁.rewriteMAM.2.dir := by rw [hd']
  have hstored (hlt : ∀ p < num, size p < 2 ^ 64) := h.written_out hattrs hmounted hat
    (hmam ▸ hholds.mpr hlt : HoldsLayout L d num (recordCapacities num size c.mam))
  rw [← hdir] at hstored
  have hfour : MAX_PARTITIONS = 4 := rfl
  constructor
  · intro hr
    have hlt := hholds.mp hr.layout
    refine ⟨hmax, fun p hp => ⟨size p, hasked p, fun hzero => ?_, hlt p hp⟩, ?_⟩
    · have hne := (hr.recorded p (by omega)).mpr hp
      rw [hrec p (by omega), if_pos hp, hzero, Nat.zero_mod] at hne
      exact hne rfl
    · exact (hstored hlt).mp hr.stored
  · intro hfits
    have hsizes : ∀ p < num, size p ≠ 0 ∧ size p < 2 ^ 64 := by
      intro p hp
      obtain ⟨s, hs, hne, hlt⟩ := hfits.sizes p hp
      rw [hasked, Option.some.injEq] at hs
      subst hs
      exact ⟨hne, hlt⟩
    have hlayout := hholds.mpr fun p hp => (hsizes p hp).2
    refine ⟨.of_mounted (htape.mounted hmounted) (htape.at_pos hat), fun p hp => ?_, hlayout, ?_⟩
    · rw [hrec p hp]
      by_cases hpn : p < num
      · rw [if_pos hpn, Nat.mod_eq_of_lt (hsizes p hpn).2]
        exact iff_of_true (hsizes p hpn).1 hpn
      · rw [if_neg hpn]
        exact iff_of_false (fun hne => hne rfl) hpn
    · exact (hstored fun p hp => (hsizes p hp).2).mpr hfits.files

/-- The tape of a prepared drive is formatted, and everything is as it should be when the layout
can be recorded. -/
theorem Prepared.reformat (h : Prepared n recs d e)
    (hmax : e.cart.mam.num_partitions ≤ MAX_PARTITIONS) :
    ∃ e', e.reformat L = some e' ∧
      (∀ kind p, (e'.cart.dir.file kind p).isSome ↔ p < e.cart.mam.num_partitions) ∧
      (1 ≤ e.cart.mam.num_partitions → (Reformatted L d e.cart.mam.num_partitions e' ↔
        LayoutFits L d e.cart.mam.num_partitions)) := by
  obtain ⟨c, hrun, hattrs, hthere, hopen⟩ := h.formatTape hmax
  have hcount : partitionCount c.mam ≤ MAX_PARTITIONS := by
    rw [partitionCount, hattrs.mam]
    split
    · decide
    · exact hmax
  obtain ⟨size, hsize, hset⟩ := @set_medium_partition_capacity_spec L { e with cart := c } hcount
  let c₁ : Store := { c with mam := recordCapacities (partitionCount c.mam) size c.mam }
  have hfile : ∀ kind p, c₁.rewriteMAM.2.dir.file kind p = c.dir.file kind p :=
    fun kind p => congrArg (fun v => v.file kind) ((SameTape.rewriteMAM c₁).part p)
  refine ⟨(({ e with cart := c₁ } : Drive).onCart fun c => c.rewriteMAM.2).returns SAM_STAT_GOOD,
    ?_, ?_, fun h1 => ?_⟩
  · rw [Drive.reformat, hrun, Option.bind_some, hset]
    rfl
  · intro kind p
    exact (congrArg (fun f => Option.isSome f = true) (hfile kind p)).to_iff.trans (hthere kind p)
  · obtain ⟨hmounted, hat⟩ := hopen h1
    have hnum : c.mam.num_partitions = e.cart.mam.num_partitions := by rw [hattrs.mam]
    have hpos : partitionCount c.mam = e.cart.mam.num_partitions := by
      rw [partitionCount, hnum, if_neg (by omega)]
    have hcap : c.mam.be .max_capacity = d.cart.mam.be .max_capacity := by
      rw [hattrs.mam, h.max_capacity]
    have hasked : ∀ p, askedCapacity L d e.cart.mam.num_partitions p = some (size p) := fun p =>
      (@askedCapacity_eq L d { e with cart := c } _ h.mode_pg hcap hnum
        (hmax.trans_lt (by decide)) p).trans (hsize p)
    refine h.recorded hattrs hmounted hat hnum h1 hasked ?_
    rw [← hpos]
    exact ⟨_, rfl⟩

end Format

section Alone

variable {a b c d d' : Drive}

theorem LeftAlone.trans (h : LeftAlone a b) (h' : LeftAlone b c) : LeftAlone a c := by
  obtain ⟨ok, st, rfl⟩ := h
  obtain ⟨ok', st', rfl⟩ := h'
  exact ⟨ok', st', rfl⟩

/-- The permission. -/
theorem LeftAlone.permit (d : Drive) (ok : Bool) :
    LeftAlone d (d.onCart fun c => { c with OK_to_write := ok }) := ⟨ok, d.cart.status, rfl⟩

/-- Status and sense data. -/
theorem LeftAlone.report (d : Drive) (st : Status) : LeftAlone d (d.report st) :=
  ⟨d.cart.OK_to_write, st, rfl⟩

/-- The status byte. -/
theorem LeftAlone.returns (d : Drive) (sam_stat : ℕ) : LeftAlone d (d.returns sam_stat) :=
  ⟨d.cart.OK_to_write, _, rfl⟩

/-- Checking the permission leaves everything else alone. -/
theorem check_restrictions_alone {allowed : Bool}
    (h : check_restrictions d = some (allowed, d')) : LeftAlone d d' := by
  unfold check_restrictions at h
  extract_lets d₀ allow refuse type d₁ at h
  have hstart : LeftAlone d d₀ := LeftAlone.returns d SAM_STAT_GOOD
  have hrefuse : ∀ {e r : Drive} {st : Status}, LeftAlone d e → refuse e st = some (allowed, r) →
      LeftAlone d r := by
    intro e r st he hr
    simp only [refuse, Option.some.injEq, Prod.mk.injEq] at hr
    obtain ⟨-, rfl⟩ := hr
    exact (he.trans (LeftAlone.report e st)).trans (LeftAlone.permit _ _)
  have hd₁ : LeftAlone d d₁ := by
    unfold d₁
    split
    · exact (hstart.trans (LeftAlone.report _ _)).trans (LeftAlone.permit _ _)
    split
    · split
      · exact hstart.trans (LeftAlone.permit _ _)
      split
      · exact hstart
      · exact hstart.trans (LeftAlone.report _ _)
    split
    · exact hstart.trans (LeftAlone.permit _ _)
    · exact (hstart.trans (LeftAlone.report _ _)).trans (LeftAlone.permit _ _)
  split at h
  · cases h
  split at h
  · exact hrefuse hstart h
  split at h
  · exact hrefuse hstart h
  split at h
  · exact hrefuse hstart h
  split at h
  · cases h
    exact hstart.trans (LeftAlone.permit _ _)
  split at h
  · exact hrefuse hd₁ h
  split at h
  · cases h
  · simp only [Option.some.injEq, Prod.mk.injEq] at h
    obtain ⟨-, rfl⟩ := h
    exact hd₁

end Alone

section Commands

variable {L : Libs} {n : ℕ} {recs : ℕ → List Record} {d d₁ : Drive} {cdb : Cdb} {allowed : Bool}

/-- FORMAT MEDIUM that is accepted gets to the formatting. -/
theorem ssc_format_medium_accepted (hcheck : check_restrictions d = some (allowed, d₁))
    (h : FormatAccepted d cdb allowed) :
    ssc_format_medium L d cdb = (formatStart d cdb).reformat L := by
  obtain ⟨rfl, hblk, hcode⟩ := h
  have hstart := check_restrictions_true hcheck
  have hcheck' : check_restrictions d.declare_ssc_vars = some (true, d₁) := hcheck
  have hblk₁ : d₁.cart.c_pos.blk_number = 0 := by
    rw [hstart]
    exact hblk
  have hvalid : ¬(cdb 2 &&& 0x0f ≠ 0 ∧ cdb 2 &&& 0x0f ≠ 1 ∧ cdb 2 &&& 0x0f ≠ 2) := by
    rintro ⟨h0, h1, h2⟩
    rcases hcode with h | h | h
    · exact h0 h
    · exact h1 h
    · exact h2 h
  have hvcr : update_volume_change_reference d₁ = writeStart d := by rw [hstart, writeStart]
  simp only [ssc_format_medium, hcheck', hblk₁, ne_eq, not_true_eq_false, if_false, if_neg hvalid,
    hvcr]
  rw [Drive.reformat]
  cases hformat : (formatStart d cdb).formatTape with
  | none =>
    rw [formatStart, formatCode] at hformat
    rw [hformat]
    rfl
  | some e =>
    rw [formatStart, formatCode] at hformat
    rw [hformat]
    rfl

/-- The volume change reference is counted up once. -/
theorem update_volume_change_reference_once (d : Drive) :
    (update_volume_change_reference d).vcr_updated = true ∧
      (d.vcr_updated = true → update_volume_change_reference d = d) := by
  unfold update_volume_change_reference
  cases hv : d.vcr_updated with
  | true =>
    rw [if_pos rfl]
    exact ⟨hv, fun _ => rfl⟩
  | false => exact ⟨rfl, fun h => absurd h Bool.false_ne_true⟩

/-- What FORMAT MEDIUM leaves when it is not: in front of a format that there is not, the volume
change reference has been counted up. -/
theorem ssc_format_medium_rejected (hcheck : check_restrictions d = some (allowed, d₁))
    (h : ¬FormatAccepted d cdb allowed) :
    ∃ d', ssc_format_medium L d cdb = some d' ∧ (LeftAlone d d' ↔
      (allowed = true → d.cart.c_pos.blk_number = 0 →
        ¬(formatCode cdb = 0 ∨ formatCode cdb = 1 ∨ formatCode cdb = 2) → d.vcr_updated = true)) := by
  have halone : LeftAlone d d₁ := check_restrictions_alone hcheck
  have hcheck' : check_restrictions d.declare_ssc_vars = some (allowed, d₁) := hcheck
  cases allowed with
  | false =>
    refine ⟨d₁.returns SAM_STAT_CHECK_CONDITION, ?_, iff_of_true (halone.trans (.returns _ _))
      fun ht => absurd ht Bool.false_ne_true⟩
    simp only [ssc_format_medium, hcheck']
  | true =>
    have hstart := check_restrictions_true hcheck
    have hpos : d₁.cart.c_pos.blk_number = d.cart.c_pos.blk_number := by
      rw [hstart]
      rfl
    by_cases hblk : d.cart.c_pos.blk_number = 0
    · have hcode : ¬(formatCode cdb = 0 ∨ formatCode cdb = 1 ∨ formatCode cdb = 2) :=
        fun hc => h ⟨rfl, hblk, hc⟩
      have hinvalid : cdb 2 &&& 0x0f ≠ 0 ∧ cdb 2 &&& 0x0f ≠ 1 ∧ cdb 2 &&& 0x0f ≠ 2 :=
        ⟨fun h0 => hcode (Or.inl h0), fun h1 => hcode (Or.inr (Or.inl h1)),
          fun h2 => hcode (Or.inr (Or.inr h2))⟩
      obtain ⟨hdone, honce⟩ := update_volume_change_reference_once d₁
      refine ⟨(update_volume_change_reference d₁).report
        (sam_illegal_request E_INVALID_FIELD_IN_CDB none), ?_, fun hleft _ _ _ => ?_, fun hvcr => ?_⟩
      · simp only [ssc_format_medium, hcheck', hpos, hblk, ne_eq, not_true_eq_false, if_false]
        rw [if_pos hinvalid]
      · obtain ⟨ok, st, heq⟩ := hleft
        exact (congrArg Drive.vcr_updated heq).symm.trans hdone
      · have hvcr₁ : d₁.vcr_updated = true := by
          rw [hstart]
          exact hvcr rfl hblk hcode
        rw [honce hvcr₁]
        exact halone.trans (.report _ _)
    · refine ⟨d₁.report (sam_illegal_request E_POSITION_PAST_BOM none), ?_,
        iff_of_true (halone.trans (.report _ _)) fun _ h0 => absurd h0 hblk⟩
      simp only [ssc_format_medium, hcheck', hpos]
      rw [if_pos hblk]

/-- FORMAT MEDIUM asks for a partition at least. -/
theorem requestedPartitions_pos {num : ℕ} (h : requestedPartitions d cdb = some num) : 1 ≤ num := by
  unfold requestedPartitions at h
  split at h
  · cases h
    exact le_refl 1
  · obtain ⟨mp, -, rfl⟩ := Option.map_eq_some_iff.mp h
    omega

/-- The number of partitions that are formatted is the one that is asked for when the attributes
agree with the page. -/
theorem formatStart_agrees {num : ℕ} (hrequest : requestedPartitions d cdb = some num) :
    (formatStart d cdb).cart.mam.num_partitions = num ↔
      (formatCode cdb ≠ 0 → d.cart.mam.num_partitions = num) := by
  rw [formatStart_num]
  by_cases hcode : formatCode cdb = 0
  · rw [requestedPartitions, if_pos hcode, Option.some.injEq] at hrequest
    rw [if_pos hcode]
    exact iff_of_true hrequest fun hne => absurd hcode hne
  · rw [if_neg hcode]
    exact ⟨fun h _ => h, fun h => h hcode⟩

/-- What an accepted FORMAT MEDIUM makes of the medium. -/
theorem ssc_format_medium_reformats {num : ℕ} (h : Mounted n d.cart recs) (hs : Spare n d.cart)
    (hcheck : check_restrictions d = some (allowed, d₁)) (haccept : FormatAccepted d cdb allowed)
    (hrequest : requestedPartitions d cdb = some num) :
    (∃ d', ssc_format_medium L d cdb = some d' ∧ Reformatted L d num d') ↔
      (formatCode cdb ≠ 0 → d.cart.mam.num_partitions = num) ∧ LayoutFits L d num := by
  have hprep := formatStart_prepared h hs cdb
  rw [ssc_format_medium_accepted hcheck haccept, ← formatStart_agrees hrequest]
  by_cases hmax : (formatStart d cdb).cart.mam.num_partitions ≤ MAX_PARTITIONS
  · obtain ⟨e, hrun, hthere, hiff⟩ := hprep.reformat (L := L) hmax
    have hgot : (∃ d', (formatStart d cdb).reformat L = some d' ∧ Reformatted L d num d') ↔
        Reformatted L d num e := by
      rw [hrun]
      exact ⟨fun ⟨d', hd', hr⟩ => Option.some.inj hd' ▸ hr, fun hr => ⟨e, rfl, hr⟩⟩
    rw [hgot]
    by_cases hnum : (formatStart d cdb).cart.mam.num_partitions = num
    · rw [hnum] at hiff
      rw [hiff (requestedPartitions_pos hrequest)]
      exact ⟨fun hfits => ⟨hnum, hfits⟩, fun hfits => hfits.2⟩
    · exact iff_of_false (fun hr => hnum (hr.emptied.unique hthere)) fun hfits => hnum hfits.1
  · have hnone : (formatStart d cdb).reformat L = none := by
      rw [Drive.reformat, formatTape_none (Nat.lt_of_not_le hmax), Option.bind_none]
    rw [hnone]
    refine iff_of_false (fun ⟨d', hd', _⟩ => absurd hd'.symm (Option.some_ne_none d')) ?_
    rintro ⟨hnum, hfits⟩
    exact hmax (hnum ▸ hfits.room)

/-- FORMAT MEDIUM on a mounted volume. -/
theorem ssc_format_medium_iff (h : Mounted n d.cart recs) (hs : Spare n d.cart)
    (hcheck : check_restrictions d = some (allowed, d₁)) :
    FormatKept L d cdb allowed ↔ FormatFits L d cdb allowed := by
  unfold FormatKept FormatFits
  by_cases haccept : FormatAccepted d cdb allowed
  · have hcounted : allowed = true → d.cart.c_pos.blk_number = 0 →
        ¬(formatCode cdb = 0 ∨ formatCode cdb = 1 ∨ formatCode cdb = 2) → d.vcr_updated = true :=
      fun _ _ hcode => absurd haccept.2.2 hcode
    constructor
    · rintro ⟨hkept, -⟩
      exact ⟨fun _ num hrequest => (ssc_format_medium_reformats h hs hcheck haccept hrequest).mp
        (hkept haccept num hrequest), hcounted⟩
    · rintro ⟨hfits, -⟩
      exact ⟨fun _ num hrequest => (ssc_format_medium_reformats h hs hcheck haccept hrequest).mpr
        (hfits haccept num hrequest), fun hno => absurd haccept hno⟩
  · obtain ⟨e, hrun, hiff⟩ := ssc_format_medium_rejected (L := L) hcheck haccept
    constructor
    · rintro ⟨-, hkept⟩
      obtain ⟨d', hd', hleft⟩ := hkept haccept
      obtain rfl := Option.some.inj (hrun.symm.trans hd')
      exact ⟨fun hyes => absurd hyes haccept, hiff.mp hleft⟩
    · rintro ⟨-, hcounted⟩
      exact ⟨fun hyes => absurd hyes haccept, fun _ => ⟨e, hrun, hiff.mpr hcounted⟩⟩

/-- Storing the number of partitions keeps the capacities. -/
theorem recorded_putByte_num (m : Mam) (b : UInt8) (p : ℕ) :
    recorded_partition_capacity (m.putByte .num_partitions b) p = recorded_partition_capacity m p := by
  rw [recorded_partition_capacity, recorded_partition_capacity,
    be_putByte_num _ _ (ne_partitionCapacity (by decide) p).symm]

/-- SET CAPACITY that is accepted gets to the formatting. -/
theorem ssc_set_capacity_accepted (h : CapacityAccepted d) : ssc_set_capacity d =
    ((d.declare_ssc_vars.setMam (·.putByte .num_partitions 1)).formatTape).map
      (·.returns SAM_STAT_GOOD) := by
  have hblk : d.declare_ssc_vars.cart.c_pos.blk_number = 0 := h.1
  have hload : d.declare_ssc_vars.load_status = TAPE_LOADED := h.2
  simp only [ssc_set_capacity, hblk, hload, ne_eq, not_true_eq_false, if_false, if_true]

/-- It records nothing but the number of partitions, and not on the medium. -/
theorem ssc_set_capacity_records {d' : Drive} (haccept : CapacityAccepted d)
    (h : ssc_set_capacity d = some d') : d'.cart.mam = d.cart.mam.putByte .num_partitions 1 ∧
      d'.cart.dir.mam = d.cart.dir.mam ∧ d'.cart.dir.mhvtl_data = d.cart.dir.mhvtl_data := by
  rw [ssc_set_capacity_accepted haccept] at h
  obtain ⟨e, hformat, rfl⟩ := Option.map_eq_some_iff.mp h
  obtain ⟨c, hc, rfl⟩ := Option.map_eq_some_iff.mp hformat
  have hattrs := SameAttrs.format_tape hc
  exact ⟨hattrs.mam, hattrs.dir_mam, hattrs.dir_mhvtl_data⟩

/-- On a mounted volume it leaves a single partition. -/
theorem ssc_set_capacity_empties (h : Mounted n d.cart recs) (hs : Spare n d.cart)
    (haccept : CapacityAccepted d) : ∃ d', ssc_set_capacity d = some d' ∧ Emptied 1 d'.cart := by
  have hprep : Prepared n recs d (d.declare_ssc_vars.setMam (·.putByte .num_partitions 1)) :=
    (Prepared.start h hs d.cart.OK_to_write _).put (by decide) [1]
  have hnum : (d.declare_ssc_vars.setMam (·.putByte .num_partitions 1)).cart.mam.num_partitions =
      1 := num_putByte d.cart.mam (by decide : 1 < 256)
  obtain ⟨c, hrun, -, -, hopen⟩ := hprep.formatTape (hnum.trans_le (by decide))
  rw [hnum] at hopen
  obtain ⟨hmounted, hat⟩ := hopen (le_refl 1)
  rw [ssc_set_capacity_accepted haccept, hrun]
  exact ⟨_, rfl, .of_mounted ((SameTape.of_mam c c.mam c.OK_to_write _).mounted hmounted)
    ((SameTape.of_mam c c.mam c.OK_to_write _).at_pos hat)⟩

/-- That partition is what was asked for just when everything was recorded before. -/
theorem reformatted_single_iff {d' : Drive} (haccept : CapacityAccepted d)
    (hrun : ssc_set_capacity d = some d') (hemptied : Emptied 1 d'.cart) :
    Reformatted L d 1 d' ↔ d.cart.mam.be .max_capacity ≠ 0 ∧
      RecordsWhole d.cart.mam (d.cart.mam.be .max_capacity) ∧
      FilesTell d.cart.dir fun m =>
        m.num_partitions = 1 ∧ RecordsWhole m (d.cart.mam.be .max_capacity) := by
  obtain ⟨hmam, hsame₁, hsame₂⟩ := ssc_set_capacity_records haccept hrun
  have hnum : d'.cart.mam.num_partitions = 1 := by
    rw [hmam]
    exact num_putByte d.cart.mam (by decide : 1 < 256)
  have hrec : ∀ p, recorded_partition_capacity d'.cart.mam p =
      recorded_partition_capacity d.cart.mam p := by
    intro p
    rw [hmam, recorded_putByte_num]
  have hlayout : HoldsLayout L d 1 d'.cart.mam ↔
      RecordsWhole d.cart.mam (d.cart.mam.be .max_capacity) := by
    rw [holdsLayout_one]
    simp only [hnum, true_and, RecordsWhole, hrec]
  constructor
  · intro hr
    have hwhole := hlayout.mp hr.layout
    refine ⟨fun hzero => ?_, hwhole, ?_⟩
    · have hne := (hr.recorded 0 (by decide)).mpr Nat.one_pos
      rw [hrec, hwhole 0 (by decide), if_pos rfl] at hne
      exact hne hzero
    · intro x
      obtain ⟨hrc, hheld⟩ := (FilesTell.congr hsame₁ hsame₂).mp hr.stored x
      exact ⟨hrc, (holdsLayout_one _).mp hheld⟩
  · rintro ⟨hcap, hwhole, htell⟩
    refine ⟨hemptied, fun p hp => ?_, hlayout.mpr hwhole, (FilesTell.congr hsame₁ hsame₂).mpr
      fun x => ⟨(htell x).1, (holdsLayout_one _).mpr (htell x).2⟩⟩
    rw [hrec, hwhole p hp]
    by_cases hp0 : p = 0
    · rw [if_pos hp0]
      exact iff_of_true hcap (by omega)
    · rw [if_neg hp0]
      exact iff_of_false (fun hne => hne rfl) (by omega)

/-- SET CAPACITY that is not accepted leaves everything alone. -/
theorem ssc_set_capacity_rejected (h : ¬CapacityAccepted d) :
    ∃ d', ssc_set_capacity d = some d' ∧ LeftAlone d d' := by
  have hstart : LeftAlone d d.declare_ssc_vars := LeftAlone.returns d SAM_STAT_GOOD
  unfold ssc_set_capacity
  dsimp only
  split
  · exact ⟨_, rfl, hstart.trans (.report _ _)⟩
  split
  · rename_i hblk hload
    exact absurd ⟨not_not.mp hblk, hload⟩ h
  split
  · exact ⟨_, rfl, hstart.trans (.report _ _)⟩
  split
  · exact ⟨_, rfl, hstart.trans (.report _ _)⟩
  · exact ⟨_, rfl, hstart.trans (.report _ _)⟩

/-- SET CAPACITY on a mounted volume. -/
theorem ssc_set_capacity_iff (h : Mounted n d.cart recs) (hs : Spare n d.cart) :
    CapacityKept L d ↔ CapacityFits d := by
  by_cases haccept : CapacityAccepted d
  · obtain ⟨e, hrun, hemptied⟩ := ssc_set_capacity_empties h hs haccept
    have hiff := reformatted_single_iff (L := L) haccept hrun hemptied
    constructor
    · rintro ⟨hkept, -⟩ -
      obtain ⟨d', hd', hr⟩ := hkept haccept
      obtain rfl := Option.some.inj (hrun.symm.trans hd')
      exact hiff.mp hr
    · intro hfits
      exact ⟨fun _ => ⟨e, hrun, hiff.mpr (hfits haccept)⟩, fun hno => absurd haccept hno⟩
  · exact iff_of_true
      ⟨fun hyes => absurd hyes haccept, fun _ => ssc_set_capacity_rejected haccept⟩
      fun hyes => absurd hyes haccept

/-- A reformat leaves what was asked for, or leaves everything alone, just when the layout can be
recorded and nothing was counted before. -/
theorem reformat_iff (h : Mounted n d.cart recs) (hs : Spare n d.cart) :
    (∀ cdb allowed d₁, check_restrictions d = some (allowed, d₁) →
      (FormatKept L d cdb allowed ↔ FormatFits L d cdb allowed)) ∧
    (CapacityKept L d ↔ CapacityFits d) :=
  ⟨fun _ _ _ hcheck => ssc_format_medium_iff h hs hcheck, ssc_set_capacity_iff h hs⟩

end Commands

/-- FORMAT MEDIUM of a format. -/
def formatCdb (code : UInt8) : Cdb
  | 2 => code
  | _ => 0

/-- A medium of a thousand bytes, formatted to two equal partitions. -/
def halvedDrive : Drive :=
  (ssc_format_medium storedLibs
    (partitionedDrive 1000 2 ((partitionPage 0 fun _ => REMAINDER).setByte 3 1)) (formatCdb 1)).getD
    emptyDrive

/-- The arrays are clear behind the empty cartridge. -/
theorem emptyDrive_spare : Spare 1 emptyDrive.cart := fun _ _ => ⟨rfl, rfl⟩

/-- It may be formatted. -/
theorem emptyDrive_allowed : check_restrictions emptyDrive =
    some (true, emptyDrive.declare_ssc_vars.onCart fun c => { c with OK_to_write := true }) := by
  have hoff : emptyDrive.append_only_mode ≠ true := Bool.false_ne_true
  have hwritable : Writable emptyDrive :=
    ⟨rfl, rfl, by decide +kernel, rfl, fun hon => absurd hon hoff⟩
  exact hwritable.check_restrictions

/-- An empty cartridge with attributes, and with bytes behind those in the mhvtl_data file. -/
def labelledCartridge (m : Mam) (leftover : List UInt8) : Store :=
  { emptyCartridge with
    dir := { emptyCartridge.dir with
      mam := some (mamImage m)
      mhvtl_data := some (mhvtlImage m ++ leftover) }
    mam := m }

/-- Bytes behind the attributes that can be skipped take nothing away. -/
theorem labelled_keeps (m : Mam) {leftover : List UInt8} (h : Skips mhvtlAttributes leftover)
    (P : Mam → Prop) : LeftoverKeeps (mamImage m) (mhvtlImage m ++ leftover) P := by
  refine LeftoverKeeps.of_skips ?_ ?_ P
  · rw [List.drop_of_length_le (mamImage_length m).le]
    exact .nil
  · rw [List.drop_left' (mhvtlImage_length m)]
    exact h

/-- Then whoever reads the files finds the attributes. -/
theorem labelled_tells {P : Mam → Prop} {fields : List MamField} {m : Mam}
    (hpin : PinnedBy P fields) (hm : P m) {leftover : List UInt8} (h : Skips mhvtlAttributes leftover) :
    FilesTell (labelledCartridge m leftover).dir P := by
  have hmam : (Mhvtl.write_mam m (mamImage m) (mhvtlImage m ++ leftover)).1 = mamImage m := by
    rw [Mhvtl.write_mam, overwriteFront, List.drop_length, List.append_nil]
  have hmhvtl : (Mhvtl.write_mam m (mamImage m) (mhvtlImage m ++ leftover)).2 =
      mhvtlImage m ++ leftover := by
    exact congrArg (mhvtlImage m ++ ·) List.drop_left
  have htold := (written_tells hpin hm (mamImage m) (mhvtlImage m ++ leftover)).mpr
    (labelled_keeps m h P)
  rw [hmam, hmhvtl] at htold
  exact htold

/-- A drive with two filemarks on such a cartridge, rewound. -/
def usedDrive (mode_pg : List ModePage) (m : Mam) (leftover : List UInt8) : Drive :=
  { emptyDrive with
    mode_pg := mode_pg
    cart := ((labelledCartridge m leftover).write_filemarks 2).2.rewind_tape.2 }

/-- The filemarks are on the tape, and the attributes where they were. -/
theorem usedDrive_mounted (mode_pg : List ModePage) (m : Mam) (leftover : List UInt8) :
    Mounted 1 (usedDrive mode_pg m leftover).cart
        (Function.update (fun _ => []) 0 [.filemark, .filemark]) ∧
      Spare 1 (usedDrive mode_pg m leftover).cart ∧
      SameAttrs (labelledCartridge m leftover) (usedDrive mode_pg m leftover).cart := by
  have hat : At (labelledCartridge m leftover) 0 [] 0 :=
    ⟨emptyDrive_at.rep, rfl, Nat.le_refl 0, fun _ _ => rfl, by decide⟩
  have hstart : Mounted 1 (labelledCartridge m leftover) fun _ => [] :=
    ⟨by decide, emptyCartridge_holds.rep, emptyCartridge_holds.absent, fun _ _ => Nat.zero_le _,
      Or.inl ⟨0, 0, Nat.one_pos, hat⟩, rfl⟩
  have hclear : Spare 1 (labelledCartridge m leftover) := fun _ _ => ⟨rfl, rfl⟩
  obtain ⟨c, hrun, hw⟩ := write_filemarks_ok hat (by decide : 2 ≠ 0) (by decide) (by decide)
    (okFor_nil _)
  have hrewound := (hstart.of_written Nat.one_pos hw (by decide)).rewind_tape
  have hcart : (usedDrive mode_pg m leftover).cart = c.rewind_tape.2 := by
    rw [usedDrive, hrun]
  rw [hcart]
  refine ⟨hrewound.mounted, (hclear.of_frame Nat.one_pos hw.frame).elsewhere hrewound, ?_⟩
  exact (SameAttrs.of_frame hw.frame).trans (SameAttrs.rewind_tape c)

/-- Attributes of a medium of a thousand bytes, all of them in the first partition. -/
def wholeMam (num : UInt8) : Mam :=
  ((Mam.zero.putBe .max_capacity 1000).putBe .partition_capacity0 1000).putByte .num_partitions num

/-- The page that asks for two equal partitions. -/
def halvesPage : ModePage := (partitionPage 0 fun _ => REMAINDER).setByte 3 1

/-- FORMAT MEDIUM makes two equal partitions of a tape with records, where the attribute file is
longer than the new one by an attribute that nobody knows. SET CAPACITY empties the single
partition of another. -/
theorem reformat_usedDrive :
    FormatKept storedLibs (usedDrive [halvesPage] (wholeMam 2) [0xff, 0x7f, 0, 0]) (formatCdb 1)
      true ∧
    CapacityKept storedLibs (usedDrive [] (wholeMam 1) []) := by
  constructor
  · obtain ⟨hmounted, hspare, hattrs⟩ :=
      usedDrive_mounted [halvesPage] (wholeMam 2) [0xff, 0x7f, 0, 0]
    generalize hd : usedDrive [halvesPage] (wholeMam 2) [0xff, 0x7f, 0, 0] = d at *
    have hoff : d.append_only_mode ≠ true := by
      rw [← hd]
      exact Bool.false_ne_true
    have hwritable : Writable d := by
      rw [← hd]
      exact ⟨rfl, rfl, by decide +kernel, rfl, fun hon => absurd hon Bool.false_ne_true⟩
    refine ((reformat_iff hmounted hspare).1 (formatCdb 1) true _ hwritable.check_restrictions).mpr
      ⟨fun _ num hnum => ?_, fun _ _ hcode => absurd (Or.inr (Or.inl rfl)) hcode⟩
    have htwo : requestedPartitions d (formatCdb 1) = some 2 := by
      rw [← hd]
      decide +kernel
    obtain rfl : 2 = num := Option.some.inj (htwo.symm.trans hnum)
    refine ⟨fun _ => ?_, by decide, fun p hp => ⟨500, ?_, by decide, by decide⟩, Or.inl ⟨?_, ?_⟩⟩
    · rw [hattrs.mam]
      decide +kernel
    · rw [← hd]
      obtain rfl | rfl : p = 0 ∨ p = 1 := by omega
      · decide +kernel
      · decide +kernel
    · exact (attrsOpen_congr (labelledCartridge (wholeMam 2) [0xff, 0x7f, 0, 0]) _ hattrs.mamfile
        hattrs.mhvtlfile hattrs.dir_mam hattrs.dir_mhvtl_data).mpr ⟨rfl, rfl, rfl, rfl⟩
    · refine (RemainsKeep.congr hattrs.dir_mam hattrs.dir_mhvtl_data).mpr ?_
      rintro _ _ ⟨⟩ ⟨⟩
      exact labelled_keeps (wholeMam 2) (.attr (by decide) .nil) _
  · obtain ⟨hmounted, hspare, hattrs⟩ := usedDrive_mounted [] (wholeMam 1) []
    have hcap : (wholeMam 1).be .max_capacity = 1000 := by decide +kernel
    have hwhole : RecordsWhole (wholeMam 1) 1000 := by
      have hall : ∀ p < MAX_PARTITIONS, recorded_partition_capacity (wholeMam 1) p =
          if p = 0 then 1000 else 0 := by decide +kernel
      exact hall
    refine (reformat_iff (L := storedLibs) hmounted hspare).2.mpr fun _ => ?_
    rw [hattrs.mam]
    change (wholeMam 1).be .max_capacity ≠ 0 ∧ RecordsWhole (wholeMam 1) _ ∧ _
    rw [hcap]
    refine ⟨by decide, hwhole, (FilesTell.congr hattrs.dir_mam hattrs.dir_mhvtl_data).mpr ?_⟩
    have hlayout : ∀ m, HoldsLayout storedLibs (usedDrive [] (wholeMam 1) []) 1 m ↔
        m.num_partitions = 1 ∧ RecordsWhole m 1000 := by
      intro m
      rw [holdsLayout_one, hattrs.mam, ← hcap]
      rfl
    have hholds := (hlayout (wholeMam 1)).mpr ⟨by decide +kernel, hwhole⟩
    exact fun x => ((labelled_tells holdsLayout_pinned hholds .nil x).imp_right (hlayout _).mp)

/-- SET CAPACITY makes one partition out of two, and the capacities of both stay recorded. A format
that there is not counts the volume change reference up. FORMAT MEDIUM makes a single partition, and
the attribute files tell of two, as they hold the old number once more behind the new attributes. -/
theorem old_capacities_kept :
    CapacityAccepted halvedDrive ∧ recorded_partition_capacity halvedDrive.cart.mam 1 = 500 ∧
    ¬CapacityKept storedLibs halvedDrive ∧ ¬FormatKept storedLibs emptyDrive (formatCdb 3) true ∧
    ¬FormatKept storedLibs (usedDrive [] (wholeMam 2) [4, 0, 1, 0, 2]) (formatCdb 0) true := by
  have haccept : CapacityAccepted halvedDrive := by
    constructor <;> decide +kernel
  have hsecond : recorded_partition_capacity halvedDrive.cart.mam 1 = 500 := by decide +kernel
  refine ⟨haccept, hsecond, fun hkept => ?_, fun hkept => ?_, fun hkept => ?_⟩
  · obtain ⟨d', hrun, hr⟩ := hkept.1 haccept
    have hstays : recorded_partition_capacity d'.cart.mam 1 = 500 := by
      rw [(ssc_set_capacity_records haccept hrun).1, recorded_putByte_num, hsecond]
    have hone : 1 < 1 := (hr.recorded 1 (by decide)).mp (by omega)
    omega
  · have hreject : ¬FormatAccepted emptyDrive (formatCdb 3) true := by
      rintro ⟨-, -, hcode⟩
      exact absurd hcode (by decide)
    obtain ⟨e, hrun, hiff⟩ := ssc_format_medium_rejected (L := storedLibs) emptyDrive_allowed hreject
    obtain ⟨d', hd', hleft⟩ := hkept.2 hreject
    obtain rfl := Option.some.inj (hrun.symm.trans hd')
    have hcounted : emptyDrive.vcr_updated = true := hiff.mp hleft rfl rfl (by decide)
    exact Bool.false_ne_true hcounted
  · have haccept : FormatAccepted (usedDrive [] (wholeMam 2) [4, 0, 1, 0, 2]) (formatCdb 0) true :=
      ⟨rfl, by decide +kernel, Or.inl rfl⟩
    have hfiles : ((ssc_format_medium storedLibs (usedDrive [] (wholeMam 2) [4, 0, 1, 0, 2])
        (formatCdb 0)).map fun d =>
          (read_mam d.cart.dir.mam d.cart.dir.mhvtl_data Mam.zero).2.num_partitions) = some 2 := by
      decide +kernel
    obtain ⟨d', hrun, hr⟩ := hkept.1 haccept 1 rfl
    rw [hrun, Option.map_some, Option.some.injEq, (hr.stored Mam.zero).2.1] at hfiles
    exact absurd hfiles (by decide)

end Mhvtl.Ssc
