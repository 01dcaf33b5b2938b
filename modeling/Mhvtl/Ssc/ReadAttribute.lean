import Mathlib.Data.List.Infix
import Mhvtl.Lib.Fitting
import Mhvtl.Ssc.Attributes
import Mhvtl.Ssc.Blocks

/-!
# What READ ATTRIBUTE answers

The attributes from the one that is asked for on, or the identifiers of all, are put into the
buffer as far as they fit the allocation length. The size that is handed on counts them all.
-/

namespace Mhvtl.Ssc

open Bytes Cart Fitting

/-- Bytes of an attribute with its identifier, format and length. -/
def attrSize (a : MamAttr) : ℕ := a.field.length + 5

/-- The attributes from an identifier on. -/
def attributesFrom (attrib : ℕ) : List MamAttr :=
  mamAttributes.dropWhile fun a => a.attribute_id != attrib

/-- Where the volume coherency information of a partition is kept. -/
def coherencyRecord : ℕ → Option MamField
  | 0 => some .VolumeCoherencyInformation0
  | 1 => some .VolumeCoherencyInformation1
  | 2 => some .VolumeCoherencyInformation2
  | 3 => some .VolumeCoherencyInformation3
  | _ => none

/-- The value of an attribute that belongs to a partition: what is left of it and its size, both
in units of 2^20 bytes, its own coherency information, and what the medium keeps once. -/
structure PartitionValue (L : Libs) (d : Drive) (p : ℕ) (a : MamAttr) (value : List UInt8) :
    Prop where
  /-- What is left. -/
  remaining : a.attribute_id = 0x000 → ∃ cap, medium_partition_capacity L d p = some cap ∧
    value = beBytes 8 ((cap - partition_data_offset d.cart p) / 2 ^ 20)
  /-- The size. -/
  maximum : a.attribute_id = 0x001 → ∃ cap, medium_partition_capacity L d p = some cap ∧
    value = beBytes 8 (cap / 2 ^ 20)
  /-- The coherency information. -/
  coherency : a.attribute_id = VOLUME_COHERENCY → ∃ f, coherencyRecord p = some f ∧
    value = d.cart.mam.bytes f
  /-- Everything else. -/
  shared : a.attribute_id ∉ [0x000, 0x001, VOLUME_COHERENCY] → value = d.cart.mam.bytes a.field

/-- A partition has a value for an attribute. -/
def HasValue (L : Libs) (d : Drive) (p : ℕ) (a : MamAttr) : Prop :=
  (a.attribute_id ≤ 0x001 → medium_partition_capacity L d p ≠ none) ∧
    (a.attribute_id = VOLUME_COHERENCY → p < MAX_PARTITIONS)

/-- Data is sent with good status, no more of it than the allocation length. -/
def Sends (alloc_len : ℕ) (data : List UInt8) (r : Option Answer) : Prop :=
  ∃ a, r = some a ∧ a.drive.sam_stat = SAM_STAT_GOOD ∧ a.sz = min data.length alloc_len ∧
    a.buf.take a.sz = data.take alloc_len

/-- The command is refused without data. -/
def SendsNothing (r : Option Answer) : Prop :=
  ∃ a, r = some a ∧ a.drive.sam_stat = SAM_STAT_CHECK_CONDITION ∧ a.sz = 0

/-- Some descriptors, the values beside them. -/
def attributeData (l : List MamAttr) (values : List (List UInt8)) : List UInt8 :=
  (List.zipWith (fun a value => attrHeader a ++ value) l values).flatten

/-- Some identifiers. -/
def identifierData (l : List MamAttr) : List UInt8 := l.flatMap fun a => beBytes 2 a.attribute_id

/-- READ ATTRIBUTE answers `r` as its allocation length, partition and attribute ask for. -/
structure AttributesRead (L : Libs) (d : Drive) (cdb : Cdb) (r : Option Answer) : Prop where
  /-- There is no such partition. -/
  missing : partitionCount d.cart.mam ≤ (cdb 7).toNat → SendsNothing r
  /-- There is no such attribute. -/
  unsupported : cdb 1 &&& 0x1f = 0 → attributesFrom (beNat (bytesAt cdb 8 2)) = [] →
    SendsNothing r
  /-- The values, as many as fit. -/
  values : cdb 1 &&& 0x1f = 0 → (cdb 7).toNat < partitionCount d.cart.mam →
    attributesFrom (beNat (bytesAt cdb 8 2)) ≠ [] → ∃ shown values,
      LongestFront attrSize (beNat (bytesAt cdb 10 4) - 4) (attributesFrom (beNat (bytesAt cdb 8 2)))
        shown ∧
      List.Forall₂ (PartitionValue L d (cdb 7).toNat) shown values ∧
      Sends (beNat (bytesAt cdb 10 4)) (beBytes 4
        (total attrSize (attributesFrom (beNat (bytesAt cdb 8 2)))) ++ attributeData shown values) r
  /-- The identifiers, as many as fit. -/
  list : cdb 1 &&& 0x1f = 1 → (cdb 7).toNat < partitionCount d.cart.mam → ∃ shown,
    LongestFront (fun _ => 2) (beNat (bytesAt cdb 10 4) - 4) mamAttributes shown ∧
    (shown.map (·.attribute_id)).Nodup ∧
    Sends (beNat (bytesAt cdb 10 4))
      (beBytes 4 (2 * mamAttributes.length) ++ identifierData shown) r

/-- The partition is behind the number of partitions by more than one, or it is there with a value
for every attribute that is asked for, and the allocation length has room for all of them and is not
below zero as an `int`. -/
def AttributesFit (L : Libs) (d : Drive) (cdb : Cdb) : Prop :=
  d.cart.mam.num_partitions < (cdb 7).toNat ∨
    (cdb 7).toNat < partitionCount d.cart.mam ∧ beNat (bytesAt cdb 10 4) < 2 ^ 31 ∧
      (cdb 1 = 0 ∧ attributesFrom (beNat (bytesAt cdb 8 2)) ≠ [] ∧
          (∀ a ∈ attributesFrom (beNat (bytesAt cdb 8 2)), HasValue L d (cdb 7).toNat a) ∧
          4 + total attrSize (attributesFrom (beNat (bytesAt cdb 8 2))) ≤ beNat (bytesAt cdb 10 4) ∨
        cdb 1 &&& 0x1f = 1 ∧ 4 + 2 * mamAttributes.length ≤ beNat (bytesAt cdb 10 4))

section Table

/-- Attributes are never empty. -/
theorem attrSize_pos (a : MamAttr) : 0 < attrSize a := Nat.succ_pos _

/-- The coherency information is the one attribute kept for each partition. -/
theorem table_coherency : ∀ a ∈ mamAttributes, a.attribute_id = VOLUME_COHERENCY →
    a.field = .VolumeCoherencyInformation0 := by decide

/-- Every identifier is there once. -/
theorem table_nodup : (mamAttributes.map (·.attribute_id)).Nodup := by decide

/-- The attributes from an identifier on are the end of the table. -/
theorem attributesFrom_suffix (attrib : ℕ) : attributesFrom attrib <:+ mamAttributes :=
  List.dropWhile_suffix _

/-- No end of the table is as large as the list of identifiers, and none needs more than two
bytes to say how large it is. -/
theorem table_ends : ∀ l ∈ mamAttributes.tails, total attrSize l ≠ 2 * mamAttributes.length ∧
    total attrSize l < 65536 := by decide

end Table

section Values

variable {L : Libs} {d : Drive} {p alloc_len : ℕ}

/-- Where the coherency information of a partition is found. -/
theorem coherencyRecord_eq {a : MamAttr} (ha : a ∈ mamAttributes)
    (hid : a.attribute_id = VOLUME_COHERENCY) (p : ℕ) :
    coherencyRecord p = if p < MAX_PARTITIONS then some (attrField a p) else none := by
  rw [attrField.eq_def, if_pos hid, table_coherency a ha hid]
  rcases p with _ | _ | _ | _ | p
  · rfl
  · rfl
  · rfl
  · rfl
  · have hout : ¬p + 1 + 1 + 1 + 1 < MAX_PARTITIONS := by
      rw [MAX_PARTITIONS]
      omega
    rw [if_neg hout]
    rfl

/-- The field is the same for every partition but for the coherency information. -/
theorem attrField_length {a : MamAttr} (ha : a ∈ mamAttributes) (p : ℕ) :
    (attrField a p).length = a.field.length := by
  rw [attrField.eq_def]
  split
  · next hid =>
    rw [table_coherency a ha hid]
    split <;> rfl
  · rfl

/-- For an attribute of the table, the value that is found is the one of the partition. -/
theorem partitionValue_iff {a : MamAttr} {value : List UInt8} (ha : a ∈ mamAttributes) :
    PartitionValue L d p a value ↔ HasValue L d p a ∧ mam_attr_value L d a p = some value := by
  have hleft : ∀ cap, (if partition_data_offset d.cart p < cap then
      (cap - partition_data_offset d.cart p) / 2 ^ 20 else 0) =
      (cap - partition_data_offset d.cart p) / 2 ^ 20 := by
    intro cap
    split
    · rfl
    · rw [Nat.sub_eq_zero_of_le (by omega), Nat.zero_div]
  rw [mam_attr_value, HasValue]
  simp only [hleft]
  by_cases hzero : a.attribute_id = 0x000
  · rw [if_pos hzero, hzero, Option.map_eq_some_iff]
    constructor
    · intro h
      obtain ⟨cap, hcap, rfl⟩ := h.remaining hzero
      exact ⟨⟨fun _ => hcap ▸ Option.some_ne_none cap, fun h => absurd h (by decide)⟩, cap, hcap, rfl⟩
    · rintro ⟨-, cap, hcap, rfl⟩
      refine ⟨fun _ => ⟨cap, hcap, rfl⟩, fun h => ?_, fun h => ?_, fun h => ?_⟩
      · omega
      · rw [hzero] at h
        exact absurd h (by decide)
      · rw [hzero] at h
        exact absurd List.mem_cons_self h
  rw [if_neg hzero]
  by_cases hone : a.attribute_id = 0x001
  · rw [if_pos hone, hone, Option.map_eq_some_iff]
    constructor
    · intro h
      obtain ⟨cap, hcap, rfl⟩ := h.maximum hone
      exact ⟨⟨fun _ => hcap ▸ Option.some_ne_none cap, fun h => absurd h (by decide)⟩, cap, hcap, rfl⟩
    · rintro ⟨-, cap, hcap, rfl⟩
      refine ⟨fun h => absurd h hzero, fun _ => ⟨cap, hcap, rfl⟩, fun h => ?_, fun h => ?_⟩
      · rw [hone] at h
        exact absurd h (by decide)
      · rw [hone] at h
        exact absurd (List.mem_cons_of_mem _ List.mem_cons_self) h
  rw [if_neg hone, Option.some_inj]
  have hlate : ¬a.attribute_id ≤ 0x001 := by omega
  by_cases hcoherency : a.attribute_id = VOLUME_COHERENCY
  · have hfound := coherencyRecord_eq ha hcoherency p
    constructor
    · intro h
      obtain ⟨f, hf, rfl⟩ := h.coherency hcoherency
      rw [hf] at hfound
      split at hfound
      · next hp => exact ⟨⟨fun h => absurd h hlate, fun _ => hp⟩, by rw [Option.some.inj hfound]⟩
      · exact absurd hfound (Option.some_ne_none f)
    · rintro ⟨⟨-, hp⟩, rfl⟩
      rw [if_pos (hp hcoherency)] at hfound
      refine ⟨fun h => absurd h hzero, fun h => absurd h hone, fun _ => ⟨_, hfound, rfl⟩,
        fun h => ?_⟩
      exact absurd (by simp [hcoherency]) h
  · have hshared : a.attribute_id ∉ [0x000, 0x001, VOLUME_COHERENCY] := by
      simp only [List.mem_cons, hzero, hone, hcoherency, List.not_mem_nil, or_self, not_false_eq_true]
    have hfield : attrField a p = a.field := if_neg hcoherency
    rw [hfield]
    constructor
    · intro h
      exact ⟨⟨fun h => absurd h hlate, fun h => absurd h hcoherency⟩, (h.shared hshared).symm⟩
    · rintro ⟨-, rfl⟩
      exact ⟨fun h => absurd h hzero, fun h => absurd h hone, fun h => absurd h hcoherency,
        fun _ => rfl⟩

/-- An attribute that has a value is shown with it. -/
theorem HasValue.found {a : MamAttr} (h : HasValue L d p a) :
    ∃ value, mam_attr_value L d a p = some value := by
  rw [mam_attr_value]
  split
  · next hid =>
    obtain ⟨cap, hcap⟩ := Option.ne_none_iff_exists'.mp (h.1 (by omega))
    rw [hcap]
    exact ⟨_, rfl⟩
  split
  · next hid =>
    obtain ⟨cap, hcap⟩ := Option.ne_none_iff_exists'.mp (h.1 hid.le)
    rw [hcap]
    exact ⟨_, rfl⟩
  · exact ⟨_, rfl⟩

/-- A value has the length of its field. -/
theorem mam_attr_value_length {a : MamAttr} {value : List UInt8} (ha : a ∈ mamAttributes)
    (h : mam_attr_value L d a p = some value) : value.length = a.field.length := by
  have hlong : ∀ a ∈ mamAttributes, a.attribute_id ≤ 0x001 → a.field.length = 8 := by decide
  rw [mam_attr_value] at h
  split at h
  · next hid =>
    obtain ⟨cap, -, rfl⟩ := Option.map_eq_some_iff.mp h
    rw [beBytes_length, hlong a ha (by omega)]
  split at h
  · next hid =>
    obtain ⟨cap, -, rfl⟩ := Option.map_eq_some_iff.mp h
    rw [beBytes_length, hlong a ha hid.le]
  · rw [← Option.some.inj h, Mam.bytes_length, attrField_length ha]

/-- Descriptors take the bytes that are counted for them. -/
theorem attributeData_length {l : List MamAttr} {values : List (List UInt8)}
    (hl : ∀ a ∈ l, a ∈ mamAttributes)
    (h : List.Forall₂ (fun a value => mam_attr_value L d a p = some value) l values) :
    (attributeData l values).length = total attrSize l := by
  induction h with
  | nil => rfl
  | @cons a value l values hvalue _ ih =>
    have hlength := mam_attr_value_length (hl a List.mem_cons_self) hvalue
    have htail := ih fun b hb => hl b (List.mem_cons_of_mem a hb)
    rw [attributeData] at htail ⊢
    rw [List.zipWith_cons_cons, List.flatten_cons, List.length_append, htail, total_cons, attrSize]
    simp only [attrHeader, List.length_append, beBytes_length, List.length_singleton, hlength]
    omega

/-- Once an attribute does not fit, none does. -/
theorem attributeValues_full {l : List MamAttr} {n : ℕ} (h : alloc_len < n) :
    attributeValues L d p alloc_len l n = some (n + total attrSize l, []) := by
  induction l generalizing n with
  | nil => rfl
  | cons a l ih =>
    have hfull : ¬n + a.field.length + 5 ≤ alloc_len := by omega
    simp only [attributeValues, if_neg hfull]
    rw [ih (by omega), total_cons, attrSize, Nat.add_assoc, Nat.add_assoc, Nat.add_assoc]

/-- The size counts all attributes, the bytes are those of the attributes that fit. -/
theorem attributeValues_iff {l : List MamAttr} {n : ℕ} {r : ℕ × List UInt8} :
    attributeValues L d p alloc_len l n = some r ↔ ∃ values,
      List.Forall₂ (fun a value => mam_attr_value L d a p = some value) (fit attrSize alloc_len l n)
        values ∧ r = (n + total attrSize l, attributeData (fit attrSize alloc_len l n) values) := by
  induction l generalizing n r with
  | nil =>
    constructor
    · intro h
      exact ⟨[], .nil, (Option.some.inj h).symm⟩
    · rintro ⟨values, -, rfl⟩
      rfl
  | cons a l ih =>
    have hsize : n + a.field.length + 5 = n + attrSize a := Nat.add_assoc _ _ _
    simp only [attributeValues, hsize, fit, total_cons]
    by_cases hfits : n + attrSize a ≤ alloc_len
    · rw [if_pos hfits, if_pos hfits]
      cases hvalue : mam_attr_value L d a p with
      | none =>
        constructor
        · intro h
          exact absurd h.symm (Option.some_ne_none r)
        · rintro ⟨values, hall, -⟩
          cases hall with
          | cons h _ => exact absurd (h.symm.trans hvalue) (Option.some_ne_none _)
      | some value =>
        simp only [Option.map_eq_some_iff]
        constructor
        · rintro ⟨r, hr, rfl⟩
          obtain ⟨values, hall, rfl⟩ := ih.mp hr
          refine ⟨value :: values, .cons hvalue hall, ?_⟩
          rw [attributeData, attributeData, List.zipWith_cons_cons, List.flatten_cons, Nat.add_assoc]
        · rintro ⟨values, hall, rfl⟩
          cases hall with
          | @cons _ b _ values h hall =>
            refine ⟨_, ih.mpr ⟨values, hall, rfl⟩, ?_⟩
            rw [Option.some.inj (hvalue.symm.trans h), attributeData, attributeData,
              List.zipWith_cons_cons, List.flatten_cons, Nat.add_assoc]
    · rw [if_neg hfits, if_neg hfits, attributeValues_full (by omega), Nat.add_assoc]
      constructor
      · intro h
        exact ⟨[], .nil, (Option.some.inj h).symm⟩
      · rintro ⟨values, hall, rfl⟩
        cases hall
        rfl

/-- The identifiers that fit are a front of the table as well. -/
theorem attributeList_eq {l : List MamAttr} {n : ℕ} : attributeList alloc_len l n =
    (n + 2 * l.length, identifierData (fit (fun _ => 2) alloc_len l n)) := by
  induction l generalizing n with
  | nil => rfl
  | cons a l ih =>
    have hsize : n + 2 + 2 * l.length = n + 2 * (l.length + 1) := by omega
    rw [attributeList, ih, fit, List.length_cons]
    dsimp only
    rw [hsize]
    by_cases hfits : n + 2 ≤ alloc_len
    · rw [if_pos hfits, if_pos hfits]
      rfl
    · rw [if_neg hfits, if_neg hfits, fit_full (fun _ => Nat.two_pos) (by omega)]

/-- Identifiers have two bytes. -/
theorem identifierData_length (l : List MamAttr) : (identifierData l).length = 2 * l.length := by
  induction l with
  | nil => rfl
  | cons a l ih =>
    rw [identifierData] at ih ⊢
    rw [List.flatMap_cons, List.length_append, ih, beBytes_length, List.length_cons]
    omega

end Values

section Answers

variable {L : Libs} {d : Drive} {cdb : Cdb} {alloc_len : ℕ}

/-- What is sent is cut where the allocation length ends, unless it is sent whole. -/
theorem sends_iff {data : List UInt8} {sz : ℕ} {buf : List UInt8} {d' : Drive}
    (hgood : d'.sam_stat = SAM_STAT_GOOD) : Sends alloc_len data (some ⟨sz, buf, d'⟩) ↔
      sz = min data.length alloc_len ∧ buf.take sz = data.take alloc_len := by
  constructor
  · rintro ⟨a, ha, -, hsz, hbuf⟩
    rw [← Option.some.inj ha] at hsz hbuf
    exact ⟨hsz, hbuf⟩
  · rintro ⟨hsz, hbuf⟩
    exact ⟨_, rfl, hgood, hsz, hbuf⟩

/-- Data that fits is sent as it is. -/
theorem sends_whole {data : List UInt8} {d' : Drive} (hgood : d'.sam_stat = SAM_STAT_GOOD)
    (hfits : data.length ≤ alloc_len) : Sends alloc_len data (some ⟨data.length, data, d'⟩) := by
  rw [sends_iff hgood, Nat.min_eq_left hfits, List.take_of_length_le hfits, List.take_length]
  exact ⟨rfl, rfl⟩

/-- An answer that says it has data is not a refusal. -/
theorem not_sendsNothing {a : Answer} (h : a.sz ≠ 0) : ¬SendsNothing (some a) := by
  rintro ⟨b, hb, -, hsz⟩
  rw [← Option.some.inj hb] at hsz
  exact h hsz

/-- A length below zero is not answered. -/
theorem resp_read_attribute_none (hneg : 2 ^ 31 ≤ beNat (bytesAt cdb 10 4)) :
    resp_read_attribute L d cdb = none := by
  rw [resp_read_attribute]
  exact if_pos hneg

/-- The answer with the values. -/
theorem resp_read_attribute_values (hlen : beNat (bytesAt cdb 10 4) < 2 ^ 31) (haction : cdb 1 = 0)
    (hfound : attributesFrom (beNat (bytesAt cdb 8 2)) ≠ []) {r : Option Answer} :
    resp_read_attribute L d cdb = r ↔ r = (attributeValues L d (cdb 7).toNat
      (beNat (bytesAt cdb 10 4)) (attributesFrom (beNat (bytesAt cdb 8 2))) 4).map fun r =>
        ⟨r.1, beBytes 4 (r.1 - 4) ++ r.2, d⟩ := by
  unfold attributesFrom at hfound ⊢
  rw [resp_read_attribute, if_neg (Nat.not_le_of_lt hlen), if_pos haction]
  split
  · next h => exact absurd h hfound
  · exact eq_comm

/-- The answer when there is no such attribute has the status for its size. -/
theorem resp_read_attribute_unsupported (hlen : beNat (bytesAt cdb 10 4) < 2 ^ 31)
    (haction : cdb 1 = 0) (hnone : attributesFrom (beNat (bytesAt cdb 8 2)) = []) :
    ∃ d', resp_read_attribute L d cdb = some ⟨SAM_STAT_CHECK_CONDITION, [], d'⟩ := by
  unfold attributesFrom at hnone
  rw [resp_read_attribute, if_neg (Nat.not_le_of_lt hlen), if_pos haction]
  rw [hnone]
  exact ⟨_, rfl⟩

/-- The answer with the identifiers. -/
theorem resp_read_attribute_list (hlen : beNat (bytesAt cdb 10 4) < 2 ^ 31) (haction : cdb 1 ≠ 0) :
    resp_read_attribute L d cdb = some ⟨4 + 2 * mamAttributes.length,
      beBytes 4 (2 * mamAttributes.length) ++
        identifierData (fit (fun _ => 2) (beNat (bytesAt cdb 10 4)) mamAttributes 4), d⟩ := by
  rw [resp_read_attribute, if_neg (Nat.not_le_of_lt hlen), if_neg haction, attributeList_eq]
  rfl

/-- Behind the check of the partition the command answers as `resp_read_attribute` does. -/
theorem ssc_read_attributes_cases (hloaded : d.load_status = TAPE_LOADED)
    (haction : cdb 1 &&& 0x1f = 0 ∨ cdb 1 &&& 0x1f = 1) :
    (d.cart.mam.num_partitions < (cdb 7).toNat ∧ SendsNothing (ssc_read_attributes L d cdb)) ∨
      (cdb 7).toNat ≤ d.cart.mam.num_partitions ∧
        ssc_read_attributes L d cdb = resp_read_attribute L d.declare_ssc_vars cdb := by
  have hload : d.declare_ssc_vars.load_status = TAPE_LOADED := hloaded
  have hnot : ¬d.declare_ssc_vars.load_status = TAPE_UNLOADED := by
    rw [hload]
    decide
  rw [ssc_read_attributes]
  rw [if_neg hnot, if_neg (not_not_intro hload), if_pos haction]
  by_cases hp : d.cart.mam.num_partitions < (cdb 7).toNat
  · have hp' : d.declare_ssc_vars.cart.mam.num_partitions < (cdb 7).toNat := hp
    rw [if_pos hp']
    exact Or.inl ⟨hp, _, rfl, rfl, rfl⟩
  · have hp' : ¬d.declare_ssc_vars.cart.mam.num_partitions < (cdb 7).toNat := hp
    rw [if_neg hp']
    exact Or.inr ⟨Nat.le_of_not_lt hp, rfl⟩

/-- Whatever `resp_read_attribute` sends has a size. -/
theorem resp_read_attribute_sized : ¬SendsNothing (resp_read_attribute L d cdb) := by
  rcases Nat.lt_or_ge (beNat (bytesAt cdb 10 4)) (2 ^ 31) with hlen | hneg
  swap
  · rw [resp_read_attribute_none hneg]
    rintro ⟨a, ha, -⟩
    exact absurd ha.symm (Option.some_ne_none a)
  by_cases haction : cdb 1 = 0
  · by_cases hnone : attributesFrom (beNat (bytesAt cdb 8 2)) = []
    · obtain ⟨d', h⟩ := @resp_read_attribute_unsupported L d cdb hlen haction hnone
      rw [h]
      exact not_sendsNothing (Nat.succ_ne_zero 1)
    · rw [(resp_read_attribute_values hlen haction hnone).mp rfl]
      rintro ⟨a, ha, -, hsz⟩
      obtain ⟨r, hr, rfl⟩ := Option.map_eq_some_iff.mp ha
      obtain ⟨values, -, rfl⟩ := attributeValues_iff.mp hr
      dsimp only at hsz
      omega
  · rw [resp_read_attribute_list hlen haction]
    exact not_sendsNothing (by simp)

end Answers

section Exact

variable {L : Libs} {d : Drive} {cdb : Cdb}

/-- Values that are there can be listed. -/
theorem exists_values {p : ℕ} {l : List MamAttr} (h : ∀ a ∈ l, HasValue L d p a) :
    ∃ values, List.Forall₂ (fun a value => mam_attr_value L d a p = some value) l values := by
  induction l with
  | nil => exact ⟨[], .nil⟩
  | cons a l ih =>
    obtain ⟨value, hvalue⟩ := (h a List.mem_cons_self).found
    obtain ⟨values, hvalues⟩ := ih fun b hb => h b (List.mem_cons_of_mem a hb)
    exact ⟨value :: values, .cons hvalue hvalues⟩

/-- For attributes of the table, the values of a partition are those that are found. -/
theorem partitionValues_iff {p : ℕ} {l : List MamAttr} {values : List (List UInt8)}
    (hl : ∀ a ∈ l, a ∈ mamAttributes) : List.Forall₂ (PartitionValue L d p) l values ↔
      (∀ a ∈ l, HasValue L d p a) ∧
        List.Forall₂ (fun a value => mam_attr_value L d a p = some value) l values := by
  constructor
  · intro h
    induction h with
    | nil => exact ⟨fun a ha => absurd ha List.not_mem_nil, .nil⟩
    | @cons a value l values hvalue _ ih =>
      obtain ⟨hhas, hfound⟩ := (partitionValue_iff (hl a List.mem_cons_self)).mp hvalue
      obtain ⟨hall, hvalues⟩ := ih fun b hb => hl b (List.mem_cons_of_mem a hb)
      refine ⟨fun b hb => ?_, .cons hfound hvalues⟩
      rcases List.mem_cons.mp hb with rfl | hb
      · exact hhas
      · exact hall b hb
  · rintro ⟨hall, h⟩
    induction h with
    | nil => exact .nil
    | @cons a value l values hvalue _ ih =>
      exact .cons ((partitionValue_iff (hl a List.mem_cons_self)).mpr
        ⟨hall a List.mem_cons_self, hvalue⟩) (ih (fun b hb => hl b (List.mem_cons_of_mem a hb))
          fun b hb => hall b (List.mem_cons_of_mem a hb))

/-- The values are answered just when they are all there and there is room for them. -/
theorem values_answered_iff (hlen : beNat (bytesAt cdb 10 4) < 2 ^ 31) (haction : cdb 1 = 0)
    (hfound : attributesFrom (beNat (bytesAt cdb 8 2)) ≠ []) :
    (∃ shown values,
      LongestFront attrSize (beNat (bytesAt cdb 10 4) - 4) (attributesFrom (beNat (bytesAt cdb 8 2)))
        shown ∧
      List.Forall₂ (PartitionValue L d (cdb 7).toNat) shown values ∧
      Sends (beNat (bytesAt cdb 10 4)) (beBytes 4
        (total attrSize (attributesFrom (beNat (bytesAt cdb 8 2)))) ++ attributeData shown values)
        (resp_read_attribute L d.declare_ssc_vars cdb)) ↔
      (∀ a ∈ attributesFrom (beNat (bytesAt cdb 8 2)), HasValue L d (cdb 7).toNat a) ∧
        4 + total attrSize (attributesFrom (beNat (bytesAt cdb 8 2))) ≤
          beNat (bytesAt cdb 10 4) := by
  rw [(resp_read_attribute_values hlen haction hfound).mp rfl]
  generalize hl : attributesFrom (beNat (bytesAt cdb 8 2)) = l
  generalize beNat (bytesAt cdb 10 4) = alloc_len at hlen ⊢
  have htable : ∀ a ∈ l, a ∈ mamAttributes := by
    intro a ha
    rw [← hl] at ha
    exact (attributesFrom_suffix _).subset ha
  have hgood : d.declare_ssc_vars.sam_stat = SAM_STAT_GOOD := rfl
  constructor
  · rintro ⟨shown, values, hfront, hvalues, hsends⟩
    have hin : ∀ a ∈ shown, a ∈ mamAttributes := fun a ha => htable a (hfront.start.subset ha)
    obtain ⟨hhas, hvalues⟩ := (partitionValues_iff hin).mp hvalues
    have hsent : ∃ r, attributeValues L d.declare_ssc_vars (cdb 7).toNat alloc_len l 4 = some r := by
      obtain ⟨a, ha, -⟩ := hsends
      obtain ⟨r, hr, -⟩ := Option.map_eq_some_iff.mp ha
      exact ⟨r, hr⟩
    obtain ⟨r, hr⟩ := hsent
    rw [hr, Option.map_some, sends_iff hgood] at hsends
    obtain ⟨values', -, rfl⟩ := attributeValues_iff.mp hr
    obtain ⟨hsz, -⟩ := hsends
    rw [List.length_append, beBytes_length, attributeData_length hin hvalues] at hsz
    dsimp only at hsz
    -- the size counts all of them, so all of them are shown
    have hwhole : shown = l := eq_of_total_le attrSize_pos hfront.start (by omega)
    rw [← hwhole]
    rw [← hwhole] at hsz
    exact ⟨hhas, by omega⟩
  · rintro ⟨hhas, hfits⟩
    obtain ⟨values, hvalues⟩ := exists_values hhas
    have hfit : fit attrSize alloc_len l 4 = l :=
      (fit_behind attrSize_pos 4).whole (by omega)
    have hfront : LongestFront attrSize (alloc_len - 4) l l := by
      have h := @fit_behind _ attrSize alloc_len l attrSize_pos 4
      rwa [hfit] at h
    refine ⟨l, values, hfront, (partitionValues_iff htable).mpr ⟨hhas, hvalues⟩, ?_⟩
    have hr : attributeValues L d.declare_ssc_vars (cdb 7).toNat alloc_len l 4 =
        some (4 + total attrSize l, attributeData l values) := by
      rw [attributeValues_iff, hfit]
      exact ⟨values, hvalues, rfl⟩
    have hlength : (beBytes 4 (total attrSize l) ++ attributeData l values).length =
        4 + total attrSize l := by
      rw [List.length_append, beBytes_length, attributeData_length htable hvalues]
    have hwhole := @sends_whole alloc_len _ d.declare_ssc_vars hgood (hlength.le.trans hfits)
    rw [hlength] at hwhole
    rw [hr, Option.map_some]
    dsimp only
    rwa [Nat.add_sub_cancel_left]

/-- The identifiers are answered just when there is room for all of them. -/
theorem list_answered_iff (hlen : beNat (bytesAt cdb 10 4) < 2 ^ 31) (haction : cdb 1 ≠ 0) :
    (∃ shown,
    LongestFront (fun _ => 2) (beNat (bytesAt cdb 10 4) - 4) mamAttributes shown ∧
    (shown.map (·.attribute_id)).Nodup ∧
    Sends (beNat (bytesAt cdb 10 4)) (beBytes 4 (2 * mamAttributes.length) ++ identifierData shown)
      (resp_read_attribute L d.declare_ssc_vars cdb)) ↔
    4 + 2 * mamAttributes.length ≤ beNat (bytesAt cdb 10 4) := by
  rw [resp_read_attribute_list hlen haction]
  generalize beNat (bytesAt cdb 10 4) = alloc_len at hlen ⊢
  have hgood : d.declare_ssc_vars.sam_stat = SAM_STAT_GOOD := rfl
  constructor
  · rintro ⟨shown, hfront, -, hsends⟩
    have hle := hfront.start.length_le
    rw [sends_iff hgood, List.length_append, beBytes_length, identifierData_length] at hsends
    omega
  · intro hfits
    have htotal : total (fun _ => 2) mamAttributes = 2 * mamAttributes.length := total_const 2 _
    have hfront := @fit_behind _ (fun _ => 2) alloc_len mamAttributes (fun _ => Nat.two_pos) 4
    have hfit := hfront.whole (by omega)
    rw [hfit] at hfront ⊢
    refine ⟨mamAttributes, hfront, table_nodup, ?_⟩
    have hlength : (beBytes 4 (2 * mamAttributes.length) ++ identifierData mamAttributes).length =
        4 + 2 * mamAttributes.length := by
      rw [List.length_append, beBytes_length, identifierData_length]
    have hwhole := @sends_whole alloc_len _ d.declare_ssc_vars hgood (hlength.le.trans hfits)
    rwa [hlength] at hwhole

/-- The identifiers are never an answer to a command that asks for the values. -/
theorem list_not_values (hlen : beNat (bytesAt cdb 10 4) < 2 ^ 31) (haction : cdb 1 ≠ 0)
    {attrib alloc_len : ℕ} {data : List UInt8} : ¬Sends alloc_len
      (beBytes 4 (total attrSize (attributesFrom attrib)) ++ data)
      (resp_read_attribute L d.declare_ssc_vars cdb) := by
  have hgood : d.declare_ssc_vars.sam_stat = SAM_STAT_GOOD := rfl
  obtain ⟨hother, hsmall⟩ := table_ends _ ((List.mem_tails _ _).mpr (attributesFrom_suffix attrib))
  rw [resp_read_attribute_list hlen haction, sends_iff hgood]
  rintro ⟨hsz, hbuf⟩
  have hfour : 4 ≤ alloc_len := by omega
  -- both begin with what is available in all
  have hheads := congrArg (List.take 4) hbuf
  rw [List.take_take, List.take_take, Nat.min_eq_left (by omega), Nat.min_eq_left hfour,
    List.take_left' (beBytes_length 4 _), List.take_left' (beBytes_length 4 _)] at hheads
  have hvalues := congrArg beNat hheads
  rw [beNat_beBytes_of_lt (by decide), beNat_beBytes_of_lt (by omega)] at hvalues
  exact hother hvalues.symm

/-- What is sent is nothing that a daemon that did not survive sends. -/
theorem not_sends_none {alloc_len : ℕ} {data : List UInt8} : ¬Sends alloc_len data none := by
  rintro ⟨a, ha, -⟩
  exact absurd ha.symm (Option.some_ne_none a)

/-- Of a partition that is there, an answer was asked for with a length that is not below zero. -/
theorem AttributesRead.length_lt (h : AttributesRead L d cdb (resp_read_attribute L d.declare_ssc_vars
    cdb)) (hthere : (cdb 7).toNat < partitionCount d.cart.mam)
    (haction : cdb 1 &&& 0x1f = 0 ∨ cdb 1 &&& 0x1f = 1) : beNat (bytesAt cdb 10 4) < 2 ^ 31 := by
  by_contra hneg
  have hsized := @resp_read_attribute_sized L d.declare_ssc_vars cdb
  rw [resp_read_attribute_none (Nat.le_of_not_lt hneg)] at h hsized
  rcases haction with hvalues | hlist
  · obtain ⟨_, _, -, -, hsends⟩ := h.values hvalues hthere fun hnone =>
      hsized (h.unsupported hvalues hnone)
    exact not_sends_none hsends
  · obtain ⟨_, -, -, hsends⟩ := h.list hlist hthere
    exact not_sends_none hsends

/-- READ ATTRIBUTE answers as it is asked just when the partition number is more than one behind
the last, or the partition has all values and the allocation length has room for all of them and is
below `2 ^ 31`. -/
theorem read_attribute_iff (L : Libs) (d : Drive) (cdb : Cdb) (hloaded : d.load_status = TAPE_LOADED)
    (haction : cdb 1 &&& 0x1f = 0 ∨ cdb 1 &&& 0x1f = 1) :
    AttributesRead L d cdb (ssc_read_attributes L d cdb) ↔ AttributesFit L d cdb := by
  have hone : cdb 1 &&& 0x1f = 1 → cdb 1 ≠ 0 := by
    intro h hzero
    rw [hzero] at h
    exact absurd h (by decide)
  have hexcl : cdb 1 &&& 0x1f = 0 → ¬cdb 1 &&& 0x1f = 1 := by
    intro h h'
    rw [h] at h'
    exact absurd h' (by decide)
  rcases ssc_read_attributes_cases hloaded haction with ⟨hp, hnothing⟩ | ⟨hp, hresp⟩
  · refine ⟨fun _ => Or.inl hp, fun _ => ⟨fun _ => hnothing, fun _ _ => hnothing, ?_, ?_⟩⟩
    · intro _ hlt
      rw [partitionCount] at hlt
      split at hlt <;> omega
    · intro _ hlt
      rw [partitionCount] at hlt
      split at hlt <;> omega
  rw [hresp, AttributesFit]
  have hsized := @resp_read_attribute_sized L d.declare_ssc_vars cdb
  by_cases hthere : (cdb 7).toNat < partitionCount d.cart.mam
  · constructor
    · intro h
      have hlen := h.length_lt hthere haction
      refine Or.inr ⟨hthere, hlen, ?_⟩
      rcases haction with hvalues | hlist
      · have hfound : attributesFrom (beNat (bytesAt cdb 8 2)) ≠ [] := fun hnone =>
          hsized (h.unsupported hvalues hnone)
        by_cases hzero : cdb 1 = 0
        · exact Or.inl ⟨hzero, hfound,
            (values_answered_iff hlen hzero hfound).mp (h.values hvalues hthere hfound)⟩
        · obtain ⟨_, _, -, -, hsends⟩ := h.values hvalues hthere hfound
          exact absurd hsends (list_not_values hlen hzero)
      · exact Or.inr ⟨hlist, (list_answered_iff hlen (hone hlist)).mp (h.list hlist hthere)⟩
    · rintro (hfar | ⟨-, hlen, ⟨hzero, hfound, hvalues⟩ | ⟨hlist, hroom⟩⟩)
      · omega
      · refine ⟨fun hle => absurd hthere (by omega), fun _ hnone => absurd hnone hfound,
          fun _ _ _ => (values_answered_iff hlen hzero hfound).mpr hvalues, fun h => ?_⟩
        exact absurd hzero (hone h)
      · exact ⟨fun hle => absurd hthere (by omega), fun h => absurd hlist (hexcl h),
          fun h => absurd hlist (hexcl h),
          fun _ _ => (list_answered_iff hlen (hone hlist)).mpr hroom⟩
  · constructor
    · intro h
      exact absurd (h.missing (Nat.le_of_not_lt hthere)) hsized
    · rintro (hfar | ⟨hlt, -⟩)
      · omega
      · exact absurd hlt hthere

end Exact

/-- READ ATTRIBUTE. -/
def attributeCdb (service_action partition : UInt8) (attrib alloc_len : ℕ) : Cdb
  | 1 => service_action
  | 7 => partition
  | 8 => UInt8.ofNat (attrib / 2 ^ 8)
  | 9 => UInt8.ofNat attrib
  | 10 => UInt8.ofNat (alloc_len / 2 ^ 24)
  | 11 => UInt8.ofNat (alloc_len / 2 ^ 16)
  | 12 => UInt8.ofNat (alloc_len / 2 ^ 8)
  | 13 => UInt8.ofNat alloc_len
  | _ => 0

/-- An empty tape of two partitions with coherency information of the second one. -/
def coherentDrive : Drive :=
  { emptyDrive with cart := { emptyDrive.cart with
      mam := (emptyDrive.cart.mam.putByte .num_partitions 2).put .VolumeCoherencyInformation1 [1, 2, 3] } }

/-- The coherency information of the second partition and what follows it are answered where there is
room for both, and not with a length below zero. -/
theorem read_attribute_coherentDrive :
    AttributesRead storedLibs coherentDrive (attributeCdb 0 1 0x80c 0x100)
      (ssc_read_attributes storedLibs coherentDrive (attributeCdb 0 1 0x80c 0x100)) ∧
    ¬AttributesRead storedLibs coherentDrive (attributeCdb 0 1 0x80c (2 ^ 31))
      (ssc_read_attributes storedLibs coherentDrive (attributeCdb 0 1 0x80c (2 ^ 31))) := by
  have hthere : partitionCount coherentDrive.cart.mam = 2 := by decide +kernel
  constructor
  · refine (read_attribute_iff storedLibs coherentDrive (attributeCdb 0 1 0x80c 0x100) rfl
      (Or.inl (by decide))).mpr (Or.inr ⟨?_, by decide, Or.inl ⟨rfl, by decide, ?_, by decide⟩⟩)
    · rw [hthere]
      decide
    · intro a ha
      have hlast : ∀ a ∈ attributesFrom 0x80c, 0x001 < a.attribute_id := by decide
      exact ⟨fun h => absurd h (Nat.not_le_of_lt (hlast a ha)), fun _ => by decide⟩
  · rw [read_attribute_iff storedLibs coherentDrive (attributeCdb 0 1 0x80c (2 ^ 31)) rfl
      (Or.inl (by decide))]
    rintro (hfar | ⟨-, hlen, -⟩)
    · have hnum : coherentDrive.cart.mam.num_partitions = 2 := by decide +kernel
      rw [hnum] at hfar
      exact absurd hfar (by decide)
    · exact absurd hlen (by decide)

/-- With an allocation length of four bytes, 82 are handed on. A length below zero ends the daemon. -/
theorem read_attribute_exceeds : emptyDrive.load_status = TAPE_LOADED ∧
    ¬AttributesRead storedLibs emptyDrive (attributeCdb 1 0 0 4)
      (ssc_read_attributes storedLibs emptyDrive (attributeCdb 1 0 0 4)) ∧
    (ssc_read_attributes storedLibs emptyDrive (attributeCdb 1 0 0 (2 ^ 31))).isNone ∧
    ¬AttributesRead storedLibs emptyDrive (attributeCdb 1 0 0 (2 ^ 31))
      (ssc_read_attributes storedLibs emptyDrive (attributeCdb 1 0 0 (2 ^ 31))) := by
  have hnone : (ssc_read_attributes storedLibs emptyDrive (attributeCdb 1 0 0 (2 ^ 31))).isNone := by
    decide +kernel
  refine ⟨rfl, fun h => ?_, hnone, fun h => ?_⟩
  · obtain ⟨shown, -, -, a, ha, -, hsz, -⟩ := h.list (by decide) (by decide +kernel)
    have hsent : (ssc_read_attributes storedLibs emptyDrive (attributeCdb 1 0 0 4)).map (·.sz) =
        some 82 := by decide +kernel
    rw [ha, Option.map_some, Option.some_inj] at hsent
    have hle : a.sz ≤ 4 := hsz.le.trans (Nat.min_le_right _ _)
    omega
  · obtain ⟨shown, -, -, hsends⟩ := h.list (by decide) (by decide +kernel)
    rw [Option.isNone_iff_eq_none.mp hnone] at hsends
    exact not_sends_none hsends

end Mhvtl.Ssc
