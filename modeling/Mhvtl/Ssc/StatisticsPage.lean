import Mhvtl.Lib.Buffer
import Mhvtl.Lib.Shares
import Mhvtl.Ssc.PartitionReport
import Mhvtl.Ssc.Reformat
import Mhvtl.Ssc.SecurityProtocol

/-!
# The page of the volume statistics

LOG SENSE lays the parameters of the partitions over the page one behind the other, each with a
record for every partition. The header of the page still has the length of a page with records
for `MAX_PARTITIONS`.
-/

namespace Mhvtl.Ssc

open Bytes Cart

/-- A log parameter. -/
structure LogParam where
  /-- Parameter code. -/
  code : ℕ
  /-- Flags. -/
  flags : UInt8
  /-- The value. -/
  value : List UInt8

/-- `LOG_PARAM`: a header of four bytes, and the value. -/
def LogParam.entry (p : LogParam) : Walk.Entry UInt8 :=
  ⟨beBytes 2 p.code ++ [p.flags, UInt8.ofNat p.value.length], p.value⟩

/-- A parameter that was never counted up. -/
def unusedParam (code size : ℕ) : LogParam := ⟨code, 0x03, List.replicate size 0⟩

/-- What is known of the volume, in front of the parameters of the partitions. -/
def volumeParams (TotalNativeCapacity TotalUsedNativeCapacity : ℕ) : List LogParam :=
  [⟨0x0000, 0x03, [1]⟩, unusedParam 0x0001 4, unusedParam 0x0002 8, unusedParam 0x0003 4,
   unusedParam 0x0004 2, unusedParam 0x0005 2, unusedParam 0x0006 2, unusedParam 0x0007 8,
   unusedParam 0x0008 4, unusedParam 0x0009 2, unusedParam 0x000c 2, unusedParam 0x000d 2,
   unusedParam 0x000e 4, unusedParam 0x000f 4, unusedParam 0x0010 8, unusedParam 0x0011 8,
   unusedParam 0x0012 2, unusedParam 0x0013 2, unusedParam 0x0014 6, unusedParam 0x0015 6,
   ⟨0x0016, 0x03, beBytes 4 TotalNativeCapacity⟩, ⟨0x0017, 0x03, beBytes 4 TotalUsedNativeCapacity⟩,
   unusedParam 0x0018 4, unusedParam 0x0019 1, ⟨0x0040, 0x01, List.replicate 32 0⟩,
   ⟨0x0041, 0x01, List.replicate 8 0⟩, ⟨0x0042, 0x01, List.replicate 32 0⟩,
   ⟨0x0043, 0x01, List.replicate 8 0⟩, ⟨0x0044, 0x01, List.replicate 4 0⟩,
   ⟨0x0045, 0x01, List.replicate 9 0⟩, unusedParam 0x0080 1, unusedParam 0x0081 1,
   unusedParam 0x0082 1, unusedParam 0x0101 4, unusedParam 0x0102 4]

/-- Offset of `h_FirstEncryptedLogicalObj`. -/
def offsetFirstEncrypted : ℕ := 342

/-- Size of the parameters of `MAX_PARTITIONS` partitions. -/
def partitionRoom : ℕ := 196

/-- Size of `struct VolumeStatistics_pg`. -/
def volumeStatisticsSize : ℕ := offsetFirstEncrypted + partitionRoom

/-- A parameter of the partitions: its code, the size of a record, and the data of the record where
any are stored. -/
structure PartitionParam where
  /-- Parameter code. -/
  code : ℕ
  /-- Size of a record with its header. -/
  size : ℕ
  /-- Data of the record of a partition. -/
  data : ℕ → Option (List UInt8)

/-- The record of a partition at some place. The reserved byte and data that are not stored stay as
they are in memory. -/
def recordAt (m : ℕ → UInt8) (place : ℕ) (p : PartitionParam) (i : ℕ) : List UInt8 :=
  [UInt8.ofNat (p.size - 1), m (place + 1)] ++ beBytes 2 i ++
    (p.data i).getD (bytesAt m (place + 4) (p.size - 4))

/-- `SET_VOLSTAT_PARAM_H` with the data behind it, and the next header. The length field has eight
bits. -/
def setVolstatParam (num_partitions : ℕ) (s : Buffer UInt8 × ℕ) (p : PartitionParam) :
    Buffer UInt8 × ℕ :=
  (s.1.store s.2 (beBytes 2 p.code ++ [0x03, UInt8.ofNat (num_partitions * p.size)] ++
      (List.range num_partitions).flatMap fun i => recordAt s.1.mem (s.2 + 4 + i * p.size) p i),
    s.2 + 4 + num_partitions * p.size % 256)

/-- The parameters of the partitions, for the capacities and uses of partitions. -/
def partitionParams (loaded : Bool) (capacity_unit early_warning_sz : ℕ) (cap used : ℕ → ℕ) :
    List PartitionParam :=
  [⟨0x0200, 10, fun _ => some (beBytes 6 0)⟩, ⟨0x0201, 10, fun _ => some (beBytes 6 0)⟩,
   ⟨0x0202, 8, fun i => if loaded then some (beBytes 4 (cap i / capacity_unit)) else none⟩,
   ⟨0x0203, 8, fun i => some (beBytes 4 (used i / capacity_unit))⟩,
   ⟨0x0204, 8, fun i => if loaded then some (beBytes 4
      (if used i + early_warning_sz < cap i
        then (cap i - (used i + early_warning_sz)) / capacity_unit else 0)) else none⟩]

/-- The page of the volume statistics that LOG SENSE sends, over a buffer that holds `mem`. -/
def volumeStatisticsPage (L : Libs) (capacity_unit : ℕ) (d : Drive) (mem : ℕ → UInt8) :
    Option (List UInt8) :=
  let num := d.cart.mam.num_partitions
  let loaded := decide (d.load_status = TAPE_LOADED)
  let used := (List.range num).map (partition_data_offset d.cart)
  let sizes := if loaded then (List.range num).mapM (medium_partition_capacity L d)
    else some (List.replicate num 0)
  sizes.map fun caps =>
    let volume := if loaded
      then volumeParams (caps.sum % 2 ^ 64 / capacity_unit) (used.sum % 2 ^ 64 / capacity_unit)
      else volumeParams 0xfffffffe 0xfffffffe
    let front := [VOLUME_STATISTICS, 0] ++ beBytes 2 (volumeStatisticsSize - 4) ++
      Walk.cells (volume.map LogParam.entry)
    let b := ((Buffer.fresh mem).store 0 front).store offsetFirstEncrypted
      (List.replicate partitionRoom 0)
    let laid := (partitionParams loaded capacity_unit d.early_warning_sz (caps.getD · 0)
      (used.getD · 0)).foldl (setVolstatParam num) (b, offsetFirstEncrypted)
    laid.1.front volumeStatisticsSize

/-- The length byte of a parameter. -/
def lengthByte (header : List UInt8) : ℕ := (header.getD 3 0).toNat

/-- The code of a parameter. -/
def parameterCode (e : Walk.Entry UInt8) : ℕ := beNat (e.header.take 2)

/-- The length byte of a record. -/
def recordLength (header : List UInt8) : ℕ := (header.headD 0).toNat

/-- The partition of a record. -/
def recordNumber (r : Walk.Entry UInt8) : ℕ := beNat ((r.body.drop 1).take 2)

/-- The figure in a record. -/
def recordFigure (r : Walk.Entry UInt8) : ℕ := beNat (r.body.drop 3)

/-- The parameters of the partitions with the length of their records. -/
def partitionCodes : List (ℕ × ℕ) :=
  [(0x0200, 9), (0x0201, 9), (0x0202, 7), (0x0203, 7), (0x0204, 7)]

/-- A parameter has one record for each of `num` partitions, with these figures. -/
def HoldsRecords (num length : ℕ) (figures : List ℕ) (e : Walk.Entry UInt8) : Prop :=
  ∃ records, Walk.walk 0 recordLength e.body = some records ∧
    (∀ r ∈ records, r.body.length = length) ∧ records.map recordNumber = List.range num ∧
    records.map recordFigure = figures

/-- Some figures add up to the whole, up to one unit each. -/
def AddUpNearly (figures : List ℕ) (whole : ℕ) : Prop :=
  whole ≤ figures.sum + figures.length ∧ figures.sum ≤ whole + figures.length

/-- What is read off a page of the volume statistics. -/
structure ParsedStatistics (d : Drive) (page : List UInt8) (params : List (Walk.Entry UInt8))
    (figures : ℕ → List ℕ) : Prop where
  /-- The page is as long as its header says. -/
  length : pageField page + 4 = page.length
  /-- The parameters end where the page does. -/
  walked : Walk.walk 3 lengthByte (page.drop 4) = some params
  /-- Their codes increase. -/
  increasing : (params.map parameterCode).Pairwise (· < ·)
  /-- Each parameter of the partitions has a record for every partition. -/
  records : ∀ c ∈ partitionCodes, ∃ e ∈ params, parameterCode e = c.1 ∧
    HoldsRecords (partitionCount d.cart.mam) c.2 (figures c.1) e
  /-- The capacities add up to the capacity of the volume. -/
  capacity : d.load_status = TAPE_LOADED → ∃ e ∈ params, parameterCode e = 0x0016 ∧
    AddUpNearly (figures 0x0202) (beNat e.body)
  /-- What is used adds up as well. -/
  used : d.load_status = TAPE_LOADED → ∃ e ∈ params, parameterCode e = 0x0017 ∧
    AddUpNearly (figures 0x0203) (beNat e.body)

/-- A page of the volume statistics parses exactly. -/
def ParsesExactly (d : Drive) (page : List UInt8) : Prop :=
  ∃ params figures, ParsedStatistics d page params figures

/-- Sizes in units, cut to 32 bits, with what rounding loses, stay inside 32 bits. -/
def UnitsFit (capacity_unit : ℕ) (sizes : List ℕ) : Prop :=
  (sizes.map fun n => n / capacity_unit % 2 ^ 32).sum +
    (sizes.sum / capacity_unit - (sizes.map (· / capacity_unit)).sum) < 2 ^ 32

/-- The volume has all partitions that the page has room for, and when it is loaded, capacities and
uses fit. -/
def StatisticsFit (L : Libs) (capacity_unit : ℕ) (d : Drive) : Prop :=
  d.cart.mam.num_partitions = MAX_PARTITIONS ∧ (d.load_status = TAPE_LOADED →
    (∀ caps, (List.range MAX_PARTITIONS).mapM (medium_partition_capacity L d) = some caps →
      UnitsFit capacity_unit caps) ∧
    UnitsFit capacity_unit ((List.range MAX_PARTITIONS).map (partition_data_offset d.cart)))

section Volume

/-- A parameter is walked by its length byte. -/
theorem LogParam.entry_sized {p : LogParam} (h : p.value.length < 256) :
    p.entry.Sized 3 lengthByte := by
  refine ⟨rfl, ?_⟩
  have hbyte : (UInt8.ofNat p.value.length).toNat = p.value.length := by
    rw [UInt8.toNat_ofNat', Nat.mod_eq_of_lt h]
  exact hbyte.symm

/-- Its code is read back. -/
theorem LogParam.entry_code {p : LogParam} (h : p.code < 65536) : parameterCode p.entry = p.code := by
  have htake : p.entry.header.take 2 = beBytes 2 p.code := List.take_left' (beBytes_length 2 _)
  rw [parameterCode, htake, beNat_beBytes_of_lt h]

variable (total used : ℕ)

/-- The codes of the parameters of the volume. -/
theorem volumeParams_codes : (volumeParams total used).map (·.code) =
    (volumeParams 0 0).map (·.code) := rfl

/-- The lengths of their values. -/
theorem volumeParams_lengths : (volumeParams total used).map (·.value.length) =
    (volumeParams 0 0).map (·.value.length) := rfl

/-- They are walked by their length bytes. -/
theorem volumeParams_sized : ∀ e ∈ (volumeParams total used).map LogParam.entry,
    e.Sized 3 lengthByte := by
  have hall : ∀ n ∈ (volumeParams 0 0).map (·.value.length), n < 256 := by decide
  intro e he
  obtain ⟨p, hp, rfl⟩ := List.mem_map.mp he
  apply LogParam.entry_sized
  apply hall
  rw [← volumeParams_lengths total used]
  exact List.mem_map_of_mem hp

/-- Their codes are small and increase. -/
theorem volumeParams_entries : ((volumeParams total used).map LogParam.entry).map parameterCode =
    (volumeParams 0 0).map (·.code) := by
  have hall : ∀ n ∈ (volumeParams 0 0).map (·.code), n < 65536 := by decide
  rw [← volumeParams_codes total used, List.map_map]
  apply List.map_congr_left
  intro p hp
  apply LogParam.entry_code
  apply hall
  rw [← volumeParams_codes total used]
  exact List.mem_map_of_mem hp

/-- The parameters of the partitions begin right behind them. -/
theorem volumeParams_room : (Walk.cells ((volumeParams total used).map LogParam.entry)).length =
    offsetFirstEncrypted - 4 := by
  have hsum : ((volumeParams 0 0).map fun p => 4 + p.value.length).sum = offsetFirstEncrypted - 4 := by
    decide
  have hlengths : (volumeParams total used).map (fun p => 4 + p.value.length) =
      (volumeParams 0 0).map fun p => 4 + p.value.length := rfl
  rw [Walk.cells, List.length_flatMap, List.map_map, ← hsum, ← hlengths]
  apply congrArg List.sum
  apply List.map_congr_left
  intro p _
  change (p.entry.header ++ p.entry.body).length = 4 + p.value.length
  rw [List.length_append]
  rfl

end Volume

section Records

variable {p : PartitionParam} {num : ℕ}

/-- The records have room for a header, and what is stored fills them. -/
structure PartitionParam.Fits (p : PartitionParam) : Prop where
  /-- The code has two bytes. -/
  code : p.code < 65536
  /-- There is room for the header. -/
  header : 4 ≤ p.size
  /-- The length byte holds the length. -/
  length : p.size ≤ 256
  /-- The data fill the rest. -/
  data : ∀ i bs, p.data i = some bs → bs.length = p.size - 4

/-- The data of a record over cleared memory. -/
def PartitionParam.datum (p : PartitionParam) (i : ℕ) : List UInt8 :=
  (p.data i).getD (bytesAt (fun _ => 0) 4 (p.size - 4))

/-- They fill the record. -/
theorem PartitionParam.Fits.datum_length (h : p.Fits) (i : ℕ) : (p.datum i).length = p.size - 4 := by
  rw [PartitionParam.datum]
  cases hdata : p.data i with
  | none => rw [Option.getD_none, bytesAt_length]
  | some bs => exact h.data i bs hdata

/-- The record of a partition. -/
def recordEntry (p : PartitionParam) (i : ℕ) : Walk.Entry UInt8 :=
  ⟨[UInt8.ofNat (p.size - 1)], 0 :: beBytes 2 i ++ p.datum i⟩

/-- The parameter over cleared memory. -/
def partitionEntry (num : ℕ) (p : PartitionParam) : Walk.Entry UInt8 :=
  ⟨beBytes 2 p.code ++ [0x03, UInt8.ofNat (num * p.size)],
    Walk.cells ((List.range num).map (recordEntry p))⟩

/-- A record is walked by its length byte. -/
theorem recordEntry_sized (h : p.Fits) (i : ℕ) : (recordEntry p i).Sized 0 recordLength := by
  have hheader := h.header
  have hlength := h.length
  have hbyte : (UInt8.ofNat (p.size - 1)).toNat = p.size - 1 := by
    rw [UInt8.toNat_ofNat', Nat.mod_eq_of_lt (by omega)]
  refine ⟨rfl, ?_⟩
  change (0 :: beBytes 2 i ++ p.datum i).length = (UInt8.ofNat (p.size - 1)).toNat
  rw [hbyte, List.length_append, List.length_cons, beBytes_length, h.datum_length]
  omega

/-- It has the number of the partition and the figure. -/
theorem recordEntry_reads {i : ℕ} (hi : i < 65536) :
    recordNumber (recordEntry p i) = i ∧ recordFigure (recordEntry p i) = beNat (p.datum i) := by
  have htake : (beBytes 2 i ++ p.datum i).take 2 = beBytes 2 i := List.take_left' (beBytes_length 2 i)
  have hdrop : (beBytes 2 i ++ p.datum i).drop 2 = p.datum i := List.drop_left' (beBytes_length 2 i)
  constructor
  · change beNat ((beBytes 2 i ++ p.datum i).take 2) = i
    rw [htake, beNat_beBytes_of_lt hi]
  · change beNat ((beBytes 2 i ++ p.datum i).drop 2) = beNat (p.datum i)
    rw [hdrop]

/-- The records of a parameter. -/
theorem partitionEntry_records (h : p.Fits) (hnum : num ≤ 65536) :
    HoldsRecords num (p.size - 1) ((List.range num).map fun i => beNat (p.datum i))
      (partitionEntry num p) := by
  refine ⟨(List.range num).map (recordEntry p), ?_, ?_, ?_, ?_⟩
  · apply Walk.walk_cells
    intro r hr
    obtain ⟨i, -, rfl⟩ := List.mem_map.mp hr
    exact recordEntry_sized h i
  · intro r hr
    obtain ⟨i, -, rfl⟩ := List.mem_map.mp hr
    have hheader := h.header
    change (0 :: beBytes 2 i ++ p.datum i).length = p.size - 1
    rw [List.length_append, List.length_cons, beBytes_length, h.datum_length]
    omega
  · rw [List.map_map]
    refine (List.map_congr_left fun i hi => ?_).trans (List.map_id _)
    have hlt := List.mem_range.mp hi
    exact (recordEntry_reads (by omega)).1
  · rw [List.map_map]
    apply List.map_congr_left
    intro i hi
    have hlt := List.mem_range.mp hi
    exact (recordEntry_reads (by omega)).2

/-- The records take the bytes that are counted for them. -/
theorem records_length (h : p.Fits) (num : ℕ) :
    (Walk.cells ((List.range num).map (recordEntry p))).length = num * p.size := by
  have hheader := h.header
  induction num with
  | zero => rw [Nat.zero_mul]; rfl
  | succ num ih =>
    have hone : (Walk.cells [recordEntry p num]).length = p.size := by
      have hbody := (recordEntry_sized h num).2
      rw [Walk.cells_singleton, List.length_append, hbody]
      change 1 + (UInt8.ofNat (p.size - 1)).toNat = p.size
      have hlength := h.length
      rw [UInt8.toNat_ofNat', Nat.mod_eq_of_lt (by omega)]
      omega
    rw [List.range_succ, List.map_append, List.map_singleton, Walk.cells_append, List.length_append,
      ih, hone, Nat.add_mul, Nat.one_mul]

/-- A parameter whose records fit its length byte is walked by it. -/
theorem partitionEntry_sized (h : p.Fits) (hfits : num * p.size < 256) :
    (partitionEntry num p).Sized 3 lengthByte := by
  refine ⟨rfl, ?_⟩
  have hbyte : (UInt8.ofNat (num * p.size)).toNat = num * p.size := by
    rw [UInt8.toNat_ofNat', Nat.mod_eq_of_lt hfits]
  change (Walk.cells ((List.range num).map (recordEntry p))).length =
    (UInt8.ofNat (num * p.size)).toNat
  rw [records_length h, hbyte]

/-- Its code is read back. -/
theorem partitionEntry_code (h : p.Fits) : parameterCode (partitionEntry num p) = p.code := by
  have htake : (partitionEntry num p).header.take 2 = beBytes 2 p.code :=
    List.take_left' (beBytes_length 2 _)
  rw [parameterCode, htake, beNat_beBytes_of_lt h.code]

/-- Over cleared memory, the record is the one of the partition. -/
theorem recordAt_clear {m : ℕ → UInt8} {place i : ℕ} (h : p.Fits)
    (hclear : ∀ j, place ≤ j → j < place + p.size → m j = 0) :
    recordAt m place p i = Walk.cells [recordEntry p i] := by
  have hheader := h.header
  have hrest : bytesAt m (place + 4) (p.size - 4) = bytesAt (fun _ => 0) 4 (p.size - 4) := by
    apply List.map_congr_left
    intro k hk
    have hlt := List.mem_range.mp hk
    exact hclear _ (by omega) (by omega)
  have hbyte : m (place + 1) = 0 := hclear _ (by omega) (by omega)
  rw [recordAt, hrest, hbyte, Walk.cells_singleton]
  rfl

end Records

section Layout

variable {num : ℕ}

/-- Up to the next header the page is laid out, and up to `stop` the memory behind it is clear. -/
structure LaidOut (stop : ℕ) (front : List UInt8) (s : Buffer UInt8 × ℕ) : Prop where
  /-- What is laid out. -/
  done : s.1.front s.2 = front
  /-- What is left. -/
  clear : ∀ j, s.2 ≤ j → j < stop → s.1.mem j = 0

/-- One parameter more. -/
theorem LaidOut.step {stop : ℕ} {front : List UInt8} {s : Buffer UInt8 × ℕ} {p : PartitionParam}
    (h : LaidOut stop front s) (hp : p.Fits) (hsmall : num * p.size < 256)
    (hroom : s.2 + 4 + num * p.size ≤ stop) :
    LaidOut stop (front ++ Walk.cells [partitionEntry num p]) (setVolstatParam num s p) ∧
      (setVolstatParam num s p).2 = s.2 + 4 + num * p.size := by
  have hrecords : ((List.range num).flatMap fun i => recordAt s.1.mem (s.2 + 4 + i * p.size) p i) =
      Walk.cells ((List.range num).map (recordEntry p)) := by
    rw [Walk.cells, List.flatMap_map]
    apply List.flatMap_congr
    intro i hi
    have hlt := List.mem_range.mp hi
    have hend : i * p.size + p.size ≤ num * p.size := by
      calc i * p.size + p.size = (i + 1) * p.size := by ring
        _ ≤ num * p.size := Nat.mul_le_mul_right _ hlt
    rw [recordAt_clear hp fun j hj hj' => h.clear j (by omega) (by omega), Walk.cells_singleton]
  have hnext : (setVolstatParam num s p).2 = s.2 + 4 + num * p.size := by
    rw [setVolstatParam, Nat.mod_eq_of_lt hsmall]
  have hbytes : (setVolstatParam num s p).1 =
      s.1.store s.2 (Walk.cells [partitionEntry num p]) := by
    rw [setVolstatParam, hrecords, Walk.cells_singleton]
    rfl
  have hlength : (Walk.cells [partitionEntry num p]).length = 4 + num * p.size := by
    have hbody := records_length hp num
    rw [Walk.cells_singleton, List.length_append]
    change 4 + (Walk.cells ((List.range num).map (recordEntry p))).length = _
    rw [hbody]
  refine ⟨⟨?_, fun j hj hj' => ?_⟩, hnext⟩
  · rw [hnext, hbytes, Nat.add_assoc, ← hlength, Buffer.front_store_append, h.done]
  · rw [hnext] at hj
    rw [hbytes]
    change (if s.2 ≤ j then (Walk.cells [partitionEntry num p]).getD (j - s.2) (s.1.mem j)
      else s.1.mem j) = 0
    rw [if_pos (by omega), List.getD_eq_default _ _ (by omega)]
    exact h.clear j (by omega) hj'

/-- All parameters one behind the other. -/
theorem LaidOut.run {stop : ℕ} {ps : List PartitionParam} {front : List UInt8}
    {s : Buffer UInt8 × ℕ} (h : LaidOut stop front s) (hp : ∀ p ∈ ps, p.Fits)
    (hsmall : ∀ p ∈ ps, num * p.size < 256)
    (hroom : s.2 + (ps.map fun p => 4 + num * p.size).sum ≤ stop) :
    LaidOut stop (front ++ Walk.cells (ps.map (partitionEntry num)))
        (ps.foldl (setVolstatParam num) s) ∧
      (ps.foldl (setVolstatParam num) s).2 = s.2 + (ps.map fun p => 4 + num * p.size).sum := by
  induction ps generalizing front s with
  | nil =>
    rw [List.map_nil, Walk.cells, List.flatMap_nil, List.append_nil]
    exact ⟨h, rfl⟩
  | cons p ps ih =>
    simp only [List.map_cons, List.sum_cons, List.foldl_cons] at hroom ⊢
    obtain ⟨hstep, hnext⟩ := h.step (hp p List.mem_cons_self) (hsmall p List.mem_cons_self)
      (by omega)
    obtain ⟨hrun, hlast⟩ := ih hstep (fun q hq => hp q (List.mem_cons_of_mem p hq))
      (fun q hq => hsmall q (List.mem_cons_of_mem p hq)) (by omega)
    rw [List.append_assoc, ← Walk.cells_append] at hrun
    refine ⟨hrun, hlast.trans ?_⟩
    rw [hnext]
    omega

/-- Behind what is laid out, the page is clear. -/
theorem LaidOut.page {stop : ℕ} {front : List UInt8} {s : Buffer UInt8 × ℕ}
    (h : LaidOut stop front s) (hle : s.2 ≤ stop) :
    s.1.front stop = front ++ List.replicate (stop - s.2) 0 := by
  rw [← h.done, ← List.take_append_drop s.2 (s.1.front stop), Buffer.take_front _ hle]
  congr 1
  apply List.eq_replicate_iff.mpr
  refine ⟨by rw [List.length_drop, Buffer.front_length], fun b hb => ?_⟩
  obtain ⟨j, hj, rfl⟩ := List.getElem_of_mem hb
  rw [List.length_drop, Buffer.front_length] at hj
  rw [List.getElem_drop]
  have hcell := Buffer.front_getElem? s.1 (show s.2 + j < stop by omega)
  rw [List.getElem?_eq_getElem (by rw [Buffer.front_length]; omega), Option.some_inj] at hcell
  rw [hcell]
  exact h.clear _ (by omega) (by omega)

/-- The parameters of the partitions leave the front of the page alone. -/
theorem setVolstatParams_front (ps : List PartitionParam) {n : ℕ} {s : Buffer UInt8 × ℕ}
    (h : n ≤ s.2) : (ps.foldl (setVolstatParam num) s).1.front n = s.1.front n := by
  induction ps generalizing s with
  | nil => rfl
  | cons p ps ih =>
    have hnext : n ≤ (setVolstatParam num s p).2 := by
      change n ≤ s.2 + 4 + num * p.size % 256
      omega
    rw [List.foldl_cons, ih hnext]
    exact Buffer.front_store_of_le _ h _

end Layout

section Page

variable {L : Libs} {capacity_unit : ℕ} {d : Drive} {mem : ℕ → UInt8}

/-- Numbers that fit, with data of the right size. -/
theorem fits_of {code size : ℕ} {data : ℕ → Option (List UInt8)}
    (h : code < 65536 ∧ 4 ≤ size ∧ size ≤ 256)
    (hdata : ∀ i bs, data i = some bs → bs.length = size - 4) :
    (⟨code, size, data⟩ : PartitionParam).Fits :=
  ⟨h.1, h.2.1, h.2.2, hdata⟩

/-- The parameters of the partitions fit the page. -/
theorem partitionParams_fit (loaded : Bool) (capacity_unit early_warning_sz : ℕ) (cap used : ℕ → ℕ) :
    ∀ p ∈ partitionParams loaded capacity_unit early_warning_sz cap used, p.Fits := by
  have hsome : ∀ (n : ℕ) {bs : List UInt8} {w : ℕ}, some (beBytes w n) = some bs → bs.length = w := by
    intro n bs w h
    rw [← Option.some.inj h, beBytes_length]
  have hwhen : ∀ (n : ℕ) {bs : List UInt8} {w : ℕ},
      (if loaded then some (beBytes w n) else none) = some bs → bs.length = w := by
    intro n bs w h
    split at h
    · exact hsome n h
    · exact absurd h.symm (Option.some_ne_none bs)
  intro p hp
  simp only [partitionParams, List.mem_cons, List.not_mem_nil, or_false] at hp
  rcases hp with rfl | rfl | rfl | rfl | rfl
  · exact fits_of (by decide) fun _ _ h => hsome _ h
  · exact fits_of (by decide) fun _ _ h => hsome _ h
  · exact fits_of (by decide) fun _ _ h => hwhen _ h
  · exact fits_of (by decide) fun _ _ h => hsome _ h
  · exact fits_of (by decide) fun _ _ h => hwhen _ h

/-- What the page says of the volume. -/
def volumeShown (capacity_unit : ℕ) (d : Drive) (caps : List ℕ) : List LogParam :=
  if d.load_status = TAPE_LOADED then volumeParams (caps.sum % 2 ^ 64 / capacity_unit)
    (((List.range d.cart.mam.num_partitions).map (partition_data_offset d.cart)).sum % 2 ^ 64 /
      capacity_unit)
  else volumeParams 0xfffffffe 0xfffffffe

/-- What it says of the partitions. -/
def partitionsShown (capacity_unit : ℕ) (d : Drive) (caps : List ℕ) : List PartitionParam :=
  partitionParams (decide (d.load_status = TAPE_LOADED)) capacity_unit d.early_warning_sz (caps.getD · 0)
    (((List.range d.cart.mam.num_partitions).map (partition_data_offset d.cart)).getD · 0)

/-- The header of the page. -/
def pageHeader : List UInt8 := [VOLUME_STATISTICS, 0] ++ beBytes 2 (volumeStatisticsSize - 4)

/-- What is shown of the volume is parameters of the volume. -/
theorem volumeShown_eq (capacity_unit : ℕ) (d : Drive) (caps : List ℕ) : ∃ total used,
    volumeShown capacity_unit d caps = volumeParams total used ∧
    (d.load_status = TAPE_LOADED → total = caps.sum % 2 ^ 64 / capacity_unit ∧
      used = ((List.range d.cart.mam.num_partitions).map (partition_data_offset d.cart)).sum % 2 ^ 64 /
        capacity_unit) := by
  rw [volumeShown]
  split
  · exact ⟨_, _, rfl, fun _ => ⟨rfl, rfl⟩⟩
  · next hempty => exact ⟨_, _, rfl, fun hload => absurd hload hempty⟩

/-- The page is its header, the parameters of the volume, and as many bytes as the parameters of
`MAX_PARTITIONS` partitions take. With no more partitions than that, these are their parameters and
zeros. -/
theorem volumeStatisticsPage_laid {page : List UInt8}
    (h : volumeStatisticsPage L capacity_unit d mem = some page) : ∃ caps tail,
    (d.load_status = TAPE_LOADED → (List.range d.cart.mam.num_partitions).mapM
      (medium_partition_capacity L d) = some caps) ∧
    page = pageHeader ++ Walk.cells ((volumeShown capacity_unit d caps).map LogParam.entry) ++ tail ∧
    tail.length = partitionRoom ∧
    (d.cart.mam.num_partitions ≤ MAX_PARTITIONS → tail =
      Walk.cells ((partitionsShown capacity_unit d caps).map
        (partitionEntry d.cart.mam.num_partitions)) ++
        List.replicate (44 * (MAX_PARTITIONS - d.cart.mam.num_partitions)) 0) := by
  let num := d.cart.mam.num_partitions
  obtain ⟨caps, hcaps, rfl⟩ := Option.map_eq_some_iff.mp h
  obtain ⟨total, used, hvolume, -⟩ := volumeShown_eq capacity_unit d caps
  let front := pageHeader ++ Walk.cells ((volumeShown capacity_unit d caps).map LogParam.entry)
  let b := ((Buffer.fresh mem).store 0 front).store offsetFirstEncrypted
    (List.replicate partitionRoom 0)
  let ps := partitionsShown capacity_unit d caps
  have hfront : front.length = offsetFirstEncrypted := by
    change (pageHeader ++ Walk.cells ((volumeShown capacity_unit d caps).map LogParam.entry)).length = _
    rw [hvolume, List.length_append, volumeParams_room]
    rfl
  have hstart : b.front offsetFirstEncrypted = front := by
    have happend := Buffer.front_store_append (Buffer.fresh mem) 0 front
    rw [hfront, Nat.zero_add, Buffer.front_zero, List.nil_append] at happend
    exact (Buffer.front_store_of_le _ (Nat.le_refl _) _).trans happend
  have hpage : volumeStatisticsPage L capacity_unit d mem = some
      ((ps.foldl (setVolstatParam num) (b, offsetFirstEncrypted)).1.front volumeStatisticsSize) := by
    rw [h]
    simp only [ps, b, front, num, partitionsShown, volumeShown, pageHeader, decide_eq_true_eq]
  rw [h, Option.some_inj] at hpage
  rw [hpage]
  have hlaid : LaidOut volumeStatisticsSize front (b, offsetFirstEncrypted) := by
    refine ⟨hstart, fun j hj hj' => ?_⟩
    change (if offsetFirstEncrypted ≤ j then (List.replicate partitionRoom 0).getD
      (j - offsetFirstEncrypted) _ else _) = 0
    have hlt : j - offsetFirstEncrypted < partitionRoom := by
      change offsetFirstEncrypted ≤ j at hj
      rw [volumeStatisticsSize] at hj'
      omega
    rw [if_pos hj, List.getD_eq_getElem _ _ (by rwa [List.length_replicate]), List.getElem_replicate]
  refine ⟨caps, ((ps.foldl (setVolstatParam num) (b, offsetFirstEncrypted)).1.front
    volumeStatisticsSize).drop offsetFirstEncrypted, fun hload => ?_, ?_, ?_, fun hmax => ?_⟩
  · rw [if_pos (decide_eq_true hload)] at hcaps
    exact hcaps
  · have hkept := @setVolstatParams_front num ps offsetFirstEncrypted (b, offsetFirstEncrypted)
      (Nat.le_refl _)
    have htake := Buffer.take_front (ps.foldl (setVolstatParam num) (b, offsetFirstEncrypted)).1
      (show offsetFirstEncrypted ≤ volumeStatisticsSize by decide)
    have hsplit := List.take_append_drop offsetFirstEncrypted
      ((ps.foldl (setVolstatParam num) (b, offsetFirstEncrypted)).1.front volumeStatisticsSize)
    rw [htake, hkept, hstart] at hsplit
    exact hsplit.symm
  · rw [List.length_drop, Buffer.front_length]
    rfl
  · have hfit := partitionParams_fit (decide (d.load_status = TAPE_LOADED)) capacity_unit
      d.early_warning_sz (caps.getD · 0)
      (((List.range d.cart.mam.num_partitions).map (partition_data_offset d.cart)).getD · 0)
    have hmax' : num ≤ 4 := hmax
    have hsum : (ps.map fun p => 4 + num * p.size).sum = 20 + 44 * num := by
      simp only [ps, partitionsShown, partitionParams, List.map_cons, List.map_nil, List.sum_cons,
        List.sum_nil]
      omega
    have hsmall : ∀ p ∈ ps, num * p.size < 256 := by
      intro p hp
      simp only [ps, partitionsShown, partitionParams, List.mem_cons, List.not_mem_nil,
        or_false] at hp
      rcases hp with rfl | rfl | rfl | rfl | rfl <;> dsimp only <;> omega
    have hroom : offsetFirstEncrypted + (20 + 44 * num) ≤ volumeStatisticsSize := by
      rw [volumeStatisticsSize, partitionRoom]
      omega
    obtain ⟨hrun, hnext⟩ := @LaidOut.run num _ ps _ _ hlaid hfit hsmall (by rw [hsum]; exact hroom)
    rw [hsum] at hnext
    have hrest : volumeStatisticsSize - (offsetFirstEncrypted + (20 + 44 * num)) =
        44 * (MAX_PARTITIONS - num) := by
      rw [volumeStatisticsSize, partitionRoom, MAX_PARTITIONS]
      omega
    rw [hrun.page (by rw [hnext]; exact hroom), hnext, List.append_assoc, List.drop_left' hfront,
      hrest]

/-- The parameters of the volume, by its figures. -/
def VolumeStatistics.volume (pg : VolumeStatistics) : List LogParam :=
  let total := pg.TotalNativeCapacity.getD (0xfffffffe, 0xfffffffe)
  volumeParams total.1 total.2

/-- The parameters of the partitions. What is not known without a tape is not stored. -/
def VolumeStatistics.partitions (pg : VolumeStatistics) : List PartitionParam :=
  let loaded := pg.TotalNativeCapacity.isSome
  [⟨0x0200, 10, fun _ => some (beBytes 6 0)⟩, ⟨0x0201, 10, fun _ => some (beBytes 6 0)⟩,
   ⟨0x0202, 8, fun i => if loaded
      then some (beBytes 4 (pg.ApproxNativeCapacityPartition.getD i 0)) else none⟩,
   ⟨0x0203, 8, fun i => some (beBytes 4 (pg.ApproxUsedNativeCapacityPartition.getD i 0))⟩,
   ⟨0x0204, 8, fun i => if loaded
      then some (beBytes 4 (pg.RemainingCapacityToEWPartition.getD i 0)) else none⟩]

/-- As many results as there were arguments. -/
theorem mapM_length {α β : Type} {f : α → Option β} {l : List α} {bs : List β}
    (h : l.mapM f = some bs) : bs.length = l.length := by
  induction l generalizing bs with
  | nil =>
    obtain rfl := Option.some.inj (List.mapM_nil.symm.trans h)
    rfl
  | cons a l ih =>
    rw [List.mapM_cons] at h
    obtain ⟨b, -, h⟩ := Option.bind_eq_some_iff.mp h
    obtain ⟨bs', hbs', h⟩ := Option.bind_eq_some_iff.mp h
    obtain rfl := Option.some.inj h
    rw [List.length_cons, ih hbs', List.length_cons]

/-- The parameters of the page are those of the figures. -/
theorem shown_statistics {pg : VolumeStatistics} {caps : List ℕ}
    (h : update_VolumeStatistics L capacity_unit d = some pg)
    (hcaps : d.load_status = TAPE_LOADED → (List.range d.cart.mam.num_partitions).mapM
      (medium_partition_capacity L d) = some caps) :
    volumeShown capacity_unit d caps = pg.volume ∧
      partitionsShown capacity_unit d caps = pg.partitions := by
  obtain ⟨used, hused⟩ : ∃ used,
    (List.range d.cart.mam.num_partitions).map (partition_data_offset d.cart) = used := ⟨_, rfl⟩
  let unit : ℕ → ℕ := fun n => n / capacity_unit % 2 ^ 32
  have hzero : unit 0 = 0 := by
    change 0 / capacity_unit % 2 ^ 32 = 0
    rw [Nat.zero_div, Nat.zero_mod]
  have hbytes : ∀ n, beBytes 4 (n / capacity_unit) = beBytes 4 (unit n) :=
    fun n => (beBytes_mod 4 _).symm
  have hfigure : ∀ (l : List ℕ) (i : ℕ),
      beBytes 4 (l.getD i 0 / capacity_unit) = beBytes 4 ((l.map unit).getD i 0) := by
    intro l i
    have hmap : (l.map unit).getD i (unit 0) = unit (l.getD i 0) :=
      List.getD_map l 0 unit
    rw [hbytes, ← hmap, hzero]
  unfold update_VolumeStatistics at h
  unfold volumeShown partitionsShown
  dsimp only at h
  rw [hused] at h ⊢
  split at h
  · cases h
  split at h
  · rename_i hempty
    obtain rfl := Option.some.inj h
    refine ⟨if_neg hempty, ?_⟩
    simp only [partitionParams, VolumeStatistics.partitions, hempty, decide_false, Option.isSome_none,
      Bool.false_eq_true, if_false, hfigure]
    rfl
  · rename_i hloaded
    have hload := not_not.mp hloaded
    rw [hcaps hload] at h
    obtain rfl := Option.some.inj h
    have hlen : caps.length = used.length := by
      rw [mapM_length (hcaps hload), ← hused, List.length_map]
    have hleft : ∀ i, beBytes 4 (if used.getD i 0 + d.early_warning_sz < caps.getD i 0
        then (caps.getD i 0 - (used.getD i 0 + d.early_warning_sz)) / capacity_unit else 0) =
        beBytes 4 ((List.zipWith (fun cap used => if used + d.early_warning_sz < cap
          then unit (cap - (used + d.early_warning_sz)) else 0) caps used).getD i 0) := by
      intro i
      by_cases hi : i < caps.length
      · have hi' : i < used.length := hlen ▸ hi
        rw [List.getD_eq_getElem _ _ hi, List.getD_eq_getElem _ _ hi',
          List.getD_eq_getElem _ _ (by rw [List.length_zipWith]; omega), List.getElem_zipWith]
        split
        · exact hbytes _
        · rfl
      · rw [List.getD_eq_default _ _ (Nat.not_lt.mp hi), if_neg (Nat.not_lt_zero _),
          List.getD_eq_default _ _ (by rw [List.length_zipWith]; omega)]
    refine ⟨?_, ?_⟩
    · rw [if_pos hload]
      simp only [VolumeStatistics.volume, Option.getD_some, volumeParams, hbytes]
      rfl
    · simp only [partitionParams, VolumeStatistics.partitions, hload, decide_true, Option.isSome_some,
        if_true, hfigure, hleft]
      rfl

/-- The page shows the figures. -/
theorem volumeStatisticsPage_statistics {page : List UInt8}
    (hmax : d.cart.mam.num_partitions ≤ MAX_PARTITIONS)
    (h : volumeStatisticsPage L capacity_unit d mem = some page) : ∃ pg,
    update_VolumeStatistics L capacity_unit d = some pg ∧
    page = pageHeader ++ Walk.cells (pg.volume.map LogParam.entry) ++
      (Walk.cells (pg.partitions.map (partitionEntry d.cart.mam.num_partitions)) ++
        List.replicate (44 * (MAX_PARTITIONS - d.cart.mam.num_partitions)) 0) := by
  obtain ⟨caps, tail, hcaps, rfl, -, htail⟩ := volumeStatisticsPage_laid h
  obtain ⟨pg, hpg⟩ : ∃ pg, update_VolumeStatistics L capacity_unit d = some pg := by
    unfold update_VolumeStatistics
    dsimp only
    rw [if_neg (Nat.not_lt_of_le hmax)]
    by_cases hload : d.load_status = TAPE_LOADED
    · rw [if_neg (not_not.mpr hload), hcaps hload]
      exact ⟨_, rfl⟩
    · rw [if_pos hload]
      exact ⟨_, rfl⟩
  obtain ⟨hvolume, hpartitions⟩ := shown_statistics hpg hcaps
  refine ⟨pg, hpg, ?_⟩
  rw [htail hmax, hvolume, hpartitions]

end Page

section Parsed

variable {d : Drive} {page tail : List UInt8} {params : List (Walk.Entry UInt8)}
variable {figures : ℕ → List ℕ} {total used : ℕ}

/-- Records take a byte more than they say. -/
theorem HoldsRecords.length {num length : ℕ} {numbers : List ℕ} {e : Walk.Entry UInt8}
    (h : HoldsRecords num length numbers e) : e.body.length = num * (length + 1) := by
  obtain ⟨records, hwalk, hlength, hnumbers, -⟩ := h
  obtain ⟨hsized, hcells⟩ := Walk.walk_iff.mp hwalk
  have hnum : records.length = num := by
    have hcount := congrArg List.length hnumbers
    rwa [List.length_map, List.length_range] at hcount
  have hall : records.map (fun r => (r.header ++ r.body).length) =
      records.map fun _ => length + 1 := by
    apply List.map_congr_left
    intro r hr
    rw [List.length_append, (hsized r hr).1, hlength r hr, Nat.add_comm]
  rw [← hcells, Walk.cells, List.length_flatMap, hall, List.map_const', List.sum_replicate_nat,
    hnum]

/-- The figures of a parameter are read off it. -/
theorem HoldsRecords.unique {num length num' length' : ℕ} {numbers numbers' : List ℕ}
    {e : Walk.Entry UInt8} (h : HoldsRecords num length numbers e)
    (h' : HoldsRecords num' length' numbers' e) : numbers = numbers' := by
  obtain ⟨records, hwalk, -, -, hnumbers⟩ := h
  obtain ⟨records', hwalk', -, -, hnumbers'⟩ := h'
  rw [← hnumbers, ← hnumbers', Option.some.inj (hwalk.symm.trans hwalk')]

/-- There is one parameter of each code. -/
theorem ParsedStatistics.unique (h : ParsedStatistics d page params figures)
    {e e' : Walk.Entry UInt8} (he : e ∈ params) (he' : e' ∈ params)
    (hcode : parameterCode e = parameterCode e') : e = e' :=
  List.inj_on_of_nodup_map (h.increasing.imp Nat.ne_of_lt) he he' hcode

/-- The first parameters are those of the volume. -/
theorem ParsedStatistics.split (h : ParsedStatistics d page params figures)
    (hpage : page = pageHeader ++ Walk.cells ((volumeParams total used).map LogParam.entry) ++ tail) :
    ∃ rest, params = (volumeParams total used).map LogParam.entry ++ rest ∧
      Walk.walk 3 lengthByte tail = some rest := by
  have hdrop : page.drop 4 =
      Walk.cells ((volumeParams total used).map LogParam.entry) ++ tail := by
    rw [hpage, List.append_assoc]
    exact List.drop_left' rfl
  have hwalk := h.walked
  rw [hdrop, Walk.walk_append (volumeParams_sized total used)] at hwalk
  obtain ⟨rest, hrest, hparams⟩ := Option.map_eq_some_iff.mp hwalk
  exact ⟨rest, hparams.symm, hrest⟩

/-- The page has no room for the records of more than `MAX_PARTITIONS` partitions. -/
theorem ParsedStatistics.few (h : ParsedStatistics d page params figures)
    (hpage : page = pageHeader ++ Walk.cells ((volumeParams total used).map LogParam.entry) ++ tail)
    (htail : tail.length = partitionRoom) : partitionCount d.cart.mam ≤ MAX_PARTITIONS := by
  obtain ⟨rest, rfl, hrest⟩ := h.split hpage
  have hsmall : ∀ n ∈ (volumeParams 0 0).map (·.code), n < 0x0200 := by decide
  -- a parameter of the partitions is behind those of the volume
  have hbehind : ∀ c ∈ partitionCodes, ∃ e ∈ rest, parameterCode e = c.1 ∧
      HoldsRecords (partitionCount d.cart.mam) c.2 (figures c.1) e := by
    intro c hc
    have hlarge : ∀ c ∈ partitionCodes, 0x0200 ≤ c.1 := by decide
    obtain ⟨e, he, hcode, hrecords⟩ := h.records c hc
    rcases List.mem_append.mp he with hfront | hbehind
    · have hmem := List.mem_map_of_mem (f := parameterCode) hfront
      rw [volumeParams_entries, hcode] at hmem
      have hless := hsmall _ hmem
      have hmore := hlarge c hc
      omega
    · exact ⟨e, hbehind, hcode, hrecords⟩
  obtain ⟨e₀, he₀, hc₀, hr₀⟩ := hbehind (0x0200, 9) (by decide)
  obtain ⟨e₁, he₁, hc₁, hr₁⟩ := hbehind (0x0201, 9) (by decide)
  obtain ⟨e₂, he₂, hc₂, hr₂⟩ := hbehind (0x0202, 7) (by decide)
  obtain ⟨e₃, he₃, hc₃, hr₃⟩ := hbehind (0x0203, 7) (by decide)
  obtain ⟨e₄, he₄, hc₄, hr₄⟩ := hbehind (0x0204, 7) (by decide)
  have hnodup : [e₀, e₁, e₂, e₃, e₄].Nodup := by
    apply List.Nodup.of_map parameterCode
    rw [List.map_cons, List.map_cons, List.map_cons, List.map_cons, List.map_cons, List.map_nil,
      hc₀, hc₁, hc₂, hc₃, hc₄]
    decide
  have hsub : [e₀, e₁, e₂, e₃, e₄] ⊆ rest := by
    simp only [List.cons_subset, he₀, he₁, he₂, he₃, he₄, List.nil_subset, and_self]
  obtain ⟨hsized, hcells⟩ := Walk.walk_iff.mp hrest
  have hle := Walk.cells_length_le hnodup hsub
  have hfour : ∀ e ∈ rest, e.header.length = 4 := fun e he => (hsized e he).1
  rw [hcells, htail, Walk.cells] at hle
  simp only [List.flatMap_cons, List.flatMap_nil, List.length_append, List.length_nil, hr₀.length,
    hr₁.length, hr₂.length, hr₃.length, hr₄.length, hfour _ he₀, hfour _ he₁, hfour _ he₂,
    hfour _ he₃, hfour _ he₄, partitionRoom] at hle
  rw [MAX_PARTITIONS]
  omega

/-- Zeros behind the parameters are parameters of code 0, which is too small. -/
theorem ParsedStatistics.no_zeros (h : ParsedStatistics d page params figures)
    (hpage : page = pageHeader ++ Walk.cells ((volumeParams total used).map LogParam.entry) ++ tail)
    {es : List (Walk.Entry UInt8)} {n : ℕ} (hes : ∀ e ∈ es, e.Sized 3 lengthByte)
    (hcode : ∃ e ∈ es, 0 < parameterCode e)
    (htail : tail = Walk.cells es ++ List.replicate n 0) :
    n = 0 ∧ params = (volumeParams total used).map LogParam.entry ++ es := by
  obtain ⟨rest, rfl, hrest⟩ := h.split hpage
  rw [htail, Walk.walk_append hes] at hrest
  obtain ⟨zeros, hzeros, rfl⟩ := Option.map_eq_some_iff.mp hrest
  obtain ⟨hsized, hcells⟩ := Walk.walk_iff.mp hzeros
  cases zeros with
  | nil =>
    have hlength := congrArg List.length hcells
    rw [List.length_replicate] at hlength
    exact ⟨hlength.symm, by rw [List.append_nil]⟩
  | cons z zeros =>
    exfalso
    obtain ⟨e, he, hpos⟩ := hcode
    have hall : ∀ b ∈ z.header, b = 0 := by
      intro b hb
      apply List.eq_of_mem_replicate (n := n)
      rw [← hcells, Walk.cells, List.flatMap_cons, List.append_assoc]
      exact List.mem_append_left _ hb
    have hheader : z.header = List.replicate 4 0 :=
      List.eq_replicate_iff.mpr ⟨(hsized z List.mem_cons_self).1, hall⟩
    have hzero : parameterCode z = 0 := by
      rw [parameterCode, hheader]
      rfl
    have hless : parameterCode e < parameterCode z := by
      have hinc := h.increasing
      rw [← List.append_assoc, List.map_append, List.pairwise_append] at hinc
      exact hinc.2.2 _ (List.mem_map_of_mem (List.mem_append_right _ he)) _
        (List.mem_map_of_mem List.mem_cons_self)
    omega

end Parsed

section Exact

variable {L : Libs} {d : Drive} {mem : ℕ → UInt8}

/-- Four bytes keep a number up to `2 ^ 32`. -/
theorem beNat_beBytes_four (n : ℕ) : beNat (beBytes 4 n) = n % 2 ^ 32 := by
  rw [beNat, beBytes, List.reverse_reverse, leNat_leBytes]
  rfl

/-- Figures of four partitions add up just when their sizes fit. -/
theorem addUpNearly_iff {k : ℕ} (hk : k ≤ 32) (g : ℕ → ℕ) :
    AddUpNearly ((List.range 4).map fun i => g i / 2 ^ k % 2 ^ 32)
      (((List.range 4).map g).sum % 2 ^ 64 / 2 ^ k % 2 ^ 32) ↔
      UnitsFit (2 ^ k) ((List.range 4).map g) := by
  have hpow : 2 ^ k * (2 ^ 32 * 2 ^ (32 - k)) = 2 ^ 64 := by
    rw [← Nat.pow_add, ← Nat.pow_add]
    congr 1
    omega
  have hunits := @Shares.cut_units_iff (2 ^ k) (Nat.two_pow_pos k) (2 ^ 32) (2 ^ (32 - k))
    ((List.range 4).map g) (by simp)
  rw [hpow] at hunits
  rw [UnitsFit, ← hunits, List.map_map, List.length_map, AddUpNearly, List.length_map]
  rfl

/-- The figures that are shown in the parameter of a code. -/
def shownFigures (ps : List PartitionParam) (c : ℕ) : List ℕ :=
  ((ps.find? fun p => p.code = c).map fun p =>
    (List.range MAX_PARTITIONS).map fun i => beNat (p.datum i)).getD []

/-- They are those of the parameter, when there is one of each code. -/
theorem shownFigures_eq {ps : List PartitionParam} (hnodup : (ps.map (·.code)).Nodup)
    {p : PartitionParam} (hp : p ∈ ps) : shownFigures ps p.code =
      (List.range MAX_PARTITIONS).map fun i => beNat (p.datum i) := by
  have hsome : (ps.find? fun q => q.code = p.code).isSome :=
    List.find?_isSome.mpr ⟨p, hp, decide_eq_true rfl⟩
  obtain ⟨q, hq⟩ := Option.isSome_iff_exists.mp hsome
  have hcode : q.code = p.code := by
    have hfound := List.find?_some hq
    exact of_decide_eq_true hfound
  have hqp : q = p := List.inj_on_of_nodup_map hnodup (List.mem_of_find?_eq_some hq) hp hcode
  rw [shownFigures, hq, hqp]
  rfl

/-- The volume has a parameter for its capacity and one for what is used. -/
theorem volumeParams_figures (total used : ℕ) :
    (∃ e ∈ (volumeParams total used).map LogParam.entry,
      parameterCode e = 0x0016 ∧ beNat e.body = total % 2 ^ 32) ∧
    ∃ e ∈ (volumeParams total used).map LogParam.entry,
      parameterCode e = 0x0017 ∧ beNat e.body = used % 2 ^ 32 := by
  have hmem : ∀ (c n : ℕ), (⟨c, 0x03, beBytes 4 n⟩ : LogParam) ∈ volumeParams total used →
      c < 65536 → ∃ e ∈ (volumeParams total used).map LogParam.entry,
        parameterCode e = c ∧ beNat e.body = n % 2 ^ 32 :=
    fun c n hp hc => ⟨_, List.mem_map_of_mem hp, LogParam.entry_code hc, beNat_beBytes_four n⟩
  refine ⟨hmem 0x0016 total ?_ (by decide), hmem 0x0017 used ?_ (by decide)⟩
  · simp only [volumeParams, List.mem_cons, true_or, or_true]
  · simp only [volumeParams, List.mem_cons, true_or, or_true]

section Full

variable {page : List UInt8} {total used : ℕ} {ps : List PartitionParam}

/-- A parameter is found by its code. -/
theorem exists_of_code (hcodes : ps.map (fun p => (p.code, p.size - 1)) = partitionCodes)
    {c : ℕ × ℕ} (hc : c ∈ partitionCodes) : ∃ p ∈ ps, p.code = c.1 ∧ p.size - 1 = c.2 := by
  rw [← hcodes] at hc
  obtain ⟨p, hp, rfl⟩ := List.mem_map.mp hc
  exact ⟨p, hp, rfl, rfl⟩

/-- There is one of each code. -/
theorem partitionCodes_nodup (hcodes : ps.map (fun p => (p.code, p.size - 1)) = partitionCodes) :
    (ps.map (·.code)).Nodup := by
  have hmap : ps.map (·.code) = partitionCodes.map (·.1) := by
    rw [← hcodes, List.map_map]
    rfl
  rw [hmap]
  decide

/-- Records of no more than `MAX_PARTITIONS` partitions fit the length bytes. -/
theorem partitionEntries_sized (hps : ∀ p ∈ ps, p.Fits)
    (hcodes : ps.map (fun p => (p.code, p.size - 1)) = partitionCodes) {num : ℕ}
    (hnum : num ≤ MAX_PARTITIONS) :
    ∀ e ∈ ps.map (partitionEntry num), e.Sized 3 lengthByte := by
  have hsmall : ∀ num ≤ MAX_PARTITIONS, ∀ c ∈ partitionCodes, num * (c.2 + 1) < 256 := by decide
  intro e he
  obtain ⟨p, hp, rfl⟩ := List.mem_map.mp he
  have hmem : (p.code, p.size - 1) ∈ partitionCodes := by
    rw [← hcodes]
    exact List.mem_map_of_mem hp
  have hheader := (hps p hp).header
  have hless := hsmall num hnum _ hmem
  rw [Nat.sub_add_cancel (by omega)] at hless
  exact partitionEntry_sized (hps p hp) hless

/-- A page with the records of `MAX_PARTITIONS` partitions can be walked. -/
theorem parsed_full (hnum : d.cart.mam.num_partitions = MAX_PARTITIONS) (hps : ∀ p ∈ ps, p.Fits)
    (hcodes : ps.map (fun p => (p.code, p.size - 1)) = partitionCodes)
    (hpage : page = pageHeader ++ Walk.cells ((volumeParams total used).map LogParam.entry) ++
      Walk.cells (ps.map (partitionEntry MAX_PARTITIONS)))
    (hcap : d.load_status = TAPE_LOADED → AddUpNearly (shownFigures ps 0x0202) (total % 2 ^ 32))
    (hused : d.load_status = TAPE_LOADED → AddUpNearly (shownFigures ps 0x0203) (used % 2 ^ 32)) :
    ParsedStatistics d page ((volumeParams total used).map LogParam.entry ++
      ps.map (partitionEntry MAX_PARTITIONS)) (shownFigures ps) := by
  have hsized : ∀ e ∈ ps.map (partitionEntry MAX_PARTITIONS), e.Sized 3 lengthByte :=
    partitionEntries_sized hps hcodes (Nat.le_refl _)
  have hentries : (ps.map (partitionEntry MAX_PARTITIONS)).map parameterCode =
      partitionCodes.map (·.1) := by
    rw [← hcodes, List.map_map, List.map_map]
    exact List.map_congr_left fun p hp => partitionEntry_code (hps p hp)
  have hlength : (Walk.cells (ps.map (partitionEntry MAX_PARTITIONS))).length = partitionRoom := by
    have hsum : (partitionCodes.map fun c => 4 + MAX_PARTITIONS * (c.2 + 1)).sum = partitionRoom := by
      decide
    rw [Walk.cells, List.length_flatMap, List.map_map, ← hsum, ← hcodes, List.map_map]
    apply congrArg List.sum
    apply List.map_congr_left
    intro p hp
    have hheader := (hps p hp).header
    have hbody := records_length (hps p hp) MAX_PARTITIONS
    change ((partitionEntry MAX_PARTITIONS p).header ++ (partitionEntry MAX_PARTITIONS p).body).length =
      4 + MAX_PARTITIONS * (p.size - 1 + 1)
    rw [List.length_append, Nat.sub_add_cancel (by omega)]
    exact congrArg (4 + ·) hbody
  obtain ⟨⟨e₁, he₁, hc₁, hb₁⟩, e₂, he₂, hc₂, hb₂⟩ := volumeParams_figures total used
  refine ⟨?_, ?_, ?_, ?_, fun hload => ?_, fun hload => ?_⟩
  · rw [hpage, List.length_append, List.length_append, volumeParams_room, hlength]
    rfl
  · have hdrop : page.drop 4 = Walk.cells ((volumeParams total used).map LogParam.entry) ++
        Walk.cells (ps.map (partitionEntry MAX_PARTITIONS)) := by
      rw [hpage, List.append_assoc]
      exact List.drop_left' rfl
    rw [hdrop, Walk.walk_append (volumeParams_sized total used), Walk.walk_cells hsized,
      Option.map_some]
  · rw [List.map_append, volumeParams_entries, hentries]
    decide
  · intro c hc
    obtain ⟨p, hp, hcode, hsize⟩ := exists_of_code hcodes hc
    refine ⟨partitionEntry MAX_PARTITIONS p, List.mem_append_right _ (List.mem_map_of_mem hp),
      (partitionEntry_code (hps p hp)).trans hcode, ?_⟩
    have hcount : partitionCount d.cart.mam = MAX_PARTITIONS := by
      rw [partitionCount, hnum]
      rfl
    rw [hcount, ← hcode, ← hsize, shownFigures_eq (partitionCodes_nodup hcodes) hp]
    exact partitionEntry_records (hps p hp) (by decide)
  · refine ⟨e₁, List.mem_append_left _ he₁, hc₁, ?_⟩
    rw [hb₁]
    exact hcap hload
  · refine ⟨e₂, List.mem_append_left _ he₂, hc₂, ?_⟩
    rw [hb₂]
    exact hused hload

/-- The figures that are read off such a page are those of the parameters. -/
theorem ParsedStatistics.shown {params : List (Walk.Entry UInt8)} {figures : ℕ → List ℕ}
    (h : ParsedStatistics d page params figures) (hps : ∀ p ∈ ps, p.Fits)
    (hcodes : ps.map (fun p => (p.code, p.size - 1)) = partitionCodes)
    (hparams : params = (volumeParams total used).map LogParam.entry ++
      ps.map (partitionEntry MAX_PARTITIONS)) {c : ℕ × ℕ} (hc : c ∈ partitionCodes) :
    figures c.1 = shownFigures ps c.1 := by
  obtain ⟨p, hp, hcode, -⟩ := exists_of_code hcodes hc
  obtain ⟨e, he, hecode, hrecords⟩ := h.records c hc
  have hmem : partitionEntry MAX_PARTITIONS p ∈ params := by
    rw [hparams]
    exact List.mem_append_right _ (List.mem_map_of_mem hp)
  have hentry : e = partitionEntry MAX_PARTITIONS p := by
    apply h.unique he hmem
    rw [hecode, partitionEntry_code (hps p hp), hcode]
  rw [hentry] at hrecords
  rw [← hcode, shownFigures_eq (partitionCodes_nodup hcodes) hp, hcode]
  exact hrecords.unique (partitionEntry_records (hps p hp) (by decide))

/-- The figures of the volume are those that were laid down. -/
theorem ParsedStatistics.figures_shown {params : List (Walk.Entry UInt8)} {figures : ℕ → List ℕ}
    (h : ParsedStatistics d page params figures) (hps : ∀ p ∈ ps, p.Fits)
    (hcodes : ps.map (fun p => (p.code, p.size - 1)) = partitionCodes)
    (hparams : params = (volumeParams total used).map LogParam.entry ++
      ps.map (partitionEntry MAX_PARTITIONS)) (hload : d.load_status = TAPE_LOADED) :
    AddUpNearly (shownFigures ps 0x0202) (total % 2 ^ 32) ∧
      AddUpNearly (shownFigures ps 0x0203) (used % 2 ^ 32) := by
  have hfront : ∀ e ∈ (volumeParams total used).map LogParam.entry, e ∈ params := by
    rw [hparams]
    exact fun e he => List.mem_append_left _ he
  obtain ⟨⟨e₁, he₁, hc₁, hb₁⟩, e₂, he₂, hc₂, hb₂⟩ := volumeParams_figures total used
  obtain ⟨e, he, hcode, hcap⟩ := h.capacity hload
  obtain ⟨e', he', hcode', hused⟩ := h.used hload
  obtain rfl := h.unique he (hfront e₁ he₁) (hcode.trans hc₁.symm)
  obtain rfl := h.unique he' (hfront e₂ he₂) (hcode'.trans hc₂.symm)
  have hcaps := @ParsedStatistics.shown d page total used ps params figures h hps hcodes hparams
    (0x0202, 7) (by decide)
  have huses := @ParsedStatistics.shown d page total used ps params figures h hps hcodes hparams
    (0x0203, 7) (by decide)
  dsimp only at hcaps huses
  rw [hcaps, hb₁] at hcap
  rw [huses, hb₂] at hused
  exact ⟨hcap, hused⟩

end Full

/-- A list is read by its indices. -/
theorem map_getD_range (l : List ℕ) : (List.range l.length).map (l.getD · 0) = l := by
  apply List.ext_getElem
  · rw [List.length_map, List.length_range]
  · intro i hi hi'
    rw [List.getElem_map, List.getElem_range, List.getD_eq_getElem _ _ hi']

/-- What the page says of a loaded cartridge with `MAX_PARTITIONS` partitions adds up just when its
sizes fit. -/
theorem shown_adds_up {k : ℕ} (hk : k ≤ 32) {caps : List ℕ} (hcaps : caps.length = MAX_PARTITIONS)
    (hnum : d.cart.mam.num_partitions = MAX_PARTITIONS) (hload : d.load_status = TAPE_LOADED) :
    (AddUpNearly (shownFigures (partitionsShown (2 ^ k) d caps) 0x0202)
        (caps.sum % 2 ^ 64 / 2 ^ k % 2 ^ 32) ↔ UnitsFit (2 ^ k) caps) ∧
    (AddUpNearly (shownFigures (partitionsShown (2 ^ k) d caps) 0x0203)
        (((List.range MAX_PARTITIONS).map (partition_data_offset d.cart)).sum % 2 ^ 64 / 2 ^ k %
          2 ^ 32) ↔
      UnitsFit (2 ^ k) ((List.range MAX_PARTITIONS).map (partition_data_offset d.cart))) := by
  have hread : ∀ l : List ℕ, l.length = MAX_PARTITIONS →
      (List.range 4).map (fun i => l.getD i 0) = l := by
    intro l hl
    have hrange := map_getD_range l
    rwa [hl] at hrange
  have hshown : ∀ l : List ℕ, (List.range MAX_PARTITIONS).map
      (fun i => beNat (beBytes 4 (l.getD i 0 / 2 ^ k))) =
      (List.range 4).map fun i => l.getD i 0 / 2 ^ k % 2 ^ 32 :=
    fun l => List.map_congr_left fun i _ => beNat_beBytes_four _
  have hfigures : ∀ l : List ℕ, l.length = MAX_PARTITIONS →
      (AddUpNearly ((List.range MAX_PARTITIONS).map fun i => beNat (beBytes 4 (l.getD i 0 / 2 ^ k)))
        (l.sum % 2 ^ 64 / 2 ^ k % 2 ^ 32) ↔ UnitsFit (2 ^ k) l) := by
    intro l hl
    have hadd := addUpNearly_iff hk (l.getD · 0)
    rw [hread l hl] at hadd
    rw [hshown]
    exact hadd
  have hcap : shownFigures (partitionsShown (2 ^ k) d caps) 0x0202 = (List.range MAX_PARTITIONS).map
      fun i => beNat (beBytes 4 (caps.getD i 0 / 2 ^ k)) := by
    rw [partitionsShown, hload]
    rfl
  have hused : shownFigures (partitionsShown (2 ^ k) d caps) 0x0203 = (List.range MAX_PARTITIONS).map
      fun i => beNat (beBytes 4 (((List.range MAX_PARTITIONS).map
        (partition_data_offset d.cart)).getD i 0 / 2 ^ k)) := by
    rw [partitionsShown, hnum]
    rfl
  rw [hcap, hused]
  exact ⟨hfigures caps hcaps, hfigures _ (by rw [List.length_map, List.length_range])⟩

/-- The capacities are defined as long as the page has room. -/
theorem capacity_defined (hnum : d.cart.mam.num_partitions ≤ MAX_PARTITIONS) (p : ℕ) :
    ∃ size, medium_partition_capacity L d p = some size := by
  have hcount : partitionCount d.cart.mam ≤ MAX_PARTITIONS := by
    rw [partitionCount]
    split
    · decide
    · exact hnum
  rw [medium_partition_capacity]
  split
  · exact ⟨_, rfl⟩
  · exact from_mode_page_defined hcount p

/-- So are those of several partitions. -/
theorem capacities_defined (hnum : d.cart.mam.num_partitions ≤ MAX_PARTITIONS) :
    ∃ g : ℕ → ℕ, ∀ n, (List.range n).mapM (medium_partition_capacity L d) =
      some ((List.range n).map g) := by
  choose g hg using capacity_defined (L := L) hnum
  exact ⟨g, fun n => mapM_some fun p _ => hg p⟩

/-- Then the page is sent. -/
theorem page_sent {capacity_unit : ℕ} (hnum : d.cart.mam.num_partitions ≤ MAX_PARTITIONS) :
    ∃ page, volumeStatisticsPage L capacity_unit d mem = some page := by
  obtain ⟨g, hg⟩ := capacities_defined (L := L) hnum
  rw [volumeStatisticsPage, hg]
  dsimp only
  split
  · exact ⟨_, rfl⟩
  · exact ⟨_, rfl⟩

/-- A page parses exactly just when the volume has all partitions that the page has room for, and
when it is loaded, capacities and uses stay inside 32 bits. -/
theorem page_parses_iff {k : ℕ} (hk : k ≤ 32) {page : List UInt8}
    (h : volumeStatisticsPage L (2 ^ k) d mem = some page) :
    ParsesExactly d page ↔ StatisticsFit L (2 ^ k) d := by
  obtain ⟨caps, tail, hcaps, hpage, hroom, htail⟩ := volumeStatisticsPage_laid h
  have hfit : ∀ p ∈ partitionsShown (2 ^ k) d caps, p.Fits := partitionParams_fit _ _ _ _ _
  obtain ⟨total, used, hvolume, htotals⟩ := volumeShown_eq (2 ^ k) d caps
  rw [hvolume] at hpage
  have hadds : d.cart.mam.num_partitions = MAX_PARTITIONS → d.load_status = TAPE_LOADED →
      (AddUpNearly (shownFigures (partitionsShown (2 ^ k) d caps) 0x0202) (total % 2 ^ 32) ↔
        UnitsFit (2 ^ k) caps) ∧
      (AddUpNearly (shownFigures (partitionsShown (2 ^ k) d caps) 0x0203) (used % 2 ^ 32) ↔
        UnitsFit (2 ^ k) ((List.range MAX_PARTITIONS).map (partition_data_offset d.cart))) := by
    intro hnum hload
    have hlength : caps.length = MAX_PARTITIONS := by
      obtain ⟨g, hg⟩ := capacities_defined (L := L) hnum.le
      rw [← Option.some.inj ((hg _).symm.trans (hcaps hload)), List.length_map, List.length_range,
        hnum]
    obtain ⟨rfl, rfl⟩ := htotals hload
    rw [hnum]
    exact shown_adds_up hk hlength hnum hload
  rw [StatisticsFit]
  constructor
  · rintro ⟨params, figures, hparsed⟩
    have hfew : d.cart.mam.num_partitions ≤ MAX_PARTITIONS := by
      have hcount := hparsed.few hpage hroom
      rw [partitionCount] at hcount
      split at hcount
      · omega
      · exact hcount
    have hsized : ∀ e ∈ (partitionsShown (2 ^ k) d caps).map
        (partitionEntry d.cart.mam.num_partitions), e.Sized 3 lengthByte :=
      partitionEntries_sized hfit rfl hfew
    have hcode : ∃ e ∈ (partitionsShown (2 ^ k) d caps).map
        (partitionEntry d.cart.mam.num_partitions), 0 < parameterCode e := by
      obtain ⟨p, hp, hcode, -⟩ := @exists_of_code (partitionsShown (2 ^ k) d caps) rfl (0x0202, 7)
        (by decide)
      refine ⟨_, List.mem_map_of_mem hp, ?_⟩
      rw [partitionEntry_code (hfit p hp), hcode]
      decide
    obtain ⟨hzero, hparams⟩ := hparsed.no_zeros hpage hsized hcode (htail hfew)
    have hnum : d.cart.mam.num_partitions = MAX_PARTITIONS := by omega
    rw [hnum] at hparams
    refine ⟨hnum, fun hload => ?_⟩
    obtain ⟨hcap, hused⟩ := hparsed.figures_shown hfit rfl hparams hload
    obtain ⟨hcap', hused'⟩ := hadds hnum hload
    refine ⟨fun caps' hcaps' => ?_, hused'.mp hused⟩
    have hsame := hcaps hload
    rw [hnum, hcaps', Option.some_inj] at hsame
    rw [hsame]
    exact hcap'.mp hcap
  · rintro ⟨hnum, hloaded⟩
    have hall := htail hnum.le
    rw [hnum, Nat.sub_self, Nat.mul_zero, List.replicate_zero, List.append_nil] at hall
    rw [hall] at hpage
    refine ⟨_, _, parsed_full hnum hfit rfl hpage (fun hload => ?_) fun hload => ?_⟩
    · exact (hadds hnum hload).1.mpr ((hloaded hload).1 caps (hnum ▸ hcaps hload))
    · exact (hadds hnum hload).2.mpr (hloaded hload).2

/-- The page of the volume statistics parses exactly just when the volume has all partitions that
the page has room for, and when it is loaded, capacities and uses stay inside 32 bits. -/
theorem volume_statistics_iff (L : Libs) (d : Drive) (mem : ℕ → UInt8) {k : ℕ} (hk : k ≤ 32) :
    (∃ page, volumeStatisticsPage L (2 ^ k) d mem = some page ∧ ParsesExactly d page) ↔
      StatisticsFit L (2 ^ k) d := by
  constructor
  · rintro ⟨page, hpage, hparses⟩
    exact (page_parses_iff hk hpage).mp hparses
  · intro hfit
    obtain ⟨page, hpage⟩ := @page_sent L d mem (2 ^ k) hfit.1.le
    exact ⟨page, hpage, (page_parses_iff hk hpage).mpr hfit⟩

/-- A loaded cartridge with some number of partitions. -/
def countedDrive (num : UInt8) : Drive := partitionedDrive 1024 num (partitionPage 0 tightSizes)

/-- Four partitions of a small cartridge, in units of a byte. -/
theorem volume_statistics_fourPartitions : ∃ page,
    volumeStatisticsPage storedLibs (2 ^ 0) (countedDrive 4) (fun _ => 0) = some page ∧
      ParsesExactly (countedDrive 4) page := by
  apply (volume_statistics_iff storedLibs (countedDrive 4) (fun _ => 0) (Nat.zero_le 32)).mpr
  have hcaps : (List.range MAX_PARTITIONS).mapM (medium_partition_capacity storedLibs
      (countedDrive 4)) = some [100, 100, 724, 100] := by decide +kernel
  refine ⟨by decide +kernel, fun _ => ⟨fun caps h => ?_, ?_⟩⟩
  · obtain rfl := Option.some.inj (hcaps.symm.trans h)
    rw [UnitsFit]
    decide
  · rw [UnitsFit]
    decide +kernel

/-- With a single partition, zeros stand behind its records on the page. -/
theorem volume_statistics_zeros : ∃ page front,
    volumeStatisticsPage storedLibs (2 ^ 0) (countedDrive 1) (fun _ => 0) = some page ∧
      page = front ++ List.replicate 132 0 ∧ ¬ParsesExactly (countedDrive 1) page := by
  have hnum : (countedDrive 1).cart.mam.num_partitions = 1 := by decide +kernel
  obtain ⟨page, hpage⟩ := @page_sent storedLibs (countedDrive 1) (fun _ => 0) (2 ^ 0)
    (by rw [hnum]; decide)
  obtain ⟨caps, tail, -, hlaid, -, htail⟩ := volumeStatisticsPage_laid hpage
  have hzeros := htail (by rw [hnum]; decide)
  rw [hnum] at hzeros
  rw [hzeros, ← List.append_assoc] at hlaid
  refine ⟨page, _, hpage, hlaid, fun hparses => ?_⟩
  have hfull := ((page_parses_iff (Nat.zero_le 32) hpage).mp hparses).1
  rw [hnum] at hfull
  exact absurd hfull (by decide)

end Exact

end Mhvtl.Ssc
