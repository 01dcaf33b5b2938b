import Mhvtl.Ssc.Commands

/-!
# Attribute commands and the log pages of a volume

READ ATTRIBUTE, WRITE ATTRIBUTE, and the two log pages that describe the
partitions of the volume. A value that belongs to one partition is found by the
number in the command block.
-/

namespace Mhvtl.Ssc

open Bytes Cart

/-- Identifier of the attribute for the volume coherency information. -/
def VOLUME_COHERENCY : ℕ := 0x80c
/-- Identifier of the attribute for the medium type. -/
def MEDIUM_TYPE : ℕ := 0x408

/-- How the value of an attribute is to be read: 0 for a number, 1 for ASCII, 2 for text. -/
def attrFormat : MamField → UInt8
  | .AssigningOrganization_1 | .DevMakeSerialLastLoad | .DevMakeSerialLastLoad1
  | .DevMakeSerialLastLoad2 | .DevMakeSerialLastLoad3 | .MediumManufacturer | .MediumSerialNumber
  | .AssigningOrganization_2 | .MediumManufactureDate | .ApplicationVendor | .ApplicationName
  | .ApplicationVersion | .DateTimeLastWritten | .Barcode | .ApplicationFormatVersion => 1
  | .UserMediumTextLabel | .OwningHostTextualName | .MediaPool => 2
  | _ => 0

/-- The field where an attribute is kept for a partition. -/
def attrField (a : MamAttr) (partition : ℕ) : MamField :=
  if a.attribute_id = VOLUME_COHERENCY then
    match partition with
    | 1 => .VolumeCoherencyInformation1
    | 2 => .VolumeCoherencyInformation2
    | 3 => .VolumeCoherencyInformation3
    | _ => a.field
  else a.field

/-- Bytes written in a partition, 0 where the arrays end. -/
def partition_data_offset (c : Store) (p : ℕ) : ℕ :=
  if p < MAX_PARTITIONS then c.eod_data_offset p else 0

/-- Value of an attribute for a partition. The two capacities are in units of 2^20 bytes. -/
def mam_attr_value (L : Libs) (d : Drive) (a : MamAttr) (partition : ℕ) : Option (List UInt8) :=
  if a.attribute_id = 0x000 then
    (medium_partition_capacity L d partition).map fun cap =>
      beBytes 8 (if partition_data_offset d.cart partition < cap then
        (cap - partition_data_offset d.cart partition) / 2 ^ 20 else 0)
  else if a.attribute_id = 0x001 then
    (medium_partition_capacity L d partition).map fun cap => beBytes 8 (cap / 2 ^ 20)
  else some (d.cart.mam.bytes (attrField a partition))

/-- Identifier, format and length of an attribute. -/
def attrHeader (a : MamAttr) : List UInt8 :=
  beBytes 2 a.attribute_id ++ [(if a.read_only then 0x80 else 0) ||| attrFormat a.field] ++
    beBytes 2 a.field.length

/-- The values of some attributes as far as they fit, behind `ret_val` bytes; the length
counts those that do not. -/
def attributeValues (L : Libs) (d : Drive) (partition alloc_len : ℕ) :
    List MamAttr → ℕ → Option (ℕ × List UInt8)
  | [], ret_val => some (ret_val, [])
  | a :: l, ret_val =>
    let ret_val := ret_val + a.field.length + 5
    if ret_val ≤ alloc_len then
      match mam_attr_value L d a partition with
      | none => none
      | some value => (attributeValues L d partition alloc_len l ret_val).map fun r =>
          (r.1, attrHeader a ++ value ++ r.2)
    else attributeValues L d partition alloc_len l ret_val

/-- The identifiers of the attributes as far as they fit. -/
def attributeList (alloc_len : ℕ) : List MamAttr → ℕ → ℕ × List UInt8
  | [], ret_val => (ret_val, [])
  | a :: l, ret_val =>
    let r := attributeList alloc_len l (ret_val + 2)
    (r.1, if ret_val + 2 ≤ alloc_len then beBytes 2 a.attribute_id ++ r.2 else r.2)

/-- What a command sends: how many bytes it says, the bytes, and the drive after it. -/
structure Answer where
  /-- Size of the transfer. -/
  sz : ℕ
  /-- Contents of the buffer. -/
  buf : List UInt8
  /-- The drive. -/
  drive : Drive

/-- An answer without data. -/
def Drive.answer (d : Drive) : Answer := ⟨0, [], d⟩

/-- READ ATTRIBUTE of values, from the attribute asked for on, or of the list. Behind an
identifier that is not there the status is sent for a size. `none`: the daemon does not survive. -/
def resp_read_attribute (L : Libs) (d : Drive) (cdb : Cdb) : Option Answer :=
  let attrib := beNat (bytesAt cdb 8 2)
  let alloc_len := beNat (bytesAt cdb 10 4)
  let send := fun r : ℕ × List UInt8 => (⟨r.1, beBytes 4 (r.1 - 4) ++ r.2, d⟩ : Answer)
  -- the buffer is cleared for the length as an `int`: one below zero clears all memory behind it
  if 2 ^ 31 ≤ alloc_len then none
  else if cdb 1 = 0 then
    match mamAttributes.dropWhile fun a => a.attribute_id != attrib with
    | [] => some ⟨SAM_STAT_CHECK_CONDITION, [],
        d.report (sam_illegal_request E_INVALID_FIELD_IN_CDB (some ⟨SKSV ||| CD, 8⟩))⟩
    | l => (attributeValues L d (cdb 7).toNat alloc_len l 4).map send
  else some (send (attributeList alloc_len mamAttributes 4))

/-- READ ATTRIBUTE. -/
def ssc_read_attributes (L : Libs) (d : Drive) (cdb : Cdb) : Option Answer :=
  let d := d.declare_ssc_vars
  let service_action := cdb 1 &&& 0x1f
  if d.load_status = TAPE_UNLOADED then
    some (d.report (sam_not_ready E_MEDIUM_NOT_PRESENT)).answer
  else if d.load_status ≠ TAPE_LOADED then
    some (d.report (sam_not_ready E_MEDIUM_FMT_CORRUPT)).answer
  else if d.cart.mam.num_partitions < (cdb 7).toNat then
    some (d.report (sam_illegal_request E_INVALID_FIELD_IN_CDB none)).answer
  else if service_action = 0 ∨ service_action = 1 then resp_read_attribute L d cdb
  else if service_action = 3 then
    -- the size is taken from the first byte, which is zero
    some ⟨0, [0, 0, UInt8.ofNat d.cart.mam.num_partitions], d⟩
  else
    some (d.report (sam_illegal_request E_INVALID_FIELD_IN_CDB (some ⟨SKSV ||| CD, 1⟩))).answer

/-- One attribute of the list, its value at `value`; nothing for one that is not to be written. -/
def takeAttribute (m : Mam) (partition : ℕ) (a : MamAttr) (value : ℕ → UInt8) (len : ℕ) :
    Option Mam :=
  if a.attribute_id = MEDIUM_TYPE ∧ len = 1 ∧ value 0 = 0x80 then
    some (m.putByte .MediumType MEDIA_TYPE_WORM)
  else if a.read_only then none
  else some (m.put (attrField a partition) (bytesAt value 0 (min a.field.length len)))

/-- The attributes of the list from place `i` on: the new ones, or the field at fault. -/
def takeAttributes (partition alloc_len : ℕ) (buf : ℕ → UInt8) (i : ℕ) (m : Mam) : Mam ⊕ ℕ :=
  if alloc_len ≤ i then .inl m else
  match mamAttributes.find? fun a => a.attribute_id == beNat (bytesAt buf i 2) with
  | none => .inr (mamAttributes.length - 1)
  | some a =>
    let attribute_length := beNat (bytesAt buf (i + 3) 2)
    match takeAttribute m partition a (fun j => buf (i + 5 + j)) attribute_length with
    | none => .inr i
    | some m => takeAttributes partition alloc_len buf (i + 5 + attribute_length) m
termination_by alloc_len - i
decreasing_by omega

/-- WRITE ATTRIBUTE behind its checks. A refused list leaves the attributes as they were.
`found` is what the variable holds that is never set when the list is empty. -/
def resp_write_attribute (d : Drive) (cdb : Cdb) (buf : ℕ → UInt8) (found : Bool) : Drive :=
  let alloc_len := beNat (bytesAt cdb 10 4)
  match takeAttributes (cdb 7).toNat alloc_len buf 4 d.cart.mam with
  | .inr field_pointer =>
    d.report (sam_illegal_request E_INVALID_FIELD_IN_PARMS (some ⟨SKSV, field_pointer⟩))
  | .inl m =>
    let d := d.setMam fun _ => m
    if alloc_len ≤ 4 ∧ !found then d else d.onCart fun c => c.rewriteMAM.2

/-- WRITE ATTRIBUTE. The status is good even when the sense data says otherwise. -/
def ssc_write_attributes (d : Drive) (cdb : Cdb) (buf : ℕ → UInt8) (found : Bool) : Drive :=
  let d := d.declare_ssc_vars
  if d.load_status = TAPE_UNLOADED then d.report (sam_not_ready E_MEDIUM_NOT_PRESENT)
  else if d.load_status ≠ TAPE_LOADED then d.report (sam_not_ready E_MEDIUM_FMT_CORRUPT)
  else (resp_write_attribute d cdb buf found).returns SAM_STAT_GOOD

/-- Log page of the pages there are. -/
def SUPPORTED_LOG_PAGES : UInt8 := 0x00
/-- Log page of the volume statistics. -/
def VOLUME_STATISTICS : UInt8 := 0x17
/-- Log page of the tape capacity. -/
def TAPE_CAPACITY : UInt8 := 0x31

/-- The log pages that say nothing of partitions. -/
def plainLogPages : List UInt8 :=
  [0x00, 0x02, 0x03, 0x0c, 0x0d, 0x10, 0x11, 0x2e, 0x30, 0x32, 0x37]

/-- What the volume statistics page says of the partitions, one entry each. -/
structure VolumeStatistics where
  /-- Capacity and use of the whole volume; what was there before when nothing is loaded. -/
  TotalNativeCapacity : Option (ℕ × ℕ)
  /-- Capacity. -/
  ApproxNativeCapacityPartition : List ℕ
  /-- Bytes written. -/
  ApproxUsedNativeCapacityPartition : List ℕ
  /-- What is left in front of the early warning. -/
  RemainingCapacityToEWPartition : List ℕ

/-- Fills in the volume statistics. The page has room for `MAX_PARTITIONS` entries. -/
def update_VolumeStatistics (L : Libs) (capacity_unit : ℕ) (d : Drive) : Option VolumeStatistics :=
  let num := d.cart.mam.num_partitions
  let unit := fun n => n / capacity_unit % 2 ^ 32
  let used := (List.range num).map (partition_data_offset d.cart)
  if MAX_PARTITIONS < num then none
  else if d.load_status ≠ TAPE_LOADED then
    some ⟨none, List.replicate num 0, used.map unit, List.replicate num 0⟩
  else ((List.range num).mapM (medium_partition_capacity L d)).map fun caps =>
    { TotalNativeCapacity := some (unit (caps.sum % 2 ^ 64), unit (used.sum % 2 ^ 64))
      ApproxNativeCapacityPartition := caps.map unit
      ApproxUsedNativeCapacityPartition := used.map unit
      RemainingCapacityToEWPartition := List.zipWith (fun cap used =>
        if used + d.early_warning_sz < cap then unit (cap - (used + d.early_warning_sz)) else 0)
        caps used }

/-- Maximum and remaining capacity of the first two partitions. -/
structure TapeCapacity where
  /-- What is left of partition 0 and of partition 1. -/
  remaining : ℕ × ℕ
  /-- The size of either. -/
  maximum : ℕ × ℕ

/-- Fills in the tape capacity. -/
def update_TapeCapacity (L : Libs) (capacity_unit : ℕ) (d : Drive) : Option TapeCapacity :=
  if d.load_status ≠ TAPE_LOADED then some ⟨(0, 0), (0, 0)⟩ else
  let units := fun n => n / capacity_unit % 2 ^ 32
  let remaining := fun cap p =>
    if cap ≤ partition_data_offset d.cart p then 0 else units (cap - partition_data_offset d.cart p)
  match medium_partition_capacity L d 0, medium_partition_capacity L d 1 with
  | some cap0, some cap1 => some ⟨(remaining cap0 0, remaining cap1 1), (units cap0, units cap1)⟩
  | _, _ => none

/-- What LOG SENSE sends. -/
inductive LogPage where
  /-- A page that says nothing of partitions. -/
  | plain (page : UInt8)
  /-- The volume statistics. -/
  | volumeStatistics (pg : VolumeStatistics)
  /-- The tape capacity. -/
  | tapeCapacity (pg : TapeCapacity)
  /-- The page is not there. -/
  | notFound

/-- LOG SENSE, for a drive with the given pages and unit of capacity. -/
def ssc_log_sense (L : Libs) (log_pg : List UInt8) (capacity_unit : ℕ) (d : Drive) (cdb : Cdb) :
    Option (LogPage × Drive) :=
  let d := d.declare_ssc_vars
  let page := cdb 2 &&& 0x3f
  if page ≠ SUPPORTED_LOG_PAGES ∧ page ∉ log_pg ∨
      page ∉ plainLogPages ∧ page ≠ VOLUME_STATISTICS ∧ page ≠ TAPE_CAPACITY then
    some (.notFound,
      d.report (sam_illegal_request E_INVALID_FIELD_IN_CDB (some ⟨SKSV ||| CD, 2⟩)))
  else if page = VOLUME_STATISTICS then
    (update_VolumeStatistics L capacity_unit d).map fun pg => (.volumeStatistics pg, d)
  else if page = TAPE_CAPACITY then
    (update_TapeCapacity L capacity_unit d).map fun pg => (.tapeCapacity pg, d)
  else some (.plain page, d)

end Mhvtl.Ssc
