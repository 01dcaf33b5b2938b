import Mathlib.Data.List.GetD
import Mhvtl.Lib.Codec

/-!
# Medium auxiliary memory

The attributes of a cartridge, as the fields of `struct MAM` with the two
tables that `init_mam` points at them, and the type-length-value files they are
read from and written to.
-/

namespace Mhvtl

open Bytes

/-- The fields of `struct MAM` that an attribute table reaches. -/
inductive MamField where
  | remaining_capacity | max_capacity | TapeAlert | LoadCount | MAMSpaceRemaining
  | AssigningOrganization_1 | FormattedDensityCode | InitializationCount | VolumeChangeReference
  | DevMakeSerialLastLoad | DevMakeSerialLastLoad1 | DevMakeSerialLastLoad2
  | DevMakeSerialLastLoad3 | WrittenInMediumLife | ReadInMediumLife | WrittenInLastLoad
  | ReadInLastLoad | MediumManufacturer | MediumSerialNumber | MediumLength | MediumWidth
  | AssigningOrganization_2 | MediumDensityCode | MediumManufactureDate | MAMCapacity | MediumType
  | MediumTypeInformation | ApplicationVendor | ApplicationName | ApplicationVersion
  | UserMediumTextLabel | DateTimeLastWritten | LocalizationIdentifier | Barcode
  | OwningHostTextualName | MediaPool | ApplicationFormatVersion | VolumeCoherencyInformation0
  | VolumeLock | record_dirty | Flags | max_partitions | num_partitions | MediaType
  | VolumeCoherencyInformation1 | VolumeCoherencyInformation2 | VolumeCoherencyInformation3
  | partition_capacity0 | partition_capacity1 | partition_capacity2 | partition_capacity3
  | media_info_bits_per_mm | media_info_tracks | media_info_density_name | media_info_description
deriving DecidableEq

/-- Size of a field in bytes. -/
def MamField.length : MamField → ℕ
  | .FormattedDensityCode | .MediumDensityCode | .MediumType | .LocalizationIdentifier
  | .VolumeLock | .record_dirty | .max_partitions | .num_partitions | .MediaType => 1
  | .InitializationCount | .MediumTypeInformation | .Flags | .media_info_tracks => 2
  | .VolumeChangeReference | .MediumLength | .MediumWidth | .media_info_bits_per_mm => 4
  | .MediumManufactureDate | .DateTimeLastWritten => 12
  | .ApplicationFormatVersion => 16
  | .MediumSerialNumber | .ApplicationName | .Barcode | .media_info_description => 32
  | .DevMakeSerialLastLoad | .DevMakeSerialLastLoad1 | .DevMakeSerialLastLoad2
  | .DevMakeSerialLastLoad3 => 40
  | .VolumeCoherencyInformation0 | .VolumeCoherencyInformation1
  | .VolumeCoherencyInformation2 | .VolumeCoherencyInformation3 => 70
  | .OwningHostTextualName => 80
  | .UserMediumTextLabel | .MediaPool => 160
  | _ => 8

/-- `struct MAM_attr`, the value pointer replaced by the field. -/
structure MamAttr where
  /-- Attribute identifier. -/
  attribute_id : ℕ
  /-- Field the attribute is kept in. -/
  field : MamField
  /-- Not to be written by an initiator. -/
  read_only : Bool

/-- `mam.attributes` as `init_mam` sets it up. -/
def mamAttributes : List MamAttr :=
  [⟨0x000, .remaining_capacity, true⟩, ⟨0x001, .max_capacity, true⟩, ⟨0x002, .TapeAlert, true⟩,
   ⟨0x003, .LoadCount, true⟩, ⟨0x004, .MAMSpaceRemaining, true⟩,
   ⟨0x005, .AssigningOrganization_1, true⟩, ⟨0x006, .FormattedDensityCode, true⟩,
   ⟨0x007, .InitializationCount, true⟩, ⟨0x009, .VolumeChangeReference, true⟩,
   ⟨0x20a, .DevMakeSerialLastLoad, true⟩, ⟨0x20b, .DevMakeSerialLastLoad1, true⟩,
   ⟨0x20c, .DevMakeSerialLastLoad2, true⟩, ⟨0x20d, .DevMakeSerialLastLoad3, true⟩,
   ⟨0x220, .WrittenInMediumLife, true⟩, ⟨0x221, .ReadInMediumLife, true⟩,
   ⟨0x222, .WrittenInLastLoad, true⟩, ⟨0x223, .ReadInLastLoad, true⟩,
   ⟨0x400, .MediumManufacturer, true⟩, ⟨0x401, .MediumSerialNumber, true⟩,
   ⟨0x402, .MediumLength, true⟩, ⟨0x403, .MediumWidth, true⟩,
   ⟨0x404, .AssigningOrganization_2, true⟩, ⟨0x405, .MediumDensityCode, true⟩,
   ⟨0x406, .MediumManufactureDate, true⟩, ⟨0x407, .MAMCapacity, true⟩, ⟨0x408, .MediumType, false⟩,
   ⟨0x409, .MediumTypeInformation, true⟩, ⟨0x800, .ApplicationVendor, false⟩,
   ⟨0x801, .ApplicationName, false⟩, ⟨0x802, .ApplicationVersion, false⟩,
   ⟨0x803, .UserMediumTextLabel, false⟩, ⟨0x804, .DateTimeLastWritten, false⟩,
   ⟨0x805, .LocalizationIdentifier, false⟩, ⟨0x806, .Barcode, false⟩,
   ⟨0x807, .OwningHostTextualName, false⟩, ⟨0x808, .MediaPool, false⟩,
   ⟨0x80b, .ApplicationFormatVersion, false⟩, ⟨0x80c, .VolumeCoherencyInformation0, false⟩,
   ⟨0x1623, .VolumeLock, false⟩]

/-- `mam.mhvtl_attr` as `init_mam` sets it up. -/
def mhvtlAttributes : List MamAttr :=
  [⟨0x01, .record_dirty, false⟩, ⟨0x02, .Flags, false⟩, ⟨0x03, .max_partitions, false⟩,
   ⟨0x04, .num_partitions, false⟩, ⟨0x05, .MediaType, false⟩,
   ⟨0x0a, .VolumeCoherencyInformation1, false⟩, ⟨0x0b, .VolumeCoherencyInformation2, false⟩,
   ⟨0x0c, .VolumeCoherencyInformation3, false⟩, ⟨0x0d, .partition_capacity0, false⟩,
   ⟨0x0e, .partition_capacity1, false⟩, ⟨0x0f, .partition_capacity2, false⟩,
   ⟨0x10, .partition_capacity3, false⟩, ⟨0x06, .media_info_bits_per_mm, false⟩,
   ⟨0x07, .media_info_tracks, false⟩, ⟨0x08, .media_info_density_name, false⟩,
   ⟨0x09, .media_info_description, false⟩]

/-- Media types of `mam.MediumType`. -/
def MEDIA_TYPE_DATA : UInt8 := 0
/-- Write once. -/
def MEDIA_TYPE_WORM : UInt8 := 1
/-- Data is not kept. -/
def MEDIA_TYPE_NULL : UInt8 := 2
/-- Cleaning cartridge. -/
def MEDIA_TYPE_CLEAN : UInt8 := 6

/-- Version of the attribute format. -/
def MAM_VERSION : ℕ := 4
/-- Version of the cartridge format. -/
def TAPE_FMT_VERSION : ℕ := 6

/-- `struct MAM`: the two versions and the bytes of every field. -/
structure Mam where
  /-- Version of the cartridge format. -/
  tape_fmt_version : ℕ
  /-- Version of the attribute format. -/
  mam_fmt_version : ℕ
  /-- Bytes of each field, exactly as many as the field holds. -/
  val : (f : MamField) → Fin f.length → UInt8

namespace Mam

/-- Bytes of a field. -/
def bytes (m : Mam) (f : MamField) : List UInt8 := List.ofFn (m.val f)

/-- Copy bytes over the front of a field; the rest of the field stays. -/
def put (m : Mam) (f : MamField) (bs : List UInt8) : Mam :=
  { m with val := fun g i => if g = f then bs.getD i (m.val g i) else m.val g i }

/-- Big-endian value of a field. -/
def be (m : Mam) (f : MamField) : ℕ := beNat (m.bytes f)

/-- Store a big-endian number in a field. -/
def putBe (m : Mam) (f : MamField) (n : ℕ) : Mam := m.put f (beBytes f.length n)

/-- A field of one byte. -/
def byte (m : Mam) (f : MamField) : UInt8 := (m.bytes f).headD 0

/-- Store a field of one byte. -/
def putByte (m : Mam) (f : MamField) (b : UInt8) : Mam := m.put f [b]

/-- Attributes of a new cartridge: current formats, every field zero. -/
def zero : Mam := ⟨TAPE_FMT_VERSION, MAM_VERSION, fun _ _ => 0⟩

/-- DATA, WORM, NULL or CLEAN. -/
def MediumType (m : Mam) : UInt8 := m.byte .MediumType

/-- Number of partitions the drive believes in. -/
def num_partitions (m : Mam) : ℕ := (m.byte .num_partitions).toNat

@[simp] theorem bytes_length (m : Mam) (f : MamField) : (m.bytes f).length = f.length :=
  List.length_ofFn

@[simp] theorem put_tape_fmt_version (m : Mam) (f : MamField) (bs : List UInt8) :
    (m.put f bs).tape_fmt_version = m.tape_fmt_version := rfl

@[simp] theorem put_mam_fmt_version (m : Mam) (f : MamField) (bs : List UInt8) :
    (m.put f bs).mam_fmt_version = m.mam_fmt_version := rfl

/-- A full copy replaces the field. -/
theorem bytes_put_self (m : Mam) {f : MamField} {bs : List UInt8} (h : bs.length = f.length) :
    (m.put f bs).bytes f = bs := by
  apply List.ext_getElem
  · rw [bytes_length, h]
  · intro i _ hi
    simp only [bytes, put, if_pos, List.getElem_ofFn, List.getD_eq_getElem _ _ hi]

/-- A copy leaves every other field alone. -/
theorem bytes_put_other (m : Mam) {f g : MamField} (bs : List UInt8) (h : g ≠ f) :
    (m.put f bs).bytes g = m.bytes g := by
  simp only [bytes, put, if_neg h]

/-- Storing a byte field reads back. -/
@[simp] theorem byte_putByte (m : Mam) {f : MamField} (b : UInt8) (h : f.length = 1) :
    (m.putByte f b).byte f = b := by
  rw [byte, putByte, bytes_put_self m (by rw [List.length_singleton, h]), List.headD_cons]

/-- Storing a field leaves the others' bytes alone. -/
theorem byte_put_other (m : Mam) {f g : MamField} (bs : List UInt8) (h : g ≠ f) :
    (m.put f bs).byte g = m.byte g := by
  rw [byte, byte, bytes_put_other m bs h]

end Mam

/-- Packed attributes: identifier, length, value. -/
def writeAttributes (table : List MamAttr) (m : Mam) : List UInt8 :=
  table.flatMap fun a => leBytes 2 a.attribute_id ++ leBytes 2 a.field.length ++ m.bytes a.field

/-- Content `write_mam` gives the mam file. -/
def mamImage (m : Mam) : List UInt8 :=
  leBytes 4 m.tape_fmt_version ++ leBytes 4 m.mam_fmt_version ++ writeAttributes mamAttributes m

/-- Content `write_mam` gives the mhvtl_data file. -/
def mhvtlImage (m : Mam) : List UInt8 := writeAttributes mhvtlAttributes m

/-- Writing from the start of a file without truncating it. -/
def overwriteFront (new old : List UInt8) : List UInt8 := new ++ old.drop new.length

/-- One attribute file, attribute by attribute. An identifier without a length
and a value cut short are errors; the part of the value that arrived is kept. The
end markers of the tables hold no bytes, so an attribute of their identifier is
skipped like an unknown one. -/
def readAttributes (table : List MamAttr) (bs : List UInt8) (m : Mam) : ℤ × Mam :=
  match bs with
  | i0 :: i1 :: l0 :: l1 :: rest =>
    match table.find? fun a => a.attribute_id == leNat [i0, i1] with
    | none => readAttributes table (rest.drop (leNat [l0, l1])) m
    | some a =>
      let len := min (leNat [l0, l1]) a.field.length
      if (rest.take len).length = len then
        readAttributes table (rest.drop (leNat [l0, l1])) (m.put a.field (rest.take len))
      else (-1, m.put a.field (rest.take len))
  | [_, _] | [_, _, _] => (-1, m)
  | [] | [_] => (0, m)
termination_by bs.length
decreasing_by
  all_goals
    simp only [List.length_cons, List.length_drop]
    omega

/-- `read_mam` over the contents of the open files; a file that is not open is
not read. A version that is cut short ends the reading. -/
def read_mam (mam_fd mhvtl_fd : Option (List UInt8)) (m : Mam) : ℤ × Mam :=
  let (rc, m) : ℤ × Mam :=
    match mam_fd with
    | none => (0, m)
    | some bs =>
      let u32 := Codec.uint 4
      let m := { m with tape_fmt_version := u32.overlay (bs.take 4) m.tape_fmt_version }
      if (bs.take 4).length ≠ 4 then (-1, m) else
      let bs := bs.drop 4
      let m := { m with mam_fmt_version := u32.overlay (bs.take 4) m.mam_fmt_version }
      if (bs.take 4).length ≠ 4 then (-1, m) else readAttributes mamAttributes (bs.drop 4) m
  if rc ≠ 0 then (rc, m) else
  match mhvtl_fd with
  | none => (0, m)
  | some bs => readAttributes mhvtlAttributes bs m

end Mhvtl
