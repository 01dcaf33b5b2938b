import Mhvtl.Lib.Bytes
import Mhvtl.Sense
import Mhvtl.Smc.Layout
import Mhvtl.Smc.MapSlots

/-!
# READ ELEMENT STATUS

The report on the elements of a library: a header, then a page for each type of element,
and in each page a descriptor for each element. The walks over the list that choose the
first element, count the elements and fill the descriptors are separate, as they are in
the source. A result of `none` is the end of the daemon, at an element that is full
without a cartridge.
-/

namespace Mhvtl

open Bytes

/-- Size of the bar code field of a descriptor. -/
def VOLTAG_LEN : ℕ := 36

/-- Copy a C string, blank-filling to a length. -/
def blank_fill (src : List UInt8) (len : ℕ) : List UInt8 :=
  src.take len ++ List.replicate (len - src.length) 0x20

/-- Characters of a text as bytes. -/
def Text.bytes (t : Text) : List UInt8 := t.map fun c => UInt8.ofNat c.toNat

/-- The fields of `struct d_info` that only reports read. -/
structure DriveIdentity where
  /-- SCSI id. -/
  SCSI_ID : UInt8
  /-- Vendor. -/
  inq_vendor_id : List UInt8
  /-- Product. -/
  inq_product_id : List UInt8
  /-- Serial number. -/
  inq_product_sno : List UInt8
  /-- The texts are C strings. -/
  texts : ∀ b, b ∈ inq_vendor_id ∨ b ∈ inq_product_id ∨ b ∈ inq_product_sno → b ≠ 0

/-- An element with all a report reads of it. -/
structure Element extends Slot where
  /-- Additional sense code of the element. -/
  asc_ascq : ℕ
  /-- Identity of the drive, in a drive element. -/
  identity : DriveIdentity

/-- A cartridge record with its type. -/
structure Cartridge extends MediaInfo where
  /-- Type of cartridge. -/
  cart_type : UInt8

/-- A library with all its reports read. -/
structure Library where
  /-- Elements and records. -/
  smc : Smc
  /-- Additional sense codes, by element. -/
  asc_ascq : ℕ → ℕ
  /-- Identities of the drives, by element. -/
  identity : ℕ → DriveIdentity
  /-- Types of the cartridges, by record. -/
  cart_type : ℕ → UInt8
  /-- Drives are always identified. -/
  no_dvcid_flag : Bool
  /-- Drives are identified by serial number alone. -/
  dvcid_serial_only : Bool
  /-- Length of a drive's identifier. -/
  dvcid_len : ℕ
  /-- Size of the data buffer. -/
  bufsize : ℕ
  /-- No personality has longer identifiers. -/
  dvcid_len_le : dvcid_len ≤ 34

namespace Library

variable (lib : Library)

/-- The elements in the order of the list. -/
def elements : List Element :=
  lib.smc.slots.mapIdx fun i sp =>
    { sp with asc_ascq := lib.asc_ascq i, identity := lib.identity i }

/-- The cartridge of an element. -/
def heldBy (s : Slot) : Option Cartridge :=
  s.media.bind fun m => (lib.smc.media_list[m]?).map fun r =>
    { r with cart_type := lib.cart_type m }

/-- Bar codes are asked for. -/
def voltag (cdb : Cdb) : Bool := cdb 1 &&& 0x10 != 0

/-- Drives are to be identified. -/
def dvcid (cdb : Cdb) : Bool := if lib.no_dvcid_flag then true else cdb 6 &&& 0x01 != 0

/-- Length of the descriptor of an element. -/
def sizeof_element (cdb : Cdb) (type : ElementType) : ℕ :=
  16 + (if voltag cdb then VOLTAG_LEN else 0) +
    (if lib.dvcid cdb && type == .DATA_TRANSFER then lib.dvcid_len else 0)

/-- Status byte of a descriptor. The access bit of an import/export slot says whether the
port is closed. -/
def statusByte (s : Element) : UInt8 :=
  if s.element_type = .MAP_ELEMENT then
    if lib.smc.cap_closed then ⟨s.status ||| STATUS_Access⟩ else ⟨s.status &&& ~~~STATUS_Access⟩
  else ⟨s.status⟩

/-- Byte of a descriptor that says what cartridge there is, and whether it came from an
element. -/
def mediumByte (s : Element) : UInt8 :=
  match lib.heldBy s.toSlot with
  | some c => (if 0 < c.last_location then 0x80 else 0) ||| (c.cart_type &&& 0x0f)
  | none => 0

/-- Bar code field of a descriptor. -/
def voltagField (s : Element) : List UInt8 :=
  if s.slotOccupied then
    match lib.heldBy s.toSlot with
    | some c =>
      if c.internal_status &&& INSTATUS_NO_BARCODE = 0 then blank_fill (Text.bytes c.barcode) VOLTAG_LEN
      else List.replicate VOLTAG_LEN 0
    | none => List.replicate VOLTAG_LEN 0
  else List.replicate VOLTAG_LEN 0

/-- Identifier field of a descriptor. -/
def dvcidField (cdb : Cdb) (s : Element) : List UInt8 :=
  if lib.dvcid cdb && s.element_type == .DATA_TRANSFER then
    [2, if lib.dvcid_serial_only then 0 else 1, 0, UInt8.ofNat lib.dvcid_len] ++
      if lib.dvcid_serial_only then blank_fill s.identity.inq_product_sno lib.dvcid_len
      else blank_fill s.identity.inq_vendor_id 8 ++ blank_fill s.identity.inq_product_id 16 ++
        blank_fill s.identity.inq_product_sno 10
  else [0, 0, 0, 0]

/-- The bytes of a descriptor. -/
def descriptor (cdb : Cdb) (s : Element) : List UInt8 :=
  beBytes 2 s.slot_location ++ [lib.statusByte s, 0] ++ beBytes 2 s.asc_ascq ++
    [0, if s.element_type = .DATA_TRANSFER then s.identity.SCSI_ID else 0, 0, lib.mediumByte s] ++
    beBytes 2 s.last_location ++ (if voltag cdb then lib.voltagField s else []) ++
    lib.dvcidField cdb s

/-- Fill in a single element descriptor. A full element has to have a cartridge when its
bar code is requested for. -/
def fill_ed (cdb : Cdb) (s : Element) : Option (List UInt8) :=
  if voltag cdb && s.slotOccupied && (lib.heldBy s.toSlot).isNone then none
  else some (lib.descriptor cdb s)

/-- Header of an element status page. -/
def fill_element_status_page_hdr (cdb : Cdb) (element_count : ℕ) (type : ElementType) :
    List UInt8 :=
  [UInt8.ofNat type.code,
    (if voltag cdb then 0x80 else 0) |||
      (if lib.dvcid_serial_only && type == .DATA_TRANSFER then 0x40 else 0)] ++
    beBytes 2 (lib.sizeof_element cdb type) ++ [0] ++
    beBytes 3 (lib.sizeof_element cdb type * element_count)

/-- Header of the report. -/
def fill_element_status_data_hdr (start count byte_count : ℕ) : List UInt8 :=
  beBytes 2 start ++ beBytes 2 count ++ [0] ++ beBytes 3 byte_count

/-- An element is of a type, zero standing for every type, and not below an address. -/
def requested (type start : ℕ) (sp : Element) : Bool :=
  (type == 0 || sp.element_type.code == type) && decide (start ≤ sp.slot_location)

/-- Address of the first element that is requested, or zero. -/
def find_first_matching_element (start type : ℕ) : ℕ :=
  ((lib.elements.find? (requested type start)).map fun sp => sp.slot_location).getD 0

/-- Number of elements that are requested, up to a greatest number. -/
def num_available_elements (type start max : ℕ) : ℕ :=
  lib.elements.foldl
    (fun counted sp => if requested type start sp && decide (counted < max) then counted + 1
      else counted) 0

/-- Descriptors of the elements of one type from an address on, of which the next is the
`j`th, up to a greatest number. -/
def fillDescriptors (cdb : Cdb) (start : ℕ) (type : ElementType) (max_count : ℕ) :
    ℕ → List Element → Option (List UInt8)
  | _, [] => some []
  | j, sp :: slots =>
    if sp.slot_location < start then fillDescriptors cdb start type max_count j slots
    else if sp.element_type ≠ type then fillDescriptors cdb start type max_count j slots
    else do
      let p ← lib.fill_ed cdb sp
      if max_count < j + 1 then some p
      else
        let rest ← fillDescriptors cdb start type max_count (j + 1) slots
        some (p ++ rest)

/-- Greatest number of elements in a report. A request for none is one for all. -/
def maxCount (cdb : Cdb) : ℕ :=
  if cdb.get_unaligned_be16 4 = 0 then 65535 else cdb.get_unaligned_be16 4

/-- Page of a type, `residual` elements having been reported before it. -/
def fill_element_page (cdb : Cdb) (start : ℕ) (type : ElementType) (residual : ℕ) :
    Option (List UInt8) :=
  if maxCount cdb ≤ residual then some []
  else if lib.find_first_matching_element start type.code % 65536 = 0 then some []
  else
    (lib.fillDescriptors cdb start type (maxCount cdb - residual) 1 lib.elements).map fun p =>
      lib.fill_element_status_page_hdr cdb
        (lib.num_available_elements type.code start (maxCount cdb - residual)) type ++ p

/-- Start address of the next type, if there is one. -/
def nextStart : List TypeSlot → ℕ → ℕ
  | [], start_any => start_any
  | y :: _, _ => y.start % 65536

/-- Pages of the types from the one that is up next, `sum` elements having been reported. -/
def fill_element_pages (cdb : Cdb) : List TypeSlot → ℕ → ℕ → Option (List UInt8)
  | [], _, _ => some []
  | x :: types, start_any, sum => do
    let p ← lib.fill_element_page cdb start_any x.type sum
    let rest ← fill_element_pages cdb types
      (nextStart types start_any)
      ((sum + p.length / lib.sizeof_element cdb x.type) % 65536)
    some (p ++ rest)

/-- Type that a command block asks for. -/
def cdbType (cdb : Cdb) : ℕ := (cdb 1 &&& 0x0f).toNat

/-- A type by its number. -/
def typeOf : ℕ → Option ElementType
  | 1 => some .MEDIUM_TRANSPORT
  | 2 => some .STORAGE_ELEMENT
  | 3 => some .MAP_ELEMENT
  | 4 => some .DATA_TRANSFER
  | _ => none

/-- The pages of a report from an address on, or the field of the command block that is
refused. -/
def element_status_pages (cdb : Cdb) (start : ℕ) : Option (SenseField ⊕ List UInt8) :=
  match typeOf (cdbType cdb) with
  | some type => (lib.fill_element_page cdb start type 0).map Sum.inr
  | none =>
    if cdbType cdb = 0 then
      let types := (sort_library_slot_type lib.smc.pm).dropWhile fun x =>
        some x.type != lib.smc.slot_type start
      if types = [] then some (.inl ⟨SKSV ||| CD, 3⟩)
      else (lib.fill_element_pages cdb types start 0).map Sum.inr
    else some (.inl ⟨SKSV ||| CD, 1⟩)

/-- The report in the data buffer, or the field that is refused. The field pointer of a
report on no element is what is on the stack. -/
def element_status_data (cdb : Cdb) (stack : SenseField) : Option (SenseField ⊕ List UInt8) :=
  if cdb 11 ≠ 0 then some (.inl ⟨SKSV ||| CD, 11⟩)
  else
    let start := lib.find_first_matching_element (cdb.get_unaligned_be16 2) (cdbType cdb) % 65536
    if start = 0 then some (.inl stack)
    else
      (lib.element_status_pages cdb start).map (Sum.map id fun p =>
        fill_element_status_data_hdr start
          (lib.num_available_elements (cdbType cdb) start (cdb.get_unaligned_be16 4)) p.length ++ p)

/-- Room for the report. -/
def allocLen (cdb : Cdb) : ℕ :=
  min ((cdb 7).toNat * 65536 + cdb.get_unaligned_be16 8) lib.bufsize

/-- READ ELEMENT STATUS: the status, and the data sent to the host. -/
def smc_read_element_status (cdb : Cdb) (stack : SenseField) : Option (Status × List UInt8) :=
  (lib.element_status_data cdb stack).map (Sum.elim
    (fun sd => (sam_illegal_request E_INVALID_FIELD_IN_CDB (some sd), []))
    (fun p => (Status.good, p.take (lib.allocLen cdb))))

end Library

end Mhvtl
