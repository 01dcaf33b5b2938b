import Mathlib.Data.List.Basic
import Mhvtl.Lib.CString

/-!
# Elements of a medium changer

The library daemon keeps a list of elements and a list of cartridge records. A
pointer to an element or to a record is its index. An element says whether it is
full in a status bit, and which cartridge it holds in a pointer of its own.
-/

namespace Mhvtl

/-- Element types of the medium changer model. -/
inductive ElementType where
  /-- The picker arm. -/
  | MEDIUM_TRANSPORT
  /-- A storage slot. -/
  | STORAGE_ELEMENT
  /-- A slot of the import/export port. -/
  | MAP_ELEMENT
  /-- A tape drive. -/
  | DATA_TRANSFER
deriving DecidableEq

/-- Length of a bar code. -/
def MAX_BARCODE_LEN : ℕ := 16

/-- Status bit: a cartridge is in the element. -/
def STATUS_Full : BitVec 8 := 0x01
/-- Status bit: an operator placed the cartridge. -/
def STATUS_ImpExp : BitVec 8 := 0x02
/-- Status bit: the arm can get at the cartridge. -/
def STATUS_Access : BitVec 8 := 0x08
/-- Status bit: cartridges may go out. -/
def STATUS_ExEnab : BitVec 8 := 0x10
/-- Status bit: cartridges may come in. -/
def STATUS_InEnab : BitVec 8 := 0x20

/-- The cartridge was placed by an operator. -/
def OPERATOR : Bool := true
/-- The cartridge was placed by the arm. -/
def ROBOT_ARM : Bool := false

/-- `struct d_info`. -/
structure DriveInfo where
  /-- Message queue of the drive's daemon. -/
  drv_id : ℕ
deriving DecidableEq

/-- `struct m_info`, a cartridge record. -/
structure MediaInfo where
  /-- Bar code, blanks after it. -/
  barcode : Text
  /-- Bar codes fill their field. -/
  barcode_length : barcode.length = MAX_BARCODE_LEN
  /-- Element the cartridge came from. -/
  last_location : ℕ
  /-- Internal state bits. -/
  internal_status : ℕ
deriving DecidableEq

/-- `struct s_info`, an element. -/
structure Slot where
  /-- Element address. -/
  slot_location : ℕ
  /-- Address its cartridge came from. -/
  last_location : ℕ
  /-- The drive, in a drive element. -/
  drive : Option DriveInfo
  /-- The cartridge record. -/
  media : Option ℕ
  /-- Status bits. -/
  status : BitVec 8
  /-- What kind of element this is. -/
  element_type : ElementType
  /-- Drive elements have drives, and no others do. -/
  wired : element_type = .DATA_TRANSFER ↔ drive.isSome = true
deriving DecidableEq

namespace Slot

/-- A drive element has its drive. -/
theorem wired_drive (d : DriveInfo) :
    ElementType.DATA_TRANSFER = .DATA_TRANSFER ↔ (some d).isSome = true := by simp

/-- An import/export slot has no drive. -/
theorem wired_map : ElementType.MAP_ELEMENT = .DATA_TRANSFER ↔
    (none : Option DriveInfo).isSome = true := by simp

/-- A storage slot has no drive. -/
theorem wired_storage : ElementType.STORAGE_ELEMENT = .DATA_TRANSFER ↔
    (none : Option DriveInfo).isSome = true := by simp

/-- Set or clear a status bit. -/
def setStatus (mask : BitVec 8) (s : Slot) (flg : Bool) : Slot :=
  { s with status := if flg then s.status ||| mask else s.status &&& ~~~mask }

/-- The arm can get at the cartridge. -/
def slotAccess (s : Slot) : Bool := s.status &&& STATUS_Access != 0

/-- There is a cartridge in the element. -/
def slotOccupied (s : Slot) : Bool := s.status &&& STATUS_Full != 0

/-- Set or clear the access bit. -/
def setAccessStatus : Slot → Bool → Slot := setStatus STATUS_Access

/-- Record who placed the cartridge. -/
def setImpExpStatus : Slot → Bool → Slot := setStatus STATUS_ImpExp

/-- Set or clear the full bit. -/
def setFullStatus : Slot → Bool → Slot := setStatus STATUS_Full

/-- Mark the element empty. -/
def setSlotEmpty (s : Slot) : Slot := s.setFullStatus false

/-- Mark the element full. -/
def setSlotFull (s : Slot) : Slot := s.setFullStatus true

/-- The element is a slot of the import/export port. -/
def is_map_slot (s : Slot) : Bool := s.element_type == .MAP_ELEMENT

section Bits

variable (s : Slot) (flg : Bool)

@[simp] theorem media_setAccessStatus : (s.setAccessStatus flg).media = s.media := rfl
@[simp] theorem media_setImpExpStatus : (s.setImpExpStatus flg).media = s.media := rfl
@[simp] theorem media_setFullStatus : (s.setFullStatus flg).media = s.media := rfl

/-- The access bit is not the full bit. -/
@[simp] theorem slotOccupied_setAccessStatus :
    (s.setAccessStatus flg).slotOccupied = s.slotOccupied := by
  have hbits : ∀ b : BitVec 8, ((b ||| STATUS_Access) &&& STATUS_Full = b &&& STATUS_Full) ∧
      ((b &&& ~~~STATUS_Access) &&& STATUS_Full = b &&& STATUS_Full) := by decide +kernel
  cases flg with
  | false => simp [slotOccupied, setAccessStatus, setStatus, (hbits s.status).2]
  | true => simp [slotOccupied, setAccessStatus, setStatus, (hbits s.status).1]

/-- The placement bit is not the full bit. -/
@[simp] theorem slotOccupied_setImpExpStatus :
    (s.setImpExpStatus flg).slotOccupied = s.slotOccupied := by
  have hbits : ∀ b : BitVec 8, ((b ||| STATUS_ImpExp) &&& STATUS_Full = b &&& STATUS_Full) ∧
      ((b &&& ~~~STATUS_ImpExp) &&& STATUS_Full = b &&& STATUS_Full) := by decide +kernel
  cases flg with
  | false => simp [slotOccupied, setImpExpStatus, setStatus, (hbits s.status).2]
  | true => simp [slotOccupied, setImpExpStatus, setStatus, (hbits s.status).1]

/-- The full bit is what it was set to. -/
@[simp] theorem slotOccupied_setFullStatus : (s.setFullStatus flg).slotOccupied = flg := by
  have hbits : ∀ b : BitVec 8, ((b ||| STATUS_Full) &&& STATUS_Full != 0) = true ∧
      ((b &&& ~~~STATUS_Full) &&& STATUS_Full != 0) = false := by decide +kernel
  cases flg with
  | false => simpa [slotOccupied, setFullStatus, setStatus] using (hbits s.status).2
  | true => simpa [slotOccupied, setFullStatus, setStatus] using (hbits s.status).1

end Bits

end Slot

/-- Start addresses of the element types, `struct smc_personality_template`. -/
structure Personality where
  /-- Address of the first drive. -/
  start_drive : ℕ
  /-- Address of the first picker. -/
  start_picker : ℕ
  /-- Address of the first import/export slot. -/
  start_map : ℕ
  /-- Address of the first storage slot. -/
  start_storage : ℕ
deriving DecidableEq

/-- `struct smc_priv` with the lists it heads. -/
structure Smc where
  /-- Address layout. -/
  pm : Personality
  /-- Number of drives. -/
  num_drives : ℕ
  /-- Number of pickers. -/
  num_picker : ℕ
  /-- Number of import/export slots. -/
  num_map : ℕ
  /-- Number of storage slots. -/
  num_storage : ℕ
  /-- The import/export port is closed. -/
  cap_closed : Bool
  /-- Script to run in front of every move. -/
  movecommand : Option Text
  /-- Elements. -/
  slots : List Slot
  /-- Cartridge records. -/
  media_list : List MediaInfo
deriving DecidableEq

namespace Smc

variable (smc : Smc)

/-- Type of the element at an address, by the address ranges. -/
def slot_type (addr : ℕ) : Option ElementType :=
  if smc.pm.start_drive ≤ addr ∧ addr < smc.pm.start_drive + smc.num_drives then
    some .DATA_TRANSFER
  else if smc.pm.start_picker ≤ addr ∧ addr < smc.pm.start_picker + smc.num_picker then
    some .MEDIUM_TRANSPORT
  else if smc.pm.start_map ≤ addr ∧ addr < smc.pm.start_map + smc.num_map then
    some .MAP_ELEMENT
  else if smc.pm.start_storage ≤ addr ∧ addr < smc.pm.start_storage + smc.num_storage then
    some .STORAGE_ELEMENT
  else
    none

/-- Number of an element among those of its type, counted from one. -/
def slot_number (sp : Slot) : ℤ :=
  match sp.element_type with
  | .MEDIUM_TRANSPORT => sp.slot_location - smc.pm.start_picker + 1
  | .STORAGE_ELEMENT => sp.slot_location - smc.pm.start_storage + 1
  | .MAP_ELEMENT => sp.slot_location - smc.pm.start_map + 1
  | .DATA_TRANSFER => sp.slot_location - smc.pm.start_drive + 1

/-- First element with an address: where it is, and what it says. -/
def slot2struct (addr : ℕ) : Option (ℕ × Slot) :=
  (smc.slots.findIdx? fun sp => sp.slot_location == addr).bind fun i =>
    (smc.slots[i]?).map fun sp => (i, sp)

/-- Drive of the first element with an address, behind the element. -/
def drive2struct (addr : ℕ) : Option (ℕ × Slot × DriveInfo) :=
  (smc.slot2struct addr).bind fun s => s.2.drive.map fun d => (s.1, s.2, d)

/-- The arm may use an import/export slot. -/
def map_access_ok (sp : Slot) : Bool :=
  if sp.is_map_slot then smc.cap_closed else false

/-- The address names an element that can hold a cartridge. -/
def valid_slot (addr : ℕ) : Bool :=
  match smc.slot_type addr with
  | some .STORAGE_ELEMENT => (smc.slot2struct addr).isSome
  | some .MAP_ELEMENT => (smc.slot2struct addr).isSome
  | some .DATA_TRANSFER =>
    match smc.drive2struct addr with
    | some (_, _, drv) => drv.drv_id != 0
    | none => false
  | _ => false

/-- Bar code of the cartridge an element points to. -/
def barcodeOf (sp : Slot) : Option Text :=
  sp.media.bind fun m => (smc.media_list[m]?).map MediaInfo.barcode

/-- Bar code of the cartridge the element at an index points to. -/
def barcode (i : ℕ) : Option Text := (smc.slots[i]?).bind smc.barcodeOf

/-- Change an element. -/
def updateSlot (i : ℕ) (f : Slot → Slot) : Smc := { smc with slots := smc.slots.modify i f }

/-- Change a cartridge record. -/
def updateMedia (m : ℕ) (f : MediaInfo → MediaInfo) : Smc :=
  { smc with media_list := smc.media_list.modify m f }

end Smc

end Mhvtl
