import Mathlib.Algebra.Ring.Int.Defs
import Mhvtl.Lib.Scanf
import Mhvtl.Smc.Layout
import Mhvtl.Smc.MapSlots

/-!
# Reading the contents of a library

At its start the library reads its contents file once for each type of element, the types
by start address. A line names an element by its number and may name a cartridge in it.
Drives and storage slots that the file leaves out are made as empty elements. A result of
`none` is the end of the daemon.
-/

namespace Mhvtl

open Scanf

namespace Smc

/-- The library before anything is read. -/
def blank (pm : Personality) (movecommand : Option Text) : Smc where
  pm := pm
  num_drives := 0
  num_picker := 0
  num_map := 0
  num_storage := 0
  cap_closed := true
  movecommand := movecommand
  slots := []
  media_list := []

/-- One more element of a type. -/
def count (smc : Smc) : ElementType → Smc
  | .MEDIUM_TRANSPORT => { smc with num_picker := smc.num_picker + 1 }
  | .STORAGE_ELEMENT => { smc with num_storage := smc.num_storage + 1 }
  | .MAP_ELEMENT => { smc with num_map := smc.num_map + 1 }
  | .DATA_TRANSFER => { smc with num_drives := smc.num_drives + 1 }

/-- The element with a number would have an address of another type. -/
def check_overflow (smc : Smc) (slot : ℤ) (type : ElementType) : Bool :=
  [ElementType.STORAGE_ELEMENT, .MEDIUM_TRANSPORT, .DATA_TRANSFER, .MAP_ELEMENT].any fun u =>
    decide (smc.pm.start type < smc.pm.start u) &&
      decide ((smc.pm.start u : ℤ) < slot + smc.pm.start type)

/-- Address of the element with a number, in four bytes. -/
def location (smc : Smc) (slt : ℤ) (type : ElementType) : ℕ :=
  ((slt + smc.pm.start type - 1) % 2 ^ 32).toNat

/-- Index of the drive with a number. -/
def lookup_drive (smc : Smc) (drive_no : ℤ) : Option ℕ :=
  smc.slots.findIdx? fun sp =>
    sp.element_type == .DATA_TRANSFER && sp.slot_location == smc.location drive_no .DATA_TRANSFER

/-- A drive element without a cartridge, whose drive is not known yet. -/
def newDrive (smc : Smc) (slt : ℤ) : Slot where
  slot_location := smc.location slt .DATA_TRANSFER
  last_location := 0
  drive := some ⟨0⟩
  media := none
  status := STATUS_Access
  element_type := .DATA_TRANSFER
  wired := Slot.wired_drive ⟨0⟩

/-- An element for a drive. A drive that is there already is only counted again. -/
def init_drive_slot (smc : Smc) (slt : ℤ) : Smc :=
  if smc.check_overflow slt .DATA_TRANSFER then smc
  else
    match smc.lookup_drive slt with
    | some i => (smc.updateSlot i fun sp => { sp with status := STATUS_Access }).count .DATA_TRANSFER
    | none => { smc with slots := smc.slots ++ [smc.newDrive slt] }.count .DATA_TRANSFER

/-- An element that is no drive, with a cartridge or without one. -/
def newSlot (smc : Smc) (slt : ℤ) (type : ElementType) (h : type ≠ .DATA_TRANSFER)
    (status : BitVec 8) (media : Option ℕ) : Slot where
  slot_location := smc.location slt type
  last_location := 0
  drive := none
  media := media
  status := status
  element_type := type
  wired := by simp [h]

/-- An element that is no drive. The cartridge it is to hold gets a record. -/
def init_slot (type : ElementType) (h : type ≠ .DATA_TRANSFER) (status : BitVec 8) (smc : Smc)
    (slt : ℤ) (barcode : Text) : Option Smc :=
  if smc.check_overflow slt type then some smc
  else if barcode = [] then
    some ({ smc with slots := smc.slots ++ [smc.newSlot slt type h status none] }.count type)
  else
    (smc.add_barcode barcode).map fun r =>
      { r.1 with
          slots := r.1.slots ++ [smc.newSlot slt type h (status ||| STATUS_Full) (some r.2)] }.count
        type

/-- A slot of the import/export port. -/
def init_map_slot : Smc → ℤ → Text → Option Smc :=
  init_slot .MAP_ELEMENT (by decide) (STATUS_InEnab ||| STATUS_ExEnab ||| STATUS_Access |||
    STATUS_ImpExp)

/-- A picker. -/
def init_transport_slot : Smc → ℤ → Text → Option Smc :=
  init_slot .MEDIUM_TRANSPORT (by decide) 0

/-- A storage slot. -/
def init_storage_slot : Smc → ℤ → Text → Option Smc :=
  init_slot .STORAGE_ELEMENT (by decide) STATUS_Access

end Smc

/-- A line in the buffer. An empty line keeps its newline. -/
def readline (line : Text) : Text := if line = [] then ['\n'] else line

/-- What `sscanf` makes of a line: its result, the number and the text if it got that far. -/
structure EntryScan where
  /-- Result of the call. -/
  result : ℤ
  /-- The number. -/
  slt : Option ℤ
  /-- The text. -/
  s : Text
deriving DecidableEq

/-- Scan a line for an entry with a keyword, `"keyword %d: %s"`. -/
def scanEntry (keyword b : Text) : EntryScan :=
  match literal keyword b with
  | .eof => ⟨-1, none, []⟩
  | .mismatch => ⟨0, none, []⟩
  | .ok _ rest =>
    match number (skipSpace rest) with
    | .eof => ⟨-1, none, []⟩
    | .mismatch => ⟨0, none, []⟩
    | .ok n rest =>
      match literal [':'] rest with
      | .eof => ⟨1, some n, []⟩
      | .mismatch => ⟨1, some n, []⟩
      | .ok _ rest =>
        match word (skipSpace rest) with
        | .eof => ⟨1, some n, []⟩
        | .mismatch => ⟨1, some n, []⟩
        | .ok s _ => ⟨2, some n, s⟩

/-- Keyword of the lines on a type. -/
def keyword : ElementType → Text
  | .DATA_TRANSFER => "Drive".toList
  | .MAP_ELEMENT => "MAP".toList
  | .MEDIUM_TRANSPORT => "Picker".toList
  | .STORAGE_ELEMENT => "Slot".toList

/-- Elements of this type that the file leaves out are made. -/
def fillsHoles : ElementType → Bool
  | .DATA_TRANSFER => true
  | .STORAGE_ELEMENT => true
  | .MAP_ELEMENT => false
  | .MEDIUM_TRANSPORT => false

namespace Smc

/-- Make an element of a type. -/
def init_element (type : ElementType) (smc : Smc) (slt : ℤ) (s : Text) : Option Smc :=
  match type with
  | .DATA_TRANSFER => some (smc.init_drive_slot slt)
  | .MAP_ELEMENT => smc.init_map_slot slt s
  | .MEDIUM_TRANSPORT => smc.init_transport_slot slt s
  | .STORAGE_ELEMENT => smc.init_storage_slot slt s

/-- Make `n` empty elements of a type from a number on. -/
def init_holes (type : ElementType) : ℕ → ℤ → Smc → Option Smc
  | 0, _, smc => some smc
  | n + 1, z, smc => (smc.init_element type z []).bind (init_holes type n (z + 1))

/-- Read the lines on a type. The number of an entry whose line ends in front of it is
that of the entry before. -/
def readLines (type : ElementType) : List Text → ℤ → ℤ → Smc → Option Smc
  | [], _, _, smc => some smc
  | line :: lines, start_slot, slt, smc =>
    if (readline line).head? = some '#' then readLines type lines start_slot slt smc
    else
      let scan := scanEntry (keyword type) (readline line)
      if scan.result = 0 then readLines type lines start_slot slt smc
      else
        let slt := scan.slt.getD slt
        if fillsHoles type then
          ((init_holes type (slt - start_slot).toNat start_slot smc).bind fun smc =>
            smc.init_element type slt scan.s).bind (readLines type lines (slt + 1) slt)
        else
          (smc.init_element type slt scan.s).bind (readLines type lines start_slot slt)

/-- Read the elements of a type. The first number is what is on the stack. -/
def init_slot_info_type (lines : List Text) (stack : ElementType → ℤ) (smc : Smc)
    (type : ElementType) : Option Smc :=
  readLines type lines 1 (stack type) smc

/-- Read the contents of a library. -/
def init_slot_info (lines : List Text) (stack : ElementType → ℤ) (smc : Smc) : Option Smc :=
  (sort_library_slot_type smc.pm).foldlM
    (fun smc x => smc.init_slot_info_type lines stack x.type) smc

end Smc

end Mhvtl
