import Mhvtl.Cart.Loading
import Mhvtl.Ssc.Commands
import Mhvtl.Ssc.ModePages

/-!
# Mounting a cartridge

`loadTape` and `unloadTape` of `vtltape.c` with the attributes they keep up to date,
and the commands LOAD UNLOAD, LOG SELECT and VERIFY(6).
-/

namespace Mhvtl.Ssc

open Bytes Cart

/-- The medium may have been changed. -/
def E_NOT_READY_TO_TRANSITION : ℕ := 0x2800

/-- The drive reads and writes the medium. -/
def LOAD_RW : UInt8 := 2
/-- The drive reads the medium. -/
def LOAD_RO : UInt8 := 4
/-- The drive takes the medium as one to be written once. -/
def LOAD_WORM : UInt8 := 8
/-- The drive does not take the medium. -/
def LOAD_FAIL : UInt8 := 0x20

/-- What `loadTape` takes from the personality and the configuration of the drive. -/
structure LoadRules where
  /-- Vendor identification. -/
  vendor_id : List UInt8
  /-- Serial number of the drive. -/
  lu_serial_no : List UInt8
  /-- How the mode pages forget a write-once medium. -/
  clear_WORM : Option (List ModePage → List ModePage)
  /-- How they show one, when the drive supports it. -/
  set_WORM : Option (List ModePage → List ModePage)
  /-- The mode pages and the medium type of a medium that comes or goes. -/
  media_load : Mam → Bool → List ModePage × UInt8 → List ModePage × UInt8
  /-- The media types that can be loaded, with what can be done with them. -/
  supported_media_list : List (UInt8 × UInt8)
  /-- The programs that bring old cartridges up to date. -/
  updater : Updater

/-- How many partitions a medium can hold. -/
def media_max_partitions (media_type : UInt8) : UInt8 :=
  -- LTO5 and LTO6, then LTO7 to LTO9
  if media_type = 11 ∨ media_type = 14 then 2
  else if media_type = 17 ∨ media_type = 20 ∨ media_type = 23 then 4
  else 1

/-- Size of the cartridge memory. -/
def media_mam_capacity (media_type : UInt8) : ℕ :=
  -- LTO1 to LTO4, then LTO9
  if media_type = 1 ∨ media_type = 3 ∨ media_type = 5 ∨ media_type = 8 then 4096
  else if media_type = 23 then 16384
  else 8192

/-- What the attributes leave of the cartridge memory. -/
def mam_space_remaining (m : Mam) : Mam :=
  let m := if m.be .MAMCapacity = 0 then
    m.putBe .MAMCapacity (media_mam_capacity (m.byte .MediaType)) else m
  let used := (mamAttributes.map fun a => a.field.length + 5).sum
  m.putBe .MAMSpaceRemaining (m.be .MAMCapacity - used)

/-- The attributes at a load. -/
def loadMam (P : LoadRules) (m : Mam) : Mam :=
  let m := mam_space_remaining (m.putByte .record_dirty 1)
  let m := m.putByte .max_partitions (media_max_partitions (m.byte .MediaType))
  let m := m.putBe .LoadCount (m.be .LoadCount + 1)
  let m := m.put .DevMakeSerialLastLoad3 (m.bytes .DevMakeSerialLastLoad2)
  let m := m.put .DevMakeSerialLastLoad2 (m.bytes .DevMakeSerialLastLoad1)
  let m := m.put .DevMakeSerialLastLoad1 (m.bytes .DevMakeSerialLastLoad)
  let serial := takePad 8 P.vendor_id ++ takePad 16 P.lu_serial_no
  m.put .DevMakeSerialLastLoad (serial ++ List.replicate 16 0x20)

/-- The attributes at an unload, after a load that wrote and read so many bytes. -/
def unloadMam (bytesWritten_I bytesRead_I : ℕ) (m : Mam) : Mam :=
  let m := m.putByte .record_dirty 0
  let m := m.putBe .WrittenInLastLoad bytesWritten_I
  let m := m.putBe .ReadInLastLoad bytesRead_I
  let m := m.putBe .WrittenInMediumLife (m.be .WrittenInMediumLife + bytesWritten_I)
  m.putBe .ReadInMediumLife (m.be .ReadInMediumLife + bytesRead_I)

/-- Brings the attributes of the cartridge up to date. -/
def updateMAM (P : LoadRules) (d : Drive) (load : Bool) : Drive :=
  let d := if load then { d.setMam (loadMam P) with vcr_updated := false }
    else d.setMam (unloadMam d.bytesWritten_I d.bytesRead_I)
  d.onCart fun c => c.rewriteMAM.2

/-- Counts from zero. -/
def Drive.resetCounters (d : Drive) : Drive :=
  { d with bytesRead_I := 0, bytesRead_M := 0, bytesWritten_I := 0, bytesWritten_M := 0 }

/-- The personality is told of a medium that comes or goes. -/
def Drive.media_load (P : LoadRules) (d : Drive) (load : Bool) : Drive :=
  let r := P.media_load d.cart.mam load (d.mode_pg, d.mode_media_type)
  { d with mode_pg := r.1, mode_media_type := r.2 }

/-- Another medium than a write-once one. -/
def Drive.clearWORM (P : LoadRules) (d : Drive) : Drive :=
  match P.clear_WORM with
  | none => d
  | some f => { d with mode_pg := f d.mode_pg }

/-- Set the write permission. -/
def Drive.permit (d : Drive) (ok : Bool) : Drive := d.onCart fun c => { c with OK_to_write := ok }

/-- A write-once medium may be written when it is empty or holds one filemark. -/
def wormPermission (d : Drive) : Drive :=
  if d.cart.c_pos.blk_type = B_EOD then d.permit true
  else if d.cart.c_pos.blk_type ≠ B_FILEMARK then d.permit false
  else
    let (rc, c) := d.cart.position_to_block 1
    let d := { d with cart := c }
    if rc ≠ 0 then d.permit false
    else (d.permit (d.cart.c_pos.blk_type = B_EOD)).onCart fun c => c.rewind_tape.2

/-- What the type of the medium makes of the drive; nothing when it cannot be loaded. -/
def mountByType (P : LoadRules) (d : Drive) : Option Drive :=
  let type := d.cart.mam.MediumType
  if type = MEDIA_TYPE_DATA then
    some (((d.permit true).clearWORM P).report (sam_unit_attention E_NOT_READY_TO_TRANSITION))
  else if type = MEDIA_TYPE_CLEAN then
    some (((d.permit false).clearWORM P).report (sam_unit_attention E_CLEANING_CART_INSTALLED))
  else if type = MEDIA_TYPE_WORM then
    P.set_WORM.map fun f => let d := wormPermission d; { d with mode_pg := f d.mode_pg }
  else if type = MEDIA_TYPE_NULL then
    some ((d.permit true).report (sam_unit_attention E_NOT_READY_TO_TRANSITION))
  else some d

/-- Write protection of a medium that the drive handles so; nothing when it cannot be loaded. -/
def mountByCapability (d : Drive) (load_capability : UInt8) : Option Drive :=
  let type := d.cart.mam.MediumType
  if type = MEDIA_TYPE_WORM then
    if load_capability &&& (LOAD_WORM ||| LOAD_RW) ≠ 0 then some d
    else if load_capability &&& (LOAD_WORM ||| LOAD_RO) ≠ 0 then some (d.permit false)
    else none
  else if type = MEDIA_TYPE_DATA then
    if load_capability &&& LOAD_RO ≠ 0 then some ({ d with MediaWriteProtect := true }.permit false)
    else if load_capability &&& LOAD_RW ≠ 0 then
      -- the second flag of the cartridge is its write protection
      let wp : Bool := leNat (d.cart.mam.bytes .Flags) / 2 % 2 = 1
      some ({ d with MediaWriteProtect := wp }.permit !wp)
    else if load_capability &&& LOAD_FAIL ≠ 0 then none
    else some d
  else if type = MEDIA_TYPE_NULL then some d
  else some (d.permit false)

/-- The timer of a mount has run out. -/
def finish_mount (d : Drive) : Drive :=
  if d.load_status = TAPE_LOADING then { d with load_status := TAPE_LOADED } else d

/-- A medium that the drive does not take. -/
def mismatchmedia (P : LoadRules) (d : Drive) : Option (ℤ × Drive) :=
  d.cart.unload_tape.map fun c =>
    (1, { d with cart := c, load_status := TAPE_UNLOADED }.media_load P false)

/-- What is asked for with a load. -/
structure LoadRequest where
  /-- Directory of the cartridge. -/
  pcl : Dir
  /-- The file that is to bypass the sanity checks is there. -/
  bypass_error_check : Bool
  /-- Seconds that a mount takes. -/
  delay_load : ℕ

/-- Mounts a cartridge: 0, or why it cannot be mounted. -/
def loadTape (P : LoadRules) (L : Libs) (d : Drive) (r : LoadRequest) : Option (ℤ × Drive) :=
  let d := d.resetCounters
  match d.cart.load_tape P.updater r.pcl r.bypass_error_check with
  | none => none
  | some (rc, c) =>
    let d := { d with cart := c }
    if rc ≠ 0 then some (rc, d) else
    let d := ({ d with load_status := TAPE_LOADING }.media_load P true).onCart fun c => c.rewind_tape.2
    match mountByType P d with
    | none => mismatchmedia P d
    | some d =>
      let d := updateMAM P d true
      match P.supported_media_list.find? fun m => m.1 == d.cart.mam.byte .MediaType with
      | none => mismatchmedia P d
      | some (_, load_capability) =>
        match mountByCapability d load_capability with
        | none => mismatchmedia P d
        | some d =>
          let density := d.cart.mam.byte .MediumDensityCode
          let d := { d with modeBlockDescriptor := Function.update d.modeBlockDescriptor 0 density }
          let d := if r.delay_load = 0 then finish_mount d else d
          (update_medium_partition_page L d).map fun d => (0, d)

/-- Takes the cartridge out, when there is one. -/
def unloadTape (P : LoadRules) (d : Drive) : Option Drive :=
  let emptied := fun d : Drive => { d with load_status := TAPE_UNLOADED }.permit false
  if d.load_status = TAPE_LOADING ∨ d.load_status = TAPE_LOADED then
    let d := updateMAM P d false
    d.cart.unload_tape.map fun c => emptied (({ d with cart := c }.clearWORM P).media_load P false)
  else some (emptied d)

/-- `change_partition(0)`. Without a cartridge the name of the directory was freed:
either it is still there, or nothing can be opened. -/
def firstPartition (d : Drive) (stale : Bool) : Drive :=
  if d.load_status = TAPE_UNLOADED ∧ !stale then d.onCart fun c =>
    { ({ c with dir := ⟨fun _ _ => none, none, none⟩ }.change_partition 0).2 with dir := c.dir }
  else d.onCart fun c => (c.change_partition 0).2

/-- LOAD UNLOAD, with the cartridge in the mouth of the drive. -/
def ssc_load_unload (P : LoadRules) (L : Libs) (d : Drive) (cdb : Cdb) (barcode : Option LoadRequest)
    (stale : Bool) : Option Drive :=
  let d := d.declare_ssc_vars
  let load_request := cdb 4 &&& 0x01 ≠ 0
  if cdb 4 &&& 0x04 ≠ 0 then
    some (d.report (sam_illegal_request E_INVALID_FIELD_IN_CDB (some ⟨SKSV ||| CD ||| BPV ||| 4, 4⟩)))
  else
  let d := firstPartition d stale
  let (media_state, c) := d.cart.rewind_tape
  let d := { d with cart := c }
  if d.load_status = TAPE_UNLOADED then
    if !load_request then some (d.report (sam_not_ready E_MEDIUM_NOT_PRESENT))
    else if media_state = 0 then
      match barcode with
      | none => some (d.report (sam_not_ready E_MEDIUM_NOT_PRESENT))
      | some r => (loadTape P L d r).map fun (load_state, d) =>
        if load_state = 2 then d.report (sam_not_ready E_MEDIUM_FMT_CORRUPT)
        else if load_state = 3 then d.report (sam_not_ready E_MEDIUM_NOT_PRESENT)
        else d
    else if media_state = 1 then some d
    else some (d.report (sam_not_ready E_MEDIUM_FMT_CORRUPT))
  else if d.load_status = TAPE_LOADED then
    if !load_request then unloadTape P d else some d
  else some (d.report (sam_not_ready E_MEDIUM_FMT_CORRUPT))

/-- The checks of LOG SELECT: what is refused, if anything. -/
def spc_log_select (cdb : Cdb) : Option Status :=
  if cdb 1 &&& 0x01 ≠ 0 then
    some (sam_illegal_request E_INVALID_FIELD_IN_CDB (some ⟨SKSV ||| CD ||| BPV ||| 1, 1⟩))
  else if cdb 1 &&& 0x02 ≠ 0 ∧ beNat (bytesAt cdb 7 2) ≠ 0 then
    some (sam_illegal_request E_INVALID_FIELD_IN_CDB (some ⟨SKSV ||| CD, 7⟩))
  else none

/-- LOG SELECT. A parameter code reset of the default cumulative values is one of the
counters of the load. -/
def ssc_log_select (d : Drive) (cdb : Cdb) : Drive :=
  let d := d.declare_ssc_vars
  match spc_log_select cdb with
  | some st => d.report st
  | none =>
    if cdb 1 &&& 0x02 ≠ 0 ∧ (cdb 2 &&& 0xc0) >>> 6 = 3 then d.resetCounters else d

/-- VERIFY(6): a READ(6), or a SPACE over filemarks. What is sent is left out. -/
def ssc_verify_6 (L : Libs) (d : Drive) (cdb : Cdb) : Option Drive :=
  let d := d.declare_ssc_vars
  let (blocks, sz) := opcode_6_params d cdb
  if cdb 1 &&& 0x20 ≠ 0 then
    some (d.report (sam_illegal_request E_INVALID_FIELD_IN_CDB (some ⟨SKSV ||| CD ||| BPV ||| 6, 1⟩)))
  else if cdb 1 &&& 0x08 ≠ 0 then some (resp_space d (if fixedBlock cdb then blocks else sz) 1)
  else (complete_read_6 L d cdb sz blocks).map (·.2)

end Mhvtl.Ssc
