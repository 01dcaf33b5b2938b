import Mhvtl.Lib.Interact
import Mhvtl.Sense
import Mhvtl.Smc.Inventory

/-!
# MOVE MEDIUM

A move checks both elements, runs the move script, tells the drives to unload
and load, and edits the two elements and the cartridge record on the way. The
library waits for a message after each request, and goes on with the text of the
first one that comes. A result of `none` is a use of the cartridge of an element
that has none.
-/

namespace Mhvtl

/-- A drive without a cartridge. -/
def msg_not_occupied : Text := "Not occupied".toList
/-- A drive with a cartridge. -/
def msg_occupied : Text := "occupied".toList
/-- Answer to an unload. -/
def msg_unload_ok : Text := "Unloaded OK".toList
/-- Answer to a load that failed. -/
def msg_load_failed : Text := "Load failed".toList
/-- Answer to a load. -/
def msg_load_ok : Text := "Loaded OK".toList
/-- Question whether there is a cartridge. -/
def msg_mount_state : Text := "mount_state".toList
/-- Notice that the host unloaded a cartridge. -/
def msg_eject : Text := "eject".toList
/-- Request to forget the cartridge. -/
def msg_set_empty : Text := "set_empty".toList

/-- What the move script is called with. -/
structure MoveCommand where
  /-- The script. -/
  movecommand : Text
  /-- Type of the source. -/
  srcType : ElementType
  /-- Number of the source. -/
  srcNumber : ℤ
  /-- Type of the destination. -/
  destType : ElementType
  /-- Number of the destination. -/
  destNumber : ℤ
  /-- Bar code of the cartridge. -/
  barcode : Text
deriving DecidableEq

/-- What the library does to its surroundings in a move. -/
inductive Action where
  /-- Put a message into the queue of another daemon. -/
  | send_msg (cmd : Text) (rcv_id : ℕ)
  /-- Wait for the first message in the own queue. -/
  | msgrcv
  /-- Run the move script. -/
  | run_command (command : MoveCommand)
deriving DecidableEq

/-- What comes back: the text of a message, or an exit code. -/
def Answer : Action → Type
  | .send_msg _ _ => Unit
  | .msgrcv => Text
  | .run_command _ => ℤ

/-- A part of a move. -/
abbrev Proc (R : Type) : Type := Interact Action Answer R

/-- Result of a move: the inventory and the status. -/
abbrev Moved : Type := Option (Smc × Status)

/-- Send a message. -/
def send_msg (cmd : Text) (rcv_id : ℕ) : Proc Unit := Interact.perform (Action.send_msg cmd rcv_id)

/-- Wait for a message. -/
def msgrcv : Proc Text := Interact.perform Action.msgrcv

/-- Run the move script. -/
def run_command (command : MoveCommand) : Proc ℤ := Interact.perform (Action.run_command command)

/-- The text is not that of a drive without a cartridge. -/
def saysOccupied (text : Text) : Bool := !msg_not_occupied.strncmp text 12

/-- The text is not that of a drive that unloaded its cartridge. -/
def saysUnloadFailed (text : Text) : Bool := !msg_unload_ok.strncmp text 11

/-- The text is not that of a drive that loaded a cartridge. -/
def saysLoadFailed (text : Text) : Bool := !msg_load_ok.strncmp text msg_load_ok.length

/-- Ask the drive whether it is empty. The answer is true for a drive that is not. -/
def is_drive_empty (drv : DriveInfo) : Proc Bool := do
  send_msg msg_mount_state drv.drv_id
  let text ← msgrcv
  pure (saysOccupied text)

/-- The element is full, or the drive says so. -/
def driveOccupied (sp : Slot) (drv : DriveInfo) : Proc Bool := do
  let occupied ← is_drive_empty drv
  pure (sp.slotOccupied || occupied)

/-- Wait for the answer to an unload. The answer is true when it failed. -/
def check_tape_unload : Proc Bool := do
  let text ← msgrcv
  pure (saysUnloadFailed text)

/-- Wait for the answer to a load. The answer is true when it failed. -/
def check_tape_load : Proc Bool := do
  let text ← msgrcv
  pure (saysLoadFailed text)

/-- Request to load the cartridge with a bar code. -/
def lload (barcode : Text) : Text := "lload ".toList ++ barcode.truncate_spaces

/-- Request to unload the cartridge with a bar code. -/
def unload (barcode : Text) : Text := "unload ".toList ++ barcode

/-- The destination of a move with its cartridge. -/
def Slot.filled (dest : Slot) (m loc : ℕ) : Slot :=
  let dest := { dest with media := some m, last_location := loc }.setSlotFull
  if dest.is_map_slot then dest.setImpExpStatus ROBOT_ARM else dest

/-- The source of a move without its cartridge. -/
def Slot.vacated (src : Slot) : Slot :=
  ({ src with media := none, last_location := 0 }.setSlotEmpty).setAccessStatus true

namespace Smc

/-- Take the cartridge of one element to another. -/
def move_cart (smc : Smc) (src dest : ℕ) : Option Smc :=
  (smc.slots[src]?).bind fun sp => sp.media.map fun m =>
    ((smc.updateMedia m fun mp => { mp with last_location := sp.slot_location }).updateSlot dest
      fun dp => dp.filled m sp.slot_location).updateSlot src Slot.vacated

/-- Mark a drive element empty and tell the drive. -/
def setDriveEmpty (smc : Smc) (i : ℕ) (drv : DriveInfo) : Proc Smc := do
  let smc := smc.updateSlot i fun sp => sp.setFullStatus false
  send_msg msg_set_empty drv.drv_id
  let _ ← check_tape_unload
  pure smc

/-- Run the move script, when there is one. -/
def run_move_command (smc : Smc) (i : ℕ) (src dest : Slot) : Proc (Option Status) :=
  match smc.movecommand with
  | none => pure (some Status.good)
  | some command =>
    match smc.barcode i with
    | none => pure none
    | some barcode => do
      let res ← run_command
        { movecommand := command
          srcType := src.element_type
          srcNumber := smc.slot_number src
          destType := dest.element_type
          destNumber := smc.slot_number dest
          barcode := barcode.truncate_spaces }
      if res ≠ 0 then
        pure (some (sam_hardware_error E_MANUAL_INTERVENTION_REQ))
      else
        pure (some Status.good)

/-- Give up with a status. -/
def refuse (smc : Smc) (status : Status) : Proc Moved := pure (some (smc, status))

/-- Run the move script and go on when it went well. -/
def after_move_command (smc : Smc) (i : ℕ) (src dest : Slot) (next : Proc Moved) : Proc Moved := do
  match ← smc.run_move_command i src dest with
  | none => pure none
  | some retval => if retval.sam_stat ≠ SAM_STAT_GOOD then smc.refuse retval else next

/-- From a slot into a drive. -/
def move_slot2drive (smc : Smc) (i : ℕ) (src : Slot) (j : ℕ) (dest : Slot) (drv : DriveInfo) :
    Proc Moved :=
  if !src.slotOccupied then
    smc.refuse (sam_illegal_request E_MEDIUM_SRC_EMPTY none)
  else do
    let occupied ← driveOccupied dest drv
    if occupied then
      smc.refuse (sam_illegal_request E_MEDIUM_DEST_FULL none)
    else if src.is_map_slot && !smc.map_access_ok src then
      smc.refuse (sam_not_ready E_MAP_OPEN)
    else smc.after_move_command i src dest <|
      match smc.barcode i with
      | none => pure none
      | some barcode => do
        send_msg (lload barcode) drv.drv_id
        let failed ← check_tape_load
        if failed then
          smc.refuse (sam_hardware_error E_MANUAL_INTERVENTION_REQ)
        else
          pure <| (smc.move_cart i j).map fun smc =>
            (smc.updateSlot j fun sp => sp.setSlotFull.setAccessStatus false, Status.good)

/-- From one slot to another. -/
def move_slot2slot (smc : Smc) (i : ℕ) (src : Slot) (j : ℕ) (dest : Slot) : Proc Moved :=
  if !src.slotOccupied then
    smc.refuse (sam_illegal_request E_MEDIUM_SRC_EMPTY none)
  else if dest.slotOccupied then
    smc.refuse (sam_illegal_request E_MEDIUM_DEST_FULL none)
  else if src.is_map_slot && !smc.map_access_ok src then
    smc.refuse (sam_not_ready E_MAP_OPEN)
  else if dest.is_map_slot && !smc.map_access_ok dest then
    smc.refuse (sam_not_ready E_MAP_OPEN)
  else
    match smc.barcode i with
    | none => pure none
    | some _ => smc.after_move_command i src dest <|
      pure <| (smc.move_cart i j).map fun smc => (smc, Status.good)

/-- Second half of a move out of a drive, after the drive let the cartridge go. -/
def leave_drive (smc : Smc) (i j : ℕ) (drv : DriveInfo) : Proc Moved :=
  match smc.move_cart i j with
  | none => pure none
  | some smc => do
    let smc ← smc.setDriveEmpty i drv
    pure (some (smc, Status.good))

/-- From a drive into a slot. -/
def move_drive2slot (smc : Smc) (i : ℕ) (src : Slot) (drv : DriveInfo) (j : ℕ) (dest : Slot) :
    Proc Moved := do
  let occupied ← driveOccupied src drv
  if !occupied then
    smc.refuse (sam_illegal_request E_MEDIUM_SRC_EMPTY none)
  else if dest.slotOccupied then
    smc.refuse (sam_illegal_request E_MEDIUM_DEST_FULL none)
  else if dest.is_map_slot && !smc.map_access_ok dest then
    smc.refuse (sam_not_ready E_MAP_OPEN)
  else smc.after_move_command i src dest <|
    -- a cartridge the host ejected is out of the drive already
    if src.slotAccess then
      smc.leave_drive i j drv
    else
      match smc.barcode i with
      | none => pure none
      | some barcode => do
        send_msg (unload barcode) drv.drv_id
        let failed ← check_tape_unload
        if failed then
          smc.refuse (sam_hardware_error E_MANUAL_INTERVENTION_REQ)
        else
          smc.leave_drive i j drv

/-- The cartridge goes back into the drive it came from, which is told to load it. -/
def put_back (smc : Smc) (i : ℕ) (drv : DriveInfo) (j : ℕ) : Proc Moved :=
  match smc.move_cart j i with
  | none => pure none
  | some smc =>
    match smc.barcode i with
    | none => pure none
    | some barcode => do
      send_msg (lload barcode) drv.drv_id
      let _ ← check_tape_load
      smc.refuse (sam_hardware_error E_MANUAL_INTERVENTION_REQ)

/-- Second half of a move between drives: the destination loads the cartridge. -/
def enter_drive (smc : Smc) (i : ℕ) (srcDrive : DriveInfo) (j : ℕ) (destDrive : DriveInfo) :
    Proc Moved :=
  match smc.barcode j with
  | none => pure none
  | some barcode => do
    send_msg (lload barcode) destDrive.drv_id
    let failed ← check_tape_load
    if failed then
      smc.put_back i srcDrive j
    else
      pure (some (smc.updateSlot j fun sp => sp.setAccessStatus false, Status.good))

/-- From one drive to another. -/
def move_drive2drive (smc : Smc) (src_addr : ℕ) (i : ℕ) (src : Slot) (srcDrive : DriveInfo)
    (dest_addr : ℕ) (j : ℕ) (dest : Slot) (destDrive : DriveInfo) : Proc Moved :=
  if src_addr = dest_addr then
    pure (some (smc, Status.good))
  else do
    let occupied ← driveOccupied src srcDrive
    if !occupied then
      smc.refuse (sam_illegal_request E_MEDIUM_SRC_EMPTY none)
    else do
      let occupied ← driveOccupied dest destDrive
      if occupied then
        smc.refuse (sam_illegal_request E_MEDIUM_DEST_FULL none)
      else smc.after_move_command i src dest <|
        match smc.barcode i with
        | none => pure none
        | some barcode => do
          send_msg (unload barcode) srcDrive.drv_id
          let failed ← check_tape_unload
          if failed then
            smc.refuse (sam_hardware_error E_MANUAL_INTERVENTION_REQ)
          else
            match smc.move_cart i j with
            | none => pure none
            | some smc => do
              let smc ← smc.setDriveEmpty i srcDrive
              smc.enter_drive i srcDrive j destDrive

/-- The move routine for a pair of element types. -/
def move (smc : Smc) (src_addr dest_addr : ℕ) : Proc Moved :=
  if smc.slot_type src_addr = some .DATA_TRANSFER then
    if smc.slot_type dest_addr = some .DATA_TRANSFER then
      match smc.drive2struct src_addr, smc.drive2struct dest_addr with
      | some (i, src, srcDrive), some (j, dest, destDrive) =>
        smc.move_drive2drive src_addr i src srcDrive dest_addr j dest destDrive
      | _, _ => pure none
    else
      match smc.drive2struct src_addr, smc.slot2struct dest_addr with
      | some (i, src, drv), some (j, dest) => smc.move_drive2slot i src drv j dest
      | _, _ => pure none
  else if smc.slot_type dest_addr = some .DATA_TRANSFER then
    match smc.slot2struct src_addr, smc.drive2struct dest_addr with
    | some (i, src), some (j, dest, drv) => smc.move_slot2drive i src j dest drv
    | _, _ => pure none
  else
    match smc.slot2struct src_addr, smc.slot2struct dest_addr with
    | some (i, src), some (j, dest) => smc.move_slot2slot i src j dest
    | _, _ => pure none

/-- Status for the addresses of a move. Of several bad ones the last is reported. -/
def addressStatus (smc : Smc) (transport_addr src_addr dest_addr : ℕ) : Status :=
  if !smc.valid_slot dest_addr then
    sam_illegal_request E_INVALID_ELEMENT_ADDR (some ⟨SKSV ||| CD, 6⟩)
  else if !smc.valid_slot src_addr then
    sam_illegal_request E_INVALID_ELEMENT_ADDR (some ⟨SKSV ||| CD, 4⟩)
  else if smc.slot_type transport_addr ≠ some .MEDIUM_TRANSPORT then
    sam_illegal_request E_INVALID_ELEMENT_ADDR (some ⟨SKSV ||| CD, 2⟩)
  else
    Status.good

/-- The MOVE MEDIUM command. -/
def smc_move_medium (smc : Smc) (cdb : Cdb) : Proc Moved :=
  let transport_addr := cdb.get_unaligned_be16 2
  let src_addr := cdb.get_unaligned_be16 4
  let dest_addr := cdb.get_unaligned_be16 6
  if cdb 10 ≠ 0 then
    smc.refuse (sam_illegal_request E_INVALID_FIELD_IN_CDB (some ⟨SKSV ||| CD, 10⟩))
  else if cdb 11 = 0xc0 then
    smc.refuse (sam_illegal_request E_INVALID_FIELD_IN_CDB (some ⟨SKSV ||| CD, 11⟩))
  else if cdb 11 ≠ 0 then
    -- extend or retract the import/export port: nothing to do
    pure (some (smc, Status.good))
  else
    let transport_addr := if transport_addr = 0 then smc.pm.start_picker else transport_addr
    let status := smc.addressStatus transport_addr src_addr dest_addr
    if status.sam_stat = SAM_STAT_GOOD then smc.move src_addr dest_addr else smc.refuse status

end Smc

end Mhvtl
