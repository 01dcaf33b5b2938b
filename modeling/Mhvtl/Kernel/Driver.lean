import Mathlib.Logic.Function.Basic
import Mhvtl.Lib.Bytes
import Mhvtl.Sense

/-!
# The kernel driver

The driver queues the SCSI commands of the mid level, one queue for each logical
unit. The daemon of a unit polls for the next command, fetches the data that come
with it and puts its answer; the driver then hands the command back to the mid
level. It does so too when the timer of a command runs out. Every entry point of
the driver is one step, and tells what it did to the commands.

An entry point is taken to run to its end before the next one begins. The driver
itself lets go of a queue between finding a command for a daemon and working on it,
and what a timer or an abort does to the command in between is left out. A unit goes
when it is removed; when the mid level destroys its device without that, the driver
keeps the unit that was freed in its list, and this is left out too.
-/

namespace Mhvtl.Kernel

/-- Logical units of a target. -/
def DEF_MAX_LUNS : ℕ := 32
/-- Minor numbers that the driver has room for. -/
def DEF_MAX_MINOR_NO : ℕ := 1024
/-- The largest piece of a buffer that is copied. -/
def SG_SEGMENT_SZ : ℕ := 65536
/-- No command waits. -/
def VTL_IDLE : ℤ := 0x00
/-- A command was handed out. -/
def VTL_QUEUE_CMD : ℤ := 0xfe
/-- Host byte: done. -/
def DID_OK : ℕ := 0x00
/-- Host byte: no such unit. -/
def DID_NO_CONNECT : ℕ := 0x01
/-- Host byte: error in the driver. -/
def DID_ERROR : ℕ := 0x07
/-- Error number: input or output failed. -/
def EIO : ℤ := 5
/-- Error number: out of memory. -/
def ENOMEM : ℤ := 12
/-- Error number: no such device. -/
def ENODEV : ℤ := 19
/-- Error number: not found here. -/
def ENOTTY : ℤ := 25
/-- The command that the driver answers itself. -/
def REPORT_LUNS : UInt8 := 0xa0
/-- The host has no number of its own. -/
def this_id : ℕ := 2 ^ 32 - 1
/-- Bytes of sense data. -/
def SENSE_BUF_SIZE : ℕ := 96

/-- The states of a queued command. -/
inductive CmdState where
  /-- Not in use. -/
  | CMD_STATE_FREE
  /-- Waits for the daemon. -/
  | CMD_STATE_QUEUED
  /-- The daemon has it. -/
  | CMD_STATE_IN_USE
  deriving DecidableEq, Repr

/-- Where the data of a command go. -/
inductive DataDirection where
  /-- Both ways. -/
  | DMA_BIDIRECTIONAL
  /-- From the initiator. -/
  | DMA_TO_DEVICE
  /-- To the initiator. -/
  | DMA_FROM_DEVICE
  /-- There are none. -/
  | DMA_NONE
  deriving DecidableEq, Repr

/-- The address of a logical unit. -/
structure Ctl where
  /-- Its channel. -/
  channel : ℕ
  /-- Its target. -/
  id : ℕ
  /-- Its number. -/
  lun : ℕ
  deriving DecidableEq, Repr

/-- A SCSI command of the mid level. -/
structure ScsiCmnd where
  /-- Tells it from all others. -/
  tag : ℕ
  /-- The unit it is for. -/
  device : Ctl
  /-- The command block. -/
  cmnd : List UInt8
  /-- Where its data go. -/
  sc_data_direction : DataDirection
  /-- The pieces of its buffer, with what is in them. -/
  sgl : List (List UInt8)
  /-- Bytes of the buffer that were not used. -/
  resid : ℕ
  /-- The result. -/
  result : ℕ
  /-- The sense data. -/
  sense_buffer : List UInt8
  deriving DecidableEq, Repr

/-- The length of the buffer of a command. -/
def ScsiCmnd.scsi_bufflen (scp : ScsiCmnd) : ℕ := (scp.sgl.map List.length).sum

/-- What the daemon is told of a command. -/
structure Header where
  /-- The number of the command. -/
  serialNo : ℕ
  /-- The command block. -/
  cdb : List UInt8
  deriving DecidableEq, Repr

/-- A command in a queue. -/
structure QueuedCmd where
  /-- Its state. -/
  state : CmdState
  /-- The command of the mid level. -/
  a_cmnd : ScsiCmnd
  /-- The result when the timer runs out. -/
  scsi_result : ℕ
  /-- What the daemon is told. -/
  op_header : Header
  /-- Its number. -/
  serial_number : ℕ
  deriving DecidableEq, Repr

/-- A logical unit. -/
structure Lu where
  /-- Its address. -/
  ctl : Ctl
  /-- It was reset. -/
  reset : Bool
  /-- The sense data of commands the driver answers itself. -/
  sense_buff : List UInt8
  /-- The commands that are not done. -/
  cmd_list : List QueuedCmd
  deriving DecidableEq, Repr

/-- The driver. -/
structure Driver where
  /-- The number of the next command. -/
  serial_number : ℕ
  /-- The logical units, by minor number. -/
  devp : ℕ → Option Lu
  /-- The minor numbers of the units of the adapter, in order. -/
  lu_list : List ℕ

/-- What the daemon puts. -/
structure Ds where
  /-- The data of the answer. -/
  data : List UInt8
  /-- The number of the command. -/
  serialNo : ℕ
  /-- The status. -/
  sam_stat : UInt8
  /-- The sense data. -/
  sense_buf : List UInt8
  deriving DecidableEq, Repr

/-- A command that left its queue. -/
structure Settled where
  /-- The unit. -/
  minor : ℕ
  /-- The queued command. -/
  sqcp : QueuedCmd
  /-- The command as it was handed back, if it was. -/
  back : Option ScsiCmnd
  deriving DecidableEq, Repr

/-- What an entry point did. -/
structure Effect where
  /-- What it returned. -/
  ret : ℤ := 0
  /-- The data it gave to the daemon. -/
  data : List UInt8 := []
  /-- The command it handed straight back. -/
  rejected : Option ScsiCmnd := none
  /-- The command it put into the queue of a unit. -/
  queued : Option (ℕ × QueuedCmd) := none
  /-- The command it handed out to the daemon of a unit. -/
  sent : Option (ℕ × QueuedCmd) := none
  /-- The commands that left their queues. -/
  settled : List Settled := []
  deriving DecidableEq, Repr

/-- Copy from the memory of the daemon into the buffer of a command: the buffer after it,
and the number of bytes copied. -/
def mhvtl_copy_from_user : List (List UInt8) → List UInt8 → List (List UInt8) × ℕ
  | [], _ => ([], 0)
  | page :: rest, data =>
    let len := min page.length data.length
    if data = [] ∨ SG_SEGMENT_SZ < len then
      (page :: rest, 0)
    else
      let r := mhvtl_copy_from_user rest (data.drop len)
      ((data.take len ++ page.drop len) :: r.1, len + r.2)

/-- Copy from the buffer of a command into the memory of the daemon, so many bytes. -/
def mhvtl_copy_to_user : List (List UInt8) → ℕ → List UInt8
  | [], _ => []
  | page :: rest, buflen =>
    let len := min page.length buflen
    if buflen = 0 ∨ SG_SEGMENT_SZ < len then
      []
    else
      page.take len ++ mhvtl_copy_to_user rest (buflen - len)

/-- Fetch the data of a command for the daemon. A negative length is a huge one to the copying. -/
def mhvtl_fetch_to_dev_buffer (scp : ScsiCmnd) (len : ℤ) : ℤ × List UInt8 :=
  if scp.scsi_bufflen = 0 then
    (0, [])
  else if scp.sc_data_direction ≠ .DMA_TO_DEVICE then
    (-1, [])
  else
    let fetched := mhvtl_copy_to_user scp.sgl (len % 2 ^ 64).toNat
    (fetched.length, fetched)

/-- Fetch the data of a command, all that were asked for. -/
def mhvtl_resp_write_to_user (scp : ScsiCmnd) (count : ℤ) : ℤ × List UInt8 :=
  let fetched := mhvtl_fetch_to_dev_buffer scp count
  if fetched.1 < count then (- EIO, fetched.2) else (0, fetched.2)

/-- Put the data of an answer into the buffer of a command. -/
def mhvtl_fill_from_user_buffer (scp : ScsiCmnd) (arr : List UInt8) : ScsiCmnd :=
  if scp.scsi_bufflen = 0 ∨ scp.sc_data_direction ≠ .DMA_FROM_DEVICE then
    scp
  else
    let copied := mhvtl_copy_from_user scp.sgl arr
    { scp with sgl := copied.1, resid := scp.scsi_bufflen - copied.2 }

/-- Hand a command back that was not queued. -/
def mhvtl_schedule_resp (scp : ScsiCmnd) (lu : Option Lu) (scsi_result : ℕ) : ScsiCmnd :=
  { scp with
    sense_buffer := if scsi_result % 256 = SAM_STAT_CHECK_CONDITION then
        (lu.map Lu.sense_buff).getD scp.sense_buffer else scp.sense_buffer
    result := scsi_result }

/-- Sense data made by the driver. -/
def mk_sense_buffer (key asc asq : UInt8) : List UInt8 :=
  ([0x70, 0, key, 0, 0, 0, 0, 0xa, 0, 0, 0, 0, asc, asq] : List UInt8) ++
    List.replicate (SENSE_BUF_SIZE - 14) 0

/-- The result of REPORT LUNS, and the unit after it. -/
def mhvtl_resp_report_luns (scp : ScsiCmnd) (lu : Lu) : ℕ × Lu :=
  let alloc_len := Bytes.beNat ((scp.cmnd.drop 6).take 4)
  if alloc_len < 16 ∨ 2 < scp.cmnd.getD 2 0 then
    (SAM_STAT_CHECK_CONDITION, { lu with sense_buff := mk_sense_buffer 5 0x24 0 })
  else if scp.scsi_bufflen = 0 ∨ scp.sc_data_direction = .DMA_FROM_DEVICE then
    (0, lu)
  else
    (DID_ERROR * 2 ^ 16, lu)

/-- The first command of a queue with a number. -/
def lookup_sqcp (lu : Lu) (serialNo : ℕ) : Option QueuedCmd :=
  lu.cmd_list.find? fun sqcp => sqcp.state ≠ .CMD_STATE_FREE && sqcp.serial_number == serialNo

/-- The queue without its first command with a number. -/
def mhvtl_remove_sqcp (lu : Lu) (serialNo : ℕ) : Lu :=
  { lu with cmd_list := lu.cmd_list.eraseP fun sqcp =>
      sqcp.state ≠ .CMD_STATE_FREE && sqcp.serial_number == serialNo }

/-- The number after one that was used. -/
def nextSerial (serial_number : ℕ) : ℕ :=
  ((if serial_number < 2 then 2 else serial_number) + 1) % 2 ^ 64

/-- The first command that waits, and the queue with it handed out. -/
def send_mhvtl_header : List QueuedCmd → Option (QueuedCmd × List QueuedCmd)
  | [] => none
  | sqcp :: rest =>
    if sqcp.state = .CMD_STATE_QUEUED then
      some (sqcp, { sqcp with state := .CMD_STATE_IN_USE } :: rest)
    else
      (send_mhvtl_header rest).map fun r => (r.1, sqcp :: r.2)

namespace Driver

/-- The driver when it was just started. -/
def mhvtl_init : Driver := ⟨2, fun _ => none, []⟩

/-- The driver with another logical unit under a minor number. -/
def setLu (d : Driver) (minor : ℕ) (lu : Lu) : Driver :=
  { d with devp := Function.update d.devp minor (some lu) }

/-- The minor number of the unit with an address. -/
def devInfoReg (d : Driver) (ctl : Ctl) : Option ℕ :=
  d.lu_list.find? fun minor => (d.devp minor).map Lu.ctl == some ctl

/-- The unit with an address, and its minor number. -/
def unitOf (d : Driver) (ctl : Ctl) : Option (ℕ × Lu) :=
  (d.devInfoReg ctl).bind fun minor => (d.devp minor).map fun lu => (minor, lu)

/-- Queue a command for the daemon of a unit. -/
def mhvtl_q_cmd (d : Driver) (scp : ScsiCmnd) (minor : ℕ) (lu : Lu) : Driver × Effect :=
  let sqcp : QueuedCmd :=
    { state := .CMD_STATE_QUEUED
      a_cmnd := scp
      scsi_result := 0
      op_header := ⟨d.serial_number, scp.cmnd⟩
      serial_number := d.serial_number }
  ({ d.setLu minor { lu with cmd_list := lu.cmd_list ++ [sqcp] } with
      serial_number := nextSerial d.serial_number },
    { queued := some (minor, sqcp) })

/-- A command of the mid level. The driver may find no memory to queue it. -/
def mhvtl_queuecommand (d : Driver) (scp : ScsiCmnd) (memory : Bool) : Driver × Effect :=
  let reject (lu : Option Lu) (scsi_result : ℕ) : Effect :=
    { rejected := some (mhvtl_schedule_resp scp lu scsi_result) }
  if scp.device.id = this_id ∨ DEF_MAX_LUNS ≤ scp.device.lun then
    (d, reject none (DID_NO_CONNECT * 2 ^ 16))
  else
    match d.unitOf scp.device with
    | none => (d, reject none (DID_NO_CONNECT * 2 ^ 16))
    | some (minor, lu) =>
      if scp.cmnd.head? = some REPORT_LUNS then
        let r := mhvtl_resp_report_luns scp lu
        (d.setLu minor r.2, reject (some r.2) r.1)
      else if memory then
        d.mhvtl_q_cmd scp minor lu
      else
        (d, reject (some lu) 1)

/-- The command with a number, in the first unit that has it. -/
def lookupAll (d : Driver) (indx : ℕ) : Option (ℕ × Lu × QueuedCmd) :=
  d.lu_list.findSome? fun minor => (d.devp minor).bind fun lu =>
    (lookup_sqcp lu indx).map fun sqcp => (minor, lu, sqcp)

/-- The timer of a queued command runs out. -/
def mhvtl_timer_intr_handler (d : Driver) (indx : ℕ) : Driver × Effect :=
  match d.lookupAll indx with
  | none => (d, {})
  | some (minor, lu, sqcp) =>
    (d.setLu minor (mhvtl_remove_sqcp lu indx),
      { settled := [⟨minor, sqcp, some { sqcp.a_cmnd with result := sqcp.scsi_result }⟩] })

/-- The mid level gives a command up. -/
def mhvtl_abort (d : Driver) (scp : ScsiCmnd) : Driver × Effect :=
  match d.unitOf scp.device with
  | none => (d, {})
  | some (minor, lu) =>
    let found (sqcp : QueuedCmd) : Bool :=
      sqcp.state ≠ .CMD_STATE_FREE && sqcp.a_cmnd.tag == scp.tag
    (d.setLu minor { lu with cmd_list := lu.cmd_list.eraseP found },
      { settled := ((lu.cmd_list.find? found).map fun sqcp => ⟨minor, sqcp, none⟩).toList })

/-- One unit is reset. -/
def mhvtl_device_reset (d : Driver) (ctl : Ctl) : Driver :=
  match d.unitOf ctl with
  | none => d
  | some (minor, lu) => d.setLu minor { lu with reset := true }

/-- All units are reset. -/
def mhvtl_bus_reset (d : Driver) : Driver :=
  { d with devp := fun minor => (d.devp minor).map fun lu => { lu with reset := true } }

/-- All units are reset and their queues emptied. -/
def mhvtl_host_reset (d : Driver) : Driver × Effect :=
  ({ d with devp := fun minor => (d.devp minor).map fun lu =>
        { lu with
          reset := true
          cmd_list := lu.cmd_list.filter fun sqcp => sqcp.state = .CMD_STATE_FREE } },
    { settled := d.lu_list.flatMap fun minor => ((d.devp minor).toList.flatMap Lu.cmd_list).filterMap
        fun sqcp => if sqcp.state = .CMD_STATE_FREE then none else some ⟨minor, sqcp, none⟩ })

/-- A logical unit is added. There may be no memory for it; and it stays when the mid level finds
no device. -/
def mhvtl_add_device (d : Driver) (minor : ℕ) (ctl : Ctl) (memory found : Bool) : Driver × Effect :=
  if (d.devp minor).isSome then
    (d, {})
  else if !memory then
    (d, { ret := -ENOMEM })
  else
    ({ d.setLu minor ⟨ctl, false, mk_sense_buffer 0 0 0, []⟩ with lu_list := d.lu_list ++ [minor] },
      { ret := if found then 0 else -ENODEV })

/-- A logical unit is removed, with what is in its queue. -/
def mhvtl_remove_lu (d : Driver) (ctl : Ctl) : Driver × Effect :=
  match d.unitOf ctl with
  | none => (d, {})
  | some (minor, lu) =>
    ({ d with devp := Function.update d.devp minor none, lu_list := d.lu_list.erase minor },
      { settled := lu.cmd_list.map fun sqcp => ⟨minor, sqcp, none⟩ })

/-- The daemon of a unit asks for a command. -/
def poll_and_get_header (d : Driver) (minor : ℕ) : Driver × Effect :=
  match d.devp minor with
  | none => (d, { ret := VTL_IDLE })
  | some lu =>
    match send_mhvtl_header lu.cmd_list with
    | none => (d, { ret := VTL_IDLE })
    | some (sqcp, cmd_list) =>
      (d.setLu minor { lu with cmd_list := cmd_list },
        { ret := VTL_QUEUE_CMD, sent := some (minor, sqcp) })

/-- The daemon of a unit fetches data of a command, so many bytes as an `int` holds. Without the unit
the driver fails. -/
def mhvtl_get_user_data (d : Driver) (minor serialNo sz : ℕ) : Option (Driver × Effect) :=
  (d.devp minor).map fun lu =>
    match lookup_sqcp lu serialNo with
    | none => (d, { ret := -ENOTTY })
    | some sqcp =>
      let r := mhvtl_resp_write_to_user sqcp.a_cmnd (Int.bmod sz (2 ^ 32))
      (d, { ret := r.1, data := r.2 })

/-- The command as the daemon's answer leaves it. -/
def answered (scp : ScsiCmnd) (ds : Ds) : ScsiCmnd :=
  let filled := mhvtl_fill_from_user_buffer scp ds.data
  if ds.sam_stat ≠ 0 then
    { filled with
      result := ds.sam_stat.toNat
      sense_buffer := ds.sense_buf.set 0 (ds.sense_buf.headD 0 ||| 0x70) }
  else
    { filled with result := DID_OK * 2 ^ 16 }

/-- The daemon of a unit puts its answer. Without the unit the driver fails. -/
def mhvtl_put_user_data (d : Driver) (minor : ℕ) (ds : Ds) : Option (Driver × Effect) :=
  (d.devp minor).map fun lu =>
    match lookup_sqcp lu ds.serialNo with
    | none => (d, { ret := 1 })
    | some sqcp =>
      (d.setLu minor (mhvtl_remove_sqcp lu ds.serialNo),
        { settled := [⟨minor, sqcp, some (answered sqcp.a_cmnd ds)⟩] })

/-- A call of a daemon, which comes with the minor number of its device. -/
def mhvtl_c_ioctl_bkl (d : Driver) (minor : ℕ) (r : Option (Driver × Effect)) :
    Option (Driver × Effect) :=
  if DEF_MAX_MINOR_NO ≤ minor then some (d, { ret := -ENODEV }) else r

end Driver

/-- The calls of the driver's entry points. -/
inductive Call where
  /-- The mid level gives a command. -/
  | queuecommand (scp : ScsiCmnd) (memory : Bool)
  /-- A timer runs out. -/
  | timer_intr_handler (indx : ℕ)
  /-- The mid level gives a command up. -/
  | abort (scp : ScsiCmnd)
  /-- The mid level resets a unit. -/
  | device_reset (ctl : Ctl)
  /-- The mid level resets the bus. -/
  | bus_reset
  /-- The mid level resets the host. -/
  | host_reset
  /-- The daemon of a unit polls. -/
  | poll (minor : ℕ)
  /-- The daemon of a unit fetches data. -/
  | get_data (minor serialNo sz : ℕ)
  /-- The daemon of a unit puts its answer. -/
  | put_data (minor : ℕ) (ds : Ds)
  /-- A unit is added. -/
  | add_device (minor : ℕ) (ctl : Ctl) (memory found : Bool)
  /-- A unit is removed. -/
  | remove_lu (ctl : Ctl)
  deriving DecidableEq, Repr

/-- The driver after a call and what the call did, unless the driver fails. For a unit it has no
room for it writes over something else. -/
def Driver.run (d : Driver) : Call → Option (Driver × Effect)
  | .queuecommand scp memory => some (d.mhvtl_queuecommand scp memory)
  | .timer_intr_handler indx => some (d.mhvtl_timer_intr_handler indx)
  | .abort scp => some (d.mhvtl_abort scp)
  | .device_reset ctl => some (d.mhvtl_device_reset ctl, {})
  | .bus_reset => some (d.mhvtl_bus_reset, {})
  | .host_reset => some d.mhvtl_host_reset
  | .poll minor => d.mhvtl_c_ioctl_bkl minor (some (d.poll_and_get_header minor))
  | .get_data minor serialNo sz => d.mhvtl_c_ioctl_bkl minor (d.mhvtl_get_user_data minor serialNo sz)
  | .put_data minor ds => d.mhvtl_c_ioctl_bkl minor (d.mhvtl_put_user_data minor ds)
  | .add_device minor ctl memory found =>
    if minor < DEF_MAX_MINOR_NO then some (d.mhvtl_add_device minor ctl memory found) else none
  | .remove_lu ctl => some (d.mhvtl_remove_lu ctl)

end Mhvtl.Kernel
