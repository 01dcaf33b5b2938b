import Mathlib.Data.Nat.Basic

/-!
# Command blocks, status and sense data

Every failing command leaves a SAM status and fixed-format sense data. Setting
sense data replaces whatever was there, so a status is a value.
-/

namespace Mhvtl

/-- The bytes of a command block. -/
abbrev Cdb : Type := ℕ → UInt8

/-- Two bytes of a command block, the high one first. -/
def Cdb.get_unaligned_be16 (cdb : Cdb) (i : ℕ) : ℕ :=
  (cdb i).toNat * 256 + (cdb (i + 1)).toNat

/-- Command completed. -/
def SAM_STAT_GOOD : ℕ := 0x00
/-- Sense data is available. -/
def SAM_STAT_CHECK_CONDITION : ℕ := 0x02

/-- Sense key: no error, the position is reported. -/
def NO_SENSE : ℕ := 0
/-- Sense key: no medium. -/
def NOT_READY : ℕ := 2
/-- Sense key: medium failure. -/
def MEDIUM_ERROR : ℕ := 3
/-- Sense key: hardware failure. -/
def HARDWARE_ERROR : ℕ := 4
/-- Sense key: bad command or parameter. -/
def ILLEGAL_REQUEST : ℕ := 5
/-- Sense key: the initiator has to be told something first. -/
def UNIT_ATTENTION : ℕ := 6
/-- Sense key: writing is not allowed. -/
def DATA_PROTECT : ℕ := 7
/-- Sense key: end of recorded data. -/
def BLANK_CHECK : ℕ := 8
/-- Sense key: medium full. -/
def VOLUME_OVERFLOW : ℕ := 0xd

/-- Flag of the key byte: a filemark was met. -/
def SD_FILEMARK : ℕ := 0x80
/-- Flag of the key byte: an end of the partition was met. -/
def SD_EOM : ℕ := 0x40
/-- Sense-key specific bytes are valid. -/
def SKSV : ℕ := 0x80
/-- The field pointer points into the command block. -/
def CD : ℕ := 0x40

/-- `struct s_sd`, the sense-key specific bytes. -/
structure SenseField where
  /-- Flags and bit pointer. -/
  byte0 : ℕ
  /-- Offset of the offending field. -/
  field_pointer : ℕ
deriving DecidableEq

/-- Fixed-format sense data. -/
structure Sense where
  /-- The information bytes hold something. -/
  valid : Bool
  /-- Sense key with the filemark and end-of-medium flags. -/
  key : ℕ
  /-- Residual count, bytes 3 to 6. -/
  information : ℕ
  /-- Additional sense code and qualifier. -/
  asc_ascq : ℕ
  /-- Sense-key specific bytes. -/
  sd : Option SenseField
deriving DecidableEq

/-- Cleared sense data. -/
def Sense.zero : Sense := ⟨false, 0, 0, 0, none⟩

/-- SAM status together with the sense data. -/
structure Status where
  /-- Status byte of the command. -/
  sam_stat : ℕ
  /-- Sense data last set. -/
  sense : Sense
deriving DecidableEq

/-- Status of a command that met no trouble. -/
def Status.good : Status := ⟨SAM_STAT_GOOD, Sense.zero⟩

/-- Medium cannot be read as a cartridge. -/
def E_MEDIUM_FMT_CORRUPT : ℕ := 0x3100
/-- End of recorded data. -/
def E_END_OF_DATA : ℕ := 0x0005
/-- Filemark met. -/
def E_MARK : ℕ := 0x0001
/-- Beginning of the partition met. -/
def E_BOM : ℕ := 0x0004
/-- No cartridge. -/
def E_MEDIUM_NOT_PRESENT : ℕ := 0x3a00
/-- Write failed. -/
def E_WRITE_ERROR : ℕ := 0x0c00
/-- Mode parameters changed. -/
def E_MODE_PARAMETERS_CHANGED : ℕ := 0x2a01

/-- The import/export port is open. -/
def E_MAP_OPEN : ℕ := 0x3a02
/-- An operator has to step in. -/
def E_MANUAL_INTERVENTION_REQ : ℕ := 0x0403
/-- No such element. -/
def E_INVALID_ELEMENT_ADDR : ℕ := 0x2101
/-- Bad field in the command block. -/
def E_INVALID_FIELD_IN_CDB : ℕ := 0x2400
/-- The destination holds a cartridge already. -/
def E_MEDIUM_DEST_FULL : ℕ := 0x3b0d
/-- The source holds no cartridge. -/
def E_MEDIUM_SRC_EMPTY : ℕ := 0x3b0e

/-- Sets the status and replaces the sense data. Unit attentions of the reset
family and of changed mode parameters carry no information bytes. -/
def return_sense (key asc_ascq : ℕ) (sd : Option SenseField) : Status where
  sam_stat := SAM_STAT_CHECK_CONDITION
  sense :=
    { valid := !(key == UNIT_ATTENTION &&
        (asc_ascq / 256 == 0x29 || asc_ascq == E_MODE_PARAMETERS_CHANGED))
      key := key
      information := 0
      asc_ascq := asc_ascq
      sd := sd }

/-- Unit attention. -/
def sam_unit_attention (ascq : ℕ) : Status := return_sense UNIT_ATTENTION ascq none
/-- Not ready. -/
def sam_not_ready (ascq : ℕ) : Status := return_sense NOT_READY ascq none
/-- Illegal request, pointing at the field when one is given. -/
def sam_illegal_request (ascq : ℕ) (sd : Option SenseField) : Status :=
  return_sense ILLEGAL_REQUEST ascq sd
/-- Medium error. -/
def sam_medium_error (ascq : ℕ) : Status := return_sense MEDIUM_ERROR ascq none
/-- Blank check. -/
def sam_blank_check (ascq : ℕ) : Status := return_sense BLANK_CHECK ascq none
/-- Data protect. -/
def sam_data_protect (ascq : ℕ) : Status := return_sense DATA_PROTECT ascq none
/-- Hardware error. -/
def sam_hardware_error (ascq : ℕ) : Status := return_sense HARDWARE_ERROR ascq none
/-- No sense key, only the position flags. -/
def sam_no_sense (key ascq : ℕ) : Status := return_sense (NO_SENSE ||| key) ascq none

/-- Store a residual count in the information bytes. -/
def Status.withInformation (s : Status) (n : ℕ) : Status :=
  { s with sense := { s.sense with information := n } }

end Mhvtl
