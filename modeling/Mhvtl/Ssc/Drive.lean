import Mhvtl.Cart.Formatting
import Mhvtl.Ssc.BlockProtection

/-!
# The tape drive

The drive's own state around the cartridge store: load status, mode pages,
protection and encryption settings, as in `struct priv_lu_ssc` and the globals
beside it. Code outside the repository, and the CRC and compression libraries,
come in as functions.
-/

namespace Mhvtl.Ssc

open Bytes Cart

/-- No cartridge is mounted. -/
def TAPE_UNLOADED : ℕ := 0
/-- A cartridge is mounted. -/
def TAPE_LOADED : ℕ := 1
/-- A cartridge is being mounted. -/
def TAPE_LOADING : ℕ := 2

/-- Compression type of zlib. -/
def ZLIB : UInt8 := 2
/-- Compression factor of a drive that does not compress. -/
def MHVTL_NO_COMPRESSION : UInt8 := 0

/-- Nothing more is said. -/
def NO_ADDITIONAL_SENSE : ℕ := 0x0000
/-- End of the partition met. -/
def E_EOM : ℕ := 0x0002
/-- The programmable warning in front of the end was met. -/
def E_PROGRAMMABLE_EARLY_WARNING : ℕ := 0x0007
/-- The drive is becoming ready. -/
def E_BECOMING_READY : ℕ := 0x0401
/-- Compression failed. -/
def E_COMPRESSION_CHECK : ℕ := 0x0c04
/-- A check word is wrong. -/
def E_LOGICAL_BLOCK_GUARD_FAILED : ℕ := 0x1001
/-- Data cannot be read. -/
def E_UNRECOVERED_READ : ℕ := 0x1100
/-- Decompressed data has the wrong CRC. -/
def E_DECOMPRESSION_CRC : ℕ := 0x110d
/-- Bad field in the parameter list. -/
def E_INVALID_FIELD_IN_PARMS : ℕ := 0x2600
/-- Writing is switched off. -/
def E_WRITE_PROTECT : ℕ := 0x2700
/-- The medium is of the wrong kind. -/
def E_MEDIUM_INCOMPATIBLE : ℕ := 0x3000
/-- A cleaning cartridge is in the drive. -/
def E_CLEANING_CART_INSTALLED : ℕ := 0x3003
/-- Recorded data would be overwritten. -/
def E_MEDIUM_OVERWRITE_ATTEMPT : ℕ := 0x300c
/-- The position is not the beginning of the partition. -/
def E_POSITION_PAST_BOM : ℕ := 0x3b0c
/-- The block is encrypted and decryption is off. -/
def E_UNABLE_TO_DECRYPT : ℕ := 0x7401
/-- The block is not encrypted and decryption is on. -/
def E_UNENCRYPTED_DATA : ℕ := 0x7402
/-- The block was encrypted with another key. -/
def E_INCORRECT_KEY : ℕ := 0x7403
/-- Flag of the key byte: the length was another one than requested. -/
def SD_ILI : ℕ := 0x20
/-- The bit pointer is valid. -/
def BPV : ℕ := 0x08

/-- `struct mode`: the current values of a mode page and which can be changed. -/
structure ModePage where
  /-- Page code. -/
  pcode : UInt8
  /-- Subpage code. -/
  subpcode : UInt8
  /-- Current values, header bytes included. -/
  pcodePointer : List UInt8
  /-- Changeable values. -/
  pcodePointerBitMap : List UInt8
deriving DecidableEq

namespace ModePage

/-- A byte of the current values. -/
def byte (m : ModePage) (i : ℕ) : UInt8 := m.pcodePointer.getD i 0

/-- Two bytes of the current values, the high one first. -/
def be16 (m : ModePage) (i : ℕ) : ℕ := (m.byte i).toNat * 256 + (m.byte (i + 1)).toNat

/-- Replace a byte of the current values. -/
def setByte (m : ModePage) (i : ℕ) (b : UInt8) : ModePage :=
  { m with pcodePointer := m.pcodePointer.set i b }

end ModePage

/-- Page code of the control pages. -/
def MODE_CONTROL : UInt8 := 0x0a
/-- Page code of the data compression page. -/
def MODE_DATA_COMPRESSION : UInt8 := 0x0f
/-- Page code of the device configuration pages. -/
def MODE_DEVICE_CONFIGURATION : UInt8 := 0x10
/-- Page code of the medium partition page. -/
def MODE_MEDIUM_PARTITION : UInt8 := 0x11

/-- The page with the given codes. -/
def lookup_mode_pg (l : List ModePage) (page subpage : UInt8) : Option ModePage :=
  l.find? fun m => m.pcode = page ∧ m.subpcode = subpage

/-- Change the page that `lookup_mode_pg` finds. -/
def modify_mode_pg (l : List ModePage) (page subpage : UInt8) (f : ModePage → ModePage) :
    List ModePage :=
  match l with
  | [] => []
  | m :: l =>
    if m.pcode = page ∧ m.subpcode = subpage then f m :: l
    else m :: modify_mode_pg l page subpage f

/-- The 3592 drives, which rule about encryption by the format of the medium. -/
inductive Drive3592 where
  | J1A | E05 | E06 | E07
deriving DecidableEq

/-- Density that a 3592 drive accepts besides its own. -/
def Drive3592.older : Drive3592 → Option UInt8
  | J1A => none
  | E05 => some 0x51
  | E06 => some 0x52
  | E07 => some 0x53

/-- The checks of the key in front of a READ, of which a personality has one. -/
inductive KeyCheck where
  /-- The default one. -/
  | valid_encryption_blk
  /-- That of the T10000 drives. -/
  | valid_encryption_blk_t10k
  /-- That of the 9840 drives. -/
  | valid_encryption_blk_9840
deriving DecidableEq

/-- `struct ssc_personality_template`, as far as the commands read it. -/
structure Personality where
  /-- The drive has an append-only mode. -/
  drive_supports_append_only_mode : Bool
  /-- The drive warns in front of the end of a partition. -/
  drive_supports_early_warning : Bool
  /-- The drive warns where it is told to. -/
  drive_supports_prog_early_warning : Bool
  /-- Logical block protection: none, Reed-Solomon only, CRC32C as well. -/
  drive_supports_LBP : ℕ
  /-- Density the drive writes. -/
  native_drive_density : UInt8
  /-- Encryption rules of the medium, which only the 3592 drives have. -/
  valid_encryption_media : Option Drive3592
  /-- The check of the key in front of a READ. -/
  valid_encryption_blk : KeyCheck
  /-- Whether the lengths of the key-associated data are refused. -/
  kad_validation : ℕ → ℕ → ℕ → Bool
  /-- No 3592 drive has logical block protection. -/
  lbp_plain : drive_supports_LBP ≠ 0 → valid_encryption_media = none

/-- What the drive calls outside its own code. -/
structure Libs where
  /-- CRC32C of some bytes, from a seed. -/
  crc32c : UInt32 → List UInt8 → UInt32
  /-- lzo compression. -/
  lzo1x_1_compress : List UInt8 → Option (List UInt8)
  /-- lzo decompression into a buffer of the given size. -/
  lzo1x_decompress_safe : List UInt8 → ℕ → Option (List UInt8)
  /-- zlib compression at a level. -/
  compress2 : List UInt8 → ℕ → Option (List UInt8)
  /-- zlib decompression into a buffer of the given size. -/
  uncompress : List UInt8 → ℕ → Option (List UInt8)
  /-- `(uint64_t)((double)size * budget / fixed)`. -/
  scale : ℕ → ℕ → ℕ → ℕ

/-- Size of the data buffer. -/
def bufsize : ℕ := 2 * 1024 * 1024

/-- The state of a drive. -/
structure Drive where
  /-- The cartridge. -/
  cart : Store
  /-- Mounted or not. -/
  load_status : ℕ
  /-- The kind of drive. -/
  pm : Personality
  /-- Mode pages. -/
  mode_pg : List ModePage
  /-- Medium type of the mode parameter header. -/
  mode_media_type : UInt8
  /-- Memory of the block descriptor, eight bytes long. -/
  modeBlockDescriptor : ℕ → UInt8
  /-- Recorded data must not be overwritten. -/
  append_only_mode : Bool
  /-- The write protect switch. -/
  MediaWriteProtect : Bool
  /-- 0 for none, 1 for Reed-Solomon, 2 for CRC32C. -/
  LBP_method : ℕ
  /-- Check words on write. -/
  LBP_W : Bool
  /-- Check words on read. -/
  LBP_R : Bool
  /-- Byte order of the Reed-Solomon CRC. -/
  lbp_rscrc_be : Bool
  /-- Compression factor of the configuration file. -/
  configCompressionFactor : UInt8
  /-- lzo or zlib. -/
  compressionType : UInt8
  /-- Distance of the early warning from the end. -/
  early_warning_sz : ℕ
  /-- Distance of the programmable warning from the early warning. -/
  prog_early_warning_sz : ℕ
  /-- `OK_2_write` points at `OK_to_write`; otherwise it is null. -/
  OK_2_write : Bool
  /-- The volume change reference was counted up since the load. -/
  vcr_updated : Bool
  /-- An overwrite was allowed. -/
  allow_overwrite : Bool
  /-- Where it was allowed. -/
  allow_overwrite_block : ℕ
  /-- Number of keys received. -/
  KEY_INSTANCE_COUNTER : UInt32
  /-- Encryption mode. -/
  ENCRYPT_MODE : ℕ
  /-- Decryption mode. -/
  DECRYPT_MODE : ℕ
  /-- The key the initiator sent last. -/
  app_encryption_state : BoundedEncryption
  /-- `app_encr_info` points at the key; otherwise it is null. -/
  app_encr_info : Bool
  /-- Bytes read from the medium. -/
  bytesRead_M : ℕ
  /-- Bytes read and sent to the initiator. -/
  bytesRead_I : ℕ
  /-- Bytes written to the medium. -/
  bytesWritten_M : ℕ
  /-- Bytes received from the initiator. -/
  bytesWritten_I : ℕ

namespace Drive

/-- Work on the cartridge. -/
def onCart (d : Drive) (f : Store → Store) : Drive := { d with cart := f d.cart }

@[simp] theorem onCart_cart (d : Drive) (f : Store → Store) : (d.onCart f).cart = f d.cart := rfl

/-- Set status and sense data. -/
def report (d : Drive) (s : Status) : Drive := { d with cart := { d.cart with status := s } }

/-- The status a command returns, whatever it left before. -/
def returns (d : Drive) (sam_stat : ℕ) : Drive :=
  { d with cart := { d.cart with status := { d.cart.status with sam_stat := sam_stat } } }

/-- `declare_ssc_vars` begins with good status. -/
def declare_ssc_vars (d : Drive) : Drive := d.returns SAM_STAT_GOOD

/-- Change an attribute of the cartridge in memory. -/
def setMam (d : Drive) (f : Mam → Mam) : Drive :=
  { d with cart := { d.cart with mam := f d.cart.mam } }

/-- The status of the command so far. -/
def sam_stat (d : Drive) : ℕ := d.cart.status.sam_stat

/-- Target of the pointer into the device configuration page. -/
def compressionFactor (d : Drive) : UInt8 :=
  ((lookup_mode_pg d.mode_pg MODE_DEVICE_CONFIGURATION 0).map (·.byte 14)).getD 0

/-- `app_encr_info` as `write_tape_block` takes it. -/
def encryptp (d : Drive) : Option BoundedEncryption :=
  if d.app_encr_info then some d.app_encryption_state else none

end Drive

/-- Big-endian number of three bytes. -/
def be24 (b : ℕ → UInt8) (i : ℕ) : ℕ :=
  (b i).toNat * 65536 + (b (i + 1)).toNat * 256 + (b (i + 2)).toNat

/-- Three bytes are a number of 24 bits. -/
theorem be24_lt (b : ℕ → UInt8) (i : ℕ) : be24 b i < 2 ^ 24 := by
  have h₀ := (b i).toNat_lt
  have h₁ := (b (i + 1)).toNat_lt
  have h₂ := (b (i + 2)).toNat_lt
  rw [be24]
  omega

/-- `FIXED_BLOCK` of a command block. -/
def fixedBlock (cdb : Cdb) : Bool := cdb 1 &&& 1 ≠ 0

/-- `SILI` of a command block. -/
def sili (cdb : Cdb) : Bool := cdb 1 &&& 2 ≠ 0

/-- Number and size of the blocks of a 6-byte command. -/
def opcode_6_params (d : Drive) (cdb : Cdb) : ℕ × ℕ :=
  if fixedBlock cdb then (be24 cdb 2, be24 d.modeBlockDescriptor 5) else (1, be24 cdb 2)

/-- Counts the volume change reference up once a load; 0 is left out. -/
def update_volume_change_reference (d : Drive) : Drive :=
  if d.vcr_updated then d else
  let vcr := (d.cart.mam.be .VolumeChangeReference + 1) % 2 ^ 32
  let vcr := if vcr = 0 then 1 else vcr
  let d := d.setMam (·.putBe .VolumeChangeReference vcr)
  { d with vcr_updated := true }.onCart fun c => c.rewriteMAM.2

/-- Whether the medium may be written at the position, with sense data when not.
In append-only mode a refusal clears the pointer it then reads through. -/
def check_restrictions (d : Drive) : Option (Bool × Drive) :=
  let d := d.declare_ssc_vars
  let allow := fun (d : Drive) (b : Bool) => d.onCart fun c => { c with OK_to_write := b }
  let refuse := fun (d : Drive) (s : Status) => some (false, allow (d.report s) false)
  if !d.OK_2_write then none
  else if d.load_status = TAPE_LOADING then refuse d (sam_not_ready E_BECOMING_READY)
  else if d.load_status = TAPE_UNLOADED then refuse d (sam_not_ready E_MEDIUM_NOT_PRESENT)
  else if d.load_status ≠ TAPE_LOADED then refuse d (sam_not_ready E_MEDIUM_FMT_CORRUPT)
  else
  let type := d.cart.mam.MediumType
  if type = MEDIA_TYPE_NULL then some (true, allow d true) else
  let d :=
    if type = MEDIA_TYPE_CLEAN then allow (d.report (sam_not_ready E_CLEANING_CART_INSTALLED)) false
    else if type = MEDIA_TYPE_WORM then
      if d.cart.c_pos.blk_type = B_EOD then allow d true
      else if d.cart.OK_to_write then d
      else d.report (sam_data_protect E_MEDIUM_OVERWRITE_ATTEMPT)
    else if type = MEDIA_TYPE_DATA then allow d true
    else allow (d.report (sam_illegal_request E_MEDIUM_INCOMPATIBLE none)) false
  if d.cart.OK_to_write ∧ d.MediaWriteProtect then refuse d (sam_data_protect E_WRITE_PROTECT)
  else if d.cart.OK_to_write ∧ d.append_only_mode ∧
      d.cart.c_pos.blk_number ≠ d.allow_overwrite_block ∧ d.cart.c_pos.blk_type ≠ B_EOD then none
  else some (d.cart.OK_to_write, d)

/-- Where the capacity of a partition is recorded on the medium. -/
def partitionCapacity : ℕ → MamField
  | 0 => .partition_capacity0
  | 1 => .partition_capacity1
  | 2 => .partition_capacity2
  | _ => .partition_capacity3

/-- The capacity recorded for a partition, 0 for none. -/
def recorded_partition_capacity (m : Mam) (p : ℕ) : ℕ :=
  if p < MAX_PARTITIONS then m.be (partitionCapacity p) else 0

/-- The number of partitions, one when it was never set. -/
def partitionCount (m : Mam) : ℕ := if m.num_partitions = 0 then 1 else m.num_partitions

/-- The size descriptor of a partition in the medium partition page. -/
def ModePage.descriptor (mp : ModePage) (k : ℕ) : ℕ := mp.be16 (8 + 2 * k)

/-- Descriptor that asks for what is left. -/
def REMAINDER : ℕ := 0xffff

/-- What the medium partition page makes of a medium with `num` partitions: fixed
sizes, scaled down when they do not fit, and equal parts of what is left. -/
def sharedOut (L : Libs) (mp : ModePage) (medium num p : ℕ) : ℕ :=
  let unit := 10 ^ ((mp.byte 6).toNat % 16)
  let size := fun k => if mp.descriptor k = REMAINDER then 0 else mp.descriptor k * unit % 2 ^ 64
  let fixed := ((List.range num).map size).sum % 2 ^ 64
  let remainder_count := ((List.range num).filter fun k => mp.descriptor k = REMAINDER).length
  let budget := if remainder_count ≠ 0 then medium / 2 else medium
  if mp.descriptor p = REMAINDER then (medium - min fixed budget) / remainder_count
  else if budget < fixed then L.scale (size p) budget fixed
  else size p

/-- Capacity of a partition by the medium partition page. The local arrays have
room for `MAX_PARTITIONS`. -/
def medium_partition_capacity_from_mode_page (L : Libs) (d : Drive) (p : ℕ) : Option ℕ :=
  let medium := d.cart.mam.be .max_capacity
  let num := partitionCount d.cart.mam
  if num ≤ p then some 0
  else if num = 1 then some medium
  else match lookup_mode_pg d.mode_pg MODE_MEDIUM_PARTITION 0 with
  | none => some (medium / num)
  | some mp => if MAX_PARTITIONS < num then none else some (sharedOut L mp medium num p)

/-- Capacity of a partition: what the medium says, else the mode page. -/
def medium_partition_capacity (L : Libs) (d : Drive) (p : ℕ) : Option ℕ :=
  let recorded := recorded_partition_capacity d.cart.mam p
  if recorded ≠ 0 then some recorded else medium_partition_capacity_from_mode_page L d p

end Mhvtl.Ssc
