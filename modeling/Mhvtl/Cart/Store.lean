import Mhvtl.Cart.Header
import Mhvtl.Lib.ByteFile
import Mhvtl.Mam.Attributes
import Mhvtl.Sense

/-!
# The cartridge store

The globals of `vtlcart.c` as one state, and the functions on it. Host calls
on open files take their outcome from a schedule, so that a failing or short
write can be put at any place. Memory allocation is taken to succeed.
-/

namespace Mhvtl.Cart

/-- Partitions the arrays have room for. -/
def MAX_PARTITIONS : ℕ := 4
/-- Allocation step of the filemark map. -/
def FM_DELTA : ℕ := 500
/-- Largest block number that `write_tape_block` accepts. -/
def MAX_BLK_NUMBER : ℕ := 0xfffffff0

/-- The three files of a partition. -/
inductive FileKind where
  | data | indx | metaf
deriving DecidableEq

/-- How the host answers a `pwrite` or an `ftruncate`. -/
inductive IoResult where
  /-- Done in full. -/
  | ok
  /-- Returned -1. -/
  | fail
  /-- Only `n` bytes written; a truncation fails. -/
  | short (n : ℕ)
deriving DecidableEq

/-- Directory of a cartridge. -/
structure Dir where
  /-- `data.<p>`, `indx.<p>` and `meta.<p>`. -/
  file : FileKind → ℕ → Option File
  /-- The mam file. -/
  mam : Option (List UInt8)
  /-- The mhvtl_data file. -/
  mhvtl_data : Option (List UInt8)

/-- Globals of `vtlcart.c`, and those of `vtllib.c` that it uses. Arrays are
indexed by partition; `change_partition` is called below `MAX_PARTITIONS` only. -/
structure Store where
  /-- Files under `currentPCL`. -/
  dir : Dir
  /-- Whether `datafile`, `indxfile`, `metafile` of a partition are open. -/
  fd : FileKind → ℕ → Bool
  /-- `mamfile` is open. -/
  mamfile : Bool
  /-- `mhvtlfile` is open. -/
  mhvtlfile : Bool
  /-- Header at the current position; its `hdr` is `*c_pos`. -/
  raw_pos : RawHeader
  /-- `meta[]`. -/
  meta_hdr : ℕ → MetaHeader
  /-- Size of the data of a partition. -/
  eod_data_offset : ℕ → ℕ
  /-- Number of blocks of a partition. -/
  eod_blk_number : ℕ → ℕ
  /-- Entries allocated for the filemark map. -/
  filemark_alloc : ℕ → ℕ
  /-- Memory of the filemark map. -/
  filemarks : ℕ → ℕ → ℕ
  /-- Write permission that follows the position. -/
  OK_to_write : Bool
  /-- Attributes of the loaded cartridge. -/
  mam : Mam
  /-- Status and sense data of the command. -/
  status : Status
  /-- Outcomes of the next host calls; past its end every call succeeds. -/
  io : List IoResult

namespace Store

/-- `*c_pos`. -/
def c_pos (c : Store) : BlkHeader := c.raw_pos.hdr

/-- `c_pos->partition_id`. -/
def partition_id (c : Store) : ℕ := c.raw_pos.hdr.partition_id

/-- The entries of the filemark map that are in use. -/
def filemarkMap (c : Store) (p : ℕ) : List ℕ :=
  (List.range (c.meta_hdr p).filemark_count).map (c.filemarks p)

/-- Take the next outcome off the schedule. -/
def nextIo (c : Store) : IoResult × Store := (c.io.headD .ok, { c with io := c.io.tail })

/-- Replace a file of the directory. -/
def setFile (c : Store) (k : FileKind) (p : ℕ) (f : Option File) : Store :=
  { c with dir := { c.dir with
      file := fun k' p' => if k' = k ∧ p' = p then f else c.dir.file k' p' } }

/-- `pwrite`: the number of bytes written, or -1. -/
def pwrite (c : Store) (k : FileKind) (p : ℕ) (bs : List UInt8) (off : ℕ) : ℤ × Store :=
  match c.fd k p, c.dir.file k p with
  | true, some f =>
    match c.nextIo with
    | (.ok, c) => (bs.length, c.setFile k p (some (f.pwrite off bs)))
    | (.fail, c) => (-1, c)
    | (.short n, c) =>
      if n < bs.length then (n, c.setFile k p (some (f.pwrite off (bs.take n)))) else (-1, c)
  | _, _ => (-1, c)

/-- `ftruncate`: 0, or -1 with the file as it was. -/
def ftruncate (c : Store) (k : FileKind) (p len : ℕ) : ℤ × Store :=
  match c.fd k p, c.dir.file k p with
  | true, some f =>
    match c.nextIo with
    | (.ok, c) => (0, c.setFile k p (some (f.ftruncate len)))
    | (_, c) => (-1, c)
  | _, _ => (-1, c)

/-- `pread`: the bytes that exist, nothing when the file is not open. -/
def pread (c : Store) (k : FileKind) (p off n : ℕ) : Option (List UInt8) :=
  match c.fd k p, c.dir.file k p with
  | true, some f => some (f.pread off n)
  | _, _ => none

/-- Makes the position the end of the current partition. -/
def mkEODHeader (c : Store) (blk_number data_offset : ℕ) : ℤ × Store :=
  (0, { c with
    raw_pos := eodHeader c.partition_id blk_number data_offset
    eod_blk_number := Function.update c.eod_blk_number c.partition_id blk_number
    eod_data_offset := Function.update c.eod_data_offset c.partition_id data_offset
    OK_to_write := true })

/-- Reads the header of a block into the position. A block beyond end of data is
only logged. A short read leaves the tail of the old position in place. -/
def read_header (c : Store) (blk_number : ℕ) : ℤ × Store :=
  let p := c.partition_id
  if c.eod_blk_number p < blk_number then (0, c)
  else if blk_number = c.eod_blk_number p then
    (0, (c.mkEODHeader (c.eod_blk_number p) (c.eod_data_offset p)).2)
  else
    match c.pread .indx p (blk_number * HEADER_SIZE) HEADER_SIZE with
    | none => (-1, { c with status := sam_medium_error E_MEDIUM_FMT_CORRUPT })
    | some bs =>
      let c := { c with raw_pos := raw_header.overlay bs c.raw_pos }
      if bs.length ≠ HEADER_SIZE then (-1, { c with status := sam_medium_error E_END_OF_DATA })
      else (0, c)

/-- Whether the current partition is open; sets NOT READY when it is not. -/
def tape_loaded (c : Store) : Bool × Store :=
  if c.fd .data c.partition_id then (true, c)
  else (false, { c with status := sam_not_ready E_MEDIUM_NOT_PRESENT })

/-- Rewrites the meta file of the current partition from `meta` and `filemarks`. -/
def rewrite_meta_file (c : Store) : ℤ × Store :=
  let p := c.partition_id
  let (nwrite, c) := c.pwrite .metaf p (meta_header.enc (c.meta_hdr p)) 0
  if nwrite ≠ HEADER_SIZE then (-1, c) else
  let io_size := (c.meta_hdr p).filemark_count * 4
  let (nwrite, c) : ℤ × Store :=
    if io_size ≠ 0 then c.pwrite .metaf p ((Codec.uint 4).encList (c.filemarkMap p)) HEADER_SIZE
    else (0, c)
  if nwrite ≠ io_size then (-1, c) else
  let (rc, c) := c.ftruncate .metaf p (HEADER_SIZE + io_size)
  if rc < 0 then (-1, c) else (0, c)

/-- `meta[p].filemark_count = n`. -/
def setFilemarkCount (c : Store) (p n : ℕ) : Store :=
  { c with meta_hdr := Function.update c.meta_hdr p { c.meta_hdr p with filemark_count := n } }

/-- `filemarks[p][n] = blk_number`. -/
def setFilemark (c : Store) (p n blk_number : ℕ) : Store :=
  { c with filemarks :=
      Function.update c.filemarks p (Function.update (c.filemarks p) n blk_number) }

/-- Cuts the current partition at the position before a rewrite. -/
def check_for_overwrite (c : Store) : ℤ × Store :=
  if c.c_pos.blk_type = B_EOD then (0, c) else
  let p := c.partition_id
  let blk_number := c.c_pos.blk_number
  let data_offset := c.raw_pos.data_offset
  let (rc, c) := c.ftruncate .indx p (blk_number * HEADER_SIZE)
  if rc ≠ 0 then (-1, { c with status := sam_medium_error E_WRITE_ERROR }) else
  let (rc, c) := c.ftruncate .data p data_offset
  if rc ≠ 0 then (-1, { c with status := sam_medium_error E_WRITE_ERROR }) else
  match (c.filemarkMap p).findIdx? (blk_number ≤ ·) with
  | none => (0, c)
  | some i => (c.setFilemarkCount p i).rewrite_meta_file

/-- Makes room for `count` filemarks. The rounded-up size is computed in 32 bits;
when it wraps to zero, `realloc` frees the map and returns NULL. -/
def check_filemarks_alloc (c : Store) (count : ℕ) : ℤ × Store :=
  let p := c.partition_id
  if c.filemark_alloc p < count then
    let new_size := (count + FM_DELTA - 1) % 2 ^ 32 / FM_DELTA * FM_DELTA
    if new_size = 0 then (-1, c)
    else (0, { c with filemark_alloc := Function.update c.filemark_alloc p new_size })
  else (0, c)

/-- Appends a filemark to the map and rewrites the meta file. -/
def add_filemark (c : Store) (blk_number : ℕ) : ℤ × Store :=
  let p := c.partition_id
  let (rc, c) := c.check_filemarks_alloc ((c.meta_hdr p).filemark_count + 1)
  if rc ≠ 0 then (-1, c) else
  let n := (c.meta_hdr p).filemark_count
  ((c.setFilemark p n blk_number).setFilemarkCount p (n + 1)).rewrite_meta_file

/-- Write permission at block 0. A WORM medium has it only when the partition is
empty or holds one filemark; other types keep what they had. -/
def rewindPermission (c : Store) : Bool :=
  if c.mam.MediumType = MEDIA_TYPE_CLEAN then false
  else if c.mam.MediumType = MEDIA_TYPE_WORM then
    c.c_pos.blk_type = B_EOD ∨
      (c.c_pos.blk_type = B_FILEMARK ∧ c.eod_blk_number c.partition_id = 1)
  else if c.mam.MediumType = MEDIA_TYPE_DATA then true
  else c.OK_to_write

/-- Positions at block 0. -/
def rewind_tape (c : Store) : ℤ × Store :=
  let (loaded, c) := c.tape_loaded
  if !loaded then (-1, c) else
  let (rc, c) := c.read_header 0
  if rc ≠ 0 then (-1, c) else (1, { c with OK_to_write := c.rewindPermission })

/-- Positions at end of data. -/
def position_to_eod (c : Store) : ℤ × Store :=
  let (loaded, c) := c.tape_loaded
  if !loaded then (-1, c) else
  let (rc, c) := c.read_header (c.eod_blk_number c.partition_id)
  if rc ≠ 0 then (-1, c) else
  if c.mam.MediumType = MEDIA_TYPE_WORM then (0, { c with OK_to_write := true }) else (0, c)

/-- Positioning takes the write permission of a WORM medium away. -/
def clearWormWrite (c : Store) : Store :=
  if c.mam.MediumType = MEDIA_TYPE_WORM then { c with OK_to_write := false } else c

/-- Positions at a block, or at end of data when there are fewer blocks. -/
def position_to_block (c : Store) (blk_number : ℕ) : ℤ × Store :=
  let (loaded, c) := c.tape_loaded
  if !loaded then (-1, c) else
  let c := c.clearWormWrite
  if c.eod_blk_number c.partition_id < blk_number then
    { c with status := sam_blank_check E_END_OF_DATA : Store }.position_to_eod
  else if blk_number = 0 then c.rewind_tape
  else c.read_header blk_number

/-- Set a sense with the residual count of a positioning command. -/
def stopShort (c : Store) (s : Status) (residual : ℕ) : ℤ × Store :=
  (-1, { c with status := s.withInformation (residual % 2 ^ 32) })

/-- Index of the last entry below `n`. -/
def lastBelow (l : List ℕ) (n : ℕ) : Option ℕ :=
  (List.range l.length).reverse.find? fun i => l.getD i 0 < n

/-- Spaces over blocks towards end of data; stops behind a filemark. -/
def position_blocks_forw (c : Store) (count : ℕ) : ℤ × Store :=
  let (loaded, c) := c.tape_loaded
  if !loaded then (-1, c) else
  let c := c.clearWormWrite
  let p := c.partition_id
  let blk_target := (c.c_pos.blk_number + count) % 2 ^ 32
  match (c.filemarkMap p).findIdx? (c.c_pos.blk_number ≤ ·) with
  | some i =>
    let fm := c.filemarks p i
    if blk_target ≤ fm then c.position_to_block blk_target else
    let residual := blk_target - c.c_pos.blk_number + 1
    let (rc, c) := c.read_header (fm + 1)
    if rc ≠ 0 then (-1, c) else c.stopShort (sam_no_sense SD_FILEMARK E_MARK) residual
  | none =>
    if c.eod_blk_number p < blk_target then
      let residual := blk_target - c.eod_blk_number p
      let (rc, c) := c.read_header (c.eod_blk_number p)
      if rc ≠ 0 then (-1, c) else c.stopShort (sam_blank_check E_END_OF_DATA) residual
    else c.position_to_block blk_target

/-- Spaces over blocks towards the start; stops in front of a filemark. The target
is unsigned, so the test for a target before block 0 never holds. -/
def position_blocks_back (c : Store) (count : ℕ) : ℤ × Store :=
  let (loaded, c) := c.tape_loaded
  if !loaded then (-1, c) else
  let c := c.clearWormWrite
  let p := c.partition_id
  let blk_target := (((c.c_pos.blk_number : ℤ) - count) % 2 ^ 32).toNat
  match lastBelow (c.filemarkMap p) c.c_pos.blk_number with
  | some i =>
    let fm := c.filemarks p i
    if fm < blk_target then c.position_to_block blk_target else
    let residual := c.c_pos.blk_number - blk_target
    let (rc, c) := c.read_header fm
    if rc ≠ 0 then (-1, c) else c.stopShort (sam_no_sense SD_FILEMARK E_MARK) residual
  | none => c.position_to_block blk_target

/-- Spaces over filemarks towards end of data. -/
def position_filemarks_forw (c : Store) (count : ℕ) : ℤ × Store :=
  let (loaded, c) := c.tape_loaded
  if !loaded then (-1, c) else
  let c := c.clearWormWrite
  let p := c.partition_id
  let n := (c.meta_hdr p).filemark_count
  let i := (c.filemarkMap p).findIdx (c.c_pos.blk_number ≤ ·)
  let j := (((i : ℤ) + count - 1) % 2 ^ 64).toNat
  if j < n then c.position_to_block ((c.filemarks p j + 1) % 2 ^ 32) else
  let residual := (((i : ℤ) + count - n) % 2 ^ 64).toNat
  let (rc, c) := c.read_header (c.eod_blk_number p)
  if rc ≠ 0 then (-1, c) else c.stopShort (sam_blank_check E_END_OF_DATA) residual

/-- Spaces over filemarks towards the start. -/
def position_filemarks_back (c : Store) (count : ℕ) : ℤ × Store :=
  let (loaded, c) := c.tape_loaded
  if !loaded then (-1, c) else
  let c := c.clearWormWrite
  let p := c.partition_id
  -- `i + 1` of the source, which counts the filemarks in front of the position
  let before := match lastBelow (c.filemarkMap p) c.c_pos.blk_number with
    | some i => i + 1
    | none => 0
  if count ≤ before then c.position_to_block (c.filemarks p (before - count)) else
  let residual := count - before
  let (rc, c) := c.read_header 0
  if rc ≠ 0 then (-1, c) else c.stopShort (sam_no_sense SD_EOM E_BOM) residual

/-- Opens the files of a partition that exist; 3 when one is missing. -/
def open_partition (c : Store) (p : ℕ) : ℤ × Store :=
  let exists_ := fun k => (c.dir.file k p).isSome
  (if exists_ .data ∧ exists_ .indx ∧ exists_ .metaf then 0 else 3,
    { c with fd := fun k q => if q = p then exists_ k else c.fd k q })

/-- Closes the files of a partition. -/
def close_partition (c : Store) (p : ℕ) : Store :=
  { c with fd := fun k q => if q = p then false else c.fd k q }

/-- Replaces the partition number in the position. -/
def setPartition (c : Store) (p : ℕ) : Store :=
  { c with raw_pos := { c.raw_pos with hdr := { c.raw_pos.hdr with partition_id := p } } }

/-- Closes the current partition and opens another one at its first block. A
failing read leaves its sense data, but the status is a local one. -/
def change_partition (c : Store) (p : ℕ) : ℤ × Store :=
  let c := (c.close_partition c.partition_id).setPartition p
  let (rc, c) := c.open_partition p
  let stat := c.status.sam_stat
  let (_, c) := c.read_header 0
  (rc, { c with status := { c.status with sam_stat := stat } })

/-- Drops the filemark map of the current partition. -/
def zero_filemark_count (c : Store) : Store :=
  let p := c.partition_id
  let c := { c with filemark_alloc := Function.update c.filemark_alloc p 0 }
  (c.setFilemarkCount p 0).rewrite_meta_file.2

/-- Cuts the current partition at the position and drops all its filemarks. -/
def format_partition (c : Store) : ℤ × Store :=
  let (loaded, c) := c.tape_loaded
  if !loaded then (-1, c) else
  let (rc, c) := c.check_for_overwrite
  if rc ≠ 0 then (-1, c) else
  let c := c.zero_filemark_count
  c.mkEODHeader c.c_pos.blk_number c.raw_pos.data_offset

/-- Fill in the position anew, after the `memset`. -/
def setRawPos (c : Store) (r : RawHeader) : Store := { c with raw_pos := r }

/-- `c_pos->blk_number = blk_number`. -/
def setBlkNumber (c : Store) (blk_number : ℕ) : Store :=
  { c with raw_pos := { c.raw_pos with hdr := { c.raw_pos.hdr with blk_number := blk_number } } }

/-- One header for each of `count` filemarks from block `blk_number` on. A failure
to extend the filemark map goes unnoticed. Returns the next block number. -/
def writeFilemarkHeaders (c : Store) : ℕ → ℕ → ℤ × ℕ × Store
  | 0, blk_number => (0, blk_number, c)
  | count + 1, blk_number =>
    let c := c.setBlkNumber blk_number
    let (nwrite, c) :=
      c.pwrite .indx c.partition_id (raw_header.enc c.raw_pos) (blk_number * HEADER_SIZE)
    if nwrite ≠ HEADER_SIZE then
      (-1, blk_number, { c with status := sam_medium_error E_WRITE_ERROR })
    else
      let (_, c) := c.add_filemark blk_number
      c.writeFilemarkHeaders count ((blk_number + 1) % 2 ^ 32)

/-- Writes `count` filemarks at the position; none means flush. -/
def write_filemarks (c : Store) (count : ℕ) : ℤ × Store :=
  let (loaded, c) := c.tape_loaded
  if !loaded then (-1, c) else
  if count = 0 then (0, c) else
  let (rc, c) := c.check_for_overwrite
  if rc ≠ 0 then (-1, c) else
  let blk_number := c.c_pos.blk_number
  let data_offset := c.raw_pos.data_offset
  let c := c.setRawPos (Record.filemark.header c.partition_id blk_number data_offset)
  match c.writeFilemarkHeaders count blk_number with
  | (rc, blk_number, c) => if rc ≠ 0 then (-1, c) else c.mkEODHeader blk_number data_offset

/-- Arguments of `write_tape_block`. -/
structure BlockArgs where
  /-- Memory from the buffer pointer on. -/
  buffer : ℕ → UInt8
  /-- Size of the uncompressed data. -/
  blk_size : UInt32
  /-- Size after compression, 0 when not compressed. -/
  comp_size : UInt32
  /-- Key data, when the block is encrypted. -/
  encryptp : Option BoundedEncryption
  /-- Compression type. -/
  comp_type : UInt8
  /-- Keep the header only. -/
  null_media_type : Bool
  /-- CRC of the uncompressed data. -/
  crc : UInt32

/-- Room the block takes in the data file. -/
def BlockArgs.disk_blk_size (a : BlockArgs) : UInt32 :=
  if a.comp_size ≠ 0 then a.comp_size else a.blk_size

/-- The bytes handed to `pwrite`. -/
def BlockArgs.bytes (a : BlockArgs) : List UInt8 :=
  (List.range a.disk_blk_size.toNat).map a.buffer

/-- The header fields that depend on the block. -/
def BlockArgs.info (a : BlockArgs) : BlockInfo where
  blk_flags :=
    let crc := BLKHDR_FLG_CRC
    let comp :=
      if a.comp_size ≠ 0 then
        if a.comp_type = LZO then BLKHDR_FLG_LZO_COMPRESSED else BLKHDR_FLG_ZLIB_COMPRESSED
      else 0
    let enc := if a.encryptp.isSome then BLKHDR_FLG_ENCRYPTED else 0
    crc ||| comp ||| enc
  blk_size := a.blk_size
  uncomp_crc := a.crc
  blk_encryption_info := match a.encryptp with
    | some e => e.copied
    | none => Encryption.zero

/-- Writes a block at the position. When the data or the index write fails the
files are cut again, the index file one block too far. -/
def write_tape_block (c : Store) (a : BlockArgs) : ℤ × Store :=
  let (loaded, c) := c.tape_loaded
  if !loaded then (-1, c) else
  let (rc, c) := c.check_for_overwrite
  if rc ≠ 0 then (-1, c) else
  let blk_number := c.c_pos.blk_number
  let p := c.partition_id
  let data_offset := c.raw_pos.data_offset
  if MAX_BLK_NUMBER < blk_number then (-1, c) else
  let size := a.disk_blk_size.toNat
  let c := c.setRawPos (Record.blockHeader a.info p blk_number data_offset size)
  let (nwrite, c) : ℤ × Store :=
    if a.null_media_type then (size, c) else c.pwrite .data p a.bytes data_offset
  if nwrite ≠ size then
    let c := { c with status := sam_medium_error E_WRITE_ERROR }
    let (_, c) := c.ftruncate .data p data_offset
    let (_, c) := c.mkEODHeader blk_number data_offset
    (-1, c)
  else
  let (nwrite, c) := c.pwrite .indx p (raw_header.enc c.raw_pos) (blk_number * HEADER_SIZE)
  if nwrite ≠ HEADER_SIZE then
    let c := { c with status := sam_medium_error E_WRITE_ERROR }
    -- `(blk_number - 1) * sizeof(raw_pos)`, the subtraction in 32 bits
    let indxsz := ((blk_number + 2 ^ 32 - 1) % 2 ^ 32) * HEADER_SIZE
    let (_, c) := c.ftruncate .indx p indxsz
    let c := if a.null_media_type then c else (c.ftruncate .data p data_offset).2
    let (_, c) := c.mkEODHeader blk_number data_offset
    (-1, c)
  else c.mkEODHeader (blk_number + 1) (data_offset + size)

/-- Reads at most `buf_size` bytes of the block at the position and moves behind
it; nothing when it fails. A filemark reads as no bytes. -/
def read_tape_block (c : Store) (buf_size : ℕ) : Option (List UInt8) × Store :=
  let (loaded, c) := c.tape_loaded
  if !loaded then (none, c) else
  if c.c_pos.blk_type = B_EOD then (none, { c with status := sam_blank_check E_END_OF_DATA })
  else
  let iosize := min c.c_pos.disk_blk_size buf_size
  match c.pread .data c.partition_id c.raw_pos.data_offset iosize with
  | none => (none, c)
  | some bs =>
    if bs.length ≠ iosize then (none, c) else
    let (rc, c) := c.read_header ((c.c_pos.blk_number + 1) % 2 ^ 32)
    if rc ≠ 0 then (none, c) else (some bs, c)

end Store

end Mhvtl.Cart
