import Mhvtl.Lib.Codec
import Mhvtl.Lib.TapeRecords

/-!
# Block headers of the cartridge files

The indx file is an array of 512-byte raw headers, one for each block or
filemark; the meta file starts with a 512-byte header that counts the filemarks.
Both layouts are given field by field. Records are what the headers describe.
-/

namespace Mhvtl.Cart

/-- Block type of a data block. -/
def B_DATA : UInt32 := 11
/-- Block type of a filemark. -/
def B_FILEMARK : UInt32 := 3
/-- Block type of the virtual header at end of data. -/
def B_EOD : UInt32 := 5

/-- The block is zlib compressed. -/
def BLKHDR_FLG_ZLIB_COMPRESSED : UInt32 := 0x01
/-- The block carries encryption data. -/
def BLKHDR_FLG_ENCRYPTED : UInt32 := 0x02
/-- The block is lzo compressed. -/
def BLKHDR_FLG_LZO_COMPRESSED : UInt32 := 0x04
/-- The block carries a CRC. -/
def BLKHDR_FLG_CRC : UInt32 := 0x08

/-- Compression type of lzo; every other type is zlib. -/
def LZO : UInt8 := 1

/-- Room for a key, a UKAD or an AKAD. -/
def ENCR_KEY_MAX_LEN : ℕ := 32

/-- Size of a raw header and of a meta header on disk. -/
def HEADER_SIZE : ℕ := 512

/-- `struct encryption`; its pad word is never read. -/
structure Encryption where
  /-- Used bytes of `key`. -/
  key_length : UInt32
  /-- Used bytes of `ukad`. -/
  ukad_length : UInt32
  /-- Used bytes of `akad`. -/
  akad_length : UInt32
  /-- Key bytes. -/
  key : Fin ENCR_KEY_MAX_LEN → UInt8
  /-- Unauthenticated key-associated data. -/
  ukad : Fin ENCR_KEY_MAX_LEN → UInt8
  /-- Authenticated key-associated data. -/
  akad : Fin ENCR_KEY_MAX_LEN → UInt8

/-- What `memset` leaves of an encryption record. -/
def Encryption.zero : Encryption := ⟨0, 0, 0, fun _ => 0, fun _ => 0, fun _ => 0⟩

/-- An encryption record whose lengths stay inside its arrays, as the copy loops
of `write_tape_block` need. -/
structure BoundedEncryption extends Encryption where
  /-- The key fits. -/
  key_le : key_length.toNat ≤ ENCR_KEY_MAX_LEN
  /-- The UKAD fits. -/
  ukad_le : ukad_length.toNat ≤ ENCR_KEY_MAX_LEN
  /-- The AKAD fits. -/
  akad_le : akad_length.toNat ≤ ENCR_KEY_MAX_LEN

/-- The first `n` bytes of an array over zeros. -/
def copyBytes (n : UInt32) (a : Fin ENCR_KEY_MAX_LEN → UInt8) : Fin ENCR_KEY_MAX_LEN → UInt8 :=
  fun i => if i.val < n.toNat then a i else 0

/-- The copy of an encryption record that a block header receives. -/
def BoundedEncryption.copied (e : BoundedEncryption) : Encryption :=
  ⟨e.key_length, e.ukad_length, e.akad_length, copyBytes e.key_length e.key,
    copyBytes e.ukad_length e.ukad, copyBytes e.akad_length e.akad⟩

/-- `struct blk_header`. -/
structure BlkHeader where
  /-- Data block, filemark or end of data. -/
  blk_type : UInt32
  /-- `BLKHDR_FLG_` bits. -/
  blk_flags : UInt32
  /-- Index of the block in its partition. -/
  blk_number : ℕ
  /-- Size of the uncompressed data. -/
  blk_size : UInt32
  /-- Room taken in the data file. -/
  disk_blk_size : ℕ
  /-- CRC of the uncompressed data. -/
  uncomp_crc : UInt32
  /-- Key data of an encrypted block. -/
  blk_encryption_info : Encryption
  /-- Partition of the block. -/
  partition_id : ℕ

/-- `struct raw_header`. -/
structure RawHeader where
  /-- Where the block starts in the data file. -/
  data_offset : ℕ
  /-- The header proper. -/
  hdr : BlkHeader

/-- `struct meta_header`. -/
structure MetaHeader where
  /-- Number of filemarks in the partition. -/
  filemark_count : ℕ
  /-- Padding, carried along unread. -/
  pad : Fin 508 → UInt8

/-- A meta header as `memset` leaves it. -/
def MetaHeader.zero : MetaHeader := ⟨0, fun _ => 0⟩

/-- A 32-bit field. -/
def u32 : Codec UInt32 :=
  (Codec.uint 4).iso UInt32.ofNat UInt32.toNat fun _ => UInt32.ofNat_toNat

/-- Layout of `struct encryption`. -/
def encryption : Codec Encryption :=
  (u32.prod (u32.prod (u32.prod ((Codec.pad 4).prod
    ((Codec.bytes ENCR_KEY_MAX_LEN).prod
      ((Codec.bytes ENCR_KEY_MAX_LEN).prod (Codec.bytes ENCR_KEY_MAX_LEN))))))).iso
    (fun (kl, ul, al, _, k, u, a) => ⟨kl, ul, al, k, u, a⟩)
    (fun e => (e.key_length, e.ukad_length, e.akad_length, (), e.key, e.ukad, e.akad))
    (fun _ => rfl)

/-- Layout of `struct blk_header`, its reserved word included. -/
def blk_header : Codec BlkHeader :=
  (u32.prod (u32.prod ((Codec.uint 4).prod (u32.prod ((Codec.uint 4).prod (u32.prod
    (encryption.prod ((Codec.uint 4).prod (Codec.pad 4))))))))).iso
    (fun (t, f, n, s, d, c, e, p, _) => ⟨t, f, n, s, d, c, e, p⟩)
    (fun h => (h.blk_type, h.blk_flags, h.blk_number, h.blk_size, h.disk_blk_size, h.uncomp_crc,
      h.blk_encryption_info, h.partition_id, ()))
    (fun _ => rfl)

/-- Layout of `struct raw_header`, padded to 512 bytes. -/
def raw_header : Codec RawHeader :=
  ((Codec.uint 8).prod (blk_header.prod (Codec.pad 360))).iso
    (fun (o, h, _) => ⟨o, h⟩) (fun r => (r.data_offset, r.hdr, ())) (fun _ => rfl)

/-- Layout of `struct meta_header`. -/
def meta_header : Codec MetaHeader :=
  ((Codec.uint 4).prod (Codec.bytes 508)).iso
    (fun (n, p) => ⟨n, p⟩) (fun m => (m.filemark_count, m.pad)) (fun _ => rfl)

/-- A raw header fills its slot of the indx file. -/
@[simp] theorem raw_header_width : raw_header.width = HEADER_SIZE := rfl

/-- A meta header fills the front of the meta file. -/
@[simp] theorem meta_header_width : meta_header.width = HEADER_SIZE := rfl

/-- A header that is read is written as it was. -/
theorem meta_header_enc_dec {bs : List UInt8} (h : bs.length = HEADER_SIZE) :
    meta_header.enc (meta_header.dec bs) = bs := by
  have hsize : HEADER_SIZE = 4 + 508 := rfl
  have hrest : (bs.drop 4).length = 508 := by
    rw [List.length_drop]
    omega
  have hcount := @Codec.uint_enc_dec 4 bs (by omega)
  have hpad := @Codec.bytes_enc_dec 508 (bs.drop 4) hrest.ge
  rw [List.take_of_length_le hrest.le] at hpad
  change (Codec.uint 4).enc ((Codec.uint 4).dec bs) ++
    (Codec.bytes 508).enc ((Codec.bytes 508).dec (bs.drop 4)) = bs
  rw [hcount, hpad]
  exact List.take_append_drop 4 bs

/-- The header fields that are numbers are within their widths. -/
theorem raw_header_fits {r : RawHeader} (ho : r.data_offset < 2 ^ 64)
    (hn : r.hdr.blk_number < 2 ^ 32) (hd : r.hdr.disk_blk_size < 2 ^ 32)
    (hp : r.hdr.partition_id < 2 ^ 32) : raw_header.Fits r := by
  have hu : ∀ x : UInt32, u32.Fits x := fun x => x.toNat_lt
  have he : ∀ e : Encryption, encryption.Fits e := fun e =>
    ⟨hu _, hu _, hu _, trivial, trivial, trivial, trivial⟩
  exact ⟨ho, ⟨hu _, hu _, hn, hu _, hd, hu _, he _, hp, trivial⟩, trivial⟩

/-- What a data block's header says about the block itself. -/
structure BlockInfo where
  /-- `BLKHDR_FLG_` bits. -/
  blk_flags : UInt32
  /-- Size of the uncompressed data. -/
  blk_size : UInt32
  /-- CRC of the uncompressed data. -/
  uncomp_crc : UInt32
  /-- Key data, zero for a block in the clear. -/
  blk_encryption_info : Encryption

/-- A recorded data block: header information and the bytes in the data file. -/
structure DataBlock where
  /-- What the header says. -/
  info : BlockInfo
  /-- The stored bytes. -/
  bytes : List UInt8
  /-- The size fits its header field. -/
  size_lt : bytes.length < 2 ^ 32

/-- A record of a partition. -/
inductive Record where
  /-- A data block with stored bytes. -/
  | data (b : DataBlock)
  /-- A block of which only the header and the size are kept, as a NULL medium keeps it. -/
  | blank (info : BlockInfo) (size : UInt32)
  /-- A filemark. -/
  | filemark

namespace Record

/-- Room taken in the data file. -/
def size : Record → ℕ
  | data b => b.bytes.length
  | blank _ n => n.toNat
  | filemark => 0

/-- Whether the record is a filemark. -/
def isFilemark : Record → Bool
  | filemark => true
  | _ => false

/-- A record takes less than 2^32 bytes. -/
theorem size_lt (r : Record) : r.size < 2 ^ 32 := by
  cases r with
  | data b => exact b.size_lt
  | blank info n => exact n.toNat_lt
  | filemark => exact Nat.two_pow_pos 32

/-- Header of a data block. -/
def blockHeader (info : BlockInfo) (p i off size : ℕ) : RawHeader :=
  ⟨off, ⟨B_DATA, info.blk_flags, i, info.blk_size, size, info.uncomp_crc,
    info.blk_encryption_info, p⟩⟩

/-- The raw header of a record at index `i` and offset `off` of partition `p`. -/
def header (p i off : ℕ) : Record → RawHeader
  | data b => blockHeader b.info p i off b.bytes.length
  | blank info n => blockHeader info p i off n.toNat
  | filemark => ⟨off, ⟨B_FILEMARK, 0, i, 0, 0, 0, Encryption.zero, p⟩⟩

@[simp] theorem header_data_offset (p i off : ℕ) (r : Record) :
    (r.header p i off).data_offset = off := by cases r <;> rfl

@[simp] theorem header_blk_number (p i off : ℕ) (r : Record) :
    (r.header p i off).hdr.blk_number = i := by cases r <;> rfl

@[simp] theorem header_partition_id (p i off : ℕ) (r : Record) :
    (r.header p i off).hdr.partition_id = p := by cases r <;> rfl

@[simp] theorem header_disk_blk_size (p i off : ℕ) (r : Record) :
    (r.header p i off).hdr.disk_blk_size = r.size := by cases r <;> rfl

/-- No record's header is an end-of-data header. -/
theorem header_blk_type_ne (p i off : ℕ) (r : Record) :
    (r.header p i off).hdr.blk_type ≠ B_EOD := by
  have hd : B_DATA ≠ B_EOD := by decide
  have hf : B_FILEMARK ≠ B_EOD := by decide
  cases r with
  | data b => exact hd
  | blank info n => exact hd
  | filemark => exact hf

end Record

/-- The virtual header at end of data. -/
def eodHeader (p blk_number data_offset : ℕ) : RawHeader :=
  ⟨data_offset, ⟨B_EOD, 0, blk_number, 0, 0, 0, Encryption.zero, p⟩⟩

/-- Offset of record `i` of a partition in its data file. -/
def offsetOf (l : List Record) (i : ℕ) : ℕ := Records.offset Record.size l i

/-- Block numbers of the filemarks of a partition. -/
def filemarksOf (l : List Record) : List ℕ := Records.marks Record.isFilemark l

section Offsets

variable (l : List Record)

@[simp] theorem offsetOf_zero : offsetOf l 0 = 0 := rfl

/-- The offset of a record looks only at the records in front of it. -/
theorem offsetOf_take {i n : ℕ} (h : i ≤ n) : offsetOf (l.take n) i = offsetOf l i :=
  Records.offset_take Record.size l h

/-- Appending moves no record. -/
theorem offsetOf_append (m : List Record) {i : ℕ} (h : i ≤ l.length) :
    offsetOf (l ++ m) i = offsetOf l i := Records.offset_append Record.size l m h

/-- A record ends where the next one starts. -/
theorem offsetOf_succ {i : ℕ} (h : i < l.length) : offsetOf l (i + 1) = offsetOf l i + l[i].size :=
  Records.offset_succ Record.size l h

/-- The end of an extended partition. -/
theorem offsetOf_concat (r : Record) :
    offsetOf (l ++ [r]) (l.length + 1) = offsetOf l l.length + r.size :=
  Records.offset_concat Record.size l r

/-- Filemarks take no room. -/
theorem offsetOf_filemarks (n : ℕ) :
    offsetOf (l ++ List.replicate n .filemark) (l.length + n) = offsetOf l l.length := by
  induction n generalizing l with
  | zero => rw [List.replicate_zero, List.append_nil, Nat.add_zero]
  | succ n ih =>
    have h := ih (l ++ [.filemark])
    rw [List.append_assoc, List.singleton_append, ← List.replicate_succ, List.length_append,
      List.length_singleton, offsetOf_concat] at h
    rwa [Nat.add_right_comm] at h

/-- Later records lie at later offsets. -/
theorem offsetOf_mono {i j : ℕ} (h : i ≤ j) : offsetOf l i ≤ offsetOf l j :=
  Records.offset_mono Record.size l h

end Offsets

/-- The header under the head at index `i`: the record's own, or end of data. -/
def headerAt (p : ℕ) (l : List Record) (i : ℕ) : RawHeader :=
  if h : i < l.length then l[i].header p i (offsetOf l i) else eodHeader p i (offsetOf l i)

section HeaderAt

variable (p : ℕ) (l : List Record) (i : ℕ)

@[simp] theorem headerAt_data_offset : (headerAt p l i).data_offset = offsetOf l i := by
  unfold headerAt
  split <;> simp only [Record.header_data_offset, eodHeader]

@[simp] theorem headerAt_blk_number : (headerAt p l i).hdr.blk_number = i := by
  unfold headerAt
  split <;> simp only [Record.header_blk_number, eodHeader]

@[simp] theorem headerAt_partition_id : (headerAt p l i).hdr.partition_id = p := by
  unfold headerAt
  split <;> simp only [Record.header_partition_id, eodHeader]

/-- The end-of-data type tells exactly the end of the partition. -/
theorem headerAt_eod_iff : (headerAt p l i).hdr.blk_type = B_EOD ↔ l.length ≤ i := by
  unfold headerAt
  split
  · rename_i h
    exact ⟨fun he => (Record.header_blk_type_ne p i _ l[i] he).elim, fun hl => absurd h (by omega)⟩
  · rename_i h
    exact ⟨fun _ => by omega, fun _ => rfl⟩

/-- At the end of the partition the header is the virtual one. -/
theorem headerAt_length : headerAt p l l.length = eodHeader p l.length (offsetOf l l.length) :=
  dif_neg (lt_irrefl _)

variable {l i} in
/-- In front of the end the header is the record's. -/
theorem headerAt_of_lt (h : i < l.length) : headerAt p l i = l[i].header p i (offsetOf l i) :=
  dif_pos h

end HeaderAt

/-- Offsets of fewer than 2^32 records stay within 64 bits. -/
theorem offsetOf_lt {l : List Record} {i : ℕ} (h : i < 2 ^ 32) : offsetOf l i < 2 ^ 64 := by
  have hB : ∀ r ∈ l, r.size ≤ 2 ^ 32 - 1 := fun r _ => by
    have := r.size_lt
    omega
  have hle := Records.offset_le Record.size l hB i
  have hmul : i * (2 ^ 32 - 1) ≤ (2 ^ 32 - 1) * (2 ^ 32 - 1) := Nat.mul_le_mul_right _ (by omega)
  unfold offsetOf
  omega

/-- The header of a record on a partition of bounded length survives the disk. -/
theorem decode_headerAt {p i : ℕ} {l : List Record} (hp : p < 2 ^ 32) (hl : l.length < 2 ^ 32)
    (h : i < l.length) :
    raw_header.dec (raw_header.enc (headerAt p l i)) = headerAt p l i := by
  apply raw_header.dec_enc_self
  apply raw_header_fits
  · rw [headerAt_data_offset]
    exact offsetOf_lt (by omega)
  · rw [headerAt_blk_number]
    omega
  · rw [headerAt_of_lt p h, Record.header_disk_blk_size]
    exact Record.size_lt _
  · rwa [headerAt_partition_id]

end Mhvtl.Cart
