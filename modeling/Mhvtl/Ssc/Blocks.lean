import Mhvtl.Cart.Refinement
import Mhvtl.Ssc.Transfer

/-!
# What one block is on the medium

A block is recorded as its bytes or compressed, with its size and its CRC. A
block so recorded is what reading gives back, and what writing leaves.
-/

namespace Mhvtl.Ssc

open Bytes Cart Store

/-- The libraries do what their documentation says: compression succeeds, stays
within its bound, never yields nothing, and decompression undoes it. -/
structure Libs.Lossless (L : Libs) : Prop where
  /-- lzo. -/
  lzo : ∀ bs, ∃ z, L.lzo1x_1_compress bs = some z ∧ 0 < z.length ∧
    z.length ≤ bs.length + bs.length / 16 + 67 ∧ L.lzo1x_decompress_safe z bs.length = some bs
  /-- zlib, at the levels it has. -/
  zlib : ∀ bs level, level ≤ 9 → ∃ z, L.compress2 bs level = some z ∧ 0 < z.length ∧
    z.length ≤ bs.length + bs.length / 2 ^ 12 + bs.length / 2 ^ 14 + bs.length / 2 ^ 25 + 13 ∧
    L.uncompress z bs.length = some bs

/-- CRC32C, bit by bit. -/
def crc32cBitwise (seed : UInt32) (bs : List UInt8) : UInt32 :=
  let bit := fun c : UInt32 => if c &&& 1 ≠ 0 then c >>> 1 ^^^ 0x82F63B78 else c >>> 1
  ~~~bs.foldl (fun c b => bit^[8] (c ^^^ b.toUInt32)) (~~~seed)

/-- A stream that stores its bytes behind a header. -/
def storeStream (header bs : List UInt8) : Option (List UInt8) := some (header ++ bs)

/-- The bytes of such a stream, when there are as many as expected. -/
def unstoreStream (header z : List UInt8) (n : ℕ) : Option (List UInt8) :=
  if (z.drop header.length).length = n then some (z.drop header.length) else none

/-- Libraries that store where the real ones compress. -/
def storedLibs : Libs where
  crc32c := crc32cBitwise
  lzo1x_1_compress := storeStream [17]
  lzo1x_decompress_safe := unstoreStream [17]
  compress2 bs _ := storeStream [0x78, 0x01] bs
  uncompress := unstoreStream [0x78, 0x01]
  scale size budget fixed := size * budget / fixed

/-- What was stored is found again. -/
theorem unstoreStream_store (header bs : List UInt8) :
    unstoreStream header (header ++ bs) bs.length = some bs := by
  rw [unstoreStream, List.drop_left, if_pos rfl]

/-- Nothing is lost in them. -/
theorem storedLibs_lossless : storedLibs.Lossless where
  lzo bs := ⟨_, rfl, Nat.succ_pos _, by
    simp only [List.length_append, List.length_cons, List.length_nil]
    omega, unstoreStream_store [17] bs⟩
  zlib bs _ _ := ⟨_, rfl, Nat.succ_pos _, by
    simp only [List.length_append, List.length_cons, List.length_nil]
    omega, unstoreStream_store [0x78, 0x01] bs⟩

/-- A drive that supports both check words and nothing else, loaded with an empty data
cartridge of a megabyte. -/
def emptyDrive : Drive where
  cart := { emptyCartridge with mam := Mam.zero.putBe .max_capacity (2 ^ 20) }
  load_status := TAPE_LOADED
  pm :=
    { drive_supports_append_only_mode := false
      drive_supports_early_warning := true
      drive_supports_prog_early_warning := false
      drive_supports_LBP := 2
      native_drive_density := 0x5a
      valid_encryption_media := none
      valid_encryption_blk := .valid_encryption_blk
      kad_validation := fun _ _ _ => false
      lbp_plain := fun _ => rfl }
  mode_pg := []
  mode_media_type := 0
  modeBlockDescriptor _ := 0
  append_only_mode := false
  MediaWriteProtect := false
  LBP_method := 0
  LBP_W := false
  LBP_R := false
  lbp_rscrc_be := true
  configCompressionFactor := 0
  compressionType := LZO
  early_warning_sz := 0
  prog_early_warning_sz := 0
  OK_2_write := true
  vcr_updated := false
  allow_overwrite := false
  allow_overwrite_block := 0
  KEY_INSTANCE_COUNTER := 0
  ENCRYPT_MODE := 0
  DECRYPT_MODE := 0
  app_encryption_state := ⟨Encryption.zero, by decide, by decide, by decide⟩
  app_encr_info := true
  bytesRead_M := 0
  bytesRead_I := 0
  bytesWritten_M := 0
  bytesWritten_I := 0

/-- It stands at the start of its empty partition. -/
theorem emptyDrive_at : At emptyDrive.cart 0 [] 0 :=
  ⟨emptyCartridge_holds.here.rep, rfl, Nat.le_refl 0, fun _ _ => rfl, by decide⟩

/-- What the stored bytes of a block decompress to, by the flags of its header. -/
def decoded (L : Libs) (flags : UInt32) (stored : List UInt8) (size : ℕ) : Option (List UInt8) :=
  if flags &&& BLKHDR_FLG_LZO_COMPRESSED ≠ 0 then L.lzo1x_decompress_safe stored size
  else if flags &&& BLKHDR_FLG_ZLIB_COMPRESSED ≠ 0 then L.uncompress stored size
  else some stored

/-- The block `b` on the medium records the bytes `bs`. -/
structure Recorded (L : Libs) (b : DataBlock) (bs : List UInt8) : Prop where
  /-- The header has the size. -/
  size : b.info.blk_size.toNat = bs.length
  /-- The stored bytes decode to it. -/
  content : decoded L b.info.blk_flags b.bytes bs.length = some bs
  /-- The CRC of the header, when there is one, is the right one. -/
  crc : b.info.blk_flags &&& BLKHDR_FLG_CRC ≠ 0 → b.info.uncomp_crc = L.crc32c 0 bs

/-- The store with the position at another index. -/
def moved (c : Store) (p : ℕ) (l : List Record) (j : ℕ) : Store :=
  { c with
    raw_pos := headerAt p l j
    OK_to_write := if j = l.length then true else c.OK_to_write }

/-- What is cut or padded has its length. -/
theorem takePad_length (n : ℕ) (bs : List UInt8) : (takePad n bs).length = n := by
  rw [takePad, List.length_append, List.length_take, List.length_replicate]
  omega

/-- A full result needs no padding. -/
theorem takePad_self {n : ℕ} {bs : List UInt8} (h : bs.length = n) : takePad n bs = bs := by
  rw [takePad, ← h, List.take_length, Nat.sub_self, List.replicate_zero, List.append_nil]

section Reading

variable {L : Libs} {d : Drive} {p i : ℕ} {l : List Record} {b : DataBlock} {bs : List UInt8}

/-- The position in front of a block is its header. -/
theorem c_pos_data (h : At d.cart p l i) (hb : l[i]? = some (.data b)) :
    d.cart.c_pos = (Record.blockHeader b.info p i (offsetOf l i) b.bytes.length).hdr := by
  obtain ⟨hi, hli⟩ := List.getElem?_eq_some_iff.mp hb
  rw [c_pos, h.pos, headerAt_of_lt p hi, hli]
  rfl

/-- Moving behind a block keeps what the store stands on. -/
theorem At.moved (h : At d.cart p l i) {j : ℕ} (hj : j ≤ l.length) :
    At (Ssc.moved d.cart p l j) p l j := ⟨h.rep, rfl, hj, h.fd, h.part_lt⟩

/-- A recorded block is read back, and the drive stands behind it. -/
theorem readContent_ok (h : At d.cart p l i) (hl : l.length < 2 ^ 32)
    (hb : l[i]? = some (.data b)) (hr : Recorded L b bs) :
    readContent L d = (some bs, { d with cart := moved d.cart p l (i + 1) }) := by
  have hpos := c_pos_data h hb
  have hread := fun n => read_tape_block_data h hl hb n
  have hall : b.bytes.take b.bytes.length = b.bytes := List.take_length
  have hdisk : d.cart.c_pos.disk_blk_size = b.bytes.length := by rw [hpos]; rfl
  have hsize : d.cart.c_pos.blk_size.toNat = bs.length := by rw [hpos]; exact hr.size
  have hflags : d.cart.c_pos.blk_flags = b.info.blk_flags := by rw [hpos]; rfl
  have hdec := hr.content
  unfold decoded at hdec
  have hcomp : ∀ dec : List UInt8 → ℕ → Option (List UInt8), dec b.bytes bs.length = some bs →
      uncompress_block d dec = (bs, { d with cart := moved d.cart p l (i + 1) }) := by
    intro dec hd
    simp only [uncompress_block, hdisk, hread, hall, ne_eq, not_true_eq_false, if_false, hsize, hd,
      takePad_self]
    rfl
  by_cases hlzo : b.info.blk_flags &&& BLKHDR_FLG_LZO_COMPRESSED ≠ 0
  · rw [if_pos hlzo] at hdec
    simp only [readContent, hflags, if_pos hlzo, hcomp _ hdec]
  · rw [if_neg hlzo] at hdec
    by_cases hzlib : b.info.blk_flags &&& BLKHDR_FLG_ZLIB_COMPRESSED ≠ 0
    · rw [if_pos hzlib] at hdec
      simp only [readContent, hflags, if_neg hlzo, if_pos hzlib, hcomp _ hdec]
    · rw [if_neg hzlib, Option.some.injEq] at hdec
      have htake : b.bytes.take bs.length = bs := by rw [hdec, List.take_length]
      simp only [readContent, hflags, if_neg hlzo, if_neg hzlib, hsize, hread, htake,
        Option.map_some, Option.getD_some, if_true]
      rfl

/-- What a READ of the whole block sends: the block with the word of the method. -/
theorem protectBlock_eq (m : LbpMethod) (hbe : ∀ e, m = .rscrc e → e = d.lbp_rscrc_be)
    (hbs : 0 < bs.length) {stored : Option UInt32} (hst : ∀ crc ∈ stored, crc = L.crc32c 0 bs) :
    protectBlock L d m.number stored bs = (m.checkWord L.crc32c).append bs := by
  cases m with
  | rscrc e =>
    have he : e = d.lbp_rscrc_be := hbe e rfl
    rw [LbpMethod.number, protectBlock, ← he, BlockProtectRSCRC_eq L.crc32c hbs]
  | crc32c =>
    have hcrc : stored.getD (L.crc32c 0 bs) = L.crc32c 0 bs := by
      cases stored with
      | none => rfl
      | some crc => exact hst crc rfl
    rw [LbpMethod.number, protectBlock, hcrc]
    rfl

/-- The state behind a block that was read. -/
def readDone (d : Drive) (p : ℕ) (l : List Record) (i : ℕ) (size disk : ℕ) : Drive :=
  { d with
    cart := moved d.cart p l (i + 1)
    bytesRead_I := d.bytesRead_I + size
    bytesRead_M := d.bytesRead_M + disk }

/-- Reading a recorded block: it is decoded, its CRC is right, its word is appended,
and the request cuts it. -/
theorem readBlock_data (h : At d.cart p l i) (hl : l.length < 2 ^ 32)
    (hb : l[i]? = some (.data b)) (hr : Recorded L b bs) {sz : ℕ} (hsz : sz ≠ 0) (sili : Bool)
    {lbp_method : ℕ} (hm : lbp_method ≠ 3) :
    ∃ stored, (∀ crc ∈ stored, crc = L.crc32c 0 bs) ∧
      readBlock L d sz sili lbp_method =
        let whole := protectBlock L d lbp_method stored bs
        let out := if sz < bs.length then takePad sz whole else whole
        (out, reportLength (readDone d p l i bs.length b.bytes.length) sz
          (if lbp_method ≠ 0 then (sz + 2 ^ 32 - 4) % 2 ^ 32 else sz) out.length bs.length sili) := by
  have hpos := c_pos_data h hb
  have htype : d.cart.c_pos.blk_type = B_DATA := by rw [hpos]; rfl
  have hfm : ¬B_DATA = B_FILEMARK := by decide
  have heod : ¬B_DATA = B_EOD := by decide
  have hdisk : d.cart.c_pos.disk_blk_size = b.bytes.length := by rw [hpos]; rfl
  have hsize : d.cart.c_pos.blk_size.toNat = bs.length := by rw [hpos]; exact hr.size
  have hflags : d.cart.c_pos.blk_flags = b.info.blk_flags := by rw [hpos]; rfl
  have hcrc : d.cart.c_pos.uncomp_crc = b.info.uncomp_crc := by rw [hpos]; rfl
  let stored := if b.info.blk_flags &&& BLKHDR_FLG_CRC ≠ 0 then some b.info.uncomp_crc else none
  have hst : ∀ crc ∈ stored, crc = L.crc32c 0 bs := by
    intro crc hc
    by_cases hf : b.info.blk_flags &&& BLKHDR_FLG_CRC ≠ 0
    · simp only [stored, if_pos hf, Option.mem_def, Option.some.injEq] at hc
      rw [← hc]
      exact hr.crc hf
    · simp only [stored, if_neg hf, Option.mem_def] at hc
      exact (nomatch hc)
  have hany : (stored.any fun crc => decide (crc ≠ L.crc32c 0 bs)) = false := by
    cases hs : stored with
    | none => rfl
    | some crc =>
      rw [Option.any_some, hst crc hs]
      exact decide_eq_false (fun hn => hn rfl)
  have hprot : protectBlock L { d with cart := moved d.cart p l (i + 1) } lbp_method stored bs =
      protectBlock L d lbp_method stored bs := rfl
  refine ⟨stored, hst, ?_⟩
  simp only [readBlock, if_neg hsz, htype, if_neg hfm, if_neg heod, ne_eq, not_true_eq_false,
    if_false, readContent_ok h hl hb hr, hflags, hcrc, hsize, hdisk, if_neg hm]
  simp only [ne_eq, stored] at hany
  simp only [stored, hany, ne_eq]
  rfl

/-- A protected request of the block and four bytes gets the block and its word. -/
theorem readBlock_protected (h : At d.cart p l i) (hl : l.length < 2 ^ 32)
    (hb : l[i]? = some (.data b)) (hr : Recorded L b bs) (hbs : 0 < bs.length) (sili : Bool)
    (m : LbpMethod) (hbe : ∀ e, m = .rscrc e → e = d.lbp_rscrc_be) :
    readBlock L d (bs.length + 4) sili m.number =
      ((m.checkWord L.crc32c).append bs, readDone d p l i bs.length b.bytes.length) := by
  have hnum := m.number_cases
  have hsz : bs.length + 4 ≠ 0 := by omega
  have hm3 : m.number ≠ 3 := by omega
  have hlt : bs.length < 2 ^ 32 := by
    rw [← hr.size]
    exact b.info.blk_size.toNat_lt
  obtain ⟨stored, hst, hread⟩ := readBlock_data h hl hb hr hsz sili hm3
  have hwrap : (bs.length + 4 + 2 ^ 32 - 4) % 2 ^ 32 = bs.length := by omega
  have hnot : ¬bs.length + 4 < bs.length := by omega
  rw [hread, protectBlock_eq m hbe hbs hst, if_pos (by omega), hwrap]
  simp only [if_neg hnot, CheckWord.append_length, LbpMethod.checkWord_width]
  rw [reportLength, if_neg (fun hn => hn rfl), if_neg]
  rintro ⟨-, hself⟩
  exact lt_irrefl _ hself

end Reading

end Mhvtl.Ssc
