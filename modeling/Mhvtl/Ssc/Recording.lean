import Mhvtl.Ssc.Blocks

/-!
# What a written block records

With lossless libraries, every way of writing a block records the bytes of the
data buffer, whatever compression and encryption are set to, and leaves the
drive behind it.
-/

namespace Mhvtl.Ssc

open Bytes Cart Store

/-- The flags of a block for compression, its kind, and encryption. -/
def flagWord (comp lzo enc : Bool) : UInt32 :=
  BLKHDR_FLG_CRC |||
    (if comp then if lzo then BLKHDR_FLG_LZO_COMPRESSED else BLKHDR_FLG_ZLIB_COMPRESSED else 0) |||
    (if enc then BLKHDR_FLG_ENCRYPTED else 0)

/-- No two flags share a bit. -/
theorem flagWord_bits : ∀ comp lzo enc : Bool,
    flagWord comp lzo enc &&& BLKHDR_FLG_CRC ≠ 0 ∧
    (flagWord comp lzo enc &&& BLKHDR_FLG_LZO_COMPRESSED ≠ 0 ↔ comp ∧ lzo) ∧
    (flagWord comp lzo enc &&& BLKHDR_FLG_ZLIB_COMPRESSED ≠ 0 ↔ comp ∧ ¬lzo) ∧
    (flagWord comp lzo enc &&& BLKHDR_FLG_ENCRYPTED ≠ 0 ↔ enc) := by
  decide

/-- The flags of a block, bit by bit. -/
theorem info_flags (a : BlockArgs) :
    a.info.blk_flags &&& BLKHDR_FLG_CRC ≠ 0 ∧
    (a.info.blk_flags &&& BLKHDR_FLG_LZO_COMPRESSED ≠ 0 ↔ a.comp_size ≠ 0 ∧ a.comp_type = LZO) ∧
    (a.info.blk_flags &&& BLKHDR_FLG_ZLIB_COMPRESSED ≠ 0 ↔ a.comp_size ≠ 0 ∧ a.comp_type ≠ LZO) ∧
    (a.info.blk_flags &&& BLKHDR_FLG_ENCRYPTED ≠ 0 ↔ a.encryptp.isSome) := by
  have hword : a.info.blk_flags =
      flagWord (decide (a.comp_size ≠ 0)) (decide (a.comp_type = LZO)) a.encryptp.isSome := by
    simp only [BlockArgs.info, flagWord, decide_eq_true_eq]
  have hbits := flagWord_bits (decide (a.comp_size ≠ 0)) (decide (a.comp_type = LZO))
    a.encryptp.isSome
  rw [hword]
  simpa only [decide_eq_true_eq] using hbits

/-- The key data of a block. -/
theorem info_encryption (a : BlockArgs) :
    a.info.blk_encryption_info = (a.encryptp.map BoundedEncryption.copied).getD Encryption.zero := by
  unfold BlockArgs.info
  cases a.encryptp <;> rfl

/-- The stored bytes fit the length field. -/
theorem bytes_length_lt (a : BlockArgs) : a.bytes.length < 2 ^ 32 := by
  rw [BlockArgs.bytes_length]
  exact a.disk_blk_size.toNat_lt

/-- The data block of the arguments. -/
def dataBlock (a : BlockArgs) : DataBlock := ⟨a.info, a.bytes, bytes_length_lt a⟩

/-- On other media than NULL the record is that block. -/
theorem record_data {a : BlockArgs} (h : a.null_media_type = false) :
    BlockArgs.record a = .data (dataBlock a) := by
  rw [BlockArgs.record, h, if_neg Bool.false_ne_true]
  rfl

section

variable {L : Libs} {d : Drive} {data : ℕ → UInt8} {n : ℕ}

/-- A block written as it is records the bytes of the buffer. -/
theorem nocomp_recorded (hn : n < 2 ^ 32) (null_wr : Bool) :
    Recorded L (dataBlock (nocompArgs L d data n null_wr)) (bytesAt data 0 n) := by
  let a := nocompArgs L d data n null_wr
  obtain ⟨-, hlzo, hzlib, -⟩ := info_flags a
  have hsize : a.blk_size.toNat = n := UInt32.toNat_ofNat_of_lt' hn
  have hbytes : a.bytes = bytesAt data 0 n := by
    have hdisk : a.disk_blk_size = a.blk_size := if_neg (fun hc => hc rfl)
    rw [BlockArgs.bytes, hdisk, hsize, bytesAt]
    apply List.map_congr_left
    intro k _
    rw [Nat.zero_add]
    rfl
  refine ⟨?_, ?_, fun _ => rfl⟩
  · rw [bytesAt_length]
    exact hsize
  · have hl : ¬a.info.blk_flags &&& BLKHDR_FLG_LZO_COMPRESSED ≠ 0 := fun hf => (hlzo.mp hf).1 rfl
    have hz : ¬a.info.blk_flags &&& BLKHDR_FLG_ZLIB_COMPRESSED ≠ 0 := fun hf => (hzlib.mp hf).1 rfl
    change decoded L a.info.blk_flags a.bytes _ = _
    rw [decoded, if_neg hl, if_neg hz, hbytes]

/-- A block written compressed records the bytes of the buffer. -/
theorem comp_recorded (hn : n < 2 ^ 32) {z : List UInt8} (hz : 0 < z.length)
    (hz' : z.length < 2 ^ 32) (comp_type : UInt8) (null_wr : Bool)
    (hlzo : comp_type = LZO → L.lzo1x_decompress_safe z n = some (bytesAt data 0 n))
    (hzlib : comp_type ≠ LZO → L.uncompress z n = some (bytesAt data 0 n)) :
    Recorded L (dataBlock (compArgs L d data n z comp_type null_wr)) (bytesAt data 0 n) := by
  let a := compArgs L d data n z comp_type null_wr
  obtain ⟨-, hfl, hfz, -⟩ := info_flags a
  have hsize : a.blk_size.toNat = n := UInt32.toNat_ofNat_of_lt' hn
  have hcomp : a.comp_size.toNat = z.length := UInt32.toNat_ofNat_of_lt' hz'
  have hne : a.comp_size ≠ 0 := by
    intro h0
    rw [h0] at hcomp
    change 0 = z.length at hcomp
    omega
  have hbytes : a.bytes = z := by
    have hdisk : a.disk_blk_size = a.comp_size := if_pos hne
    rw [BlockArgs.bytes, hdisk, hcomp]
    apply List.ext_getElem
    · rw [List.length_map, List.length_range]
    · intro k _ hk
      rw [List.getElem_map, List.getElem_range]
      exact List.getD_eq_getElem _ _ hk
  refine ⟨?_, ?_, fun _ => rfl⟩
  · rw [bytesAt_length]
    exact hsize
  · change decoded L a.info.blk_flags a.bytes _ = _
    rw [decoded, hbytes, bytesAt_length]
    by_cases ht : comp_type = LZO
    · rw [if_pos (hfl.mpr ⟨hne, ht⟩)]
      exact hlzo ht
    · rw [if_neg (fun hf => ht (hfl.mp hf).2), if_pos (hfz.mpr ⟨hne, ht⟩)]
      exact hzlib ht

end

/-- What writing leaves: the block on the medium, and in the drive nothing but the
counters. The settings are those after `setup_crypto`. -/
structure WroteBlock (L : Libs) (d d' : Drive) (p i : ℕ) (l : List Record) (b : DataBlock)
    (bs : List UInt8) : Prop where
  /-- Only the store and the counters differ. -/
  eq : ∃ c m n, d' = { d with cart := c }.countWritten m n
  /-- The block is the last record, and the drive stands behind it. -/
  written : Written d.cart d'.cart p (l.take i ++ [.data b]) (overwriteCalls l i + 2)
  /-- It records the bytes. -/
  recorded : Recorded L b bs
  /-- It is encrypted when there is a key. -/
  encrypted : b.info.blk_flags &&& BLKHDR_FLG_ENCRYPTED ≠ 0 ↔ d.encryptp.isSome
  /-- With the key's data. -/
  key : b.info.blk_encryption_info =
    (d.encryptp.map BoundedEncryption.copied).getD Encryption.zero

section

variable {L : Libs} {d : Drive} {data : ℕ → UInt8} {n p i : ℕ} {l : List Record}

/-- A block of the arguments is recorded as asked. -/
theorem wroteBlock {a : BlockArgs} (h : At d.cart p l i) (hi : i ≤ MAX_BLK_NUMBER)
    (hio : OkFor (overwriteCalls l i + 2) d.cart.io) (hnull : a.null_media_type = false)
    (henc : a.encryptp = d.encryptp) {bs : List UInt8} (hr : Recorded L (dataBlock a) bs) :
    ∃ c', d.cart.write_tape_block a = (0, c') ∧
      ∀ m n, WroteBlock L d ({ d with cart := c' }.countWritten m n) p i l (dataBlock a) bs := by
  have hcalls : blockCalls a = 2 := by
    rw [blockCalls, hnull, if_neg Bool.false_ne_true]
  obtain ⟨c', hrun, hw⟩ := write_tape_block_ok h a hi (by rwa [hcalls])
  rw [hcalls, record_data hnull] at hw
  obtain ⟨-, -, -, hflag⟩ := info_flags a
  refine ⟨c', hrun, fun m n => ⟨⟨c', m, n, rfl⟩, hw, hr, ?_, ?_⟩⟩
  · rw [← henc]
    exact hflag
  · rw [← henc]
    exact info_encryption a

/-- Writing as it is. -/
theorem writeBlock_nocomp_ok (h : At (setup_crypto d).cart p l i) (hi : i ≤ MAX_BLK_NUMBER)
    (hio : OkFor (overwriteCalls l i + 2) (setup_crypto d).cart.io) (hn : n < 2 ^ 32) {lbp : ℕ}
    (hg : ∀ c, guardFails { setup_crypto d with cart := c } data n lbp
      (L.crc32c 0 (bytesAt data 0 n)) = false) :
    ∃ d' b, writeBlock_nocomp L d data n false lbp = (n, d') ∧
      WroteBlock L (setup_crypto d) d' p i l b (bytesAt data 0 n) := by
  obtain ⟨c', hrun, hw⟩ := @wroteBlock L (setup_crypto d) p i l
    (nocompArgs L (setup_crypto d) data n false) h hi hio rfl rfl _ (nocomp_recorded hn false)
  have hguard := hg c'
  refine ⟨_, _, ?_, hw n n⟩
  have hcrc : (nocompArgs L (setup_crypto d) data n false).crc =
    L.crc32c 0 (bytesAt data 0 n) := rfl
  have hnot : ¬(0 : ℤ) < 0 := lt_irrefl 0
  simp only [writeBlock_nocomp, hrun, hcrc, hguard, Bool.false_eq_true, if_false, if_neg hnot]

/-- Writing compressed. -/
theorem writeBlock_comp_ok (h : At (setup_crypto d).cart p l i) (hi : i ≤ MAX_BLK_NUMBER)
    (hio : OkFor (overwriteCalls l i + 2) (setup_crypto d).cart.io) (hn : n < 2 ^ 32)
    {compress : List UInt8 → Option (List UInt8)} {z : List UInt8}
    (hz : compress (bytesAt data 0 n) = some z) (hpos : 0 < z.length) (hlt : z.length < 2 ^ 32)
    {comp_type : UInt8}
    (hlzo : comp_type = LZO → L.lzo1x_decompress_safe z n = some (bytesAt data 0 n))
    (hzlib : comp_type ≠ LZO → L.uncompress z n = some (bytesAt data 0 n)) {lbp : ℕ}
    (hg : ∀ c, guardFails { setup_crypto d with cart := c } data n lbp
      (L.crc32c 0 (bytesAt data 0 n)) = false) :
    ∃ d' b, writeBlock_comp L d data n compress comp_type false lbp = (n, d') ∧
      WroteBlock L (setup_crypto d) d' p i l b (bytesAt data 0 n) := by
  obtain ⟨c', hrun, hw⟩ := @wroteBlock L (setup_crypto d) p i l
    (compArgs L (setup_crypto d) data n z comp_type false) h hi hio rfl rfl _
    (comp_recorded hn hpos hlt comp_type false hlzo hzlib)
  have hguard : guardFails ({ setup_crypto d with cart := c' }.countWritten z.length n) data n lbp
      (L.crc32c 0 (bytesAt data 0 n)) = false := hg c'
  refine ⟨_, _, ?_, hw z.length n⟩
  have hcrc : (compArgs L (setup_crypto d) data n z comp_type false).crc =
    L.crc32c 0 (bytesAt data 0 n) := rfl
  have hnot : ¬(0 : ℤ) < 0 := lt_irrefl 0
  simp only [writeBlock_comp, hz, hrun, hcrc, hguard, Bool.false_eq_true, if_false, if_neg hnot]

/-- The compression settings that the configuration describes: zlib has nine levels. -/
def Drive.CompressionValid (d : Drive) : Prop :=
  d.compressionType = ZLIB → d.compressionFactor.toNat ≤ 9

/-- Every way of writing records the bytes. -/
theorem writeChosen_ok (hL : L.Lossless) (h : At (setup_crypto d).cart p l i)
    (hi : i ≤ MAX_BLK_NUMBER) (hio : OkFor (overwriteCalls l i + 2) (setup_crypto d).cart.io)
    (hn : n < 2 ^ 24) (hnull : d.cart.mam.MediumType ≠ MEDIA_TYPE_NULL)
    (hlevel : d.CompressionValid) {lbp : ℕ}
    (hg : ∀ c, guardFails { setup_crypto d with cart := c } data n lbp
      (L.crc32c 0 (bytesAt data 0 n)) = false) :
    ∃ d' b, writeChosen L d data n lbp = (n, d') ∧
      WroteBlock L (setup_crypto d) d' p i l b (bytesAt data 0 n) := by
  have hn' : n < 2 ^ 32 := by omega
  have hlen := bytesAt_length data 0 n
  rw [writeChosen, if_neg hnull]
  split
  · exact writeBlock_nocomp_ok h hi hio hn' hg
  · split
    · obtain ⟨z, hz, hpos, hle, hdec⟩ := hL.lzo (bytesAt data 0 n)
      rw [hlen] at hle hdec
      exact writeBlock_comp_ok h hi hio hn' hz hpos (by omega) (fun _ => hdec)
        (fun hne => absurd rfl hne) hg
    · split
      · rename_i _ _ htype
        obtain ⟨z, hz, hpos, hle, hdec⟩ := hL.zlib (bytesAt data 0 n) _ (hlevel htype)
        rw [hlen] at hle hdec
        exact writeBlock_comp_ok h hi hio hn' hz hpos (by omega)
          (fun he => absurd he (by decide)) (fun _ => hdec) hg
      · exact writeBlock_nocomp_ok h hi hio hn' hg

end

end Mhvtl.Ssc
