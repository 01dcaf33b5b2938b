import Mhvtl.Ssc.BlockOutcomes
import Mhvtl.Ssc.Crc32cPaths
import Mhvtl.Ssc.Protection

/-!
# What CRC32C notices

Bytes that went wrong side by side, four at most, never pass for those that were meant: not
in a stored block that is read, not in a protected block on its way to the drive, and not in
one on its way back.
-/

namespace Mhvtl.Ssc

open Bytes Cart Store Crc

/-- The library computes CRC32C, on whatever processor and wherever the buffer is. -/
def Libs.Crc32c (L : Libs) : Prop :=
  ∀ seed buf, ∃ sse42 next, (L.crc32c seed buf).toBitVec = Ssc.crc32c sse42 next seed.toBitVec buf

/-- The function of such a library. -/
theorem Libs.Crc32c.eq {L : Libs} (h : L.Crc32c) (seed : UInt32) (buf : List UInt8) :
    (L.crc32c seed buf).toBitVec = ~~~ bytes POLY (~~~seed.toBitVec) buf := by
  obtain ⟨sse42, next, heq⟩ := h seed buf
  rw [heq, Ssc.crc32c, crc32c_hw_eq, crc32c_sw_little_eq, ite_self]

/-- The polynomial has its highest bit. -/
theorem POLY_msb : POLY.msb = true := by decide

section Words

/-- The bytes of a number as a register. -/
theorem word_leBytes (k n : ℕ) (hk : n < 256 ^ k) (hn : n < 2 ^ 32) :
    word (leBytes k n) = BitVec.ofNat 32 n := by
  induction k generalizing n with
  | zero =>
    obtain rfl := Nat.lt_one_iff.mp hk
    rfl
  | succ k ih =>
    have hquot : n / 256 < 256 ^ k := by
      rw [Nat.pow_succ] at hk
      omega
    have hlow : (UInt8.ofNat n).toBitVec.setWidth 32 = low (BitVec.ofNat 32 n) := by
      apply BitVec.eq_of_toNat_eq
      have hbyte : (UInt8.ofNat n).toBitVec.toNat = n % 256 := UInt8.toNat_ofNat'
      rw [toNat_low _ (by decide), BitVec.toNat_setWidth, hbyte, BitVec.toNat_ofNat,
        Nat.mod_eq_of_lt hn]
      omega
    have hhigh : BitVec.ofNat 32 (n / 256) = BitVec.ofNat 32 n >>> 8 := by
      apply BitVec.eq_of_toNat_eq
      rw [BitVec.toNat_ushiftRight, BitVec.toNat_ofNat, BitVec.toNat_ofNat, Nat.mod_eq_of_lt hn,
        Nat.shiftRight_eq_div_pow]
      omega
    rw [leBytes, word, ih (n / 256) hquot (by omega), hlow, hhigh, low_xor_high]

variable {L : Libs}

/-- Other bytes by a burst have another check. -/
theorem crc32c_burst (hL : L.Crc32c) (seed : UInt32) {as bs : List UInt8} (hburst : Burst 4 as bs)
    (h : L.crc32c seed as = L.crc32c seed bs) : as = bs := by
  have hreg := congrArg UInt32.toBitVec h
  rw [hL.eq, hL.eq, BitVec.not_inj] at hreg
  exact bytes_burst POLY POLY_msb (by decide) hburst hreg

/-- The register behind a block and its word is the same for every block. -/
theorem append_register (hL : L.Crc32c) (bs : List UInt8) :
    bytes POLY (BitVec.allOnes 32) ((LbpMethod.crc32c.checkWord L.crc32c).append bs) =
      bits POLY 32 (BitVec.allOnes 32) := by
  have hseed : ~~~(0 : UInt32).toBitVec = BitVec.allOnes 32 := by decide
  have hcrc := hL.eq 0 bs
  rw [hseed] at hcrc
  generalize hreg : bytes POLY (BitVec.allOnes 32) bs = c at hcrc
  have hlt : (L.crc32c 0 bs).toNat < 2 ^ 32 := (L.crc32c 0 bs).toNat_lt
  have hword : word (leBytes 4 (L.crc32c 0 bs).toNat) = ~~~c := by
    rw [word_leBytes 4 _ hlt hlt, ← hcrc]
    exact (BitVec.ofNat_toNat 32 _).trans (BitVec.setWidth_eq _)
  have hlen : (leBytes 4 (L.crc32c 0 bs).toNat).length = 4 := leBytes_length 4 _
  have happend : (LbpMethod.crc32c.checkWord L.crc32c).append bs =
      bs ++ leBytes 4 (L.crc32c 0 bs).toNat := rfl
  rw [happend, bytes_append, hreg, bytes_word POLY c (by omega), hlen, hword]
  congr 1
  rw [← BitVec.xor_allOnes, ← BitVec.xor_assoc, BitVec.xor_self, BitVec.zero_xor]

/-- What came of a block and its word by a burst does not pass. -/
theorem word_burst (hL : L.Crc32c) {bs got tail : List UInt8}
    (hburst : Burst 4 ((LbpMethod.crc32c.checkWord L.crc32c).append bs) (got ++ tail))
    (hmatch : (LbpMethod.crc32c.checkWord L.crc32c).Matches got tail) : got = bs := by
  have hsent := (LbpMethod.crc32c.checkWord L.crc32c).eq_append_of_matches hmatch
  rw [hsent] at hburst
  have heq := bytes_burst POLY POLY_msb (by decide) hburst
    ((append_register hL bs).trans (append_register hL got).symm)
  exact (List.append_inj' heq (by rw [CheckWord.word_length, CheckWord.word_length])).1.symm

end Words

section Medium

variable {L : Libs} {d : Drive} {p i : ℕ} {l : List Record} {b : DataBlock} {bs : List UInt8}

/-- The block `b` was recorded of `bs` as it is and with its CRC, and a burst hit its bytes. -/
structure Hit (L : Libs) (b : DataBlock) (bs : List UInt8) : Prop where
  /-- It is not compressed by lzo. -/
  lzo : b.info.blk_flags &&& BLKHDR_FLG_LZO_COMPRESSED = 0
  /-- It is not compressed by zlib. -/
  zlib : b.info.blk_flags &&& BLKHDR_FLG_ZLIB_COMPRESSED = 0
  /-- The header has a CRC. -/
  flag : b.info.blk_flags &&& BLKHDR_FLG_CRC ≠ 0
  /-- The CRC is that of the bytes that were recorded. -/
  crc : b.info.uncomp_crc = L.crc32c 0 bs
  /-- The size is theirs. -/
  size : b.info.blk_size.toNat = bs.length
  /-- The burst. -/
  burst : Burst 4 bs b.bytes
  /-- The bytes are others. -/
  wrong : b.bytes ≠ bs

/-- A read of a block that was hit sends nothing and reports a medium error. -/
theorem readBlock_hit (hL : L.Crc32c) (h : At d.cart p l i) (hl : l.length < 2 ^ 32)
    (hb : l[i]? = some (.data b)) (hhit : Hit L b bs) {sz : ℕ} (hsz : sz ≠ 0) (sili : Bool)
    (lbp_method : ℕ) :
    readBlock L d sz sili lbp_method =
      ([], { d with cart := moved d.cart p l (i + 1) }.report
        (sam_medium_error E_DECOMPRESSION_CRC)) := by
  have hpos := c_pos_data h hb
  have htype : d.cart.c_pos.blk_type = B_DATA := by rw [hpos]; rfl
  have hfm : ¬B_DATA = B_FILEMARK := by decide
  have heod : ¬B_DATA = B_EOD := by decide
  have hsize : d.cart.c_pos.blk_size.toNat = b.bytes.length := by
    rw [hpos, ← hhit.burst.length_eq]
    exact hhit.size
  have hflags : d.cart.c_pos.blk_flags = b.info.blk_flags := by rw [hpos]; rfl
  have hcrc : d.cart.c_pos.uncomp_crc = L.crc32c 0 bs := by rw [hpos]; exact hhit.crc
  have hread := read_tape_block_data h hl hb b.bytes.length
  have hcontent : readContent L d = (some b.bytes, { d with cart := moved d.cart p l (i + 1) }) := by
    simp only [readContent, hflags, hhit.lzo, hhit.zlib, hsize, hread, List.take_length, ne_eq,
      not_true_eq_false, if_false, Option.map_some, Option.getD_some, if_true]
    rfl
  have hdiff : L.crc32c 0 bs ≠ L.crc32c 0 b.bytes := fun heq =>
    hhit.wrong (crc32c_burst hL 0 hhit.burst heq).symm
  have hany : ((some (L.crc32c 0 bs)).any fun crc => decide (crc ≠ L.crc32c 0 b.bytes)) = true :=
    decide_eq_true hdiff
  simp only [readBlock, if_neg hsz, htype, if_neg hfm, if_neg heod, ne_eq, not_true_eq_false,
    if_false, hcontent, hflags, hcrc]
  rw [if_pos hhit.flag, if_pos hany]

end Medium

section Sent

variable {L : Libs} {d d' : Drive} {data : ℕ → UInt8} {sz : ℕ}

/-- A block whose check word is wrong is reported. -/
theorem writeBlock_wrong (hnull : d.cart.mam.MediumType ≠ MEDIA_TYPE_NULL)
    (hwrong : WordWrong L d data sz) {n : ℕ} (hrun : writeBlock L d data sz = some (n, d')) :
    d'.sam_stat ≠ SAM_STAT_GOOD := by
  have hbad : ∀ (e : Drive) (key asc : ℕ), (e.report (return_sense key asc none)).sam_stat ≠
      SAM_STAT_GOOD := fun _ _ _ =>
    (by decide : SAM_STAT_CHECK_CONDITION ≠ SAM_STAT_GOOD)
  cases hcap : medium_partition_capacity L d d.cart.partition_id with
  | none =>
    simp only [writeBlock, hcap] at hrun
    cases hrun
  | some cap =>
    by_cases hfull : cap ≤ d.cart.current_tape_offset
    · simp only [writeBlock, hcap, if_pos hfull] at hrun
      cases hrun
      exact hbad _ _ _
    · by_cases hword : writeLbpMethod d ≠ 0 ∧ sz < 4
      · simp only [writeBlock, hcap, if_neg hfull, if_pos hword] at hrun
        cases hrun
      · cases ha : chosenArgs L d data (payload d sz) with
        | none =>
          have hsize : (if writeLbpMethod d ≠ 0 then sz - 4 else sz) = payload d sz := rfl
          simp only [writeBlock, hcap, if_neg hfull, if_neg hword] at hrun
          rw [hsize, writeChosen_none ha] at hrun
          cases hrun
          exact hbad _ _ _
        | some a =>
          obtain ⟨n', e, hrun', hatt⟩ :=
            writeBlock_attempted hnull hcap (Nat.not_le.mp hfull) hword ha
          rw [hrun'] at hrun
          cases hrun
          exact fun hgood => (hatt.good.mp hgood).2.1 hwrong

/-- The method is that of the drive. -/
theorem writeLbpMethod_supported (h : writeLbpMethod d ≠ 0) : d.pm.drive_supports_LBP ≠ 0 := by
  intro hno
  rw [writeLbpMethod, if_neg fun hc => hc.1 hno] at h
  exact h rfl

/-- The check word of what came of a block by a burst is wrong, by a method that tells bursts. -/
theorem wordWrong_of_burst (m : LbpMethod) (hbe : ∀ e, m = .rscrc e → e = d.lbp_rscrc_be)
    (hmethod : writeLbpMethod d = m.number) {bs : List UInt8}
    (htells : ∀ got tail, Burst 4 ((m.checkWord L.crc32c).append bs) (got ++ tail) →
      (m.checkWord L.crc32c).Matches got tail → got = bs)
    (hburst : Burst 4 ((m.checkWord L.crc32c).append bs) (bytesAt data 0 (bs.length + 4)))
    (hwrong : bytesAt data 0 (bs.length + 4) ≠ (m.checkWord L.crc32c).append bs) :
    WordWrong L d data (bs.length + 4) := by
  have hnum := m.number_cases
  have hne : writeLbpMethod d ≠ 0 := by omega
  have hpayload : payload d (bs.length + 4) = bs.length := by
    rw [payload, if_pos hne, Nat.add_sub_cancel]
  have hverify : verify_lbp_crc m.number d.lbp_rscrc_be data bs.length
      (L.crc32c 0 (bytesAt data 0 bs.length)) = false := by
    rw [← Bool.not_eq_true]
    intro hright
    have hmatch := matches_of_verify m hbe hright
    have hsent := (m.checkWord L.crc32c).eq_append_of_matches hmatch
    rw [bytesAt_add, Nat.zero_add] at hburst hwrong
    rw [htells _ _ hburst hmatch] at hsent
    exact hwrong (by rw [← hsent, htells _ _ hburst hmatch])
  rw [WordWrong, hpayload, guardFails, hmethod]
  exact decide_eq_true ⟨writeLbpMethod_supported hne, hmethod ▸ hne, hverify⟩

end Sent

/-- What is noticed of a burst. -/
structure NoticesBursts (L : Libs) : Prop where
  /-- On the medium: no read, of any size and with any protection, sends anything of the block. -/
  medium : ∀ (d : Drive) (p : ℕ) (l : List Record) (i : ℕ) (b : DataBlock) (bs : List UInt8)
    (sz : ℕ) (sili : Bool) (lbp_method : ℕ), At d.cart p l i → l.length < 2 ^ 32 →
    l[i]? = some (.data b) → Hit L b bs → sz ≠ 0 →
    (readBlock L d sz sili lbp_method).1 = [] ∧
      (readBlock L d sz sili lbp_method).2.cart.status = sam_medium_error E_DECOMPRESSION_CRC
  /-- On the way to a medium that keeps data: no write of the block and its word, at the start of
  the transfer, ends well. -/
  sent : ∀ (d : Drive) (data : ℕ → UInt8) (bs : List UInt8),
    d.cart.mam.MediumType ≠ MEDIA_TYPE_NULL → writeLbpMethod d = LbpMethod.crc32c.number →
    Burst 4 ((LbpMethod.crc32c.checkWord L.crc32c).append bs) (bytesAt data 0 (bs.length + 4)) →
    bytesAt data 0 (bs.length + 4) ≠ (LbpMethod.crc32c.checkWord L.crc32c).append bs →
    ∀ n d', writeBlock L d data (bs.length + 4) = some (n, d') → d'.sam_stat ≠ SAM_STAT_GOOD
  /-- On the way back: only the block passes the test of the initiator. -/
  back : ∀ bs got tail : List UInt8,
    Burst 4 ((LbpMethod.crc32c.checkWord L.crc32c).append bs) (got ++ tail) →
    (LbpMethod.crc32c.checkWord L.crc32c).Matches got tail → got = bs

/-- CRC32C notices every burst of four bytes, on the medium and on the way there and back. -/
theorem bursts_noticed {L : Libs} (hL : L.Crc32c) : NoticesBursts L where
  medium d p l i b bs sz sili lbp_method h hl hb hhit hsz := by
    rw [readBlock_hit hL h hl hb hhit hsz sili lbp_method]
    exact ⟨rfl, rfl⟩
  sent d data bs hnull hmethod hburst hwrong n d' hrun :=
    writeBlock_wrong hnull (wordWrong_of_burst .crc32c (fun e he => by cases he) hmethod
      (fun got tail => word_burst hL) hburst hwrong) hrun
  back bs got tail hburst hmatch := word_burst hL hburst hmatch

/-- Bit by bit, on a machine without the instruction. -/
theorem storedLibs_crc32c : storedLibs.Crc32c := fun seed buf => ⟨false, 0, by
  rw [crc32c, crc32c_sw_little_eq, ← crc32cBitwise_eq]
  rfl⟩

/-- A block of three bytes with its CRC, two of which went wrong on the medium. -/
def hitBlock : BlockArgs :=
  { nocompArgs storedLibs emptyDrive (fun k => [7, 7, 7].getD k 0) 3 false with
    buffer := fun k => [7, 8, 9].getD k 0 }

/-- A tape with this block, at its start. -/
def hitDrive : Drive :=
  emptyDrive.onCart fun c => (c.write_tape_block hitBlock).2.rewind_tape.2

/-- The head is in front of the block. -/
theorem hitDrive_at : At hitDrive.cart 0 [.data (dataBlock hitBlock)] 0 := by
  obtain ⟨c', hrun, hw⟩ := write_tape_block_ok emptyDrive_at hitBlock (Nat.zero_le _) (okFor_nil _)
  have hat : At c' 0 [.data (dataBlock hitBlock)] 1 := hw.at_end
  obtain ⟨c₀, hrewind, hsought⟩ := rewind_tape_ok hat (by decide)
  have hcart : hitDrive.cart = c₀ := by
    rw [hitDrive, Drive.onCart_cart, hrun]
    exact congrArg Prod.snd hrewind
  rw [hcart]
  exact hsought.at_pos hat

/-- Two bytes of the block were hit. -/
theorem hitBlock_hit : Hit storedLibs (dataBlock hitBlock) [7, 7, 7] where
  lzo := by decide +kernel
  zlib := by decide +kernel
  flag := by decide +kernel
  crc := by decide +kernel
  size := by decide +kernel
  burst := ⟨[7], [7, 7], [8, 9], [], rfl, by decide +kernel, rfl, by decide⟩
  wrong := by decide +kernel

/-- A drive that guards by CRC32C. -/
def crcDrive : Drive := { guardedDrive with LBP_method := 2 }

/-- A byte with its check word; the byte and the first of the word went wrong. -/
def hitByte (m : LbpMethod) (k : ℕ) : UInt8 :=
  let sent := (m.checkWord crc32cBitwise).append [65]
  if k < 2 then sent.getD k 0 + 1 else sent.getD k 0

/-- A block that was hit on the medium is read by its own size, and one that was hit on its way is
written to a drive that guards. -/
theorem storedLibs_bursts_noticed :
    (readBlock storedLibs hitDrive 3 false 0).1 = [] ∧
    (readBlock storedLibs hitDrive 3 false 0).2.cart.status =
      sam_medium_error E_DECOMPRESSION_CRC ∧
    ∃ n d', writeBlock storedLibs crcDrive (hitByte .crc32c) 5 = some (n, d') ∧
      d'.sam_stat ≠ SAM_STAT_GOOD := by
  have hnoticed := bursts_noticed storedLibs_crc32c
  obtain ⟨hnone, hstatus⟩ := hnoticed.medium hitDrive 0 _ 0 _ [7, 7, 7] 3 false 0 hitDrive_at
    (by decide) rfl hitBlock_hit (by decide)
  obtain ⟨⟨n, d'⟩, hrun⟩ : ∃ r, writeBlock storedLibs crcDrive (hitByte .crc32c) 5 = some r :=
    Option.isSome_iff_exists.mp (by decide +kernel)
  refine ⟨hnone, hstatus, n, d', hrun, ?_⟩
  exact hnoticed.sent crcDrive (hitByte .crc32c) [65] (by decide +kernel) (by decide +kernel)
    ⟨[], [65, 238], [66, 239], [205, 109, 225], by decide +kernel, by decide +kernel, rfl, by decide⟩
    (by decide +kernel) n d' hrun

end Mhvtl.Ssc
