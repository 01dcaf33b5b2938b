import Mhvtl.Lib.TableCrc
import Mhvtl.Ssc.Damage

/-!
# What the Reed-Solomon CRC notices

The other check word of protected blocks. In the byte order of the register it notices what
CRC32C notices, and the two ways to check it that the source has come to the same.
-/

namespace Mhvtl.Ssc

open Bytes Cart Store TableCrc
open Crc (Burst)

/-- The table of the check. -/
def rsTable (i : BitVec 8) : BitVec (24 + 8) := (crcTable.getD i.toNat 0).toBitVec

/-- The low byte of an entry is its index. -/
theorem rsTable_low (i : BitVec 8) : (rsTable i).setWidth 8 = i := by
  have hall : ((List.range 256).all fun i => (crcTable.getD i 0).toNat % 256 == i) = true := by
    decide +kernel
  have hentry := List.all_eq_true.mp hall i.toNat (List.mem_range.mpr i.isLt)
  apply BitVec.eq_of_toNat_eq
  rw [BitVec.toNat_setWidth]
  exact beq_iff_eq.mp hentry

/-- The check takes up byte after byte. -/
theorem GenerateRSCRC_takes (crc : UInt32) (bs : List UInt8) :
    (GenerateRSCRC crc bs).toBitVec = takes rsTable crc.toBitVec bs := by
  refine (List.foldl_hom UInt32.toBitVec fun c b => ?_).symm
  have hindex : (top c.toBitVec ^^^ b.toBitVec).toNat = b.toNat ^^^ (c >>> 24).toNat := by
    have htop : (top c.toBitVec).toNat = (c >>> 24).toNat := by
      have hdiv : (c >>> 24).toNat = c.toNat / 2 ^ 24 := by
        rw [UInt32.toNat_shiftRight, Nat.shiftRight_eq_div_pow]
        rfl
      have hlt : (c >>> 24).toNat < 256 := by
        have := c.toNat_lt
        omega
      rw [top, BitVec.toNat_setWidth]
      exact Nat.mod_eq_of_lt hlt
    rw [BitVec.toNat_xor, htop, Nat.xor_comm]
    rfl
  rw [take_eq, rsTable, hindex]
  rfl

/-- Bytes of the register as they are put behind a block. -/
theorem word_beBytes (c : BitVec (24 + 8)) : word (beBytes 4 c.toNat) = c := by
  have hbyte : ∀ (d : BitVec (24 + 8)) (m : ℕ), d.toNat / 2 ^ 24 = m % 256 →
      UInt8.ofNat m = UInt8.ofBitVec (top d) := by
    intro d m h
    apply UInt8.toNat_inj.mp
    have htop : (UInt8.ofBitVec (top d)).toNat = d.toNat / 2 ^ 24 % 2 ^ 8 := by
      rw [← Nat.shiftRight_eq_div_pow, ← BitVec.toNat_ushiftRight, ← BitVec.toNat_setWidth]
      rfl
    have hm : (UInt8.ofNat m).toNat = m % 256 := UInt8.toNat_ofNat'
    rw [htop, hm, h]
    omega
  have hshift : ∀ d : BitVec (24 + 8), (d <<< 8).toNat = d.toNat * 256 % 2 ^ 32 := by
    intro d
    rw [BitVec.toNat_shiftLeft, Nat.shiftLeft_eq]
  have hlt : c.toNat < 2 ^ 32 := c.isLt
  have hbytes : beBytes 4 c.toNat = [UInt8.ofBitVec (top c), UInt8.ofBitVec (top (c <<< 8)),
      UInt8.ofBitVec (top (c <<< 8 <<< 8)), UInt8.ofBitVec (top (c <<< 8 <<< 8 <<< 8))] := by
    have hlist : beBytes 4 c.toNat = [UInt8.ofNat (c.toNat / 256 / 256 / 256),
      UInt8.ofNat (c.toNat / 256 / 256), UInt8.ofNat (c.toNat / 256), UInt8.ofNat c.toNat] := rfl
    rw [hlist, hbyte c _ (by omega), hbyte (c <<< 8) _ (by rw [hshift]; omega),
      hbyte (c <<< 8 <<< 8) _ (by rw [hshift, hshift]; omega),
      hbyte (c <<< 8 <<< 8 <<< 8) _ (by rw [hshift, hshift, hshift]; omega)]
  have hout : c <<< 8 <<< 8 <<< 8 <<< 8 = 0#(24 + 8) := by
    simp only [← BitVec.shiftLeft_add]
    exact BitVec.shiftLeft_eq_zero (by decide)
  rw [hbytes]
  exact word_top c (word_top _ (word_top _ (word_top _ hout.symm)))

/-- An empty register stays empty. -/
theorem advance_zero : advance rsTable 0#(24 + 8) = 0#(24 + 8) := by decide +kernel

/-- Two blocks that a burst makes of each other have different check words. -/
theorem rscrc_burst (crc : UInt32) {as bs : List UInt8} (hburst : Burst 4 as bs)
    (h : GenerateRSCRC crc as = GenerateRSCRC crc bs) : as = bs := by
  have hreg := congrArg UInt32.toBitVec h
  rw [GenerateRSCRC_takes, GenerateRSCRC_takes] at hreg
  exact takes_burst rsTable rsTable_low (by decide) hburst hreg

/-- The check word is right exactly when the check of block and word is zero. -/
theorem rscrc_matches_iff (crc : UInt32 → List UInt8 → UInt32) (bs : List UInt8)
    {tail : List UInt8} (htail : tail.length = 4) :
    ((LbpMethod.rscrc true).checkWord crc).Matches bs tail ↔ GenerateRSCRC 0 (bs ++ tail) = 0 := by
  have hreg : (GenerateRSCRC 0 bs).toBitVec = takes rsTable 0#(24 + 8) bs :=
    GenerateRSCRC_takes 0 bs
  have hzero : GenerateRSCRC 0 (bs ++ tail) = 0 ↔
      (advance rsTable)^[4] ((GenerateRSCRC 0 bs).toBitVec ^^^ word tail) = 0#(24 + 8) := by
    have hall : (GenerateRSCRC 0 (bs ++ tail)).toBitVec =
        (advance rsTable)^[4] ((GenerateRSCRC 0 bs).toBitVec ^^^ word tail) := by
      rw [hreg, ← htail, ← takes_word rsTable _ (by rw [htail]), ← takes_append]
      exact GenerateRSCRC_takes 0 _
    rw [← UInt32.toBitVec_inj, hall]
    rfl
  have hfixed : (advance rsTable)^[4] 0#(24 + 8) = 0#(24 + 8) := Function.iterate_fixed advance_zero 4
  have hbytes : word (beBytes 4 (GenerateRSCRC 0 bs).toNat) = (GenerateRSCRC 0 bs).toBitVec :=
    word_beBytes _
  rw [hzero, CheckWord.Matches, LbpMethod.checkWord]
  dsimp only
  constructor
  · rintro rfl
    rw [hbytes, BitVec.xor_self]
    exact hfixed
  · intro h
    have hword := (advance_injective rsTable_low).iterate 4 (h.trans hfixed.symm)
    rw [BitVec.xor_eq_zero_iff, ← hbytes] at hword
    exact (word_injective (by rw [beBytes_length, htail]) (by rw [beBytes_length]) hword).symm

/-- What came of a block and its word by a burst does not pass. -/
theorem rscrc_word_burst (crc : UInt32 → List UInt8 → UInt32) {bs got tail : List UInt8}
    (hburst : Burst 4 (((LbpMethod.rscrc true).checkWord crc).append bs) (got ++ tail))
    (hmatch : ((LbpMethod.rscrc true).checkWord crc).Matches got tail) : got = bs := by
  let g := (LbpMethod.rscrc true).checkWord crc
  have hzero : ∀ bs, GenerateRSCRC 0 (g.append bs) = 0 := fun bs =>
    (rscrc_matches_iff crc bs (g.word_length bs)).mp rfl
  rw [g.eq_append_of_matches hmatch] at hburst
  have heq := rscrc_burst 0 hburst ((hzero bs).trans (hzero got).symm)
  exact (List.append_inj' heq (by rw [g.word_length, g.word_length])).1.symm

/-- What the check notices, wherever the library takes its CRC32C from. -/
structure RscrcNoticesBursts (L : Libs) : Prop where
  /-- The word compared, and block and word taken up together, come to the same. -/
  ways : ∀ bs tail : List UInt8, tail.length = 4 →
    (((LbpMethod.rscrc true).checkWord L.crc32c).Matches bs tail ↔ GenerateRSCRC 0 (bs ++ tail) = 0)
  /-- In either byte order, a block that went wrong has another word. -/
  block : ∀ (be : Bool) (as bs : List UInt8), Burst 4 as bs →
    ((LbpMethod.rscrc be).checkWord L.crc32c).Matches bs
      (((LbpMethod.rscrc be).checkWord L.crc32c).word as) → as = bs
  /-- On the way to a medium that keeps data: no write of the block and its word, at the start of
  the transfer, ends well. -/
  sent : ∀ (d : Drive) (data : ℕ → UInt8) (bs : List UInt8),
    d.cart.mam.MediumType ≠ MEDIA_TYPE_NULL →
    writeLbpMethod d = (LbpMethod.rscrc true).number → d.lbp_rscrc_be = true →
    Burst 4 (((LbpMethod.rscrc true).checkWord L.crc32c).append bs)
      (bytesAt data 0 (bs.length + 4)) →
    bytesAt data 0 (bs.length + 4) ≠ ((LbpMethod.rscrc true).checkWord L.crc32c).append bs →
    ∀ n d', writeBlock L d data (bs.length + 4) = some (n, d') → d'.sam_stat ≠ SAM_STAT_GOOD
  /-- On the way back: only the block passes the test of the initiator. -/
  back : ∀ bs got tail : List UInt8,
    Burst 4 (((LbpMethod.rscrc true).checkWord L.crc32c).append bs) (got ++ tail) →
    ((LbpMethod.rscrc true).checkWord L.crc32c).Matches got tail → got = bs

/-- The Reed-Solomon CRC notices every burst of four bytes on the way to the drive and back. -/
theorem rscrc_bursts_noticed (L : Libs) : RscrcNoticesBursts L where
  ways bs tail htail := rscrc_matches_iff L.crc32c bs htail
  block be as bs hburst hmatch := by
    have hlt : ∀ bs, (GenerateRSCRC 0 bs).toNat < 256 ^ 4 := fun bs => (GenerateRSCRC 0 bs).toNat_lt
    refine rscrc_burst 0 hburst (UInt32.toNat_inj.mp ?_)
    cases be with
    | true =>
      have hword := congrArg beNat hmatch
      simp only [LbpMethod.checkWord, beNat_beBytes_of_lt (hlt _)] at hword
      exact hword
    | false =>
      have hword := congrArg leNat hmatch
      simp only [LbpMethod.checkWord, leNat_leBytes_of_lt (hlt _)] at hword
      exact hword
  sent d data bs hnull hmethod hbe hburst hwrong n d' hrun := by
    refine writeBlock_wrong hnull (wordWrong_of_burst (.rscrc true) (fun e he => ?_) hmethod
      (fun got tail => rscrc_word_burst L.crc32c) hburst hwrong) hrun
    cases he
    exact hbe.symm
  back bs got tail hburst hmatch := rscrc_word_burst L.crc32c hburst hmatch

/-- A block that was hit on its way is written to a drive that guards, and neither way to check its
word passes. -/
theorem rscrc_bursts_noticed_hitByte :
    (∃ n d', writeBlock storedLibs guardedDrive (hitByte (.rscrc true)) 5 = some (n, d') ∧
      d'.sam_stat ≠ SAM_STAT_GOOD) ∧
    ¬((LbpMethod.rscrc true).checkWord storedLibs.crc32c).Matches [66] [159, 98, 158, 65] ∧
    GenerateRSCRC 0 [66, 159, 98, 158, 65] ≠ 0 := by
  have hnoticed := rscrc_bursts_noticed storedLibs
  have hburst : Burst 4 (((LbpMethod.rscrc true).checkWord storedLibs.crc32c).append [65])
      [66, 159, 98, 158, 65] :=
    ⟨[], [65, 158], [66, 159], [98, 158, 65], by decide +kernel, rfl, rfl, by decide⟩
  have hsent : bytesAt (hitByte (.rscrc true)) 0 5 = [66, 159, 98, 158, 65] := by decide +kernel
  have hfails : ¬((LbpMethod.rscrc true).checkWord storedLibs.crc32c).Matches [66]
      [159, 98, 158, 65] := fun hmatch =>
    absurd (hnoticed.back [65] [66] [159, 98, 158, 65] hburst hmatch) (by decide)
  obtain ⟨⟨n, d'⟩, hrun⟩ :
      ∃ r, writeBlock storedLibs guardedDrive (hitByte (.rscrc true)) 5 = some r :=
    Option.isSome_iff_exists.mp (by decide +kernel)
  refine ⟨⟨n, d', hrun, ?_⟩, hfails, fun hzero => ?_⟩
  · exact hnoticed.sent guardedDrive (hitByte (.rscrc true)) [65] (by decide +kernel)
      (by decide +kernel) rfl (hsent ▸ hburst) (by decide +kernel) n d' hrun
  · exact hfails ((hnoticed.ways [66] [159, 98, 158, 65] rfl).mpr hzero)

end Mhvtl.Ssc
