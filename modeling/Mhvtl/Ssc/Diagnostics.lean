import Mhvtl.Ssc.ModePages
import Mhvtl.Ssc.ReedSolomon

/-!
# The self test

SEND DIAGNOSTIC computes both check words of two blocks of primes and compares them with what
they are known to be. On every processor and wherever the blocks are, it passes.
-/

namespace Mhvtl.Ssc

/-- The first block of the self test. -/
def block1 : List UInt8 :=
  [2, 3, 5, 7, 11, 13, 17, 19, 23, 29, 31, 37, 41, 43, 47, 53, 59, 61, 67, 71, 73, 79, 83, 89, 97,
   101, 103, 107, 109, 113, 127, 131, 137, 139, 149, 151, 157]

/-- The second one. -/
def block2 : List UInt8 :=
  [163, 167, 173, 179, 181, 191, 193, 197, 199, 211, 223, 227, 229, 233, 239, 241, 251]

/-- SEND DIAGNOSTIC. -/
def ssc_send_diagnostics (L : Libs) (d : Drive) : Drive :=
  let d := d.declare_ssc_vars
  let crc := L.crc32c 0 block1
  -- what is handed on is inverted once more, so that this is not the check of both blocks
  let crc_failed := crc ≠ 0xE8174F48 ∨ L.crc32c (~~~crc) block2 ≠ 0x56DAB0A6
  let rscrc := GenerateRSCRC 0 block1
  let rscrc_failed := rscrc ≠ 0x733D4DCA ∨ GenerateRSCRC rscrc block2 ≠ 0x754ED37E
  if crc_failed ∨ rscrc_failed then d.report (sam_hardware_error E_INTERNAL_TARGET_FAILURE)
  else d.returns SAM_STAT_GOOD

/-- A library that computes CRC32C computes it bit by bit. -/
theorem Libs.Crc32c.bitwise {L : Libs} (h : L.Crc32c) : L.crc32c = crc32cBitwise := by
  funext seed buf
  rw [← UInt32.toBitVec_inj, h.eq, crc32cBitwise_eq]

/-- The self test passes. -/
theorem diagnostics_pass {L : Libs} (hL : L.Crc32c) (d : Drive) :
    (ssc_send_diagnostics L d).sam_stat = SAM_STAT_GOOD := by
  have hfirst : crc32cBitwise 0 block1 = 0xE8174F48 := by decide +kernel
  have hsecond : crc32cBitwise (~~~0xE8174F48) block2 = 0x56DAB0A6 := by decide +kernel
  have hrs : GenerateRSCRC 0 block1 = 0x733D4DCA := by decide +kernel
  have hrs' : GenerateRSCRC 0x733D4DCA block2 = 0x754ED37E := by decide +kernel
  have hpass : ¬((L.crc32c 0 block1 ≠ 0xE8174F48 ∨
        L.crc32c (~~~L.crc32c 0 block1) block2 ≠ 0x56DAB0A6) ∨
      GenerateRSCRC 0 block1 ≠ 0x733D4DCA ∨
        GenerateRSCRC (GenerateRSCRC 0 block1) block2 ≠ 0x754ED37E) := by
    rw [hL.bitwise, hfirst, hsecond, hrs, hrs']
    simp
  rw [ssc_send_diagnostics]
  rw [if_neg hpass]
  rfl

end Mhvtl.Ssc
