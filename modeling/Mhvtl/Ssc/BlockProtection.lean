import Mhvtl.Lib.Bytes
import Mhvtl.Lib.Trailer

/-!
# Check words of logical block protection

Two methods guard a block on its way between drive and initiator: a
Reed-Solomon CRC, in either byte order, and CRC32C in the byte order of the
host. Generator and checker are written apart from each other in the source;
here the checker of each method is shown to accept exactly the generator's word.
-/

namespace Mhvtl.Ssc

open Bytes

/-- The table of the Reed-Solomon CRC. -/
def crcTable : List UInt32 :=
  [0x00000000, 0x38CF3801, 0x70837002, 0x484C4803, 0xE01BE004, 0xD8D4D805, 0x90989006, 0xA857A807,
   0xDD36DD08, 0xE5F9E509, 0xADB5AD0A, 0x957A950B, 0x3D2D3D0C, 0x05E2050D, 0x4DAE4D0E, 0x7561750F,
   0xA76CA710, 0x9FA39F11, 0xD7EFD712, 0xEF20EF13, 0x47774714, 0x7FB87F15, 0x37F43716, 0x0F3B0F17,
   0x7A5A7A18, 0x42954219, 0x0AD90A1A, 0x3216321B, 0x9A419A1C, 0xA28EA21D, 0xEAC2EA1E, 0xD20DD21F,
   0x53D85320, 0x6B176B21, 0x235B2322, 0x1B941B23, 0xB3C3B324, 0x8B0C8B25, 0xC340C326, 0xFB8FFB27,
   0x8EEE8E28, 0xB621B629, 0xFE6DFE2A, 0xC6A2C62B, 0x6EF56E2C, 0x563A562D, 0x1E761E2E, 0x26B9262F,
   0xF4B4F430, 0xCC7BCC31, 0x84378432, 0xBCF8BC33, 0x14AF1434, 0x2C602C35, 0x642C6436, 0x5CE35C37,
   0x29822938, 0x114D1139, 0x5901593A, 0x61CE613B, 0xC999C93C, 0xF156F13D, 0xB91AB93E, 0x81D5813F,
   0xA6ADA640, 0x9E629E41, 0xD62ED642, 0xEEE1EE43, 0x46B64644, 0x7E797E45, 0x36353646, 0x0EFA0E47,
   0x7B9B7B48, 0x43544349, 0x0B180B4A, 0x33D7334B, 0x9B809B4C, 0xA34FA34D, 0xEB03EB4E, 0xD3CCD34F,
   0x01C10150, 0x390E3951, 0x71427152, 0x498D4953, 0xE1DAE154, 0xD915D955, 0x91599156, 0xA996A957,
   0xDCF7DC58, 0xE438E459, 0xAC74AC5A, 0x94BB945B, 0x3CEC3C5C, 0x0423045D, 0x4C6F4C5E, 0x74A0745F,
   0xF575F560, 0xCDBACD61, 0x85F68562, 0xBD39BD63, 0x156E1564, 0x2DA12D65, 0x65ED6566, 0x5D225D67,
   0x28432868, 0x108C1069, 0x58C0586A, 0x600F606B, 0xC858C86C, 0xF097F06D, 0xB8DBB86E, 0x8014806F,
   0x52195270, 0x6AD66A71, 0x229A2272, 0x1A551A73, 0xB202B274, 0x8ACD8A75, 0xC281C276, 0xFA4EFA77,
   0x8F2F8F78, 0xB7E0B779, 0xFFACFF7A, 0xC763C77B, 0x6F346F7C, 0x57FB577D, 0x1FB71F7E, 0x2778277F,
   0x51475180, 0x69886981, 0x21C42182, 0x190B1983, 0xB15CB184, 0x89938985, 0xC1DFC186, 0xF910F987,
   0x8C718C88, 0xB4BEB489, 0xFCF2FC8A, 0xC43DC48B, 0x6C6A6C8C, 0x54A5548D, 0x1CE91C8E, 0x2426248F,
   0xF62BF690, 0xCEE4CE91, 0x86A88692, 0xBE67BE93, 0x16301694, 0x2EFF2E95, 0x66B36696, 0x5E7C5E97,
   0x2B1D2B98, 0x13D21399, 0x5B9E5B9A, 0x6351639B, 0xCB06CB9C, 0xF3C9F39D, 0xBB85BB9E, 0x834A839F,
   0x029F02A0, 0x3A503AA1, 0x721C72A2, 0x4AD34AA3, 0xE284E2A4, 0xDA4BDAA5, 0x920792A6, 0xAAC8AAA7,
   0xDFA9DFA8, 0xE766E7A9, 0xAF2AAFAA, 0x97E597AB, 0x3FB23FAC, 0x077D07AD, 0x4F314FAE, 0x77FE77AF,
   0xA5F3A5B0, 0x9D3C9DB1, 0xD570D5B2, 0xEDBFEDB3, 0x45E845B4, 0x7D277DB5, 0x356B35B6, 0x0DA40DB7,
   0x78C578B8, 0x400A40B9, 0x084608BA, 0x308930BB, 0x98DE98BC, 0xA011A0BD, 0xE85DE8BE, 0xD092D0BF,
   0xF7EAF7C0, 0xCF25CFC1, 0x876987C2, 0xBFA6BFC3, 0x17F117C4, 0x2F3E2FC5, 0x677267C6, 0x5FBD5FC7,
   0x2ADC2AC8, 0x121312C9, 0x5A5F5ACA, 0x629062CB, 0xCAC7CACC, 0xF208F2CD, 0xBA44BACE, 0x828B82CF,
   0x508650D0, 0x684968D1, 0x200520D2, 0x18CA18D3, 0xB09DB0D4, 0x885288D5, 0xC01EC0D6, 0xF8D1F8D7,
   0x8DB08DD8, 0xB57FB5D9, 0xFD33FDDA, 0xC5FCC5DB, 0x6DAB6DDC, 0x556455DD, 0x1D281DDE, 0x25E725DF,
   0xA432A4E0, 0x9CFD9CE1, 0xD4B1D4E2, 0xEC7EECE3, 0x442944E4, 0x7CE67CE5, 0x34AA34E6, 0x0C650CE7,
   0x790479E8, 0x41CB41E9, 0x098709EA, 0x314831EB, 0x991F99EC, 0xA1D0A1ED, 0xE99CE9EE, 0xD153D1EF,
   0x035E03F0, 0x3B913BF1, 0x73DD73F2, 0x4B124BF3, 0xE345E3F4, 0xDB8ADBF5, 0x93C693F6, 0xAB09ABF7,
   0xDE68DEF8, 0xE6A7E6F9, 0xAEEBAEFA, 0x962496FB, 0x3E733EFC, 0x06BC06FD, 0x4EF04EFE, 0x763F76FF]

/-- The Reed-Solomon CRC of some bytes, from a seed. -/
def GenerateRSCRC (crc : UInt32) (start : List UInt8) : UInt32 :=
  start.foldl
    (fun crc d => (crc <<< 8) ^^^ crcTable.getD (d.toNat ^^^ (crc >>> 24).toNat) 0) crc

/-- The block with its CRC behind it; an empty block cannot be protected. -/
def BlockProtectRSCRC (blkbuf : List UInt8) (bigendian : Bool) : List UInt8 :=
  let crc := (GenerateRSCRC 0 blkbuf).toNat
  if blkbuf.length = 0 then []
  else if bigendian then blkbuf ++ beBytes 4 crc
  else blkbuf ++ leBytes 4 crc

/-- The bytes of a word in the other order. -/
def bswap_32 (x : ℕ) : ℕ := beNat (leBytes 4 x)

/-- Length of a block without its CRC, 0 when the CRC is wrong. -/
def BlockVerifyRSCRC (blkbuf : List UInt8) (bigendian : Bool) : ℕ :=
  if blkbuf.length ≤ 4 then 0 else
  let blklen := blkbuf.length - 4
  let crcblk := beNat (blkbuf.drop blklen)
  let crc := (GenerateRSCRC 0 (blkbuf.take blklen)).toNat
  let crccmp := if bigendian then crc else bswap_32 crc
  if crccmp ≠ crcblk then 0 else blklen

/-- `n` bytes of memory from an address on. -/
def bytesAt (buf : ℕ → UInt8) (start n : ℕ) : List UInt8 :=
  (List.range n).map fun k => buf (start + k)

/-- Whether the four bytes behind a block in the buffer are its check word. The
CRC32C was computed before. No method means no check; any other method fails. -/
def verify_lbp_crc (lbp_method : ℕ) (lbp_rscrc_be : Bool) (buf : ℕ → UInt8) (src_sz : ℕ)
    (crc32c : UInt32) : Bool :=
  match lbp_method with
  | 0 => true
  | 1 => BlockVerifyRSCRC (bytesAt buf 0 (src_sz + 4)) lbp_rscrc_be ≠ 0
  | 2 => beNat (leBytes 4 crc32c.toNat) = beNat (bytesAt buf src_sz 4)
  | _ => false

/-- The two methods, with the byte order of the first. -/
inductive LbpMethod where
  /-- Reed-Solomon CRC. -/
  | rscrc (bigendian : Bool)
  /-- CRC32C. -/
  | crc32c
deriving DecidableEq

/-- The `LBP_method` that selects it. -/
def LbpMethod.number : LbpMethod → ℕ
  | rscrc _ => 1
  | crc32c => 2

/-- The check word of a method, the CRC32C function given. -/
def LbpMethod.checkWord (crc : UInt32 → List UInt8 → UInt32) : LbpMethod → CheckWord
  | rscrc true => ⟨4, fun bs => beBytes 4 (GenerateRSCRC 0 bs).toNat, fun _ => beBytes_length 4 _⟩
  | rscrc false => ⟨4, fun bs => leBytes 4 (GenerateRSCRC 0 bs).toNat, fun _ => leBytes_length 4 _⟩
  | crc32c => ⟨4, fun bs => leBytes 4 (crc 0 bs).toNat, fun _ => leBytes_length 4 _⟩

/-- Every method takes four bytes. -/
@[simp] theorem LbpMethod.checkWord_width (crc : UInt32 → List UInt8 → UInt32) (m : LbpMethod) :
    (m.checkWord crc).width = 4 := by
  cases m with
  | rscrc be => cases be <;> rfl
  | crc32c => rfl

/-- The numbers of the methods are 1 and 2. -/
theorem LbpMethod.number_cases (m : LbpMethod) : m.number = 1 ∨ m.number = 2 := by
  cases m with
  | rscrc be => exact Or.inl rfl
  | crc32c => exact Or.inr rfl

@[simp] theorem bytesAt_length (buf : ℕ → UInt8) (start n : ℕ) :
    (bytesAt buf start n).length = n := by
  rw [bytesAt, List.length_map, List.length_range]

/-- Two stretches of memory that follow each other. -/
theorem bytesAt_add (buf : ℕ → UInt8) (start n m : ℕ) :
    bytesAt buf start (n + m) = bytesAt buf start n ++ bytesAt buf (start + n) m := by
  rw [bytesAt, List.range_add, List.map_append, List.map_map]
  simp only [bytesAt, Function.comp_def, Nat.add_assoc]

/-- Protecting appends the word of the first method. -/
theorem BlockProtectRSCRC_eq (crc : UInt32 → List UInt8 → UInt32) {bs : List UInt8}
    (h : 0 < bs.length) (be : Bool) :
    BlockProtectRSCRC bs be = ((LbpMethod.rscrc be).checkWord crc).append bs := by
  have hne : ¬bs.length = 0 := by omega
  cases be with
  | true => simp only [BlockProtectRSCRC, hne, if_false, if_true, CheckWord.append,
      LbpMethod.checkWord]
  | false => simp only [BlockProtectRSCRC, hne, if_false, Bool.false_eq_true, CheckWord.append,
      LbpMethod.checkWord]

/-- The checker compares with the word in the byte order asked for. -/
theorem BlockVerifyRSCRC_iff {bs tail : List UInt8} (hbs : 0 < bs.length) (ht : tail.length = 4)
    (be : Bool) (crc : UInt32 → List UInt8 → UInt32) :
    BlockVerifyRSCRC (bs ++ tail) be ≠ 0 ↔ ((LbpMethod.rscrc be).checkWord crc).Matches bs tail := by
  have hlen : (bs ++ tail).length - 4 = bs.length := by
    rw [List.length_append, ht, Nat.add_sub_cancel]
  have hlong : ¬(bs ++ tail).length ≤ 4 := by
    rw [List.length_append]
    omega
  have hne : ¬bs.length = 0 := by omega
  have hfit : (GenerateRSCRC 0 bs).toNat < 256 ^ 4 := (GenerateRSCRC 0 bs).toNat_lt
  have hdrop : (bs ++ tail).drop bs.length = tail := List.drop_left' rfl
  have htake : (bs ++ tail).take bs.length = bs := List.take_left' rfl
  simp only [BlockVerifyRSCRC, hlong, if_false, hlen, hdrop, htake, CheckWord.Matches]
  cases be with
  | true =>
    simp only [if_true, LbpMethod.checkWord]
    constructor
    · intro h
      have heq : (GenerateRSCRC 0 bs).toNat = beNat tail := by
        by_contra hn
        exact h (if_pos hn)
      rw [← beNat_beBytes_of_lt hfit] at heq
      exact (beNat_inj (by rw [beBytes_length, ht]) heq).symm
    · intro h
      rw [h, beNat_beBytes_of_lt hfit, if_neg (fun hn => hn rfl)]
      exact hne
  | false =>
    simp only [Bool.false_eq_true, if_false, LbpMethod.checkWord, bswap_32]
    constructor
    · intro h
      have heq : beNat (leBytes 4 (GenerateRSCRC 0 bs).toNat) = beNat tail := by
        by_contra hn
        exact h (if_pos hn)
      exact (beNat_inj (by rw [leBytes_length, ht]) heq).symm
    · intro h
      rw [h, if_neg (fun hn => hn rfl)]
      exact hne

/-- A nonempty block passes the check exactly when its word follows it. -/
theorem verify_lbp_crc_iff (m : LbpMethod) (be : Bool) (hbe : ∀ b, m = .rscrc b → b = be)
    (crc : UInt32 → List UInt8 → UInt32) (buf : ℕ → UInt8) {n : ℕ} (hn : 0 < n) :
    verify_lbp_crc m.number be buf n (crc 0 (bytesAt buf 0 n)) = true ↔
      (m.checkWord crc).Matches (bytesAt buf 0 n) (bytesAt buf n 4) := by
  cases m with
  | rscrc b =>
    have hb : b = be := hbe b rfl
    subst hb
    rw [LbpMethod.number, verify_lbp_crc, decide_eq_true_eq, bytesAt_add, Nat.zero_add]
    apply BlockVerifyRSCRC_iff
    · rwa [bytesAt_length]
    · exact bytesAt_length ..
  | crc32c =>
    rw [LbpMethod.number, verify_lbp_crc, decide_eq_true_eq, CheckWord.Matches,
      LbpMethod.checkWord]
    constructor
    · intro h
      exact (beNat_inj (by rw [leBytes_length, bytesAt_length]) h).symm
    · intro h
      rw [h]

end Mhvtl.Ssc
