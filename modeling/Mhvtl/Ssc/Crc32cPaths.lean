import Mhvtl.Ssc.Blocks
import Mhvtl.Ssc.Crc32c

/-!
# Both ways to compute CRC32C

Tables, words and parts are short cuts: for every buffer, at any address and on any processor,
the result is that of taking up the bytes one by one and each byte bit by bit.
-/

namespace Mhvtl.Ssc

open Bytes Crc

section Tables

/-- A table entry is what becomes of the byte. -/
theorem crc32c_table_little_eq (k : ℕ) (n : BitVec 32) :
    crc32c_table_little k n = bits POLY (8 * (k + 1)) n := by
  induction k with
  | zero => rfl
  | succ k ih =>
    rw [crc32c_table_little, crc32c_table_byte, ← bits_eight, ih, bits_bits, Nat.add_comm 8,
      ← Nat.mul_succ]

/-- Taking up a byte by table is taking it up. -/
theorem tableStep_eq : tableStep = byte POLY := by
  funext crc b
  exact (byte_eq POLY crc b).symm

/-- The low part of a word and the rest of it. -/
theorem loadWord_cons (b : UInt8) {bs : List UInt8} (h : bs.length ≤ 7) :
    low (loadWord (b :: bs)) = b.toBitVec.setWidth 64 ∧ loadWord (b :: bs) >>> 8 = loadWord bs := by
  have hb : b.toNat < 256 := b.toNat_lt
  have hlt : leNat bs < 256 ^ 7 := (leNat_lt bs).trans_le (Nat.pow_le_pow_right (by decide) h)
  have hword : b.toNat + 256 * leNat bs < 2 ^ 64 := by omega
  constructor
  · apply BitVec.eq_of_toNat_eq
    rw [toNat_low _ (by decide), loadWord, leNat, BitVec.toNat_ofNat, Nat.mod_eq_of_lt hword,
      BitVec.toNat_setWidth]
    have hbyte : b.toBitVec.toNat = b.toNat := rfl
    rw [hbyte]
    omega
  · apply BitVec.eq_of_toNat_eq
    rw [loadWord, loadWord, leNat, BitVec.toNat_ushiftRight, BitVec.toNat_ofNat, BitVec.toNat_ofNat,
      Nat.mod_eq_of_lt hword, Nat.mod_eq_of_lt (by omega : leNat bs < 2 ^ 64),
      Nat.shiftRight_eq_div_pow]
    omega

/-- The low part of a register that was made wider. -/
theorem low_setWidth (c : BitVec 32) : (low (c.setWidth 64)).setWidth 32 = low c := by
  apply BitVec.eq_of_getLsbD_eq
  intro i hi
  have hwide : i < 64 := by omega
  rw [BitVec.getLsbD_setWidth, getLsbD_low, getLsbD_low, BitVec.getLsbD_setWidth]
  simp [hi, hwide]

/-- A byte is its low part. -/
theorem low_byte (b : UInt8) : low (b.toBitVec.setWidth 32) = b.toBitVec.setWidth 32 := by
  apply BitVec.eq_of_getLsbD_eq
  intro i hi
  rw [getLsbD_low]
  by_cases hlow : i < 8
  · simp [hlow]
  · simp [hlow, BitVec.getLsbD_of_ge b.toBitVec i (Nat.not_lt.mp hlow)]

/-- A register and a word, at the word's first byte and behind it. -/
theorem word_cons (c : BitVec 32) (b : UInt8) {bs : List UInt8} (h : bs.length ≤ 7) :
    wordByte (c.setWidth 64 ^^^ loadWord (b :: bs)) 0 = low (c ^^^ b.toBitVec.setWidth 32) ∧
      (c.setWidth 64 ^^^ loadWord (b :: bs)) >>> 8 = (c >>> 8).setWidth 64 ^^^ loadWord bs := by
  obtain ⟨hlow, hshift⟩ := loadWord_cons b h
  constructor
  · rw [wordByte, Nat.mul_zero, BitVec.ushiftRight_zero, low_xor, BitVec.setWidth_xor, low_setWidth,
      hlow, BitVec.setWidth_setWidth_of_le _ (by decide), low_xor, low_byte]
  · have hwide : c.setWidth 64 >>> 8 = (c >>> 8).setWidth 64 := by
      apply BitVec.eq_of_toNat_eq
      rw [BitVec.toNat_ushiftRight, BitVec.toNat_setWidth, BitVec.toNat_setWidth,
        BitVec.toNat_ushiftRight, Nat.shiftRight_eq_div_pow]
      have hlt := c.isLt
      omega
    rw [BitVec.ushiftRight_xor_distrib, hshift, hwide]

/-- The next byte of a word. -/
theorem wordByte_succ (crcw : BitVec 64) (i : ℕ) :
    wordByte crcw (i + 1) = wordByte (crcw >>> 8) i := by
  rw [wordByte, wordByte, Nat.mul_succ, Nat.add_comm, BitVec.shiftRight_add]

/-- The tables for the bytes of a word, from the first on. -/
def wordTables : ℕ → BitVec 64 → BitVec 32
  | 0, _ => 0#32
  | n + 1, crcw => crc32c_table_little n (wordByte crcw 0) ^^^ wordTables n (crcw >>> 8)

/-- Looking bytes up one by one and as a word. -/
theorem lookups_word (c : BitVec 32) {bs : List UInt8} (h : bs.length ≤ 8) :
    lookups POLY c bs =
      wordTables bs.length (c.setWidth 64 ^^^ loadWord bs) ^^^ c >>> (8 * bs.length) := by
  induction bs generalizing c with
  | nil => exact (BitVec.zero_xor.trans (BitVec.ushiftRight_zero c)).symm
  | cons b bs ih =>
    have hle : bs.length ≤ 7 := Nat.le_of_succ_le_succ h
    obtain ⟨hfirst, hrest⟩ := word_cons c b hle
    rw [lookups, ih (c >>> 8) (Nat.le_succ_of_le hle), List.length_cons, wordTables, hfirst, hrest,
      crc32c_table_little_eq, BitVec.xor_assoc, ← BitVec.shiftRight_add, Nat.mul_succ,
      Nat.add_comm 8]

/-- Taking up eight bytes by tables is taking them up. -/
theorem wordStep_eq (c : BitVec 32) {bs : List UInt8} (h : bs.length = 8) :
    wordStep (c.setWidth 64) bs = (bytes POLY c bs).setWidth 64 := by
  have hout : c >>> (8 * 8) = 0#32 := BitVec.ushiftRight_eq_zero (by decide)
  rw [bytes_eq_lookups, lookups_word c h.le, h, hout, BitVec.xor_zero, wordStep]
  simp only [wordTables, wordByte_succ, BitVec.xor_zero, BitVec.xor_assoc]

end Tables

section Loops

/-- Bytes up to an address and the bytes behind them are all the bytes. -/
theorem alignLoop_bytes (next : ℕ) (c : BitVec 32) (buf : List UInt8) :
    bytes POLY (alignLoop (byte POLY) next c buf).1 (alignLoop (byte POLY) next c buf).2 =
      bytes POLY c buf := by
  induction buf generalizing next c with
  | nil => rfl
  | cons b buf ih =>
    rw [alignLoop]
    split
    · exact ih (next + 1) (byte POLY c b)
    · rfl

/-- Bytes by the eight and the bytes behind them are all the bytes. -/
theorem eights_bytes {σ : Type} (step : σ → List UInt8 → σ) (emb : BitVec 32 → σ)
    (hstep : ∀ c bs, bs.length = 8 → step (emb c) bs = emb (bytes POLY c bs)) (c : BitVec 32)
    (buf : List UInt8) : ∃ c', (eights step (emb c) buf).1 = emb c' ∧
      bytes POLY c' (eights step (emb c) buf).2 = bytes POLY c buf ∧
      (eights step (emb c) buf).2.length = buf.length % 8 := by
  induction hlen : buf.length using Nat.strong_induction_on generalizing c buf with
  | _ n ih =>
    rw [eights]
    split
    · next hlong =>
      have hdrop : (buf.drop 8).length = buf.length - 8 := List.length_drop
      obtain ⟨c', hfirst, hbytes, hrest⟩ := ih (n - 8) (by omega) (bytes POLY c (buf.take 8))
        (buf.drop 8) (by omega)
      rw [hstep c _ (List.length_take_of_le hlong)]
      refine ⟨c', hfirst, ?_, ?_⟩
      · rw [hbytes, ← bytes_append, List.take_append_drop]
      · omega
    · next hshort =>
      refine ⟨c, rfl, rfl, ?_⟩
      dsimp only
      omega

/-- CRC32C in software. -/
theorem crc32c_sw_little_eq (next : ℕ) (crc : BitVec 32) (buf : List UInt8) :
    crc32c_sw_little next crc buf = ~~~ bytes POLY (~~~crc) buf := by
  have halign := alignLoop_bytes next (~~~crc) buf
  rw [crc32c_sw_little, tableStep_eq]
  obtain ⟨c', hfirst, hbytes, -⟩ := eights_bytes wordStep (fun c => c.setWidth 64)
    (fun c bs h => wordStep_eq c h) (alignLoop (byte POLY) next (~~~crc) buf).1
    (alignLoop (byte POLY) next (~~~crc) buf).2
  rw [hfirst, BitVec.setWidth_setWidth_of_le _ (by decide), BitVec.setWidth_eq]
  exact congrArg (~~~ ·) (hbytes.trans halign)

end Loops

section Operators

/-- The operator that advances the register, as a matrix. -/
def operator (n : ℕ) : List (BitVec 32) :=
  (List.range 32).map fun i => bits POLY n (1#32 <<< i)

/-- The bits of a vector from one on. -/
theorem vector_from (vec : BitVec 32) (k : ℕ) :
    vec >>> k <<< k =
      (if (vec >>> k).getLsbD 0 then 1#32 <<< k else 0#32) ^^^ vec >>> (k + 1) <<< (k + 1) := by
  apply BitVec.eq_of_getLsbD_eq
  intro i hi
  have hbit : (if (vec >>> k).getLsbD 0 then 1#32 <<< k else 0#32).getLsbD i =
      (decide (i = k) && vec.getLsbD i) := by
    rw [BitVec.getLsbD_ushiftRight, Nat.add_zero]
    cases hk : vec.getLsbD k with
    | true =>
      rw [if_pos rfl, BitVec.getLsbD_shiftLeft, BitVec.getLsbD_one]
      by_cases hik : i = k
      · simp [hik, hk, hik ▸ hi]
      · by_cases hlt : i < k
        · simp [hik, hlt]
        · have hne : i - k ≠ 0 := by omega
          simp [hik, hne]
    | false =>
      rw [if_neg Bool.false_ne_true]
      by_cases hik : i = k
      · simp [hik, hk]
      · simp [hik]
  rw [BitVec.getLsbD_xor, hbit]
  simp only [BitVec.getLsbD_shiftLeft, BitVec.getLsbD_ushiftRight]
  by_cases hlt : i < k
  · have hne : i ≠ k := by omega
    have hlt' : i < k + 1 := by omega
    simp [hlt, hne, hlt']
  · by_cases hik : i = k
    · subst hik
      simp [hi]
    · have hnot : ¬ i < k + 1 := by omega
      rw [Nat.add_sub_cancel' (Nat.not_lt.mp hlt), Nat.add_sub_cancel' (Nat.not_lt.mp hnot)]
      simp [hi, hlt, hik, hnot]

/-- Multiplying by the rows of a linear map from one on. -/
theorem gf2_matrix_times_rows {f : BitVec 32 → BitVec 32} (hf : Linear f)
    {mat : List (BitVec 32)} {k : ℕ} (hlen : k + mat.length = 32)
    (hrows : ∀ i row, mat[i]? = some row → row = f (1#32 <<< (k + i))) (sum vec : BitVec 32) :
    gf2_matrix_times sum mat (vec >>> k) = sum ^^^ f (vec >>> k <<< k) := by
  induction mat generalizing k sum with
  | nil =>
    have hk : k = 32 := hlen
    rw [gf2_matrix_times, hk, BitVec.ushiftRight_eq_zero (Nat.le_refl 32), BitVec.zero_shiftLeft,
      hf.zero, BitVec.xor_zero]
  | cons row mat ih =>
    rw [gf2_matrix_times]
    split
    · next hzero => rw [hzero, BitVec.zero_shiftLeft, hf.zero, BitVec.xor_zero]
    · have hlen' : k + 1 + mat.length = 32 := by
        rw [List.length_cons] at hlen
        omega
      rw [← BitVec.shiftRight_add, ih hlen' fun i r hr => ?_, vector_from vec k, hf,
        ← BitVec.xor_assoc]
      · congr 1
        have hrow : row = f (1#32 <<< k) := hrows 0 row rfl
        split
        · rw [hrow]
        · rw [hf.zero, BitVec.xor_zero]
      · rw [Nat.add_assoc, Nat.add_comm 1 i]
        exact hrows (i + 1) r hr

/-- Multiplying by the operator advances the register. -/
theorem times_operator (n : ℕ) (vec : BitVec 32) :
    gf2_matrix_times 0#32 (operator n) vec = bits POLY n vec := by
  have hlen : 0 + (operator n).length = 32 := by
    rw [operator, List.length_map, List.length_range]
  have htimes := gf2_matrix_times_rows (bits_linear POLY n) hlen (fun i row hrow => ?_) 0#32 vec
  · rwa [BitVec.ushiftRight_zero, BitVec.shiftLeft_zero, BitVec.zero_xor] at htimes
  · rw [operator, List.getElem?_map] at hrow
    obtain ⟨j, hj, rfl⟩ := Option.map_eq_some_iff.mp hrow
    obtain ⟨hlt, heq⟩ := List.getElem?_eq_some_iff.mp hj
    rw [List.getElem_range] at heq
    rw [heq, Nat.zero_add]

/-- Squaring the operator. -/
theorem square_operator (n : ℕ) : gf2_matrix_square (operator n) = operator (n + n) := by
  rw [gf2_matrix_square, operator, operator, List.map_map]
  apply List.map_congr_left
  intro i _
  rw [Function.comp_apply, ← bits_bits]
  exact times_operator n _

/-- Squaring once for each bit of a power of two. -/
theorem zerosLoop_operator (k n : ℕ) :
    zerosLoop (operator n) (2 ^ k) = operator (2 * n * 2 ^ k) := by
  induction k using Nat.strong_induction_on generalizing n with
  | _ k ih =>
    rw [zerosLoop]
    dsimp only
    rw [square_operator, square_operator]
    rcases k with _ | _ | k
    · rw [if_pos (by decide)]
      congr 1
      omega
    · rw [if_neg (by decide), if_pos (by decide)]
      congr 1
      omega
    · have hpos : 0 < 2 ^ k := Nat.two_pow_pos k
      have hquarter : 2 ^ (k + 2) / 2 / 2 = 2 ^ k := by
        rw [Nat.div_div_eq_div_mul, Nat.pow_add]
        exact Nat.mul_div_cancel _ (by decide)
      rw [if_neg (by omega), if_neg (by omega), hquarter, ih k (by omega)]
      congr 1
      rw [Nat.pow_add]
      ring

/-- The operator that takes up zero bytes. -/
theorem crc32c_zeros_op_eq (k : ℕ) : crc32c_zeros_op (2 ^ k) = operator (8 * 2 ^ k) := by
  have hone : POLY :: (List.range 31).map (fun n => 1#32 <<< n) = operator 1 := by decide +kernel
  rw [crc32c_zeros_op, hone, square_operator, square_operator, zerosLoop_operator]

/-- A register is put together from its bytes. -/
theorem register_bytes (c : BitVec 32) :
    low c ^^^ low (c >>> 8) <<< 8 ^^^ low (c >>> 16) <<< 16 ^^^ c >>> 24 <<< 24 = c := by
  have hone := low_xor_high c
  have htwo := low_xor_high (c >>> 8)
  have hthree := low_xor_high (c >>> 16)
  rw [← BitVec.shiftRight_add] at htwo hthree
  calc low c ^^^ low (c >>> 8) <<< 8 ^^^ low (c >>> 16) <<< 16 ^^^ c >>> 24 <<< 24
      = low c ^^^ (low (c >>> 8) ^^^ (low (c >>> 16) ^^^ c >>> 24 <<< 8) <<< 8) <<< 8 := by
        rw [BitVec.shiftLeft_xor_distrib, BitVec.shiftLeft_xor_distrib,
          BitVec.shiftLeft_xor_distrib, ← BitVec.shiftLeft_add, ← BitVec.shiftLeft_add,
          ← BitVec.shiftLeft_add, BitVec.xor_assoc, BitVec.xor_assoc]
    _ = c := by rw [hthree, htwo, hone]

/-- Applying the operator by tables. -/
theorem crc32c_shift_eq (k : ℕ) (c : BitVec 32) :
    crc32c_shift (crc32c_zeros (2 ^ k)) c = bits POLY (8 * 2 ^ k) c := by
  have hlinear := bits_linear POLY (8 * 2 ^ k)
  rw [crc32c_shift]
  simp only [crc32c_zeros, crc32c_zeros_op_eq, times_operator]
  rw [← hlinear, ← hlinear, ← hlinear, Nat.mul_zero, BitVec.shiftLeft_zero]
  congr 1
  exact register_bytes c

end Operators

section Parts

/-- Bytes by the instruction, by the eight. -/
theorem eights_crc32q (c : BitVec 32) {buf : List UInt8} (h : buf.length % 8 = 0) :
    (eights crc32q c buf).1 = bytes POLY c buf := by
  obtain ⟨c', hfirst, hbytes, hlen⟩ := eights_bytes crc32q id (fun _ _ _ => rfl) c buf
  rw [h] at hlen
  have hnil := List.length_eq_zero_iff.mp hlen
  rw [hnil] at hbytes
  exact hfirst.trans hbytes

/-- Three parts put together. -/
theorem three_parts (k : ℕ) (c : BitVec 32) {as bs cs : List UInt8} (hb : bs.length = 2 ^ k)
    (hc : cs.length = 2 ^ k) :
    crc32c_shift (crc32c_zeros (2 ^ k))
        (crc32c_shift (crc32c_zeros (2 ^ k)) (bytes POLY c as) ^^^ bytes POLY 0#32 bs) ^^^
      bytes POLY 0#32 cs = bytes POLY c (as ++ bs ++ cs) := by
  rw [crc32c_shift_eq, crc32c_shift_eq, bytes_parts POLY c (as ++ bs), bytes_parts POLY c as, hb, hc]

/-- Three parts at a time and the bytes behind them are all the bytes. -/
theorem threeWay_bytes (k : ℕ) (hk : 3 ≤ k) (c : BitVec 32) (buf : List UInt8) :
    bytes POLY (threeWay (2 ^ k) c buf).1 (threeWay (2 ^ k) c buf).2 = bytes POLY c buf := by
  induction hlen : buf.length using Nat.strong_induction_on generalizing c buf with
  | _ n ih =>
    have hpos : 0 < 2 ^ k := Nat.two_pow_pos k
    have height : 2 ^ k % 8 = 0 := by
      obtain ⟨m, rfl⟩ := Nat.exists_eq_add_of_le hk
      rw [Nat.pow_add]
      exact Nat.mul_mod_right _ _
    rw [threeWay]
    split
    · next hlong =>
      have hpart : ∀ i ≤ 2, ((buf.drop (i * 2 ^ k)).take (2 ^ k)).length = 2 ^ k := by
        intro i hi
        have hmul : i * 2 ^ k ≤ 2 * 2 ^ k := Nat.mul_le_mul_right _ hi
        rw [List.length_take, List.length_drop]
        omega
      have heights : ∀ (crc : BitVec 32) (i : ℕ), i ≤ 2 →
          (eights crc32q crc ((buf.drop (i * 2 ^ k)).take (2 ^ k))).1 =
            bytes POLY crc ((buf.drop (i * 2 ^ k)).take (2 ^ k)) := fun crc i hi =>
        eights_crc32q crc (by rw [hpart i hi, height])
      have hdrop : (buf.drop (3 * 2 ^ k)).length = buf.length - 3 * 2 ^ k := List.length_drop
      dsimp only
      rw [heights _ 0 (by decide), heights _ 1 (by decide), heights _ 2 (by decide),
        three_parts k c (hpart 1 (by decide)) (hpart 2 (by decide)),
        ih (n - 3 * 2 ^ k) (by omega) _ _ (by omega), ← bytes_append]
      have htwo : buf.drop (2 * 2 ^ k) = (buf.drop (2 ^ k)).drop (2 ^ k) := by
        rw [List.drop_drop, Nat.two_mul]
      have hthree : buf.drop (3 * 2 ^ k) = ((buf.drop (2 ^ k)).drop (2 ^ k)).drop (2 ^ k) := by
        rw [← htwo, List.drop_drop, Nat.succ_mul]
      congr 1
      rw [Nat.zero_mul, List.drop_zero, Nat.one_mul, htwo, hthree, List.append_assoc,
        List.append_assoc, List.take_append_drop, List.take_append_drop, List.take_append_drop]
    · rfl

/-- CRC32C by the instruction. -/
theorem crc32c_hw_eq (next : ℕ) (crc : BitVec 32) (buf : List UInt8) :
    crc32c_hw next crc buf = ~~~ bytes POLY (~~~crc) buf := by
  have hlong := threeWay_bytes 13 (by decide) (alignLoop crc32b next (~~~crc) buf).1
    (alignLoop crc32b next (~~~crc) buf).2
  have hshort := threeWay_bytes 8 (by decide)
    (threeWay LONG (alignLoop crc32b next (~~~crc) buf).1 (alignLoop crc32b next (~~~crc) buf).2).1
    (threeWay LONG (alignLoop crc32b next (~~~crc) buf).1 (alignLoop crc32b next (~~~crc) buf).2).2
  rw [crc32c_hw]
  obtain ⟨c', hfirst, hbytes, -⟩ := eights_bytes crc32q id (fun _ _ _ => rfl)
    (threeWay SHORT _ _).1 (threeWay SHORT _ _).2
  refine congrArg (~~~ ·) ?_
  exact (congrArg (fun c => bytes POLY c _) hfirst).trans
    (hbytes.trans (hshort.trans (hlong.trans (alignLoop_bytes next (~~~crc) buf))))

end Parts

/-- A bit on the processor's words. -/
theorem bit_semiconj :
    Function.Semiconj UInt32.toBitVec
      (fun c => if c &&& 1 ≠ 0 then c >>> 1 ^^^ 0x82F63B78 else c >>> 1) (bit POLY) := by
  intro c
  have hodd : c &&& 1 ≠ 0 ↔ c.toBitVec.getLsbD 0 = true := by
    have hlast : (c &&& 1).toBitVec = (BitVec.ofBool (c.toBitVec.getLsbD 0)).setWidth 32 :=
      BitVec.and_one_eq_setWidth_ofBool_getLsbD
    rw [ne_eq, ← UInt32.toBitVec_inj, hlast]
    cases c.toBitVec.getLsbD 0 <;> decide
  dsimp only
  by_cases h : c &&& 1 ≠ 0
  · rw [bit, if_pos h, if_pos (hodd.mp h)]
    rfl
  · rw [bit, if_neg h, if_neg fun hbit => h (hodd.mpr hbit)]
    rfl

/-- Bit by bit on the processor's words. -/
theorem crc32cBitwise_eq (seed : UInt32) (buf : List UInt8) :
    (crc32cBitwise seed buf).toBitVec = ~~~ bytes POLY (~~~seed.toBitVec) buf := by
  rw [crc32cBitwise, UInt32.toBitVec_not, bytes, ← UInt32.toBitVec_not]
  refine congrArg (~~~ ·) (List.foldl_hom UInt32.toBitVec fun c b => ?_).symm
  rw [(bit_semiconj.iterate_right 8) (c ^^^ b.toUInt32), byte, UInt32.toBitVec_xor,
    UInt8.toBitVec_toUInt32, bits]

/-- For every seed, every buffer, every address and every processor, CRC32C is what taking up
the bytes bit by bit gives. -/
theorem crc32c_bitwise (sse42 : Bool) (next : ℕ) (seed : UInt32) (buf : List UInt8) :
    crc32c sse42 next seed.toBitVec buf = (crc32cBitwise seed buf).toBitVec := by
  rw [crc32c, crc32c_hw_eq, crc32c_sw_little_eq, crc32cBitwise_eq, ite_self]

end Mhvtl.Ssc
