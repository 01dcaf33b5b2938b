import Mathlib.Data.BitVec
import Mathlib.Logic.Function.Iterate

/-!
# Cyclic redundancy checks

A check in reversed bit order, of any width and with any polynomial: the register takes
its bits out at the low end. Advancing it is linear, so that bytes may be taken up by table
lookups, several at a time, and checks of two parts may be put together.
-/

namespace Mhvtl.Crc

variable {w : ℕ}

/-- Advance the register by a bit. -/
def bit (poly c : BitVec w) : BitVec w := if c.getLsbD 0 then c >>> 1 ^^^ poly else c >>> 1

/-- Advance the register by some bits. -/
def bits (poly : BitVec w) (n : ℕ) (c : BitVec w) : BitVec w := (bit poly)^[n] c

/-- Take up a byte. -/
def byte (poly c : BitVec w) (b : UInt8) : BitVec w := bits poly 8 (c ^^^ b.toBitVec.setWidth w)

/-- Take up some bytes. -/
def bytes (poly c : BitVec w) (bs : List UInt8) : BitVec w := bs.foldl (byte poly) c

/-- The low eight bits. -/
def low (c : BitVec w) : BitVec w := c &&& 255#w

/-- A map that sums go through. -/
def Linear (f : BitVec w → BitVec w) : Prop := ∀ a b, f (a ^^^ b) = f a ^^^ f b

section Linear

variable {f : BitVec w → BitVec w}

/-- Nothing stays nothing. -/
theorem Linear.zero (h : Linear f) : f 0#w = 0#w := by
  have hsum := h 0#w 0#w
  rwa [BitVec.xor_self, BitVec.xor_self] at hsum

/-- Over and over. -/
theorem Linear.iterate (h : Linear f) (n : ℕ) : Linear f^[n] := by
  induction n with
  | zero => exact fun a b => rfl
  | succ n ih =>
    intro a b
    rw [Function.iterate_succ_apply, h, ih]
    rfl

end Linear

variable (poly : BitVec w)

/-- Advancing by a bit is linear. -/
theorem bit_linear : Linear (bit poly) := by
  intro a b
  have hzero : (a ^^^ b).getLsbD 0 = (a.getLsbD 0 ^^ b.getLsbD 0) := BitVec.getLsbD_xor
  rw [bit, bit, bit, hzero, BitVec.ushiftRight_xor_distrib]
  cases a.getLsbD 0 <;> cases b.getLsbD 0
  · rfl
  · exact BitVec.xor_assoc ..
  · simp only [Bool.xor_false, if_true, Bool.false_eq_true, if_false]
    rw [BitVec.xor_assoc, BitVec.xor_comm (b >>> 1), ← BitVec.xor_assoc]
  · simp only [Bool.xor_self, if_true, Bool.false_eq_true, if_false]
    rw [BitVec.xor_assoc, BitVec.xor_comm (b >>> 1), ← BitVec.xor_assoc poly, BitVec.xor_self,
      BitVec.zero_xor]

/-- Advancing is linear. -/
theorem bits_linear (n : ℕ) : Linear (bits poly n) := (bit_linear poly).iterate n

/-- Advancing twice. -/
theorem bits_bits (m n : ℕ) (c : BitVec w) : bits poly m (bits poly n c) = bits poly (m + n) c :=
  (Function.iterate_add_apply _ m n c).symm

/-- As long as no bits come out, advancing is shifting. -/
theorem bits_shift {n : ℕ} {c : BitVec w} (h : ∀ i < n, c.getLsbD i = false) :
    bits poly n c = c >>> n := by
  induction n generalizing c with
  | zero => exact (BitVec.ushiftRight_zero c).symm
  | succ n ih =>
    have hbit : bit poly c = c >>> 1 := by rw [bit, h 0 (Nat.succ_pos n), if_neg Bool.false_ne_true]
    have hrest : bits poly n (c >>> 1) = c >>> 1 >>> n := ih fun i hi => by
      rw [BitVec.getLsbD_ushiftRight, Nat.add_comm]
      exact h (i + 1) (Nat.succ_lt_succ hi)
    rw [bits, Function.iterate_succ_apply, hbit, Nat.add_comm, BitVec.shiftRight_add]
    exact hrest

/-- Bits of the low part. -/
theorem getLsbD_low (c : BitVec w) (i : ℕ) :
    (low c).getLsbD i = (c.getLsbD i && decide (i < 8)) := by
  rw [low, BitVec.getLsbD_and, BitVec.getLsbD_ofNat]
  have hmask : Nat.testBit 255 i = decide (i < 8) := Nat.testBit_two_pow_sub_one 8 i
  rw [hmask]
  by_cases hi : i < w
  · simp [hi]
  · rw [BitVec.getLsbD_of_ge c i (Nat.not_lt.mp hi)]
    rfl

/-- The low part as a number. -/
theorem toNat_low (c : BitVec w) (h : 8 ≤ w) : (low c).toNat = c.toNat % 256 := by
  have hmask : (255#w).toNat = 2 ^ 8 - 1 :=
    Nat.mod_eq_of_lt ((by decide : 255 < 2 ^ 8).trans_le (Nat.pow_le_pow_right Nat.two_pos h))
  rw [low, BitVec.toNat_and, hmask]
  exact Nat.and_two_pow_sub_one_eq_mod c.toNat 8

/-- The low part of a sum. -/
theorem low_xor (a b : BitVec w) : low (a ^^^ b) = low a ^^^ low b := by
  apply BitVec.eq_of_getLsbD_eq
  intro i _
  simp only [BitVec.getLsbD_xor, getLsbD_low]
  cases decide (i < 8) <;> simp

/-- A register is its low part and the others. -/
theorem low_xor_high (c : BitVec w) : low c ^^^ c >>> 8 <<< 8 = c := by
  apply BitVec.eq_of_getLsbD_eq
  intro i hi
  rw [BitVec.getLsbD_xor, getLsbD_low, BitVec.getLsbD_shiftLeft, BitVec.getLsbD_ushiftRight]
  by_cases hlow : i < 8
  · simp [hi, hlow]
  · rw [Nat.add_sub_cancel' (Nat.not_lt.mp hlow)]
    simp [hi, hlow]

/-- A byte by table lookup. -/
theorem bits_eight (c : BitVec w) : bits poly 8 c = bits poly 8 (low c) ^^^ c >>> 8 := by
  have hhigh : bits poly 8 (c >>> 8 <<< 8) = c >>> 8 := by
    rw [bits_shift poly fun i hi => by rw [BitVec.getLsbD_shiftLeft]; simp [hi]]
    apply BitVec.eq_of_getLsbD_eq
    intro i hi
    rw [BitVec.getLsbD_ushiftRight, BitVec.getLsbD_shiftLeft, BitVec.getLsbD_ushiftRight,
      BitVec.getLsbD_ushiftRight, Nat.add_sub_cancel_left]
    by_cases hin : 8 + i < w
    · simp [hin]
    · rw [BitVec.getLsbD_of_ge c (8 + i) (Nat.not_lt.mp hin)]
      exact Bool.and_false _
  calc bits poly 8 c = bits poly 8 (low c ^^^ c >>> 8 <<< 8) := by rw [low_xor_high]
    _ = bits poly 8 (low c) ^^^ bits poly 8 (c >>> 8 <<< 8) := bits_linear poly 8 _ _
    _ = bits poly 8 (low c) ^^^ c >>> 8 := by rw [hhigh]

/-- A byte has no bits behind its eight. -/
theorem byte_shift (b : UInt8) : (b.toBitVec.setWidth w) >>> 8 = 0#w := by
  apply BitVec.eq_of_getLsbD_eq
  intro i _
  rw [BitVec.getLsbD_ushiftRight, BitVec.getLsbD_setWidth,
    BitVec.getLsbD_of_ge b.toBitVec (8 + i) (Nat.le_add_right 8 i), Bool.and_false]
  exact BitVec.getLsbD_zero.symm

/-- Taking up a byte by table lookup. -/
theorem byte_eq (c : BitVec w) (b : UInt8) :
    byte poly c b = bits poly 8 (low (c ^^^ b.toBitVec.setWidth w)) ^^^ c >>> 8 := by
  rw [byte, bits_eight, BitVec.ushiftRight_xor_distrib, byte_shift, BitVec.xor_zero]

/-- What is in the register and what is taken up do not mix. -/
theorem bytes_xor (c d : BitVec w) (bs : List UInt8) :
    bytes poly (c ^^^ d) bs = bits poly (8 * bs.length) c ^^^ bytes poly d bs := by
  induction bs generalizing c d with
  | nil => rfl
  | cons b bs ih =>
    have hbyte : byte poly (c ^^^ d) b = bits poly 8 c ^^^ byte poly d b := by
      rw [byte, byte, BitVec.xor_assoc, bits_linear]
    have hcons : ∀ e, bytes poly e (b :: bs) = bytes poly (byte poly e b) bs := fun _ => rfl
    rw [hcons, hcons, hbyte, ih, bits_bits, List.length_cons, Nat.mul_succ]

/-- Bytes one after the other. -/
theorem bytes_append (c : BitVec w) (as bs : List UInt8) :
    bytes poly c (as ++ bs) = bytes poly (bytes poly c as) bs := List.foldl_append

/-- Checks of two parts put together. -/
theorem bytes_parts (c : BitVec w) (as bs : List UInt8) :
    bytes poly c (as ++ bs) =
      bits poly (8 * bs.length) (bytes poly c as) ^^^ bytes poly 0#w bs := by
  rw [bytes_append, ← bytes_xor, BitVec.xor_zero]

/-- Bytes taken up by one lookup each, in tables for their distances from the end. -/
def lookups (poly c : BitVec w) : List UInt8 → BitVec w
  | [] => c
  | b :: bs =>
    bits poly (8 * (bs.length + 1)) (low (c ^^^ b.toBitVec.setWidth w)) ^^^
      lookups poly (c >>> 8) bs

/-- Taking up bytes at once. -/
theorem bytes_eq_lookups (c : BitVec w) (bs : List UInt8) :
    bytes poly c bs = lookups poly c bs := by
  induction bs generalizing c with
  | nil => rfl
  | cons b bs ih =>
    have hcons : bytes poly c (b :: bs) = bytes poly (byte poly c b) bs := rfl
    rw [hcons, byte_eq, bytes_xor, ih, bits_bits, lookups, Nat.mul_succ]

section Bursts

variable {σ β : Type*} {step : σ → β → σ}

/-- Steps that lose nothing one by one lose nothing together. -/
theorem foldl_injective (h : ∀ b, Function.Injective (step · b)) (bs : List β) :
    Function.Injective (bs.foldl step ·) := by
  induction bs with
  | nil => exact fun _ _ hab => hab
  | cons b bs ih => exact fun c d hcd => h b (ih hcd)

/-- Two lists that differ at most in some places side by side. -/
def Burst {α : Type*} (n : ℕ) (as bs : List α) : Prop :=
  ∃ front mid mid' back, as = front ++ mid ++ back ∧ bs = front ++ mid' ++ back ∧
    mid.length = mid'.length ∧ mid.length ≤ n

/-- A burst changes no length. -/
theorem Burst.length_eq {α : Type*} {n : ℕ} {as bs : List α} (h : Burst n as bs) :
    as.length = bs.length := by
  obtain ⟨front, mid, mid', back, rfl, rfl, hlen, -⟩ := h
  simp only [List.length_append, hlen]

/-- Steps that lose nothing and tell short lists tell bursts. -/
theorem foldl_burst (h : ∀ b, Function.Injective (step · b)) {n : ℕ}
    (hshort : ∀ (c : σ) (as bs : List β), as.length = bs.length → as.length ≤ n →
      as.foldl step c = bs.foldl step c → as = bs)
    {c : σ} {as bs : List β} (hburst : Burst n as bs) (heq : as.foldl step c = bs.foldl step c) :
    as = bs := by
  obtain ⟨front, mid, mid', back, rfl, rfl, hlen, hle⟩ := hburst
  rw [List.foldl_append, List.foldl_append, List.foldl_append, List.foldl_append] at heq
  have hmid := foldl_injective h back heq
  rw [hshort _ mid mid' hlen hle hmid]

end Bursts

section Damage

/-- Advancing loses nothing, when the polynomial has its highest bit. -/
theorem bit_injective (h : poly.msb = true) : Function.Injective (bit poly) := by
  have hzero : ∀ c, bit poly c = 0#w → c = 0#w := by
    intro c hc
    rw [bit] at hc
    cases hlow : c.getLsbD 0 with
    | true =>
      rw [hlow, if_pos rfl, BitVec.xor_eq_zero_iff] at hc
      have hmsb : (c >>> 1).msb = false := by
        rw [BitVec.msb_ushiftRight]
        rfl
      rw [hc, h] at hmsb
      cases hmsb
    | false =>
      rw [hlow, if_neg Bool.false_ne_true] at hc
      apply BitVec.eq_of_getLsbD_eq
      intro i _
      cases i with
      | zero => rw [hlow, BitVec.getLsbD_zero]
      | succ i => rw [Nat.add_comm, ← BitVec.getLsbD_ushiftRight, hc, BitVec.getLsbD_zero,
          BitVec.getLsbD_zero]
  intro a b hab
  have hsum : bit poly (a ^^^ b) = 0#w := by rw [bit_linear, hab, BitVec.xor_self]
  exact BitVec.xor_eq_zero_iff.mp (hzero _ hsum)

/-- Neither does taking up a byte. -/
theorem byte_injective (h : poly.msb = true) (b : UInt8) : Function.Injective (byte poly · b) :=
  fun _ _ hcd => (BitVec.xor_left_inj _).mp ((bit_injective poly h).iterate 8 hcd)

/-- Bytes as a register, the first one lowest. -/
def word : List UInt8 → BitVec w
  | [] => 0#w
  | b :: bs => b.toBitVec.setWidth w ^^^ word bs <<< 8

/-- Behind its bytes a register is empty. -/
theorem word_high (bs : List UInt8) {i : ℕ} (h : 8 * bs.length ≤ i) :
    (word bs : BitVec w).getLsbD i = false := by
  induction bs generalizing i with
  | nil => exact BitVec.getLsbD_zero
  | cons b bs ih =>
    rw [List.length_cons] at h
    have hbyte : b.toBitVec.getLsbD i = false := BitVec.getLsbD_of_ge _ _ (by omega)
    rw [word, BitVec.getLsbD_xor, BitVec.getLsbD_setWidth, BitVec.getLsbD_shiftLeft, hbyte,
      ih (by omega : 8 * bs.length ≤ i - 8), Bool.and_false, Bool.and_false]
    rfl

/-- With room for a byte, nothing gets lost. -/
theorem word_shift {bs : List UInt8} (h : 8 * (bs.length + 1) ≤ w) :
    (word bs <<< 8 >>> 8 : BitVec w) = word bs := by
  apply BitVec.eq_of_getLsbD_eq
  intro i hi
  rw [BitVec.getLsbD_ushiftRight, BitVec.getLsbD_shiftLeft, Nat.add_sub_cancel_left]
  by_cases hin : 8 + i < w
  · simp [hin]
  · rw [word_high bs (by omega : 8 * bs.length ≤ i), Bool.and_false]

/-- Bytes that the register has room for are taken up as one. -/
theorem bytes_word (c : BitVec w) {bs : List UInt8} (h : 8 * bs.length ≤ w) :
    bytes poly c bs = bits poly (8 * bs.length) (c ^^^ word bs) := by
  induction bs generalizing c with
  | nil => exact BitVec.xor_zero.symm
  | cons b bs ih =>
    rw [List.length_cons] at h
    have hrest : bits poly 8 (word bs <<< 8) = word bs := by
      rw [bits_shift poly fun i hi => by rw [BitVec.getLsbD_shiftLeft]; simp [hi], word_shift h]
    have hcons : bytes poly c (b :: bs) = bytes poly (byte poly c b) bs := rfl
    rw [hcons, ih _ (by omega), List.length_cons, Nat.mul_succ, ← bits_bits, word,
      ← BitVec.xor_assoc, bits_linear poly 8, hrest, byte]

/-- Such bytes can be told apart. -/
theorem word_injective {as bs : List UInt8} (hlen : as.length = bs.length)
    (h : 8 * as.length ≤ w) (heq : (word as : BitVec w) = word bs) : as = bs := by
  induction as generalizing bs with
  | nil => exact (List.length_eq_zero_iff.mp hlen.symm).symm
  | cons a as ih =>
    cases bs with
    | nil => cases hlen
    | cons b bs =>
      have hlen' : as.length = bs.length := Nat.succ.inj hlen
      rw [List.length_cons] at h
      have hdown : ∀ (b : UInt8) (bs : List UInt8), 8 * (bs.length + 1) ≤ w →
          (word (b :: bs) : BitVec w) >>> 8 = word bs := by
        intro b bs hle
        rw [word, BitVec.ushiftRight_xor_distrib, byte_shift, word_shift hle, BitVec.zero_xor]
      have hrest : as = bs := ih hlen' (by omega) (by
        rw [← hdown a as h, heq, hdown b bs (by omega)])
      have hbyte : (a.toBitVec.setWidth w).setWidth 8 = (b.toBitVec.setWidth w).setWidth 8 := by
        rw [hrest, word, word, BitVec.xor_left_inj] at heq
        rw [heq]
      have hle : 8 ≤ w := by omega
      rw [BitVec.setWidth_setWidth_of_le _ hle, BitVec.setWidth_setWidth_of_le _ hle,
        BitVec.setWidth_eq, BitVec.setWidth_eq] at hbyte
      rw [hrest, UInt8.toBitVec_inj.mp hbyte]

/-- A check tells a burst that is not longer than itself. -/
theorem bytes_burst (h : poly.msb = true) {n : ℕ} (hn : 8 * n ≤ w) {c : BitVec w}
    {as bs : List UInt8} (hburst : Burst n as bs) (heq : bytes poly c as = bytes poly c bs) :
    as = bs := by
  refine foldl_burst (byte_injective poly h) (fun c mid mid' hlen hle hmid => ?_) hburst heq
  have hregs : bytes poly c mid = bytes poly c mid' := hmid
  rw [bytes_word poly c (by omega : 8 * mid.length ≤ w),
    bytes_word poly c (by omega : 8 * mid'.length ≤ w), hlen] at hregs
  have hwords := (BitVec.xor_right_inj _).mp ((bit_injective poly h).iterate _ hregs)
  exact word_injective hlen (by omega) hwords

end Damage

end Mhvtl.Crc
