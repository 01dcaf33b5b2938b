import Mhvtl.Lib.Crc

/-!
# Checks that take bytes in at the high end

A check with a table of its own: the register moves up by a byte, and what comes out at the high
end is looked up. All that is asked of the table is that the low byte of an entry is its index.
-/

namespace Mhvtl.TableCrc

open Crc

variable {v : ℕ} (T : BitVec 8 → BitVec (v + 8))

/-- The byte that comes out next. -/
def top (c : BitVec (v + 8)) : BitVec 8 := (c >>> v).setWidth 8

/-- Move the register up by a byte. -/
def advance (c : BitVec (v + 8)) : BitVec (v + 8) := c <<< 8 ^^^ T (top c)

/-- A byte at the high end. -/
def high (b : UInt8) : BitVec (v + 8) := b.toBitVec.setWidth (v + 8) <<< v

/-- Take up a byte. -/
def take (c : BitVec (v + 8)) (b : UInt8) : BitVec (v + 8) := advance T (c ^^^ high b)

/-- Take up some bytes. -/
def takes (c : BitVec (v + 8)) (bs : List UInt8) : BitVec (v + 8) := bs.foldl (take T) c

/-- Bits of the byte at the high end. -/
theorem getLsbD_top (c : BitVec (v + 8)) (i : ℕ) :
    (top c).getLsbD i = (decide (i < 8) && c.getLsbD (v + i)) := by
  rw [top, BitVec.getLsbD_setWidth, BitVec.getLsbD_ushiftRight]

/-- The byte at the high end of a sum. -/
theorem top_xor (c d : BitVec (v + 8)) : top (c ^^^ d) = top c ^^^ top d := by
  rw [top, BitVec.ushiftRight_xor_distrib, BitVec.setWidth_xor]
  rfl

/-- A byte at the high end is there. -/
theorem top_high (b : UInt8) : top (high b : BitVec (v + 8)) = b.toBitVec := by
  apply BitVec.eq_of_getLsbD_eq
  intro i hi
  have hout : v + i < v + 8 := by omega
  rw [getLsbD_top, high, BitVec.getLsbD_shiftLeft, Nat.add_sub_cancel_left,
    BitVec.getLsbD_setWidth]
  simp [hi, hout, Nat.lt_add_left v hi]

/-- Behind an empty high end nothing is looked up. -/
theorem advance_xor (c : BitVec (v + 8)) {d : BitVec (v + 8)} (h : top d = 0#8) :
    advance T (c ^^^ d) = advance T c ^^^ d <<< 8 := by
  rw [advance, top_xor, h, BitVec.xor_zero, BitVec.shiftLeft_xor_distrib, advance,
    BitVec.xor_assoc, BitVec.xor_comm (d <<< 8), ← BitVec.xor_assoc]

/-- Taking up a byte, by its lookup. -/
theorem take_eq (c : BitVec (v + 8)) (b : UInt8) :
    take T c b = c <<< 8 ^^^ T (top c ^^^ b.toBitVec) := by
  have hout : high b <<< 8 = 0#(v + 8) := by
    rw [high, ← BitVec.shiftLeft_add]
    exact BitVec.shiftLeft_eq_zero (Nat.le_refl _)
  rw [take, advance, top_xor, top_high, BitVec.shiftLeft_xor_distrib, hout, BitVec.xor_zero]

section Injective

variable {T}

/-- Advancing loses nothing. -/
theorem advance_injective (hT : ∀ i, (T i).setWidth 8 = i) : Function.Injective (advance T) := by
  have hlow : ∀ c, (advance T c).setWidth 8 = top c := by
    intro c
    have hzero : (c <<< 8).setWidth 8 = 0#8 := by
      apply BitVec.eq_of_getLsbD_eq
      intro i hi
      rw [BitVec.getLsbD_setWidth, BitVec.getLsbD_shiftLeft]
      simp [hi]
    rw [advance, BitVec.setWidth_xor, hzero, hT, BitVec.zero_xor]
  intro c d hcd
  have htop : top c = top d := by rw [← hlow, hcd, hlow]
  have hshift : c <<< 8 = d <<< 8 := by
    rw [advance, advance, htop] at hcd
    exact (BitVec.xor_left_inj _).mp hcd
  apply BitVec.eq_of_getLsbD_eq
  intro i hi
  by_cases hhigh : v ≤ i
  · have hbit := congrArg (·.getLsbD (i - v)) htop
    simp only [getLsbD_top, Nat.add_sub_cancel' hhigh] at hbit
    rwa [decide_eq_true (by omega : i - v < 8), Bool.true_and, Bool.true_and] at hbit
  · have hbit := congrArg (·.getLsbD (i + 8)) hshift
    simp only [BitVec.getLsbD_shiftLeft, Nat.add_sub_cancel] at hbit
    have hin : i + 8 < v + 8 := by omega
    have hnot : ¬i + 8 < 8 := by omega
    simpa [hin, hnot] using hbit

/-- Neither does taking up a byte. -/
theorem take_injective (hT : ∀ i, (T i).setWidth 8 = i) (b : UInt8) :
    Function.Injective (take T · b) :=
  fun _ _ hcd => (BitVec.xor_left_inj _).mp (advance_injective hT hcd)

end Injective

/-- Bytes as a register, the first one highest. -/
def word : List UInt8 → BitVec (v + 8)
  | [] => 0#(v + 8)
  | b :: bs => high b ^^^ word bs >>> 8

/-- In front of its bytes a register is empty. -/
theorem word_low (bs : List UInt8) {i : ℕ} (h : i + 8 * bs.length < v + 8) :
    (word bs : BitVec (v + 8)).getLsbD i = false := by
  induction bs generalizing i with
  | nil => exact BitVec.getLsbD_zero
  | cons b bs ih =>
    rw [List.length_cons] at h
    have hlt : i < v := by omega
    rw [word, BitVec.getLsbD_xor, high, BitVec.getLsbD_shiftLeft, BitVec.getLsbD_ushiftRight,
      ih (by omega : 8 + i + 8 * bs.length < v + 8)]
    simp [hlt]

/-- With room for a byte, nothing gets lost. -/
theorem word_shift {bs : List UInt8} (h : 8 * (bs.length + 1) ≤ v + 8) :
    (word bs >>> 8 <<< 8 : BitVec (v + 8)) = word bs := by
  apply BitVec.eq_of_getLsbD_eq
  intro i hi
  rw [BitVec.getLsbD_shiftLeft, BitVec.getLsbD_ushiftRight]
  by_cases hlow : i < 8
  · rw [word_low bs (by omega : i + 8 * bs.length < v + 8)]
    simp [hlow]
  · rw [Nat.add_sub_cancel' (Nat.not_lt.mp hlow)]
    simp [hi, hlow]

/-- Behind a byte there is room at the high end. -/
theorem top_shift (c : BitVec (v + 8)) : top (c >>> 8) = 0#8 := by
  apply BitVec.eq_of_getLsbD_eq
  intro i _
  rw [getLsbD_top, BitVec.getLsbD_ushiftRight, BitVec.getLsbD_of_ge c _ (by omega), Bool.and_false]
  exact BitVec.getLsbD_zero.symm

/-- Bytes that the register has room for are taken up as one. -/
theorem takes_word (c : BitVec (v + 8)) {bs : List UInt8} (h : 8 * bs.length ≤ v + 8) :
    takes T c bs = (advance T)^[bs.length] (c ^^^ word bs) := by
  induction bs generalizing c with
  | nil => exact BitVec.xor_zero.symm
  | cons b bs ih =>
    rw [List.length_cons] at h
    have hcons : takes T c (b :: bs) = takes T (take T c b) bs := rfl
    rw [hcons, ih _ (by omega), List.length_cons, Function.iterate_succ_apply, word,
      ← BitVec.xor_assoc, advance_xor T _ (top_shift _), word_shift h, take]

/-- Such bytes can be told apart. -/
theorem word_injective {as bs : List UInt8} (hlen : as.length = bs.length)
    (h : 8 * as.length ≤ v + 8) (heq : (word as : BitVec (v + 8)) = word bs) : as = bs := by
  induction as generalizing bs with
  | nil => exact (List.length_eq_zero_iff.mp hlen.symm).symm
  | cons a as ih =>
    cases bs with
    | nil => cases hlen
    | cons b bs =>
      have hlen' : as.length = bs.length := Nat.succ.inj hlen
      rw [List.length_cons] at h
      have htop : ∀ (b : UInt8) (bs : List UInt8),
          top (word (b :: bs) : BitVec (v + 8)) = b.toBitVec := by
        intro b bs
        rw [word, top_xor, top_high, top_shift, BitVec.xor_zero]
      have hbyte : a = b := UInt8.toBitVec_inj.mp (by rw [← htop a as, heq, htop b bs])
      have hrest : as = bs := ih hlen' (by omega) (by
        rw [hbyte, word, word, BitVec.xor_right_inj] at heq
        rw [← word_shift h, heq, word_shift (by omega)])
      rw [hbyte, hrest]

/-- A register is its byte at the high end and the others. -/
theorem word_top (c : BitVec (v + 8)) {bs : List UInt8} (h : word bs = c <<< 8) :
    word (UInt8.ofBitVec (top c) :: bs) = c := by
  rw [word, h]
  apply BitVec.eq_of_getLsbD_eq
  intro i hi
  rw [BitVec.getLsbD_xor, high, BitVec.getLsbD_shiftLeft, BitVec.getLsbD_ushiftRight,
    BitVec.getLsbD_shiftLeft, Nat.add_sub_cancel_left, BitVec.getLsbD_setWidth]
  by_cases hlow : i < v
  · have hin : 8 + i < v + 8 := by omega
    simp [hi, hlow, hin]
  · have hout : ¬8 + i < v + 8 := by omega
    have hbyte : i - v < 8 := by omega
    have hreg : i - v < v + 8 := by omega
    have htop := getLsbD_top c (i - v)
    rw [Nat.add_sub_cancel' (Nat.not_lt.mp hlow), decide_eq_true hbyte, Bool.true_and] at htop
    have hbit : (UInt8.ofBitVec (top c)).toBitVec.getLsbD (i - v) = c.getLsbD i := htop
    rw [hbit]
    simp [hi, hlow, hout, hreg]

/-- Bytes one after the other. -/
theorem takes_append (c : BitVec (v + 8)) (as bs : List UInt8) :
    takes T c (as ++ bs) = takes T (takes T c as) bs := List.foldl_append

/-- Such a check tells a burst that is not longer than itself. -/
theorem takes_burst (hT : ∀ i, (T i).setWidth 8 = i) {n : ℕ} (hn : 8 * n ≤ v + 8)
    {c : BitVec (v + 8)} {as bs : List UInt8} (hburst : Burst n as bs)
    (heq : takes T c as = takes T c bs) : as = bs := by
  refine foldl_burst (take_injective hT) (fun c mid mid' hlen hle hmid => ?_) hburst heq
  have hregs : takes T c mid = takes T c mid' := hmid
  rw [takes_word T c (by omega : 8 * mid.length ≤ v + 8),
    takes_word T c (by omega : 8 * mid'.length ≤ v + 8), hlen] at hregs
  have hwords := (BitVec.xor_right_inj _).mp ((advance_injective hT).iterate _ hregs)
  exact word_injective hlen (by omega) hwords

end Mhvtl.TableCrc
