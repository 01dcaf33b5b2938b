import Mathlib.Data.List.Basic
import Mathlib.Data.Nat.Basic
import Mathlib.Tactic.Ring

/-!
# Fixed-width integers as byte lists

Little- and big-endian encodings of naturals in a fixed number of bytes, and
the slices by which a decoder takes a packed structure apart. The value of an
encoding is the number reduced modulo the width, so a decoder recovers exactly
the numbers that fit.
-/

namespace Mhvtl.Bytes

/-- Little-endian encoding of `n` in exactly `w` bytes, high part dropped. -/
def leBytes : ℕ → ℕ → List UInt8
  | 0, _ => []
  | w + 1, n => UInt8.ofNat n :: leBytes w (n / 256)

/-- Value of a little-endian byte list. -/
def leNat : List UInt8 → ℕ
  | [] => 0
  | b :: bs => b.toNat + 256 * leNat bs

/-- Big-endian encoding of `n` in exactly `w` bytes. -/
def beBytes (w n : ℕ) : List UInt8 := (leBytes w n).reverse

/-- Value of a big-endian byte list. -/
def beNat (bs : List UInt8) : ℕ := leNat bs.reverse

@[simp] theorem leBytes_length (w n : ℕ) : (leBytes w n).length = w := by
  induction w generalizing n with
  | zero => rfl
  | succ w ih => simp only [leBytes, List.length_cons, ih]

@[simp] theorem beBytes_length (w n : ℕ) : (beBytes w n).length = w := by
  simp only [beBytes, List.length_reverse, leBytes_length]

/-- Decoding an encoding keeps the number modulo the width. -/
theorem leNat_leBytes (w n : ℕ) : leNat (leBytes w n) = n % 256 ^ w := by
  induction w generalizing n with
  | zero => simp only [leBytes, leNat, pow_zero, Nat.mod_one]
  | succ w ih =>
    have hb : (UInt8.ofNat n).toNat = n % 256 := by simp
    simp only [leBytes, leNat, ih, hb, pow_succ, Nat.mul_comm (256 ^ w) 256]
    exact (Nat.mod_mul).symm

/-- A number that fits its width survives the little-endian round trip. -/
theorem leNat_leBytes_of_lt {w n : ℕ} (h : n < 256 ^ w) : leNat (leBytes w n) = n := by
  rw [leNat_leBytes, Nat.mod_eq_of_lt h]

/-- A number that fits its width survives the big-endian round trip. -/
theorem beNat_beBytes_of_lt {w n : ℕ} (h : n < 256 ^ w) : beNat (beBytes w n) = n := by
  rw [beNat, beBytes, List.reverse_reverse, leNat_leBytes_of_lt h]

/-- The value of `w` bytes fits `w` bytes. -/
theorem leNat_lt (bs : List UInt8) : leNat bs < 256 ^ bs.length := by
  induction bs with
  | nil => simp only [leNat, List.length_nil, pow_zero, Nat.zero_lt_one]
  | cons b bs ih =>
    have hb : b.toNat < 256 := b.toNat_lt
    simp only [leNat, List.length_cons, pow_succ]
    omega

/-- The value of a big-endian field fits its width. -/
theorem beNat_lt (bs : List UInt8) : beNat bs < 256 ^ bs.length := by
  have h := leNat_lt bs.reverse
  rwa [List.length_reverse] at h

/-- As many bytes with the same little-endian value are the same bytes. -/
theorem leNat_inj {as bs : List UInt8} (hlen : as.length = bs.length) (h : leNat as = leNat bs) :
    as = bs := by
  induction as generalizing bs with
  | nil => exact (List.eq_nil_of_length_eq_zero hlen.symm).symm
  | cons a as ih =>
    cases bs with
    | nil => exact absurd hlen (Nat.succ_ne_zero _)
    | cons b bs =>
      have ha : a.toNat < 256 := a.toNat_lt
      have hb : b.toNat < 256 := b.toNat_lt
      simp only [leNat] at h
      have hab : a = b := UInt8.toNat_inj.mp (by omega)
      have htail : as = bs := ih (Nat.succ.inj hlen) (by omega)
      rw [hab, htail]

/-- Only what the width has room for is encoded. -/
theorem leBytes_mod (w n : ℕ) : leBytes w (n % 256 ^ w) = leBytes w n := by
  refine leNat_inj (by rw [leBytes_length, leBytes_length]) ?_
  rw [leNat_leBytes, leNat_leBytes, Nat.mod_mod]

/-- The same of big-endian encodings. -/
theorem beBytes_mod (w n : ℕ) : beBytes w (n % 256 ^ w) = beBytes w n :=
  congrArg List.reverse (leBytes_mod w n)

/-- Bytes are the encoding of their value. -/
theorem leBytes_leNat (bs : List UInt8) : leBytes bs.length (leNat bs) = bs := by
  have hlen : (leBytes bs.length (leNat bs)).length = bs.length := leBytes_length _ _
  exact leNat_inj hlen (leNat_leBytes_of_lt (leNat_lt bs))

/-- As many bytes with the same big-endian value are the same bytes. -/
theorem beNat_inj {as bs : List UInt8} (hlen : as.length = bs.length) (h : beNat as = beNat bs) :
    as = bs := by
  apply List.reverse_injective
  apply leNat_inj _ h
  rw [List.length_reverse, List.length_reverse, hlen]

/-- The field of `n` bytes at offset `o` of a packed structure. -/
def slice (bs : List UInt8) (o n : ℕ) : List UInt8 := (bs.drop o).take n

/-- A field behind a prefix is the field of what follows the prefix. -/
theorem slice_append_right {xs ys : List UInt8} {o n : ℕ} (h : xs.length ≤ o) :
    slice (xs ++ ys) o n = slice ys (o - xs.length) n := by
  simp only [slice, List.drop_append, List.drop_eq_nil_of_le h, List.nil_append]

/-- The leading field of a packed structure. -/
theorem slice_append_left {xs ys : List UInt8} {n : ℕ} (h : xs.length = n) :
    slice (xs ++ ys) 0 n = xs := by
  simp only [slice, List.drop_zero, ← h, List.take_left']

end Mhvtl.Bytes
