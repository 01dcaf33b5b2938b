import Mathlib.Algebra.BigOperators.Group.List.Basic
import Mathlib.Algebra.BigOperators.Group.List.Lemmas
import Mathlib.Algebra.Order.BigOperators.Group.List
import Mathlib.Tactic.Ring

/-!
# Shares that are rounded down

A budget is shared out in proportion to some sizes, and what is left in equal parts.
Each part is rounded down, so that the parts never take more than there is, and lose
less than one each.
-/

namespace Mhvtl.Shares

/-- A sum over a list of two kinds of entries, of which one kind has equal values. -/
theorem sum_two_kinds {α : Type} (q : α → Prop) [DecidablePred q] (part : ℕ) (f : α → ℕ)
    (l : List α) :
    (l.map fun x => if q x then part else f x).sum =
      (l.filter q).length * part + ((l.filter (¬q ·)).map f).sum := by
  induction l with
  | nil => simp
  | cons a l ih =>
    by_cases h : q a
    · simp only [List.map_cons, List.sum_cons, ih, h, if_true, List.filter_cons, decide_true,
        List.length_cons, not_true_eq_false, decide_false, Bool.false_eq_true, if_false]
      ring
    · simp only [List.map_cons, List.sum_cons, ih, h, if_false, List.filter_cons, decide_false,
        Bool.false_eq_true, not_false_eq_true, decide_true, if_true]
      ring

section Proportional

variable {α : Type} (size : α → ℕ) (budget : ℕ) {whole : ℕ}

/-- Rounded shares are no more than the unrounded ones. -/
theorem sum_shares_mul_le (l : List α) :
    (l.map fun x => size x * budget / whole).sum * whole ≤ (l.map size).sum * budget := by
  induction l with
  | nil => simp
  | cons a l ih =>
    have hdiv := Nat.div_mul_le_self (size a * budget) whole
    simp only [List.map_cons, List.sum_cons, Nat.add_mul]
    omega

/-- Each share loses less than one. -/
theorem mul_le_sum_shares_mul (hw : 0 < whole) (l : List α) :
    (l.map size).sum * budget ≤
      (l.map fun x => size x * budget / whole).sum * whole + l.length * (whole - 1) := by
  induction l with
  | nil => simp
  | cons a l ih =>
    have hmod := Nat.div_add_mod' (size a * budget) whole
    have hlt := Nat.mod_lt (size a * budget) hw
    simp only [List.map_cons, List.sum_cons, Nat.add_mul, List.length_cons, Nat.one_mul]
    omega

/-- Proportional shares stay within the budget. -/
theorem sum_shares_le (hw : 0 < whole) {l : List α} (hl : (l.map size).sum = whole) :
    (l.map fun x => size x * budget / whole).sum ≤ budget := by
  have h := @sum_shares_mul_le α size budget whole l
  rw [hl, Nat.mul_comm whole] at h
  exact Nat.le_of_mul_le_mul_right h hw

/-- They lose less than one each. -/
theorem budget_lt_sum_shares (hw : 0 < whole) {l : List α} (hl : (l.map size).sum = whole) :
    budget < (l.map fun x => size x * budget / whole).sum + l.length := by
  have h := mul_le_sum_shares_mul size budget hw l
  have hne : 0 < l.length := by
    rw [List.length_pos_iff]
    rintro rfl
    rw [List.map_nil, List.sum_nil] at hl
    omega
  have hless : l.length * (whole - 1) < l.length * whole :=
    Nat.mul_lt_mul_of_pos_left (by omega) hne
  rw [hl, Nat.mul_comm whole] at h
  have hmul : budget * whole <
      ((l.map fun x => size x * budget / whole).sum + l.length) * whole := by
    rw [Nat.add_mul]
    omega
  exact Nat.lt_of_mul_lt_mul_right hmul

end Proportional

/-- Equal parts of a whole stay within it and lose less than one each. -/
theorem equal_parts (n : ℕ) {parts : ℕ} (hparts : 0 < parts) :
    parts * (n / parts) ≤ n ∧ n < parts * (n / parts) + parts := by
  have hmod := Nat.div_add_mod n parts
  have hlt := Nat.mod_lt n hparts
  omega

section Units

variable {u : ℕ}

/-- Sizes counted in whole units are no more than their sum. -/
theorem sum_units_le (l : List ℕ) : (l.map (· / u)).sum ≤ l.sum / u := by
  rcases Nat.eq_zero_or_pos u with rfl | hu
  · simp
  · rw [Nat.le_div_iff_mul_le hu]
    induction l with
    | nil => simp
    | cons a l ih =>
      have hdiv := Nat.div_mul_le_self a u
      simp only [List.map_cons, List.sum_cons, Nat.add_mul]
      omega

/-- They lose at most a unit each. -/
theorem sum_le_units (hu : 0 < u) (l : List ℕ) : l.sum / u ≤ (l.map (· / u)).sum + l.length := by
  apply Nat.le_of_lt_succ
  rw [Nat.div_lt_iff_lt_mul hu]
  induction l with
  | nil => simpa using hu
  | cons a l ih =>
    have hlt := Nat.lt_div_mul_add hu (a := a)
    simp only [List.map_cons, List.sum_cons, List.length_cons, Nat.succ_eq_add_one, Nat.add_mul] at *
    omega

/-- When figures and their whole are cut to a width, they add up just when the cut figures with what
rounding loses stay inside the width. -/
theorem cut_units_iff (hu : 0 < u) {width c : ℕ} {l : List ℕ} (hwidth : 2 * l.length < width) :
    (l.sum % (u * (width * c)) / u % width ≤ (l.map fun x => x / u % width).sum + l.length ∧
      (l.map fun x => x / u % width).sum ≤ l.sum % (u * (width * c)) / u % width + l.length) ↔
      (l.map fun x => x / u % width).sum + (l.sum / u - (l.map (· / u)).sum) < width := by
  have hle := @sum_units_le u l
  have hge := sum_le_units hu l
  have hwhole : l.sum % (u * (width * c)) / u % width = l.sum / u % width := by
    rw [Nat.mod_mul_right_div_self, Nat.mod_mul_right_mod]
  have hcut : (l.map fun x => x / u % width).sum % width = (l.map (· / u)).sum % width := by
    rw [List.sum_nat_mod (l.map (· / u)), List.map_map]
    rfl
  rw [hwhole]
  generalize (l.map fun x => x / u % width).sum = cut at hcut ⊢
  have hsum : l.sum / u % width = (cut + (l.sum / u - (l.map (· / u)).sum)) % width := by
    rw [Nat.add_mod, hcut, ← Nat.add_mod, Nat.add_sub_cancel' hle]
  generalize hloss : l.sum / u - (l.map (· / u)).sum = loss at hsum ⊢
  rw [hsum]
  constructor
  · rintro ⟨-, hnear⟩
    by_contra hbig
    have hmod := Nat.div_add_mod (cut + loss) width
    have hpos : 0 < (cut + loss) / width := Nat.div_pos (Nat.le_of_not_lt hbig) (by omega)
    have hone : width ≤ width * ((cut + loss) / width) := Nat.le_mul_of_pos_right _ hpos
    omega
  · intro hsmall
    rw [Nat.mod_eq_of_lt hsmall]
    omega

end Units

end Mhvtl.Shares
