import Mathlib.Algebra.BigOperators.Group.List.Basic
import Mathlib.Data.List.Basic
import Mathlib.Tactic.Ring

/-!
# The longest front that fits

A list whose entries have sizes is put into a room one entry after the other. What fits is
the longest front of the list that is no larger than the room.
-/

namespace Mhvtl.Fitting

variable {α : Type} (size : α → ℕ)

/-- The size of all entries. -/
def total (l : List α) : ℕ := (l.map size).sum

/-- The entries that fit in `room` bytes, of which `used` are taken. -/
def fit (room : ℕ) : List α → ℕ → List α
  | [], _ => []
  | a :: l, used => if used + size a ≤ room then a :: fit room l (used + size a) else []

/-- The longest front of a list that fits. -/
structure LongestFront (room : ℕ) (l front : List α) : Prop where
  /-- It is a front. -/
  start : front <+: l
  /-- It fits. -/
  fits : total size front ≤ room
  /-- No other is longer. -/
  longest : ∀ other, other <+: l → total size other ≤ room → other <+: front

@[simp] theorem total_nil : total size [] = 0 := rfl

@[simp] theorem total_cons (a : α) (l : List α) : total size (a :: l) = size a + total size l :=
  List.sum_cons

/-- Two lists one behind the other. -/
theorem total_append (l l' : List α) : total size (l ++ l') = total size l + total size l' := by
  rw [total, List.map_append, List.sum_append, total, total]

/-- Entries of one size. -/
theorem total_const (n : ℕ) (l : List α) : total (fun _ => n) l = n * l.length := by
  induction l with
  | nil => rfl
  | cons a l ih =>
    rw [total_cons, ih, List.length_cons, Nat.mul_add, Nat.mul_one, Nat.add_comm]

variable {size} {room : ℕ} {l front : List α}

/-- With entries that are never empty, a front as large as the list is the list. -/
theorem eq_of_total_le (hpos : ∀ a, 0 < size a) (h : front <+: l)
    (hle : total size l ≤ total size front) : front = l := by
  obtain ⟨rest, rfl⟩ := h
  cases rest with
  | nil => rw [List.append_nil]
  | cons a rest =>
    have ha := hpos a
    rw [total_append, total_cons] at hle
    omega

/-- A front that fits behind what is used is a front of what is put in. -/
theorem prefix_fit {used : ℕ} {other : List α} (h : other <+: l)
    (hfits : used + total size other ≤ room) : other <+: fit size room l used := by
  induction l generalizing used other with
  | nil => exact h
  | cons a l ih =>
    cases other with
    | nil => exact List.nil_prefix
    | cons b other =>
      obtain ⟨rfl, htail⟩ := List.cons_prefix_cons.mp h
      rw [total_cons] at hfits
      rw [fit, if_pos (by omega), List.cons_prefix_cons]
      exact ⟨rfl, ih htail (by omega)⟩

/-- What is put in is a front of the list. -/
theorem fit_front (used : ℕ) : fit size room l used <+: l := by
  induction l generalizing used with
  | nil => exact List.prefix_rfl
  | cons a l ih =>
    rw [fit]
    split
    · exact List.cons_prefix_cons.mpr ⟨rfl, ih _⟩
    · exact List.nil_prefix

/-- It fits. -/
theorem fit_total_le {used : ℕ} (h : used ≤ room) : used + total size (fit size room l used) ≤ room := by
  induction l generalizing used with
  | nil => exact h
  | cons a l ih =>
    rw [fit]
    split
    · next hfits =>
      have htail := ih hfits
      rw [total_cons]
      omega
    · exact h

/-- What is put in is the longest front that fits. -/
theorem fit_longest {used : ℕ} (h : used ≤ room) :
    LongestFront size (room - used) l (fit size room l used) := by
  refine ⟨fit_front used, ?_, fun other hother hfits => ?_⟩
  · have hle := @fit_total_le α size room l used h
    omega
  · exact prefix_fit hother (by omega)

/-- A list that fits is put in whole. -/
theorem LongestFront.whole (h : LongestFront size room l front) (hfits : total size l ≤ room) :
    front = l :=
  h.start.eq_of_length_le (h.longest l List.prefix_rfl hfits).length_le

/-- Where even one byte does not fit, nothing is put in. -/
theorem fit_full (hpos : ∀ a, 0 < size a) {used : ℕ} (h : room ≤ used) : fit size room l used = [] := by
  cases l with
  | nil => rfl
  | cons a l =>
    have ha := hpos a
    rw [fit, if_neg (by omega)]

/-- Behind a header that may not fit itself, entries that are never empty still leave the longest
front of what fits in the rest. -/
theorem fit_behind (hpos : ∀ a, 0 < size a) (used : ℕ) :
    LongestFront size (room - used) l (fit size room l used) := by
  rcases Nat.lt_or_ge room used with hlt | hle
  · rw [fit_full hpos (Nat.le_of_lt hlt), Nat.sub_eq_zero_of_le (Nat.le_of_lt hlt)]
    refine ⟨List.nil_prefix, Nat.zero_le _, fun other _ hfits => ?_⟩
    cases other with
    | nil => exact List.prefix_rfl
    | cons a other =>
      have ha := hpos a
      rw [total_cons] at hfits
      omega
  · exact fit_longest hle

end Mhvtl.Fitting
