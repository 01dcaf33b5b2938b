import Mathlib.Data.List.Basic
import Mathlib.Order.Lattice

/-!
# Bubble sort

Sweeps exchange neighbours that are out of order. A sweep takes the largest entry to
the end of what it goes over, so each sweep may stop one place earlier, and a sweep
without an exchange ends the sort.
-/

namespace Mhvtl.BubbleSort

variable {α : Type} [LinearOrder α]

/-- One sweep over the first `n` pairs of neighbours, and whether it exchanged any. -/
def sweep : ℕ → List α → List α × Bool
  | n + 1, a :: b :: l =>
    if b < a then (b :: (sweep n (a :: l)).1, true)
    else (a :: (sweep n (b :: l)).1, (sweep n (b :: l)).2)
  | _, l => (l, false)

/-- Sweeps over `n`, `n - 1`, … pairs, up to the first that exchanges none. -/
def sweeps : ℕ → List α → List α
  | 0, l => l
  | n + 1, l => if (sweep (n + 1) l).2 then sweeps n (sweep (n + 1) l).1 else (sweep (n + 1) l).1

/-- Bubble sort. -/
def bubbleSort (l : List α) : List α := sweeps (l.length - 1) l

/-- A sweep keeps the entries. -/
theorem sweep_perm (n : ℕ) (l : List α) : (sweep n l).1.Perm l := by
  induction n, l using sweep.induct with
  | case1 n a b l h ih =>
    rw [sweep, if_pos h]
    exact (ih.cons b).trans (List.Perm.swap a b l)
  | case2 n a b l h ih =>
    rw [sweep, if_neg h]
    exact ih.cons a
  | case3 n l hl => rw [sweep.eq_2 n l hl]

/-- A sweep without an exchange went over entries that are in order. -/
theorem sweep_idle (a : α) (l back : List α) (h : (sweep l.length (a :: l ++ back)).2 = false) :
    (sweep l.length (a :: l ++ back)).1 = a :: l ++ back ∧ (a :: l).Pairwise (· ≤ ·) := by
  induction l generalizing a with
  | nil =>
    rw [List.length_nil, sweep.eq_2 0 _ (fun _ _ _ _ hl => by cases hl)]
    exact ⟨rfl, List.pairwise_singleton _ _⟩
  | cons b l ih =>
    simp only [List.length_cons, List.cons_append, sweep] at h ⊢
    split at h
    · cases h
    · next hle =>
      have hab : a ≤ b := not_lt.mp hle
      obtain ⟨hsame, hsorted⟩ := ih b h
      rw [if_neg hle, ← List.cons_append, hsame]
      refine ⟨rfl, List.pairwise_cons.mpr ⟨fun x hx => ?_, hsorted⟩⟩
      rcases List.mem_cons.mp hx with rfl | hx
      · exact hab
      · exact hab.trans ((List.pairwise_cons.mp hsorted).1 x hx)

/-- A sweep takes the largest entry it goes over behind the others, and leaves what lies
behind that as it is. -/
theorem sweep_largest (a : α) (l back : List α) :
    ∃ front m, (sweep l.length (a :: l ++ back)).1 = front ++ m :: back ∧
      (front ++ [m]).Perm (a :: l) ∧ ∀ x ∈ front, x ≤ m := by
  induction l generalizing a with
  | nil =>
    refine ⟨[], a, ?_, List.Perm.refl _, fun x hx => absurd hx List.not_mem_nil⟩
    rw [List.length_nil, sweep.eq_2 0 _ (fun _ _ _ _ hl => by cases hl)]
    rfl
  | cons b l ih =>
    simp only [List.length_cons, List.cons_append, sweep]
    split
    · next hlt =>
      obtain ⟨front, m, hrun, hperm, hmax⟩ := ih a
      refine ⟨b :: front, m, by rw [← List.cons_append, hrun]; rfl,
        (hperm.cons b).trans (List.Perm.swap a b l), fun x hx => ?_⟩
      rcases List.mem_cons.mp hx with rfl | hx
      · have ham : a ≤ m := by
          rcases List.mem_append.mp (hperm.mem_iff.mpr (List.mem_cons_self ..)) with h | h
          · exact hmax a h
          · exact (List.mem_singleton.mp h).le
        exact hlt.le.trans ham
      · exact hmax x hx
    · next hle =>
      obtain ⟨front, m, hrun, hperm, hmax⟩ := ih b
      refine ⟨a :: front, m, by rw [← List.cons_append, hrun]; rfl, hperm.cons a, fun x hx => ?_⟩
      rcases List.mem_cons.mp hx with rfl | hx
      · have hbm : b ≤ m := by
          rcases List.mem_append.mp (hperm.mem_iff.mpr (List.mem_cons_self ..)) with h | h
          · exact hmax b h
          · exact (List.mem_singleton.mp h).le
        exact (not_lt.mp hle).trans hbm
      · exact hmax x hx

/-- Sweeps keep the entries. -/
theorem sweeps_perm (n : ℕ) (l : List α) : (sweeps n l).Perm l := by
  induction n generalizing l with
  | zero => exact List.Perm.refl l
  | succ n ih =>
    rw [sweeps]
    split
    · exact (ih _).trans (sweep_perm _ l)
    · exact sweep_perm _ l

/-- Sweeps over a front put all in order when what lies behind is in order and no smaller. -/
theorem sweeps_sorted (n : ℕ) (front back : List α) (hlen : front.length = n + 1)
    (hback : back.Pairwise (· ≤ ·)) (hle : ∀ x ∈ front, ∀ y ∈ back, x ≤ y) :
    (sweeps n (front ++ back)).Pairwise (· ≤ ·) := by
  induction n generalizing front back with
  | zero =>
    obtain ⟨a, rfl⟩ := List.length_eq_one_iff.mp hlen
    exact List.pairwise_cons.mpr ⟨hle a (List.mem_singleton_self a), hback⟩
  | succ n ih =>
    cases front with
    | nil => cases hlen
    | cons a l =>
      have hl : l.length = n + 1 := Nat.succ.inj hlen
      rw [sweeps, ← hl]
      split
      · obtain ⟨front, m, hrun, hperm, hmax⟩ := sweep_largest a l back
        have hm : m ∈ a :: l := hperm.mem_iff.mp (List.mem_append_right _ (List.mem_singleton_self m))
        rw [hrun]
        apply ih
        · have hcount := hperm.length_eq
          simp only [List.length_append, List.length_cons, List.length_nil] at hcount
          omega
        · exact List.pairwise_cons.mpr ⟨hle m hm, hback⟩
        · intro x hx y hy
          rcases List.mem_cons.mp hy with rfl | hy
          · exact hmax x hx
          · exact hle x (hperm.mem_iff.mp (List.mem_append_left _ hx)) y hy
      · next hidle =>
        obtain ⟨hsame, hsorted⟩ := sweep_idle a l back (by simpa using hidle)
        rw [hsame]
        exact List.pairwise_append.mpr ⟨hsorted, hback, hle⟩

/-- Bubble sort keeps the entries. -/
theorem bubbleSort_perm (l : List α) : (bubbleSort l).Perm l := sweeps_perm _ l

/-- Bubble sort puts them in order. -/
theorem bubbleSort_sorted (l : List α) : (bubbleSort l).Pairwise (· ≤ ·) := by
  cases l with
  | nil => exact List.Pairwise.nil
  | cons a l =>
    have hrun := sweeps_sorted l.length (a :: l) [] rfl List.Pairwise.nil
      (fun _ _ _ hy => absurd hy List.not_mem_nil)
    rwa [List.append_nil] at hrun

/-- Different entries end up in strictly ascending order. -/
theorem bubbleSort_ascending {l : List α} (h : l.Nodup) : (bubbleSort l).Pairwise (· < ·) := by
  have hnodup : (bubbleSort l).Pairwise (· ≠ ·) := (bubbleSort_perm l).nodup_iff.mpr h
  exact hnodup.imp₂ (fun _ _ hne hle => lt_of_le_of_ne hle hne) (bubbleSort_sorted l)

end Mhvtl.BubbleSort
