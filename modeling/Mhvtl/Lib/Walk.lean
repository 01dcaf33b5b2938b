import Mathlib.Algebra.BigOperators.Group.List.Basic
import Mathlib.Algebra.Order.BigOperators.Group.List
import Mathlib.Algebra.Order.Group.Nat
import Mathlib.Data.List.Basic

/-!
# Walks by length fields

Entries stand one behind the other, each with a header of fixed size that says how much
belongs to it. They are walked from the first cell on, and the walk succeeds when the last
entry ends where the list does.
-/

namespace Mhvtl.Walk

variable {α : Type}

/-- A header and what belongs to it. -/
structure Entry (α : Type) where
  /-- The header. -/
  header : List α
  /-- As many cells as the header says. -/
  body : List α

section

variable (n : ℕ) (len : List α → ℕ)

/-- The entry has a header of `n + 1` cells and is as long as it says. -/
def Entry.Sized (e : Entry α) : Prop := e.header.length = n + 1 ∧ e.body.length = len e.header

/-- The cells of some entries. -/
def cells (es : List (Entry α)) : List α := es.flatMap fun e => e.header ++ e.body

/-- The entries of a list, when the last of them ends where the list does. -/
def walk : List α → Option (List (Entry α))
  | [] => some []
  | b :: l =>
    if l.length < n + len (b :: l.take n) then none
    else (walk (l.drop (n + len (b :: l.take n)))).map fun es =>
      ⟨b :: l.take n, (l.drop n).take (len (b :: l.take n))⟩ :: es
termination_by l => l.length
decreasing_by
  rw [List.length_drop, List.length_cons]
  omega

end

variable {n : ℕ} {len : List α → ℕ}

/-- Some entries behind others. -/
theorem cells_append (es es' : List (Entry α)) : cells (es ++ es') = cells es ++ cells es' :=
  List.flatMap_append

/-- One entry. -/
theorem cells_singleton (e : Entry α) : cells [e] = e.header ++ e.body := by
  rw [cells, List.flatMap_cons, List.flatMap_nil, List.append_nil]

/-- One entry more in front. -/
theorem walk_cons {e : Entry α} (h : e.Sized n len) (rest : List α) :
    walk n len (e.header ++ e.body ++ rest) = (walk n len rest).map (e :: ·) := by
  obtain ⟨header, body⟩ := e
  obtain ⟨hheader, hbody⟩ := h
  cases header with
  | nil => exact absurd hheader (Nat.succ_ne_zero n).symm
  | cons b tail =>
    have htail : tail.length = n := Nat.succ.inj hheader
    have htake : (tail ++ (body ++ rest)).take n = tail := List.take_left' htail
    have hdrop : (tail ++ (body ++ rest)).drop n = body ++ rest := List.drop_left' htail
    have hroom : ¬(tail ++ (body ++ rest)).length < n + len (b :: tail) := by
      rw [List.length_append, List.length_append, htail]
      change body.length = len (b :: tail) at hbody
      omega
    have hfront : (body ++ rest).take (len (b :: tail)) = body := List.take_left' hbody
    have hback : (body ++ rest).drop (len (b :: tail)) = rest := List.drop_left' hbody
    simp only [List.cons_append, List.append_assoc]
    rw [walk]
    simp only [htake, if_neg hroom, hdrop, hfront, ← List.drop_drop, hback]

/-- Some entries more in front. -/
theorem walk_append {es : List (Entry α)} (h : ∀ e ∈ es, e.Sized n len) (rest : List α) :
    walk n len (cells es ++ rest) = (walk n len rest).map (es ++ ·) := by
  induction es with
  | nil => simp [cells]
  | cons e es ih =>
    have htail := ih fun x hx => h x (List.mem_cons_of_mem e hx)
    rw [cells] at htail
    rw [cells, List.flatMap_cons, List.append_assoc, walk_cons (h e List.mem_cons_self), htail,
      Option.map_map]
    rfl

/-- Entries that are as long as they say are found again. -/
theorem walk_cells {es : List (Entry α)} (h : ∀ e ∈ es, e.Sized n len) :
    walk n len (cells es) = some es := by
  have hwalk := walk_append h []
  rwa [List.append_nil, walk, Option.map_some, List.append_nil] at hwalk

/-- What is found makes up the list. -/
theorem walk_sound {l : List α} {es : List (Entry α)} (h : walk n len l = some es) :
    (∀ e ∈ es, e.Sized n len) ∧ cells es = l := by
  fun_induction walk n len l generalizing es with
  | case1 =>
    obtain rfl := Option.some.inj h
    exact ⟨fun e he => absurd he List.not_mem_nil, rfl⟩
  | case2 b l hshort =>
    exact absurd h.symm (Option.some_ne_none es)
  | case3 b l hroom ih =>
    obtain ⟨tail, htail, rfl⟩ := Option.map_eq_some_iff.mp h
    obtain ⟨hsized, hcells⟩ := ih htail
    have hlen : n + len (b :: l.take n) ≤ l.length := Nat.le_of_not_lt hroom
    constructor
    · intro e he
      rcases List.mem_cons.mp he with rfl | he
      · refine ⟨?_, ?_⟩
        · rw [List.length_cons, List.length_take, Nat.min_eq_left (by omega)]
        · change ((l.drop n).take (len (b :: l.take n))).length = len (b :: l.take n)
          rw [List.length_take, List.length_drop, Nat.min_eq_left (by omega)]
      · exact hsized e he
    · rw [cells, List.flatMap_cons]
      rw [cells] at hcells
      rw [hcells, ← List.drop_drop, List.append_assoc, List.take_append_drop]
      change b :: l.take n ++ l.drop n = b :: l
      rw [List.cons_append, List.take_append_drop]

/-- The entries that are found. -/
theorem walk_iff {l : List α} {es : List (Entry α)} :
    walk n len l = some es ↔ (∀ e ∈ es, e.Sized n len) ∧ cells es = l := by
  constructor
  · exact walk_sound
  · rintro ⟨h, rfl⟩
    exact walk_cells h

/-- Different entries of a walk take no more cells than all of them. -/
theorem cells_length_le {es es' : List (Entry α)} (hnodup : es.Nodup) (hsub : es ⊆ es') :
    (cells es).length ≤ (cells es').length := by
  obtain ⟨l, hperm, hl⟩ := List.subperm_of_subset hnodup hsub
  rw [cells, cells, List.length_flatMap, List.length_flatMap]
  calc (es.map fun e => (e.header ++ e.body).length).sum
      = (l.map fun e => (e.header ++ e.body).length).sum := (hperm.map _).sum_eq.symm
    _ ≤ (es'.map fun e => (e.header ++ e.body).length).sum :=
        (hl.map _).sum_le_sum fun _ _ => Nat.zero_le _

end Mhvtl.Walk
