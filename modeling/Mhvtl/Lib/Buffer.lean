import Mathlib.Data.List.GetD
import Mathlib.Order.Lattice
import Mathlib.Tactic.Common

/-!
# Buffers that know how far they were stored to

A buffer is memory without an end, together with one past the last cell that was
stored to. What a caller lends may then be compared with how far a function went.
-/

namespace Mhvtl

variable {α : Type}

/-- Memory and how far it was stored to. -/
@[ext] structure Buffer (α : Type) where
  /-- The cells. -/
  mem : ℕ → α
  /-- One past the last cell that was stored to. -/
  extent : ℕ

namespace Buffer

/-- Memory that was not stored to yet. -/
def fresh (mem : ℕ → α) : Buffer α := ⟨mem, 0⟩

/-- Store some cells from an address on. -/
def store (b : Buffer α) (start : ℕ) (xs : List α) : Buffer α where
  mem j := if start ≤ j then xs.getD (j - start) (b.mem j) else b.mem j
  extent := if xs.length = 0 then b.extent else max b.extent (start + xs.length)

/-- The first cells. -/
def front (b : Buffer α) (n : ℕ) : List α := (List.range n).map b.mem

@[simp] theorem front_length (b : Buffer α) (n : ℕ) : (b.front n).length = n := by
  rw [front, List.length_map, List.length_range]

@[simp] theorem front_zero (b : Buffer α) : b.front 0 = [] := rfl

@[simp] theorem extent_fresh (mem : ℕ → α) : (fresh mem).extent = 0 := rfl

/-- Storing nothing changes nothing. -/
@[simp] theorem store_nil (b : Buffer α) (start : ℕ) : b.store start [] = b := by
  apply Buffer.ext
  · funext j
    change (if start ≤ j then List.getD [] (j - start) (b.mem j) else b.mem j) = b.mem j
    rw [List.getD_nil, ite_self]
  · rfl

/-- Each of the first cells. -/
theorem front_getElem? (b : Buffer α) {n j : ℕ} (h : j < n) : (b.front n)[j]? = some (b.mem j) := by
  rw [front, List.getElem?_map, List.getElem?_range h]
  rfl

/-- Fewer of the first cells. -/
theorem take_front (b : Buffer α) {k n : ℕ} (h : k ≤ n) : (b.front n).take k = b.front k := by
  rw [front, front, ← List.map_take, List.take_range, Nat.min_eq_left h]

/-- What is stored behind the first cells leaves them alone. -/
theorem front_store_of_le (b : Buffer α) {n start : ℕ} (h : n ≤ start) (xs : List α) :
    (b.store start xs).front n = b.front n := by
  apply List.map_congr_left
  intro j hj
  have hlt := List.mem_range.mp hj
  exact if_neg (by omega)

/-- What is stored right behind the first cells is read behind them. -/
theorem front_store_append (b : Buffer α) (n : ℕ) (xs : List α) :
    (b.store n xs).front (n + xs.length) = b.front n ++ xs := by
  apply List.ext_getElem?
  intro j
  by_cases hj : j < n + xs.length
  · rw [front_getElem? _ hj]
    by_cases hn : j < n
    · rw [List.getElem?_append_left (by simpa using hn), front_getElem? _ hn]
      exact congrArg some (if_neg (by omega))
    · rw [List.getElem?_append_right (by simpa using hn), front_length]
      have hlt : j - n < xs.length := by omega
      rw [List.getElem?_eq_getElem hlt]
      change some (if n ≤ j then xs.getD (j - n) (b.mem j) else b.mem j) = _
      rw [if_pos (by omega), List.getD_eq_getElem _ _ hlt]
  · rw [List.getElem?_eq_none (by simpa using Nat.le_of_not_lt hj),
      List.getElem?_eq_none (by simpa using Nat.le_of_not_lt hj)]

/-- What is stored at the start is read there, with the old cells behind it. -/
theorem front_store_start (b : Buffer α) {xs : List α} {n : ℕ} (h : xs.length ≤ n) :
    (b.store 0 xs).front n = xs ++ (b.front n).drop xs.length := by
  have hread := front_store_append b 0 xs
  rw [front_zero, List.nil_append, Nat.zero_add] at hread
  have hbehind : ((b.store 0 xs).front n).drop xs.length = (b.front n).drop xs.length := by
    apply List.ext_getElem?
    intro j
    rw [List.getElem?_drop, List.getElem?_drop]
    by_cases hj : xs.length + j < n
    · rw [front_getElem? _ hj, front_getElem? _ hj]
      change some (if 0 ≤ xs.length + j then xs.getD (xs.length + j - 0) (b.mem (xs.length + j))
        else b.mem (xs.length + j)) = _
      rw [if_pos (Nat.zero_le _), List.getD_eq_default _ _ (by omega)]
    · rw [List.getElem?_eq_none (by rw [front_length]; omega),
        List.getElem?_eq_none (by rw [front_length]; omega)]
  rw [← List.take_append_drop xs.length ((b.store 0 xs).front n), take_front _ h, hread, hbehind]

/-- Storing goes as far as it says, and no further. -/
theorem extent_store_le_iff (b : Buffer α) {start n : ℕ} {xs : List α} (hxs : 0 < xs.length) :
    (b.store start xs).extent ≤ n ↔ b.extent ≤ n ∧ start + xs.length ≤ n := by
  change (if xs.length = 0 then b.extent else max b.extent (start + xs.length)) ≤ n ↔ _
  rw [if_neg (by omega), Nat.max_le]

/-- Storing within some room. -/
theorem extent_store_le {b : Buffer α} {start n : ℕ} {xs : List α} (hb : b.extent ≤ n)
    (h : start + xs.length ≤ n) : (b.store start xs).extent ≤ n := by
  by_cases hxs : xs.length = 0
  · change (if xs.length = 0 then b.extent else max b.extent (start + xs.length)) ≤ n
    rwa [if_pos hxs]
  · exact (extent_store_le_iff b (by omega)).mpr ⟨hb, h⟩

/-- What was stored before stays stored. -/
theorem le_extent_store (b : Buffer α) (start : ℕ) (xs : List α) :
    b.extent ≤ (b.store start xs).extent := by
  change b.extent ≤ if xs.length = 0 then b.extent else max b.extent (start + xs.length)
  split
  · exact le_refl _
  · exact le_max_left _ _

/-- Storing goes as far as it says from a place within what was stored. -/
theorem end_le_extent_store (b : Buffer α) {start : ℕ} (h : start ≤ b.extent) (xs : List α) :
    start + xs.length ≤ (b.store start xs).extent := by
  change start + xs.length ≤ if xs.length = 0 then b.extent else max b.extent (start + xs.length)
  split
  · omega
  · exact le_max_right _ _

end Buffer

end Mhvtl
