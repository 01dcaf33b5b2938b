import Mathlib.Data.List.Basic
import Mathlib.Data.List.GetD
import Mathlib.Algebra.BigOperators.Group.List.Basic
import Mathlib.Logic.Function.Basic
import Mathlib.Tactic.Ring

/-!
# Partitioned tapes of sized records

A partition is a sequence of records, each taking some room, some of them
marks. The offset of a record is the room of those in front of it; the mark map
lists the indices of the marks. Both are followed through cutting a sequence
and appending to it. A tape is such a sequence per partition and one position.
-/

namespace Mhvtl

namespace Records

variable {R : Type}

/-- Room taken by the records in front of index `i`. -/
def offset (size : R → ℕ) (l : List R) (i : ℕ) : ℕ := ((l.take i).map size).sum

/-- Indices of the marks, in order. -/
def marks (isMark : R → Bool) (l : List R) : List ℕ := l.findIdxs isMark

section Offset

variable (size : R → ℕ)

@[simp] theorem offset_zero (l : List R) : offset size l 0 = 0 := rfl

/-- The offset of a record looks only at the records in front of it. -/
theorem offset_take (l : List R) {i n : ℕ} (h : i ≤ n) :
    offset size (l.take n) i = offset size l i := by
  rw [offset, offset, List.take_take, Nat.min_eq_left h]

/-- Appending moves no record that was there. -/
theorem offset_append (l m : List R) {i : ℕ} (h : i ≤ l.length) :
    offset size (l ++ m) i = offset size l i := by
  rw [offset, offset, List.take_append_of_le_length h]

/-- A record ends where the next one starts. -/
theorem offset_succ (l : List R) {i : ℕ} (h : i < l.length) :
    offset size l (i + 1) = offset size l i + size l[i] := by
  rw [offset, offset, List.take_add_one, List.getElem?_eq_getElem h]
  simp only [Option.toList_some, List.map_append, List.map_cons, List.map_nil, List.sum_append,
    List.sum_cons, List.sum_nil, Nat.add_zero]

/-- The end of an extended sequence. -/
theorem offset_concat (l : List R) (r : R) :
    offset size (l ++ [r]) (l.length + 1) = offset size l l.length + size r := by
  have hlt : l.length < (l ++ [r]).length := by simp only [List.length_append, List.length_singleton,
    Nat.lt_succ_self]
  rw [offset_succ size _ hlt, offset_append size l [r] le_rfl, List.getElem_concat_length rfl]

/-- Later records lie at later offsets. -/
theorem offset_mono (l : List R) {i j : ℕ} (h : i ≤ j) : offset size l i ≤ offset size l j := by
  have ht : l.take j = l.take i ++ (l.drop i).take (j - i) := by
    rw [← List.take_add, Nat.add_sub_cancel' h]
  rw [offset, offset, ht, List.map_append, List.sum_append]
  exact Nat.le_add_right _ _

/-- Records of bounded size take bounded room. -/
theorem offset_le (l : List R) {B : ℕ} (hB : ∀ r ∈ l, size r ≤ B) (i : ℕ) :
    offset size l i ≤ i * B := by
  induction i with
  | zero => simp only [offset_zero, Nat.zero_mul, le_refl]
  | succ i ih =>
    by_cases h : i < l.length
    · rw [offset_succ size l h, Nat.succ_mul]
      exact Nat.add_le_add ih (hB _ (List.getElem_mem h))
    · have hi : offset size l (i + 1) = offset size l i := by
        rw [offset, offset, List.take_of_length_le (by omega), List.take_of_length_le (by omega)]
      rw [hi, Nat.succ_mul]
      exact Nat.le_trans ih (Nat.le_add_right _ _)

end Offset

section Marks

variable (isMark : R → Bool)

@[simp] theorem marks_nil : marks isMark [] = [] := rfl

/-- A mark is the index of a record. -/
theorem marks_lt {l : List R} {i : ℕ} (h : i ∈ marks isMark l) : i < l.length := by
  have hl := List.lt_add_of_mem_findIdxs i h
  rwa [Nat.add_zero] at hl

/-- No more marks than records. -/
theorem marks_length_le (l : List R) : (marks isMark l).length ≤ l.length := by
  rw [marks, List.length_findIdxs]
  exact List.countP_le_length

/-- Appending a record adds its index to the map when it is a mark. -/
theorem marks_concat (l : List R) (r : R) :
    marks isMark (l ++ [r]) = marks isMark l ++ if isMark r then [l.length] else [] := by
  rw [marks, marks, List.findIdxs_append, List.findIdxs_singleton, Nat.zero_add]

/-- The marks split at any cut; those behind it have indices from the cut on. -/
theorem marks_split (l : List R) (n : ℕ) :
    ∃ m, marks isMark l = marks isMark (l.take n) ++ m ∧ ∀ i ∈ m, n ≤ i := by
  refine ⟨(l.drop n).findIdxs isMark (0 + (l.take n).length), ?_, ?_⟩
  · rw [marks, marks, ← List.findIdxs_append, List.take_append_drop]
  · intro i hi
    have hge := List.ge_of_mem_findIdxs i hi
    have hne : (l.drop n).findIdxs isMark (0 + (l.take n).length) ≠ [] := List.ne_nil_of_mem hi
    by_cases hn : n ≤ l.length
    · rw [Nat.zero_add, List.length_take, Nat.min_eq_left hn] at hge
      exact hge
    · rw [List.drop_eq_nil_of_le (by omega)] at hne
      exact absurd rfl hne

/-- Cutting the sequence keeps the marks in front of the first one past the cut. -/
theorem marks_take (l : List R) (n : ℕ) :
    marks isMark (l.take n) = (marks isMark l).take ((marks isMark l).findIdx (n ≤ ·)) := by
  obtain ⟨m, hm, hge⟩ := marks_split isMark l n
  have hlt : ∀ i ∈ marks isMark (l.take n), ¬n ≤ i := by
    intro i hi
    have h := marks_lt isMark hi
    rw [List.length_take] at h
    omega
  have hnone : (marks isMark (l.take n)).findIdx (n ≤ ·) = (marks isMark (l.take n)).length := by
    rw [List.findIdx_eq_length]
    intro i hi
    exact decide_eq_false (hlt i hi)
  have hfirst : m.findIdx (n ≤ ·) = 0 := by
    cases m with
    | nil => rfl
    | cons i m =>
      have hi : n ≤ i := hge i List.mem_cons_self
      rw [List.findIdx_cons, decide_eq_true hi]
      rfl
  have hidx : (marks isMark l).findIdx (n ≤ ·) = (marks isMark (l.take n)).length := by
    rw [hm, List.findIdx_append, hnone, if_neg (lt_irrefl _), hfirst, Nat.zero_add]
  rw [hidx, hm, List.take_left']
  rfl

/-- When no mark lies past the cut, cutting keeps the whole map. -/
theorem marks_take_of_none (l : List R) {n : ℕ} (h : ∀ i ∈ marks isMark l, i < n) :
    marks isMark (l.take n) = marks isMark l := by
  have hidx : (marks isMark l).findIdx (n ≤ ·) = (marks isMark l).length := by
    rw [List.findIdx_eq_length]
    intro i hi
    exact decide_eq_false (by have := h i hi; omega)
  rw [marks_take, hidx, List.take_length]

end Marks

end Records

/-- Record sequences per partition with one position, which is never past the end. -/
structure Tape (P R : Type) where
  /-- Records of each partition. -/
  recs : P → List R
  /-- Partition under the head. -/
  part : P
  /-- Index of the next record, at most the number of records. -/
  pos : ℕ
  /-- The position lies on the partition. -/
  pos_le : pos ≤ (recs part).length

namespace Tape

variable {P R : Type} [DecidableEq P]

/-- Records of the partition under the head. -/
def here (t : Tape P R) : List R := t.recs t.part

/-- Overwrite from the position on: what lies behind is gone. -/
def write (t : Tape P R) (rs : List R) : Tape P R where
  recs := Function.update t.recs t.part (t.here.take t.pos ++ rs)
  part := t.part
  pos := t.pos + rs.length
  pos_le := by
    have h := t.pos_le
    simp only [Function.update_self, List.length_append, List.length_take, here]
    omega

/-- Move to index `i`, or to the end when there are fewer records. -/
def seek (t : Tape P R) (i : ℕ) : Tape P R where
  recs := t.recs
  part := t.part
  pos := min i t.here.length
  pos_le := Nat.min_le_right _ _

/-- Move to the start of partition `p`. -/
def switch (t : Tape P R) (p : P) : Tape P R := ⟨t.recs, p, 0, Nat.zero_le _⟩

@[simp] theorem write_here (t : Tape P R) (rs : List R) :
    (t.write rs).here = t.here.take t.pos ++ rs := Function.update_self ..

@[simp] theorem write_part (t : Tape P R) (rs : List R) : (t.write rs).part = t.part := rfl

@[simp] theorem write_pos (t : Tape P R) (rs : List R) : (t.write rs).pos = t.pos + rs.length := rfl

/-- Writing leaves the other partitions alone. -/
theorem write_recs_other (t : Tape P R) (rs : List R) {p : P} (h : p ≠ t.part) :
    (t.write rs).recs p = t.recs p := Function.update_of_ne h ..

end Tape

end Mhvtl
