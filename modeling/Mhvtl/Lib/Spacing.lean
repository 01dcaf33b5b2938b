import Mhvtl.Lib.TapeRecords

/-!
# Spacing over records and marks

A head spaces over records one by one, until it has passed as many as it was asked
to, has met a mark, or has come to an end of the sequence. Or it looks for marks and
comes to rest beside the last one it was asked for.
-/

namespace Mhvtl.Records

variable {R : Type}

/-- Why a head that spaces comes to rest. -/
inductive Halt where
  /-- Everything was passed. -/
  | arrived
  /-- A mark was met. -/
  | mark
  /-- There are no more records. -/
  | endOfData
  /-- There are none in front. -/
  | beginning
deriving DecidableEq

/-- Where a head that spaces comes to rest, and how many it did not pass. -/
structure Rest where
  /-- Index of the next record. -/
  pos : ℕ
  /-- Why it stopped. -/
  halt : Halt
  /-- How many of those asked for were not passed. -/
  missing : ℕ
deriving DecidableEq

section Records

variable (isMark : R → Bool) (l : List R)

/-- Space over `n` records from index `i` on. A mark that is met is left behind. -/
def passForward : ℕ → ℕ → Rest
  | i, 0 => ⟨i, .arrived, 0⟩
  | i, n + 1 =>
    match l[i]? with
    | none => ⟨i, .endOfData, n + 1⟩
    | some r => if isMark r then ⟨i + 1, .mark, n + 1⟩ else passForward (i + 1) n

/-- Space back over `n` records in front of index `i`. A mark that is met is next. -/
def passBackward : ℕ → ℕ → Rest
  | i, 0 => ⟨i, .arrived, 0⟩
  | 0, n + 1 => ⟨0, .beginning, n + 1⟩
  | i + 1, n + 1 =>
    if (l[i]?).any isMark then ⟨i, .mark, n + 1⟩ else passBackward i n

/-- Come to rest behind the `n`-th mark from index `i` on. -/
def skipForward (i n : ℕ) : Rest :=
  let ahead := (marks isMark l).filter (i ≤ ·)
  if n ≤ ahead.length then ⟨ahead.getD (n - 1) 0 + 1, .arrived, 0⟩
  else ⟨l.length, .endOfData, n - ahead.length⟩

/-- Come to rest in front of the `n`-th mark counted back from index `i`. -/
def skipBackward (i n : ℕ) : Rest :=
  let behind := (marks isMark l).filter (· < i)
  if n ≤ behind.length then ⟨behind.getD (behind.length - n) 0, .arrived, 0⟩
  else ⟨0, .beginning, n - behind.length⟩

end Records

section Passing

variable {isMark : R → Bool} {l : List R} {i n f : ℕ}

/-- Marks go up. -/
theorem marks_sorted : (marks isMark l).Pairwise (· < ·) := List.pairwise_findIdxs

end Passing

section Sorted

variable {m : List ℕ} {i : ℕ}

/-- In a list that goes up, what is at least some number is behind what is below it. -/
theorem filter_le_of_sorted (hm : m.Pairwise (· < ·)) :
    m.filter (i ≤ ·) = m.drop (m.findIdx (i ≤ ·)) ∧
      m.filter (· < i) = m.take (m.findIdx (i ≤ ·)) := by
  induction m with
  | nil => exact ⟨rfl, rfl⟩
  | cons a m ih =>
    obtain ⟨ha, hm⟩ := List.pairwise_cons.mp hm
    by_cases hle : i ≤ a
    · have hall : ∀ b ∈ a :: m, i ≤ b := by
        intro b hb
        rcases List.mem_cons.mp hb with rfl | hb
        · exact hle
        · exact hle.trans (ha b hb).le
      have hzero : (a :: m).findIdx (i ≤ ·) = 0 := by simp [List.findIdx_cons, hle]
      rw [hzero, List.drop_zero, List.take_zero]
      constructor
      · exact List.filter_eq_self.mpr fun b hb => decide_eq_true (hall b hb)
      · exact List.filter_eq_nil_iff.mpr fun b hb => by simpa using hall b hb
    · have hlt : a < i := by omega
      have hsucc : (a :: m).findIdx (i ≤ ·) = m.findIdx (i ≤ ·) + 1 := by
        simp [List.findIdx_cons, hle]
      rw [hsucc, List.drop_succ_cons, List.take_succ_cons, ← (ih hm).1, ← (ih hm).2]
      simp [hle, hlt]

/-- What lies in front of the first entry that is at least some number is below it. -/
theorem getElem_lt_of_lt_findIdx {k : ℕ} (hk : k < m.findIdx (i ≤ ·)) (hlt : k < m.length) :
    m[k] < i := by
  have h := List.not_of_lt_findIdx hk
  simpa using h

/-- What lies behind it is at least that number, too. -/
theorem le_getElem_of_findIdx_le (hm : m.Pairwise (· < ·)) {k : ℕ} (hk : m.findIdx (i ≤ ·) ≤ k)
    (hlt : k < m.length) : i ≤ m[k] := by
  have hbound : m.findIdx (i ≤ ·) < m.length := hk.trans_lt hlt
  have hfirst : i ≤ m[m.findIdx (i ≤ ·)] := by
    simpa using List.findIdx_getElem (w := hbound)
  rcases Nat.lt_or_eq_of_le hk with hk | rfl
  · exact hfirst.trans (List.pairwise_iff_getElem.mp hm _ _ (hk.trans hlt) hlt hk).le
  · exact hfirst

end Sorted

section Skipping

variable (isMark : R → Bool) (l : List R) (i : ℕ) {n : ℕ}

/-- The marks in front of an index and those behind it. -/
theorem findIdx_marks :
    (marks isMark l).findIdx (i ≤ ·) = ((marks isMark l).filter (· < i)).length ∧
      (marks isMark l).findIdx (i ≤ ·) + ((marks isMark l).filter (i ≤ ·)).length =
        (marks isMark l).length := by
  have hle : (marks isMark l).findIdx (i ≤ ·) ≤ (marks isMark l).length := List.findIdx_le_length
  have hsorted : (marks isMark l).Pairwise (· < ·) := marks_sorted
  obtain ⟨hdrop, htake⟩ := @filter_le_of_sorted _ i hsorted
  rw [hdrop, htake, List.length_drop, List.length_take]
  omega

/-- Marks ahead, counted from the first one of the map that is not in front of the index. -/
theorem skipForward_eq (hn : 0 < n) :
    skipForward isMark l i n =
      if (marks isMark l).findIdx (i ≤ ·) + n ≤ (marks isMark l).length
      then ⟨(marks isMark l).getD ((marks isMark l).findIdx (i ≤ ·) + n - 1) 0 + 1, .arrived, 0⟩
      else ⟨l.length, .endOfData,
        (marks isMark l).findIdx (i ≤ ·) + n - (marks isMark l).length⟩ := by
  have hsorted : (marks isMark l).Pairwise (· < ·) := marks_sorted
  obtain ⟨-, hlen⟩ := findIdx_marks isMark l i
  have hdrop := (@filter_le_of_sorted _ i hsorted).1
  have hget : ((marks isMark l).filter (i ≤ ·)).getD (n - 1) 0 =
      (marks isMark l).getD ((marks isMark l).findIdx (i ≤ ·) + n - 1) 0 := by
    rw [hdrop, List.getD_eq_getElem?_getD, List.getD_eq_getElem?_getD, List.getElem?_drop,
      Nat.add_sub_assoc hn]
  rw [skipForward]
  rw [hget]
  by_cases h : n ≤ ((marks isMark l).filter (i ≤ ·)).length
  · rw [if_pos h, if_pos (by omega)]
  · rw [if_neg h, if_neg (by omega)]
    congr 1
    omega

end Skipping

end Mhvtl.Records
