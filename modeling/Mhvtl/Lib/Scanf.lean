import Mathlib.Data.List.DropRight
import Mhvtl.Lib.CString

/-!
# Formatted input

The conversions of `sscanf`: literal characters, blanks, a decimal number and a word. A
conversion takes characters off the front, or finds other characters, or finds that there
are no more. What a number or a word was printed as is scanned as that number or word.
-/

namespace Mhvtl.Scanf

/-- Result of a conversion. -/
inductive Scanned (α : Type) where
  /-- A value, and the characters behind it. -/
  | ok (a : α) (rest : Text)
  /-- Other characters. -/
  | mismatch
  /-- No more characters. -/
  | eof
deriving DecidableEq

/-- Literal characters. -/
def literal : Text → Text → Scanned Unit
  | [], t => .ok () t
  | _ :: _, [] => .eof
  | c :: w, d :: t => if c = d then literal w t else .mismatch

/-- Any number of blanks. -/
def skipSpace (t : Text) : Text := t.dropWhile Text.isspace

/-- Decimal digits, one at least. -/
def digits (t : Text) : Scanned ℕ :=
  if t.takeWhile Char.isDigit = [] then .mismatch
  else .ok (Nat.ofDigitChars 10 (t.takeWhile Char.isDigit) 0) (t.dropWhile Char.isDigit)

/-- Apply a function to the value. -/
def Scanned.map {α β : Type} (f : α → β) : Scanned α → Scanned β
  | .ok a rest => .ok (f a) rest
  | .mismatch => .mismatch
  | .eof => .eof

/-- Go on behind a conversion that was made. -/
def Scanned.andThen {α β : Type} (f : α → Text → Option β) : Scanned α → Option β
  | .ok a rest => f a rest
  | _ => none

/-- A number, `%d`, behind any number of blanks. -/
def number (t : Text) : Scanned ℤ :=
  match skipSpace t with
  | [] => .eof
  | '-' :: t => (digits t).map fun n : ℕ => -(n : ℤ)
  | '+' :: t => (digits t).map fun n : ℕ => (n : ℤ)
  | c :: t => (digits (c :: t)).map fun n : ℕ => (n : ℤ)

/-- A word, `%s`, behind any number of blanks. -/
def word (t : Text) : Scanned Text :=
  if skipSpace t = [] then .eof
  else .ok ((skipSpace t).takeWhile fun c => !Text.isspace c)
    ((skipSpace t).dropWhile fun c => !Text.isspace c)

section Printed

variable {t : Text}

/-- Literal characters that are there. -/
theorem literal_append (w t : Text) : literal w (w ++ t) = .ok () t := by
  induction w with
  | nil => rfl
  | cons c w ih => rw [List.cons_append, literal, if_pos rfl, ih]

/-- Characters that are no blanks stay. -/
theorem skipSpace_cons {c : Char} (h : Text.isspace c = false) (t : Text) :
    skipSpace (c :: t) = c :: t := by
  rw [skipSpace, List.dropWhile_cons_of_neg (by simp [h])]

/-- A blank goes. -/
theorem skipSpace_blank {c : Char} (h : Text.isspace c = true) (t : Text) :
    skipSpace (c :: t) = skipSpace t := by
  rw [skipSpace, skipSpace, List.dropWhile_cons_of_pos h]

/-- Skipping blanks twice. -/
theorem skipSpace_skipSpace (t : Text) : skipSpace (skipSpace t) = skipSpace t :=
  List.dropWhile_idempotent _ _

/-- A number skips blanks itself. -/
theorem number_skipSpace (t : Text) : number (skipSpace t) = number t := by
  simp only [number, skipSpace_skipSpace]

/-- A word skips blanks itself. -/
theorem word_skipSpace (t : Text) : word (skipSpace t) = word t := by
  simp only [word, skipSpace_skipSpace]

/-- Nothing but blanks. -/
theorem skipSpace_all (h : ∀ c ∈ t, Text.isspace c = true) : skipSpace t = [] :=
  List.dropWhile_eq_nil_iff.mpr h

/-- A digit is no blank. -/
theorem isspace_of_isDigit {c : Char} (h : c.isDigit = true) : Text.isspace c = false := by
  simp only [Char.isDigit, Bool.and_eq_true, decide_eq_true_eq] at h
  have hlow : 48 ≤ c.toNat := h.1
  have hne : c ≠ ' ' := by
    rintro rfl
    exact absurd hlow (by decide)
  simp only [Text.isspace, Bool.or_eq_false_iff, Bool.and_eq_false_iff, beq_eq_false_iff_ne,
    decide_eq_false_iff_not]
  exact ⟨hne, Or.inr (by omega)⟩

/-- Digits up to a character that is none. -/
theorem digits_append {ds : Text} (hds : ∀ c ∈ ds, c.isDigit = true) (hne : ds ≠ [])
    (ht : ∀ c, t.head? = some c → c.isDigit = false) :
    digits (ds ++ t) = .ok (Nat.ofDigitChars 10 ds 0) t := by
  have htail : t.takeWhile Char.isDigit = [] ∧ t.dropWhile Char.isDigit = t := by
    cases t with
    | nil => exact ⟨rfl, rfl⟩
    | cons c t =>
      have hc := ht c rfl
      exact ⟨List.takeWhile_cons_of_neg (by simp [hc]), List.dropWhile_cons_of_neg (by simp [hc])⟩
  rw [digits, List.takeWhile_append_of_pos hds, List.dropWhile_append_of_pos hds, htail.1, htail.2,
    List.append_nil, if_neg hne]

/-- A printed number is scanned as the number. -/
theorem number_repr (n : ℕ) (ht : ∀ c, t.head? = some c → c.isDigit = false) :
    number ((Nat.repr n).toList ++ t) = .ok (n : ℤ) t := by
  have hdigit : ∀ c ∈ Nat.toDigits 10 n, c.isDigit = true := fun c hc =>
    Nat.isDigit_of_mem_toDigits (by decide) (by decide) hc
  have hrun := digits_append hdigit Nat.toDigits_ne_nil ht
  rw [Nat.ofDigitChars_ten_toDigits] at hrun
  rw [Nat.toList_repr]
  cases hds : Nat.toDigits 10 n with
  | nil => exact absurd hds Nat.toDigits_ne_nil
  | cons c ds =>
    have hc := hdigit c (hds ▸ List.mem_cons_self ..)
    rw [hds, List.cons_append] at hrun
    have hminus : c ≠ '-' := by
      rintro rfl
      exact absurd hc (by decide)
    have hplus : c ≠ '+' := by
      rintro rfl
      exact absurd hc (by decide)
    rw [List.cons_append, number, skipSpace_cons (isspace_of_isDigit hc)]
    split
    · next heq => cases heq
    · next heq => exact absurd (List.cons.inj heq).1 hminus
    · next heq => exact absurd (List.cons.inj heq).1 hplus
    · next heq =>
      rw [← heq, hrun]
      rfl

/-- A word is scanned as that word. -/
theorem word_append {w : Text} (hw : ∀ c ∈ w, Text.isspace c = false) (hne : w ≠ [])
    (ht : ∀ c ∈ t, Text.isspace c = true) : word (w ++ t) = .ok w t := by
  have hskip : skipSpace (w ++ t) = w ++ t := by
    cases w with
    | nil => exact absurd rfl hne
    | cons c w => exact skipSpace_cons (hw c (List.mem_cons_self ..)) (w ++ t)
  have hfront : ∀ c ∈ w, (!Text.isspace c) = true := fun c hc => by rw [hw c hc]; rfl
  have htail : t.takeWhile (fun c => !Text.isspace c) = [] ∧
      t.dropWhile (fun c => !Text.isspace c) = t := by
    cases t with
    | nil => exact ⟨rfl, rfl⟩
    | cons c t =>
      have hc := ht c (List.mem_cons_self ..)
      exact ⟨List.takeWhile_cons_of_neg (by simp [hc]), List.dropWhile_cons_of_neg (by simp [hc])⟩
  rw [word, hskip, if_neg (by simp [hne]), List.takeWhile_append_of_pos hfront,
    List.dropWhile_append_of_pos hfront, htail.1, htail.2, List.append_nil]

/-- There is no word in blanks. -/
theorem word_blank (h : ∀ c ∈ t, Text.isspace c = true) : word t = .eof :=
  if_pos (skipSpace_all h)

end Printed

end Mhvtl.Scanf
