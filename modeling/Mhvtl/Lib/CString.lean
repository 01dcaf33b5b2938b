import Mathlib.Data.List.TakeWhile

/-!
# C strings

A string is the list of its characters in front of the terminator. Comparing at
most `n` characters of two such strings compares their prefixes.
-/

namespace Mhvtl

/-- The characters of a C string, the terminator left out. -/
abbrev Text : Type := List Char

namespace Text

/-- `strncmp(s, t, n) == 0`. -/
def strncmp (s t : Text) (n : ℕ) : Bool := s.take n == t.take n

/-- `"%-ns"`, blanks after the text. -/
def leftJust (n : ℕ) (t : Text) : Text := t ++ List.replicate (n - t.length) ' '

/-- The text in front of its first blank. -/
def truncate_spaces (t : Text) : Text := t.takeWhile (· ≠ ' ')

/-- White space of the C locale. -/
def isspace (c : Char) : Bool := c == ' ' || (9 ≤ c.toNat && c.toNat ≤ 13)

/-- No white space inside: a word, then blanks only. -/
def Plain (t : Text) : Prop := ∃ w n, t = w ++ List.replicate n ' ' ∧ ∀ c ∈ w, isspace c = false

/-- It does not matter which text comes first. -/
theorem strncmp_comm (s t : Text) (n : ℕ) : s.strncmp t n = t.strncmp s n := BEq.comm

/-- Comparing as many characters as the literal has asks for a prefix. -/
theorem strncmp_iff_prefix {s t : Text} : s.strncmp t t.length = true ↔ t <+: s := by
  simp only [strncmp, List.take_length, beq_iff_eq]
  constructor
  · intro h
    exact h ▸ List.take_prefix _ _
  · rintro ⟨r, rfl⟩
    simp

/-- Justified texts have the width asked for. -/
theorem length_leftJust {n : ℕ} {t : Text} (h : t.length ≤ n) : (leftJust n t).length = n := by
  simp only [leftJust, List.length_append, List.length_replicate]
  omega

/-- A text that fills its width is left alone. -/
theorem leftJust_full {n : ℕ} {t : Text} (h : n ≤ t.length) : leftJust n t = t := by
  have hzero : n - t.length = 0 := by omega
  simp [leftJust, hzero]

/-- A blank is white space. -/
theorem isspace_blank : isspace ' ' = true := by decide

/-- What is in front of the blanks of a plain text is a word. -/
theorem Plain.isspace_truncate {t : Text} (h : t.Plain) :
    ∀ c ∈ t.truncate_spaces, isspace c = false := by
  obtain ⟨w, n, rfl, hw⟩ := h
  intro c hc
  have hmem : c ∈ w ++ List.replicate n ' ' := (List.takeWhile_sublist _).subset hc
  have hne : c ≠ ' ' := by simpa using List.mem_takeWhile_imp hc
  rcases List.mem_append.mp hmem with hin | hin
  · exact hw c hin
  · exact absurd (List.eq_of_mem_replicate hin) hne

/-- A plain text is its word and blanks. -/
theorem Plain.eq_truncate {t : Text} (h : t.Plain) :
    ∃ n, t = t.truncate_spaces ++ List.replicate n ' ' := by
  obtain ⟨w, n, rfl, hw⟩ := h
  have hword : ∀ c ∈ w, (decide (c ≠ ' ')) = true := by
    intro c hc
    have hspace := hw c hc
    by_cases heq : c = ' '
    · rw [heq, isspace_blank] at hspace
      exact absurd hspace (by decide)
    · simpa using heq
  have hblanks : (List.replicate n ' ').takeWhile (fun c => decide (c ≠ ' ')) = [] := by
    cases n with
    | zero => rfl
    | succ n => simp [List.replicate_succ]
  refine ⟨n, ?_⟩
  rw [truncate_spaces, List.takeWhile_append_of_pos hword, hblanks, List.append_nil]

end Text

end Mhvtl
