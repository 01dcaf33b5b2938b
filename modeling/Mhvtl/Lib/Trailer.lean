import Mathlib.Data.List.Basic

/-!
# Blocks followed by a check word

A check word of fixed width is computed from a block and sent behind it. The
receiver splits what it got at the width and computes the word again.
-/

namespace Mhvtl

/-- A check word of `width` bytes for every block. -/
structure CheckWord where
  /-- Bytes of the check word. -/
  width : ℕ
  /-- The word of a block. -/
  word : List UInt8 → List UInt8
  /-- Every word is as wide as said. -/
  word_length : ∀ bs, (word bs).length = width

namespace CheckWord

variable (g : CheckWord)

/-- The block with its word behind it. -/
def append (bs : List UInt8) : List UInt8 := bs ++ g.word bs

/-- The receiver's test: the bytes behind the block are the block's word. -/
def Matches (bs tail : List UInt8) : Prop := tail = g.word bs

@[simp] theorem append_length (bs : List UInt8) : (g.append bs).length = bs.length + g.width := by
  rw [append, List.length_append, g.word_length]

/-- Whoever passes the test sent an appended word. -/
theorem eq_append_of_matches {bs tail : List UInt8} (h : g.Matches bs tail) :
    bs ++ tail = g.append bs := by
  rw [append, h]

end CheckWord

end Mhvtl
