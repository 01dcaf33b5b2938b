import Mathlib.Data.List.Basic
import Mathlib.Data.List.GetD
import Mathlib.Data.Nat.Basic

/-!
# Byte files

A file is a size and a byte at every offset. Positional writes extend it,
truncation cuts it or extends it by zeros, and a positional read returns the
bytes that exist. The library states which reads a write or a truncation
leaves alone.
-/

namespace Mhvtl

/-- A byte file. Offsets past the end read as zero once the file grows over them. -/
structure File where
  /-- Length in bytes. -/
  size : ℕ
  /-- Content by offset. -/
  byte : ℕ → UInt8
  /-- Nothing is stored past the end. -/
  hole : ∀ i, size ≤ i → byte i = 0

namespace File

/-- The file of no bytes. -/
def empty : File := ⟨0, fun _ => 0, fun _ _ => rfl⟩

/-- The file holding exactly the bytes of a list. -/
def ofList (bs : List UInt8) : File :=
  ⟨bs.length, fun i => bs.getD i 0, fun i h => by
    rw [List.getD_eq_getElem?_getD, List.getElem?_eq_none h, Option.getD_none]⟩

/-- Positional read: at most `n` bytes, fewer at the end of the file. -/
def pread (f : File) (off n : ℕ) : List UInt8 :=
  (List.range (min n (f.size - off))).map fun k => f.byte (off + k)

/-- Positional write of all of `bs`. Writing nothing does not extend the file. -/
def pwrite (f : File) (off : ℕ) (bs : List UInt8) : File where
  size := if bs = [] then f.size else max f.size (off + bs.length)
  byte i := if off ≤ i ∧ i < off + bs.length then bs.getD (i - off) 0 else f.byte i
  hole i h := by
    have hi : ¬(off ≤ i ∧ i < off + bs.length) ∧ f.size ≤ i := by
      by_cases hb : bs = []
      · subst hb
        simp only [if_pos, List.length_nil] at h ⊢
        omega
      · rw [if_neg hb] at h
        omega
    rw [if_neg hi.1]
    exact f.hole i hi.2

/-- Cut the file to `len` bytes, or extend it to `len` bytes by zeros. -/
def ftruncate (f : File) (len : ℕ) : File where
  size := len
  byte i := if i < len then f.byte i else 0
  hole i h := if_neg (by omega)

@[simp] theorem ftruncate_size (f : File) (len : ℕ) : (f.ftruncate len).size = len := rfl

theorem pwrite_size {f : File} {off : ℕ} {bs : List UInt8} (h : 0 < bs.length) :
    (f.pwrite off bs).size = max f.size (off + bs.length) := by
  have hb : bs ≠ [] := List.ne_nil_of_length_pos h
  simp only [pwrite, if_neg hb]

@[simp] theorem pwrite_nil (f : File) (off : ℕ) : (f.pwrite off []).size = f.size := rfl

theorem pread_length (f : File) (off n : ℕ) : (f.pread off n).length = min n (f.size - off) := by
  simp only [pread, List.length_map, List.length_range]

/-- A file is its size and its bytes. -/
theorem eq_of_bytes {f g : File} (hsize : f.size = g.size) (h : ∀ i < f.size, f.byte i = g.byte i) :
    f = g := by
  obtain ⟨size, byte, hole⟩ := f
  obtain ⟨size', byte', hole'⟩ := g
  obtain rfl : size = size' := hsize
  have hbytes : byte = byte' := by
    funext i
    by_cases hi : i < size
    · exact h i hi
    · rw [hole i (Nat.le_of_not_lt hi), hole' i (Nat.le_of_not_lt hi)]
  subst hbytes
  rfl

/-- The file holds the bytes `bs` from offset `off` on. -/
def Stores (f : File) (off : ℕ) (bs : List UInt8) : Prop := f.pread off bs.length = bs

/-- Byte by byte: every byte exists and is the one wanted. -/
theorem stores_iff {f : File} {off : ℕ} {bs : List UInt8} :
    f.Stores off bs ↔ ∀ i (h : i < bs.length), off + i < f.size ∧ f.byte (off + i) = bs[i] := by
  constructor
  · intro hs i hi
    have hlen := congrArg List.length hs
    rw [pread_length] at hlen
    have hget : (f.pread off bs.length)[i]? = bs[i]? := by rw [hs]
    rw [List.getElem?_eq_getElem hi, pread, List.getElem?_map, List.getElem?_range (by omega)] at hget
    exact ⟨by omega, Option.some.inj hget⟩
  · intro h
    have hlen : (f.pread off bs.length).length = bs.length := by
      rw [pread_length]
      rcases Nat.eq_zero_or_pos bs.length with h0 | hpos
      · omega
      · have hlast := (h (bs.length - 1) (by omega)).1
        omega
    apply List.ext_getElem hlen
    intro i _ hi
    simp only [pread, List.getElem_map, List.getElem_range, (h i hi).2]

/-- Stored bytes are read back by a read of that length. -/
theorem Stores.pread_eq {f : File} {off n : ℕ} {bs : List UInt8} (h : f.Stores off bs)
    (hn : bs.length = n) : f.pread off n = bs := by
  subst hn
  exact h

/-- A shorter read returns the front of the stored bytes. -/
theorem Stores.pread_take {f : File} {off : ℕ} {bs : List UInt8} (h : f.Stores off bs) (n : ℕ) :
    f.pread off (min bs.length n) = bs.take n := by
  have hst := stores_iff.mp h
  apply Stores.pread_eq _ (by rw [List.length_take, Nat.min_comm])
  rw [stores_iff]
  intro i hi
  rw [List.length_take] at hi
  rw [List.getElem_take]
  exact hst i (by omega)

/-- Nothing is stored everywhere. -/
@[simp] theorem stores_nil (f : File) (off : ℕ) : f.Stores off [] := by
  simp only [Stores, List.length_nil, pread, Nat.zero_min, List.range_zero, List.map_nil]

/-- Bytes just written are stored. -/
theorem stores_pwrite_same (f : File) (off : ℕ) (bs : List UInt8) :
    (f.pwrite off bs).Stores off bs := by
  rw [stores_iff]
  intro i hi
  have hsz : (f.pwrite off bs).size = max f.size (off + bs.length) := pwrite_size (by omega)
  have hr : off ≤ off + i ∧ off + i < off + bs.length := by omega
  refine ⟨by omega, ?_⟩
  simp only [pwrite, if_pos hr, Nat.add_sub_cancel_left]
  exact List.getD_eq_getElem _ _ hi

/-- A file made from a list stores the list. -/
theorem stores_ofList (bs : List UInt8) : (ofList bs).Stores 0 bs := by
  rw [stores_iff]
  intro i hi
  refine ⟨by rw [Nat.zero_add]; exact hi, ?_⟩
  rw [Nat.zero_add]
  exact List.getD_eq_getElem _ _ hi

/-- What is read in full is stored. -/
theorem stores_pread {f : File} {off n : ℕ} (h : off + n ≤ f.size) : f.Stores off (f.pread off n) := by
  have hlen : (f.pread off n).length = n := by
    rw [pread_length]
    omega
  rw [Stores, hlen]

/-- Bytes that are stored are written over themselves. -/
theorem Stores.pwrite_self {f : File} {off : ℕ} {bs : List UInt8} (h : f.Stores off bs) :
    f.pwrite off bs = f := by
  have hst := stores_iff.mp h
  refine eq_of_bytes ?_ fun i _ => ?_
  · rcases Nat.eq_zero_or_pos bs.length with h0 | hpos
    · rw [List.eq_nil_of_length_eq_zero h0, pwrite_nil]
    · have hlast := (hst (bs.length - 1) (by omega)).1
      rw [pwrite_size hpos]
      omega
  · by_cases hi : off ≤ i ∧ i < off + bs.length
    · have hbyte := (hst (i - off) (by omega)).2
      rw [Nat.add_sub_cancel' hi.1] at hbyte
      simp only [pwrite, if_pos hi]
      rw [hbyte]
      exact List.getD_eq_getElem _ _ (by omega)
    · simp only [pwrite, if_neg hi]

/-- A write does not make the file shorter. -/
theorem size_le_pwrite (f : File) (off : ℕ) (bs : List UInt8) : f.size ≤ (f.pwrite off bs).size := by
  rcases Nat.eq_zero_or_pos bs.length with h0 | hpos
  · rw [List.eq_nil_of_length_eq_zero h0, pwrite_nil]
  · rw [pwrite_size hpos]
    omega

/-- A write leaves bytes stored in front of it alone. -/
theorem Stores.pwrite_before {f : File} {o off : ℕ} {as bs : List UInt8} (h : f.Stores o as)
    (ho : o + as.length ≤ off) : (f.pwrite off bs).Stores o as := by
  have hst := stores_iff.mp h
  have hsz := size_le_pwrite f off bs
  rw [stores_iff]
  intro i hi
  obtain ⟨hlt, hb⟩ := hst i hi
  refine ⟨by omega, ?_⟩
  rw [← hb]
  exact if_neg (by omega)

/-- Truncation leaves bytes stored in front of the cut alone. -/
theorem Stores.ftruncate {f : File} {o len : ℕ} {bs : List UInt8} (h : f.Stores o bs)
    (hl : o + bs.length ≤ len) : (f.ftruncate len).Stores o bs := by
  have hst := stores_iff.mp h
  rw [stores_iff]
  intro i hi
  refine ⟨by rw [ftruncate_size]; omega, ?_⟩
  rw [← (hst i hi).2]
  exact if_pos (by omega)

end File

end Mhvtl
