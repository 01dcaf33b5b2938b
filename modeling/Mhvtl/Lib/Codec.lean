import Mhvtl.Lib.Bytes

/-!
# Fixed-width codecs

A codec lays a value out in a fixed number of bytes and reads it back from the
front of any byte string. Products and changes of representation inherit the
round trip, so a packed record is described once, by its field layout.
-/

namespace Mhvtl

open Bytes

/-- A packed layout together with the law that a value that fits is recovered. -/
structure Codec (α : Type) where
  /-- Bytes taken by every value. -/
  width : ℕ
  /-- The bytes in file order. -/
  enc : α → List UInt8
  /-- Reads the value at the front; total, as a C structure overlay is. -/
  dec : List UInt8 → α
  /-- Values that the field widths can hold. -/
  Fits : α → Prop
  /-- An encoding takes exactly the width. -/
  enc_length : ∀ a, (enc a).length = width
  /-- A value that fits is recovered, whatever follows it. -/
  dec_enc : ∀ a rest, Fits a → dec (enc a ++ rest) = a

namespace Codec

variable {α β : Type}

/-- A value that fits is recovered from its own bytes. -/
theorem dec_enc_self (c : Codec α) {a : α} (h : c.Fits a) : c.dec (c.enc a) = a := by
  have hd := c.dec_enc a [] h
  rwa [List.append_nil] at hd

/-- Little-endian natural of `w` bytes. -/
def uint (w : ℕ) : Codec ℕ where
  width := w
  enc n := leBytes w n
  dec bs := leNat (bs.take w)
  Fits n := n < 256 ^ w
  enc_length n := leBytes_length w n
  dec_enc n rest h := by
    rw [List.take_left' (leBytes_length w n), leNat_leBytes_of_lt h]

/-- Bytes that are read as a number are its encoding. -/
theorem uint_enc_dec {w : ℕ} {bs : List UInt8} (h : w ≤ bs.length) :
    (uint w).enc ((uint w).dec bs) = bs.take w := by
  have hlen : (bs.take w).length = w := List.length_take_of_le h
  have henc := leBytes_leNat (bs.take w)
  rwa [hlen] at henc

/-- Byte array of fixed length `w`. -/
def bytes (w : ℕ) : Codec (Fin w → UInt8) where
  width := w
  enc f := List.ofFn f
  dec bs i := bs.getD i 0
  Fits _ := True
  enc_length f := List.length_ofFn
  dec_enc f rest _ := by
    funext i
    have hi : i.val < (List.ofFn f).length := by
      rw [List.length_ofFn]
      exact i.isLt
    rw [List.getD_eq_getElem?_getD, List.getElem?_append_left hi, List.getElem?_eq_getElem hi]
    simp only [List.getElem_ofFn, Fin.eta, Option.getD_some]

/-- Bytes that are read as an array are its encoding. -/
theorem bytes_enc_dec {w : ℕ} {bs : List UInt8} (h : w ≤ bs.length) :
    (bytes w).enc ((bytes w).dec bs) = bs.take w := by
  apply List.ext_getElem
  · exact ((bytes w).enc_length _).trans (List.length_take_of_le h).symm
  · intro i hi hi'
    have hlt : i < bs.length := by
      rw [List.length_take] at hi'
      omega
    simp only [bytes, List.getElem_ofFn, List.getElem_take, List.getD_eq_getElem?_getD,
      List.getElem?_eq_getElem hlt, Option.getD_some]

/-- `w` bytes of zero padding, ignored when read. -/
def pad (w : ℕ) : Codec Unit where
  width := w
  enc _ := List.replicate w 0
  dec _ := ()
  Fits _ := True
  enc_length _ := List.length_replicate
  dec_enc _ _ _ := rfl

/-- Two fields in file order. -/
def prod (c : Codec α) (d : Codec β) : Codec (α × β) where
  width := c.width + d.width
  enc p := c.enc p.1 ++ d.enc p.2
  dec bs := (c.dec bs, d.dec (bs.drop c.width))
  Fits p := c.Fits p.1 ∧ d.Fits p.2
  enc_length p := by rw [List.length_append, c.enc_length, d.enc_length]
  dec_enc p rest h := by
    rw [List.append_assoc, c.dec_enc p.1 _ h.1, List.drop_left' (c.enc_length p.1),
      d.dec_enc p.2 _ h.2]

/-- Change of representation through a checked inverse. -/
def iso (c : Codec α) (pack : α → β) (unpack : β → α) (inv : ∀ b, pack (unpack b) = b) :
    Codec β where
  width := c.width
  enc b := c.enc (unpack b)
  dec bs := pack (c.dec bs)
  Fits b := c.Fits (unpack b)
  enc_length b := c.enc_length (unpack b)
  dec_enc b rest h := by rw [c.dec_enc _ _ h, inv]

/-- A short read over an old value: the bytes that arrived replace the front of it. -/
def overlay (c : Codec α) (bs : List UInt8) (old : α) : α :=
  c.dec (bs ++ (c.enc old).drop bs.length)

/-- A read of the full width replaces the old value altogether. -/
theorem overlay_full (c : Codec α) {bs : List UInt8} (h : bs.length = c.width) (old : α) :
    c.overlay bs old = c.dec bs := by
  have hd : (c.enc old).drop bs.length = [] := List.drop_eq_nil_of_le (by rw [c.enc_length, h])
  rw [overlay, hd, List.append_nil]

end Codec

/-- Little-endian encodings of a list, one after the other. -/
def Codec.encList {α : Type} (c : Codec α) (l : List α) : List UInt8 := l.flatMap c.enc

/-- The bytes of a packed list are as many as its entries times the width. -/
theorem Codec.encList_length {α : Type} (c : Codec α) (l : List α) :
    (c.encList l).length = l.length * c.width := by
  induction l with
  | nil => simp only [encList, List.flatMap_nil, List.length_nil, Nat.zero_mul]
  | cons a l ih =>
    simp only [encList] at ih
    simp only [encList, List.flatMap_cons, List.length_append, c.enc_length, ih, List.length_cons]
    ring

/-- Numbers that are read one after the other are written as they were. -/
theorem Codec.encList_entries {w n : ℕ} {bs : List UInt8} (h : bs.length = n * w) :
    (uint w).encList ((List.range n).map fun i => (uint w).dec ((bs.drop (w * i)).take w)) = bs := by
  induction n generalizing bs with
  | zero => exact (List.eq_nil_of_length_eq_zero (by rw [h, Nat.zero_mul])).symm
  | succ n ih =>
    have hfront : w ≤ bs.length := by
      rw [h, Nat.succ_mul]
      omega
    have hfirst : (uint w).enc ((uint w).dec (bs.take w)) = bs.take w := by
      rw [uint_enc_dec (List.length_take_of_le hfront).ge, List.take_take, Nat.min_self]
    have hrest := @ih (bs.drop w) (by rw [List.length_drop, h, Nat.succ_mul, Nat.add_sub_cancel])
    simp only [List.drop_drop] at hrest
    rw [List.range_succ_eq_map, List.map_cons, List.map_map, encList, List.flatMap_cons, Nat.mul_zero,
      List.drop_zero, hfirst]
    refine (congrArg (bs.take w ++ ·) (Eq.trans ?_ hrest)).trans (List.take_append_drop w bs)
    rw [encList]
    refine congrArg (List.flatMap (uint w).enc) (List.map_congr_left fun i _ => ?_)
    rw [Function.comp_apply, Nat.mul_succ, Nat.add_comm]

end Mhvtl
