import Mhvtl.Lib.Bytes
import Mhvtl.Lib.Crc

/-!
# CRC32C

The check of blocks, as it is computed: with tables of eight bytes, or with the instruction
of the processor, three parts at a time whose checks are put together. Both ways take the bytes
up one after the other.
-/

namespace Mhvtl.Ssc

open Bytes Crc

/-- The polynomial in reversed bit order. -/
def POLY : BitVec 32 := 0x82f63b78#32

/-- A table entry for the last byte. -/
def crc32c_table_byte (n : BitVec 32) : BitVec 32 := bits POLY 8 n

/-- A table entry for a byte with `k` bytes behind it. -/
def crc32c_table_little : ℕ → BitVec 32 → BitVec 32
  | 0, n => crc32c_table_byte n
  | k + 1, n =>
    crc32c_table_byte (low (crc32c_table_little k n)) ^^^ crc32c_table_little k n >>> 8

/-- Take up a byte by table. -/
def tableStep (crc : BitVec 32) (b : UInt8) : BitVec 32 :=
  crc32c_table_byte (low (crc ^^^ b.toBitVec.setWidth 32)) ^^^ crc >>> 8

/-- Bytes up to an address that is a multiple of eight, and the bytes behind them. -/
def alignLoop (step : BitVec 32 → UInt8 → BitVec 32) :
    ℕ → BitVec 32 → List UInt8 → BitVec 32 × List UInt8
  | _, crc, [] => (crc, [])
  | next, crc, b :: buf =>
    if next % 8 ≠ 0 then alignLoop step (next + 1) (step crc b) buf else (crc, b :: buf)

/-- Eight bytes as they are loaded. -/
def loadWord (bs : List UInt8) : BitVec 64 := BitVec.ofNat 64 (leNat bs)

/-- Table index for a byte of the word. -/
def wordByte (crcw : BitVec 64) (i : ℕ) : BitVec 32 := (low (crcw >>> (8 * i))).setWidth 32

/-- Take up eight bytes by tables. -/
def wordStep (crcw : BitVec 64) (bs : List UInt8) : BitVec 64 :=
  let crcw := crcw ^^^ loadWord bs
  (crc32c_table_little 7 (wordByte crcw 0) ^^^ crc32c_table_little 6 (wordByte crcw 1) ^^^
    crc32c_table_little 5 (wordByte crcw 2) ^^^ crc32c_table_little 4 (wordByte crcw 3) ^^^
    crc32c_table_little 3 (wordByte crcw 4) ^^^ crc32c_table_little 2 (wordByte crcw 5) ^^^
    crc32c_table_little 1 (wordByte crcw 6) ^^^ crc32c_table_little 0 (wordByte crcw 7)).setWidth 64

/-- Take up bytes by the eight, and the bytes behind them. -/
def eights {σ : Type} (step : σ → List UInt8 → σ) (s : σ) (buf : List UInt8) : σ × List UInt8 :=
  if 8 ≤ buf.length then eights step (step s (buf.take 8)) (buf.drop 8) else (s, buf)
termination_by buf.length
decreasing_by
  rw [List.length_drop]
  omega

/-- CRC32C in software, of a buffer at an address. -/
def crc32c_sw_little (next : ℕ) (crc : BitVec 32) (buf : List UInt8) : BitVec 32 :=
  let aligned := alignLoop tableStep next (~~~crc) buf
  let words := eights wordStep (aligned.1.setWidth 64) aligned.2
  ~~~ words.2.foldl tableStep (words.1.setWidth 32)

/-- Multiply a matrix and a vector. -/
def gf2_matrix_times (sum : BitVec 32) : List (BitVec 32) → BitVec 32 → BitVec 32
  | [], _ => sum
  | row :: mat, vec =>
    if vec = 0#32 then sum
    else gf2_matrix_times (if vec.getLsbD 0 then sum ^^^ row else sum) mat (vec >>> 1)

/-- Multiply a matrix by itself. -/
def gf2_matrix_square (mat : List (BitVec 32)) : List (BitVec 32) :=
  mat.map (gf2_matrix_times 0#32 mat)

/-- Square the operator for four zero bits, or for more, once for each bit of the length. -/
def zerosLoop (odd : List (BitVec 32)) (len : ℕ) : List (BitVec 32) :=
  let even := gf2_matrix_square odd
  if len / 2 = 0 then even
  else
    let odd := gf2_matrix_square even
    if len / 2 / 2 = 0 then odd else zerosLoop odd (len / 2 / 2)
termination_by len
decreasing_by omega

/-- The operator that takes up zero bytes, as many as a power of two. -/
def crc32c_zeros_op (len : ℕ) : List (BitVec 32) :=
  let odd := POLY :: (List.range 31).map fun n => 1#32 <<< n
  zerosLoop (gf2_matrix_square (gf2_matrix_square odd)) len

/-- A table of the operator, for each byte of the register. -/
def crc32c_zeros (len : ℕ) (i : ℕ) (n : BitVec 32) : BitVec 32 :=
  gf2_matrix_times 0#32 (crc32c_zeros_op len) (n <<< (8 * i))

/-- Apply the operator. -/
def crc32c_shift (zeros : ℕ → BitVec 32 → BitVec 32) (crc : BitVec 32) : BitVec 32 :=
  zeros 0 (low crc) ^^^ zeros 1 (low (crc >>> 8)) ^^^ zeros 2 (low (crc >>> 16)) ^^^
    zeros 3 (crc >>> 24)

/-- Length of a long part. -/
def LONG : ℕ := 8192
/-- Length of a short part. -/
def SHORT : ℕ := 256

/-- The instruction takes up a byte. -/
def crc32b (crc : BitVec 32) (b : UInt8) : BitVec 32 := byte POLY crc b

/-- The instruction takes up eight bytes. -/
def crc32q (crc : BitVec 32) (bs : List UInt8) : BitVec 32 := bytes POLY crc bs

/-- Three parts at a time, and the bytes behind them. -/
def threeWay (size : ℕ) (crc0 : BitVec 32) (buf : List UInt8) : BitVec 32 × List UInt8 :=
  if h : 0 < size ∧ 3 * size ≤ buf.length then
    let part := fun crc i => (eights crc32q crc ((buf.drop (i * size)).take size)).1
    let crc0 := crc32c_shift (crc32c_zeros size) (part crc0 0) ^^^ part 0#32 1
    let crc0 := crc32c_shift (crc32c_zeros size) crc0 ^^^ part 0#32 2
    threeWay size crc0 (buf.drop (3 * size))
  else (crc0, buf)
termination_by buf.length
decreasing_by
  rw [List.length_drop]
  omega

/-- CRC32C by the instruction, of a buffer at an address. -/
def crc32c_hw (next : ℕ) (crc : BitVec 32) (buf : List UInt8) : BitVec 32 :=
  let aligned := alignLoop crc32b next (~~~crc) buf
  let long := threeWay LONG aligned.1 aligned.2
  let short := threeWay SHORT long.1 long.2
  let rest := eights crc32q short.1 short.2
  ~~~ rest.2.foldl crc32b rest.1

/-- CRC32C, with the instruction where the processor has it. -/
def crc32c (sse42 : Bool) (next : ℕ) (crc : BitVec 32) (buf : List UInt8) : BitVec 32 :=
  if sse42 then crc32c_hw next crc buf else crc32c_sw_little next crc buf

end Mhvtl.Ssc
