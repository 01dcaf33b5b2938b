import Mhvtl.Lib.Buffer
import Mhvtl.Ssc.Reading
import Mhvtl.Ssc.Tally

/-!
# The buffers of a read

Reading one block in the memory it works on: the initiator's buffer, a bounce
buffer for a block that is longer than the request, and what either held before.
Told of it are how far the initiator's buffer is stored to, the count that is
returned, and whose bytes are counted. The plain function that READ(6) is modelled
with gives the same bytes where the content of the block is had in full.
-/

namespace Mhvtl.Ssc

open Bytes Cart

/-- What the memory that a read works on holds before, and what a call that fails has
stored until then. -/
structure ReadMemory where
  /-- The initiator's buffer. -/
  buf : ℕ → UInt8
  /-- What is allocated for a bounce buffer. -/
  bounce : ℕ → UInt8
  /-- What is allocated for the compressed block. -/
  cbuf : List UInt8
  /-- Bytes of a read or a decompression that fails. -/
  spill : List UInt8

/-- Decompresses the block at the position into a buffer with room for it. The
result is the length of the block, 0 when it fails. A failing read returns -1, which
is compared with the length unsigned. -/
def uncompress_block_into (m : ReadMemory) (d : Drive)
    (decompress : List UInt8 → ℕ → Option (List UInt8)) (b : Buffer UInt8) :
    ℕ × Buffer UInt8 × Drive :=
  let blk_size := d.cart.c_pos.blk_size.toNat
  let disk_blk_size := d.cart.c_pos.disk_blk_size
  let (cbuf, cart) := d.cart.read_tape_block disk_blk_size
  let d := { d with cart := cart }
  if (cbuf.map List.length).getD (2 ^ 32 - 1) ≠ disk_blk_size then
    (0, b, d.report (sam_medium_error E_UNRECOVERED_READ))
  else
    match decompress (cbuf.getD m.cbuf) blk_size with
    | none => (0, b.store 0 m.spill, d.report (sam_medium_error E_DECOMPRESSION_CRC))
    | some bs => (blk_size, b.store 0 bs, d)

/-- The block at the position into a buffer with room for it, and the length it is
taken to have. Nothing when a block in the clear cannot be read in full. -/
def readContentInto (L : Libs) (m : ReadMemory) (d : Drive) (b : Buffer UInt8) :
    Option ℕ × Buffer UInt8 × Drive :=
  let blk_flags := d.cart.c_pos.blk_flags
  let blk_size := d.cart.c_pos.blk_size.toNat
  if blk_flags &&& BLKHDR_FLG_LZO_COMPRESSED ≠ 0 then
    let (rc, b, d) := uncompress_block_into m d L.lzo1x_decompress_safe b
    (some rc, b, d)
  else if blk_flags &&& BLKHDR_FLG_ZLIB_COMPRESSED ≠ 0 then
    let (rc, b, d) := uncompress_block_into m d L.uncompress b
    (some rc, b, d)
  else
    let (bs, cart) := d.cart.read_tape_block blk_size
    let b := b.store 0 (bs.getD m.spill)
    let d := { d with cart := cart }
    if (bs.map List.length).getD (2 ^ 32 - 1) = blk_size then (some blk_size, b, d)
    else (none, b, d.report (sam_medium_error E_UNRECOVERED_READ))

/-- The check bytes of some content. An empty block cannot have a Reed-Solomon word. -/
def checkBytes (L : Libs) (d : Drive) (lbp_method : ℕ) (content : List UInt8) : List UInt8 :=
  match lbp_method with
  | 1 =>
    if content.length = 0 then []
    else if d.lbp_rscrc_be then beBytes 4 (GenerateRSCRC 0 content).toNat
    else leBytes 4 (GenerateRSCRC 0 content).toNat
  | 2 => leBytes 4 (L.crc32c 0 content).toNat
  | _ => []

/-- Stores the check bytes behind the `rc` bytes of the block. -/
def protectInto (L : Libs) (d : Drive) (lbp_method : ℕ) (stored : Option UInt32) (rc : ℕ)
    (b : Buffer UInt8) : ℕ × Buffer UInt8 :=
  match lbp_method with
  | 1 =>
    if rc = 0 then (0, b)
    else ((rc + 4) % 2 ^ 32, b.store rc (checkBytes L d 1 (b.front rc)))
  | 2 =>
    let lbp_crc := stored.getD (L.crc32c 0 (b.front rc))
    ((rc + 4) % 2 ^ 32, b.store rc (leBytes 4 lbp_crc.toNat))
  | _ => (rc, b)

/-- A `uint32_t` that is returned as an `int`. -/
def asInt (n : ℕ) : ℤ := Int.bmod n (2 ^ 32)

/-- The CRC stored with the block at the position. -/
def storedCrc (d : Drive) : Option UInt32 :=
  if d.cart.c_pos.blk_flags &&& BLKHDR_FLG_CRC ≠ 0 then some d.cart.c_pos.uncomp_crc else none

/-- What follows when the content is in the buffer: its CRC is compared, the check bytes
are stored, and what lies in a bounce buffer is copied as far as it was requested. `pos`
is the header of the block, in front of which the drive no longer is. -/
def finishRead (L : Libs) (pos : BlkHeader) (stored : Option UInt32) (m : ReadMemory)
    (request_sz : ℕ) (sili : Bool) (lbp_method : ℕ) (rc : ℕ) (b : Buffer UInt8) (d : Drive) :
    ℤ × Buffer UInt8 × Drive :=
  let lbp_sz := if lbp_method ≠ 0 then (request_sz + 2 ^ 32 - 4) % 2 ^ 32 else request_sz
  let blk_size := pos.blk_size.toNat
  let lent := if request_sz < blk_size then Buffer.fresh m.buf else b
  if stored.any fun crc => crc ≠ L.crc32c 0 (b.front rc) then
    (0, lent, d.report (sam_medium_error E_DECOMPRESSION_CRC))
  else if lbp_method = 3 then (0, lent, d.report (sam_hardware_error E_LOGICAL_BLOCK_GUARD_FAILED))
  else
  let (rc, b) := protectInto L d lbp_method stored rc b
  let (rc, b) :=
    if request_sz < blk_size then (request_sz, lent.store 0 (b.front request_sz)) else (rc, b)
  let d := { d with
    bytesRead_I := d.bytesRead_I + blk_size
    bytesRead_M := d.bytesRead_M + pos.disk_blk_size }
  (asInt rc, b, reportLength d request_sz lbp_sz rc blk_size sili)

/-- Reads the block at the position for a request of `request_sz` bytes: what is returned,
the initiator's buffer and the drive. -/
def readBlockInto (L : Libs) (m : ReadMemory) (d : Drive) (request_sz : ℕ) (sili : Bool)
    (lbp_method : ℕ) : Option (ℤ × Buffer UInt8 × Drive) :=
  let buf := Buffer.fresh m.buf
  if request_sz = 0 then some (0, buf, d) else
  let lbp_sz := if lbp_method ≠ 0 then (request_sz + 2 ^ 32 - 4) % 2 ^ 32 else request_sz
  let pos := d.cart.c_pos
  if pos.blk_type = B_FILEMARK then
    let d := d.onCart fun c => (c.position_blocks_forw 1).2
    some (0, buf, d.report ((sam_no_sense SD_FILEMARK E_MARK).withInformation lbp_sz))
  else if pos.blk_type = B_EOD then
    some (0, buf, d.report ((sam_blank_check E_END_OF_DATA).withInformation lbp_sz))
  else if pos.blk_type ≠ B_DATA then
    some (0, buf, d.report (sam_medium_error E_UNRECOVERED_READ))
  else
  let blk_size := pos.blk_size.toNat
  -- the length of the bounce buffer is 32 bits wide, so that the block overruns it
  if request_sz < blk_size ∧ 2 ^ 32 ≤ blk_size + 4 then none else
  let stored := storedCrc d
  match readContentInto L m d (if request_sz < blk_size then Buffer.fresh m.bounce else buf) with
  | (none, b, d) => some (0, if request_sz < blk_size then buf else b, d)
  | (some rc, b, d) => some (finishRead L pos stored m request_sz sili lbp_method rc b d)

/-- What reading the compressed block at the position gives, or the error that it is. -/
def unpacked (d : Drive) (decompress : List UInt8 → ℕ → Option (List UInt8)) :
    Except Status (List UInt8) :=
  match (d.cart.read_tape_block d.cart.c_pos.disk_blk_size).1 with
  | none => .error (sam_medium_error E_UNRECOVERED_READ)
  | some cbuf =>
    if cbuf.length ≠ d.cart.c_pos.disk_blk_size then .error (sam_medium_error E_UNRECOVERED_READ)
    else
      match decompress cbuf d.cart.c_pos.blk_size.toNat with
      | none => .error (sam_medium_error E_DECOMPRESSION_CRC)
      | some bs => .ok bs

/-- The content of the data block at the position, or the error that reading it is. -/
def blockContent (L : Libs) (d : Drive) : Except Status (List UInt8) :=
  if d.cart.c_pos.blk_flags &&& BLKHDR_FLG_LZO_COMPRESSED ≠ 0 then
    unpacked d L.lzo1x_decompress_safe
  else if d.cart.c_pos.blk_flags &&& BLKHDR_FLG_ZLIB_COMPRESSED ≠ 0 then unpacked d L.uncompress
  else
    match (d.cart.read_tape_block d.cart.c_pos.blk_size.toNat).1 with
    | none => .error (sam_medium_error E_UNRECOVERED_READ)
    | some bs =>
      if bs.length = d.cart.c_pos.blk_size.toNat then .ok bs
      else .error (sam_medium_error E_UNRECOVERED_READ)

/-- A read of the data block in front of `d` keeps to its request. -/
structure WithinRequest (L : Libs) (d : Drive) (request_sz lbp_method : ℕ)
    (r : ℤ × Buffer UInt8 × Drive) : Prop where
  /-- Nothing is stored behind the requested bytes. -/
  extent : r.2.1.extent ≤ request_sz
  /-- The count is one. -/
  nonneg : 0 ≤ r.1
  /-- No more is counted than was requested. -/
  le : r.1 ≤ request_sz
  /-- The bytes counted are the first ones of the content and its check bytes. -/
  counted : ∀ bs, blockContent L d = .ok bs →
    r.2.1.front r.1.toNat = (bs ++ checkBytes L d lbp_method bs).take r.1.toNat
  /-- Of a block that cannot be had nothing is counted, and its error is reported. -/
  unread : ∀ s, request_sz ≠ 0 → blockContent L d = .error s → r.1 = 0 ∧ r.2.2.cart.status = s
  /-- Where nothing is counted of a block with another CRC, this is reported. -/
  crc : ∀ bs, request_sz ≠ 0 → blockContent L d = .ok bs → crcDiffers L d bs = true → r.1 = 0 →
    r.2.2.cart.status = sam_medium_error E_DECOMPRESSION_CRC

/-- What the buffer a block is read into held before, behind `bs`. -/
def behind (m : ReadMemory) (request_sz size : ℕ) (bs : List UInt8) : List UInt8 :=
  ((Buffer.fresh (if request_sz < size then m.bounce else m.buf)).front size).drop bs.length

/-- Some content is sent within the request: the code finds its CRC wrong, or the request
and the check bytes leave room for each other. -/
def ContentFits (L : Libs) (m : ReadMemory) (d : Drive) (request_sz lbp_method : ℕ)
    (bs : List UInt8) : Prop :=
  let size := d.cart.c_pos.blk_size.toNat
  let rest := behind m request_sz size bs
  let check := checkBytes L d lbp_method bs
  crcDiffers L d (bs ++ rest) = true ∨
  lbp_method = 3 ∧ crcDiffers L d bs = false ∨
  lbp_method ≠ 3 ∧
    if request_sz < size then
      request_sz < 2 ^ 31 ∧ request_sz ≤ bs.length + check.length ∧
        rest.take (request_sz - bs.length) = check.take (request_sz - bs.length)
    else
      bs.length = size ∧ size + check.length ≤ request_sz ∧ size + check.length < 2 ^ 31

/-- When a read of the data block in front of the drive keeps to its request. -/
def ReadFits (L : Libs) (m : ReadMemory) (d : Drive) (request_sz lbp_method : ℕ) : Prop :=
  let size := d.cart.c_pos.blk_size.toNat
  (size ≤ request_sz ∨ size + 4 < 2 ^ 32) ∧
  match blockContent L d with
  | .error s =>
    if d.cart.c_pos.blk_flags &&& BLKHDR_FLG_LZO_COMPRESSED ≠ 0 ∨
        d.cart.c_pos.blk_flags &&& BLKHDR_FLG_ZLIB_COMPRESSED ≠ 0 then
      s = sam_medium_error E_DECOMPRESSION_CRC ∧ crcDiffers L d [] = true
    else (d.cart.read_tape_block size).1 = none → size ≠ 2 ^ 32 - 1
  | .ok bs => ContentFits L m d request_sz lbp_method bs

section Fits

variable {L : Libs} {m : ReadMemory} {d : Drive} {request_sz lbp_method : ℕ}

/-- Counts below 2^31 are returned as they are, the others negative. -/
theorem asInt_eq {n : ℕ} (h : n < 2 ^ 32) : asInt n = if n < 2 ^ 31 then (n : ℤ) else n - 2 ^ 32 := by
  have hmod : (n : ℤ) % ((2 ^ 32 : ℕ) : ℤ) = n := Int.emod_eq_of_lt (by omega) (by omega)
  have hhalf : (n : ℤ) < (((2 ^ 32 : ℕ) : ℤ) + 1) / 2 ↔ n < 2 ^ 31 := by
    have hvalue : (((2 ^ 32 : ℕ) : ℤ) + 1) / 2 = 2147483648 := by decide
    rw [hvalue]
    omega
  unfold asInt Int.bmod
  dsimp only
  rw [hmod]
  exact if_congr hhalf rfl rfl

/-- A count below 2^31 is returned as it is. -/
theorem asInt_of_lt {n : ℕ} (h : n < 2 ^ 31) : asInt n = n := by
  rw [asInt_eq (by omega), if_pos h]

/-- Any other is returned negative. -/
theorem asInt_neg {n : ℕ} (h : n < 2 ^ 32) (h' : 2 ^ 31 ≤ n) : asInt n < 0 := by
  rw [asInt_eq h, if_neg (by omega)]
  omega

/-- What is returned as a count is below 2^31. -/
theorem lt_of_asInt_nonneg {n : ℕ} (h : n < 2 ^ 32) (h' : 0 ≤ asInt n) : n < 2 ^ 31 := by
  by_contra hge
  have hneg := asInt_neg h (by omega)
  omega

/-- Only no byte is returned as none. -/
theorem asInt_eq_zero {n : ℕ} (h : n < 2 ^ 32) (h' : asInt n = 0) : n = 0 := by
  rw [asInt_of_lt (lt_of_asInt_nonneg h (le_of_eq h'.symm))] at h'
  exact Int.natCast_eq_zero.mp h'

/-- The first method has a word for every block that is not empty. -/
theorem checkBytes_one_length {content : List UInt8} (h : content.length ≠ 0) :
    (checkBytes L d 1 content).length = 4 := by
  change (if content.length = 0 then [] else _).length = 4
  rw [if_neg h]
  split
  · exact beBytes_length 4 _
  · exact leBytes_length 4 _

/-- The second has one for every block. -/
theorem checkBytes_two_length (content : List UInt8) : (checkBytes L d 2 content).length = 4 :=
  leBytes_length 4 _

/-- Nothing else puts bytes behind a block. -/
theorem checkBytes_other (h1 : lbp_method ≠ 1) (h2 : lbp_method ≠ 2) (content : List UInt8) :
    checkBytes L d lbp_method content = [] := by
  unfold checkBytes
  split
  · exact absurd rfl h1
  · exact absurd rfl h2
  · rfl

/-- A block has at most four check bytes. -/
theorem checkBytes_length_le (content : List UInt8) :
    (checkBytes L d lbp_method content).length ≤ 4 := by
  by_cases h1 : lbp_method = 1
  · subst h1
    by_cases hz : content.length = 0
    · have hnil : checkBytes L d 1 content = [] := if_pos hz
      rw [hnil]
      exact Nat.zero_le _
    · exact le_of_eq (checkBytes_one_length hz)
  by_cases h2 : lbp_method = 2
  · subst h2
    exact le_of_eq (checkBytes_two_length content)
  · rw [checkBytes_other h1 h2]
    exact Nat.zero_le _

/-- A shorter block has no more check bytes. -/
theorem checkBytes_length_mono {bs content : List UInt8} (h : bs.length ≤ content.length) :
    (checkBytes L d lbp_method bs).length ≤ (checkBytes L d lbp_method content).length := by
  by_cases h1 : lbp_method = 1
  · subst h1
    by_cases hz : bs.length = 0
    · have hnil : checkBytes L d 1 bs = [] := if_pos hz
      rw [hnil]
      exact Nat.zero_le _
    · rw [checkBytes_one_length hz, checkBytes_one_length (by omega)]
  by_cases h2 : lbp_method = 2
  · subst h2
    rw [checkBytes_two_length, checkBytes_two_length]
  · rw [checkBytes_other h1 h2, checkBytes_other h1 h2]

/-- Protecting stores the check bytes of the block, and counts them. -/
theorem protectInto_eq {stored : Option UInt32} {rc : ℕ} {b : Buffer UInt8} (hrc : rc < 2 ^ 32)
    (hst : ∀ crc ∈ stored, crc = L.crc32c 0 (b.front rc)) :
    protectInto L d lbp_method stored rc b =
      ((rc + (checkBytes L d lbp_method (b.front rc)).length) % 2 ^ 32,
        b.store rc (checkBytes L d lbp_method (b.front rc))) := by
  have hnone : (rc, b) = ((rc + ([] : List UInt8).length) % 2 ^ 32, b.store rc []) := by
    rw [Buffer.store_nil, List.length_nil, Nat.add_zero, Nat.mod_eq_of_lt hrc]
  by_cases h1 : lbp_method = 1
  · subst h1
    by_cases hz : rc = 0
    · subst hz
      exact hnone
    · have hlen : (b.front rc).length ≠ 0 := by rwa [Buffer.front_length]
      rw [checkBytes_one_length hlen]
      exact if_neg hz
  by_cases h2 : lbp_method = 2
  · subst h2
    have hcrc : stored.getD (L.crc32c 0 (b.front rc)) = L.crc32c 0 (b.front rc) := by
      cases stored with
      | none => rfl
      | some crc => exact hst crc rfl
    rw [checkBytes_two_length]
    change ((rc + 4) % 2 ^ 32, b.store rc (leBytes 4 (stored.getD _).toNat)) = _
    rw [hcrc]
    rfl
  · rw [checkBytes_other h1 h2, ← hnone]
    unfold protectInto
    split
    · exact absurd rfl h1
    · exact absurd rfl h2
    · rfl
/-- The CRC that is compared where the content is in the buffer. -/
theorem storedCrc_any (content : List UInt8) :
    ((storedCrc d).any fun crc => crc ≠ L.crc32c 0 content) = crcDiffers L d content := rfl

section Finish

variable {sili : Bool} {rc : ℕ} {b : Buffer UInt8} {e : Drive}

/-- A stored CRC that the read passes is that of the content. -/
theorem storedCrc_eq {content : List UInt8} (h : crcDiffers L d content = false) :
    ∀ crc ∈ storedCrc d, crc = L.crc32c 0 content := by
  intro crc hcrc
  rw [← storedCrc_any, Option.mem_def.mp hcrc, Option.any_some] at h
  exact not_not.mp (of_decide_eq_false h)

/-- Another CRC ends the read. -/
theorem finishRead_differs (h : crcDiffers L d (b.front rc) = true) :
    finishRead L d.cart.c_pos (storedCrc d) m request_sz sili lbp_method rc b e =
      (0, if request_sz < d.cart.c_pos.blk_size.toNat then Buffer.fresh m.buf else b,
        e.report (sam_medium_error E_DECOMPRESSION_CRC)) := by
  unfold finishRead
  simp only [storedCrc_any]
  rw [if_pos h]

/-- So does the method that there is not. -/
theorem finishRead_guard (h : crcDiffers L d (b.front rc) = false) :
    finishRead L d.cart.c_pos (storedCrc d) m request_sz sili 3 rc b e =
      (0, if request_sz < d.cart.c_pos.blk_size.toNat then Buffer.fresh m.buf else b,
        e.report (sam_hardware_error E_LOGICAL_BLOCK_GUARD_FAILED)) := by
  unfold finishRead
  simp only [storedCrc_any]
  rw [h, if_neg Bool.false_ne_true, if_pos trivial]

/-- Everything else is sent: the block with its check bytes, or as much as was requested of a
block that is longer. -/
theorem finishRead_sent (h : crcDiffers L d (b.front rc) = false) (h3 : lbp_method ≠ 3)
    (hrc : rc < 2 ^ 32) :
    finishRead L d.cart.c_pos (storedCrc d) m request_sz sili lbp_method rc b e =
      let size := d.cart.c_pos.blk_size.toNat
      let whole := b.store rc (checkBytes L e lbp_method (b.front rc))
      let n := if request_sz < size then request_sz else
        (rc + (checkBytes L e lbp_method (b.front rc)).length) % 2 ^ 32
      (asInt n,
        if request_sz < size then (Buffer.fresh m.buf).store 0 (whole.front request_sz) else whole,
        reportLength
          { e with
            bytesRead_I := e.bytesRead_I + size
            bytesRead_M := e.bytesRead_M + d.cart.c_pos.disk_blk_size }
          request_sz (if lbp_method ≠ 0 then (request_sz + 2 ^ 32 - 4) % 2 ^ 32 else request_sz)
          n size sili) := by
  unfold finishRead
  simp only [storedCrc_any, protectInto_eq hrc (storedCrc_eq h)]
  rw [h, if_neg Bool.false_ne_true, if_neg h3]
  by_cases hb : request_sz < d.cart.c_pos.blk_size.toNat
  · simp only [if_pos hb]
  · simp only [if_neg hb]

/-- What is sent as nothing leaves no medium error. -/
theorem finishRead_not_medium (h : crcDiffers L d (b.front rc) = false) (hrc : rc < 2 ^ 32)
    (hsz : request_sz ≠ 0) (hreq : request_sz < 2 ^ 32) (asc : ℕ)
    (hzero : (finishRead L d.cart.c_pos (storedCrc d) m request_sz sili lbp_method rc b e).1 = 0) :
    (finishRead L d.cart.c_pos (storedCrc d) m request_sz sili lbp_method rc b e).2.2.cart.status ≠
      sam_medium_error asc := by
  by_cases h3 : lbp_method = 3
  · subst h3
    rw [finishRead_guard h]
    intro heq
    have hkey : HARDWARE_ERROR = MEDIUM_ERROR := congrArg (fun s => s.sense.key) heq
    exact absurd hkey (by decide)
  · rw [finishRead_sent h h3 hrc] at hzero ⊢
    dsimp only at hzero ⊢
    have hlt : (if request_sz < d.cart.c_pos.blk_size.toNat then request_sz else
        (rc + (checkBytes L e lbp_method (b.front rc)).length) % 2 ^ 32) < 2 ^ 32 := by
      split
      · exact hreq
      · exact Nat.mod_lt _ (by decide)
    have hnone := asInt_eq_zero hlt hzero
    rw [hnone]
    unfold reportLength
    rw [if_pos hsz.symm]
    intro heq
    have hkey : SD_ILI = MEDIUM_ERROR := congrArg (fun s => s.sense.key) heq
    exact absurd hkey (by decide)

end Finish

section Fetch

variable {b : Buffer UInt8} {bs : List UInt8} {s : Status}

/-- A block that can be read and decompressed is stored, and taken to be as long as recorded. -/
theorem uncompress_block_into_ok {decompress : List UInt8 → ℕ → Option (List UInt8)}
    (h : unpacked d decompress = .ok bs) :
    ∃ c, uncompress_block d decompress =
        (takePad d.cart.c_pos.blk_size.toNat bs, { d with cart := c }) ∧
      uncompress_block_into m d decompress b =
        (d.cart.c_pos.blk_size.toNat, b.store 0 bs, { d with cart := c }) := by
  unfold unpacked at h
  unfold uncompress_block uncompress_block_into
  dsimp only at h ⊢
  rcases hr : d.cart.read_tape_block d.cart.c_pos.disk_blk_size with ⟨cbuf, c⟩
  rw [hr] at h
  dsimp only at h ⊢
  cases cbuf with
  | none => cases h
  | some cbuf =>
    dsimp only at h
    by_cases hlen : cbuf.length ≠ d.cart.c_pos.disk_blk_size
    · rw [if_pos hlen] at h
      cases h
    · rw [if_neg hlen] at h
      dsimp only
      rw [Option.map_some, Option.getD_some, Option.getD_some, if_neg hlen, if_neg hlen]
      cases hdec : decompress cbuf d.cart.c_pos.blk_size.toNat with
      | none =>
        rw [hdec] at h
        cases h
      | some out =>
        rw [hdec] at h
        cases h
        exact ⟨c, rfl, rfl⟩

/-- One that cannot be is taken to be empty, with the error reported, unless the error passes
for the length of the block. -/
theorem uncompress_block_into_error {decompress : List UInt8 → ℕ → Option (List UInt8)}
    (h : unpacked d decompress = .error s) :
    ∃ rc out e, uncompress_block_into m d decompress b = (rc, out, e) ∧
      rc ≤ d.cart.c_pos.blk_size.toNat ∧
      (s = sam_medium_error E_UNRECOVERED_READ ∨
        s = sam_medium_error E_DECOMPRESSION_CRC ∧ rc = 0 ∧ out = b.store 0 m.spill) := by
  unfold unpacked at h
  unfold uncompress_block_into
  dsimp only
  rcases hr : d.cart.read_tape_block d.cart.c_pos.disk_blk_size with ⟨cbuf, c⟩
  rw [hr] at h
  dsimp only at h ⊢
  have hrun : ∀ r : ℕ × Buffer UInt8 × Drive, r.1 ≤ d.cart.c_pos.blk_size.toNat →
      s = sam_medium_error E_UNRECOVERED_READ → ∃ rc out e, r = (rc, out, e) ∧
        rc ≤ d.cart.c_pos.blk_size.toNat ∧ (s = sam_medium_error E_UNRECOVERED_READ ∨
          s = sam_medium_error E_DECOMPRESSION_CRC ∧ rc = 0 ∧ out = b.store 0 m.spill) :=
    fun r hle hs => ⟨r.1, r.2.1, r.2.2, rfl, hle, Or.inl hs⟩
  cases cbuf with
  | none =>
    cases h
    apply hrun _ ?_ rfl
    split
    · exact Nat.zero_le _
    · split
      · exact Nat.zero_le _
      · exact le_refl _
  | some cbuf =>
    dsimp only at h
    rw [Option.map_some, Option.getD_some, Option.getD_some]
    by_cases hlen : cbuf.length ≠ d.cart.c_pos.disk_blk_size
    · rw [if_pos hlen] at h
      cases h
      rw [if_pos hlen]
      exact hrun _ (Nat.zero_le _) rfl
    · rw [if_neg hlen] at h
      rw [if_neg hlen]
      cases hdec : decompress cbuf d.cart.c_pos.blk_size.toNat with
      | some out =>
        rw [hdec] at h
        cases h
      | none =>
        rw [hdec] at h
        cases h
        exact ⟨0, _, _, rfl, Nat.zero_le _, Or.inr ⟨rfl, rfl, rfl⟩⟩

/-- A read gives no more than was asked for. -/
theorem read_tape_block_length_le {c : Store} {n : ℕ} (h : (c.read_tape_block n).1 = some bs) :
    bs.length ≤ n := by
  unfold Store.read_tape_block at h
  dsimp only at h
  split at h
  · cases h
  split at h
  · cases h
  split at h
  · cases h
  · split at h
    · cases h
    · rename_i hlen
      split at h
      · cases h
      · cases h
        rw [not_not.mp hlen]
        exact Nat.min_le_right _ _

/-- The content is stored, and taken to be as long as recorded. -/
theorem readContentInto_ok (h : blockContent L d = .ok bs) :
    ∃ c, readContent L d = (some (takePad d.cart.c_pos.blk_size.toNat bs), { d with cart := c }) ∧
      readContentInto L m d b =
        (some d.cart.c_pos.blk_size.toNat, b.store 0 bs, { d with cart := c }) := by
  unfold blockContent at h
  unfold readContent readContentInto
  dsimp only
  by_cases hlzo : d.cart.c_pos.blk_flags &&& BLKHDR_FLG_LZO_COMPRESSED ≠ 0
  · rw [if_pos hlzo] at h
    rw [if_pos hlzo, if_pos hlzo]
    obtain ⟨c, hplain, hinto⟩ := uncompress_block_into_ok (m := m) (b := b) h
    exact ⟨c, by rw [hplain], by rw [hinto]⟩
  rw [if_neg hlzo] at h
  rw [if_neg hlzo, if_neg hlzo]
  by_cases hzlib : d.cart.c_pos.blk_flags &&& BLKHDR_FLG_ZLIB_COMPRESSED ≠ 0
  · rw [if_pos hzlib] at h
    rw [if_pos hzlib, if_pos hzlib]
    obtain ⟨c, hplain, hinto⟩ := uncompress_block_into_ok (m := m) (b := b) h
    exact ⟨c, by rw [hplain], by rw [hinto]⟩
  rw [if_neg hzlib] at h
  rw [if_neg hzlib, if_neg hzlib]
  rcases hr : d.cart.read_tape_block d.cart.c_pos.blk_size.toNat with ⟨out, c⟩
  rw [hr] at h
  dsimp only at h ⊢
  cases out with
  | none => cases h
  | some out =>
    dsimp only at h
    by_cases hlen : out.length = d.cart.c_pos.blk_size.toNat
    · rw [if_pos hlen] at h
      cases h
      refine ⟨c, ?_, ?_⟩
      · rw [Option.map_some, Option.getD_some, if_pos hlen, Option.getD_some, takePad_self hlen]
      · rw [Option.map_some, Option.getD_some, if_pos hlen, Option.getD_some]
    · rw [if_neg hlen] at h
      cases h

/-- The content is not longer than recorded, when the decompressors keep to their room. -/
theorem blockContent_length_le (hlzo : ∀ z n out, L.lzo1x_decompress_safe z n = some out → out.length ≤ n)
    (hzlib : ∀ z n out, L.uncompress z n = some out → out.length ≤ n)
    (h : blockContent L d = .ok bs) : bs.length ≤ d.cart.c_pos.blk_size.toNat := by
  have hunpacked : ∀ decompress : List UInt8 → ℕ → Option (List UInt8),
      (∀ z n out, decompress z n = some out → out.length ≤ n) →
      unpacked d decompress = .ok bs → bs.length ≤ d.cart.c_pos.blk_size.toNat := by
    intro decompress hle hok
    unfold unpacked at hok
    split at hok
    · cases hok
    split at hok
    · cases hok
    split at hok
    · cases hok
    · rename_i hdec
      cases hok
      exact hle _ _ _ hdec
  unfold blockContent at h
  split at h
  · exact hunpacked _ hlzo h
  split at h
  · exact hunpacked _ hzlib h
  split at h
  · cases h
  split at h
  · rename_i hlen
    cases h
    exact le_of_eq hlen
  · cases h

/-- A compressed block that cannot be had: it is taken to be empty, or the read goes on with what
it has. -/
theorem readContentInto_error (hcomp : CompressedHere d) (h : blockContent L d = .error s) :
    ∃ rc out e, readContentInto L m d b = (some rc, out, e) ∧ rc ≤ d.cart.c_pos.blk_size.toNat ∧
      (s = sam_medium_error E_UNRECOVERED_READ ∨
        s = sam_medium_error E_DECOMPRESSION_CRC ∧ rc = 0 ∧ out = b.store 0 m.spill) := by
  unfold blockContent at h
  unfold readContentInto
  dsimp only
  by_cases hlzo : d.cart.c_pos.blk_flags &&& BLKHDR_FLG_LZO_COMPRESSED ≠ 0
  · rw [if_pos hlzo] at h
    rw [if_pos hlzo]
    obtain ⟨rc, out, e, hrun, hle, hs⟩ := uncompress_block_into_error (m := m) (b := b) h
    exact ⟨rc, out, e, by rw [hrun], hle, hs⟩
  · have hzlib := hcomp.resolve_left hlzo
    rw [if_neg hlzo, if_pos hzlib] at h
    rw [if_neg hlzo, if_pos hzlib]
    obtain ⟨rc, out, e, hrun, hle, hs⟩ := uncompress_block_into_error (m := m) (b := b) h
    exact ⟨rc, out, e, by rw [hrun], hle, hs⟩

/-- A block in the clear that cannot be read is reported, unless the error passes for the length
of the block. -/
theorem readContentInto_unread (hcomp : ¬CompressedHere d) (hspill : m.spill.length ≤ d.cart.c_pos.blk_size.toNat)
    (h : blockContent L d = .error s) :
    s = sam_medium_error E_UNRECOVERED_READ ∧ ∃ out e,
      (readContentInto L m d b = (some d.cart.c_pos.blk_size.toNat, out, e) ∧
          (d.cart.read_tape_block d.cart.c_pos.blk_size.toNat).1 = none ∧
          d.cart.c_pos.blk_size.toNat = 2 ^ 32 - 1 ∨
        readContentInto L m d b = (none, out, e) ∧
          ((d.cart.read_tape_block d.cart.c_pos.blk_size.toNat).1 = none →
            d.cart.c_pos.blk_size.toNat ≠ 2 ^ 32 - 1) ∧
          (∃ xs, xs.length ≤ d.cart.c_pos.blk_size.toNat ∧ out = b.store 0 xs) ∧
          e.cart.status = s) := by
  obtain ⟨hlzo, hzlib⟩ := not_or.mp hcomp
  unfold blockContent at h
  unfold readContentInto
  dsimp only
  rw [if_neg hlzo, if_neg hzlib] at h
  rw [if_neg hlzo, if_neg hzlib]
  have hle : ∀ xs, (d.cart.read_tape_block d.cart.c_pos.blk_size.toNat).1 = some xs →
      xs.length ≤ d.cart.c_pos.blk_size.toNat := fun _ hxs => read_tape_block_length_le hxs
  rcases hr : d.cart.read_tape_block d.cart.c_pos.blk_size.toNat with ⟨out, c⟩
  rw [hr] at h
  simp only [hr] at hle
  dsimp only at h ⊢
  cases out with
  | none =>
    cases h
    refine ⟨rfl, ?_⟩
    rw [Option.map_none, Option.getD_none, Option.getD_none]
    by_cases hlen : 2 ^ 32 - 1 = d.cart.c_pos.blk_size.toNat
    · rw [if_pos hlen]
      exact ⟨_, _, Or.inl ⟨rfl, rfl, hlen.symm⟩⟩
    · rw [if_neg hlen]
      exact ⟨_, _, Or.inr ⟨rfl, fun _ heq => hlen heq.symm, ⟨m.spill, hspill, rfl⟩, rfl⟩⟩
  | some out =>
    dsimp only at h
    have hout := hle out rfl
    by_cases hlen : out.length = d.cart.c_pos.blk_size.toNat
    · rw [if_pos hlen] at h
      cases h
    · rw [if_neg hlen] at h
      cases h
      refine ⟨rfl, ?_⟩
      rw [Option.map_some, Option.getD_some, Option.getD_some, if_neg hlen]
      have hsome : ∀ hno : some out = none, d.cart.c_pos.blk_size.toNat ≠ 2 ^ 32 - 1 :=
        fun hno => absurd hno (Option.some_ne_none _)
      exact ⟨_, _, Or.inr ⟨rfl, hsome, ⟨out, hout, rfl⟩, rfl⟩⟩

end Fetch

section Within

variable {bs : List UInt8} {s : Status} {sili : Bool}

/-- A block that cannot be had is kept to its request past the CRC only when the CRC says so, and
the error that is replaced was the same. -/
theorem finishRead_error {rc : ℕ} {b : Buffer UInt8} {e : Drive} (hrc : rc < 2 ^ 32)
    (hsz : request_sz ≠ 0) (hreq : request_sz < 2 ^ 32) (h : blockContent L d = .error s)
    (hs : s = sam_medium_error E_UNRECOVERED_READ ∨ s = sam_medium_error E_DECOMPRESSION_CRC)
    (hw : WithinRequest L d request_sz lbp_method
      (finishRead L d.cart.c_pos (storedCrc d) m request_sz sili lbp_method rc b e)) :
    s = sam_medium_error E_DECOMPRESSION_CRC ∧ crcDiffers L d (b.front rc) = true := by
  obtain ⟨hzero, hstatus⟩ := hw.unread s hsz h
  cases hdiff : crcDiffers L d (b.front rc) with
  | true =>
    rw [finishRead_differs hdiff] at hstatus
    exact ⟨hstatus.symm, rfl⟩
  | false =>
    have hnot := fun asc => finishRead_not_medium hdiff hrc hsz hreq asc hzero
    rcases hs with rfl | rfl
    · exact absurd hstatus (hnot _)
    · exact absurd hstatus (hnot _)

/-- What is read into the buffer is the content, with what was there behind it. -/
theorem front_content (hle : bs.length ≤ d.cart.c_pos.blk_size.toNat) :
    ((Buffer.fresh (if request_sz < d.cart.c_pos.blk_size.toNat then m.bounce else m.buf)).store 0
      bs).front d.cart.c_pos.blk_size.toNat =
        bs ++ behind m request_sz d.cart.c_pos.blk_size.toNat bs :=
  Buffer.front_store_start _ hle

/-- What is copied out of a bounce buffer are the first bytes of the block. -/
theorem front_bounced {size : ℕ} (work : Buffer UInt8) (check : List UInt8) (h : request_sz ≤ size) :
    ((Buffer.fresh m.buf).store 0 ((work.store size check).front request_sz)).front request_sz =
      (work.front size).take request_sz := by
  rw [Buffer.front_store_start _ (by rw [Buffer.front_length]), Buffer.front_length,
    List.drop_eq_nil_of_le (by rw [Buffer.front_length]), List.append_nil,
    Buffer.front_store_of_le _ h, ← Buffer.take_front _ h]

/-- Content that ends the read at its CRC, or at the method, is kept to the request. -/
theorem within_nothing {b : Buffer UInt8} {e : Drive} (hext : b.extent ≤ request_sz)
    (h : blockContent L d = .ok bs)
    (hcrc : crcDiffers L d bs = true → e.cart.status = sam_medium_error E_DECOMPRESSION_CRC) :
    WithinRequest L d request_sz lbp_method (0, b, e) := by
  refine ⟨hext, le_refl _, Int.natCast_nonneg _, fun _ _ => rfl, ?_, ?_⟩
  · intro s _ hs
    rw [h] at hs
    cases hs
  · intro out _ hout hdiff _
    rw [h] at hout
    cases hout
    exact hcrc hdiff

/-- So is a block that cannot be had when nothing is counted of it and its error is reported. -/
theorem within_unread {b : Buffer UInt8} {e : Drive} (hext : b.extent ≤ request_sz)
    (h : blockContent L d = .error s) (hstatus : e.cart.status = s) :
    WithinRequest L d request_sz lbp_method (0, b, e) := by
  refine ⟨hext, le_refl _, Int.natCast_nonneg _, fun _ _ => rfl, ?_, ?_⟩
  · intro s' _ hs
    rw [h] at hs
    cases hs
    exact ⟨rfl, hstatus⟩
  · intro out _ hout
    rw [h] at hout
    cases hout

/-- Neither the request nor the buffer in front of it is overrun by what fits the block. -/
theorem lent_extent {xs : List UInt8} (hle : xs.length ≤ d.cart.c_pos.blk_size.toNat) :
    (if request_sz < d.cart.c_pos.blk_size.toNat then Buffer.fresh m.buf
      else (Buffer.fresh (if request_sz < d.cart.c_pos.blk_size.toNat then m.bounce
        else m.buf)).store 0 xs).extent ≤ request_sz := by
  split
  · exact Nat.zero_le _
  · exact Buffer.extent_store_le (Nat.zero_le _) (by omega)

/-- Content of a block longer than the request, whose CRC is right. -/
theorem within_bounced (hle : bs.length ≤ d.cart.c_pos.blk_size.toNat) {c : Store}
    (hsz : request_sz ≠ 0) (hreq : request_sz < 2 ^ 32) (h3 : lbp_method ≠ 3)
    (h : blockContent L d = .ok bs) (hb : request_sz < d.cart.c_pos.blk_size.toNat)
    (hright : crcDiffers L d (bs ++ behind m request_sz d.cart.c_pos.blk_size.toNat bs) = false)
    (hlt : d.cart.c_pos.blk_size.toNat < 2 ^ 32) :
    WithinRequest L d request_sz lbp_method
        (finishRead L d.cart.c_pos (storedCrc d) m request_sz sili lbp_method
          d.cart.c_pos.blk_size.toNat
          ((Buffer.fresh (if request_sz < d.cart.c_pos.blk_size.toNat then m.bounce else m.buf)).store
            0 bs) { d with cart := c }) ↔
      request_sz < 2 ^ 31 ∧
        request_sz ≤ bs.length + (checkBytes L d lbp_method bs).length ∧
        (behind m request_sz d.cart.c_pos.blk_size.toNat bs).take (request_sz - bs.length) =
          (checkBytes L d lbp_method bs).take (request_sz - bs.length) := by
  have hfront : _ = bs ++ behind m request_sz d.cart.c_pos.blk_size.toNat bs := front_content hle
  generalize hwork : (Buffer.fresh (if request_sz < d.cart.c_pos.blk_size.toNat then m.bounce
    else m.buf)).store 0 bs = work at hfront ⊢
  rw [← hfront] at hright
  rw [finishRead_sent hright h3 hlt]
  simp only [if_pos hb]
  generalize hsent : ((Buffer.fresh m.buf).store 0 _ : Buffer UInt8) = sent
  generalize hdone : reportLength _ _ _ _ _ _ = done
  have hbytes : sent.front request_sz =
      (bs ++ behind m request_sz d.cart.c_pos.blk_size.toNat bs).take request_sz := by
    rw [← hsent, front_bounced _ _ hb.le, hfront]
  have hlong : request_sz ≤ (bs ++ behind m request_sz d.cart.c_pos.blk_size.toNat bs).length := by
    rw [← hfront, Buffer.front_length]
    exact hb.le
  have hprefix : (bs ++ behind m request_sz d.cart.c_pos.blk_size.toNat bs).take request_sz =
      (bs ++ checkBytes L d lbp_method bs).take request_sz ↔
      (behind m request_sz d.cart.c_pos.blk_size.toNat bs).take (request_sz - bs.length) =
        (checkBytes L d lbp_method bs).take (request_sz - bs.length) := by
    rw [List.take_append, List.take_append, List.append_right_inj]
  constructor
  · intro hw
    have hsmall : request_sz < 2 ^ 31 := by
      have hpos := hw.nonneg
      dsimp only at hpos
      exact lt_of_asInt_nonneg hreq hpos
    have hcount := hw.counted bs h
    dsimp only at hcount
    rw [asInt_of_lt hsmall, Int.toNat_natCast, hbytes] at hcount
    have hlen := congrArg List.length hcount
    rw [List.length_take_of_le hlong, List.length_take, List.length_append] at hlen
    exact ⟨hsmall, by omega, hprefix.mp hcount⟩
  · rintro ⟨hsmall, hroom, hsame⟩
    have hint := asInt_of_lt hsmall
    refine ⟨?_, ?_, ?_, ?_, ?_, ?_⟩
    · dsimp only
      rw [← hsent]
      exact Buffer.extent_store_le (Nat.zero_le _) (by rw [Buffer.front_length]; omega)
    · dsimp only
      omega
    · dsimp only
      omega
    · intro out hout
      rw [h] at hout
      cases hout
      dsimp only
      rw [hint, Int.toNat_natCast, hbytes]
      exact hprefix.mpr hsame
    · intro s _ hs
      rw [h] at hs
      cases hs
    · intro out _ _ _ hzero
      dsimp only at hzero
      rw [hint] at hzero
      exact absurd (Int.natCast_eq_zero.mp hzero) hsz

/-- Content of a block not longer than the request, whose CRC is right. -/
theorem within_direct (hle : bs.length ≤ d.cart.c_pos.blk_size.toNat) {c : Store}
    (hreq : request_sz < 2 ^ 32) (h3 : lbp_method ≠ 3) (h : blockContent L d = .ok bs)
    (hb : ¬request_sz < d.cart.c_pos.blk_size.toNat)
    (hright : crcDiffers L d (bs ++ behind m request_sz d.cart.c_pos.blk_size.toNat bs) = false)
    (hlt : d.cart.c_pos.blk_size.toNat < 2 ^ 32) :
    WithinRequest L d request_sz lbp_method
        (finishRead L d.cart.c_pos (storedCrc d) m request_sz sili lbp_method
          d.cart.c_pos.blk_size.toNat
          ((Buffer.fresh (if request_sz < d.cart.c_pos.blk_size.toNat then m.bounce else m.buf)).store
            0 bs) { d with cart := c }) ↔
      bs.length = d.cart.c_pos.blk_size.toNat ∧
        d.cart.c_pos.blk_size.toNat + (checkBytes L d lbp_method bs).length ≤ request_sz ∧
        d.cart.c_pos.blk_size.toNat + (checkBytes L d lbp_method bs).length < 2 ^ 31 := by
  have hfront : _ = bs ++ behind m request_sz d.cart.c_pos.blk_size.toNat bs := front_content hle
  have hext : ((Buffer.fresh (if request_sz < d.cart.c_pos.blk_size.toNat then m.bounce
      else m.buf)).store 0 bs).extent ≤ request_sz :=
    Buffer.extent_store_le (Nat.zero_le _) (by omega)
  generalize hwork : (Buffer.fresh (if request_sz < d.cart.c_pos.blk_size.toNat then m.bounce
    else m.buf)).store 0 bs = work at hfront hext ⊢
  rw [← hfront] at hright
  rw [finishRead_sent hright h3 hlt]
  simp only [if_neg hb]
  have hdrive : ∀ content, checkBytes L { d with cart := c } lbp_method content =
      checkBytes L d lbp_method content := fun _ => rfl
  rw [hdrive, hfront]
  generalize hdone : reportLength _ _ _ _ _ _ = done
  have hmono : (checkBytes L d lbp_method bs).length ≤ (checkBytes L d lbp_method
      (bs ++ behind m request_sz d.cart.c_pos.blk_size.toNat bs)).length :=
    checkBytes_length_mono (by rw [List.length_append]; omega)
  have hbehind : bs.length + (behind m request_sz d.cart.c_pos.blk_size.toNat bs).length =
      d.cart.c_pos.blk_size.toNat := by
    rw [← List.length_append, ← hfront, Buffer.front_length]
  generalize behind m request_sz d.cart.c_pos.blk_size.toNat bs = rest at hfront hmono hbehind ⊢
  constructor
  · intro hw
    have hroom : d.cart.c_pos.blk_size.toNat + (checkBytes L d lbp_method (bs ++ rest)).length ≤
        request_sz := by
      by_cases hnone : (checkBytes L d lbp_method (bs ++ rest)).length = 0
      · omega
      · exact ((Buffer.extent_store_le_iff _ (by omega)).mp hw.extent).2
    have hmod := Nat.mod_eq_of_lt (lt_of_le_of_lt hroom hreq)
    have hsmall : d.cart.c_pos.blk_size.toNat + (checkBytes L d lbp_method (bs ++ rest)).length <
        2 ^ 31 := by
      have hpos := hw.nonneg
      dsimp only at hpos
      rw [hmod] at hpos
      exact lt_of_asInt_nonneg (lt_of_le_of_lt hroom hreq) hpos
    have hcount := hw.counted bs h
    dsimp only at hcount
    rw [hmod, asInt_of_lt hsmall, Int.toNat_natCast] at hcount
    have hlen := congrArg List.length hcount
    rw [Buffer.front_length, List.length_take, List.length_append] at hlen
    exact ⟨by omega, by omega, by omega⟩
  · rintro ⟨hfull, hroom, hsmall⟩
    have hnil : rest = [] := List.eq_nil_of_length_eq_zero (by omega)
    subst hnil
    rw [List.append_nil] at hfront ⊢
    have hmod : (d.cart.c_pos.blk_size.toNat + (checkBytes L d lbp_method bs).length) % 2 ^ 32 =
        d.cart.c_pos.blk_size.toNat + (checkBytes L d lbp_method bs).length :=
      Nat.mod_eq_of_lt (by omega)
    have hint := asInt_of_lt hsmall
    rw [hmod]
    refine ⟨Buffer.extent_store_le hext hroom, ?_, ?_, ?_, ?_, ?_⟩
    · dsimp only
      omega
    · dsimp only
      omega
    · intro out hout
      rw [h] at hout
      cases hout
      dsimp only
      rw [hint, Int.toNat_natCast, Buffer.front_store_append, hfront]
      exact (List.take_of_length_le (by rw [List.length_append]; omega)).symm
    · intro s _ hs
      rw [h] at hs
      cases hs
    · intro out _ hout hdiff _
      rw [h] at hout
      cases hout
      rw [hfront] at hright
      rw [hright] at hdiff
      cases hdiff

/-- Content that was fetched is sent within the request exactly when it fits. -/
theorem within_content (hle : bs.length ≤ d.cart.c_pos.blk_size.toNat) {c : Store}
    (hsz : request_sz ≠ 0) (hreq : request_sz < 2 ^ 32) (h : blockContent L d = .ok bs) :
    WithinRequest L d request_sz lbp_method
        (finishRead L d.cart.c_pos (storedCrc d) m request_sz sili lbp_method
          d.cart.c_pos.blk_size.toNat
          ((Buffer.fresh (if request_sz < d.cart.c_pos.blk_size.toNat then m.bounce else m.buf)).store
            0 bs) { d with cart := c }) ↔ ContentFits L m d request_sz lbp_method bs := by
  have hlt : d.cart.c_pos.blk_size.toNat < 2 ^ 32 := d.cart.c_pos.blk_size.toNat_lt
  have hfront : _ = bs ++ behind m request_sz d.cart.c_pos.blk_size.toNat bs := front_content hle
  have hlent := @lent_extent m d request_sz bs hle
  unfold ContentFits
  dsimp only
  cases hright : crcDiffers L d (bs ++ behind m request_sz d.cart.c_pos.blk_size.toNat bs) with
  | true =>
    rw [finishRead_differs (by rw [hfront]; exact hright)]
    exact iff_of_true (within_nothing hlent h fun _ => rfl) (Or.inl rfl)
  | false =>
    rw [or_iff_right Bool.false_ne_true]
    by_cases h3 : lbp_method = 3
    · subst h3
      rw [finishRead_guard (by rw [hfront]; exact hright)]
      refine Iff.trans ?_ (or_iff_left fun hc => hc.1 rfl).symm
      rw [and_iff_right rfl]
      constructor
      · intro hw
        cases hdiff : crcDiffers L d bs with
        | false => rfl
        | true =>
          have hstatus := hw.crc bs hsz h hdiff rfl
          have hkey : HARDWARE_ERROR = MEDIUM_ERROR := congrArg (fun s => s.sense.key) hstatus
          exact absurd hkey (by decide)
      · intro hsame
        refine within_nothing hlent h fun hdiff => ?_
        rw [hsame] at hdiff
        cases hdiff
    · have hno : ¬(lbp_method = 3 ∧ crcDiffers L d bs = false) := fun hc => h3 hc.1
      rw [or_iff_right hno, and_iff_right h3]
      by_cases hb : request_sz < d.cart.c_pos.blk_size.toNat
      · refine (within_bounced hle hsz hreq h3 h hb hright hlt).trans ?_
        rw [if_pos hb]
      · refine (within_direct hle hreq h3 h hb hright hlt).trans ?_
        rw [if_neg hb]

end Within

section Read

variable {sili : Bool} {b : Buffer UInt8} {e : Drive}

/-- A bounce buffer that is too short for its block. -/
theorem readBlockInto_overrun (hdata : d.cart.c_pos.blk_type = B_DATA) (hsz : request_sz ≠ 0)
    (h : request_sz < d.cart.c_pos.blk_size.toNat ∧ 2 ^ 32 ≤ d.cart.c_pos.blk_size.toNat + 4) :
    readBlockInto L m d request_sz sili lbp_method = none := by
  have hmark : B_DATA ≠ B_FILEMARK := by decide
  have heod : B_DATA ≠ B_EOD := by decide
  unfold readBlockInto
  dsimp only
  rw [if_neg hsz, hdata, if_neg hmark, if_neg heod, if_neg (not_not.mpr rfl), if_pos h]

/-- A block in the clear that cannot be read. -/
theorem readBlockInto_none (hdata : d.cart.c_pos.blk_type = B_DATA) (hsz : request_sz ≠ 0)
    (h : ¬(request_sz < d.cart.c_pos.blk_size.toNat ∧ 2 ^ 32 ≤ d.cart.c_pos.blk_size.toNat + 4))
    (hrun : readContentInto L m d (Buffer.fresh
      (if request_sz < d.cart.c_pos.blk_size.toNat then m.bounce else m.buf)) = (none, b, e)) :
    readBlockInto L m d request_sz sili lbp_method =
      some (0, if request_sz < d.cart.c_pos.blk_size.toNat then Buffer.fresh m.buf else b, e) := by
  have hmark : B_DATA ≠ B_FILEMARK := by decide
  have heod : B_DATA ≠ B_EOD := by decide
  unfold readBlockInto
  dsimp only
  rw [if_neg hsz, hdata, if_neg hmark, if_neg heod, if_neg (not_not.mpr rfl), if_neg h,
    ← apply_ite Buffer.fresh, hrun]

/-- Any other data block. -/
theorem readBlockInto_some {rc : ℕ} (hdata : d.cart.c_pos.blk_type = B_DATA) (hsz : request_sz ≠ 0)
    (h : ¬(request_sz < d.cart.c_pos.blk_size.toNat ∧ 2 ^ 32 ≤ d.cart.c_pos.blk_size.toNat + 4))
    (hrun : readContentInto L m d (Buffer.fresh
      (if request_sz < d.cart.c_pos.blk_size.toNat then m.bounce else m.buf)) = (some rc, b, e)) :
    readBlockInto L m d request_sz sili lbp_method =
      some (finishRead L d.cart.c_pos (storedCrc d) m request_sz sili lbp_method rc b e) := by
  have hmark : B_DATA ≠ B_FILEMARK := by decide
  have heod : B_DATA ≠ B_EOD := by decide
  unfold readBlockInto
  dsimp only
  rw [if_neg hsz, hdata, if_neg hmark, if_neg heod, if_neg (not_not.mpr rfl), if_neg h,
    ← apply_ite Buffer.fresh, hrun]

/-- The two errors that a block can be are told apart. -/
theorem unread_ne_crc :
    sam_medium_error E_UNRECOVERED_READ ≠ sam_medium_error E_DECOMPRESSION_CRC := by
  intro h
  have hasc : E_UNRECOVERED_READ = E_DECOMPRESSION_CRC := congrArg (fun s => s.sense.asc_ascq) h
  exact absurd hasc (by decide)

variable {bs : List UInt8} {s : Status}

/-- A compressed block that cannot be had is kept to its request when the CRC of no bytes is found
wrong, and that is its error. -/
theorem read_compressed_error (hspill : m.spill.length ≤ d.cart.c_pos.blk_size.toNat)
    (hdata : d.cart.c_pos.blk_type = B_DATA) (hsz : request_sz ≠ 0) (hreq : request_sz < 2 ^ 32)
    (hover : ¬(request_sz < d.cart.c_pos.blk_size.toNat ∧ 2 ^ 32 ≤ d.cart.c_pos.blk_size.toNat + 4))
    (hcomp : CompressedHere d) (h : blockContent L d = .error s) :
    ∃ r, readBlockInto L m d request_sz sili lbp_method = some r ∧
      (WithinRequest L d request_sz lbp_method r ↔
        s = sam_medium_error E_DECOMPRESSION_CRC ∧ crcDiffers L d [] = true) := by
  obtain ⟨rc, out, e, hfetch, hrc, hs⟩ := readContentInto_error (m := m) (b := Buffer.fresh
    (if request_sz < d.cart.c_pos.blk_size.toNat then m.bounce else m.buf)) hcomp h
  refine ⟨_, readBlockInto_some hdata hsz hover hfetch, ?_, ?_⟩
  · intro hw
    obtain ⟨hdec, hdiff⟩ := finishRead_error (lt_of_le_of_lt hrc d.cart.c_pos.blk_size.toNat_lt) hsz
      hreq h (hs.imp_right And.left) hw
    rcases hs with hunread | ⟨-, hzero, -⟩
    · exact absurd (hunread.symm.trans hdec) unread_ne_crc
    · subst hzero
      exact ⟨hdec, hdiff⟩
  · rintro ⟨hdec, hdiff⟩
    rcases hs with hunread | ⟨-, hzero, hout⟩
    · exact absurd (hunread.symm.trans hdec) unread_ne_crc
    · subst hzero hout
      rw [finishRead_differs hdiff]
      exact within_unread (lent_extent hspill) h hdec.symm

/-- A block in the clear that cannot be read is, unless the error passes for its length. -/
theorem read_clear_error (hspill : m.spill.length ≤ d.cart.c_pos.blk_size.toNat)
    (hdata : d.cart.c_pos.blk_type = B_DATA) (hsz : request_sz ≠ 0) (hreq : request_sz < 2 ^ 32)
    (hover : ¬(request_sz < d.cart.c_pos.blk_size.toNat ∧ 2 ^ 32 ≤ d.cart.c_pos.blk_size.toNat + 4))
    (hcomp : ¬CompressedHere d) (h : blockContent L d = .error s) :
    ∃ r, readBlockInto L m d request_sz sili lbp_method = some r ∧
      (WithinRequest L d request_sz lbp_method r ↔
        ((d.cart.read_tape_block d.cart.c_pos.blk_size.toNat).1 = none →
          d.cart.c_pos.blk_size.toNat ≠ 2 ^ 32 - 1)) := by
  obtain ⟨hs, out, e, ⟨hfetch, hnone, hsize⟩ | ⟨hfetch, hsize, ⟨xs, hxs, hout⟩, hstatus⟩⟩ :=
    readContentInto_unread (m := m) (b := Buffer.fresh
      (if request_sz < d.cart.c_pos.blk_size.toNat then m.bounce else m.buf)) hcomp hspill h
  · refine ⟨_, readBlockInto_some hdata hsz hover hfetch, iff_of_false ?_ fun hc => hc hnone hsize⟩
    intro hw
    have hdec := (finishRead_error d.cart.c_pos.blk_size.toNat_lt hsz hreq h (Or.inl hs) hw).1
    exact absurd (hs.symm.trans hdec) unread_ne_crc
  · refine ⟨_, readBlockInto_none hdata hsz hover hfetch, iff_of_true ?_ hsize⟩
    subst hout
    exact within_unread (lent_extent hxs) h hstatus

/-- Reading a recorded block within a request that is not empty. -/
theorem readFits_iff
    (hlzo : ∀ z n out, L.lzo1x_decompress_safe z n = some out → out.length ≤ n)
    (hzlib : ∀ z n out, L.uncompress z n = some out → out.length ≤ n)
    (hspill : m.spill.length ≤ d.cart.c_pos.blk_size.toNat)
    (hdata : d.cart.c_pos.blk_type = B_DATA) (hsz : request_sz ≠ 0) (hreq : request_sz < 2 ^ 32)
    (hover : ¬(request_sz < d.cart.c_pos.blk_size.toNat ∧ 2 ^ 32 ≤ d.cart.c_pos.blk_size.toNat + 4)) :
    ∃ r, readBlockInto L m d request_sz sili lbp_method = some r ∧
      (WithinRequest L d request_sz lbp_method r ↔ ReadFits L m d request_sz lbp_method) := by
  have hroom : d.cart.c_pos.blk_size.toNat ≤ request_sz ∨ d.cart.c_pos.blk_size.toNat + 4 < 2 ^ 32 := by
    omega
  unfold ReadFits
  dsimp only
  rw [and_iff_right hroom]
  cases h : blockContent L d with
  | ok bs =>
    obtain ⟨c, -, hfetch⟩ := readContentInto_ok (m := m) (b := Buffer.fresh
      (if request_sz < d.cart.c_pos.blk_size.toNat then m.bounce else m.buf)) h
    exact ⟨_, readBlockInto_some hdata hsz hover hfetch,
      within_content (blockContent_length_le hlzo hzlib h) hsz hreq h⟩
  | error s =>
    dsimp only
    by_cases hcomp : CompressedHere d
    · have hread := @read_compressed_error L m d request_sz lbp_method sili s hspill hdata hsz hreq
        hover hcomp h
      unfold CompressedHere at hcomp
      rw [if_pos hcomp]
      exact hread
    · have hread := @read_clear_error L m d request_sz lbp_method sili s hspill hdata hsz hreq
        hover hcomp h
      unfold CompressedHere at hcomp
      rw [if_neg hcomp]
      exact hread

end Read

end Fits

/-- Reading a recorded block keeps to its request exactly when the content is had in full and fits
with its check bytes, or the request cuts it, or the CRC tells that it cannot be had. -/
theorem read_block_within_iff {L : Libs} {m : ReadMemory} {d : Drive} {request_sz lbp_method : ℕ}
    (sili : Bool)
    (hlzo : ∀ z n out, L.lzo1x_decompress_safe z n = some out → out.length ≤ n)
    (hzlib : ∀ z n out, L.uncompress z n = some out → out.length ≤ n)
    (hspill : m.spill.length ≤ d.cart.c_pos.blk_size.toNat)
    (hdata : d.cart.c_pos.blk_type = B_DATA) (hreq : request_sz < 2 ^ 32) :
    (∃ r, readBlockInto L m d request_sz sili lbp_method = some r ∧
      WithinRequest L d request_sz lbp_method r) ↔
      request_sz = 0 ∨ ReadFits L m d request_sz lbp_method := by
  by_cases hsz : request_sz = 0
  · subst hsz
    have hrun : readBlockInto L m d 0 sili lbp_method = some (0, Buffer.fresh m.buf, d) := by
      unfold readBlockInto
      exact if_pos rfl
    refine iff_of_true ⟨_, hrun, ?_⟩ (Or.inl rfl)
    exact ⟨Nat.zero_le _, le_refl _, le_refl _, fun _ _ => rfl, fun _ hne => absurd rfl hne,
      fun _ hne => absurd rfl hne⟩
  rw [or_iff_right hsz]
  by_cases hover : request_sz < d.cart.c_pos.blk_size.toNat ∧ 2 ^ 32 ≤ d.cart.c_pos.blk_size.toNat + 4
  · rw [readBlockInto_overrun hdata hsz hover]
    refine iff_of_false ?_ (fun hc => ?_)
    · rintro ⟨r, hr, -⟩
      cases hr
    · have := hc.1
      omega
  obtain ⟨r, hrun, hiff⟩ := @readFits_iff L m d request_sz lbp_method sili hlzo hzlib hspill
    hdata hsz hreq hover
  simp only [hrun, Option.some.injEq, exists_eq_left']
  exact hiff

/-- Protecting a block puts its check bytes behind it. -/
theorem protectBlock_checkBytes {L : Libs} {d : Drive} {lbp_method : ℕ} {bs : List UInt8}
    {stored : Option UInt32} (hst : ∀ crc ∈ stored, crc = L.crc32c 0 bs) :
    protectBlock L d lbp_method stored bs = bs ++ checkBytes L d lbp_method bs := by
  by_cases h1 : lbp_method = 1
  · subst h1
    change BlockProtectRSCRC bs d.lbp_rscrc_be = bs ++ if bs.length = 0 then [] else _
    unfold BlockProtectRSCRC
    dsimp only
    by_cases hz : bs.length = 0
    · rw [if_pos hz, if_pos hz, List.eq_nil_of_length_eq_zero hz, List.append_nil]
    · rw [if_neg hz, if_neg hz]
      split
      · rfl
      · rfl
  by_cases h2 : lbp_method = 2
  · subst h2
    have hcrc : stored.getD (L.crc32c 0 bs) = L.crc32c 0 bs := by
      cases stored with
      | none => rfl
      | some crc => exact hst crc rfl
    change bs ++ leBytes 4 (stored.getD _).toNat = _
    rw [hcrc]
    rfl
  · rw [checkBytes_other h1 h2, List.append_nil]
    unfold protectBlock
    split
    · exact absurd rfl h1
    · exact absurd rfl h2
    · rfl

/-- What the plain function makes of a block whose content is `bs`. -/
theorem readBlock_content {L : Libs} {d : Drive} {request_sz lbp_method : ℕ} {bs : List UInt8}
    {c : Store} (sili : Bool) (hdata : d.cart.c_pos.blk_type = B_DATA) (hsz : request_sz ≠ 0)
    (hplain : readContent L d = (some bs, { d with cart := c })) :
    readBlock L d request_sz sili lbp_method =
      if crcDiffers L d bs = true then
        ([], { d with cart := c }.report (sam_medium_error E_DECOMPRESSION_CRC))
      else if lbp_method = 3 then
        ([], { d with cart := c }.report (sam_hardware_error E_LOGICAL_BLOCK_GUARD_FAILED))
      else
        let whole := protectBlock L { d with cart := c } lbp_method (storedCrc d) bs
        let out := if request_sz < d.cart.c_pos.blk_size.toNat then takePad request_sz whole else whole
        (out, reportLength
          { d with
            cart := c
            bytesRead_I := d.bytesRead_I + d.cart.c_pos.blk_size.toNat
            bytesRead_M := d.bytesRead_M + d.cart.c_pos.disk_blk_size }
          request_sz (if lbp_method ≠ 0 then (request_sz + 2 ^ 32 - 4) % 2 ^ 32 else request_sz)
          out.length d.cart.c_pos.blk_size.toNat sili) := by
  have hmark : B_DATA ≠ B_FILEMARK := by decide
  have heod : B_DATA ≠ B_EOD := by decide
  unfold readBlock
  dsimp only
  rw [if_neg hsz, hdata, if_neg hmark, if_neg heod, if_neg (not_not.mpr rfl), hplain]
  rfl

/-- Of a block whose content is had in full, the bytes counted and the drive are those of the plain
function. -/
theorem readBlockInto_readBlock {L : Libs} {m : ReadMemory} {d : Drive} {request_sz lbp_method : ℕ}
    {bs : List UInt8} (sili : Bool) (hdata : d.cart.c_pos.blk_type = B_DATA) (hsz : request_sz ≠ 0)
    (hlt : d.cart.c_pos.blk_size.toNat + 4 < 2 ^ 32) (h : blockContent L d = .ok bs)
    (hfull : bs.length = d.cart.c_pos.blk_size.toNat) :
    ∃ r, readBlockInto L m d request_sz sili lbp_method = some r ∧
      r.1 = asInt (readBlock L d request_sz sili lbp_method).1.length ∧
      r.2.1.front (readBlock L d request_sz sili lbp_method).1.length =
        (readBlock L d request_sz sili lbp_method).1 ∧
      (readBlock L d request_sz sili lbp_method).1.length ≤ r.2.1.extent ∧
      r.2.2 = (readBlock L d request_sz sili lbp_method).2 := by
  obtain ⟨c, hplain, hfetch⟩ := readContentInto_ok (m := m) (b := Buffer.fresh
    (if request_sz < d.cart.c_pos.blk_size.toNat then m.bounce else m.buf)) h
  rw [takePad_self hfull] at hplain
  have hrest : behind m request_sz d.cart.c_pos.blk_size.toNat bs = [] :=
    List.drop_eq_nil_of_le (by rw [Buffer.front_length, hfull])
  have hfront : _ = bs ++ behind m request_sz d.cart.c_pos.blk_size.toNat bs :=
    front_content (le_of_eq hfull)
  rw [hrest, List.append_nil] at hfront
  refine ⟨_, readBlockInto_some hdata hsz (by omega) hfetch, ?_⟩
  have hzero : asInt ([] : List UInt8).length = 0 := asInt_of_lt (by decide)
  rw [readBlock_content sili hdata hsz hplain]
  cases hdiff : crcDiffers L d bs with
  | true =>
    rw [finishRead_differs (by rw [hfront]; exact hdiff), if_pos rfl]
    exact ⟨hzero.symm, rfl, Nat.zero_le _, rfl⟩
  | false =>
    rw [if_neg Bool.false_ne_true]
    by_cases h3 : lbp_method = 3
    · subst h3
      rw [finishRead_guard (by rw [hfront]; exact hdiff), if_pos rfl]
      exact ⟨hzero.symm, rfl, Nat.zero_le _, rfl⟩
    · have hcheck : (checkBytes L { d with cart := c } lbp_method bs).length ≤ 4 :=
        checkBytes_length_le bs
      rw [finishRead_sent (by rw [hfront]; exact hdiff) h3 (by omega), if_neg h3, hfront]
      dsimp only
      rw [protectBlock_checkBytes (storedCrc_eq hdiff)]
      have hmod : (d.cart.c_pos.blk_size.toNat + (checkBytes L { d with cart := c } lbp_method
          bs).length) % 2 ^ 32 = (bs ++ checkBytes L { d with cart := c } lbp_method bs).length := by
        rw [List.length_append, hfull]
        exact Nat.mod_eq_of_lt (by omega)
      rw [hmod]
      generalize hwhole : bs ++ checkBytes L { d with cart := c } lbp_method bs = whole
      by_cases hb : request_sz < d.cart.c_pos.blk_size.toNat
      · have hlong : request_sz ≤ whole.length := by
          rw [← hwhole, List.length_append]
          omega
        have hcut : takePad request_sz whole = whole.take request_sz := by
          rw [takePad, Nat.sub_eq_zero_of_le hlong, List.replicate_zero, List.append_nil]
        simp only [if_pos hb, hcut, List.length_take_of_le hlong]
        refine ⟨trivial, ?_, ?_, trivial⟩
        · rw [if_pos hb] at hfront
          rw [front_bounced _ _ hb.le, hfront, ← hwhole]
          exact (List.take_append_of_le_length (by omega)).symm
        · refine le_trans ?_ (Buffer.end_le_extent_store _ (Nat.zero_le _) _)
          rw [Buffer.front_length, Nat.zero_add]
      · simp only [if_neg hb]
        refine ⟨trivial, ?_, ?_, trivial⟩
        · rw [if_neg hb] at hfront
          rw [← hwhole, List.length_append, hfull, Buffer.front_store_append, hfront]
        · have hstart := Buffer.end_le_extent_store (Buffer.fresh m.buf) (Nat.zero_le _) bs
          rw [Nat.zero_add, hfull] at hstart
          rw [← hwhole, List.length_append, hfull]
          exact Buffer.end_le_extent_store _ hstart _

/-- What is decompressed by storing is as long as it was to be. -/
theorem unstoreStream_length {header z out : List UInt8} {n : ℕ}
    (h : unstoreStream header z n = some out) : out.length ≤ n := by
  unfold unstoreStream at h
  split at h
  · cases h
    rename_i hlen
    exact le_of_eq hlen
  · cases h

/-- Memory that holds zeros. -/
def zeroMemory : ReadMemory := ⟨fun _ => 0, fun _ => 0, [], []⟩

/-- A block of one byte that is read with room for its check word keeps to its request. -/
theorem read_block_within_plainDrive :
    ∃ r, readBlockInto storedLibs zeroMemory plainDrive 5 false 2 = some r ∧
      WithinRequest storedLibs plainDrive 5 2 r := by
  have hsize : plainDrive.cart.c_pos.blk_size.toNat = 1 := by decide +kernel
  have hcontent : (blockContent storedLibs plainDrive).toOption = some [7] := by decide +kernel
  refine (read_block_within_iff false (fun _ _ _ h => unstoreStream_length h)
    (fun _ _ _ h => unstoreStream_length h) (Nat.zero_le _) (by decide +kernel)
    (by decide)).mpr (Or.inr ⟨?_, ?_⟩)
  · rw [hsize]
    exact Or.inl (by decide)
  · cases hread : blockContent storedLibs plainDrive with
    | error st =>
      rw [hread] at hcontent
      cases hcontent
    | ok bs =>
      rw [hread] at hcontent
      obtain rfl := Option.some.inj hcontent
      refine Or.inr (Or.inr ⟨by decide, ?_⟩)
      rw [hsize, if_neg (by decide)]
      decide +kernel

/-- The same block read into a buffer of one byte: its check word is stored behind it. -/
theorem read_block_exceeds : ¬∀ (L : Libs) (m : ReadMemory) (d : Drive) (request_sz lbp_method : ℕ)
    (sili : Bool), (∀ z n out, L.lzo1x_decompress_safe z n = some out → out.length ≤ n) →
      (∀ z n out, L.uncompress z n = some out → out.length ≤ n) →
      m.spill.length ≤ d.cart.c_pos.blk_size.toNat → d.cart.c_pos.blk_type = B_DATA →
      request_sz < 2 ^ 32 → ∃ r, readBlockInto L m d request_sz sili lbp_method = some r ∧
        WithinRequest L d request_sz lbp_method r := by
  intro hall
  obtain ⟨r, hrun, hw⟩ := hall storedLibs zeroMemory plainDrive 1 2 false
    (fun _ _ _ h => unstoreStream_length h) (fun _ _ _ h => unstoreStream_length h) (Nat.zero_le _)
    (by decide +kernel) (by decide)
  have hext : (readBlockInto storedLibs zeroMemory plainDrive 1 false 2).map (·.2.1.extent) = some 5 := by
    decide +kernel
  rw [hrun] at hext
  have hlen : r.2.1.extent = 5 := Option.some.inj hext
  have hle := hw.extent
  omega

end Mhvtl.Ssc
