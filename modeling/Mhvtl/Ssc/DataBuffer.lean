import Mhvtl.Ssc.ReadBuffer
import Mhvtl.Ssc.Verifying

/-!
# The data buffer of a transfer

READ(6), WRITE(6) and VERIFY(6) compute how much they transfer, and move it through one data
buffer. Followed here is what becomes of this buffer: how far it is stored to, how far it is handed
on, and the lengths that blocks are handed on with. The blocks of a READ(6) are put one behind the
other; those of a WRITE(6) are all taken from the start. The kernel moves no more than the buffer of
the initiator holds.
-/

namespace Mhvtl.Ssc

open Bytes Cart Store

/-- The end of the loop of READ(6). -/
structure LoopEnd where
  /-- How many bytes are handed on. -/
  sz : ℕ
  /-- The data buffer. -/
  buf : Buffer UInt8
  /-- The command goes on behind the loop. -/
  ended : Bool

/-- The blocks of a READ(6) that are still to come, from `off` on in the data buffer. `ms` is what
other memory holds; a call that fails stores no more than the block has. -/
def readBlocksInto (L : Libs) (ms : ℕ → ReadMemory) (cdb : Cdb) (sz : ℕ) :
    ℕ → ℕ → Buffer UInt8 → Drive → LoopEnd
  | 0, off, b, _ => ⟨off, b, true⟩
  | count + 1, off, b, d =>
    match d.valid_encryption_blk with
    | none => ⟨off, b, false⟩
    | some (false, _) => ⟨off, b, false⟩
    | some (true, d) =>
      let m := { ms count with
        buf := fun k => b.mem (off + k)
        spill := (ms count).spill.take d.cart.c_pos.blk_size.toNat }
      match readBlockInto L m d sz (sili cdb) (readLbpMethod d) with
      | none => ⟨off, b, false⟩
      | some (retval, part, d) =>
        let b := b.store off (part.front part.extent)
        if retval = 0 ∧ fixedBlock cdb then ⟨off, b, true⟩
        else readBlocksInto L ms cdb sz count (off + retval).toNat b d

/-- How a command uses the data buffer. -/
structure BufferUse where
  /-- Block size times count, when it is computed. -/
  product : Option ℕ
  /-- How far the data buffer is stored to. -/
  stored : ℕ
  /-- How far it is handed on, to the initiator or to the medium. -/
  handed : ℕ
  /-- The lengths that blocks are handed on with to be written. -/
  lengths : List ℕ

/-- How many sectors of 512 bytes a command moves at most. -/
def max_sectors : ℕ := 4096

/-- A command that is rejected before any data moves. -/
def BufferUse.rejected : BufferUse := ⟨none, 0, 0, []⟩

/-- READ(6) and VERIFY(6) behind their own checks, over a data buffer that holds `mem`, for an
initiator with a buffer of `scsi_bufflen` bytes. -/
def complete_read_6_use (L : Libs) (scsi_bufflen : ℕ) (ms : ℕ → ReadMemory) (mem : ℕ → UInt8)
    (d : Drive) (cdb : Cdb) (sz count : ℕ) : BufferUse :=
  let d := d.declare_ssc_vars
  if ReadAdmitted d then
    let e := readBlocksInto L ms cdb sz count 0 (Buffer.fresh mem) d
    ⟨if e.ended then some (sz * count) else none, e.buf.extent, min e.sz scsi_bufflen, []⟩
  else .rejected

/-- READ(6). -/
def ssc_read_6_use (L : Libs) (scsi_bufflen : ℕ) (ms : ℕ → ReadMemory) (mem : ℕ → UInt8) (d : Drive)
    (cdb : Cdb) : BufferUse :=
  let d := d.declare_ssc_vars
  let (count, sz) := opcode_6_params d cdb
  if sili cdb ∧ fixedBlock cdb then .rejected
  else complete_read_6_use L scsi_bufflen ms mem d cdb sz count

/-- VERIFY(6). -/
def ssc_verify_6_use (L : Libs) (scsi_bufflen : ℕ) (ms : ℕ → ReadMemory) (mem : ℕ → UInt8)
    (d : Drive) (cdb : Cdb) : BufferUse :=
  let d := d.declare_ssc_vars
  let (blocks, sz) := opcode_6_params d cdb
  if cdb 1 &&& 0x20 ≠ 0 then .rejected
  else if cdb 1 &&& 0x08 ≠ 0 then .rejected
  else complete_read_6_use L scsi_bufflen ms mem d cdb sz blocks

/-- The length that a block of `src_sz` bytes is handed on with: without its check word, and
unsigned. -/
def lbpSize (d : Drive) (src_sz : ℕ) : ℕ :=
  if writeLbpMethod d ≠ 0 then (src_sz + 2 ^ 32 - 4) % 2 ^ 32 else src_sz

/-- How far the data buffer is read for it: not at all at the end of the partition, and to the end of
the check word but for a null medium. A block that cannot be compressed is left in front of its check
word. -/
def blockReach (L : Libs) (d : Drive) (src_sz : ℕ) : ℕ :=
  match medium_partition_capacity L d d.cart.partition_id with
  | none => 0
  | some partition_capacity =>
    if partition_capacity ≤ d.cart.current_tape_offset then 0
    else if d.cart.mam.MediumType ≠ MEDIA_TYPE_NULL ∧ writeLbpMethod d ≠ 0 then lbpSize d src_sz + 4
    else lbpSize d src_sz

/-- The blocks of a WRITE(6): their lengths, and how far the data buffer is read. -/
def writeBlocksUse (L : Libs) (data : ℕ → UInt8) (sz : ℕ) : ℕ → Drive → List ℕ × ℕ
  | 0, _ => ([], 0)
  | count + 1, d =>
    let (lengths, reach) := match writeBlock L d data sz with
      | none => ([], 0)
      | some (_, d) =>
        if d.sam_stat ≠ SAM_STAT_GOOD then ([], 0) else writeBlocksUse L data sz count d
    (lbpSize d sz :: lengths, max (blockReach L d sz) reach)

/-- WRITE(6). What the initiator sends is retrieved before anything is checked. -/
def ssc_write_6_use (L : Libs) (scsi_bufflen : ℕ) (data : ℕ → UInt8) (d : Drive) (cdb : Cdb) :
    BufferUse :=
  let d := d.declare_ssc_vars
  let (count, sz) := opcode_6_params d cdb
  let retrieved :=
    if d.cart.mam.MediumType ≠ MEDIA_TYPE_NULL then min (sz * count) scsi_bufflen else 0
  match check_restrictions d with
  | none => ⟨some (sz * count), retrieved, 0, []⟩
  | some (false, _) => ⟨some (sz * count), retrieved, 0, []⟩
  | some (true, d) =>
    if d.cart.OK_to_write then
      let (lengths, reach) := writeBlocksUse L data sz count (update_volume_change_reference d)
      ⟨some (sz * count), retrieved, reach, lengths⟩
    else ⟨some (sz * count), retrieved, 0, []⟩

/-- The commands that move data. -/
inductive Transfer where
  | read_6 | write_6 | verify_6
deriving DecidableEq

/-- How a command uses the data buffer, which holds `mem` or what the initiator sends. -/
def Transfer.use (op : Transfer) (L : Libs) (scsi_bufflen : ℕ) (ms : ℕ → ReadMemory) (mem : ℕ → UInt8)
    (d : Drive) (cdb : Cdb) : BufferUse :=
  match op with
  | read_6 => ssc_read_6_use L scsi_bufflen ms mem d cdb
  | write_6 => ssc_write_6_use L scsi_bufflen mem d cdb
  | verify_6 => ssc_verify_6_use L scsi_bufflen ms mem d cdb

/-- A command on blocks of `sz` bytes keeps to the data buffer. -/
structure InBuffer (u : BufferUse) (sz : ℕ) : Prop where
  /-- Block size times count is an `int`. -/
  product : ∀ n ∈ u.product, n < 2 ^ 31
  /-- Nothing is stored behind the buffer. -/
  stored : u.stored ≤ bufsize
  /-- Nothing behind it is handed on. -/
  handed : u.handed ≤ bufsize
  /-- No length has wrapped. -/
  lengths : ∀ n ∈ u.lengths, n ≤ sz

/-- Drives with the same settings for check words. -/
structure SameProtection (d d' : Drive) : Prop where
  /-- For reading. -/
  read : d'.LBP_R = d.LBP_R
  /-- For writing. -/
  write : d'.LBP_W = d.LBP_W
  /-- The method. -/
  method : d'.LBP_method = d.LBP_method
  /-- What the drive supports. -/
  supports : d'.pm.drive_supports_LBP = d.pm.drive_supports_LBP

/-- And of the same block length. -/
structure SameTransfers (d d' : Drive) : Prop extends SameProtection d d' where
  /-- The block descriptor. -/
  descriptor : d'.modeBlockDescriptor = d.modeBlockDescriptor

/-- What a block that is read may take of the data buffer, for a request of `sz` bytes. -/
def blockRoom (d : Drive) (sz : ℕ) : ℕ :=
  if readLbpMethod d = 1 ∨ readLbpMethod d = 2 then sz + 4 else sz

/-- The blocks that a READ(6) asks for fit the data buffer with their check words. With the method
that there is not, every block is put at the start. -/
def ReadsInside (d : Drive) (cdb : Cdb) : Prop :=
  let (count, sz) := opcode_6_params d cdb
  count = 0 ∨ sz = 0 ∨
    if readLbpMethod d = 3 then sz ≤ bufsize ∧ sz * count < 2 ^ 31
    else blockRoom d sz * count ≤ bufsize

/-- Each block that a WRITE(6) asks for fits the data buffer, and has room for a check word. All of
them together are at least counted. -/
def WritesInside (d : Drive) (cdb : Cdb) : Prop :=
  let (count, sz) := opcode_6_params d cdb
  sz * count < 2 ^ 31 ∧ (0 < count → sz ≤ bufsize ∧ (writeLbpMethod d ≠ 0 → 4 ≤ sz))

/-- When a command keeps to the data buffer, for every tape. -/
def Transfer.Inside (op : Transfer) (d : Drive) (cdb : Cdb) : Prop :=
  match op with
  | read_6 => (sili cdb = true ∧ fixedBlock cdb = true) ∨ ReadsInside d cdb
  | write_6 => WritesInside d cdb
  | verify_6 => cdb 1 &&& 0x20 ≠ 0 ∨ cdb 1 &&& 0x08 ≠ 0 ∨ ReadsInside d cdb

namespace SameProtection

variable {a b c : Drive}

theorem refl (d : Drive) : SameProtection d d := ⟨rfl, rfl, rfl, rfl⟩

theorem trans (h : SameProtection a b) (h' : SameProtection b c) : SameProtection a c :=
  ⟨h'.read.trans h.read, h'.write.trans h.write, h'.method.trans h.method,
    h'.supports.trans h.supports⟩

/-- The method of a READ is the same. -/
theorem readLbpMethod (h : SameProtection a b) : Ssc.readLbpMethod b = Ssc.readLbpMethod a := by
  unfold Ssc.readLbpMethod
  rw [h.read, h.method]

/-- So is that of a WRITE. -/
theorem writeLbpMethod (h : SameProtection a b) : Ssc.writeLbpMethod b = Ssc.writeLbpMethod a := by
  unfold Ssc.writeLbpMethod
  rw [h.supports, h.write, h.method]

/-- And what a block may take. -/
theorem blockRoom (h : SameProtection a b) (sz : ℕ) : Ssc.blockRoom b sz = Ssc.blockRoom a sz := by
  unfold Ssc.blockRoom
  rw [h.readLbpMethod]

/-- Settings that are kept are these too. -/
theorem of_kept (h : SettingsKept a b) : SameProtection a b := by
  obtain ⟨c, v, i, m, r, s, w, x, rfl⟩ := h.eq
  exact ⟨rfl, rfl, rfl, rfl⟩

end SameProtection

section OneBlock

variable {L : Libs} {m : ReadMemory} {d : Drive} {sz : ℕ} {sili : Bool}

/-- What one block makes of the data buffer. -/
structure BlockUse (d : Drive) (sz : ℕ) (r : ℤ × Buffer UInt8 × Drive) : Prop where
  /-- It is stored within its room. -/
  extent : r.2.1.extent ≤ blockRoom d sz
  /-- What is counted of it is a count. -/
  nonneg : 0 ≤ r.1
  /-- It is within the room, too. -/
  le : r.1 ≤ blockRoom d sz
  /-- Nothing is counted with the method that there is not. -/
  guarded : readLbpMethod d = 3 → r.1 = 0
  /-- The settings stay. -/
  kept : SameProtection d r.2.2

/-- Check bytes are four at most, and none without a method. -/
theorem checkWord_le {e : Drive} {content : List UInt8} :
    sz + (checkBytes L e (readLbpMethod d) content).length ≤ blockRoom d sz := by
  unfold blockRoom
  by_cases hm : readLbpMethod d = 1 ∨ readLbpMethod d = 2
  · rw [if_pos hm]
    exact Nat.add_le_add_left (checkBytes_length_le content) sz
  · rw [if_neg hm]
    obtain ⟨h1, h2⟩ := not_or.mp hm
    rw [checkBytes_other h1 h2]
    exact le_refl _

/-- The content is put where there is room for it. -/
theorem readContentInto_le {b : Buffer UInt8}
    (hlzo : ∀ z n out, L.lzo1x_decompress_safe z n = some out → out.length ≤ n)
    (hzlib : ∀ z n out, L.uncompress z n = some out → out.length ≤ n)
    (hspill : m.spill.length ≤ d.cart.c_pos.blk_size.toNat)
    (hb : b.extent ≤ d.cart.c_pos.blk_size.toNat) :
    (readContentInto L m d b).2.1.extent ≤ d.cart.c_pos.blk_size.toNat ∧
      (∀ rc ∈ (readContentInto L m d b).1, rc ≤ d.cart.c_pos.blk_size.toNat) ∧
      SameProtection d (readContentInto L m d b).2.2 := by
  have hput : ∀ xs : List UInt8, xs.length ≤ d.cart.c_pos.blk_size.toNat →
      (b.store 0 xs).extent ≤ d.cart.c_pos.blk_size.toNat := fun xs hxs =>
    Buffer.extent_store_le hb (by rwa [Nat.zero_add])
  have hcomp : ∀ decompress : List UInt8 → ℕ → Option (List UInt8),
      (∀ z n out, decompress z n = some out → out.length ≤ n) →
      (uncompress_block_into m d decompress b).2.1.extent ≤ d.cart.c_pos.blk_size.toNat ∧
        (uncompress_block_into m d decompress b).1 ≤ d.cart.c_pos.blk_size.toNat ∧
        SameProtection d (uncompress_block_into m d decompress b).2.2 := by
    intro decompress hle
    unfold uncompress_block_into
    dsimp only
    split
    · exact ⟨hb, Nat.zero_le _, ⟨rfl, rfl, rfl, rfl⟩⟩
    split
    · exact ⟨hput _ hspill, Nat.zero_le _, ⟨rfl, rfl, rfl, rfl⟩⟩
    · rename_i hdec
      exact ⟨hput _ (hle _ _ _ hdec), le_refl _, ⟨rfl, rfl, rfl, rfl⟩⟩
  unfold readContentInto
  dsimp only
  split
  · obtain ⟨hext, hrc, hkept⟩ := hcomp L.lzo1x_decompress_safe hlzo
    exact ⟨hext, fun rc h => Option.some.inj h ▸ hrc, hkept⟩
  split
  · obtain ⟨hext, hrc, hkept⟩ := hcomp L.uncompress hzlib
    exact ⟨hext, fun rc h => Option.some.inj h ▸ hrc, hkept⟩
  have hread : ((d.cart.read_tape_block d.cart.c_pos.blk_size.toNat).1.getD m.spill).length ≤
      d.cart.c_pos.blk_size.toNat := by
    cases hr : (d.cart.read_tape_block d.cart.c_pos.blk_size.toNat).1 with
    | none => exact hspill
    | some bs => exact read_tape_block_length_le hr
  split
  · exact ⟨hput _ hread, fun rc h => le_of_eq (Option.some.inj h).symm, ⟨rfl, rfl, rfl, rfl⟩⟩
  · exact ⟨hput _ hread, fun rc h => (Option.some_ne_none rc (Option.mem_def.mp h).symm).elim,
      ⟨rfl, rfl, rfl, rfl⟩⟩

/-- A block has room for its bytes. -/
theorem le_blockRoom (d : Drive) (sz : ℕ) : sz ≤ blockRoom d sz := by
  unfold blockRoom
  split <;> omega

/-- That room is little more than the block. -/
theorem blockRoom_le (d : Drive) (sz : ℕ) : blockRoom d sz ≤ sz + 4 := by
  unfold blockRoom
  split <;> omega

/-- Reporting a length changes the status at most. -/
theorem reportLength_status (d : Drive) (request_sz lbp_sz rc blk_size : ℕ) (sili : Bool) :
    ∃ st, reportLength d request_sz lbp_sz rc blk_size sili =
      { d with cart := { d.cart with status := st } } := by
  unfold reportLength
  split
  · exact ⟨_, rfl⟩
  split
  · exact ⟨_, rfl⟩
  · exact ⟨d.cart.status, rfl⟩

/-- The settings are left alone. -/
theorem reportLength_protection {e : Drive} (h : SameProtection d e)
    (request_sz lbp_sz rc blk_size : ℕ) (sili : Bool) :
    SameProtection d (reportLength e request_sz lbp_sz rc blk_size sili) := by
  obtain ⟨st, heq⟩ := reportLength_status e request_sz lbp_sz rc blk_size sili
  rw [heq]
  exact h.trans ⟨rfl, rfl, rfl, rfl⟩

/-- What is read is sent from within the room, cut to the request. -/
theorem finishRead_use {rc : ℕ} {b : Buffer UInt8} {e : Drive} (hlt : sz < 2 ^ 24)
    (hrc : rc ≤ d.cart.c_pos.blk_size.toNat) (hb : b.extent ≤ d.cart.c_pos.blk_size.toNat)
    (hkept : SameProtection d e) :
    BlockUse d sz (finishRead L d.cart.c_pos (storedCrc d) m sz sili (readLbpMethod d) rc b e) := by
  have hlent : (if sz < d.cart.c_pos.blk_size.toNat then Buffer.fresh m.buf else b).extent ≤
      blockRoom d sz := by
    split
    · exact Nat.zero_le _
    · exact hb.trans ((Nat.le_of_not_lt (by assumption)).trans (le_blockRoom d sz))
  cases hdiff : crcDiffers L d (b.front rc) with
  | true =>
    rw [finishRead_differs hdiff]
    exact ⟨hlent, le_refl _, Int.natCast_nonneg _, fun _ => rfl, hkept.trans ⟨rfl, rfl, rfl, rfl⟩⟩
  | false =>
    by_cases h3 : readLbpMethod d = 3
    · rw [h3, finishRead_guard hdiff]
      exact ⟨hlent, le_refl _, Int.natCast_nonneg _, fun _ => rfl, hkept.trans ⟨rfl, rfl, rfl, rfl⟩⟩
    have hrc32 : rc < 2 ^ 32 := lt_of_le_of_lt hrc d.cart.c_pos.blk_size.toNat_lt
    rw [finishRead_sent hdiff h3 hrc32]
    have hroom := blockRoom_le d sz
    have hfits := le_blockRoom d sz
    have hcounted : ∀ i k, SameProtection d { e with bytesRead_I := i, bytesRead_M := k } :=
      fun _ _ => hkept.trans ⟨rfl, rfl, rfl, rfl⟩
    have hcheck := @checkBytes_length_le L e (readLbpMethod d) (b.front rc)
    by_cases hcut : sz < d.cart.c_pos.blk_size.toNat
    · have hcount : asInt sz = sz := asInt_of_lt (by omega)
      simp only [if_pos hcut, hcount]
      refine ⟨?_, Int.natCast_nonneg _, Int.ofNat_le.mpr hfits, fun hno => absurd hno h3, ?_⟩
      · exact Buffer.extent_store_le (Nat.zero_le _) (by rw [Buffer.front_length]; omega)
      · exact reportLength_protection (hcounted _ _) _ _ _ _ _
    · have hword := @checkWord_le L d sz e (b.front rc)
      have hmod : (rc + (checkBytes L e (readLbpMethod d) (b.front rc)).length) % 2 ^ 32 =
          rc + (checkBytes L e (readLbpMethod d) (b.front rc)).length := Nat.mod_eq_of_lt (by omega)
      have hcount := @asInt_of_lt (rc + (checkBytes L e (readLbpMethod d) (b.front rc)).length)
        (by omega)
      simp only [if_neg hcut, hmod, hcount]
      refine ⟨Buffer.extent_store_le (by omega) (by omega), Int.natCast_nonneg _,
        Int.ofNat_le.mpr (by omega), fun hno => absurd hno h3, ?_⟩
      exact reportLength_protection (hcounted _ _) _ _ _ _ _

/-- Reading one block keeps to its room. -/
theorem readBlockInto_use (hlzo : ∀ z n out, L.lzo1x_decompress_safe z n = some out → out.length ≤ n)
    (hzlib : ∀ z n out, L.uncompress z n = some out → out.length ≤ n)
    (hspill : m.spill.length ≤ d.cart.c_pos.blk_size.toNat) (hlt : sz < 2 ^ 24)
    {r : ℤ × Buffer UInt8 × Drive} (h : readBlockInto L m d sz sili (readLbpMethod d) = some r) :
    BlockUse d sz r := by
  have hnothing : ∀ e, SameProtection d e → BlockUse d sz (0, Buffer.fresh m.buf, e) := fun e he =>
    ⟨Nat.zero_le _, le_refl _, Int.natCast_nonneg _, fun _ => rfl, he⟩
  unfold readBlockInto at h
  dsimp only at h
  split at h
  · cases h
    exact hnothing d (.refl d)
  split at h
  · cases h
    exact hnothing _ ⟨rfl, rfl, rfl, rfl⟩
  split at h
  · cases h
    exact hnothing _ ⟨rfl, rfl, rfl, rfl⟩
  split at h
  · cases h
    exact hnothing _ ⟨rfl, rfl, rfl, rfl⟩
  split at h
  · cases h
  obtain ⟨hext, hrc, hkept⟩ := @readContentInto_le L m d
    (if sz < d.cart.c_pos.blk_size.toNat then Buffer.fresh m.bounce else Buffer.fresh m.buf)
    hlzo hzlib hspill (by split <;> exact Nat.zero_le _)
  split at h
  · rename_i heq
    rw [heq] at hext hkept
    cases h
    refine ⟨?_, le_refl _, Int.natCast_nonneg _, fun _ => rfl, hkept⟩
    dsimp only at hext ⊢
    split
    · exact Nat.zero_le _
    · exact hext.trans ((Nat.le_of_not_lt (by assumption)).trans (le_blockRoom d sz))
  · rename_i heq
    rw [heq] at hext hrc hkept
    cases h
    exact finishRead_use hlt (hrc _ rfl) hext hkept

/-- The room depends on the settings alone. -/
theorem readBlockInto_use_of
    (hlzo : ∀ z n out, L.lzo1x_decompress_safe z n = some out → out.length ≤ n)
    (hzlib : ∀ z n out, L.uncompress z n = some out → out.length ≤ n) {e : Drive}
    (he : SameProtection d e) (hspill : m.spill.length ≤ e.cart.c_pos.blk_size.toNat)
    (hlt : sz < 2 ^ 24) {r : ℤ × Buffer UInt8 × Drive}
    (h : readBlockInto L m e sz sili (readLbpMethod e) = some r) : BlockUse d sz r := by
  obtain ⟨hext, hnonneg, hle, hguarded, hkept⟩ := readBlockInto_use hlzo hzlib hspill hlt h
  rw [he.blockRoom] at hext hle
  rw [he.readLbpMethod] at hguarded
  exact ⟨hext, hnonneg, hle, hguarded, he.trans hkept⟩

/-- Of no bytes nothing is read. -/
theorem readBlockInto_zero (lbp_method : ℕ) :
    readBlockInto L m d 0 sili lbp_method = some (0, Buffer.fresh m.buf, d) := by
  rw [readBlockInto, if_pos rfl]

end OneBlock

section Loop

variable {L : Libs} {ms : ℕ → ReadMemory} {cdb : Cdb} {d : Drive} {sz : ℕ}

/-- The loop of READ(6) over blocks that count `gain` bytes at most, and that are stored little further.
What it stores and hands on is bounded by the number of blocks. -/
theorem readBlocksInto_le {gain slack : ℕ}
    (hblock : ∀ (m : ReadMemory) (d' : Drive) (r : ℤ × Buffer UInt8 × Drive), SameProtection d d' →
      m.spill.length ≤ d'.cart.c_pos.blk_size.toNat →
      readBlockInto L m d' sz (sili cdb) (readLbpMethod d') = some r →
        r.2.1.extent ≤ gain + slack ∧ 0 ≤ r.1 ∧ r.1 ≤ gain ∧ SameProtection d r.2.2)
    (count off : ℕ) (b : Buffer UInt8) {d' : Drive} (h : SameProtection d d') :
    (readBlocksInto L ms cdb sz count off b d').buf.extent ≤
        max b.extent (off + gain * count + slack) ∧
      off ≤ (readBlocksInto L ms cdb sz count off b d').sz ∧
      (readBlocksInto L ms cdb sz count off b d').sz ≤ off + gain * count := by
  have hnone : ∀ (k o : ℕ) (a : Buffer UInt8), a.extent ≤ max a.extent (o + gain * k + slack) ∧
      o ≤ o ∧ o ≤ o + gain * k := fun k o a =>
    ⟨le_max_left _ _, le_refl _, Nat.le_add_right _ _⟩
  induction count generalizing off b d' with
  | zero => exact hnone 0 off b
  | succ count ih =>
    unfold readBlocksInto
    rcases hcheck : d'.valid_encryption_blk with - | ⟨ok, e⟩
    · exact hnone (count + 1) off b
    cases ok with
    | false => exact hnone (count + 1) off b
    | true =>
      have hpass := Drive.valid_encryption_blk_true (congrArg (Option.map Prod.fst) hcheck)
      have he : SameProtection d e := by
        obtain ⟨st, heq, -⟩ := d'.checked_report
        have hsame : e = d'.checked := congrArg Prod.snd (Option.some.inj (hcheck.symm.trans hpass))
        rw [hsame, heq]
        exact h.trans ⟨rfl, rfl, rfl, rfl⟩
      dsimp only
      split
      · exact hnone (count + 1) off b
      · rename_i retval part f hread
        obtain ⟨hext, hpos, hle, hkept⟩ := hblock _ _ _ he (List.length_take_le _ _) hread
        dsimp only at hext hpos hle hkept
        have hmul : gain * (count + 1) = gain * count + gain := Nat.mul_succ gain count
        have hstored : (b.store off (part.front part.extent)).extent ≤
            max b.extent (off + gain * (count + 1) + slack) := by
          refine Buffer.extent_store_le (le_max_left _ _) (le_max_of_le_right ?_)
          rw [Buffer.front_length]
          omega
        split
        · exact ⟨hstored, le_refl _, Nat.le_add_right _ _⟩
        · obtain ⟨hbuf, hlow, hhigh⟩ := ih ((off : ℤ) + retval).toNat
            (b.store off (part.front part.extent)) hkept
          exact ⟨hbuf.trans (by omega), by omega, by omega⟩

/-- Behind its checks the command is the loop over a buffer that nothing was stored to. -/
theorem complete_read_6_use_mounted {scsi_bufflen : ℕ} {mem : ℕ → UInt8} {count : ℕ}
    (h : ReadAdmitted d) :
    complete_read_6_use L scsi_bufflen ms mem d cdb sz count =
      let e := readBlocksInto L ms cdb sz count 0 (Buffer.fresh mem) d.declare_ssc_vars
      ⟨if e.ended then some (sz * count) else none, e.buf.extent, min e.sz scsi_bufflen, []⟩ :=
  if_pos h

/-- Without a cartridge with data it is rejected. -/
theorem complete_read_6_use_refused {scsi_bufflen : ℕ} {mem : ℕ → UInt8} {count : ℕ}
    (h : ¬ReadAdmitted d) :
    complete_read_6_use L scsi_bufflen ms mem d cdb sz count = .rejected := if_neg h

/-- A command that is rejected keeps to the data buffer. -/
theorem rejected_in_buffer (sz : ℕ) : InBuffer .rejected sz :=
  ⟨fun _ hn => (Option.some_ne_none _ (Option.mem_def.mp hn).symm).elim, Nat.zero_le _,
    Nat.zero_le _, fun _ hn => absurd hn List.not_mem_nil⟩

/-- So does one whose loop is bounded by the buffer. -/
theorem loop_in_buffer {gain slack count : ℕ} (scsi_bufflen : ℕ) (mem : ℕ → UInt8) {d' : Drive}
    (hblock : ∀ (m : ReadMemory) (e : Drive) (r : ℤ × Buffer UInt8 × Drive), SameProtection d' e →
      m.spill.length ≤ e.cart.c_pos.blk_size.toNat →
      readBlockInto L m e sz (sili cdb) (readLbpMethod e) = some r →
        r.2.1.extent ≤ gain + slack ∧ 0 ≤ r.1 ∧ r.1 ≤ gain ∧ SameProtection d' r.2.2)
    (hproduct : sz * count < 2 ^ 31) (hfits : gain * count + slack ≤ bufsize) :
    InBuffer (complete_read_6_use L scsi_bufflen ms mem d' cdb sz count) sz := by
  by_cases hmount : ReadAdmitted d'
  · rw [complete_read_6_use_mounted hmount]
    obtain ⟨hbuf, -, hsz⟩ := @readBlocksInto_le L ms cdb d' sz gain slack hblock count 0
      (Buffer.fresh mem) d'.declare_ssc_vars ⟨rfl, rfl, rfl, rfl⟩
    rw [Buffer.extent_fresh, Nat.zero_max] at hbuf
    have hhanded := (Nat.min_le_left _ scsi_bufflen).trans (hsz.trans (by omega : _ ≤ bufsize))
    refine ⟨?_, hbuf.trans (by omega), hhanded, fun n hn => absurd hn List.not_mem_nil⟩
    intro n hn
    dsimp only at hn
    split at hn
    · exact Option.some.inj hn ▸ hproduct
    · cases hn
  · rw [complete_read_6_use_refused hmount]
    exact rejected_in_buffer sz

/-- Blocks that fit the data buffer are read into it. -/
theorem reads_in_buffer (hlzo : ∀ z n out, L.lzo1x_decompress_safe z n = some out → out.length ≤ n)
    (hzlib : ∀ z n out, L.uncompress z n = some out → out.length ≤ n) (scsi_bufflen : ℕ)
    (mem : ℕ → UInt8) {d' : Drive} (h : SameProtection d d') (hin : ReadsInside d cdb) :
    InBuffer (complete_read_6_use L scsi_bufflen ms mem d' cdb (opcode_6_params d cdb).2
      (opcode_6_params d cdb).1) (opcode_6_params d cdb).2 := by
  have hlt := opcode_6_params_lt d cdb
  have hbuf : bufsize < 2 ^ 31 := by decide
  unfold ReadsInside at hin
  generalize opcode_6_params d cdb = params at hlt hin ⊢
  obtain ⟨count, sz⟩ := params
  dsimp only at hlt hin ⊢
  have hone : ∀ (m : ReadMemory) (e : Drive) (r : ℤ × Buffer UInt8 × Drive), SameProtection d' e →
      m.spill.length ≤ e.cart.c_pos.blk_size.toNat →
      readBlockInto L m e sz (sili cdb) (readLbpMethod e) = some r →
        BlockUse d sz r ∧ SameProtection d' r.2.2 := by
    intro m e r he hspill hr
    exact ⟨readBlockInto_use_of hlzo hzlib (h.trans he) hspill hlt hr,
      he.trans (readBlockInto_use hlzo hzlib hspill hlt hr).kept⟩
  have hrow : blockRoom d sz * count ≤ bufsize →
      InBuffer (complete_read_6_use L scsi_bufflen ms mem d' cdb sz count) sz := by
    intro hfits
    have hmul := Nat.mul_le_mul_right count (le_blockRoom d sz)
    refine @loop_in_buffer L ms cdb sz (blockRoom d sz) 0 count scsi_bufflen mem d' ?_ (by omega) hfits
    intro m e r he hspill hr
    obtain ⟨huse, hkept⟩ := hone m e r he hspill hr
    exact ⟨huse.extent, huse.nonneg, huse.le, hkept⟩
  rcases hin with rfl | rfl | hin
  · exact hrow (Nat.zero_le _)
  · refine @loop_in_buffer L ms cdb 0 0 0 count scsi_bufflen mem d' ?_ (by omega) (by omega)
    intro m e r he _ hr
    rw [readBlockInto_zero] at hr
    obtain rfl := Option.some.inj hr
    exact ⟨le_refl _, le_refl _, le_refl _, he⟩
  · by_cases h3 : readLbpMethod d = 3
    · rw [if_pos h3] at hin
      have hroom : blockRoom d sz = sz := by
        unfold blockRoom
        rw [h3]
        exact if_neg (by decide)
      refine @loop_in_buffer L ms cdb sz 0 sz count scsi_bufflen mem d' ?_ hin.2 (by omega)
      intro m e r he hspill hr
      obtain ⟨huse, hkept⟩ := hone m e r he hspill hr
      have hext := huse.extent
      rw [hroom] at hext
      exact ⟨by omega, huse.nonneg, le_of_eq (huse.guarded h3), hkept⟩
    · rw [if_neg h3] at hin
      exact hrow hin

end Loop

section Writes

variable {L : Libs} {data : ℕ → UInt8} {d : Drive} {cdb : Cdb} {sz : ℕ}

/-- Every way of writing leaves the settings alone. -/
theorem writeChosen_protection (lbp_sz lbp_method : ℕ) :
    SameProtection d (writeChosen L d data lbp_sz lbp_method).2 := by
  have hcrypto : SameProtection d (setup_crypto d) := .of_kept (setup_crypto_beside d).1.toSettingsKept
  have hnocomp : ∀ null_wr m, SameProtection d (writeBlock_nocomp L d data lbp_sz null_wr m).2 := by
    intro null_wr m
    unfold writeBlock_nocomp
    dsimp only
    split
    · exact hcrypto.trans ⟨rfl, rfl, rfl, rfl⟩
    · exact hcrypto.trans ⟨rfl, rfl, rfl, rfl⟩
  have hcomp : ∀ (compress : List UInt8 → Option (List UInt8)) comp_type,
      SameProtection d (writeBlock_comp L d data lbp_sz compress comp_type false lbp_method).2 := by
    intro compress comp_type
    unfold writeBlock_comp
    dsimp only
    split
    · exact hcrypto.trans ⟨rfl, rfl, rfl, rfl⟩
    split
    · exact hcrypto.trans ⟨rfl, rfl, rfl, rfl⟩
    · exact hcrypto.trans ⟨rfl, rfl, rfl, rfl⟩
  unfold writeChosen
  split
  · exact hnocomp true 0
  split
  · exact hnocomp false lbp_method
  split
  · exact hcomp _ _
  split
  · exact hcomp _ _
  · exact hnocomp false lbp_method

/-- So does a block. -/
theorem writeBlock_protection {r : ℕ × Drive} (h : writeBlock L d data sz = some r) :
    SameProtection d r.2 := by
  unfold writeBlock at h
  dsimp only at h
  split at h
  · cases h
  split at h
  · cases h
    exact ⟨rfl, rfl, rfl, rfl⟩
  split at h
  · cases h
  generalize (if writeLbpMethod d ≠ 0 then sz - 4 else sz) = n at h
  have hchosen := @writeChosen_protection L data d n (writeLbpMethod d)
  split at h
  · cases h
    exact hchosen
  · cases h
    exact hchosen.trans (.of_kept (warnAndCount_beside _ _).toSettingsKept)

/-- A block with room for its check word is handed on with no greater length. -/
theorem lbpSize_add_le (hlt : sz < 2 ^ 24) (hword : writeLbpMethod d ≠ 0 → 4 ≤ sz) :
    lbpSize d sz + (if writeLbpMethod d ≠ 0 then 4 else 0) ≤ sz := by
  unfold lbpSize
  by_cases hm : writeLbpMethod d ≠ 0
  · have hroom := hword hm
    have hmod : (sz + 2 ^ 32 - 4) % 2 ^ 32 = sz - 4 := by omega
    rw [if_pos hm, if_pos hm, hmod]
    omega
  · rw [if_neg hm, if_neg hm]
    omega

/-- Nor is the data buffer read further. -/
theorem blockReach_le (hlt : sz < 2 ^ 24) (hword : writeLbpMethod d ≠ 0 → 4 ≤ sz) :
    blockReach L d sz ≤ sz := by
  have hle := lbpSize_add_le hlt hword
  unfold blockReach
  split
  · exact Nat.zero_le _
  split
  · exact Nat.zero_le _
  split
  · rename_i hm
    rwa [if_pos hm.2] at hle
  · exact (Nat.le_add_right _ _).trans hle

/-- The blocks of a WRITE(6), one after the other. -/
theorem writeBlocksUse_le (hlt : sz < 2 ^ 24) (hword : writeLbpMethod d ≠ 0 → 4 ≤ sz) (count : ℕ)
    {d' : Drive} (h : SameProtection d d') :
    (∀ n ∈ (writeBlocksUse L data sz count d').1, n ≤ sz) ∧
      (writeBlocksUse L data sz count d').2 ≤ sz := by
  induction count generalizing d' with
  | zero => exact ⟨fun n hn => absurd hn List.not_mem_nil, Nat.zero_le _⟩
  | succ count ih =>
    have hword' : writeLbpMethod d' ≠ 0 → 4 ≤ sz := by rwa [h.writeLbpMethod]
    have hlength := (Nat.le_add_right _ _).trans (lbpSize_add_le hlt hword')
    have hreach := @blockReach_le L d' sz hlt hword'
    have hfirst : (∀ n ∈ [lbpSize d' sz], n ≤ sz) ∧ max (blockReach L d' sz) 0 ≤ sz :=
      ⟨fun n hn => List.mem_singleton.mp hn ▸ hlength, Nat.max_le.mpr ⟨hreach, Nat.zero_le _⟩⟩
    rcases hrun : writeBlock L d' data sz with - | ⟨k, e⟩
    · simp only [writeBlocksUse, hrun]
      exact hfirst
    · simp only [writeBlocksUse, hrun]
      by_cases hst : e.sam_stat ≠ SAM_STAT_GOOD
      · rw [if_pos hst]
        exact hfirst
      · obtain ⟨hlengths, hrest⟩ := ih (h.trans (writeBlock_protection hrun))
        rw [if_neg hst]
        exact ⟨List.forall_mem_cons.mpr ⟨hlength, hlengths⟩, Nat.max_le.mpr ⟨hreach, hrest⟩⟩

/-- The parameters of a command are those of the settings. -/
theorem SameTransfers.params {d' : Drive} (h : SameTransfers d d') :
    opcode_6_params d'.declare_ssc_vars cdb = opcode_6_params d cdb := by
  have hdesc : d'.declare_ssc_vars.modeBlockDescriptor = d.modeBlockDescriptor := h.descriptor
  unfold opcode_6_params
  rw [hdesc]

/-- Blocks that fit the data buffer are written from it. -/
theorem writes_in_buffer {scsi_bufflen : ℕ} (hlen : scsi_bufflen ≤ max_sectors * 512) {d' : Drive}
    (h : SameTransfers d d') (hin : WritesInside d cdb) :
    InBuffer (ssc_write_6_use L scsi_bufflen data d' cdb) (opcode_6_params d cdb).2 := by
  have hlt := opcode_6_params_lt d cdb
  have hbuf : max_sectors * 512 = bufsize := by decide
  unfold ssc_write_6_use
  dsimp only
  rw [h.params]
  unfold WritesInside at hin
  generalize opcode_6_params d cdb = params at hlt hin ⊢
  obtain ⟨count, sz⟩ := params
  dsimp only at hlt hin ⊢
  obtain ⟨hcounted, hblock⟩ := hin
  have hretrieved : (if d'.declare_ssc_vars.cart.mam.MediumType ≠ MEDIA_TYPE_NULL then
      min (sz * count) scsi_bufflen else 0) ≤ bufsize := by
    split
    · exact (Nat.min_le_right _ _).trans (hlen.trans (le_of_eq hbuf))
    · exact Nat.zero_le _
  have hproduct : ∀ n ∈ some (sz * count), n < 2 ^ 31 := fun n hn => Option.some.inj hn ▸ hcounted
  have hunwritten : InBuffer ⟨some (sz * count), _, 0, []⟩ sz :=
    ⟨hproduct, hretrieved, Nat.zero_le _, fun n hn => absurd hn List.not_mem_nil⟩
  rcases hcheck : check_restrictions d'.declare_ssc_vars with - | ⟨ok, e⟩
  · exact hunwritten
  cases ok with
  | false => exact hunwritten
  | true =>
    dsimp only
    split
    · have hstart : SameProtection d d'.declare_ssc_vars :=
        h.toSameProtection.trans ⟨rfl, rfl, rfl, rfl⟩
      have hchecked : SameProtection d e :=
        hstart.trans (.of_kept (check_restrictions_beside hcheck).toSettingsKept)
      have hkept : SameProtection d (update_volume_change_reference e) :=
        hchecked.trans (.of_kept (update_volume_change_reference_beside e).toSettingsKept)
      have hreach : (∀ n ∈ (writeBlocksUse L data sz count (update_volume_change_reference e)).1, n ≤ sz) ∧
          (writeBlocksUse L data sz count (update_volume_change_reference e)).2 ≤ bufsize := by
        rcases Nat.eq_zero_or_pos count with rfl | hpos
        · exact ⟨fun n hn => absurd hn List.not_mem_nil, Nat.zero_le _⟩
        · obtain ⟨hlengths, hle⟩ := writeBlocksUse_le hlt (hblock hpos).2 count hkept
          exact ⟨hlengths, hle.trans (hblock hpos).1⟩
      exact ⟨hproduct, hretrieved, hreach.2, hreach.1⟩
    · exact hunwritten

end Writes

section Recorded

variable {L : Libs} {m : ReadMemory} {d : Drive} {p i sz : ℕ} {l : List Record} {b : DataBlock}
  {bs : List UInt8} {sili : Bool}

/-- The content of a recorded block is had in full. -/
theorem blockContent_recorded (h : At d.cart p l i) (hl : l.length < 2 ^ 32)
    (hb : l[i]? = some (.data b)) (hr : Recorded L b bs) : blockContent L d = .ok bs := by
  have hpos := c_pos_data h hb
  have hread := fun n => read_tape_block_data h hl hb n
  have hall : b.bytes.take b.bytes.length = b.bytes := List.take_length
  have hdisk : d.cart.c_pos.disk_blk_size = b.bytes.length := by rw [hpos]; rfl
  have hsize : d.cart.c_pos.blk_size.toNat = bs.length := by rw [hpos]; exact hr.size
  have hflags : d.cart.c_pos.blk_flags = b.info.blk_flags := by rw [hpos]; rfl
  have hdec := hr.content
  unfold decoded at hdec
  have hcomp : ∀ dec : List UInt8 → ℕ → Option (List UInt8), dec b.bytes bs.length = some bs →
      unpacked d dec = .ok bs := by
    intro dec hd
    simp only [unpacked, hdisk, hread, hall, ne_eq, not_true_eq_false, if_false, hsize, hd]
  unfold blockContent
  rw [hflags]
  by_cases hlzo : b.info.blk_flags &&& BLKHDR_FLG_LZO_COMPRESSED ≠ 0
  · rw [if_pos hlzo] at hdec ⊢
    exact hcomp _ hdec
  rw [if_neg hlzo] at hdec ⊢
  by_cases hzlib : b.info.blk_flags &&& BLKHDR_FLG_ZLIB_COMPRESSED ≠ 0
  · rw [if_pos hzlib] at hdec ⊢
    exact hcomp _ hdec
  · rw [if_neg hzlib, Option.some.injEq] at hdec
    rw [if_neg hzlib, hsize, hread, hdec, List.take_length]
    exact if_pos rfl

/-- The check word takes its room behind a block that is not empty. -/
theorem checkWord_length (hpos : 0 < bs.length) :
    bs.length + (checkBytes L d (readLbpMethod d) bs).length = blockRoom d bs.length := by
  unfold blockRoom
  by_cases hm : readLbpMethod d = 1 ∨ readLbpMethod d = 2
  · rw [if_pos hm]
    rcases hm with h1 | h2
    · rw [h1, checkBytes_one_length (Nat.ne_of_gt hpos)]
    · rw [h2, checkBytes_two_length]
  · obtain ⟨h1, h2⟩ := not_or.mp hm
    rw [if_neg hm, checkBytes_other h1 h2]
    rfl

/-- A recorded block that is as long as requested takes its room, and the head is behind it. -/
theorem readBlockInto_recorded (h : At d.cart p l i) (hl : l.length < 2 ^ 32)
    (hb : l[i]? = some (.data b)) (hr : Recorded L b bs) (hlen : bs.length = sz) (hpos : 0 < sz)
    (hlt : sz < 2 ^ 24) (h3 : readLbpMethod d ≠ 3) :
    ∃ r, readBlockInto L m d sz sili (readLbpMethod d) = some r ∧ r.1 = blockRoom d sz ∧
      blockRoom d sz ≤ r.2.1.extent ∧ At r.2.2.cart p l (i + 1) ∧ SettingsKept d r.2.2 := by
  subst hlen
  have hhead := c_pos_data h hb
  have hdata : d.cart.c_pos.blk_type = B_DATA := by rw [hhead]; rfl
  have hsize : bs.length = d.cart.c_pos.blk_size.toNat := by rw [hhead]; exact hr.size.symm
  obtain ⟨hi, -⟩ := List.getElem?_eq_some_iff.mp hb
  obtain ⟨r, hrun, hcount, -, hext, hdrive⟩ := readBlockInto_readBlock (m := m) sili hdata
    (Nat.ne_of_gt hpos) (by omega) (blockContent_recorded h hl hb hr) hsize
  obtain ⟨stored, hst, hplain⟩ := readBlock_data h hl hb hr (Nat.ne_of_gt hpos) sili h3
  have hout : (readBlock L d bs.length sili (readLbpMethod d)).1.length = blockRoom d bs.length := by
    rw [hplain]
    dsimp only
    rw [if_neg (Nat.lt_irrefl _), protectBlock_checkBytes hst, List.length_append,
      checkWord_length hpos]
  have hroom := blockRoom_le d bs.length
  rw [hout] at hext
  refine ⟨r, hrun, ?_, hext, ?_⟩
  · rw [hcount, hout, asInt_of_lt (by omega)]
  · let e := readDone d p l i bs.length b.bytes.length
    have hate : At e.cart p l (i + 1) := At.moved h hi
    have hkept : SettingsKept d e := ⟨⟨_, _, _, _, _, _, _, _, rfl⟩, fun _ _ => rfl, rfl⟩
    obtain ⟨st, heq⟩ := reportLength_status e bs.length
      (if readLbpMethod d ≠ 0 then (bs.length + 2 ^ 32 - 4) % 2 ^ 32 else bs.length)
      (if bs.length < bs.length then takePad bs.length (protectBlock L d (readLbpMethod d) stored bs)
        else protectBlock L d (readLbpMethod d) stored bs).length bs.length sili
    rw [hdrive, hplain]
    dsimp only
    rw [heq]
    exact ⟨At.congr hate rfl rfl rfl, hkept.trans (SettingsKept.of_cart e rfl)⟩

/-- With the method that there is not nothing is counted of it, but it is stored. -/
theorem readBlockInto_guarded (h : At d.cart p l i) (hl : l.length < 2 ^ 32)
    (hb : l[i]? = some (.data b)) (hr : Recorded L b bs) (hlen : bs.length = sz) (hpos : 0 < sz) :
    ∃ part e, readBlockInto L m d sz sili 3 = some (0, part, e) ∧ sz ≤ part.extent := by
  subst hlen
  have hhead := c_pos_data h hb
  have hdata : d.cart.c_pos.blk_type = B_DATA := by rw [hhead]; rfl
  have hsize : d.cart.c_pos.blk_size.toNat = bs.length := by rw [hhead]; exact hr.size
  have hfits : ¬bs.length < d.cart.c_pos.blk_size.toNat := by omega
  obtain ⟨c, -, hfetch⟩ := readContentInto_ok (m := m) (b := Buffer.fresh
    (if bs.length < d.cart.c_pos.blk_size.toNat then m.bounce else m.buf))
    (blockContent_recorded h hl hb hr)
  have hfull : bs.length ≤ ((Buffer.fresh (if bs.length < d.cart.c_pos.blk_size.toNat then m.bounce
      else m.buf)).store 0 bs).extent := by
    change bs.length ≤ if bs.length = 0 then _ else max _ (0 + bs.length)
    rw [if_neg (Nat.ne_of_gt hpos), Nat.zero_add]
    exact le_max_right _ _
  have hrun := @readBlockInto_some L m d bs.length 3 sili _ _ _ hdata (Nat.ne_of_gt hpos)
    (fun hno => hfits hno.1) hfetch
  cases hdiff : crcDiffers L d (((Buffer.fresh (if bs.length < d.cart.c_pos.blk_size.toNat then
      m.bounce else m.buf)).store 0 bs).front d.cart.c_pos.blk_size.toNat) with
  | true =>
    rw [finishRead_differs hdiff] at hrun
    refine ⟨_, _, hrun, ?_⟩
    rw [if_neg hfits]
    exact hfull
  | false =>
    rw [finishRead_guard hdiff] at hrun
    refine ⟨_, _, hrun, ?_⟩
    rw [if_neg hfits]
    exact hfull

/-- The check of the key passes in front of a block in the clear. -/
theorem clear_passes (h : At d.cart p l i) (hb : l[i]? = some (.data b))
    (hclear : b.info.blk_flags &&& BLKHDR_FLG_ENCRYPTED = 0) (hmode : d.DECRYPT_MODE ≠ 2) :
    d.valid_encryption_blk = some (true, d.checked) := by
  have hinfo : blockHere l d = some b.info := by
    rw [blockHere_at h, hb]
    rfl
  have hplain : ¬Encrypted b.info := not_not_intro hclear
  apply Drive.valid_encryption_blk_true
  rw [check_block h hinfo, if_neg hplain, decide_eq_false hmode]
  rfl

/-- The loop of READ(6) stores behind what is stored, or over it. -/
theorem extent_le_readBlocksInto {ms : ℕ → ReadMemory} {cdb : Cdb} (count off : ℕ)
    (buf : Buffer UInt8) (d' : Drive) :
    buf.extent ≤ (readBlocksInto L ms cdb sz count off buf d').buf.extent := by
  induction count generalizing off buf d' with
  | zero => exact le_refl _
  | succ count ih =>
    unfold readBlocksInto
    rcases d'.valid_encryption_blk with - | ⟨ok, e⟩
    · exact le_refl _
    cases ok with
    | false => exact le_refl _
    | true =>
      dsimp only
      split
      · exact le_refl _
      · rename_i retval part f hread
        have hstored := buf.le_extent_store off (part.front part.extent)
        split
        · exact hstored
        · exact hstored.trans (ih _ _ f)

/-- Over recorded blocks in the clear, each as long as requested, they take their room one behind the
other. -/
theorem readBlocksInto_ge {ms : ℕ → ReadMemory} {cdb : Cdb} (hl : l.length < 2 ^ 32)
    (hr : Recorded L b bs) (hclear : b.info.blk_flags &&& BLKHDR_FLG_ENCRYPTED = 0)
    (hlen : bs.length = sz) (hpos : 0 < sz) (hlt : sz < 2 ^ 24) (h3 : readLbpMethod d ≠ 3)
    {n count : ℕ} (hn : n ≤ count) (off : ℕ) (buf : Buffer UInt8) {d' : Drive}
    (hoff : off ≤ buf.extent) (hkept : SameProtection d d') (hmode : d'.DECRYPT_MODE ≠ 2)
    (h : At d'.cart p l i) (hb : ∀ k < n, l[i + k]? = some (.data b)) :
    off + blockRoom d sz * n ≤ (readBlocksInto L ms cdb sz count off buf d').buf.extent := by
  induction n generalizing count off buf d' i with
  | zero => exact hoff.trans (extent_le_readBlocksInto count off buf d')
  | succ n ih =>
    obtain ⟨count, rfl⟩ := Nat.exists_eq_succ_of_ne_zero (Nat.ne_of_gt (Nat.lt_of_lt_of_le n.succ_pos hn))
    have hhere : l[i]? = some (.data b) := hb 0 n.succ_pos
    obtain ⟨st, heq, -⟩ := d'.checked_report
    have hstart : SameProtection d (d'.report st) := hkept.trans ⟨rfl, rfl, rfl, rfl⟩
    have hat₀ : At (d'.report st).cart p l i := At.congr h rfl rfl rfl
    have hmethod := hstart.readLbpMethod
    have h3' : readLbpMethod (d'.report st) ≠ 3 := by rwa [hmethod]
    unfold readBlocksInto
    rw [clear_passes h hhere hclear hmode, heq]
    dsimp only
    obtain ⟨⟨retval, part, e⟩, hrun, hcount, hext, hat, hsettings⟩ := @readBlockInto_recorded L
      { ms count with
        buf := fun k => buf.mem (off + k)
        spill := (ms count).spill.take (d'.report st).cart.c_pos.blk_size.toNat }
      (d'.report st) p i sz l b bs (sili cdb) hat₀ hl hhere hr hlen hpos hlt h3'
    rw [hrun]
    dsimp only at hcount hext hat hsettings ⊢
    have hroom := le_blockRoom d sz
    rw [hstart.blockRoom] at hcount hext
    rw [if_neg (fun hno => by omega)]
    have hmode' : e.DECRYPT_MODE ≠ 2 := by
      rw [hsettings.keys.2.1]
      exact hmode
    have hstored := buf.end_le_extent_store hoff (part.front part.extent)
    rw [Buffer.front_length] at hstored
    have hrest := ih (Nat.le_of_succ_le_succ hn) ((off : ℤ) + retval).toNat
      (buf.store off (part.front part.extent)) (by omega) (hstart.trans (.of_kept hsettings)) hmode' hat
      (fun k hk => by
        rw [Nat.add_assoc, Nat.add_comm 1 k]
        exact hb (k + 1) (by omega))
    have hmul : blockRoom d sz * (n + 1) = blockRoom d sz * n + blockRoom d sz := Nat.mul_succ _ _
    omega

/-- With the method that there is not the loop ends at the first block, which is stored. -/
theorem readBlocksInto_guarded {ms : ℕ → ReadMemory} {cdb : Cdb} (h : At d.cart p l i)
    (hl : l.length < 2 ^ 32) (hb : l[i]? = some (.data b)) (hr : Recorded L b bs)
    (hclear : b.info.blk_flags &&& BLKHDR_FLG_ENCRYPTED = 0) (hmode : d.DECRYPT_MODE ≠ 2)
    (hlen : bs.length = sz) (hpos : 0 < sz) (h3 : readLbpMethod d = 3) {n : ℕ}
    (hone : fixedBlock cdb = true ∨ n = 0) (mem : ℕ → UInt8) :
    ∃ buf, readBlocksInto L ms cdb sz (n + 1) 0 (Buffer.fresh mem) d = ⟨0, buf, true⟩ ∧
      sz ≤ buf.extent := by
  obtain ⟨st, heq, -⟩ := d.checked_report
  have hat : At (d.report st).cart p l i := At.congr h rfl rfl rfl
  have h3' : readLbpMethod (d.report st) = 3 := h3
  obtain ⟨part, e, hrun, hext⟩ := @readBlockInto_guarded L
    { ms n with
      buf := fun k => (Buffer.fresh mem).mem (0 + k)
      spill := (ms n).spill.take (d.report st).cart.c_pos.blk_size.toNat }
    (d.report st) p i sz l b bs (sili cdb) hat hl hb hr hlen hpos
  have hstored : sz ≤ ((Buffer.fresh mem).store 0 (part.front part.extent)).extent := by
    change sz ≤ if (part.front part.extent).length = 0 then _
      else max _ (0 + (part.front part.extent).length)
    rw [Buffer.front_length, if_neg (by omega), Nat.zero_add]
    exact hext.trans (le_max_right _ _)
  refine ⟨_, ?_, hstored⟩
  unfold readBlocksInto
  rw [clear_passes h hb hclear hmode, heq]
  dsimp only
  rw [h3', hrun]
  dsimp only
  by_cases hf : fixedBlock cdb = true
  · rw [if_pos ⟨rfl, hf⟩]
  · obtain rfl := hone.resolve_left hf
    rw [if_neg (fun hno => hf hno.2)]
    rfl

end Recorded

section Sent

variable {L : Libs} {m : ReadMemory} {d : Drive} {p i sz : ℕ} {l : List Record} {sili : Bool}

/-- Every block can be read in full, and with room for a check word. -/
def HadInFull (L : Libs) (l : List Record) : Prop :=
  ∀ x ∈ l, x = .filemark ∨ ∃ b bs, x = .data b ∧ Recorded L b bs ∧ bs.length + 4 < 2 ^ 32

/-- Of what can be read in full as much is counted as the plain function sends. -/
theorem readBlockInto_plain (h : At d.cart p l i) (hl : l.length < 2 ^ 32) (hread : HadInFull L l)
    (hlt : sz < 2 ^ 24) (lbp_method : ℕ) :
    ∃ part, readBlockInto L m d sz sili lbp_method =
      some (((readBlock L d sz sili lbp_method).1.length : ℤ), part,
        (readBlock L d sz sili lbp_method).2) := by
  by_cases hsz : sz = 0
  · subst hsz
    rw [readBlockInto_zero, readBlock, if_pos rfl]
    exact ⟨_, rfl⟩
  have hmark : B_EOD ≠ B_FILEMARK := by decide
  rcases hx : l[i]? with - | x
  · have htype : d.cart.c_pos.blk_type = B_EOD := h.eod_iff.mpr (List.getElem?_eq_none_iff.mp hx)
    simp only [readBlockInto, readBlock, if_neg hsz, htype, if_neg hmark, if_true]
    exact ⟨_, rfl⟩
  obtain ⟨hi, hli⟩ := List.getElem?_eq_some_iff.mp hx
  rcases hread x (hli ▸ List.getElem_mem hi) with rfl | ⟨b, bs, rfl, hr, hroom⟩
  · have htype : d.cart.c_pos.blk_type = B_FILEMARK := by
      rw [c_pos, h.pos, headerAt_of_lt p hi, hli]
      rfl
    simp only [readBlockInto, readBlock, if_neg hsz, htype, if_true]
    exact ⟨_, rfl⟩
  · have hhead := c_pos_data h hx
    have hdata : d.cart.c_pos.blk_type = B_DATA := by rw [hhead]; rfl
    have hsize : bs.length = d.cart.c_pos.blk_size.toNat := by rw [hhead]; exact hr.size.symm
    have hplain := readContent_ok h hl hx hr
    have hshort : (readBlock L d sz sili lbp_method).1.length < 2 ^ 31 := by
      rw [readBlock_content sili hdata hsz hplain]
      by_cases hdiff : crcDiffers L d bs = true
      · rw [if_pos hdiff]
        exact Nat.two_pow_pos 31
      by_cases hguard : lbp_method = 3
      · rw [if_neg hdiff, if_pos hguard]
        exact Nat.two_pow_pos 31
      rw [if_neg hdiff, if_neg hguard]
      dsimp only
      split
      · rw [takePad_length]
        omega
      · have hcheck := @checkBytes_length_le L { d with cart := moved d.cart p l (i + 1) } lbp_method bs
        rw [protectBlock_checkBytes (storedCrc_eq (Bool.eq_false_iff.mpr hdiff)), List.length_append]
        omega
    obtain ⟨⟨rc, part, e⟩, hrun, hcount, -, -, hdrive⟩ := @readBlockInto_readBlock L m d sz lbp_method bs
      sili hdata hsz (by omega) (blockContent_recorded h hl hx hr) hsize
    dsimp only at hcount hdrive
    rw [asInt_of_lt hshort] at hcount
    exact ⟨part, by rw [hrun, hcount, hdrive]⟩

variable {cdb : Cdb} {n : ℕ} {recs : ℕ → List Record}

/-- The loop of READ(6) hands on as many bytes as the plain loop sends. -/
theorem readBlocksInto_readBlocks {ms : ℕ → ReadMemory} (h : Mounted n d.cart recs)
    (hat : At d.cart p (recs p) i) (hl : (recs p).length < 2 ^ 32) (hread : HadInFull L (recs p))
    (hlt : sz < 2 ^ 24) {count off : ℕ} {buf : Buffer UInt8} {r : List UInt8 × Drive}
    (hr : readBlocks L cdb sz count d = some r) :
    (readBlocksInto L ms cdb sz count off buf d).sz = off + r.1.length := by
  induction count generalizing d i off buf r with
  | zero =>
    obtain rfl := Option.some.inj hr
    rfl
  | succ count ih =>
    rcases hcheck : d.valid_encryption_blk with - | ⟨ok, e⟩
    · simp only [readBlocks, hcheck] at hr
      cases hr
    cases ok with
    | false =>
      simp only [readBlocks, hcheck, Option.some.injEq] at hr
      subst hr
      simp only [readBlocksInto, hcheck]
      rfl
    | true =>
      have hpass := Drive.valid_encryption_blk_true (congrArg (Option.map Prod.fst) hcheck)
      have hat₀ : At d.checked.cart p (recs p) i := by
        obtain ⟨st, heq, -⟩ := d.checked_report
        rw [heq]
        exact At.congr hat rfl rfl rfl
      obtain ⟨part, hrun⟩ := @readBlockInto_plain L
        { ms count with
          buf := fun k => buf.mem (off + k)
          spill := (ms count).spill.take d.checked.cart.c_pos.blk_size.toNat }
        d.checked p i sz (recs p) (sili cdb) hat₀ hl hread hlt (readLbpMethod d.checked)
      have hone : readBlock L d.checked sz (sili cdb) (readLbpMethod d.checked) =
        readOne L cdb sz d := rfl
      rw [hone] at hrun
      rw [readBlocks_passed hpass] at hr
      unfold readBlocksInto
      rw [hpass]
      dsimp only
      rw [hrun]
      dsimp only
      by_cases hstop : (readOne L cdb sz d).1.length = 0 ∧ fixedBlock cdb = true
      · rw [if_pos hstop] at hr
        obtain rfl := Option.some.inj hr
        rw [if_pos ⟨Int.natCast_eq_zero.mpr hstop.1, hstop.2⟩, hstop.1]
        rfl
      · rw [if_neg hstop] at hr
        obtain ⟨rest, hrest, rfl⟩ := Option.map_eq_some_iff.mp hr
        obtain ⟨hm, j, hj⟩ : Mounted n (readOne L cdb sz d).2.cart recs ∧
            ∃ j, At (readOne L cdb sz d).2.cart p (recs p) j := readOne_at h hat
        rw [if_neg (fun hno => hstop ⟨Int.natCast_eq_zero.mp hno.1, hno.2⟩), ih hm hj hrest,
          List.length_append]
        omega

/-- What READ(6) hands on are the bytes that it sends, as far as the initiator has room for them. -/
theorem read_6_handed (scsi_bufflen : ℕ) (ms : ℕ → ReadMemory) (mem : ℕ → UInt8)
    (h : Mounted n d.cart recs) (hat : At d.cart p (recs p) i) (hl : (recs p).length < 2 ^ 32)
    (hread : HadInFull L (recs p)) {r : List UInt8 × Drive} (hr : ssc_read_6 L d cdb = some r) :
    (ssc_read_6_use L scsi_bufflen ms mem d cdb).handed = min r.1.length scsi_bufflen := by
  have hlt := opcode_6_params_lt d.declare_ssc_vars cdb
  have hstart : HeadMoved n recs d d.declare_ssc_vars := .returns h SAM_STAT_GOOD
  unfold ssc_read_6 at hr
  unfold ssc_read_6_use
  dsimp only at hr ⊢
  by_cases hrej : sili cdb = true ∧ fixedBlock cdb = true
  · rw [if_pos hrej] at hr ⊢
    obtain rfl := Option.some.inj hr
    exact (Nat.zero_min _).symm
  rw [if_neg hrej] at hr ⊢
  by_cases hmount : ReadAdmitted d.declare_ssc_vars
  · rw [complete_read_6_mounted hmount] at hr
    have hcount := @readBlocksInto_readBlocks L _ p i _ cdb n recs ms hstart.tape.mounted
      (At.congr hat rfl rfl rfl) hl hread hlt _ 0 (Buffer.fresh mem) r hr
    rw [complete_read_6_use_mounted hmount]
    exact congrArg (min · scsi_bufflen) (hcount.trans (Nat.zero_add _))
  · obtain ⟨st, -, hrun⟩ := complete_read_6_refused (L := L) hmount
    rw [hrun] at hr
    obtain rfl := Option.some.inj hr
    rw [complete_read_6_use_refused hmount]
    exact (Nat.zero_min _).symm

end Sent

section Worst

variable {L : Libs} {d : Drive} {cdb : Cdb}

/-- A drive of these settings that holds a data cartridge. -/
def underSettings (d : Drive) (c : Store) : Drive :=
  { emptyDrive with
    cart := c
    pm := { emptyDrive.pm with
      drive_supports_LBP := d.pm.drive_supports_LBP
      lbp_plain := fun _ => rfl }
    modeBlockDescriptor := d.modeBlockDescriptor
    LBP_R := d.LBP_R
    LBP_W := d.LBP_W
    LBP_method := d.LBP_method
    vcr_updated := true }

/-- It has the settings. -/
theorem underSettings_same (d : Drive) (c : Store) : SameTransfers d (underSettings d c) :=
  ⟨⟨rfl, rfl, rfl, rfl⟩, rfl⟩

/-- An empty tape is written when it is asked for. -/
theorem underSettings_admitted (d : Drive) :
    check_restrictions (underSettings d emptyDrive.cart).declare_ssc_vars =
      some (true, (underSettings d emptyDrive.cart).declare_ssc_vars.onCart fun c =>
        { c with OK_to_write := true }) := by
  have hoff : (underSettings d emptyDrive.cart).declare_ssc_vars.append_only_mode ≠ true :=
    Bool.false_ne_true
  have htype : emptyDrive.cart.mam.MediumType = MEDIA_TYPE_DATA := by decide +kernel
  have hwritable : Writable (underSettings d emptyDrive.cart).declare_ssc_vars :=
    ⟨rfl, rfl, htype, rfl, fun hon => absurd hon hoff⟩
  exact hwritable.check_restrictions

/-- At the start of that tape a block is handed on with its check word. -/
theorem blockReach_start {e : Drive} {sz : ℕ} (hmam : e.cart.mam = emptyDrive.cart.mam)
    (hpart : e.cart.partition_id = 0) (hhead : e.cart.current_tape_offset = 0) :
    blockReach L e sz = lbpSize e sz + if writeLbpMethod e ≠ 0 then 4 else 0 := by
  have hrecorded : ¬recorded_partition_capacity emptyDrive.cart.mam 0 ≠ 0 := by decide +kernel
  have hone : partitionCount emptyDrive.cart.mam = 1 := by decide +kernel
  have hroom : ¬emptyDrive.cart.mam.be .max_capacity ≤ 0 := by decide +kernel
  have htype : emptyDrive.cart.mam.MediumType ≠ MEDIA_TYPE_NULL := by decide +kernel
  have hcap : medium_partition_capacity L e 0 = some (emptyDrive.cart.mam.be .max_capacity) := by
    unfold medium_partition_capacity medium_partition_capacity_from_mode_page
    dsimp only
    rw [hmam, if_neg hrecorded, hone, if_neg (by decide), if_pos rfl]
  unfold blockReach
  rw [hpart, hcap]
  dsimp only
  rw [hhead, if_neg hroom, hmam]
  by_cases hm : writeLbpMethod e ≠ 0
  · rw [if_pos ⟨htype, hm⟩, if_pos hm]
  · rw [if_neg (fun hno => hm hno.2), if_neg hm, Nat.add_zero]

/-- The empty tape when it may be written. -/
def writableStart (d : Drive) : Drive :=
  (underSettings d emptyDrive.cart).declare_ssc_vars.onCart fun c => { c with OK_to_write := true }

/-- How far the first block of it is read. -/
theorem writableStart_reach (d : Drive) (sz : ℕ) : blockReach L (writableStart d) sz =
    lbpSize (writableStart d) sz + if writeLbpMethod (writableStart d) ≠ 0 then 4 else 0 := by
  have hhead : emptyDrive.cart.current_tape_offset = 0 := by decide +kernel
  exact blockReach_start rfl rfl hhead

/-- Writing the start of a tape shows what a WRITE(6) of these settings does. -/
theorem writes_inside_of (scsi_bufflen : ℕ) (mem : ℕ → UInt8)
    (h : InBuffer (ssc_write_6_use L scsi_bufflen mem (underSettings d emptyDrive.cart) cdb)
      (opcode_6_params d cdb).2) : WritesInside d cdb := by
  have hlt := opcode_6_params_lt d cdb
  unfold ssc_write_6_use at h
  dsimp only at h
  rw [(underSettings_same d emptyDrive.cart).params, underSettings_admitted] at h
  unfold WritesInside
  generalize opcode_6_params d cdb = params at hlt h ⊢
  obtain ⟨count, sz⟩ := params
  dsimp only at hlt h ⊢
  have hstart : ((underSettings d emptyDrive.cart).declare_ssc_vars.onCart fun c =>
      { c with OK_to_write := true }) = writableStart d := rfl
  have hpermit : (writableStart d).cart.OK_to_write = true := rfl
  have hvcr : update_volume_change_reference (writableStart d) = writableStart d := if_pos rfl
  have hkept : SameProtection d (writableStart d) := ⟨rfl, rfl, rfl, rfl⟩
  have hreads := @writableStart_reach L d sz
  rw [hstart, if_pos hpermit, hvcr] at h
  generalize writableStart d = e at h hkept hreads
  refine ⟨h.product _ rfl, fun hpos => ?_⟩
  obtain ⟨n, rfl⟩ := Nat.exists_eq_succ_of_ne_zero (Nat.ne_of_gt hpos)
  -- the first block is handed on with its length, whatever becomes of it
  have hfirst : lbpSize e sz ∈ (writeBlocksUse L mem sz (n + 1) e).1 := List.mem_cons_self
  have hle := h.lengths _ hfirst
  have hreach : blockReach L e sz ≤ (writeBlocksUse L mem sz (n + 1) e).2 := le_max_left _ _
  have hread := hreach.trans h.handed
  rw [hreads] at hread
  unfold lbpSize at hle hread
  rw [hkept.writeLbpMethod] at hle hread
  by_cases hm : writeLbpMethod d ≠ 0
  · rw [if_pos hm] at hle hread
    rw [if_pos hm] at hread
    have hword : 4 ≤ sz := by
      by_contra hshort
      omega
    exact ⟨by omega, fun _ => hword⟩
  · rw [if_neg hm] at hread
    rw [if_neg hm] at hread
    exact ⟨by omega, fun hno => absurd hno hm⟩

/-- A block of zeros in the clear. -/
def zeroBlock (L : Libs) (sz : ℕ) : BlockArgs :=
  nocompArgs L { emptyDrive with app_encr_info := false } (fun _ => 0) sz false

/-- A tape that some of them were written to. -/
def zeroTape (L : Libs) (sz : ℕ) : ℕ → Store
  | 0 => emptyDrive.cart
  | n + 1 => ((zeroTape L sz n).write_tape_block (zeroBlock L sz)).2

/-- The head is behind them. -/
theorem zeroTape_written (L : Libs) (sz : ℕ) {n : ℕ} (hn : n ≤ MAX_BLK_NUMBER) :
    At (zeroTape L sz n) 0 (List.replicate n (.data (dataBlock (zeroBlock L sz)))) n ∧
      (zeroTape L sz n).io = [] ∧ (zeroTape L sz n).mam = emptyDrive.cart.mam := by
  induction n with
  | zero => exact ⟨emptyDrive_at, rfl, rfl⟩
  | succ n ih =>
    obtain ⟨hat, hio, hmam⟩ := ih (by omega)
    have hok : ∀ k, OkFor k (zeroTape L sz n).io := by
      rw [hio]
      exact okFor_nil
    obtain ⟨c', hrun, hw⟩ := write_tape_block_ok hat (zeroBlock L sz) (by omega) (hok _)
    have hnext : zeroTape L sz (n + 1) = c' := congrArg Prod.snd hrun
    have hend := hw.at_end
    have hlen : (List.replicate n (Record.data (dataBlock (zeroBlock L sz)))).length = n :=
      List.length_replicate
    rw [List.take_of_length_le (le_of_eq hlen), record_data rfl, ← List.replicate_succ',
      List.length_replicate] at hend
    rw [hnext]
    refine ⟨hend, ?_, hw.frame.mam.trans hmam⟩
    rw [hw.io, hio, List.drop_nil]

/-- The tape rewound. -/
theorem zeroTape_rewound (L : Libs) (sz : ℕ) {n : ℕ} (hn : n ≤ MAX_BLK_NUMBER) :
    At (zeroTape L sz n).rewind_tape.2 0 (List.replicate n (.data (dataBlock (zeroBlock L sz)))) 0 ∧
      (zeroTape L sz n).rewind_tape.2.mam = emptyDrive.cart.mam := by
  obtain ⟨hat, -, hmam⟩ := zeroTape_written L sz hn
  have hmax : MAX_BLK_NUMBER < 2 ^ 32 := by decide
  have hlen : (List.replicate n (Record.data (dataBlock (zeroBlock L sz)))).length < 2 ^ 32 := by
    rw [List.length_replicate]
    omega
  obtain ⟨c₀, hrewind, hsought⟩ := rewind_tape_ok hat hlen
  rw [hrewind]
  refine ⟨hsought.at_pos hat, ?_⟩
  obtain ⟨ok, st, rfl⟩ := hsought.eq
  exact hmam

/-- What the blocks record. -/
theorem zeroBlock_recorded (L : Libs) {sz : ℕ} (hlt : sz < 2 ^ 24) :
    Recorded L (dataBlock (zeroBlock L sz)) (bytesAt (fun _ => 0) 0 sz) ∧
      (bytesAt (fun _ => 0) 0 sz).length = sz ∧
      (dataBlock (zeroBlock L sz)).info.blk_flags &&& BLKHDR_FLG_ENCRYPTED = 0 := by
  refine ⟨nocomp_recorded (by omega) false, bytesAt_length _ _ _, ?_⟩
  obtain ⟨-, -, -, henc⟩ := info_flags (zeroBlock L sz)
  by_contra hflag
  exact Bool.false_ne_true (henc.mp hflag)

/-- Reading such tapes shows what a READ(6) of these settings does. -/
theorem reads_inside_of (scsi_bufflen : ℕ) (ms : ℕ → ReadMemory) (mem : ℕ → UInt8)
    (h : ∀ n, n ≤ MAX_BLK_NUMBER →
      InBuffer (complete_read_6_use L scsi_bufflen ms mem
        (underSettings d (zeroTape L (opcode_6_params d cdb).2 n).rewind_tape.2) cdb
        (opcode_6_params d cdb).2 (opcode_6_params d cdb).1) (opcode_6_params d cdb).2) :
    ReadsInside d cdb := by
  have hlt := opcode_6_params_lt d cdb
  have hsingle : fixedBlock cdb = false → (opcode_6_params d cdb).1 = 1 := fun hf => by
    unfold opcode_6_params
    rw [if_neg (fun hno => Bool.false_ne_true (hf.symm.trans hno))]
  have hclean : emptyDrive.cart.mam.MediumType ≠ MEDIA_TYPE_CLEAN := by decide +kernel
  unfold ReadsInside
  generalize opcode_6_params d cdb = params at hlt hsingle h ⊢
  obtain ⟨count, sz⟩ := params
  dsimp only at hlt hsingle h ⊢
  rcases Nat.eq_zero_or_pos count with hcount | hcount
  · exact Or.inl hcount
  rcases Nat.eq_zero_or_pos sz with hsz | hsz
  · exact Or.inr (Or.inl hsz)
  right
  right
  have huse : ∀ n, n ≤ MAX_BLK_NUMBER → ∀ e, readBlocksInto L ms cdb sz count 0 (Buffer.fresh mem)
      (underSettings d (zeroTape L sz n).rewind_tape.2).declare_ssc_vars = e →
      e.buf.extent ≤ bufsize ∧ (e.ended = true → sz * count < 2 ^ 31) := by
    rintro n hn e rfl
    have hin := h n hn
    have hmounted : ReadAdmitted (underSettings d (zeroTape L sz n).rewind_tape.2) := by
      refine ⟨rfl, ?_⟩
      change (zeroTape L sz n).rewind_tape.2.mam.MediumType ≠ MEDIA_TYPE_CLEAN
      rw [(zeroTape_rewound L sz hn).2]
      exact hclean
    rw [complete_read_6_use_mounted hmounted] at hin
    refine ⟨hin.stored, fun hended => hin.product _ ?_⟩
    exact if_pos hended
  obtain ⟨hrec, hlen, hclear⟩ := zeroBlock_recorded L hlt
  have hmax : MAX_BLK_NUMBER = 4294967280 := rfl
  have hmode : emptyDrive.DECRYPT_MODE ≠ 2 := by decide
  by_cases h3 : readLbpMethod d = 3
  · rw [if_pos h3]
    have hn : 1 ≤ MAX_BLK_NUMBER := by omega
    obtain ⟨hat, -⟩ := zeroTape_rewound L sz hn
    obtain ⟨k, rfl⟩ := Nat.exists_eq_succ_of_ne_zero (Nat.ne_of_gt hcount)
    have hone : fixedBlock cdb = true ∨ k = 0 := by
      cases hf : fixedBlock cdb with
      | true => exact Or.inl rfl
      | false => exact Or.inr (Nat.succ.inj (hsingle hf))
    have hsingleton : (List.replicate 1 (Record.data (dataBlock (zeroBlock L sz)))).length < 2 ^ 32 := by
      rw [List.length_replicate]
      decide
    obtain ⟨buf, hrun, hstored⟩ := @readBlocksInto_guarded L
      (underSettings d (zeroTape L sz 1).rewind_tape.2).declare_ssc_vars 0 0 sz _ _ _ ms cdb
      (At.congr hat rfl rfl rfl) hsingleton rfl hrec hclear hmode hlen hsz h3 k hone mem
    obtain ⟨hext, hended⟩ := huse 1 hn _ hrun
    exact ⟨hstored.trans hext, hended rfl⟩
  · rw [if_neg h3]
    by_contra hover
    have hroom := Nat.lt_of_lt_of_le hsz (le_blockRoom d sz)
    have hfew : bufsize / blockRoom d sz + 1 ≤ count :=
      Nat.div_lt_of_lt_mul (Nat.lt_of_not_le hover)
    have hbuf : bufsize = 2097152 := rfl
    have hdiv := Nat.div_le_self bufsize (blockRoom d sz)
    have hn : bufsize / blockRoom d sz + 1 ≤ MAX_BLK_NUMBER := by omega
    obtain ⟨hat, -⟩ := zeroTape_rewound L sz hn
    have hshort : (List.replicate (bufsize / blockRoom d sz + 1)
        (Record.data (dataBlock (zeroBlock L sz)))).length < 2 ^ 32 := by
      rw [List.length_replicate]
      omega
    obtain ⟨hext, -⟩ := huse _ hn _ rfl
    have htaken := @readBlocksInto_ge L d 0 0 sz _ _ _ ms cdb hshort hrec hclear hlen hsz hlt h3
      (bufsize / blockRoom d sz + 1) count hfew 0 (Buffer.fresh mem)
      (underSettings d (zeroTape L sz (bufsize / blockRoom d sz + 1)).rewind_tape.2).declare_ssc_vars
      (Nat.le_refl 0) ⟨rfl, rfl, rfl, rfl⟩ hmode (At.congr hat rfl rfl rfl) (fun k hk => by
        rw [Nat.zero_add, List.getElem?_replicate, if_pos hk])
    have hpast := Nat.lt_mul_div_succ bufsize hroom
    omega

end Worst

section Commands

variable {L : Libs} {d : Drive} {cdb : Cdb}

/-- READ(6) and VERIFY(6) on a drive of these settings. -/
theorem complete_read_6_use_params (scsi_bufflen : ℕ) (ms : ℕ → ReadMemory) (mem : ℕ → UInt8)
    {d' : Drive} (h : SameTransfers d d') :
    Transfer.read_6.use L scsi_bufflen ms mem d' cdb = (if sili cdb ∧ fixedBlock cdb then .rejected else
        complete_read_6_use L scsi_bufflen ms mem d' cdb (opcode_6_params d cdb).2
          (opcode_6_params d cdb).1) ∧
      Transfer.verify_6.use L scsi_bufflen ms mem d' cdb = if cdb 1 &&& 0x20 ≠ 0 then .rejected
        else if cdb 1 &&& 0x08 ≠ 0 then .rejected else
        complete_read_6_use L scsi_bufflen ms mem d' cdb (opcode_6_params d cdb).2
          (opcode_6_params d cdb).1 := by
  rw [← h.params]
  exact ⟨rfl, rfl⟩

/-- READ(6) hands on the bytes that it sends, as far as the initiator has room for them. -/
def HandsOnSent (L : Libs) : Prop :=
  ∀ (scsi_bufflen : ℕ) (ms : ℕ → ReadMemory) (mem : ℕ → UInt8) (d : Drive) (cdb : Cdb) (n p i : ℕ)
    (recs : ℕ → List Record) (r : List UInt8 × Drive), Mounted n d.cart recs →
    At d.cart p (recs p) i → (recs p).length < 2 ^ 32 → HadInFull L (recs p) →
    ssc_read_6 L d cdb = some r →
      (ssc_read_6_use L scsi_bufflen ms mem d cdb).handed = min r.1.length scsi_bufflen

/-- Whatever the tape, a command keeps to the data buffer just when its blocks fit. The initiator has
no more than the kernel moves. -/
theorem transfer_inside_iff
    (hlzo : ∀ z n out, L.lzo1x_decompress_safe z n = some out → out.length ≤ n)
    (hzlib : ∀ z n out, L.uncompress z n = some out → out.length ≤ n) (op : Transfer) :
    HandsOnSent L ∧
    ((∀ (scsi_bufflen : ℕ) (ms : ℕ → ReadMemory) (mem : ℕ → UInt8) (d' : Drive) (p i : ℕ)
      (l : List Record), scsi_bufflen ≤ max_sectors * 512 → SameTransfers d d' → At d'.cart p l i →
        InBuffer (op.use L scsi_bufflen ms mem d' cdb) (opcode_6_params d cdb).2) ↔
      op.Inside d cdb) := by
  refine ⟨fun scsi_bufflen ms mem d cdb n p i recs r hm hat hl hfull hr =>
    read_6_handed scsi_bufflen ms mem hm hat hl hfull hr, ?_, ?_⟩
  · intro h
    have hempty := h 0 (fun _ => zeroMemory) (fun _ => 0) _ _ _ _ (Nat.zero_le _)
      (underSettings_same d emptyDrive.cart) emptyDrive_at
    have htape : ∀ n, n ≤ MAX_BLK_NUMBER → InBuffer (op.use L 0 (fun _ => zeroMemory) (fun _ => 0)
        (underSettings d (zeroTape L (opcode_6_params d cdb).2 n).rewind_tape.2) cdb)
        (opcode_6_params d cdb).2 := fun n hn =>
      h _ _ _ _ _ _ _ (Nat.zero_le _) (underSettings_same d _) (zeroTape_rewound L _ hn).1
    cases op with
    | write_6 => exact writes_inside_of _ _ hempty
    | read_6 =>
      by_cases hrej : sili cdb = true ∧ fixedBlock cdb = true
      · exact Or.inl hrej
      · refine Or.inr (reads_inside_of (L := L) 0 (fun _ => zeroMemory) (fun _ => 0) fun n hn => ?_)
        have hn' := htape n hn
        rwa [(complete_read_6_use_params _ _ _ (underSettings_same d _)).1, if_neg hrej] at hn'
    | verify_6 =>
      by_cases hvte : cdb 1 &&& 0x20 ≠ 0
      · exact Or.inl hvte
      by_cases hvbf : cdb 1 &&& 0x08 ≠ 0
      · exact Or.inr (Or.inl hvbf)
      · refine Or.inr (Or.inr (reads_inside_of (L := L) 0 (fun _ => zeroMemory) (fun _ => 0) fun n hn => ?_))
        have hn' := htape n hn
        rwa [(complete_read_6_use_params _ _ _ (underSettings_same d _)).2, if_neg hvte,
          if_neg hvbf] at hn'
  · intro hin scsi_bufflen ms mem d' p i l hlen hsame _
    cases op with
    | write_6 => exact writes_in_buffer hlen hsame hin
    | read_6 =>
      rw [(complete_read_6_use_params scsi_bufflen ms mem hsame).1]
      split
      · exact rejected_in_buffer _
      · rename_i hrej
        exact reads_in_buffer hlzo hzlib scsi_bufflen mem hsame.toSameProtection
          (hin.resolve_left hrej)
    | verify_6 =>
      rw [(complete_read_6_use_params scsi_bufflen ms mem hsame).2]
      split
      · exact rejected_in_buffer _
      split
      · exact rejected_in_buffer _
      · rename_i hvte hvbf
        exact reads_in_buffer hlzo hzlib scsi_bufflen mem hsame.toSameProtection
          ((hin.resolve_left hvte).resolve_left hvbf)

end Commands

/-- WRITE(6) of so many times 64 kibibytes. -/
def lengthCdb (n : UInt8) : Cdb
  | 2 => n
  | _ => 0

/-- A drive with blocks of one mebibyte. -/
def mebiByteBlocks (d : Drive) : Drive :=
  { d with modeBlockDescriptor := fun k => if k = 5 then 0x10 else 0 }

/-- A READ(6) of five bytes keeps to the data buffer. So does a WRITE(6) of three blocks of one
mebibyte, each taken from its start. A WRITE(6) of one block of three mebibytes does not. -/
theorem transfer_inside_plainDrive :
    InBuffer (Transfer.read_6.use storedLibs 5 (fun _ => zeroMemory) (fun _ => 0) plainDrive
      (readCdb 0 5)) 5 ∧
    InBuffer (Transfer.write_6.use storedLibs (2 ^ 21) (fun _ => zeroMemory) (fun _ => 0)
      (mebiByteBlocks emptyDrive) (readCdb 1 3)) (2 ^ 20) ∧
    ¬∀ (scsi_bufflen : ℕ) (ms : ℕ → ReadMemory) (mem : ℕ → UInt8) (d' : Drive) (p i : ℕ)
      (l : List Record), scsi_bufflen ≤ max_sectors * 512 → SameTransfers emptyDrive d' →
        At d'.cart p l i →
        InBuffer (Transfer.write_6.use storedLibs scsi_bufflen ms mem d' (lengthCdb 0x30))
          (opcode_6_params emptyDrive (lengthCdb 0x30)).2 := by
  have hlzo : ∀ z n out, storedLibs.lzo1x_decompress_safe z n = some out → out.length ≤ n :=
    fun _ _ _ h => unstoreStream_length h
  have hzlib : ∀ z n out, storedLibs.uncompress z n = some out → out.length ≤ n :=
    fun _ _ _ h => unstoreStream_length h
  refine ⟨?_, ?_, ?_⟩
  · have hmethod : readLbpMethod plainDrive = 0 := by decide +kernel
    have hparams : opcode_6_params plainDrive (readCdb 0 5) = (1, 5) := by decide +kernel
    have hin : Transfer.read_6.Inside plainDrive (readCdb 0 5) := by
      right
      unfold ReadsInside blockRoom
      rw [hparams, hmethod]
      decide +kernel
    have hall := (transfer_inside_iff hlzo hzlib .read_6).2.mpr hin 5 (fun _ => zeroMemory)
      (fun _ => 0) plainDrive 0 0 _ (by decide) ⟨.refl _, rfl⟩ plainDrive_at
    rwa [hparams] at hall
  · have hparams : opcode_6_params (mebiByteBlocks emptyDrive) (readCdb 1 3) = (3, 2 ^ 20) := by
      decide +kernel
    have hin : Transfer.write_6.Inside (mebiByteBlocks emptyDrive) (readCdb 1 3) := by
      unfold Transfer.Inside WritesInside
      rw [hparams]
      decide +kernel
    have hall := (transfer_inside_iff hlzo hzlib .write_6).2.mpr hin (2 ^ 21) (fun _ => zeroMemory)
      (fun _ => 0) (mebiByteBlocks emptyDrive) 0 0 [] (by decide) ⟨.refl _, rfl⟩ emptyDrive_at
    rwa [hparams] at hall
  · have hparams : opcode_6_params emptyDrive (lengthCdb 0x30) = (1, 3 * 2 ^ 20) := by
      decide +kernel
    rw [(transfer_inside_iff (d := emptyDrive) hlzo hzlib .write_6).2]
    unfold Transfer.Inside WritesInside
    rw [hparams]
    decide +kernel

/-- The drive that writes with a CRC32C. -/
def crcWriter : Drive := { emptyDrive with LBP_W := true, LBP_method := 2 }

/-- A WRITE(6) of three mebibytes is handed on from behind the data buffer. And the length of a
guarded WRITE(6) of three bytes wraps. -/
theorem transfer_exceeds :
    (¬InBuffer (Transfer.write_6.use storedLibs (2 ^ 21) (fun _ => zeroMemory) (fun _ => 0)
      { emptyDrive with vcr_updated := true } (lengthCdb 0x30)) (3 * 2 ^ 20)) ∧
    (Transfer.write_6.use storedLibs 3 (fun _ => zeroMemory) (fun _ => 0) crcWriter
      (writeCdb 3)).lengths = [2 ^ 32 - 1] ∧
    ¬∀ (op : Transfer) (d : Drive) (cdb : Cdb) (scsi_bufflen : ℕ) (ms : ℕ → ReadMemory)
      (mem : ℕ → UInt8) (p i : ℕ) (l : List Record), scsi_bufflen ≤ max_sectors * 512 →
        At d.cart p l i →
        InBuffer (op.use storedLibs scsi_bufflen ms mem d cdb) (opcode_6_params d cdb).2 := by
  have hparams : opcode_6_params crcWriter (writeCdb 3) = (1, 3) := by decide +kernel
  have hwraps : (Transfer.write_6.use storedLibs 3 (fun _ => zeroMemory) (fun _ => 0) crcWriter
      (writeCdb 3)).lengths = [2 ^ 32 - 1] := by
    decide +kernel
  refine ⟨fun hin => ?_, hwraps, fun hall => ?_⟩
  · have hlong : opcode_6_params emptyDrive (lengthCdb 0x30) = (1, 3 * 2 ^ 20) := by decide +kernel
    have hwrites := @writes_inside_of storedLibs emptyDrive (lengthCdb 0x30) (2 ^ 21) (fun _ => 0)
      (by rw [hlong]; exact hin)
    unfold WritesInside at hwrites
    rw [hlong] at hwrites
    exact absurd (hwrites.2 Nat.one_pos).1 (by decide)
  · have hin := hall .write_6 crcWriter (writeCdb 3) 3 (fun _ => zeroMemory) (fun _ => 0) 0 0 []
      (by decide) emptyDrive_at
    have hle := hin.lengths (2 ^ 32 - 1) (by rw [hwraps]; exact List.mem_cons_self)
    rw [hparams] at hle
    exact absurd hle (by decide)

end Mhvtl.Ssc
