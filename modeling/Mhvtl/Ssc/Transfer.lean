import Mhvtl.Ssc.Drive

/-!
# Reading and writing blocks

The data path of READ(6) and WRITE(6): decryption check, decompression, CRC
and check word on the way out; capacity, compression, encryption and check word
on the way in. What is undefined in the source has no result.
-/

namespace Mhvtl.Ssc

open Bytes Cart

/-- The first `n` bytes; what is missing counts as zeros. -/
def takePad (n : ℕ) (bs : List UInt8) : List UInt8 := bs.take n ++ List.replicate (n - bs.length) 0

/-- No sense, with the length of the block against the one requested. -/
def mk_sense_short_block (requested processed : ℕ) : Status :=
  (sam_no_sense SD_ILI NO_ADDITIONAL_SENSE).withInformation
    ((requested + 2 ^ 32 - processed) % 2 ^ 32)

/-- Whether one of the first bytes of two arrays differs. -/
def differs (n : UInt32) (a b : Fin ENCR_KEY_MAX_LEN → UInt8) : Bool :=
  (List.range n.toNat).any fun i => if h : i < ENCR_KEY_MAX_LEN then a ⟨i, h⟩ ≠ b ⟨i, h⟩ else false

/-- No byte of them differs. -/
theorem differs_iff {n : UInt32} {a b : Fin ENCR_KEY_MAX_LEN → UInt8} :
    ¬differs n a b = true ↔ ∀ i : Fin ENCR_KEY_MAX_LEN, i.val < n.toNat → a i = b i := by
  rw [differs, List.any_eq_true]
  constructor
  · intro h i hi
    by_contra hne
    refine h ⟨i.val, List.mem_range.mpr hi, ?_⟩
    rw [dif_pos i.isLt]
    exact decide_eq_true hne
  · rintro h ⟨i, hi, hdiffer⟩
    split at hdiffer
    · next hlt => exact of_decide_eq_true hdiffer (h ⟨i, hlt⟩ (List.mem_range.mp hi))
    · exact Bool.false_ne_true hdiffer

/-- Whether a block has another key than the drive. -/
def otherKey (info : Encryption) (encr : BoundedEncryption) : Bool :=
  info.key_length ≠ encr.key_length ∨ differs info.key_length info.key encr.key

/-- Whether a block has other unauthenticated data than the drive. -/
def otherUkad (info : Encryption) (encr : BoundedEncryption) : Bool :=
  info.ukad_length ≠ encr.ukad_length ∨ differs info.ukad_length info.ukad encr.ukad

/-- Whether the drive may read the block at the position, unless what came with
it is not the drive's. The current key is reached through a pointer that may be null. -/
def judgeBlock (other : Encryption → BoundedEncryption → Bool) (d : Drive) :
    Option (Bool × Drive) :=
  let pos := d.cart.c_pos
  if pos.blk_flags &&& BLKHDR_FLG_ENCRYPTED ≠ 0 then
    if 1 < d.DECRYPT_MODE then
      match d.encryptp with
      | none => none
      | some encr =>
        if other pos.blk_encryption_info encr then
          some (false, d.report (sam_data_protect E_INCORRECT_KEY))
        else some (true, d)
    else some (false, d.report (sam_data_protect E_UNABLE_TO_DECRYPT))
  else if d.DECRYPT_MODE = 2 then some (false, d.report (sam_data_protect E_UNENCRYPTED_DATA))
  else some (true, d)

/-- Whether the key of the block at the position allows to read it. -/
def valid_encryption_blk (d : Drive) : Option (Bool × Drive) :=
  judgeBlock otherKey d.declare_ssc_vars

/-- The same for the drives that want the unauthenticated data back as well. It does not begin with
good status. -/
def valid_encryption_blk_t10k (d : Drive) : Option (Bool × Drive) :=
  judgeBlock (fun info encr => otherKey info encr || otherUkad info encr) d

/-- The older family does the same. -/
def valid_encryption_blk_9840 (d : Drive) : Option (Bool × Drive) :=
  judgeBlock (fun info encr => otherKey info encr || otherUkad info encr) d

/-- The check that a personality names. -/
def KeyCheck.run : KeyCheck → Drive → Option (Bool × Drive)
  | .valid_encryption_blk => Ssc.valid_encryption_blk
  | .valid_encryption_blk_t10k => Ssc.valid_encryption_blk_t10k
  | .valid_encryption_blk_9840 => Ssc.valid_encryption_blk_9840

/-- The check of the drive's personality. -/
def Drive.valid_encryption_blk (d : Drive) : Option (Bool × Drive) :=
  d.pm.valid_encryption_blk.run d

/-- What a check compares. -/
def KeyCheck.other : KeyCheck → Encryption → BoundedEncryption → Bool
  | .valid_encryption_blk => otherKey
  | _ => fun info encr => otherKey info encr || otherUkad info encr

/-- The drive behind a check that it passed: only the default one begins with good status. -/
def Drive.checked (d : Drive) : Drive :=
  if d.pm.valid_encryption_blk = .valid_encryption_blk then d.declare_ssc_vars else d

/-- The check refuses, or passes the drive as it found it. -/
theorem judgeBlock_cases (other : Encryption → BoundedEncryption → Bool) (d : Drive) :
    judgeBlock other d = none ∨
    (∃ asc_ascq, judgeBlock other d = some (false, d.report (sam_data_protect asc_ascq))) ∨
    judgeBlock other d = some (true, d) := by
  unfold judgeBlock
  dsimp only
  split
  · split
    · split
      · exact Or.inl rfl
      · split
        · exact Or.inr (Or.inl ⟨_, rfl⟩)
        · exact Or.inr (Or.inr rfl)
    · exact Or.inr (Or.inl ⟨_, rfl⟩)
  · split
    · exact Or.inr (Or.inl ⟨_, rfl⟩)
    · exact Or.inr (Or.inr rfl)

/-- Of the drive only the status is set anew. -/
theorem Drive.checked_eq (d : Drive) : d.checked = d ∨ d.checked = d.declare_ssc_vars := by
  unfold Drive.checked
  split
  · exact Or.inr rfl
  · exact Or.inl rfl

/-- The status is another, and good where it was good. -/
theorem Drive.checked_report (d : Drive) :
    ∃ st, d.checked = d.report st ∧ (d.sam_stat = SAM_STAT_GOOD → st.sam_stat = SAM_STAT_GOOD) := by
  rcases d.checked_eq with h | h
  · exact ⟨d.cart.status, h, fun hgood => hgood⟩
  · exact ⟨_, h, fun _ => rfl⟩

/-- At the start of a command the status is good already. -/
@[simp]
theorem Drive.checked_declare_ssc_vars (d : Drive) :
    d.declare_ssc_vars.checked = d.declare_ssc_vars := by
  rcases d.declare_ssc_vars.checked_eq with h | h
  · exact h
  · exact h

/-- The checks differ in what they compare and in the status they begin with. -/
theorem Drive.valid_encryption_blk_eq (d : Drive) :
    d.valid_encryption_blk = judgeBlock d.pm.valid_encryption_blk.other d.checked := by
  unfold Drive.valid_encryption_blk Drive.checked
  cases d.pm.valid_encryption_blk with
  | valid_encryption_blk => rw [if_pos rfl]; rfl
  | valid_encryption_blk_t10k => rw [if_neg (by decide)]; rfl
  | valid_encryption_blk_9840 => rw [if_neg (by decide)]; rfl

/-- Every check changes nothing but the status. -/
theorem Drive.valid_encryption_blk_cases (d : Drive) :
    d.valid_encryption_blk = none ∨
    (∃ asc_ascq, d.valid_encryption_blk = some (false, d.report (sam_data_protect asc_ascq))) ∨
    d.valid_encryption_blk = some (true, d.checked) := by
  have hreport : ∀ s, d.checked.report s = d.report s := by
    intro s
    rcases d.checked_eq with h | h
    · rw [h]
    · rw [h]
      rfl
  have hcases := judgeBlock_cases d.pm.valid_encryption_blk.other d.checked
  simp only [hreport] at hcases
  rwa [d.valid_encryption_blk_eq]

/-- What a check says of the block at the position. -/
theorem judgeBlock_verdict (other : Encryption → BoundedEncryption → Bool) (d : Drive) :
    (judgeBlock other d).map Prod.fst =
      if d.cart.c_pos.blk_flags &&& BLKHDR_FLG_ENCRYPTED ≠ 0 then
        if 1 < d.DECRYPT_MODE then
          d.encryptp.map fun encr => !other d.cart.c_pos.blk_encryption_info encr
        else some false
      else some (!decide (d.DECRYPT_MODE = 2)) := by
  unfold judgeBlock
  dsimp only
  by_cases henc : d.cart.c_pos.blk_flags &&& BLKHDR_FLG_ENCRYPTED ≠ 0
  · rw [if_pos henc, if_pos henc]
    by_cases hmode : 1 < d.DECRYPT_MODE
    · rw [if_pos hmode, if_pos hmode]
      cases d.encryptp with
      | none => rfl
      | some encr => cases h : other d.cart.c_pos.blk_encryption_info encr <;> simp [h]
    · rw [if_neg hmode, if_neg hmode, Option.map_some]
  · rw [if_neg henc, if_neg henc]
    by_cases hmode : d.DECRYPT_MODE = 2 <;> simp [hmode]

/-- A check that passes leaves the drive as said. -/
theorem Drive.valid_encryption_blk_true {d : Drive}
    (h : d.valid_encryption_blk.map Prod.fst = some true) :
    d.valid_encryption_blk = some (true, d.checked) := by
  rcases d.valid_encryption_blk_cases with hn | ⟨asc_ascq, hf⟩ | ht
  · rw [hn] at h
    cases h
  · rw [hf] at h
    cases h
  · exact ht

/-- What the check says does not rest on the status that it begins with. -/
theorem Drive.valid_encryption_blk_verdict (d : Drive) :
    d.valid_encryption_blk.map Prod.fst =
      (judgeBlock d.pm.valid_encryption_blk.other d).map Prod.fst := by
  rw [d.valid_encryption_blk_eq]
  rcases d.checked_eq with hd | hd
  · rw [hd]
  · rw [hd, judgeBlock_verdict, judgeBlock_verdict]
    rfl

/-- So it is the same at the start of a command. -/
theorem Drive.valid_encryption_blk_declared (d : Drive) :
    d.declare_ssc_vars.valid_encryption_blk.map Prod.fst =
      d.valid_encryption_blk.map Prod.fst := by
  rw [Drive.valid_encryption_blk_verdict, Drive.valid_encryption_blk_verdict, judgeBlock_verdict,
    judgeBlock_verdict]
  rfl

/-- There a check that passes leaves the drive as it is. -/
theorem Drive.valid_encryption_blk_start {d : Drive}
    (h : d.valid_encryption_blk.map Prod.fst = some true) :
    d.declare_ssc_vars.valid_encryption_blk = some (true, d.declare_ssc_vars) := by
  have hpass := Drive.valid_encryption_blk_true (d.valid_encryption_blk_declared.trans h)
  rwa [Drive.checked_declare_ssc_vars] at hpass

/-- A compressed block, read and decompressed. A failure is reported and leaves
no bytes. -/
def uncompress_block (d : Drive) (decompress : List UInt8 → ℕ → Option (List UInt8)) :
    List UInt8 × Drive :=
  let blk_size := d.cart.c_pos.blk_size.toNat
  let disk_blk_size := d.cart.c_pos.disk_blk_size
  let (cbuf, cart) := d.cart.read_tape_block disk_blk_size
  let d := { d with cart := cart }
  match cbuf with
  | none => ([], d.report (sam_medium_error E_UNRECOVERED_READ))
  | some cbuf =>
    if cbuf.length ≠ disk_blk_size then ([], d.report (sam_medium_error E_UNRECOVERED_READ)) else
    match decompress cbuf blk_size with
    | none => ([], d.report (sam_medium_error E_DECOMPRESSION_CRC))
    | some bs => (takePad blk_size bs, d)

/-- The content of the block at the position. Nothing when a block in the clear
cannot be read in full. -/
def readContent (L : Libs) (d : Drive) : Option (List UInt8) × Drive :=
  let blk_flags := d.cart.c_pos.blk_flags
  let blk_size := d.cart.c_pos.blk_size.toNat
  if blk_flags &&& BLKHDR_FLG_LZO_COMPRESSED ≠ 0 then
    let (bs, d) := uncompress_block d L.lzo1x_decompress_safe
    (some bs, d)
  else if blk_flags &&& BLKHDR_FLG_ZLIB_COMPRESSED ≠ 0 then
    let (bs, d) := uncompress_block d L.uncompress
    (some bs, d)
  else
    let (bs, cart) := d.cart.read_tape_block blk_size
    let d := { d with cart := cart }
    if (bs.map List.length).getD (2 ^ 32 - 1) = blk_size then (some (bs.getD []), d)
    else (none, d.report (sam_medium_error E_UNRECOVERED_READ))

/-- The content with the check word of the method behind it; an empty block
cannot have a Reed-Solomon word. -/
def protectBlock (L : Libs) (d : Drive) (lbp_method : ℕ) (stored : Option UInt32)
    (content : List UInt8) : List UInt8 :=
  match lbp_method with
  | 1 => BlockProtectRSCRC content d.lbp_rscrc_be
  | 2 => content ++ leBytes 4 (stored.getD (L.crc32c 0 content)).toNat
  | _ => content

/-- Sense data when the length sent, or that of the block, is not the one requested. -/
def reportLength (d : Drive) (request_sz lbp_sz rc blk_size : ℕ) (sili : Bool) : Drive :=
  if rc ≠ request_sz then d.report (mk_sense_short_block request_sz rc)
  else if !sili ∧ lbp_sz < blk_size then d.report (mk_sense_short_block lbp_sz blk_size)
  else d

/-- Reads the block at the position for a request of `request_sz` bytes. The result
is what the initiator gets; nothing when there is an error. -/
def readBlock (L : Libs) (d : Drive) (request_sz : ℕ) (sili : Bool) (lbp_method : ℕ) :
    List UInt8 × Drive :=
  if request_sz = 0 then ([], d) else
  -- unsigned, so that a request below four bytes wraps
  let lbp_sz := if lbp_method ≠ 0 then (request_sz + 2 ^ 32 - 4) % 2 ^ 32 else request_sz
  let pos := d.cart.c_pos
  if pos.blk_type = B_FILEMARK then
    let d := d.onCart fun c => (c.position_blocks_forw 1).2
    ([], d.report ((sam_no_sense SD_FILEMARK E_MARK).withInformation lbp_sz))
  else if pos.blk_type = B_EOD then
    ([], d.report ((sam_blank_check E_END_OF_DATA).withInformation lbp_sz))
  else if pos.blk_type ≠ B_DATA then ([], d.report (sam_medium_error E_UNRECOVERED_READ))
  else
  let blk_size := pos.blk_size.toNat
  let stored := if pos.blk_flags &&& BLKHDR_FLG_CRC ≠ 0 then some pos.uncomp_crc else none
  match readContent L d with
  | (none, d) => ([], d)
  | (some content, d) =>
    if stored.any fun crc => crc ≠ L.crc32c 0 content then
      ([], d.report (sam_medium_error E_DECOMPRESSION_CRC))
    else if lbp_method = 3 then ([], d.report (sam_hardware_error E_LOGICAL_BLOCK_GUARD_FAILED))
    else
    let whole := protectBlock L d lbp_method stored content
    let out := if request_sz < blk_size then takePad request_sz whole else whole
    let d := { d with
      bytesRead_I := d.bytesRead_I + blk_size
      bytesRead_M := d.bytesRead_M + pos.disk_blk_size }
    (out, reportLength d request_sz lbp_sz out.length blk_size sili)

/-- The blocks of a READ(6) that are still to come. -/
def readBlocks (L : Libs) (cdb : Cdb) (sz : ℕ) : ℕ → Drive → Option (List UInt8 × Drive)
  | 0, d => some ([], d)
  | count + 1, d =>
    match d.valid_encryption_blk with
    | none => none
    | some (false, d) => some ([], d.returns SAM_STAT_CHECK_CONDITION)
    | some (true, d) =>
      let lbp_method := if d.LBP_R then d.LBP_method else 0
      let (bs, d) := readBlock L d sz (sili cdb) lbp_method
      if bs.length = 0 ∧ fixedBlock cdb then
        -- the information bytes count the blocks that are missing
        some (bs, d.report (d.cart.status.withInformation (count + 1)))
      else
        (readBlocks L cdb sz count d).map fun (rest, d) => (bs ++ rest, d)

/-- READ(6) and VERIFY(6) behind their own checks. -/
def complete_read_6 (L : Libs) (d : Drive) (cdb : Cdb) (sz count : ℕ) :
    Option (List UInt8 × Drive) :=
  let d := d.declare_ssc_vars
  let refuse := fun s => some ([], d.report (sam_not_ready s))
  if d.load_status = TAPE_LOADING then refuse E_BECOMING_READY
  else if d.load_status = TAPE_LOADED then
    if d.cart.mam.MediumType = MEDIA_TYPE_CLEAN then refuse E_CLEANING_CART_INSTALLED
    else readBlocks L cdb sz count d
  else if d.load_status = TAPE_UNLOADED then refuse E_MEDIUM_NOT_PRESENT
  else refuse E_MEDIUM_FMT_CORRUPT

/-- READ(6): the bytes for the initiator and the state after it. -/
def ssc_read_6 (L : Libs) (d : Drive) (cdb : Cdb) : Option (List UInt8 × Drive) :=
  let d := d.declare_ssc_vars
  let (count, sz) := opcode_6_params d cdb
  if sili cdb ∧ fixedBlock cdb then
    some ([], d.report (sam_illegal_request E_INVALID_FIELD_IN_CDB (some ⟨SKSV ||| CD, 1⟩)))
  else complete_read_6 L d cdb sz count

/-- The rules of a 3592 drive about the format of the medium. They are applied
after the key was chosen, and what they refuse is written all the same. -/
def valid_encryption_media_E06 (d : Drive) (drive_type : Drive3592) : Drive :=
  let flags := leNat (d.cart.mam.bytes .Flags)
  let putFlags := fun (d : Drive) (n : ℕ) => d.setMam (·.put .Flags (leBytes 2 n))
  if d.cart.c_pos.blk_number = 0 then
    let d :=
      if drive_type = .E06 then
        if d.ENCRYPT_MODE = 2 then { putFlags d (flags ||| 1) with app_encr_info := false }
        else putFlags d (flags - flags % 2)
      else d
    let density := d.pm.native_drive_density
    let d := { d with modeBlockDescriptor := Function.update d.modeBlockDescriptor 0 density }
    let d := d.setMam fun m => (m.putByte .MediumDensityCode density).putByte
      .FormattedDensityCode density
    d.onCart fun c => c.rewriteMAM.2
  else if drive_type = .E06 ∧ d.ENCRYPT_MODE ≠ 0 ∧ flags % 2 = 0 then
    d.report (sam_data_protect E_WRITE_PROTECT)
  else
    let code := d.cart.mam.byte .MediumDensityCode
    if code ≠ d.pm.native_drive_density ∧ drive_type.older ≠ some code then
      d.report (sam_data_protect E_WRITE_PROTECT)
    else d

/-- Whether the next block is encrypted. -/
def setup_crypto (d : Drive) : Drive :=
  let d := { d with app_encr_info := d.ENCRYPT_MODE = 2 }
  match d.pm.valid_encryption_media with
  | none => d
  | some drive_type => valid_encryption_media_E06 d drive_type

/-- The check word behind the block in the buffer is wrong. -/
def guardFails (d : Drive) (data : ℕ → UInt8) (src_sz lbp_method : ℕ) (crc : UInt32) : Bool :=
  d.pm.drive_supports_LBP ≠ 0 ∧ lbp_method ≠ 0 ∧
    verify_lbp_crc lbp_method d.lbp_rscrc_be data src_sz crc = false

/-- The block as it is. -/
def nocompArgs (L : Libs) (d : Drive) (data : ℕ → UInt8) (src_sz : ℕ) (null_wr : Bool) :
    Store.BlockArgs where
  buffer := data
  blk_size := UInt32.ofNat src_sz
  comp_size := 0
  encryptp := d.encryptp
  comp_type := 0
  null_media_type := null_wr
  crc := L.crc32c 0 (bytesAt data 0 src_sz)

/-- The block compressed. -/
def compArgs (L : Libs) (d : Drive) (data : ℕ → UInt8) (src_sz : ℕ) (dest_buf : List UInt8)
    (comp_type : UInt8) (null_wr : Bool) : Store.BlockArgs where
  buffer i := dest_buf.getD i 0
  blk_size := UInt32.ofNat src_sz
  comp_size := UInt32.ofNat dest_buf.length
  encryptp := d.encryptp
  comp_type := comp_type
  null_media_type := null_wr
  crc := L.crc32c 0 (bytesAt data 0 src_sz)

/-- Count bytes written. -/
def Drive.countWritten (d : Drive) (medium initiator : ℕ) : Drive :=
  { d with
    bytesWritten_M := d.bytesWritten_M + medium
    bytesWritten_I := d.bytesWritten_I + initiator }

/-- Writes a block as it is. The bytes are counted only when the check word is right;
the block is on the medium either way. -/
def writeBlock_nocomp (L : Libs) (d : Drive) (data : ℕ → UInt8) (src_sz : ℕ) (null_wr : Bool)
    (lbp_method : ℕ) : ℕ × Drive :=
  let d := setup_crypto d
  let args := nocompArgs L d data src_sz null_wr
  let (rc, cart) := d.cart.write_tape_block args
  let d := { d with cart := cart }
  if guardFails d data src_sz lbp_method args.crc then
    (0, d.report (sam_hardware_error E_LOGICAL_BLOCK_GUARD_FAILED))
  else (if rc < 0 then 0 else src_sz, d.countWritten src_sz src_sz)

/-- Writes a block compressed. -/
def writeBlock_comp (L : Libs) (d : Drive) (data : ℕ → UInt8) (src_sz : ℕ)
    (compress : List UInt8 → Option (List UInt8)) (comp_type : UInt8) (null_wr : Bool)
    (lbp_method : ℕ) : ℕ × Drive :=
  let d := setup_crypto d
  match compress (bytesAt data 0 src_sz) with
  | none => (0, d.report (sam_hardware_error E_COMPRESSION_CHECK))
  | some dest_buf =>
    let args := compArgs L d data src_sz dest_buf comp_type null_wr
    let (rc, cart) := d.cart.write_tape_block args
    let d := { d with cart := cart }.countWritten dest_buf.length src_sz
    if guardFails d data src_sz lbp_method args.crc then
      (0, d.report (sam_hardware_error E_LOGICAL_BLOCK_GUARD_FAILED))
    else (if rc < 0 then 0 else src_sz, d)

/-- Writes a block with lzo compression. -/
def writeBlock_lzo (L : Libs) (d : Drive) (data : ℕ → UInt8) (src_sz : ℕ) (null_wr : Bool)
    (lbp_method : ℕ) : ℕ × Drive :=
  writeBlock_comp L d data src_sz L.lzo1x_1_compress LZO null_wr lbp_method

/-- Writes a block with zlib compression. -/
def writeBlock_zlib (L : Libs) (d : Drive) (data : ℕ → UInt8) (src_sz : ℕ) (null_wr : Bool)
    (lbp_method : ℕ) : ℕ × Drive :=
  writeBlock_comp L d data src_sz (L.compress2 · d.compressionFactor.toNat) ZLIB null_wr lbp_method

/-- The method that guards a write, 0 for none. -/
def writeLbpMethod (d : Drive) : ℕ :=
  if d.pm.drive_supports_LBP ≠ 0 ∧ d.LBP_W ∧ (d.LBP_method = 1 ∨ d.LBP_method = 2) then d.LBP_method
  else 0

/-- The way of writing that the medium and the compression settings choose. -/
def writeChosen (L : Libs) (d : Drive) (data : ℕ → UInt8) (lbp_sz lbp_method : ℕ) : ℕ × Drive :=
  if d.cart.mam.MediumType = MEDIA_TYPE_NULL then writeBlock_nocomp L d data lbp_sz true 0
  else if d.compressionFactor = MHVTL_NO_COMPRESSION then
    writeBlock_nocomp L d data lbp_sz false lbp_method
  else if d.compressionType = LZO then writeBlock_lzo L d data lbp_sz false lbp_method
  else if d.compressionType = ZLIB then writeBlock_zlib L d data lbp_sz false lbp_method
  else writeBlock_nocomp L d data lbp_sz false lbp_method

/-- The warnings in front of the end of the partition, and the capacity that is
left. The early warning lies a fixed way in front of the end, the programmable
one in front of that; the difference is computed unsigned and read as signed. -/
def warnAndCount (d : Drive) (partition_capacity : ℕ) : Drive :=
  let current_position := d.cart.current_tape_offset
  let early_warning_position := partition_capacity - d.early_warning_sz
  let prog_early_warning_position := early_warning_position - d.prog_early_warning_sz
  let d :=
    if d.pm.drive_supports_early_warning ∧ early_warning_position ≤ current_position then
      d.report (sam_no_sense SD_EOM E_EOM)
    else if d.pm.drive_supports_prog_early_warning ∧
        prog_early_warning_position ≤ current_position then
      d.report (sam_no_sense SD_EOM E_PROGRAMMABLE_EARLY_WARNING)
    else d
  let difference := (partition_capacity + 2 ^ 64 - current_position) % 2 ^ 64
  let remaining_capacity := if difference < 2 ^ 63 then difference else 0
  d.setMam (·.putBe .remaining_capacity remaining_capacity)

/-- Writes one block of `src_sz` bytes from the start of the data buffer: 0 when it
fails. A protected write of less than four bytes wraps the length and reads four
gigabytes past the buffer. -/
def writeBlock (L : Libs) (d : Drive) (data : ℕ → UInt8) (src_sz : ℕ) : Option (ℕ × Drive) :=
  let lbp_method := writeLbpMethod d
  match medium_partition_capacity L d d.cart.partition_id with
  | none => none
  | some partition_capacity =>
    if partition_capacity ≤ d.cart.current_tape_offset then
      some (0, (d.setMam (·.putBe .remaining_capacity 0)).report
        (sam_no_sense (VOLUME_OVERFLOW ||| SD_EOM) E_EOM))
    else if lbp_method ≠ 0 ∧ src_sz < 4 then none
    else
      let lbp_sz := if lbp_method ≠ 0 then src_sz - 4 else src_sz
      let (src_len, d) := writeChosen L d data lbp_sz lbp_method
      if src_len = 0 then some (0, d) else some (src_len, warnAndCount d partition_capacity)

/-- The blocks of a WRITE(6). Each one is taken from the start of the data buffer;
the first one that leaves a status ends the command. -/
def writeBlocks (L : Libs) (data : ℕ → UInt8) (sz : ℕ) : ℕ → Drive → Option Drive
  | 0, d => some (d.returns SAM_STAT_GOOD)
  | count + 1, d =>
    match writeBlock L d data sz with
    | none => none
    | some (_, d) => if d.sam_stat ≠ SAM_STAT_GOOD then some d else writeBlocks L data sz count d

/-- WRITE(6), with the data the initiator sent. -/
def ssc_write_6 (L : Libs) (d : Drive) (cdb : Cdb) (data : ℕ → UInt8) : Option Drive :=
  let d := d.declare_ssc_vars
  let (count, sz) := opcode_6_params d cdb
  match check_restrictions d with
  | none => none
  | some (false, d) => some (d.returns SAM_STAT_CHECK_CONDITION)
  | some (true, d) =>
    if d.cart.OK_to_write then writeBlocks L data sz count (update_volume_change_reference d)
    else some (d.returns SAM_STAT_GOOD)

end Mhvtl.Ssc
