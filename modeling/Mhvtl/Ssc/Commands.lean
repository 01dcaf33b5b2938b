import Mhvtl.Ssc.Transfer

/-!
# Positioning, formatting and key commands

The handlers of `ssc.c` that move the position, change the layout of the
medium or set the key, beside READ, WRITE and MODE SELECT.
-/

namespace Mhvtl.Ssc

open Bytes Cart

/-- Operation code of LOCATE(10). -/
def LOCATE_10 : UInt8 := 0x2b
/-- Operation code of LOCATE(16). -/
def LOCATE_16 : UInt8 := 0x92

/-- The block is not the one at the position. -/
def E_SEQUENTIAL_POSITIONING_ERROR : ℕ := 0x3b00

/-- REWIND. -/
def ssc_rewind (d : Drive) : Drive :=
  let d := d.declare_ssc_vars
  if d.load_status = TAPE_UNLOADED then d.report (sam_not_ready E_MEDIUM_NOT_PRESENT)
  else if d.load_status = TAPE_LOADED then
    let (rc, c) := d.cart.rewind_tape
    let d := { d with cart := c }
    if rc < 0 then d.report (sam_not_ready E_MEDIUM_FMT_CORRUPT) else d
  else d.report (sam_not_ready E_MEDIUM_FMT_CORRUPT)

/-- Spaces over blocks or filemarks, or to end of data. -/
def resp_space (d : Drive) (count : ℤ) (code : ℕ) : Drive :=
  if code = 0 then
    if 0 ≤ count then d.onCart fun c => (c.position_blocks_forw count.toNat).2
    else d.onCart fun c => (c.position_blocks_back (-count).toNat).2
  else if code = 1 then
    if 0 ≤ count then d.onCart fun c => (c.position_filemarks_forw count.toNat).2
    else d.onCart fun c => (c.position_filemarks_back (-count).toNat).2
  else if code = 3 then d.onCart fun c => c.position_to_eod.2
  else d.report (sam_illegal_request E_INVALID_FIELD_IN_CDB (some ⟨SKSV ||| CD, 1⟩))

/-- A number of `bits` bits read as two's complement. -/
def signed (bits n : ℕ) : ℤ := if n < 2 ^ (bits - 1) then n else (n : ℤ) - 2 ^ bits

/-- SPACE behind the fields of its command block. -/
def space (d : Drive) (icount : ℤ) (code : ℕ) : Drive :=
  let d := d.declare_ssc_vars
  if code ≠ 0 ∧ code ≠ 1 ∧ code ≠ 3 then
    d.report (sam_illegal_request E_INVALID_FIELD_IN_PARMS
      (some ⟨SKSV ||| CD ||| BPV ||| code, 1⟩))
  else if icount ≠ 0 ∨ code = 3 then resp_space d icount code
  else d

/-- SPACE(6). -/
def ssc_space_6 (d : Drive) (cdb : Cdb) : Drive :=
  space d (signed 24 (be24 cdb 2)) (cdb 1 &&& 0x07).toNat

/-- SPACE(16). -/
def ssc_space_16 (d : Drive) (cdb : Cdb) : Drive :=
  space d (signed 64 (beNat (bytesAt cdb 4 8))) (cdb 1 &&& 0x0f).toNat

/-- CP, the bit that asks for another partition. -/
def changesPartition (cdb : Cdb) : Bool := cdb 1 &&& 0x02 ≠ 0

/-- The partition and block a LOCATE asks for. The bits of the destination type are
compared in place with numbers that are not shifted, so that only a logical object
identifier is ever taken. -/
def locateTarget (d : Drive) (cdb : Cdb) : Option (ℕ × ℕ) :=
  let here := d.cart.partition_id
  if cdb 0 = LOCATE_10 then
    some (if changesPartition cdb then (cdb 8).toNat else here, beNat (bytesAt cdb 3 4))
  else if cdb 1 &&& 0x18 = 0 then
    some (if changesPartition cdb then (cdb 3).toNat else here, beNat (bytesAt cdb 4 8))
  else none

/-- LOCATE. The arrays have room for `MAX_PARTITIONS`. -/
def ssc_locate (d : Drive) (cdb : Cdb) : Option Drive :=
  let d := d.declare_ssc_vars
  let refuse := fun _ : Unit => d.report (sam_illegal_request E_INVALID_FIELD_IN_CDB none)
  if cdb 0 ≠ LOCATE_10 ∧ cdb 0 ≠ LOCATE_16 then some (d.returns SAM_STAT_CHECK_CONDITION) else
  match locateTarget d cdb with
  | none => some (refuse ())
  | some (partition_no, blk_no) =>
    if changesPartition cdb ∧ d.cart.mam.num_partitions < partition_no then some (refuse ())
    else if MAX_PARTITIONS ≤ partition_no then none
    else some (d.onCart fun c =>
      ((c.change_partition partition_no).2.position_to_block (blk_no % 2 ^ 32)).2)

/-- ALLOW OVERWRITE. -/
def ssc_allow_overwrite (d : Drive) (cdb : Cdb) : Drive :=
  let d := { d.declare_ssc_vars with allow_overwrite := false }
  let refuse := fun (d : Drive) (field_pointer : ℕ) => d.report
    (sam_illegal_request E_INVALID_FIELD_IN_CDB (some ⟨SKSV ||| CD, field_pointer⟩))
  let allow_overwrite := (cdb 2 &&& 0x0f).toNat
  let current_tape_block :=
    if d.cart.fd .data d.cart.partition_id then d.cart.c_pos.blk_number else 0
  let block := beNat (bytesAt cdb 4 8)
  if allow_overwrite = 0 then d
  else if allow_overwrite = 1 then
    if cdb 3 ≠ 0 then refuse d 3
    else if block = current_tape_block then
      { d with allow_overwrite_block := block, allow_overwrite := true }
    else
      { d with allow_overwrite_block := 2 ^ 64 - 1 }.report
        (sam_illegal_request E_SEQUENTIAL_POSITIONING_ERROR none)
  else if allow_overwrite = 2 then { d with allow_overwrite := true }
  else refuse d 2

/-- WRITE FILEMARKS. On WORM media at block 0 a refusal is passed over. -/
def ssc_write_filemarks (L : Libs) (d : Drive) (cdb : Cdb) : Option Drive :=
  let d := d.declare_ssc_vars
  let count := be24 cdb 2
  match check_restrictions d with
  | none => none
  | some (allowed, d) =>
    if !allowed ∧ ¬(d.cart.mam.MediumType = MEDIA_TYPE_WORM ∧ d.cart.c_pos.blk_number = 0) then
      some (d.returns SAM_STAT_CHECK_CONDITION)
    else
    let d := if count ≠ 0 then update_volume_change_reference d else d
    let d := d.onCart fun c => (c.write_filemarks count).2
    if count = 0 then some d else
    match medium_partition_capacity L d d.cart.partition_id with
    | none => none
    | some partition_capacity =>
      if partition_capacity ≤ d.cart.current_tape_offset then
        some ((d.setMam (·.putBe .remaining_capacity 0)).report (sam_no_sense SD_EOM E_EOM))
      else some d

/-- ERASE. -/
def ssc_erase (d : Drive) : Option Drive :=
  let d := d.declare_ssc_vars
  match check_restrictions d with
  | none => none
  | some (false, d) => some (d.returns SAM_STAT_CHECK_CONDITION)
  | some (true, d) =>
    if d.cart.c_pos.blk_number ≠ 0 then some (d.report (sam_not_ready E_INVALID_FIELD_IN_CDB))
    else if d.cart.OK_to_write then
      some ((update_volume_change_reference d).onCart fun c => c.format_partition.2)
    else some (d.report (sam_not_ready E_MEDIUM_OVERWRITE_ATTEMPT))

/-- Records the capacities of the partitions on the medium. -/
def set_medium_partition_capacity (L : Libs) (d : Drive) : Option Drive :=
  let num := partitionCount d.cart.mam
  let cleared := d.setMam fun m =>
    (List.range MAX_PARTITIONS).foldl (fun m k => m.putBe (partitionCapacity k) 0) m
  if MAX_PARTITIONS < num then none else
  (List.range num).foldlM
    (fun d k => (medium_partition_capacity_from_mode_page L d k).map fun size =>
      d.setMam (·.putBe (partitionCapacity k) size)) cleared

/-- `format_tape` on the cartridge of a drive. -/
def Drive.formatTape (d : Drive) : Option Drive :=
  d.cart.format_tape.map fun c => { d with cart := c }

/-- FORMAT MEDIUM. -/
def ssc_format_medium (L : Libs) (d : Drive) (cdb : Cdb) : Option Drive :=
  let d := d.declare_ssc_vars
  match check_restrictions d with
  | none => none
  | some (false, d) => some (d.returns SAM_STAT_CHECK_CONDITION)
  | some (true, d) =>
    if d.cart.c_pos.blk_number ≠ 0 then
      some (d.report (sam_illegal_request E_POSITION_PAST_BOM none))
    else
    let d := update_volume_change_reference d
    let code := cdb 2 &&& 0x0f
    if code ≠ 0 ∧ code ≠ 1 ∧ code ≠ 2 then
      some (d.report (sam_illegal_request E_INVALID_FIELD_IN_CDB none))
    else
    let d := if code = 0 then d.setMam (·.putByte .num_partitions 1) else d
    match d.formatTape with
    | none => none
    | some d =>
      (set_medium_partition_capacity L d).map fun d =>
        (d.onCart fun c => c.rewriteMAM.2).returns SAM_STAT_GOOD

/-- SET CAPACITY. -/
def ssc_set_capacity (d : Drive) : Option Drive :=
  let d := d.declare_ssc_vars
  if d.cart.c_pos.blk_number ≠ 0 then
    some (d.report (sam_illegal_request E_POSITION_PAST_BOM none))
  else if d.load_status = TAPE_LOADED then
    ((d.setMam (·.putByte .num_partitions 1)).formatTape).map (·.returns SAM_STAT_GOOD)
  else if d.load_status = TAPE_LOADING then some (d.report (sam_not_ready E_BECOMING_READY))
  else if d.load_status = TAPE_UNLOADED then some (d.report (sam_not_ready E_MEDIUM_NOT_PRESENT))
  else some (d.report (sam_not_ready E_MEDIUM_FMT_CORRUPT))

/-- The security protocol of tape data encryption. -/
def TAPE_DATA_ENCRYPTION : UInt8 := 0x20

/-- The first bytes of an array replaced. -/
def overFront (n : ℕ) (src : ℕ → UInt8) (a : Fin ENCR_KEY_MAX_LEN → UInt8) :
    Fin ENCR_KEY_MAX_LEN → UInt8 :=
  fun i => if i.val < n then src i else a i

/-- A length that fits an array fits the field of the length. -/
theorem keyLength_le {n : ℕ} (h : n ≤ ENCR_KEY_MAX_LEN) :
    (UInt32.ofNat n).toNat ≤ ENCR_KEY_MAX_LEN := by
  have hlt : n < UInt32.size := lt_of_le_of_lt h (by decide)
  rw [UInt32.toNat_ofNat_of_lt' hlt]
  exact h

/-- A key of `n` bytes, without key-associated data. The array has room for
`ENCR_KEY_MAX_LEN` bytes. -/
def putKey (e : BoundedEncryption) (n : ℕ) (src : ℕ → UInt8) : Option BoundedEncryption :=
  if h : n ≤ ENCR_KEY_MAX_LEN then
    some ⟨⟨UInt32.ofNat n, 0, 0, overFront n src e.key, e.ukad, e.akad⟩, keyLength_le h,
      Nat.zero_le _, Nat.zero_le _⟩
  else none

/-- Unauthenticated key-associated data of `n` bytes. -/
def putUkad (e : BoundedEncryption) (n : ℕ) (src : ℕ → UInt8) : Option BoundedEncryption :=
  if h : n ≤ ENCR_KEY_MAX_LEN then
    some ⟨⟨e.key_length, UInt32.ofNat n, e.akad_length, e.key, overFront n src e.ukad, e.akad⟩,
      e.key_le, keyLength_le h, e.akad_le⟩
  else none

/-- Authenticated key-associated data of `n` bytes. -/
def putAkad (e : BoundedEncryption) (n : ℕ) (src : ℕ → UInt8) : Option BoundedEncryption :=
  if h : n ≤ ENCR_KEY_MAX_LEN then
    some ⟨⟨e.key_length, e.ukad_length, UInt32.ofNat n, e.key, e.ukad, overFront n src e.akad⟩,
      e.key_le, e.ukad_le, keyLength_le h⟩
  else none

/-- The first byte of a set data encryption page that is wrong. -/
def wrongPageByte (buf : ℕ → UInt8) : Option ℕ :=
  if buf 0 ≠ 0 then some 0
  else if buf 1 ≠ 0x10 then some 1
  else if buf 2 ≠ 0 then some 2
  else if buf 3 < 16 then some 3
  else if buf 8 ≠ 1 then some 8
  else if buf 9 ≠ 0 then some 9
  else none

/-- The key of a set data encryption page of `sz` bytes, with the key-associated data of
the one descriptor that is looked at. -/
def receivedKey (e : BoundedEncryption) (buf : ℕ → UInt8) (sz : ℕ) : Option BoundedEncryption :=
  let n := beNat (bytesAt buf 18 2)
  let len := beNat (bytesAt buf (22 + n) 2)
  match putKey e n fun i => buf (20 + i) with
  | none => none
  | some e =>
    if sz ≤ 19 + n + 4 then some e
    else if buf (20 + n) = 0 then putUkad e len fun i => buf (24 + n + i)
    else if buf (20 + n) = 1 then putAkad e len fun i => buf (24 + n + i)
    else some e

/-- What is left of a key that the personality refuses: its bytes, but no lengths. -/
def withoutLengths (e : BoundedEncryption) : BoundedEncryption :=
  ⟨⟨0, 0, 0, e.key, e.ukad, e.akad⟩, Nat.zero_le _, Nat.zero_le _, Nat.zero_le _⟩

/-- SECURITY PROTOCOL OUT behind its length field. The personality may show the mode in
its pages. -/
def resp_spout (update_encryption_mode : List ModePage → ℕ → List ModePage) (d : Drive) (cdb : Cdb)
    (buf : ℕ → UInt8) (sz : ℕ) : Option Drive :=
  if cdb 1 ≠ TAPE_DATA_ENCRYPTION then
    some (d.report (sam_illegal_request E_INVALID_FIELD_IN_CDB (some ⟨SKSV ||| CD, 1⟩)))
  else match wrongPageByte buf with
  | some field_pointer =>
    some (d.report (sam_illegal_request E_INVALID_FIELD_IN_PARMS (some ⟨SKSV, field_pointer⟩)))
  | none =>
    match receivedKey d.app_encryption_state buf sz with
    | none => none
    | some key =>
      let d := { d with DECRYPT_MODE := (buf 7).toNat }
      let mode := (buf 6).toNat
      if d.pm.kad_validation mode key.ukad_length.toNat key.akad_length.toNat then
        some ({ d with ENCRYPT_MODE := 0, app_encryption_state := withoutLengths key }.report
          (sam_illegal_request E_INVALID_FIELD_IN_CDB none))
      else
        some ({ d with
          KEY_INSTANCE_COUNTER := d.KEY_INSTANCE_COUNTER + 1
          ENCRYPT_MODE := mode
          app_encryption_state := key
          mode_pg := update_encryption_mode d.mode_pg mode }.returns SAM_STAT_GOOD)

/-- SECURITY PROTOCOL OUT. -/
def ssc_spout (update_encryption_mode : List ModePage → ℕ → List ModePage) (d : Drive) (cdb : Cdb)
    (buf : ℕ → UInt8) : Option Drive :=
  let d := d.declare_ssc_vars
  let unit := if cdb 4 &&& 0x80 ≠ 0 then 512 else 1
  resp_spout update_encryption_mode d cdb buf (beNat (bytesAt cdb 6 4) * unit % 2 ^ 32)

end Mhvtl.Ssc
