import Mhvtl.Ssc.Drive

/-!
# Mode pages

The pages a tape drive is built with, and what MODE SELECT and the other parts of
the drive do to them. Every page has its own place for its length.
-/

namespace Mhvtl.Ssc

open Bytes Cart

/-- Page code of read/write error recovery. -/
def MODE_RW_ERROR_RECOVER : UInt8 := 0x01
/-- Page code of disconnect/reconnect. -/
def MODE_DISCONNECT_RECONNECT : UInt8 := 0x02
/-- Page code of the power condition page. -/
def MODE_POWER_CONDITION : UInt8 := 0x1a
/-- Page code of the information exception page. -/
def MODE_INFORMATION_EXCEPTION : UInt8 := 0x1c
/-- Page code of the medium configuration page. -/
def MODE_MEDIUM_CONFIGURATION : UInt8 := 0x1d
/-- Page code of the encryption capability page. -/
def MODE_VENDOR_SPECIFIC_24H : UInt8 := 0x24
/-- Page code of the early warning page. -/
def MODE_VENDOR_SPECIFIC_25H : UInt8 := 0x25
/-- Page code of the behavior configuration page. -/
def MODE_BEHAVIOR_CONFIGURATION : UInt8 := 0x2f
/-- Page code of the encryption mode page. -/
def MODE_ENCRYPTION_MODE : UInt8 := 0x30
/-- Page code of the device configuration page of AIT drives. -/
def MODE_AIT_DEVICE_CONFIGURATION : UInt8 := 0x31

/-- Something that must not happen inside the drive. -/
def E_INTERNAL_TARGET_FAILURE : ℕ := 0x4400

namespace ModePage

/-- Replace a byte of the changeable values. -/
def setBit (m : ModePage) (i : ℕ) (b : UInt8) : ModePage :=
  { m with pcodePointerBitMap := m.pcodePointerBitMap.set i b }

/-- Replace two bytes of the current values, the high one first. -/
def setBe16 (m : ModePage) (i n : ℕ) : ModePage :=
  (m.setByte i (UInt8.ofNat (n / 256))).setByte (i + 1) (UInt8.ofNat n)

/-- Replace four bytes of the current values, the high one first. -/
def setBe32 (m : ModePage) (i n : ℕ) : ModePage :=
  (m.setBe16 i (n / 65536)).setBe16 (i + 2) n

@[simp] theorem setByte_length (m : ModePage) (i : ℕ) (b : UInt8) :
    (m.setByte i b).pcodePointer.length = m.pcodePointer.length := List.length_set

@[simp] theorem setByte_pcode (m : ModePage) (i : ℕ) (b : UInt8) : (m.setByte i b).pcode = m.pcode :=
  rfl

@[simp] theorem setByte_subpcode (m : ModePage) (i : ℕ) (b : UInt8) :
    (m.setByte i b).subpcode = m.subpcode := rfl

/-- A byte that was replaced. -/
theorem setByte_byte_same (m : ModePage) {i : ℕ} (h : i < m.pcodePointer.length) (b : UInt8) :
    (m.setByte i b).byte i = b := by
  rw [byte, setByte, List.getD_eq_getElem _ _ (by rwa [List.length_set]), List.getElem_set_self]

/-- The other bytes. -/
theorem setByte_byte_other (m : ModePage) {i j : ℕ} (h : i ≠ j) (b : UInt8) :
    (m.setByte i b).byte j = m.byte j := by
  rw [byte, byte, setByte, List.getD_eq_getElem?_getD, List.getD_eq_getElem?_getD,
    List.getElem?_set_ne h]

/-- Storing what is there changes nothing. -/
theorem setByte_self (m : ModePage) {i : ℕ} (h : i < m.pcodePointer.length) :
    m.setByte i (m.byte i) = m := by
  rw [setByte, byte, List.getD_eq_getElem _ _ h, List.set_getElem_self]

end ModePage

/-- The first page is the one or not. -/
theorem lookup_cons (m : ModePage) (l : List ModePage) (page subpage : UInt8) :
    lookup_mode_pg (m :: l) page subpage =
      if m.pcode = page ∧ m.subpcode = subpage then some m else lookup_mode_pg l page subpage := by
  rw [lookup_mode_pg, List.find?_cons]
  by_cases h : m.pcode = page ∧ m.subpcode = subpage
  · rw [decide_eq_true h, if_pos h]
  · rw [decide_eq_false h, if_neg h]
    rfl

/-- A change of a page that leaves its codes alone. -/
def KeepsCodes (f : ModePage → ModePage) : Prop :=
  ∀ m, (f m).pcode = m.pcode ∧ (f m).subpcode = m.subpcode

/-- Such a change is found under the codes. -/
theorem lookup_modify_same (l : List ModePage) (page subpage : UInt8) {f : ModePage → ModePage}
    (hf : KeepsCodes f) :
    lookup_mode_pg (modify_mode_pg l page subpage f) page subpage =
      (lookup_mode_pg l page subpage).map f := by
  induction l with
  | nil => rfl
  | cons m l ih =>
    rw [modify_mode_pg]
    by_cases h : m.pcode = page ∧ m.subpcode = subpage
    · rw [if_pos h, lookup_cons, lookup_cons, (hf m).1, (hf m).2, if_pos h, if_pos h, Option.map_some]
    · rw [if_neg h, lookup_cons, lookup_cons, if_neg h, if_neg h, ih]

/-- Other pages are found as before. -/
theorem lookup_modify_other (l : List ModePage) {page subpage a b : UInt8} {f : ModePage → ModePage}
    (hf : KeepsCodes f) (h : ¬(a = page ∧ b = subpage)) :
    lookup_mode_pg (modify_mode_pg l page subpage f) a b = lookup_mode_pg l a b := by
  induction l with
  | nil => rfl
  | cons m l ih =>
    rw [modify_mode_pg]
    by_cases hm : m.pcode = page ∧ m.subpcode = subpage
    · have hne : ¬(m.pcode = a ∧ m.subpcode = b) := by
        rintro ⟨rfl, rfl⟩
        exact h hm
      rw [if_pos hm, lookup_cons, lookup_cons, (hf m).1, (hf m).2, if_neg hne, if_neg hne]
    · rw [if_neg hm, lookup_cons, lookup_cons, ih]

/-- A page of zeros. -/
def alloc_mode_page (pcode subpcode : UInt8) (size : ℕ) : ModePage :=
  ⟨pcode, subpcode, List.replicate size 0, List.replicate size 0⟩

/-- A page that has its length in byte 1. -/
def plainPage (pcode subpcode : UInt8) (size : ℕ) : ModePage :=
  let len := UInt8.ofNat (size - 2)
  (((alloc_mode_page pcode subpcode size).setByte 0 pcode).setByte 1 len |>.setBit 0 pcode).setBit 1
    len

/-- A page that has its subpage code in byte 1 and its length in bytes 2 and 3. The
changeable values begin with the wrong bytes. -/
def subPage (pcode subpcode : UInt8) (size : ℕ) : ModePage :=
  let m := ((alloc_mode_page pcode subpcode size).setByte 0 pcode).setByte 1 subpcode
  let m := m.setBe16 2 (size - 2)
  (m.setBit 0 subpcode).setBit 1 (m.byte 2)

/-- Read/write error recovery. -/
def add_mode_page_rw_err_recovery : ModePage := plainPage MODE_RW_ERROR_RECOVER 0 12

/-- Disconnect/reconnect. -/
def add_mode_disconnect_reconnect : ModePage :=
  ((plainPage MODE_DISCONNECT_RECONNECT 0 16).setByte 2 50 |>.setByte 3 50).setByte 10 4

/-- Control. -/
def add_mode_control : ModePage := plainPage MODE_CONTROL 0 12

/-- Control extension. -/
def add_mode_control_extension : ModePage := subPage MODE_CONTROL 1 0x1e

/-- Control data protection. -/
def add_mode_control_data_protection : ModePage :=
  ((subPage MODE_CONTROL 0xf0 0x1e).setByte 5 4 |>.setBit 4 0x03 |>.setBit 5 0x07).setBit 6 0xc0

/-- Data compression. The algorithms are first set and then, instead of the
changeable values, overwritten. -/
def add_mode_data_compression : ModePage :=
  let m := (plainPage MODE_DATA_COMPRESSION 0 16).setByte 2 0xc0 |>.setByte 3 0x80
  let m := (m.setBe32 4 0x10).setBe32 8 0x10
  ((m.setBit 2 0xc0).setBit 3 0x80 |>.setBe32 4 0xffffffff).setBe32 8 0xffffffff

/-- Device configuration, with the configured compression factor. -/
def add_mode_device_configuration (configCompressionFactor : UInt8) : ModePage :=
  let m := (plainPage MODE_DEVICE_CONFIGURATION 0 16).setByte 7 0x64 |>.setByte 8 0x40
  ((m.setByte 10 0x18).setByte 14 configCompressionFactor |>.setByte 15 0x80).setBit 14 0xff

/-- Device configuration extension, which is laid out as a page without subpage code. -/
def add_mode_device_configuration_extension (pm : Personality) : ModePage :=
  let m := (plainPage MODE_DEVICE_CONFIGURATION 1 32).setByte 5 0x02
  let m := if pm.drive_supports_append_only_mode then m.setBit 5 0xf0 else m
  if pm.drive_supports_prog_early_warning then (m.setBit 6 0xff).setBit 7 0xff else m

/-- Medium partition, four partitions of two gigabytes. -/
def add_mode_medium_partition : ModePage :=
  let m := (plainPage MODE_MEDIUM_PARTITION 0 16).setByte 2 3 |>.setByte 3 3 |>.setByte 4 0x9c
  let m := (m.setByte 5 0x03).setByte 6 0x09
  let m := (m.setBe16 8 2).setBe16 10 2 |>.setBe16 12 2 |>.setBe16 14 2
  let m := (m.setBit 3 0xff).setBit 4 0xf8 |>.setBit 6 0xff
  [8, 9, 10, 11, 12, 13, 14, 15].foldl (fun m i => m.setBit i 0xff) m

/-- Power condition. -/
def add_mode_power_condition : ModePage := plainPage MODE_POWER_CONDITION 0 0x26

/-- Information exception. -/
def add_mode_information_exception : ModePage :=
  (plainPage MODE_INFORMATION_EXCEPTION 0 12).setByte 2 0x08 |>.setByte 3 0x03

/-- Medium configuration. -/
def add_mode_medium_configuration : ModePage :=
  (plainPage MODE_MEDIUM_CONFIGURATION 0 32).setByte 4 0x01 |>.setByte 5 0x01

/-- Encryption capability of LTO drives. -/
def add_mode_ult_encr_mode_pages : ModePage := (plainPage MODE_VENDOR_SPECIFIC_24H 0 8).setByte 7 1

/-- Early warning of LTO drives. -/
def add_mode_vendor_25h_mode_pages : ModePage :=
  (plainPage MODE_VENDOR_SPECIFIC_25H 0 32).setByte 5 1 |>.setByte 6 1

/-- Encryption mode, a subpage that is laid out as a page. -/
def add_mode_encryption_mode_attribute : ModePage :=
  ((plainPage MODE_ENCRYPTION_MODE 0x20 9).setByte 5 0x03 |>.setByte 6 0x01).setByte 7 0x01

/-- Device configuration of AIT drives. -/
def add_mode_ait_device_configuration : ModePage :=
  ((plainPage MODE_AIT_DEVICE_CONFIGURATION 0 8).setByte 2 0xf0 |>.setByte 3 0x0a).setByte 4 0x40

/-- Behavior configuration. -/
def add_mode_behavior_configuration : ModePage := plainPage MODE_BEHAVIOR_CONFIGURATION 0 10

/-- Every page that a drive of this kind may be built with. Each personality picks
some of them. -/
def allPages (pm : Personality) (configCompressionFactor : UInt8) : List ModePage :=
  [add_mode_page_rw_err_recovery, add_mode_disconnect_reconnect, add_mode_control,
    add_mode_control_extension, add_mode_control_data_protection, add_mode_data_compression,
    add_mode_device_configuration configCompressionFactor,
    add_mode_device_configuration_extension pm, add_mode_medium_partition, add_mode_power_condition,
    add_mode_information_exception, add_mode_medium_configuration, add_mode_ult_encr_mode_pages,
    add_mode_vendor_25h_mode_pages, add_mode_encryption_mode_attribute,
    add_mode_ait_device_configuration, add_mode_behavior_configuration]

/-- Compression on, at a level. -/
def set_compression_mode_pg (l : List ModePage) (lvl : UInt8) : List ModePage :=
  let l := modify_mode_pg l MODE_DATA_COMPRESSION 0 fun m => m.setByte 2 (m.byte 2 ||| 0x80)
  modify_mode_pg l MODE_DEVICE_CONFIGURATION 0 fun m => m.setByte 14 lvl

/-- Compression off. -/
def clear_compression_mode_pg (l : List ModePage) : List ModePage :=
  let l := modify_mode_pg l MODE_DATA_COMPRESSION 0 fun m => m.setByte 2 (m.byte 2 &&& 0x7f)
  modify_mode_pg l MODE_DEVICE_CONFIGURATION 0 fun m => m.setByte 14 MHVTL_NO_COMPRESSION

/-- Switch compression on at the configured factor, or off. -/
def Drive.compress (d : Drive) (on : Bool) : Drive :=
  { d with mode_pg :=
      if on then set_compression_mode_pg d.mode_pg d.configCompressionFactor
      else clear_compression_mode_pg d.mode_pg }

/-- The data compression page of a parameter list. -/
def set_mode_compression (d : Drive) (p : ℕ → UInt8) : Drive := d.compress (p 2 &&& 0x80 ≠ 0)

/-- The device configuration page of a parameter list. -/
def set_device_configuration (d : Drive) (p : ℕ → UInt8) : Drive := d.compress (p 14 ≠ 0)

/-- Two bytes of memory, the high one first. -/
def be16At (p : ℕ → UInt8) (i : ℕ) : ℕ := (p i).toNat * 256 + (p (i + 1)).toNat

/-- `update_prog_early_warning` with the size before it, for drives that have the warning. -/
def Drive.setProgEarlyWarning (d : Drive) (pews : ℕ) : Drive :=
  if d.pm.drive_supports_prog_early_warning then
    { d with
      prog_early_warning_sz := pews
      mode_pg := modify_mode_pg d.mode_pg MODE_DEVICE_CONFIGURATION 1 (·.setBe16 6 pews) }
  else d

/-- The write mode, and our copy of it in the page. -/
def Drive.setWriteMode (d : Drive) (write_mode : UInt8) : Drive :=
  let d :=
    if d.pm.drive_supports_append_only_mode ∧ write_mode ≠ 0 then
      { d with append_only_mode := true, allow_overwrite := false }
    else d
  let put := fun m : ModePage => m.setByte 5 ((m.byte 5 &&& (0x0f : UInt8)) ||| (write_mode <<< 4))
  { d with mode_pg := modify_mode_pg d.mode_pg MODE_DEVICE_CONFIGURATION 1 put }

/-- The device configuration extension page of a parameter list: sense data when it is
refused. The warning size is taken before append-only mode is looked at. -/
def set_device_configuration_extension (d : Drive) (p : ℕ → UInt8) : Option Status × Drive :=
  let write_mode := p 5 >>> 4
  if lookup_mode_pg d.mode_pg MODE_DEVICE_CONFIGURATION 1 = none then
    (some (sam_hardware_error E_INTERNAL_TARGET_FAILURE), d)
  else if be16At p 2 ≠ 0x1c then
    (some (sam_illegal_request E_INVALID_FIELD_IN_PARMS (some ⟨SKSV, 2⟩)), d)
  else if 1 < write_mode then
    (some (sam_illegal_request E_INVALID_FIELD_IN_PARMS (some ⟨SKSV ||| BPV ||| 7, 5⟩)), d)
  else
  let d := d.setProgEarlyWarning (be16At p 6)
  if d.pm.drive_supports_append_only_mode ∧ d.append_only_mode ∧ write_mode = 0 then
    (some (sam_illegal_request E_INVALID_FIELD_IN_PARMS none), d)
  else (none, d.setWriteMode write_mode)

/-- The control data protection page of a parameter list. -/
def update_logical_block_protection (d : Drive) (buf : ℕ → UInt8) : Drive :=
  match lookup_mode_pg d.mode_pg MODE_CONTROL 0xf0 with
  | none => d
  | some _ =>
    let put := fun m : ModePage => ((m.setByte 4 (buf 4)).setByte 5 (buf 5)).setByte 6 (buf 6)
    { d with
      mode_pg := modify_mode_pg d.mode_pg MODE_CONTROL 0xf0 put
      LBP_method := (buf 4 &&& 0x03).toNat
      LBP_R := buf 6 &&& 0x40 ≠ 0
      LBP_W := buf 6 &&& 0x80 ≠ 0 }

/-- Logical block protection, for drives that have it. -/
def set_lbp (d : Drive) (buf : ℕ → UInt8) : Option Status × Drive :=
  if d.pm.drive_supports_LBP ≠ 0 then (none, update_logical_block_protection d buf)
  else (some (sam_illegal_request E_INVALID_FIELD_IN_CDB (some ⟨SKSV ||| CD, 1⟩)), d)

/-- Number of partitions that a medium partition page asks for, kept in a byte. -/
def askedPartitions (p : ℕ → UInt8) : ℕ := ((p 3).toNat + 1) % 256

/-- The medium partition page takes over what was sent: count, flags, recognition and
units, and a size for each partition. -/
def ModePage.takePartitions (m : ModePage) (p : ℕ → UInt8) : ModePage :=
  let m := (m.setByte 3 (p 3)).setByte 4 (p 4) |>.setByte 5 (p 5) |>.setByte 6 (p 6)
  (List.range (askedPartitions p)).foldl (fun m k => m.setBe16 (8 + 2 * k) (be16At p (8 + 2 * k))) m

/-- The medium partition page of a parameter list. A drive without the page goes through a
null pointer, and more than `MAX_PARTITIONS` partitions are stored past its end. -/
def set_medium_partition (d : Drive) (p : ℕ → UInt8) : Option Drive :=
  if lookup_mode_pg d.mode_pg MODE_MEDIUM_PARTITION 0 = none then none
  else if MAX_PARTITIONS < askedPartitions p then none
  else
    let d := d.setMam (·.putByte .num_partitions (UInt8.ofNat (askedPartitions p)))
    some { d with
      mode_pg := modify_mode_pg d.mode_pg MODE_MEDIUM_PARTITION 0 (·.takePartitions p) }

/-- Taking over partitions keeps the codes. -/
theorem takePartitions_codes (p : ℕ → UInt8) : KeepsCodes (·.takePartitions p) := by
  intro m
  dsimp only [ModePage.takePartitions]
  have hfold : ∀ (l : List ℕ) (m : ModePage) (f : ModePage → ℕ → ModePage),
      (∀ m k, (f m k).pcode = m.pcode ∧ (f m k).subpcode = m.subpcode) →
      (l.foldl f m).pcode = m.pcode ∧ (l.foldl f m).subpcode = m.subpcode := by
    intro l m f hf
    induction l generalizing m with
    | nil => exact ⟨rfl, rfl⟩
    | cons k l ih =>
      rw [List.foldl_cons, (ih (f m k)).1, (ih (f m k)).2]
      exact hf m k
  exact hfold _ _ _ fun _ _ => ⟨rfl, rfl⟩

/-- A write-once medium was loaded. -/
def set_WORM (l : List ModePage) : List ModePage :=
  modify_mode_pg l MODE_MEDIUM_CONFIGURATION 0 fun m => (m.setByte 2 0x10).setByte 4 0x01

/-- Another medium was loaded. -/
def clear_WORM (l : List ModePage) : List ModePage :=
  modify_mode_pg l MODE_MEDIUM_CONFIGURATION 0 fun m => m.setByte 2 0

/-- LTO drives say it in one more page. -/
def set_ult_WORM (l : List ModePage) : List ModePage :=
  modify_mode_pg (set_WORM l) MODE_BEHAVIOR_CONFIGURATION 0 fun m => m.setByte 4 0x01

/-- AIT drives say it in their own page. -/
def set_ait_WORM (l : List ModePage) : List ModePage :=
  modify_mode_pg l MODE_AIT_DEVICE_CONFIGURATION 0 fun m => m.setByte 4 0x40

/-- Another medium was loaded into an AIT drive. -/
def clear_ait_WORM (l : List ModePage) : List ModePage :=
  modify_mode_pg l MODE_AIT_DEVICE_CONFIGURATION 0 fun m => m.setByte 4 0

/-- AIT drives note whether there is a medium. -/
def ait_media_load (l : List ModePage) (load : Bool) : List ModePage :=
  modify_mode_pg l MODE_AIT_DEVICE_CONFIGURATION 0 fun m => m.setByte 3 (if load then 0x0a else 0)

/-- Encryption is enabled. -/
def ENCR_E : UInt8 := 4

/-- The encryption mode of LTO drives. -/
def update_ult_encryption_mode (l : List ModePage) (value : ℕ) : List ModePage :=
  modify_mode_pg l MODE_VENDOR_SPECIFIC_24H 0 fun m =>
    m.setByte 5 (if value ≠ 0 then m.byte 5 ||| ENCR_E else m.byte 5 &&& ~~~ENCR_E)

/-- The finest units in which a size fits a descriptor. -/
def partitionUnits (largest : ℕ) : ℕ :=
  ((List.range 15).find? fun units => largest / 10 ^ units ≤ 0xfffe).getD 15

/-- The descriptor of a partition that exists is not zero. -/
def partitionDescriptor (sz unit : ℕ) : ℕ :=
  let descriptor := sz / unit % 65536
  if descriptor = 0 ∧ sz ≠ 0 then 1 else descriptor

/-- Store a size descriptor. Without recorded capacities the sizes are read off the page
while it is being changed. -/
def storeDescriptor (L : Libs) (num unit : ℕ) (d : Drive) (k : ℕ) : Option Drive :=
  match if k < num then medium_partition_capacity L d k else some 0 with
  | none => none
  | some sz =>
    let put := fun m : ModePage => m.setBe16 (8 + 2 * k) (partitionDescriptor sz unit)
    some { d with mode_pg := modify_mode_pg d.mode_pg MODE_MEDIUM_PARTITION 0 put }

/-- At load the medium partition page is made to describe the volume. -/
def update_medium_partition_page (L : Libs) (d : Drive) : Option Drive :=
  if lookup_mode_pg d.mode_pg MODE_MEDIUM_PARTITION 0 = none then some d else
  let num := min (partitionCount d.cart.mam) MAX_PARTITIONS
  match (List.range num).mapM (medium_partition_capacity L d) with
  | none => none
  | some sizes =>
    let units := partitionUnits (sizes.foldl max 0)
    let most := d.cart.mam.byte .max_partitions
    let put := fun m : ModePage =>
      ((m.setByte 2 (if most ≠ 0 then most - 1 else 0)).setByte 3 (UInt8.ofNat (num - 1))).setByte 6
        ((m.byte 6 &&& 0xf0) ||| UInt8.ofNat units)
    let d := { d with mode_pg := modify_mode_pg d.mode_pg MODE_MEDIUM_PARTITION 0 put }
    (List.range MAX_PARTITIONS).foldlM (storeDescriptor L num (10 ^ units)) d

end Mhvtl.Ssc
