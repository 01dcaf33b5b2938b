import Mhvtl.Cart.Outcomes
import Mhvtl.Ssc.Volume

/-!
# What becomes of the blocks of a WRITE(6)

The blocks of one command take the same room, so the state in front of the first
block decides how many of them are recorded: capacity and warnings, block
numbers, host calls, the check word and the rules about the format.
-/

namespace Mhvtl.Ssc

open Bytes Cart Store

/-- Good, or a CHECK CONDITION whose information bytes count nothing. -/
def Reported (s : Status) : Prop := s.sam_stat = SAM_STAT_GOOD ∨ NoResidual s

/-- What `rewriteMAM` leaves of the status. -/
theorem rewriteMAM_reported {c : Store} (h : Reported c.status) : Reported c.rewriteMAM.2.status := by
  have hwrite : ∀ c : Store, c.write_mam.2.status = c.status := by
    intro c
    unfold Store.write_mam
    split
    · cases hio : c.io.headD .ok with
      | ok => simp only [nextIo, hio]
      | fail => simp only [nextIo, hio]
      | short n =>
        simp only [nextIo, hio]
        split <;> rfl
    · rfl
  have hloaded : Reported c.tape_loaded.2.status := by
    unfold Store.tape_loaded
    split
    · exact h
    · exact Or.inr (NoResidual.return_sense (by decide) _ _)
  unfold Store.rewriteMAM
  dsimp only
  split
  · exact hloaded
  · split
    · exact Or.inr (NoResidual.return_sense (by decide) _ _)
    · rw [hwrite]
      exact hloaded

/-- Counting the volume change reference up. -/
theorem update_volume_change_reference_reported {d : Drive} (h : Reported d.cart.status) :
    Reported (update_volume_change_reference d).cart.status := by
  unfold update_volume_change_reference
  split
  · exact h
  · exact rewriteMAM_reported h

/-- The rules about the format accept a block that is not the first one. -/
def FormatAccepts (d : Drive) : Prop :=
  ∀ t, d.pm.valid_encryption_media = some t →
    ¬(t = .E06 ∧ d.ENCRYPT_MODE ≠ 0 ∧ leNat (d.cart.mam.bytes .Flags) % 2 = 0) ∧
    ¬(d.cart.mam.byte .MediumDensityCode ≠ d.pm.native_drive_density ∧
      t.older ≠ some (d.cart.mam.byte .MediumDensityCode))

/-- The choice of the key leaves a reported status. -/
theorem setup_crypto_reported {d : Drive} (h : Reported d.cart.status) :
    Reported (setup_crypto d).cart.status := by
  unfold setup_crypto
  extract_lets d₁
  cases d.pm.valid_encryption_media with
  | none => exact h
  | some t =>
    have hprotect : Reported (sam_data_protect E_WRITE_PROTECT) :=
      Or.inr (NoResidual.return_sense (by decide) _ _)
    change Reported (valid_encryption_media_E06 d₁ t).cart.status
    unfold valid_encryption_media_E06
    extract_lets flags putFlags dOn d₂ density d₃ d₄ code
    have hd₂ : d₂.cart.status = d.cart.status := by
      unfold d₂
      split
      · split <;> rfl
      · rfl
    split
    · apply rewriteMAM_reported
      change Reported d₂.cart.status
      rwa [hd₂]
    · split
      · exact hprotect
      · split
        · exact hprotect
        · exact h

/-- Behind the first block it touches the status only, and that when the format is refused. -/
theorem setup_crypto_later {d : Drive} (hblk : d.cart.c_pos.blk_number ≠ 0) :
    ∃ st, (setup_crypto d).cart = { d.cart with status := st } ∧
      (st.sam_stat = SAM_STAT_GOOD ↔ d.sam_stat = SAM_STAT_GOOD ∧ FormatAccepts d) := by
  have hbad : ¬SAM_STAT_CHECK_CONDITION = SAM_STAT_GOOD := by decide
  unfold setup_crypto FormatAccepts
  extract_lets d₁
  cases hm : d.pm.valid_encryption_media with
  | none =>
    refine ⟨d.cart.status, ?_, ?_⟩
    · rfl
    · exact ⟨fun hg => ⟨hg, fun t ht => by cases ht⟩, fun hg => hg.1⟩
  | some t =>
    dsimp only
    unfold valid_encryption_media_E06
    extract_lets flags putFlags dOn d₂ density d₃ d₄ code
    rw [if_neg (show ¬d₁.cart.c_pos.blk_number = 0 from hblk)]
    by_cases h6 : t = .E06 ∧ d₁.ENCRYPT_MODE ≠ 0 ∧ flags % 2 = 0
    · rw [if_pos h6]
      refine ⟨_, rfl, iff_of_false hbad fun hg => ?_⟩
      exact (hg.2 t rfl).1 h6
    · rw [if_neg h6]
      by_cases hold : code ≠ d₁.pm.native_drive_density ∧ t.older ≠ some code
      · rw [if_pos hold]
        refine ⟨_, rfl, iff_of_false hbad fun hg => ?_⟩
        exact (hg.2 t rfl).2 hold
      · rw [if_neg hold]
        refine ⟨d.cart.status, rfl, fun hg => ⟨hg, fun t' ht' => ?_⟩, fun hg => hg.1⟩
        cases ht'
        exact ⟨h6, hold⟩

/-- Bytes of a block in a transfer of `sz` bytes: those in front of its check word. -/
def payload (d : Drive) (sz : ℕ) : ℕ := if writeLbpMethod d ≠ 0 then sz - 4 else sz

/-- What `writeChosen` hands to `write_tape_block`; nothing when it cannot be compressed. -/
def chosenArgs (L : Libs) (d : Drive) (data : ℕ → UInt8) (n : ℕ) : Option BlockArgs :=
  let plain := nocompArgs L (setup_crypto d) data n
  let packed := fun comp_type z => compArgs L (setup_crypto d) data n z comp_type false
  if d.cart.mam.MediumType = MEDIA_TYPE_NULL then some (plain true)
  else if d.compressionFactor = MHVTL_NO_COMPRESSION then some (plain false)
  else if d.compressionType = LZO then (L.lzo1x_1_compress (bytesAt data 0 n)).map (packed LZO)
  else if d.compressionType = ZLIB then
    (L.compress2 (bytesAt data 0 n) d.compressionFactor.toNat).map (packed ZLIB)
  else some (plain false)

/-- Room that the block takes in the data file. -/
def storedSize (L : Libs) (d : Drive) (data : ℕ → UInt8) (n : ℕ) : Option ℕ :=
  (chosenArgs L d data n).map fun a => a.disk_blk_size.toNat

/-- The check word behind the block in the buffer is wrong. -/
def WordWrong (L : Libs) (d : Drive) (data : ℕ → UInt8) (sz : ℕ) : Prop :=
  guardFails d data (payload d sz) (writeLbpMethod d) (L.crc32c 0 (bytesAt data 0 (payload d sz))) =
    true

/-- A block of a WRITE is added to the medium: there is room, and `write_tape_block`
succeeds. -/
def addsBlock (L : Libs) (d : Drive) (data : ℕ → UInt8) (sz : ℕ) : Bool :=
  match medium_partition_capacity L d d.cart.partition_id, chosenArgs L d data (payload d sz) with
  | some cap, some a =>
    decide (d.cart.current_tape_offset < cap ∧ ¬(writeLbpMethod d ≠ 0 ∧ sz < 4) ∧
      ((setup_crypto d).cart.write_tape_block a).1 = 0)
  | _, _ => false

/-- How many blocks `writeBlocks` adds to the medium. -/
def blocksAdded (L : Libs) (data : ℕ → UInt8) (sz : ℕ) : ℕ → Drive → ℕ
  | 0, _ => 0
  | count + 1, d =>
    match writeBlock L d data sz with
    | none => 0
    | some (_, d') => (addsBlock L d data sz).toNat +
      if d'.sam_stat ≠ SAM_STAT_GOOD then 0 else blocksAdded L data sz count d'

/-- The warnings of the drive at a place of the partition. -/
def Warns (d : Drive) (cap pos : ℕ) : Prop :=
  (d.pm.drive_supports_early_warning ∧ cap - d.early_warning_sz ≤ pos) ∨
    (d.pm.drive_supports_prog_early_warning ∧
      cap - d.early_warning_sz - d.prog_early_warning_sz ≤ pos)

/-- Nothing warns further in front. -/
theorem Warns.mono {d : Drive} {cap pos pos' : ℕ} (h : Warns d cap pos) (hle : pos ≤ pos') :
    Warns d cap pos' := by
  rcases h with ⟨hs, hw⟩ | ⟨hs, hw⟩
  · exact Or.inl ⟨hs, Nat.le_trans hw hle⟩
  · exact Or.inr ⟨hs, Nat.le_trans hw hle⟩

/-- The status behind a block: the old one, unless the place warns. -/
theorem warnAndCount_sam_stat (d : Drive) (cap : ℕ) :
    ((warnAndCount d cap).sam_stat = SAM_STAT_GOOD ↔
      d.sam_stat = SAM_STAT_GOOD ∧ ¬Warns d cap d.cart.current_tape_offset) ∧
    (Reported d.cart.status → Reported (warnAndCount d cap).cart.status) := by
  have hbad : ¬SAM_STAT_CHECK_CONDITION = SAM_STAT_GOOD := by decide
  have hrep : ∀ key asc, key ≠ UNIT_ATTENTION → Reported (return_sense key asc none) :=
    fun key asc hkey => Or.inr (NoResidual.return_sense hkey _ _)
  unfold warnAndCount Warns
  extract_lets current early prog d₁ difference remaining
  change (d₁.sam_stat = _ ↔ _) ∧ (_ → Reported d₁.cart.status)
  unfold d₁
  by_cases hearly : d.pm.drive_supports_early_warning = true ∧ early ≤ current
  · rw [if_pos hearly]
    exact ⟨iff_of_false hbad fun hg => hg.2 (Or.inl hearly), fun _ => hrep _ _ (by decide)⟩
  · rw [if_neg hearly]
    by_cases hprog : d.pm.drive_supports_prog_early_warning = true ∧ prog ≤ current
    · rw [if_pos hprog]
      exact ⟨iff_of_false hbad fun hg => hg.2 (Or.inr hprog), fun _ => hrep _ _ (by decide)⟩
    · rw [if_neg hprog]
      refine ⟨⟨fun hg => ⟨hg, fun hw => ?_⟩, fun hg => hg.1⟩, id⟩
      rcases hw with hw | hw
      · exact hearly hw
      · exact hprog hw

section Chosen

variable {L : Libs} {d : Drive} {data : ℕ → UInt8} {n : ℕ}

/-- The drive behind `write_tape_block`, with the bytes counted. -/
def afterBlock (e : Drive) (a : BlockArgs) (m i : ℕ) : Drive :=
  { e with cart := (e.cart.write_tape_block a).2 }.countWritten m i

/-- A write on a medium that keeps data, told by its arguments. -/
theorem writeChosen_none (h : chosenArgs L d data n = none) (lbp_method : ℕ) :
    writeChosen L d data n lbp_method =
      (0, (setup_crypto d).report (sam_hardware_error E_COMPRESSION_CHECK)) := by
  unfold chosenArgs at h
  extract_lets plain packed at h
  have hcomp : ∀ (compress : List UInt8 → Option (List UInt8)) (t : UInt8),
      (compress (bytesAt data 0 n)).map (packed t) = none →
      writeBlock_comp L d data n compress t false lbp_method =
        (0, (setup_crypto d).report (sam_hardware_error E_COMPRESSION_CHECK)) := by
    intro compress t hnone
    rw [Option.map_eq_none_iff] at hnone
    simp only [writeBlock_comp, hnone]
  unfold writeChosen
  split at h
  · cases h
  rename_i hnull
  rw [if_neg hnull]
  split at h
  · cases h
  rename_i hfactor
  rw [if_neg hfactor]
  split at h
  · rename_i htype
    rw [if_pos htype]
    exact hcomp _ _ h
  rename_i hlzo
  rw [if_neg hlzo]
  split at h
  · rename_i htype
    rw [if_pos htype]
    exact hcomp (L.compress2 · d.compressionFactor.toNat) _ h
  · cases h

/-- What `writeChosen` does with its arguments. -/
structure Chosen (L : Libs) (d : Drive) (data : ℕ → UInt8) (n lbp_method : ℕ) (a : BlockArgs) :
    Prop where
  /-- The medium keeps data. -/
  null : a.null_media_type = false
  /-- A block fails whose check word is wrong, recorded or not. -/
  wrong : guardFails d data n lbp_method (L.crc32c 0 (bytesAt data 0 n)) = true →
    ∃ m i, writeChosen L d data n lbp_method =
      (0, (afterBlock (setup_crypto d) a m i).report
        (sam_hardware_error E_LOGICAL_BLOCK_GUARD_FAILED))
  /-- Another one fails when it is not recorded. -/
  right : guardFails d data n lbp_method (L.crc32c 0 (bytesAt data 0 n)) = false →
    ∃ m i, writeChosen L d data n lbp_method =
      (if ((setup_crypto d).cart.write_tape_block a).1 < 0 then 0 else n,
        afterBlock (setup_crypto d) a m i)

/-- The check of the word does not depend on what a command changes. -/
theorem guardFails_kept {d' : Drive} (h : SettingsKept d d') (lbp_method : ℕ) (crc : UInt32) :
    guardFails d' data n lbp_method crc = guardFails d data n lbp_method crc := by
  obtain ⟨c, v, i, m, r, s, w, x, rfl⟩ := h.eq
  rfl

/-- Writing as it is. -/
theorem nocomp_chosen (lbp_method : ℕ)
    (hrun : writeChosen L d data n lbp_method = writeBlock_nocomp L d data n false lbp_method) :
    Chosen L d data n lbp_method (nocompArgs L (setup_crypto d) data n false) := by
  let e := setup_crypto d
  let a := nocompArgs L e data n false
  have hguard : guardFails { e with cart := (e.cart.write_tape_block a).2 } data n lbp_method a.crc =
      guardFails d data n lbp_method (L.crc32c 0 (bytesAt data 0 n)) :=
    guardFails_kept (setup_crypto_beside d).1.toSettingsKept lbp_method _
  refine ⟨rfl, fun hg => ⟨0, 0, ?_⟩, fun hg => ⟨n, n, ?_⟩⟩
  · rw [hg] at hguard
    exact hrun.trans (if_pos hguard)
  · rw [hg] at hguard
    exact hrun.trans (if_neg (ne_true_of_eq_false hguard))

/-- Writing compressed. -/
theorem comp_chosen (lbp_method : ℕ) {compress : List UInt8 → Option (List UInt8)} {t : UInt8}
    {z : List UInt8} (hz : compress (bytesAt data 0 n) = some z)
    (hrun : writeChosen L d data n lbp_method =
      writeBlock_comp L d data n compress t false lbp_method) :
    Chosen L d data n lbp_method (compArgs L (setup_crypto d) data n z t false) := by
  let e := setup_crypto d
  let a := compArgs L e data n z t false
  let f := { e with cart := (e.cart.write_tape_block a).2 }.countWritten z.length n
  have hguard : guardFails f data n lbp_method a.crc =
      guardFails d data n lbp_method (L.crc32c 0 (bytesAt data 0 n)) :=
    guardFails_kept (setup_crypto_beside d).1.toSettingsKept lbp_method _
  have hcomp : writeBlock_comp L d data n compress t false lbp_method =
      if guardFails f data n lbp_method a.crc = true then
        (0, f.report (sam_hardware_error E_LOGICAL_BLOCK_GUARD_FAILED))
      else (if (e.cart.write_tape_block a).1 < 0 then 0 else n, f) := by
    simp only [writeBlock_comp, hz]
    rfl
  rw [hcomp] at hrun
  refine ⟨rfl, fun hg => ⟨z.length, n, ?_⟩, fun hg => ⟨z.length, n, ?_⟩⟩
  · rw [hg] at hguard
    exact hrun.trans (if_pos hguard)
  · rw [hg] at hguard
    exact hrun.trans (if_neg (ne_true_of_eq_false hguard))

/-- Every way of writing on a medium that keeps data. -/
theorem writeChosen_some {a : BlockArgs} (hnull : d.cart.mam.MediumType ≠ MEDIA_TYPE_NULL)
    (h : chosenArgs L d data n = some a) (lbp_method : ℕ) : Chosen L d data n lbp_method a := by
  unfold chosenArgs at h
  extract_lets plain packed at h
  rw [if_neg hnull] at h
  have hpick : writeChosen L d data n lbp_method =
      if d.compressionFactor = MHVTL_NO_COMPRESSION then writeBlock_nocomp L d data n false lbp_method
      else if d.compressionType = LZO then writeBlock_lzo L d data n false lbp_method
      else if d.compressionType = ZLIB then writeBlock_zlib L d data n false lbp_method
      else writeBlock_nocomp L d data n false lbp_method := if_neg hnull
  split at h
  · rename_i hfactor
    rw [if_pos hfactor] at hpick
    cases h
    exact nocomp_chosen lbp_method hpick
  rename_i hfactor
  rw [if_neg hfactor] at hpick
  split at h
  · rename_i hlzo
    rw [if_pos hlzo] at hpick
    obtain ⟨z, hz, rfl⟩ := Option.map_eq_some_iff.mp h
    exact comp_chosen lbp_method hz hpick
  rename_i hlzo
  rw [if_neg hlzo] at hpick
  split at h
  · rename_i hzlib
    rw [if_pos hzlib] at hpick
    obtain ⟨z, hz, rfl⟩ := Option.map_eq_some_iff.mp h
    exact @comp_chosen L d data n lbp_method (L.compress2 · d.compressionFactor.toNat) ZLIB z hz hpick
  · rename_i hzlib
    rw [if_neg hzlib] at hpick
    cases h
    exact nocomp_chosen lbp_method hpick

end Chosen

/-- Drives that differ in the status and in the remaining capacity. -/
structure Noted (d d' : Drive) : Prop where
  /-- What may differ. -/
  eq : ∃ m st, d' = { d with cart := { d.cart with mam := m, status := st } }
  /-- The other attributes. -/
  mam : ∀ f, f ≠ .remaining_capacity → d'.cart.mam.bytes f = d.cart.mam.bytes f

namespace Noted

variable {a b c : Drive}

theorem refl (d : Drive) : Noted d d := ⟨⟨_, _, rfl⟩, fun _ _ => rfl⟩

theorem trans (h : Noted a b) (h' : Noted b c) : Noted a c := by
  refine ⟨?_, fun f hf => (h'.mam f hf).trans (h.mam f hf)⟩
  obtain ⟨m₁, s₁, rfl⟩ := h.eq
  obtain ⟨m₂, s₂, rfl⟩ := h'.eq
  exact ⟨_, _, rfl⟩

theorem report (d : Drive) (st : Status) : Noted d (d.report st) := ⟨⟨_, _, rfl⟩, fun _ _ => rfl⟩

/-- The remaining capacity in memory. -/
theorem remaining (d : Drive) (n : ℕ) : Noted d (d.setMam (·.putBe .remaining_capacity n)) :=
  ⟨⟨_, _, rfl⟩, fun _ hf => Mam.bytes_put_other _ _ hf⟩

theorem warnAndCount (d : Drive) (cap : ℕ) : Noted d (warnAndCount d cap) := by
  unfold Ssc.warnAndCount
  extract_lets current early prog d₁ difference left
  have hd₁ : Noted d d₁ := by
    unfold d₁
    split
    · exact report d _
    split
    · exact report d _
    · exact refl d
  exact hd₁.trans (remaining d₁ left)

/-- The settings are kept. -/
theorem kept (h : Noted a b) : SettingsKept a b := by
  have hgeo : ∀ f ∈ geometryFields, f ≠ .remaining_capacity := by decide
  refine ⟨?_, fun f hf => h.mam f (hgeo f hf), ?_⟩
  · obtain ⟨m, st, rfl⟩ := h.eq
    exact ⟨_, _, _, _, _, _, _, _, rfl⟩
  · rw [Mam.MediumType, Mam.MediumType, Mam.byte, Mam.byte, h.mam _ (by decide)]

/-- Nothing but attributes and status changes. -/
theorem beside (h : Noted a b) : Beside a b := by
  refine ⟨h.kept, ?_⟩
  obtain ⟨m, st, rfl⟩ := h.eq
  exact SameTape.of_mam a.cart m a.cart.OK_to_write st

/-- The tape is as it was. -/
theorem tape (h : Noted a b) : b.cart.raw_pos = a.cart.raw_pos ∧ b.cart.io = a.cart.io ∧
    b.cart.fd = a.cart.fd ∧ b.cart.dir = a.cart.dir := by
  obtain ⟨m, st, rfl⟩ := h.eq
  exact ⟨rfl, rfl, rfl, rfl⟩

end Noted

section Block

variable {L : Libs} {d : Drive} {data : ℕ → UInt8} {sz cap : ℕ}

/-- A full partition. -/
theorem writeBlock_full (hcap : medium_partition_capacity L d d.cart.partition_id = some cap)
    (hfull : cap ≤ d.cart.current_tape_offset) :
    writeBlock L d data sz = some (0, (d.setMam (·.putBe .remaining_capacity 0)).report
      (sam_no_sense (VOLUME_OVERFLOW ||| SD_EOM) E_EOM)) := by
  simp only [writeBlock, hcap, if_pos hfull]

/-- A block that cannot be compressed. -/
theorem writeBlock_unpacked (hcap : medium_partition_capacity L d d.cart.partition_id = some cap)
    (hroom : d.cart.current_tape_offset < cap) (hword : ¬(writeLbpMethod d ≠ 0 ∧ sz < 4))
    (hnone : chosenArgs L d data (payload d sz) = none) :
    writeBlock L d data sz =
      some (0, (setup_crypto d).report (sam_hardware_error E_COMPRESSION_CHECK)) := by
  have hbelow : ¬cap ≤ d.cart.current_tape_offset := by omega
  have hw := writeChosen_none hnone (writeLbpMethod d)
  unfold payload at hw
  simp only [writeBlock, hcap, if_neg hbelow, if_neg hword, hw, if_true]

/-- What the drive is behind the attempt to write the block of the arguments. -/
structure Attempted (L : Libs) (d : Drive) (data : ℕ → UInt8) (sz cap : ℕ) (a : BlockArgs)
    (d' : Drive) : Prop where
  /-- Behind `write_tape_block` only the status and the remaining capacity change. -/
  noted : ∃ m i, Noted (afterBlock (setup_crypto d) a m i) d'
  /-- When the status is good. -/
  good : d'.sam_stat = SAM_STAT_GOOD ↔
    ((setup_crypto d).cart.write_tape_block a).2.status.sam_stat = SAM_STAT_GOOD ∧
      ¬WordWrong L d data sz ∧ (((setup_crypto d).cart.write_tape_block a).1 = 0 →
        payload d sz ≠ 0 →
          ¬Warns d cap ((setup_crypto d).cart.write_tape_block a).2.current_tape_offset)
  /-- A reported status stays reported. -/
  reported : Reported ((setup_crypto d).cart.write_tape_block a).2.status → Reported d'.cart.status

/-- An attempt to write a block. -/
theorem writeBlock_attempted {a : BlockArgs} (hnull : d.cart.mam.MediumType ≠ MEDIA_TYPE_NULL)
    (hcap : medium_partition_capacity L d d.cart.partition_id = some cap)
    (hroom : d.cart.current_tape_offset < cap) (hword : ¬(writeLbpMethod d ≠ 0 ∧ sz < 4))
    (ha : chosenArgs L d data (payload d sz) = some a) :
    ∃ n d', writeBlock L d data sz = some (n, d') ∧ Attempted L d data sz cap a d' := by
  have hbad : ¬SAM_STAT_CHECK_CONDITION = SAM_STAT_GOOD := by decide
  have hbelow : ¬cap ≤ d.cart.current_tape_offset := by omega
  have hch := writeChosen_some hnull ha (writeLbpMethod d)
  have hleft := write_tape_block_left (setup_crypto d).cart hch.null
  let r := (setup_crypto d).cart.write_tape_block a
  have hrun : ∀ w, writeChosen L d data (payload d sz) (writeLbpMethod d) = w →
      writeBlock L d data sz = if w.1 = 0 then some (0, w.2) else some (w.1, warnAndCount w.2 cap) := by
    rintro w rfl
    simp only [writeBlock, hcap, if_neg hbelow, if_neg hword, payload]
    rfl
  by_cases hwrong : WordWrong L d data sz
  · obtain ⟨m, i, hw⟩ := hch.wrong hwrong
    refine ⟨0, _, hrun _ hw, ⟨m, i, Noted.report _ _⟩, ?_, fun _ => ?_⟩
    · exact iff_of_false hbad fun hg => hg.2.1 hwrong
    · exact Or.inr (NoResidual.return_sense (by decide) _ _)
  · obtain ⟨m, i, hw⟩ := hch.right (Bool.eq_false_iff.mpr hwrong)
    let f := afterBlock (setup_crypto d) a m i
    have hf : f.cart = r.2 := rfl
    by_cases hz : (if r.1 < 0 then 0 else payload d sz) = 0
    · refine ⟨0, f, (hrun _ hw).trans (if_pos hz), ⟨m, i, Noted.refl f⟩, ?_, id⟩
      refine ⟨fun hg => ⟨hg, hwrong, fun hok hne => ?_⟩, fun hg => hg.1⟩
      have hr : r.1 = 0 := hok
      rw [hr, if_neg (by decide)] at hz
      exact absurd hz hne
    · have hok : r.1 = 0 := by
        by_contra hne
        rw [if_pos (hleft.negative hne)] at hz
        exact hz rfl
      have hne : payload d sz ≠ 0 := by
        rw [hok, if_neg (by decide)] at hz
        exact hz
      obtain ⟨hgood, hrep⟩ := warnAndCount_sam_stat f cap
      have hwarns : Warns f cap f.cart.current_tape_offset ↔ Warns d cap r.2.current_tape_offset := by
        have hk : SettingsKept d f := ((setup_crypto_beside d).1.toSettingsKept.trans
          (SettingsKept.of_cart _ hleft.worked.mam)).trans (countWritten_kept _ m i)
        obtain ⟨c, v, x, mb, r₁, s₁, w₁, x₁, heq⟩ := hk.eq
        rw [hf]
        unfold Warns
        rw [heq]
      refine ⟨_, _, (hrun _ hw).trans (if_neg hz), ⟨m, i, Noted.warnAndCount f cap⟩, ?_, hrep⟩
      rw [hgood, hwarns]
      exact ⟨fun hg => ⟨hg.1, hwrong, fun _ _ => hg.2⟩, fun hg => ⟨hg.1, hg.2.2 hok hne⟩⟩

/-- The path of a write up to `write_tape_block`. -/
structure Reaches (L : Libs) (d : Drive) (data : ℕ → UInt8) (sz cap : ℕ) (a : BlockArgs) : Prop where
  /-- The partition has a capacity. -/
  capacity : medium_partition_capacity L d d.cart.partition_id = some cap
  /-- The position is in front of it. -/
  room : d.cart.current_tape_offset < cap
  /-- The transfer has room for the check word. -/
  word : ¬(writeLbpMethod d ≠ 0 ∧ sz < 4)
  /-- The block could be compressed. -/
  args : chosenArgs L d data (payload d sz) = some a

/-- A block is added when the write gets to `write_tape_block` and that succeeds. -/
theorem addsBlock_iff (hnull : d.cart.mam.MediumType ≠ MEDIA_TYPE_NULL) :
    addsBlock L d data sz = true ↔
      ∃ cap a, Reaches L d data sz cap a ∧ Recordable (setup_crypto d).cart := by
  have hrec : ∀ a, chosenArgs L d data (payload d sz) = some a →
      (((setup_crypto d).cart.write_tape_block a).1 = 0 ↔ Recordable (setup_crypto d).cart) := by
    intro a ha
    exact (write_tape_block_left _ (writeChosen_some hnull ha 0).null).ok_iff
  unfold addsBlock
  constructor
  · intro h
    cases hcap : medium_partition_capacity L d d.cart.partition_id with
    | none =>
      rw [hcap] at h
      cases h
    | some cap =>
      cases ha : chosenArgs L d data (payload d sz) with
      | none =>
        rw [hcap, ha] at h
        cases h
      | some a =>
        rw [hcap, ha] at h
        obtain ⟨hroom, hword, hok⟩ := of_decide_eq_true h
        exact ⟨cap, a, ⟨hcap, hroom, hword, ha⟩, (hrec a ha).mp hok⟩
  · rintro ⟨cap, a, hr, hok⟩
    rw [hr.capacity, hr.args]
    exact decide_eq_true ⟨hr.room, hr.word, (hrec a hr.args).mpr hok⟩

/-- Every result of a write: it did not get to `write_tape_block`, or it did. -/
theorem writeBlock_cases {k : ℕ} {d' : Drive} (hnull : d.cart.mam.MediumType ≠ MEDIA_TYPE_NULL)
    (hrun : writeBlock L d data sz = some (k, d')) :
    (∃ e key asc, Beside d e ∧ d' = e.report (return_sense key asc none) ∧ key ≠ UNIT_ATTENTION ∧
      ∀ cap a, ¬Reaches L d data sz cap a) ∨
    ∃ cap a, Reaches L d data sz cap a ∧ Attempted L d data sz cap a d' := by
  cases hcap : medium_partition_capacity L d d.cart.partition_id with
  | none =>
    simp only [writeBlock, hcap] at hrun
    cases hrun
  | some cap =>
    have hsame : ∀ cap' a, Reaches L d data sz cap' a → cap' = cap := fun cap' a hr =>
      Option.some.inj (hr.capacity.symm.trans hcap)
    by_cases hfull : cap ≤ d.cart.current_tape_offset
    · rw [writeBlock_full hcap hfull] at hrun
      cases hrun
      refine Or.inl ⟨_, _, _, (Noted.remaining d 0).beside, rfl, by decide, fun cap' a hr => ?_⟩
      have hroom := hr.room
      rw [hsame _ _ hr] at hroom
      omega
    · have hroom : d.cart.current_tape_offset < cap := by omega
      by_cases hword : writeLbpMethod d ≠ 0 ∧ sz < 4
      · simp only [writeBlock, hcap, if_neg hfull, if_pos hword] at hrun
        cases hrun
      · cases ha : chosenArgs L d data (payload d sz) with
        | none =>
          rw [writeBlock_unpacked hcap hroom hword ha] at hrun
          cases hrun
          refine Or.inl ⟨_, _, _, (setup_crypto_beside d).1, rfl, by decide, fun cap' a hr => ?_⟩
          have hargs := hr.args
          rw [ha] at hargs
          cases hargs
        | some a =>
          obtain ⟨n, e, hw, hatt⟩ := writeBlock_attempted hnull hcap hroom hword ha
          rw [hw] at hrun
          cases hrun
          exact Or.inr ⟨cap, a, ⟨hcap, hroom, hword, ha⟩, hatt⟩

/-- A write keeps the settings; the position moves over the block that is added. -/
theorem writeBlock_moves {k : ℕ} {d' : Drive} (hnull : d.cart.mam.MediumType ≠ MEDIA_TYPE_NULL)
    (hrun : writeBlock L d data sz = some (k, d')) :
    SettingsKept d d' ∧
      d'.cart.c_pos.blk_number = d.cart.c_pos.blk_number + (addsBlock L d data sz).toNat ∧
      (Reported d.cart.status → Reported d'.cart.status) := by
  have hb := (setup_crypto_beside d).1
  have hadds : addsBlock L d data sz = true ↔
      ∃ cap a, Reaches L d data sz cap a ∧ Recordable (setup_crypto d).cart := addsBlock_iff hnull
  rcases writeBlock_cases hnull hrun with ⟨e, key, asc, he, rfl, hkey, hno⟩ | ⟨cap, a, hr, hatt⟩
  · have hfalse : addsBlock L d data sz = false := by
      rw [Bool.eq_false_iff, ne_eq, hadds]
      rintro ⟨cap, a, hr, -⟩
      exact hno cap a hr
    rw [hfalse]
    refine ⟨(he.trans (Beside.report e _)).toSettingsKept, ?_, fun _ => ?_⟩
    · exact congrArg (·.hdr.blk_number) he.tape.raw_pos
    · exact Or.inr (NoResidual.return_sense hkey _ _)
  · have hleft := write_tape_block_left (setup_crypto d).cart (writeChosen_some hnull hr.args 0).null
    obtain ⟨m, i, hnoted⟩ := hatt.noted
    have hblk : d'.cart.c_pos.blk_number =
        ((setup_crypto d).cart.write_tape_block a).2.c_pos.blk_number :=
      congrArg (·.hdr.blk_number) hnoted.tape.1
    have hfrom : (setup_crypto d).cart.c_pos.blk_number = d.cart.c_pos.blk_number :=
      congrArg (·.hdr.blk_number) hb.tape.raw_pos
    refine ⟨((hb.toSettingsKept.trans (SettingsKept.of_cart _ hleft.worked.mam)).trans
      (countWritten_kept _ m i)).trans hnoted.kept, ?_, fun hrep => hatt.reported ?_⟩
    · by_cases hok : ((setup_crypto d).cart.write_tape_block a).1 = 0
      · have htrue : addsBlock L d data sz = true :=
          hadds.mpr ⟨cap, a, hr, hleft.ok_iff.mp hok⟩
        rw [htrue, hblk, c_pos, (hleft.done hok).1, ← hfrom]
        rfl
      · have hfalse : addsBlock L d data sz = false := by
          rw [Bool.eq_false_iff, ne_eq, hadds]
          rintro ⟨-, -, -, hrec⟩
          exact hok (hleft.ok_iff.mpr hrec)
        rw [hfalse, hblk, hleft.stays hok, hfrom]
        rfl
    · have hrep' := setup_crypto_reported hrep
      by_cases hok : ((setup_crypto d).cart.write_tape_block a).1 = 0
      · rw [(hleft.done hok).2.1]
        exact hrep'
      · rcases hleft.failed hok with ⟨-, hst⟩ | ⟨-, hst⟩
        · rw [hst]
          exact hrep'
        · exact Or.inr hst

/-- What a block that is added leaves for the next one. -/
structure Following (L : Libs) (d : Drive) (data : ℕ → UInt8) (sz cap stored : ℕ) (d' : Drive) :
    Prop where
  /-- The settings. -/
  kept : SettingsKept d d'
  /-- The end of the data is behind the block. -/
  raw_pos : d'.cart.raw_pos = eodHeader d.cart.partition_id (d.cart.c_pos.blk_number + 1)
    (d.cart.raw_pos.data_offset + stored)
  /-- The same files can be used. -/
  usable : ∀ k q, Usable d'.cart k q ↔ Usable (setup_crypto d).cart k q
  /-- The host calls of the block are spent. -/
  io : d'.cart.io = (setup_crypto d).cart.io.drop ((setup_crypto d).cart.cutCalls + 2)
  /-- The format is the one the first block found. -/
  format : FormatAccepts d' ↔ FormatAccepts (setup_crypto d)
  /-- When the status is good. -/
  good : d'.sam_stat = SAM_STAT_GOOD ↔ (setup_crypto d).sam_stat = SAM_STAT_GOOD ∧
    ¬WordWrong L d data sz ∧
      (payload d sz ≠ 0 → ¬Warns d cap (d.cart.raw_pos.data_offset + stored))

/-- The format depends on attributes that a block leaves alone. -/
theorem FormatAccepts.congr {d d' : Drive} (hk : SettingsKept d d')
    (hf : d'.cart.mam.bytes .Flags = d.cart.mam.bytes .Flags)
    (hd : d'.cart.mam.bytes .MediumDensityCode = d.cart.mam.bytes .MediumDensityCode) :
    FormatAccepts d' ↔ FormatAccepts d := by
  obtain ⟨hmode, -, -, hpm⟩ := hk.keys
  unfold FormatAccepts
  rw [hmode, hpm, hf, Mam.byte, Mam.byte, hd]

/-- A block that is added. -/
theorem writeBlock_following {k stored : ℕ} {a : BlockArgs} {d' : Drive}
    (hnull : d.cart.mam.MediumType ≠ MEDIA_TYPE_NULL) (hr : Reaches L d data sz cap a)
    (hst : a.disk_blk_size.toNat = stored) (hrec : Recordable (setup_crypto d).cart)
    (hrun : writeBlock L d data sz = some (k, d')) : Following L d data sz cap stored d' := by
  have hb := (setup_crypto_beside d).1
  have hkept := (writeBlock_moves hnull hrun).1
  rcases writeBlock_cases hnull hrun with ⟨-, -, -, -, -, -, hno⟩ | ⟨cap', a', hr', hatt⟩
  · exact absurd hr (hno cap a)
  have hcap : cap' = cap := Option.some.inj (hr'.capacity.symm.trans hr.capacity)
  have harg : a' = a := Option.some.inj (hr'.args.symm.trans hr.args)
  rw [hcap, harg] at hatt
  have hleft := write_tape_block_left (setup_crypto d).cart (writeChosen_some hnull hr.args 0).null
  obtain ⟨hraw, hstat, hio⟩ := hleft.done (hleft.ok_iff.mpr hrec)
  obtain ⟨m, i, hnoted⟩ := hatt.noted
  obtain ⟨hraw', hio', hfd', hdir'⟩ := hnoted.tape
  have hraw₀ : (setup_crypto d).cart.raw_pos = d.cart.raw_pos := hb.tape.raw_pos
  have hp₀ : (setup_crypto d).cart.partition_id = d.cart.partition_id :=
    congrArg (·.hdr.partition_id) hraw₀
  have hpos : ((setup_crypto d).cart.write_tape_block a).2.raw_pos =
      eodHeader d.cart.partition_id (d.cart.c_pos.blk_number + 1)
        (d.cart.raw_pos.data_offset + stored) := by
    rw [hraw, Store.partition_id, c_pos, hraw₀, hst]
    rfl
  have hopen : Usable ((setup_crypto d).cart.write_tape_block a).2 .data d.cart.partition_id := by
    rw [hleft.worked.usable, ← hp₀]
    exact hrec.1
  have hoff : ((setup_crypto d).cart.write_tape_block a).2.current_tape_offset =
      d.cart.raw_pos.data_offset + stored := by
    rw [current_tape_offset, Store.partition_id, hpos]
    exact if_pos hopen.1
  refine ⟨hkept, hraw'.trans hpos, fun k q => ?_, hio'.trans hio, ?_, ?_⟩
  · rw [← hleft.worked.usable, Usable, Usable, hfd', hdir']
    rfl
  · have hmam : ∀ f, f ≠ .remaining_capacity →
        d'.cart.mam.bytes f = (setup_crypto d).cart.mam.bytes f := by
      intro f hf
      rw [hnoted.mam f hf]
      exact congrArg (fun m : Mam => m.bytes f) hleft.worked.mam
    have hk' : SettingsKept (setup_crypto d) d' :=
      ((SettingsKept.of_cart _ hleft.worked.mam).trans (countWritten_kept _ m i)).trans hnoted.kept
    exact FormatAccepts.congr hk' (hmam _ (by decide)) (hmam _ (by decide))
  · rw [hatt.good, hstat, hoff]
    exact ⟨fun h => ⟨h.1, h.2.1, h.2.2 (hleft.ok_iff.mpr hrec)⟩, fun h => ⟨h.1, h.2.1, fun _ => h.2.2⟩⟩

end Block

/-- `n` blocks in a row find what they need: told in front of the first one, all of them
taking `stored` bytes of a partition of `cap` bytes. Up to the last one they leave no status. -/
structure Uninterrupted (L : Libs) (d : Drive) (data : ℕ → UInt8) (sz n cap stored : ℕ) : Prop where
  /-- The partition has a capacity. -/
  capacity : medium_partition_capacity L d d.cart.partition_id = some cap
  /-- The transfer has room for the check word. -/
  word : ¬(writeLbpMethod d ≠ 0 ∧ sz < 4)
  /-- A block can be compressed, and takes so many bytes. -/
  size : storedSize L d data (payload d sz) = some stored
  /-- The files of the partition can be used. -/
  files : Usable (setup_crypto d).cart .data d.cart.partition_id ∧
    Usable (setup_crypto d).cart .indx d.cart.partition_id
  /-- Those of the cut as well. -/
  cut : CutReady (setup_crypto d).cart
  /-- The last block begins in front of the end of the partition. -/
  room : d.cart.raw_pos.data_offset + (n - 1) * stored < cap
  /-- It has a number. -/
  number : d.cart.c_pos.blk_number + (n - 1) ≤ MAX_BLK_NUMBER
  /-- Every host call succeeds. -/
  calls : OkFor ((setup_crypto d).cart.cutCalls + 2 * n) (setup_crypto d).cart.io
  /-- The first block finds a good status. -/
  status : 1 < n → (setup_crypto d).sam_stat = SAM_STAT_GOOD
  /-- The check word is right. -/
  guard : 1 < n → ¬WordWrong L d data sz
  /-- The last block begins where nothing warns; blocks without bytes are never warned of. -/
  warning : 1 < n → payload d sz ≠ 0 → ¬Warns d cap (d.cart.raw_pos.data_offset + (n - 1) * stored)
  /-- The format is accepted behind the first block. -/
  format : 2 < n → FormatAccepts (setup_crypto d)

section Row

variable {L : Libs} {d d' : Drive} {data : ℕ → UInt8} {sz cap stored : ℕ}

/-- Nothing that a command changes enters the size of a block. -/
theorem storedSize_kept (h : SettingsKept d d') (n : ℕ) :
    storedSize L d' data n = storedSize L d data n := by
  have hfactor : d'.compressionFactor = d.compressionFactor := by
    obtain ⟨c, v, i, m, r, s, w, x, rfl⟩ := h.eq
    rfl
  have htype : d'.compressionType = d.compressionType := by
    obtain ⟨c, v, i, m, r, s, w, x, rfl⟩ := h.eq
    rfl
  have hplain : ∀ null_wr, (nocompArgs L (setup_crypto d') data n null_wr).disk_blk_size =
      (nocompArgs L (setup_crypto d) data n null_wr).disk_blk_size := fun _ => rfl
  unfold storedSize chosenArgs
  rw [h.type, hfactor, htype]
  dsimp only
  split
  · rfl
  split
  · rfl
  split
  · rw [Option.map_map, Option.map_map]
    rfl
  split
  · rw [Option.map_map, Option.map_map]
    rfl
  · rfl

/-- Nor the check word and its place. -/
theorem payload_kept (L : Libs) (data : ℕ → UInt8) (sz : ℕ) (h : SettingsKept d d') :
    writeLbpMethod d' = writeLbpMethod d ∧ (∀ n, payload d' n = payload d n) ∧
      (∀ n pos, Warns d' n pos ↔ Warns d n pos) ∧
      (WordWrong L d' data sz ↔ WordWrong L d data sz) := by
  obtain ⟨c, v, i, m, r, s, w, x, rfl⟩ := h.eq
  exact ⟨rfl, fun _ => rfl, fun _ _ => Iff.rfl, Iff.rfl⟩

/-- A single block is added when it finds what it needs. -/
theorem uninterrupted_one (hnull : d.cart.mam.MediumType ≠ MEDIA_TYPE_NULL) :
    addsBlock L d data sz = true ↔ ∃ cap stored, Uninterrupted L d data sz 1 cap stored := by
  have hraw : (setup_crypto d).cart.raw_pos = d.cart.raw_pos := (setup_crypto_beside d).1.tape.raw_pos
  have hp : (setup_crypto d).cart.partition_id = d.cart.partition_id :=
    congrArg (·.hdr.partition_id) hraw
  have hblk : (setup_crypto d).cart.c_pos.blk_number = d.cart.c_pos.blk_number :=
    congrArg (·.hdr.blk_number) hraw
  have hfd : (setup_crypto d).cart.fd = d.cart.fd := (setup_crypto_beside d).1.tape.fd
  have hoff : Usable (setup_crypto d).cart .data d.cart.partition_id →
      d.cart.current_tape_offset = d.cart.raw_pos.data_offset := by
    intro huse
    rw [Usable, hfd] at huse
    exact if_pos huse.1
  have hone : ¬1 < 1 := by decide
  have htwo : ¬2 < 1 := by decide
  rw [addsBlock_iff hnull]
  unfold Recordable
  rw [hp, hblk]
  constructor
  · rintro ⟨cap, a, hr, hdata, hindx, hcut, hmax, hcalls⟩
    have hroom := hr.room
    rw [hoff hdata] at hroom
    refine ⟨cap, a.disk_blk_size.toNat, hr.capacity, hr.word, ?_, ⟨hdata, hindx⟩, hcut, ?_, hmax, hcalls,
      fun h => absurd h hone, fun h => absurd h hone, fun h => absurd h hone, fun h => absurd h htwo⟩
    · rw [storedSize, hr.args, Option.map_some]
    · rwa [Nat.sub_self, Nat.zero_mul]
  · rintro ⟨cap, stored, h⟩
    obtain ⟨a, ha, -⟩ := Option.map_eq_some_iff.mp h.size
    have hroom := h.room
    rw [Nat.sub_self, Nat.zero_mul, Nat.add_zero, ← hoff h.files.1] at hroom
    exact ⟨cap, a, ⟨h.capacity, hroom, h.word, ha⟩, h.files.1, h.files.2, h.cut, h.number, h.calls⟩

/-- The choice of the key for a block behind the first one. -/
theorem setup_crypto_following (h : Following L d data sz cap stored d') :
    (setup_crypto d').cart.cutCalls = 0 ∧ CutReady (setup_crypto d').cart ∧
      (∀ k q, Usable (setup_crypto d').cart k q ↔ Usable (setup_crypto d).cart k q) ∧
      (setup_crypto d').cart.io =
        (setup_crypto d).cart.io.drop ((setup_crypto d).cart.cutCalls + 2) ∧
      ((setup_crypto d').sam_stat = SAM_STAT_GOOD ↔
        d'.sam_stat = SAM_STAT_GOOD ∧ FormatAccepts (setup_crypto d)) ∧
      (FormatAccepts (setup_crypto d') ↔ FormatAccepts (setup_crypto d)) := by
  have hblk : d'.cart.c_pos.blk_number ≠ 0 := by
    rw [c_pos, h.raw_pos]
    exact Nat.succ_ne_zero _
  obtain ⟨st, hcart, hgood⟩ := setup_crypto_later hblk
  have heod : (setup_crypto d').cart.c_pos.blk_type = B_EOD := by
    rw [hcart]
    exact congrArg (·.hdr.blk_type) h.raw_pos
  have hmam : (setup_crypto d').cart.mam = d'.cart.mam := by rw [hcart]
  refine ⟨if_pos heod, fun hne => absurd heod hne, fun k q => ?_, ?_, ?_, ?_⟩
  · rw [← h.usable, hcart]
    rfl
  · rw [← h.io, hcart]
  · rw [← h.format, ← hgood, Drive.sam_stat, hcart]
  · rw [← h.format]
    exact FormatAccepts.congr (setup_crypto_beside d').1.toSettingsKept
      (congrArg (fun m : Mam => m.bytes .Flags) hmam)
      (congrArg (fun m : Mam => m.bytes .MediumDensityCode) hmam)

/-- Blocks behind a block that was added: they find what they need when the first one left a
good status and all of them together did. -/
theorem uninterrupted_succ {n : ℕ} (hd : Uninterrupted L d data sz 1 cap stored)
    (h : Following L d data sz cap stored d') :
    (d'.sam_stat = SAM_STAT_GOOD ∧ ∃ cap' stored', Uninterrupted L d' data sz (n + 1) cap' stored') ↔
      Uninterrupted L d data sz (n + 2) cap stored := by
  obtain ⟨hcut, hready, huse, hio, hstat, hformat⟩ := setup_crypto_following h
  obtain ⟨hmethod, hpay, hwarns, hwrong⟩ := payload_kept L data sz h.kept
  have hp : d'.cart.partition_id = d.cart.partition_id := congrArg (·.hdr.partition_id) h.raw_pos
  have hblk : d'.cart.c_pos.blk_number = d.cart.c_pos.blk_number + 1 :=
    congrArg (·.hdr.blk_number) h.raw_pos
  have hoff : d'.cart.raw_pos.data_offset = d.cart.raw_pos.data_offset + stored :=
    congrArg (·.data_offset) h.raw_pos
  have hcapacity : medium_partition_capacity L d' d'.cart.partition_id = some cap := by
    rw [h.kept.capacity, hp]
    exact hd.capacity
  have hsize : storedSize L d' data (payload d' sz) = some stored := by
    rw [storedSize_kept h.kept, hpay]
    exact hd.size
  have hmul : (n + 1) * stored = n * stored + stored := Nat.succ_mul n stored
  have hlast : d.cart.raw_pos.data_offset + (n + 2 - 1) * stored =
      d'.cart.raw_pos.data_offset + (n + 1 - 1) * stored := by
    have hn : n + 2 - 1 = n + 1 := rfl
    rw [hn, hmul, hoff, Nat.add_sub_cancel]
    omega
  have hcalls : OkFor ((setup_crypto d).cart.cutCalls + 2 * (n + 2)) (setup_crypto d).cart.io ↔
      OkFor ((setup_crypto d').cart.cutCalls + 2 * (n + 1)) (setup_crypto d').cart.io := by
    have hsum : (setup_crypto d).cart.cutCalls + 2 * (n + 2) =
        (setup_crypto d).cart.cutCalls + 2 + 2 * (n + 1) := by omega
    rw [hsum, okFor_add_iff, hio, hcut, Nat.zero_add]
    exact ⟨fun hc => hc.2, fun hc => ⟨hd.calls, hc⟩⟩
  have hmany : 1 < n + 2 := by omega
  constructor
  · rintro ⟨hgood, cap', stored', hu⟩
    have hc : cap' = cap := Option.some.inj (hu.capacity.symm.trans hcapacity)
    have hs : stored' = stored := Option.some.inj (hu.size.symm.trans hsize)
    rw [hc, hs] at hu
    obtain ⟨hfirst, hguard, hwarn⟩ := h.good.mp hgood
    have hnumber := hu.number
    refine ⟨hd.capacity, hd.word, hd.size, hd.files, hd.cut, ?_, by omega, hcalls.mpr hu.calls,
      fun _ => hfirst, fun _ => hguard, fun _ hne => ?_, fun hmore => ?_⟩
    · rw [hlast]
      exact hu.room
    · rw [hlast]
      cases n with
      | zero =>
        rw [Nat.add_sub_cancel, Nat.zero_mul, Nat.add_zero, hoff]
        exact hwarn hne
      | succ n =>
        rw [← hwarns]
        exact hu.warning (by omega) (by rwa [hpay])
    · exact (hstat.mp (hu.status (by omega))).2
  · intro hu
    have hnumber := hu.number
    have hwarn : payload d sz ≠ 0 →
        ¬Warns d cap (d'.cart.raw_pos.data_offset + (n + 1 - 1) * stored) := by
      rw [← hlast]
      exact hu.warning hmany
    have hgood : d'.sam_stat = SAM_STAT_GOOD := by
      refine h.good.mpr ⟨hu.status hmany, hu.guard hmany, fun hne hw => hwarn hne (hw.mono ?_)⟩
      rw [hoff]
      exact Nat.le_add_right _ _
    refine ⟨hgood, cap, stored, hcapacity, ?_, hsize, ?_, hready, ?_, by omega, hcalls.mp hu.calls,
      fun hmore => ?_, fun _ => ?_, fun _ hne => ?_, fun hmore => ?_⟩
    · rw [hmethod]
      exact hd.word
    · rw [huse, huse, hp]
      exact hd.files
    · rw [← hlast]
      exact hu.room
    · exact hstat.mpr ⟨hgood, hu.format (by omega)⟩
    · rw [hwrong]
      exact hu.guard hmany
    · rw [hwarns]
      rw [hpay] at hne
      exact hwarn hne
    · exact hformat.mpr (hu.format (by omega))

/-- No more blocks are added than were sent. -/
theorem blocksAdded_le (L : Libs) (data : ℕ → UInt8) (sz n : ℕ) (d : Drive) :
    blocksAdded L data sz n d ≤ n := by
  induction n generalizing d with
  | zero => exact Nat.le_refl 0
  | succ n ih =>
    have hbool := Bool.toNat_le (addsBlock L d data sz)
    unfold blocksAdded
    cases writeBlock L d data sz with
    | none => exact Nat.zero_le _
    | some r =>
      have hrest := ih r.2
      dsimp only
      split
      · omega
      · omega

/-- A row begins with a single block. -/
theorem Uninterrupted.first {n : ℕ} (h : Uninterrupted L d data sz (n + 1) cap stored) :
    Uninterrupted L d data sz 1 cap stored := by
  have hroom := h.room
  have hnumber := h.number
  have hone : ¬1 < 1 := by decide
  have htwo : ¬2 < 1 := by decide
  refine ⟨h.capacity, h.word, h.size, h.files, h.cut, ?_, by omega, h.calls.mono (by omega),
    fun h1 => absurd h1 hone, fun h1 => absurd h1 hone, fun h1 => absurd h1 hone,
    fun h2 => absurd h2 htwo⟩
  rw [Nat.sub_self, Nat.zero_mul]
  omega

/-- A block that finds what it needs is written, and leaves what the next one finds. -/
theorem Uninterrupted.following (h : Uninterrupted L d data sz 1 cap stored)
    (hnull : d.cart.mam.MediumType ≠ MEDIA_TYPE_NULL) :
    ∃ k d', writeBlock L d data sz = some (k, d') ∧ Following L d data sz cap stored d' := by
  obtain ⟨cap', a, hr, hrec⟩ :=
    (addsBlock_iff hnull).mp ((uninterrupted_one hnull).mpr ⟨cap, stored, h⟩)
  obtain ⟨k, d', hrun, -⟩ := writeBlock_attempted hnull hr.capacity hr.room hr.word hr.args
  have hc : cap' = cap := Option.some.inj (hr.capacity.symm.trans h.capacity)
  have hs := h.size
  rw [storedSize, hr.args, Option.map_some, Option.some.injEq] at hs
  rw [hc] at hr
  exact ⟨k, d', hrun, writeBlock_following hnull hr hs hrec hrun⟩

/-- All the blocks of a row are added when they find what they need. -/
theorem blocksAdded_eq_iff {n : ℕ} (hnull : d.cart.mam.MediumType ≠ MEDIA_TYPE_NULL) :
    blocksAdded L data sz (n + 1) d = n + 1 ↔
      ∃ cap stored, Uninterrupted L d data sz (n + 1) cap stored := by
  induction n generalizing d with
  | zero =>
    rw [← uninterrupted_one hnull]
    cases hadds : addsBlock L d data sz with
    | false =>
      unfold blocksAdded
      rw [hadds]
      cases writeBlock L d data sz with
      | none => exact iff_of_false (fun h => Nat.zero_ne_one h) Bool.false_ne_true
      | some r =>
        dsimp only [blocksAdded]
        rw [ite_self]
        exact iff_of_false (by decide) Bool.false_ne_true
    | true =>
      obtain ⟨cap, stored, h⟩ := (uninterrupted_one hnull).mp hadds
      obtain ⟨k, d', hrun, -⟩ := h.following hnull
      unfold blocksAdded
      rw [hadds, hrun]
      dsimp only [blocksAdded]
      rw [ite_self]
      exact iff_of_true rfl rfl
  | succ n ih =>
    cases hadds : addsBlock L d data sz with
    | false =>
      have hno : ¬∃ cap stored, Uninterrupted L d data sz (n + 2) cap stored := by
        rintro ⟨cap, stored, h⟩
        have htrue := (uninterrupted_one hnull).mpr ⟨cap, stored, h.first⟩
        exact Bool.false_ne_true (hadds.symm.trans htrue)
      refine iff_of_false ?_ hno
      unfold blocksAdded
      rw [hadds]
      cases writeBlock L d data sz with
      | none => exact (Nat.succ_ne_zero _).symm
      | some r =>
        have hrest := blocksAdded_le L data sz (n + 1) r.2
        dsimp only [Bool.toNat_false]
        split
        · omega
        · omega
    | true =>
      obtain ⟨cap, stored, h⟩ := (uninterrupted_one hnull).mp hadds
      obtain ⟨k, d', hrun, hfol⟩ := h.following hnull
      have hnull' : d'.cart.mam.MediumType ≠ MEDIA_TYPE_NULL := by
        rw [hfol.kept.type]
        exact hnull
      have hrow : blocksAdded L data sz (n + 2) d = n + 2 ↔
          d'.sam_stat = SAM_STAT_GOOD ∧ blocksAdded L data sz (n + 1) d' = n + 1 := by
        rw [blocksAdded, hadds, hrun]
        dsimp only [Bool.toNat_true]
        by_cases hgood : d'.sam_stat = SAM_STAT_GOOD
        · rw [if_neg (not_not_intro hgood)]
          omega
        · rw [if_pos hgood]
          omega
      rw [hrow, ih hnull', uninterrupted_succ h hfol]
      constructor
      · exact fun hu => ⟨cap, stored, hu⟩
      · rintro ⟨cap', stored', hu⟩
        have hc : cap' = cap := Option.some.inj (hu.capacity.symm.trans h.capacity)
        have hs : stored' = stored := Option.some.inj (hu.size.symm.trans h.size)
        rwa [hc, hs] at hu

end Row

end Mhvtl.Ssc
