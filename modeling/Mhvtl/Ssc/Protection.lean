import Mhvtl.Ssc.Writing

/-!
# Logical block protection round trip

What a protected READ sends is the block and its check word; a protected WRITE of
that is accepted and records the block, and no WRITE whose first block has another
word is accepted.
-/

namespace Mhvtl.Ssc

open Bytes Cart Store

/-- The drive guards blocks by the method, in its byte order. -/
structure UsesMethod (d : Drive) (m : LbpMethod) : Prop where
  /-- The method of the control data protection page. -/
  method : d.LBP_method = m.number
  /-- The byte order of the Reed-Solomon CRC. -/
  order : ∀ e, m = .rscrc e → e = d.lbp_rscrc_be
  /-- The drive has the page. -/
  supported : d.pm.drive_supports_LBP ≠ 0

/-- The command met no error: good status, or the warning in front of the end. -/
def Accepted (d : Drive) : Prop :=
  d.sam_stat = SAM_STAT_GOOD ∨ ∃ asc_ascq, d.cart.status = sam_no_sense SD_EOM asc_ascq

/-- Other sense keys are errors. -/
theorem not_accepted {d : Drive} {key asc_ascq : ℕ} {sd : Option SenseField}
    (hs : d.cart.status = return_sense key asc_ascq sd) (hk : key ≠ NO_SENSE ||| SD_EOM) :
    ¬Accepted d := by
  rintro (hgood | ⟨a, ha⟩)
  · rw [Drive.sam_stat, hs] at hgood
    exact (by decide : SAM_STAT_CHECK_CONDITION ≠ SAM_STAT_GOOD) hgood
  · rw [hs] at ha
    exact hk (congrArg (fun s : Status => s.sense.key) ha)

/-- A checked block is followed by its word. -/
theorem matches_of_verify (m : LbpMethod) {be : Bool} (hbe : ∀ e, m = .rscrc e → e = be)
    {crc : UInt32 → List UInt8 → UInt32} {buf : ℕ → UInt8} {n : ℕ}
    (h : verify_lbp_crc m.number be buf n (crc 0 (bytesAt buf 0 n)) = true) :
    (m.checkWord crc).Matches (bytesAt buf 0 n) (bytesAt buf n 4) := by
  rcases Nat.eq_zero_or_pos n with rfl | hn
  · cases m with
    | rscrc e =>
      rw [LbpMethod.number, verify_lbp_crc, decide_eq_true_eq, BlockVerifyRSCRC,
        bytesAt_length, if_pos (Nat.le_refl 4)] at h
      exact absurd rfl h
    | crc32c =>
      rw [LbpMethod.number, verify_lbp_crc, decide_eq_true_eq] at h
      exact (beNat_inj (by rw [leBytes_length, bytesAt_length]) h).symm
  · exact (verify_lbp_crc_iff m be hbe crc buf hn).mp h

/-- The transfer of such a block is the block with its word. -/
theorem bytesAt_eq_append (g : CheckWord) {buf : ℕ → UInt8} {n : ℕ}
    (h : g.Matches (bytesAt buf 0 n) (bytesAt buf n 4)) :
    bytesAt buf 0 (n + 4) = g.append (bytesAt buf 0 n) := by
  rw [bytesAt_add, Nat.zero_add]
  exact g.eq_append_of_matches h

/-- And such a transfer passes the check. -/
theorem matches_of_append (g : CheckWord) {buf : ℕ → UInt8} {bs : List UInt8}
    (h : bytesAt buf 0 (bs.length + 4) = g.append bs) :
    bytesAt buf 0 bs.length = bs ∧ g.Matches (bytesAt buf 0 bs.length) (bytesAt buf bs.length 4) := by
  rw [bytesAt_add, Nat.zero_add] at h
  obtain ⟨hbs, hword⟩ := List.append_inj h (bytesAt_length ..)
  refine ⟨hbs, ?_⟩
  rw [hbs]
  exact hword

/-- READ sends every block with its word behind it. -/
def ReadsProtected (L : Libs) (m : LbpMethod) : Prop :=
  ∀ (d : Drive) (cdb : Cdb) (p i : ℕ) (l : List Record) (b : DataBlock) (bs : List UInt8),
    At d.cart p l i → l.length < 2 ^ 32 → l[i]? = some (.data b) → Recorded L b bs →
    0 < bs.length → d.load_status = TAPE_LOADED → d.cart.mam.MediumType = MEDIA_TYPE_DATA →
    d.valid_encryption_blk.map Prod.fst = some true → d.LBP_R = true → UsesMethod d m →
    opcode_6_params d cdb = (1, bs.length + 4) → ¬(sili cdb = true ∧ fixedBlock cdb = true) →
    ∃ d', ssc_read_6 L d cdb = some ((m.checkWord L.crc32c).append bs, d') ∧
      d'.sam_stat = SAM_STAT_GOOD ∧ At d'.cart p l (i + 1)

/-- A recorded block is sent, whichever way it is stored. -/
theorem reads_protected (L : Libs) (m : LbpMethod) : ReadsProtected L m := by
  intro d cdb p i l b bs h hl hb hr hbs hload htype henc hlbp hm hparams hsili
  have hat : At d.declare_ssc_vars.cart p l i := At.congr h rfl rfl rfl
  have hblk := readBlock_protected hat hl hb hr hbs (sili cdb) m hm.order
  have hne : ¬((m.checkWord L.crc32c).append bs).length = 0 := by
    rw [CheckWord.append_length]
    omega
  have hl₁ : ¬TAPE_LOADED = TAPE_LOADING := by decide
  have ht : ¬MEDIA_TYPE_DATA = MEDIA_TYPE_CLEAN := by decide
  have hvalid : d.declare_ssc_vars.valid_encryption_blk = some (true, d.declare_ssc_vars) :=
    Drive.valid_encryption_blk_start henc
  have hload' : d.declare_ssc_vars.load_status = TAPE_LOADED := hload
  have htype' : d.declare_ssc_vars.cart.mam.MediumType = MEDIA_TYPE_DATA := htype
  have hparams' : opcode_6_params d.declare_ssc_vars cdb = (1, bs.length + 4) := hparams
  have hblocks : readBlocks L cdb (bs.length + 4) 1 d.declare_ssc_vars =
      some ((m.checkWord L.crc32c).append bs,
        readDone d.declare_ssc_vars p l i bs.length b.bytes.length) := by
    have hmethod : (if d.declare_ssc_vars.LBP_R then d.declare_ssc_vars.LBP_method else 0) =
        m.number := (if_pos hlbp).trans hm.method
    simp only [readBlocks, hvalid, hmethod, hblk, Option.map_some, List.append_nil]
    exact if_neg (fun hn => hne hn.1)
  obtain ⟨hi, -⟩ := List.getElem?_eq_some_iff.mp hb
  refine ⟨readDone d.declare_ssc_vars p l i bs.length b.bytes.length, ?_, rfl, At.moved hat hi⟩
  · have hidem : d.declare_ssc_vars.declare_ssc_vars = d.declare_ssc_vars := rfl
    rw [ssc_read_6]
    simp only [hparams', if_neg hsili]
    simp only [complete_read_6, hidem, hload', if_neg hl₁, if_true, htype', if_neg ht]
    exact hblocks

/-- Nothing but the block itself stands against a write. -/
structure WriteReady (L : Libs) (d : Drive) (p i : ℕ) (l : List Record) : Prop where
  /-- Where the drive stands. -/
  at_pos : At d.cart p l i
  /-- The medium may be written. -/
  writable : Writable d
  /-- The attributes can be rewritten. -/
  attrs : AttrsOpen d.cart
  /-- The host calls succeed. -/
  io : OkFor (overwriteCalls l i + 3) d.cart.io
  /-- The block has a number. -/
  blk : i ≤ MAX_BLK_NUMBER
  /-- The compression level exists. -/
  level : d.CompressionValid
  /-- The partition is not full. -/
  room : ∃ cap, medium_partition_capacity L d p = some cap ∧ offsetOf l i < cap

/-- The state in which WRITE(6) turns to the blocks. -/
def writeStart (d : Drive) : Drive :=
  update_volume_change_reference
    (d.declare_ssc_vars.onCart fun c => { c with OK_to_write := true })

/-- A write that nothing stands against gets to the blocks. -/
theorem ssc_write_6_writable {L : Libs} {d : Drive} (h : Writable d) (cdb : Cdb)
    (data : ℕ → UInt8) :
    ssc_write_6 L d cdb data =
      writeBlocks L data (opcode_6_params d cdb).2 (opcode_6_params d cdb).1 (writeStart d) := by
  have hw : Writable d.declare_ssc_vars :=
    ⟨h.pointer, h.loaded, h.data, h.unprotected, h.append⟩
  have hcheck : check_restrictions d.declare_ssc_vars = some (true,
      d.declare_ssc_vars.onCart fun c => { c with OK_to_write := true }) := hw.check_restrictions
  have hparams : opcode_6_params d.declare_ssc_vars cdb = opcode_6_params d cdb := rfl
  rw [ssc_write_6]
  simp only [hcheck, hparams]
  exact if_pos rfl

/-- Logical block protection excludes the drives that choose by the medium. -/
theorem setup_crypto_plain {d : Drive} (h : d.pm.drive_supports_LBP ≠ 0) :
    setup_crypto d = { d with app_encr_info := d.ENCRYPT_MODE = 2 } := by
  rw [setup_crypto]
  simp only [d.pm.lbp_plain h]

/-- The method of a protected write. -/
theorem UsesMethod.writeLbpMethod {d : Drive} {m : LbpMethod} (h : UsesMethod d m)
    (hw : d.LBP_W = true) : writeLbpMethod d = m.number := by
  rw [Ssc.writeLbpMethod, h.method, if_pos ⟨h.supported, hw, m.number_cases⟩]

/-- A protected WRITE of a block and its word is accepted and records the block. -/
def WritesProtected (L : Libs) (m : LbpMethod) : Prop :=
  ∀ (d : Drive) (cdb : Cdb) (data : ℕ → UInt8) (p i : ℕ) (l : List Record) (bs : List UInt8),
    WriteReady L d p i l → 0 < bs.length → d.LBP_W = true → UsesMethod d m →
    opcode_6_params d cdb = (1, bs.length + 4) →
    bytesAt data 0 (bs.length + 4) = (m.checkWord L.crc32c).append bs →
    ∃ d' b, ssc_write_6 L d cdb data = some d' ∧ Accepted d' ∧ Recorded L b bs ∧
      At d'.cart p (l.take i ++ [.data b]) (i + 1)

/-- The size of a transfer has three bytes. -/
theorem opcode_6_params_lt (d : Drive) (cdb : Cdb) : (opcode_6_params d cdb).2 < 2 ^ 24 := by
  rw [opcode_6_params]
  split
  · exact be24_lt _ _
  · exact be24_lt _ _

/-- A block with its word is written, at a place where there is room. -/
theorem writeBlock_protected {L : Libs} (hL : L.Lossless) {d : Drive} {m : LbpMethod}
    {data : ℕ → UInt8} {p i : ℕ} {l : List Record} {bs : List UInt8} (h : At d.cart p l i)
    (hio : OkFor (overwriteCalls l i + 2) d.cart.io) (hi : i ≤ MAX_BLK_NUMBER)
    (hbs : 0 < bs.length) (hlt : bs.length < 2 ^ 24)
    (hnull : d.cart.mam.MediumType ≠ MEDIA_TYPE_NULL) (hlevel : d.CompressionValid)
    (hroom : ∃ cap, medium_partition_capacity L d p = some cap ∧ offsetOf l i < cap)
    (hlbp : d.LBP_W = true) (hm : UsesMethod d m)
    (hdata : bytesAt data 0 (bs.length + 4) = (m.checkWord L.crc32c).append bs)
    (hgood : d.sam_stat = SAM_STAT_GOOD) :
    ∃ d' b, writeBlock L d data (bs.length + 4) = some (bs.length, d') ∧ Accepted d' ∧
      Recorded L b bs ∧ At d'.cart p (l.take i ++ [.data b]) (i + 1) := by
  obtain ⟨hbytes, hmatch⟩ := matches_of_append _ hdata
  obtain ⟨cap, hcap, hbelow⟩ := hroom
  have hcrypto := setup_crypto_plain hm.supported
  have hat : At (setup_crypto d).cart p l i := by
    rw [hcrypto]
    exact h
  have hio' : OkFor (overwriteCalls l i + 2) (setup_crypto d).cart.io := by
    rw [hcrypto]
    exact hio
  have hmethod := hm.writeLbpMethod hlbp
  have hnum := m.number_cases
  have hsize : transferSize d bs.length = bs.length + 4 := by
    rw [transferSize, hmethod, if_pos (by omega)]
  have hguard : ∀ c, guardFails { setup_crypto d with cart := c } data bs.length
      (writeLbpMethod d) (L.crc32c 0 (bytesAt data 0 bs.length)) = false := by
    intro c
    have hv := (verify_lbp_crc_iff m d.lbp_rscrc_be hm.order L.crc32c data hbs).mpr hmatch
    rw [hcrypto, hmethod, guardFails, hv]
    exact decide_eq_false (fun hn => Bool.noConfusion hn.2.2)
  obtain ⟨d', b, hrun, hw⟩ := writeBlock_ok hL h hat hi hio' hbs hlt hnull hlevel hcap hbelow hguard
  rw [hsize] at hrun
  rw [hbytes] at hw
  have hlen : (l.take i ++ [Record.data b]).length = i + 1 := by
    rw [List.length_append, List.length_take, Nat.min_eq_left h.le]
    rfl
  have hend := hw.written.at_end
  rw [hlen] at hend
  refine ⟨warnAndCount d' cap, b, hrun, ?_, hw.recorded, warnAndCount_at hend cap⟩
  have hstat : d'.cart.status = d.cart.status := by
    rw [hw.written.status, hcrypto]
  rcases warnAndCount_status d' cap with hs | hs
  · exact Or.inl (by rw [Drive.sam_stat, hs, hstat]; exact hgood)
  · exact Or.inr hs

/-- The command around the block: permission and the volume change reference. -/
theorem writes_protected {L : Libs} (hL : L.Lossless) (m : LbpMethod) : WritesProtected L m := by
  intro d cdb data p i l bs h hbs hlbp hm hparams hdata
  let d₁ := d.declare_ssc_vars.onCart fun c => { c with OK_to_write := true }
  have hat₁ : At d₁.cart p l i := At.congr h.at_pos rfl rfl rfl
  have ha₁ : AttrsOpen d₁.cart :=
    ⟨h.attrs.mamfile, h.attrs.mam, h.attrs.mhvtlfile, h.attrs.mhvtl_data⟩
  have hio₁ : OkFor (overwriteCalls l i + 2 + 1) d₁.cart.io := h.io
  have href : Referenced d₁ (writeStart d) p i l :=
    update_volume_change_reference_ok hat₁ ha₁ (hio₁.mono (by omega))
  obtain ⟨c₂, heq₂⟩ := href.eq
  have hlt : bs.length < 2 ^ 24 := by
    have hsz := opcode_6_params_lt d cdb
    rw [hparams] at hsz
    dsimp only at hsz
    omega
  have hnull : (writeStart d).cart.mam.MediumType ≠ MEDIA_TYPE_NULL := by
    rw [href.type]
    intro hn
    exact absurd (hn.symm.trans h.writable.data) (by decide)
  have hroom : ∃ cap, medium_partition_capacity L (writeStart d) p = some cap ∧
      offsetOf l i < cap := by
    obtain ⟨cap, hcap, hbelow⟩ := h.room
    refine ⟨cap, ?_, hbelow⟩
    rw [← hcap]
    exact @medium_partition_capacity_congr L d₁ (writeStart d) (by rw [heq₂]) href.geometry p
  have hm₂ : UsesMethod (writeStart d) m := by
    rw [heq₂]
    exact ⟨hm.method, hm.order, hm.supported⟩
  have hlbp₂ : (writeStart d).LBP_W = true := by
    rw [heq₂]
    exact hlbp
  have hlevel : (writeStart d).CompressionValid := by
    rw [heq₂]
    exact h.level
  have hgood : (writeStart d).sam_stat = SAM_STAT_GOOD := by
    rw [Drive.sam_stat, href.status]
    rfl
  obtain ⟨d', b, hrun, hacc, hrec, hat⟩ := writeBlock_protected hL href.at_pos (href.io _ hio₁)
    h.blk hbs hlt hnull hlevel hroom hlbp₂ hm₂ hdata hgood
  have hwrite : ssc_write_6 L d cdb data =
      if d'.sam_stat ≠ SAM_STAT_GOOD then some d' else some (d'.returns SAM_STAT_GOOD) := by
    rw [ssc_write_6_writable h.writable, hparams, writeBlocks, hrun]
    rfl
  rw [hwrite]
  split
  · exact ⟨d', b, rfl, hacc, hrec, hat⟩
  · exact ⟨_, b, rfl, Or.inl rfl, hrec, At.congr hat rfl rfl rfl⟩

/-- On a data medium permission is given, or refused with sense data of its own. -/
theorem check_restrictions_data {d d' : Drive} {b : Bool}
    (hdata : d.cart.mam.MediumType = MEDIA_TYPE_DATA) (h : check_restrictions d = some (b, d')) :
    (b = true ∧ d' = d.declare_ssc_vars.onCart fun c => { c with OK_to_write := true }) ∨
      b = false ∧ ∃ key asc_ascq, d'.cart.status = return_sense key asc_ascq none ∧
        key ∈ [NOT_READY, DATA_PROTECT] := by
  have ht₁ : ¬MEDIA_TYPE_DATA = MEDIA_TYPE_NULL := by decide
  have ht₂ : ¬MEDIA_TYPE_DATA = MEDIA_TYPE_CLEAN := by decide
  have ht₃ : ¬MEDIA_TYPE_DATA = MEDIA_TYPE_WORM := by decide
  have hdata' : d.declare_ssc_vars.cart.mam.MediumType = MEDIA_TYPE_DATA := hdata
  have hnr : ∀ asc, ∃ key asc_ascq, sam_not_ready asc = return_sense key asc_ascq none ∧
      key ∈ [NOT_READY, DATA_PROTECT] := fun asc => ⟨_, _, rfl, by decide⟩
  have hdp : ∀ asc, ∃ key asc_ascq, sam_data_protect asc = return_sense key asc_ascq none ∧
      key ∈ [NOT_READY, DATA_PROTECT] := fun asc => ⟨_, _, rfl, by decide⟩
  unfold check_restrictions at h
  simp only [hdata', if_neg ht₁, if_neg ht₂, if_neg ht₃, if_true] at h
  split at h
  · cases h
  · split at h
    · cases h
      exact Or.inr ⟨rfl, hnr _⟩
    · split at h
      · cases h
        exact Or.inr ⟨rfl, hnr _⟩
      · split at h
        · cases h
          exact Or.inr ⟨rfl, hnr _⟩
        · split at h
          · cases h
            exact Or.inr ⟨rfl, hdp _⟩
          · split at h
            · cases h
            · cases h
              exact Or.inl ⟨rfl, rfl⟩

/-- Turning to the blocks keeps the medium type and the guard settings. -/
theorem writeStart_same (d : Drive) :
    ∃ c v, writeStart d = { d with cart := c, vcr_updated := v } ∧
      c.mam.MediumType = d.cart.mam.MediumType := by
  unfold writeStart update_volume_change_reference
  split
  · exact ⟨_, _, rfl, rfl⟩
  · refine ⟨_, _, rfl, ?_⟩
    rw [rewriteMAM_mam]
    exact Mam.byte_put_other _ _ (by decide)

/-- A guarded block with another word is not accepted. -/
theorem guarded_of_writeChosen {L : Libs} {d d' : Drive} {data : ℕ → UInt8} {n k : ℕ}
    {lbp_method : ℕ} (hnull : d.cart.mam.MediumType ≠ MEDIA_TYPE_NULL)
    (hsup : d.pm.drive_supports_LBP ≠ 0) (hm : lbp_method ≠ 0)
    (h : writeChosen L d data n lbp_method = (k, d')) (hacc : k = 0 → Accepted d') :
    verify_lbp_crc lbp_method d.lbp_rscrc_be data n (L.crc32c 0 (bytesAt data 0 n)) = true := by
  have hcrypto := setup_crypto_plain hsup
  have hsup' : (setup_crypto d).pm.drive_supports_LBP ≠ 0 := by
    rw [hcrypto]
    exact hsup
  have hbe : (setup_crypto d).lbp_rscrc_be = d.lbp_rscrc_be := by
    rw [hcrypto]
  have hkey : HARDWARE_ERROR ≠ NO_SENSE ||| SD_EOM := by decide
  by_contra hv
  have hguard : ∀ e : Drive, e.pm = (setup_crypto d).pm →
      e.lbp_rscrc_be = (setup_crypto d).lbp_rscrc_be →
      guardFails e data n lbp_method (L.crc32c 0 (bytesAt data 0 n)) = true := by
    intro e hpm he
    rw [guardFails, decide_eq_true_eq, hpm, he, hbe]
    exact ⟨hsup', hm, Bool.eq_false_iff.mpr hv⟩
  have hno : ∀ b, writeBlock_nocomp L d data n b lbp_method = (k, d') → False := by
    intro b hrun
    simp only [writeBlock_nocomp] at hrun
    split at hrun
    · cases hrun
      exact not_accepted rfl hkey (hacc rfl)
    · rename_i hpass
      exact hpass (hguard _ rfl rfl)
  have hcomp : ∀ compress type, writeBlock_comp L d data n compress type false lbp_method = (k, d') →
      False := by
    intro compress type hrun
    simp only [writeBlock_comp] at hrun
    split at hrun
    · cases hrun
      exact not_accepted rfl hkey (hacc rfl)
    · split at hrun
      · cases hrun
        exact not_accepted rfl hkey (hacc rfl)
      · rename_i hpass
        exact hpass (hguard _ rfl rfl)
  rw [writeChosen, if_neg hnull] at h
  split at h
  · exact hno _ h
  · split at h
    · exact hcomp _ _ h
    · split at h
      · exact hcomp _ _ h
      · exact hno _ h

/-- An accepted block of a protected transfer is followed by its word. -/
theorem guarded_of_writeBlock {L : Libs} {d d' : Drive} {m : LbpMethod} {data : ℕ → UInt8}
    {sz k : ℕ} (hnull : d.cart.mam.MediumType ≠ MEDIA_TYPE_NULL) (hlbp : d.LBP_W = true)
    (hm : UsesMethod d m) (h : writeBlock L d data sz = some (k, d')) (hacc : Accepted d') :
    ∃ n, sz = n + 4 ∧
      verify_lbp_crc m.number d.lbp_rscrc_be data n (L.crc32c 0 (bytesAt data 0 n)) = true := by
  have hmethod := hm.writeLbpMethod hlbp
  have hnum := m.number_cases
  have hne : m.number ≠ 0 := by omega
  have hkey : VOLUME_OVERFLOW ||| SD_EOM ≠ SD_EOM := by decide
  simp only [writeBlock, hmethod] at h
  split at h
  · cases h
  · split at h
    · cases h
      exact absurd hacc (not_accepted rfl hkey)
    · split at h
      · cases h
      · rename_i hshort
        have hsz : 4 ≤ sz := by
          by_contra hlt
          exact hshort ⟨hne, by omega⟩
        refine ⟨sz - 4, by omega, ?_⟩
        cases hrun : writeChosen L d data (sz - 4) m.number with
        | mk n e =>
          rw [hrun] at h
          dsimp only at h
          apply guarded_of_writeChosen hnull hm.supported hne hrun
          intro h0
          rw [if_pos h0] at h
          cases h
          exact hacc

/-- An accepted WRITE had a first block that was accepted. -/
theorem writeBlocks_accepted {L : Libs} {data : ℕ → UInt8} {sz count : ℕ} {d d' : Drive}
    (hcount : 0 < count) (h : writeBlocks L data sz count d = some d') (hacc : Accepted d') :
    ∃ k e, writeBlock L d data sz = some (k, e) ∧ Accepted e := by
  cases count with
  | zero => exact absurd hcount (lt_irrefl 0)
  | succ count =>
    rw [writeBlocks] at h
    cases hrun : writeBlock L d data sz with
    | none =>
      rw [hrun] at h
      cases h
    | some r =>
      obtain ⟨k, e⟩ := r
      rw [hrun] at h
      dsimp only at h
      refine ⟨k, e, rfl, ?_⟩
      split at h
      · cases h
        exact hacc
      · rename_i hgood
        exact Or.inl (not_not.mp hgood)

/-- An accepted WRITE to a data medium got to the blocks. -/
theorem writeBlocks_of_accepted {L : Libs} {d d' : Drive} {cdb : Cdb} {data : ℕ → UInt8}
    (hdata : d.cart.mam.MediumType = MEDIA_TYPE_DATA) (hrun : ssc_write_6 L d cdb data = some d')
    (hacc : Accepted d') :
    writeBlocks L data (opcode_6_params d cdb).2 (opcode_6_params d cdb).1 (writeStart d) =
      some d' := by
  have hparams : opcode_6_params d.declare_ssc_vars cdb = opcode_6_params d cdb := rfl
  rw [ssc_write_6] at hrun
  simp only [hparams] at hrun
  cases hc : check_restrictions d.declare_ssc_vars with
  | none =>
    rw [hc] at hrun
    cases hrun
  | some r =>
    obtain ⟨b, e⟩ := r
    rw [hc] at hrun
    rcases check_restrictions_data hdata hc with ⟨rfl, rfl⟩ | ⟨rfl, key, asc, hs, hk⟩
    · dsimp only at hrun
      exact (if_pos rfl).symm.trans hrun
    · cases hrun
      have hkey : key ≠ NO_SENSE ||| SD_EOM := by
        intro he
        rw [he] at hk
        exact absurd hk (by decide)
      have hsame : (e.returns SAM_STAT_CHECK_CONDITION).cart.status =
          return_sense key asc none := by
        rw [Drive.returns, hs]
        rfl
      exact absurd hacc (not_accepted hsame hkey)

/-- There the drive guards as before, and keeps data. -/
theorem writeStart_guards {d : Drive} {m : LbpMethod} (hm : UsesMethod d m) :
    UsesMethod (writeStart d) m ∧ (writeStart d).LBP_W = d.LBP_W ∧
      (writeStart d).cart.mam.MediumType = d.cart.mam.MediumType := by
  obtain ⟨c, v, heq, htype⟩ := writeStart_same d
  rw [heq]
  exact ⟨⟨hm.method, hm.order, hm.supported⟩, rfl, htype⟩

/-- A WRITE to a data medium is accepted only when a block of the transfer is followed by its
word. -/
def AcceptsOnlyProtected (L : Libs) (m : LbpMethod) : Prop :=
  ∀ (d d' : Drive) (cdb : Cdb) (data : ℕ → UInt8),
    d.cart.mam.MediumType = MEDIA_TYPE_DATA → d.LBP_W = true → UsesMethod d m →
    0 < (opcode_6_params d cdb).1 → ssc_write_6 L d cdb data = some d' → Accepted d' →
    ∃ bs, bytesAt data 0 (opcode_6_params d cdb).2 = (m.checkWord L.crc32c).append bs

/-- The first block decides, since all blocks come from the start of the buffer. -/
theorem accepts_only_protected (L : Libs) (m : LbpMethod) : AcceptsOnlyProtected L m := by
  intro d d' cdb data hdata hlbp hm hcount hrun hacc
  obtain ⟨k, e, hblk, hacc₁⟩ :=
    writeBlocks_accepted hcount (writeBlocks_of_accepted hdata hrun hacc) hacc
  obtain ⟨hm₂, hlbp₂, htype⟩ := writeStart_guards hm
  have hnull : (writeStart d).cart.mam.MediumType ≠ MEDIA_TYPE_NULL := by
    rw [htype, hdata]
    decide
  obtain ⟨n, hsz, hv⟩ := guarded_of_writeBlock hnull (hlbp₂.trans hlbp) hm₂ hblk hacc₁
  refine ⟨bytesAt data 0 n, ?_⟩
  rw [hsz]
  exact bytesAt_eq_append _ (matches_of_verify m hm₂.order hv)

/-- A drive that guards in both directions by the Reed-Solomon CRC. -/
def guardedDrive : Drive := { emptyDrive with LBP_method := 1, LBP_W := true, LBP_R := true }

/-- A byte and its check word. -/
def guardedByte (k : ℕ) : UInt8 := (BlockProtectRSCRC [65] true).getD k 0

/-- Transfer of one block of five bytes. -/
def fiveBytes (k : ℕ) : UInt8 := if k = 4 then 5 else 0

end Mhvtl.Ssc
