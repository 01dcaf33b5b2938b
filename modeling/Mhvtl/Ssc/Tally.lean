import Mhvtl.Ssc.Counters

/-!
# The bytes of the blocks that are written and read

How many bytes a WRITE records and a READ gets off the medium, told without the
counters of the drive, and when the counters move by as many.
-/

namespace Mhvtl.Ssc

open Bytes Cart Store

/-- The content of the compressed block at the position; nothing when it cannot be had. -/
def unpackedHere (d : Drive) (decompress : List UInt8 → ℕ → Option (List UInt8)) :
    Option (List UInt8) :=
  let pos := d.cart.c_pos
  match (d.cart.read_tape_block pos.disk_blk_size).1 with
  | none => none
  | some cbuf =>
    if cbuf.length ≠ pos.disk_blk_size then none
    else (decompress cbuf pos.blk_size.toNat).map (takePad pos.blk_size.toNat)

/-- The content of the data block at the position; nothing when it cannot be had. -/
def contentHere (L : Libs) (d : Drive) : Option (List UInt8) :=
  let pos := d.cart.c_pos
  if pos.blk_flags &&& BLKHDR_FLG_LZO_COMPRESSED ≠ 0 then unpackedHere d L.lzo1x_decompress_safe
  else if pos.blk_flags &&& BLKHDR_FLG_ZLIB_COMPRESSED ≠ 0 then unpackedHere d L.uncompress
  else
    let bs := (d.cart.read_tape_block pos.blk_size.toNat).1
    if (bs.map List.length).getD (2 ^ 32 - 1) = pos.blk_size.toNat then some (bs.getD []) else none

/-- The block at the position is compressed. -/
def CompressedHere (d : Drive) : Prop :=
  d.cart.c_pos.blk_flags &&& BLKHDR_FLG_LZO_COMPRESSED ≠ 0 ∨
    d.cart.c_pos.blk_flags &&& BLKHDR_FLG_ZLIB_COMPRESSED ≠ 0

/-- The CRC that is stored with the block at the position is not that of the content. -/
def crcDiffers (L : Libs) (d : Drive) (content : List UInt8) : Bool :=
  (if d.cart.c_pos.blk_flags &&& BLKHDR_FLG_CRC ≠ 0 then some d.cart.c_pos.uncomp_crc else none).any
    fun crc => crc ≠ L.crc32c 0 content

/-- Bytes of the block that a read of `request_sz` bytes gets off the medium. -/
def blockRead (L : Libs) (d : Drive) (request_sz lbp_method : ℕ) : ℕ :=
  if request_sz = 0 ∨ d.cart.c_pos.blk_type ≠ B_DATA ∨ lbp_method = 3 then 0 else
  match contentHere L d with
  | none => 0
  | some content => if crcDiffers L d content then 0 else d.cart.c_pos.blk_size.toNat

/-- A block that cannot be decompressed, and no CRC that says so. -/
def Undetected (L : Libs) (d : Drive) : Prop :=
  d.cart.c_pos.blk_type = B_DATA ∧ CompressedHere d ∧ contentHere L d = none ∧
    crcDiffers L d [] = false

section Read

variable {L : Libs} {d d' : Drive}

/-- The check of the key. -/
theorem counted_valid_encryption_blk {ok : Bool} (h : d.valid_encryption_blk = some (ok, d')) :
    Counted 0 0 d d' := by
  have hd := Counted.declared d
  rcases d.valid_encryption_blk_cases with hno | ⟨asc_ascq, hno⟩ | hyes
  · rw [hno] at h
    cases h
  · rw [hno] at h
    cases h
    exact hd.report _
  · rw [hyes] at h
    cases h
    rcases d.checked_eq with heq | heq
    · rw [heq]
      exact Counted.refl d
    · rw [heq]
      exact hd

/-- Reading a compressed block counts nothing, and leaves no bytes when it fails. -/
theorem uncompress_block_counted (d : Drive) (decompress : List UInt8 → ℕ → Option (List UInt8)) :
    Counted 0 0 d (uncompress_block d decompress).2 ∧
      (unpackedHere d decompress = some (uncompress_block d decompress).1 ∨
        unpackedHere d decompress = none ∧ (uncompress_block d decompress).1 = []) := by
  have hread := (Counted.refl d).cart (SameAttrs.read_tape_block d.cart d.cart.c_pos.disk_blk_size)
  unfold uncompress_block unpackedHere
  dsimp only
  rcases hr : d.cart.read_tape_block d.cart.c_pos.disk_blk_size with ⟨cbuf, c⟩
  rw [hr] at hread
  dsimp only
  cases cbuf with
  | none => exact ⟨hread.report _, Or.inr ⟨rfl, rfl⟩⟩
  | some cbuf =>
    dsimp only
    by_cases hlen : cbuf.length ≠ d.cart.c_pos.disk_blk_size
    · rw [if_pos hlen, if_pos hlen]
      exact ⟨hread.report _, Or.inr ⟨rfl, rfl⟩⟩
    · rw [if_neg hlen, if_neg hlen]
      cases decompress cbuf d.cart.c_pos.blk_size.toNat with
      | none => exact ⟨hread.report _, Or.inr ⟨rfl, rfl⟩⟩
      | some bs => exact ⟨hread, Or.inl rfl⟩

/-- Reading the content counts nothing, and says what there is; of a compressed block that
cannot be had nothing is left. -/
theorem readContent_counted (L : Libs) (d : Drive) :
    Counted 0 0 d (readContent L d).2 ∧ ((readContent L d).1 = contentHere L d ∨
      contentHere L d = none ∧ (readContent L d).1 = some [] ∧ CompressedHere d) := by
  have hunpacked : ∀ decompress, CompressedHere d →
      Counted 0 0 d (uncompress_block d decompress).2 ∧
        (some (uncompress_block d decompress).1 = unpackedHere d decompress ∨
          unpackedHere d decompress = none ∧
            some (uncompress_block d decompress).1 = some [] ∧ CompressedHere d) := by
    intro decompress hcomp
    obtain ⟨hcount, hsome | ⟨hnone, hempty⟩⟩ := uncompress_block_counted d decompress
    · exact ⟨hcount, Or.inl hsome.symm⟩
    · exact ⟨hcount, Or.inr ⟨hnone, congrArg some hempty, hcomp⟩⟩
  unfold readContent contentHere
  dsimp only
  split
  · rename_i hlzo
    exact hunpacked _ (Or.inl hlzo)
  split
  · rename_i hzlib
    exact hunpacked _ (Or.inr hzlib)
  · have hread := (Counted.refl d).cart
      (SameAttrs.read_tape_block d.cart d.cart.c_pos.blk_size.toNat)
    split
    · exact ⟨hread, Or.inl rfl⟩
    · exact ⟨hread.report _, Or.inl rfl⟩

/-- The sense data of a length. -/
theorem counted_reportLength (d : Drive) (request_sz lbp_sz rc blk_size : ℕ) (sili : Bool) :
    Counted 0 0 d (reportLength d request_sz lbp_sz rc blk_size sili) := by
  have hd := Counted.refl d
  unfold reportLength
  exact Counted.guarded (hd.report _) (Counted.guarded (hd.report _) hd)

/-- Reading a block counts the bytes that it gets off the medium. -/
theorem readBlock_counted {request_sz : ℕ} (sili : Bool) (lbp_method : ℕ)
    (h : request_sz ≠ 0 → lbp_method ≠ 3 → ¬Undetected L d) :
    Counted 0 (blockRead L d request_sz lbp_method) d
      (readBlock L d request_sz sili lbp_method).2 := by
  have hd := Counted.refl d
  have hzero : (request_sz = 0 ∨ d.cart.c_pos.blk_type ≠ B_DATA ∨ lbp_method = 3) →
      blockRead L d request_sz lbp_method = 0 := fun hno => if_pos hno
  unfold readBlock
  by_cases hsz : request_sz = 0
  · rw [if_pos hsz, hzero (Or.inl hsz)]
    exact hd
  rw [if_neg hsz]
  extract_lets lbp_sz pos d₁ blk_size stored
  by_cases hmark : pos.blk_type = B_FILEMARK
  · have hne : pos.blk_type ≠ B_DATA := by
      rw [hmark]
      decide
    rw [if_pos hmark, hzero (Or.inr (Or.inl hne))]
    exact Counted.report (hd.cart (SameAttrs.position_blocks_forw _ 1)) _
  rw [if_neg hmark]
  by_cases heod : pos.blk_type = B_EOD
  · have hne : pos.blk_type ≠ B_DATA := by
      rw [heod]
      decide
    rw [if_pos heod, hzero (Or.inr (Or.inl hne))]
    exact hd.report _
  rw [if_neg heod]
  by_cases hdata : pos.blk_type ≠ B_DATA
  · rw [if_pos hdata, hzero (Or.inr (Or.inl hdata))]
    exact hd.report _
  rw [if_neg hdata]
  obtain ⟨hcount, hcontent⟩ := readContent_counted L d
  rcases hrun : readContent L d with ⟨content, e⟩
  rw [hrun] at hcount hcontent
  have hcrc : ∀ bs, (stored.any fun crc => crc ≠ L.crc32c 0 bs) = crcDiffers L d bs := fun _ => rfl
  have hread : blockRead L d request_sz lbp_method = if lbp_method = 3 then 0 else
      match contentHere L d with
      | none => 0
      | some content => if crcDiffers L d content then 0 else d.cart.c_pos.blk_size.toNat := by
    unfold blockRead
    by_cases hguard : lbp_method = 3
    · rw [if_pos hguard, if_pos (Or.inr (Or.inr hguard))]
    · rw [if_neg hguard, if_neg (not_or.mpr ⟨hsz, not_or.mpr ⟨hdata, hguard⟩⟩)]
  rw [hread]
  cases content with
  | none =>
    have hnone : contentHere L d = none := by
      rcases hcontent with hsame | ⟨hno, -, -⟩
      · exact hsame.symm
      · exact hno
    rw [hnone, ite_self]
    exact hcount
  | some content =>
    simp only [hcrc]
    by_cases hdiff : crcDiffers L d content = true
    · rw [if_pos hdiff]
      have hnot : (match contentHere L d with
          | none => 0
          | some content => if crcDiffers L d content then 0 else d.cart.c_pos.blk_size.toNat) = 0 := by
        rcases hcontent with hsame | ⟨hno, -, -⟩
        · rw [← hsame]
          exact if_pos hdiff
        · rw [hno]
      rw [hnot, ite_self]
      exact hcount.report _
    · rw [if_neg hdiff]
      by_cases hguard : lbp_method = 3
      · rw [if_pos hguard, if_pos hguard]
        exact hcount.report _
      · rw [if_neg hguard, if_neg hguard]
        have hsame : contentHere L d = some content := by
          rcases hcontent with hsame | ⟨hno, hempty, hcomp⟩
          · exact hsame.symm
          · cases hempty
            exact absurd ⟨not_not.mp hdata, hcomp, hno, Bool.not_eq_true _ ▸ hdiff⟩ (h hsz hguard)
        rw [hsame]
        dsimp only
        rw [if_neg hdiff]
        refine Counted.quiet ?_ (counted_reportLength _ _ _ _ _ _)
        refine ⟨hcount.attrs, hcount.load_status, hcount.written, ?_⟩
        change e.bytesRead_I + _ = _
        rw [hcount.read]
        rfl

end Read

/-- The method of a read, 0 for none. -/
def readLbpMethod (d : Drive) : ℕ := if d.LBP_R then d.LBP_method else 0

/-- Bytes of the blocks that `readBlocks` gets off the medium. -/
def bytesRead (L : Libs) (cdb : Cdb) (sz : ℕ) : ℕ → Drive → ℕ
  | 0, _ => 0
  | count + 1, d =>
    match d.valid_encryption_blk with
    | some (true, e) =>
      let r := readBlock L e sz (sili cdb) (readLbpMethod e)
      blockRead L e sz (readLbpMethod e) +
        if r.1.length = 0 ∧ fixedBlock cdb then 0 else bytesRead L cdb sz count r.2
    | _ => 0

/-- No block of `readBlocks` fails without a CRC that says so. -/
def ReadsDetected (L : Libs) (cdb : Cdb) (sz : ℕ) : ℕ → Drive → Prop
  | 0, _ => True
  | count + 1, d =>
    ∀ e, d.valid_encryption_blk = some (true, e) →
      (sz ≠ 0 → readLbpMethod e ≠ 3 → ¬Undetected L e) ∧
        (¬((readBlock L e sz (sili cdb) (readLbpMethod e)).1.length = 0 ∧ fixedBlock cdb) →
          ReadsDetected L cdb sz count (readBlock L e sz (sili cdb) (readLbpMethod e)).2)

/-- The blocks of READ(6) and VERIFY(6) are looked at. -/
def ReadAdmitted (d : Drive) : Prop :=
  d.load_status = TAPE_LOADED ∧ d.cart.mam.MediumType ≠ MEDIA_TYPE_CLEAN

instance (d : Drive) : Decidable (ReadAdmitted d) := inferInstanceAs (Decidable (_ ∧ _))

/-- Bytes that the blocks of READ(6) or VERIFY(6) get off the medium. -/
def bytesReadBy (L : Libs) (d : Drive) (cdb : Cdb) : ℕ :=
  if ReadAdmitted d then
    bytesRead L cdb (opcode_6_params d cdb).2 (opcode_6_params d cdb).1 d.declare_ssc_vars
  else 0

/-- None of these blocks fails without a CRC that says so. -/
def ReadDetected (L : Libs) (d : Drive) (cdb : Cdb) : Prop :=
  ReadAdmitted d →
    ReadsDetected L cdb (opcode_6_params d cdb).2 (opcode_6_params d cdb).1 d.declare_ssc_vars

section Reads

variable {L : Libs} {cdb : Cdb} {d d' : Drive}

/-- The blocks of a READ(6) are counted. -/
theorem readBlocks_counted {sz count : ℕ} {bs : List UInt8} (h : ReadsDetected L cdb sz count d)
    (hrun : readBlocks L cdb sz count d = some (bs, d')) :
    Counted 0 (bytesRead L cdb sz count d) d d' := by
  induction count generalizing d bs with
  | zero =>
    cases hrun
    exact Counted.refl _
  | succ count ih =>
    unfold readBlocks at hrun
    unfold bytesRead
    cases hkey : d.valid_encryption_blk with
    | none =>
      rw [hkey] at hrun
      cases hrun
    | some res =>
      obtain ⟨ok, e⟩ := res
      rw [hkey] at hrun
      have he := counted_valid_encryption_blk hkey
      cases ok with
      | false =>
        cases hrun
        exact he.returns _
      | true =>
        obtain ⟨hnow, hlater⟩ := h e hkey
        have hblk := readBlock_counted (L := L) (d := e) (sili cdb) (readLbpMethod e) hnow
        dsimp only at hrun ⊢
        by_cases hstop : (readBlock L e sz (sili cdb) (readLbpMethod e)).1.length = 0 ∧ fixedBlock cdb
        · rw [if_pos hstop]
          unfold readLbpMethod at hstop
          rw [if_pos hstop] at hrun
          cases hrun
          exact (he.after hblk).report _
        · rw [if_neg hstop]
          have hrest := hlater hstop
          unfold readLbpMethod at hstop
          rw [if_neg hstop] at hrun
          obtain ⟨r, hr, hsplit⟩ := Option.map_eq_some_iff.mp hrun
          cases hsplit
          exact he.after (hblk.trans (ih hrest hr))

/-- So are those of READ(6) and VERIFY(6) behind their own checks. -/
theorem complete_read_6_counted {bs : List UInt8} (h : ReadDetected L d cdb)
    (hrun : complete_read_6 L d.declare_ssc_vars cdb (opcode_6_params d cdb).2
      (opcode_6_params d cdb).1 = some (bs, d')) : Counted 0 (bytesReadBy L d cdb) d d' := by
  have hd := Counted.declared d
  have hnot : ¬ReadAdmitted d → bytesReadBy L d cdb = 0 := fun hno => if_neg hno
  have hloading : TAPE_LOADING ≠ TAPE_LOADED := by decide
  have hunloaded : TAPE_UNLOADED ≠ TAPE_LOADED := by decide
  unfold complete_read_6 at hrun
  dsimp only at hrun
  split at hrun
  · rename_i hst
    rw [hnot fun hadm => hloading (hst.symm.trans hadm.1)]
    cases hrun
    exact hd.report _
  split at hrun
  · rename_i hst
    split at hrun
    · rename_i hclean
      rw [hnot fun hadm => hadm.2 hclean]
      cases hrun
      exact hd.report _
    · rename_i hclean
      have hadm : ReadAdmitted d := ⟨hst, hclean⟩
      rw [bytesReadBy, if_pos hadm]
      exact hd.after (readBlocks_counted (h hadm) hrun)
  · rename_i hst
    rw [hnot fun hadm => hst hadm.1]
    split at hrun
    · cases hrun
      exact hd.report _
    · cases hrun
      exact hd.report _

end Reads

/-- Everything that `write_tape_block` needs on a medium that does not keep data. -/
def HeaderRecordable (c : Store) : Prop :=
  c.fd .data c.partition_id = true ∧ Usable c .indx c.partition_id ∧ CutReady c ∧
    c.c_pos.blk_number ≤ MAX_BLK_NUMBER ∧ OkFor (c.cutCalls + 1) c.io

/-- Everything that `write_tape_block` needs for the block of the arguments. -/
def BlockRecordable (c : Store) (a : BlockArgs) : Prop :=
  if a.null_media_type then HeaderRecordable c else Recordable c

/-- A block of a WRITE that comes to `write_tape_block` is recorded, and its check word
is right. A block of no bytes is counted right anyway. -/
def BlockSound (L : Libs) (d : Drive) (data : ℕ → UInt8) (sz : ℕ) : Prop :=
  ∀ cap a, Reaches L d data sz cap a → payload d sz ≠ 0 →
    BlockRecordable (setup_crypto d).cart a ∧
      (a.null_media_type = false → ¬WordWrong L d data sz)

/-- The same of the blocks of a WRITE that are still to come. -/
def WritesSound (L : Libs) (data : ℕ → UInt8) (sz : ℕ) : ℕ → Drive → Prop
  | 0, _ => True
  | count + 1, d => BlockSound L d data sz ∧
      ∀ k d', writeBlock L d data sz = some (k, d') → d'.sam_stat = SAM_STAT_GOOD →
        WritesSound L data sz count d'

/-- Bytes of the blocks that `writeBlocks` records. -/
def bytesRecorded (L : Libs) (data : ℕ → UInt8) (sz : ℕ) : ℕ → Drive → ℕ
  | 0, _ => 0
  | count + 1, d =>
    match writeBlock L d data sz with
    | none => 0
    | some (_, d') => (if addsBlock L d data sz then payload d sz else 0) +
      if d'.sam_stat ≠ SAM_STAT_GOOD then 0 else bytesRecorded L data sz count d'

/-- Bytes of the blocks that a WRITE(6) records. -/
def bytesRecordedBy (L : Libs) (d : Drive) (cdb : Cdb) (data : ℕ → UInt8) : ℕ :=
  match check_restrictions d.declare_ssc_vars with
  | some (true, _) =>
    bytesRecorded L data (opcode_6_params d cdb).2 (opcode_6_params d cdb).1 (writeStart d)
  | _ => 0

/-- The blocks of a WRITE(6) that come to `write_tape_block` are recorded, and their check
words are right. -/
def WriteSound (L : Libs) (d : Drive) (cdb : Cdb) (data : ℕ → UInt8) : Prop :=
  Admitted d →
    WritesSound L data (opcode_6_params d cdb).2 (opcode_6_params d cdb).1 (writeStart d)

/-- A header alone is recorded. -/
theorem write_tape_block_header {c : Store} {a : BlockArgs} (hnull : a.null_media_type = true)
    (h : HeaderRecordable c) : (c.write_tape_block a).1 = 0 := by
  obtain ⟨hopen, hindx, hcut, hmax, hcalls⟩ := h
  obtain ⟨hcutcalls, hone⟩ := okFor_add_iff.mp hcalls
  have hleft := check_for_overwrite_left c
  have hloaded : c.tape_loaded = (true, c) := if_pos hopen
  unfold Store.write_tape_block
  rcases hrun : c.check_for_overwrite with ⟨rc, c₁⟩
  rw [hrun] at hleft
  have hrc : rc = 0 := hleft.ok_iff.mpr ⟨hcut, hcutcalls⟩
  have hraw : c₁.raw_pos = c.raw_pos := hleft.raw_pos
  have hio : c₁.io = c.io.drop c.cutCalls := (hleft.done hrc).2
  have hpid : c₁.partition_id = c.partition_id := congrArg (·.hdr.partition_id) hraw
  have hblk : c₁.c_pos.blk_number = c.c_pos.blk_number := congrArg (·.hdr.blk_number) hraw
  let hdr := Record.blockHeader a.info c.partition_id c.c_pos.blk_number c.raw_pos.data_offset
    a.disk_blk_size.toNat
  obtain ⟨-, hok, -⟩ := pwrite_called (c₁.setRawPos hdr) .indx c.partition_id (raw_header.enc hdr)
    (c.c_pos.blk_number * HEADER_SIZE)
  have huse : Usable (c₁.setRawPos hdr) .indx c.partition_id :=
    (hleft.worked.trans (Worked.setRawPos c₁ hdr)).usable .indx c.partition_id |>.mpr hindx
  have hhead : (c₁.setRawPos hdr).io.headD .ok = .ok := by
    change c₁.io.headD .ok = .ok
    rw [hio]
    exact hone.head
  have hwrite := hok.mpr ⟨huse, hhead⟩
  rw [raw_header.enc_length] at hwrite
  have hbelow : ¬MAX_BLK_NUMBER < c.c_pos.blk_number := by omega
  simp only [hloaded, hrun, hrc, hblk, hpid, hraw, hnull, Bool.not_true, Bool.false_eq_true, if_false,
    ne_eq, not_true_eq_false, if_true, if_neg hbelow]
  rw [if_neg]
  · rfl
  · exact not_not_intro hwrite

/-- Such a block is recorded. -/
theorem write_tape_block_recorded {c : Store} {a : BlockArgs} (h : BlockRecordable c a) :
    (c.write_tape_block a).1 = 0 := by
  unfold BlockRecordable at h
  cases hnull : a.null_media_type with
  | true =>
    rw [if_pos hnull] at h
    exact write_tape_block_header hnull h
  | false =>
    rw [if_neg (ne_true_of_eq_false hnull)] at h
    exact (write_tape_block_left c hnull).ok_iff.mpr h

/-- Recording a block is work on the cartridge. -/
theorem Counted.block {d : Drive} (a : BlockArgs) :
    Counted 0 0 d { d with cart := (d.cart.write_tape_block a).2 } :=
  (Counted.refl d).cart (SameAttrs.write_tape_block d.cart a)

section Writes

variable {L : Libs} {d d' : Drive} {data : ℕ → UInt8}

/-- The rules of a drive that chooses by the medium. -/
theorem counted_setup_crypto (d : Drive) : Counted 0 0 d (setup_crypto d) := by
  have hd : Counted 0 0 d { d with app_encr_info := d.ENCRYPT_MODE = 2 } :=
    (Counted.refl d).quiet ⟨LifeKept.refl _, rfl, rfl, rfl⟩
  unfold setup_crypto
  extract_lets d₁
  cases d.pm.valid_encryption_media with
  | none => exact hd
  | some t =>
    change Counted 0 0 d (valid_encryption_media_E06 d₁ t)
    unfold valid_encryption_media_E06
    extract_lets flags putFlags dOn d₂ density d₃ d₄ code
    have hput : ∀ {e : Drive} (n : ℕ), Counted 0 0 d e → Counted 0 0 d (putFlags e n) :=
      fun _ he => he.put _ (by decide)
    split
    · have h₂ : Counted 0 0 d d₂ := by
        unfold d₂
        split
        · split
          · exact Counted.quiet (hput _ hd) ⟨LifeKept.refl _, rfl, rfl, rfl⟩
          · exact hput _ hd
        · exact hd
      have h₃ : Counted 0 0 d d₃ := h₂.quiet ⟨LifeKept.refl _, rfl, rfl, rfl⟩
      apply Counted.rewriteMAM
      exact Counted.setMam h₃ (((SameLife.refl _).put _ (by decide)).put _ (by decide))
    · split
      · exact hd.report _
      · split
        · exact hd.report _
        · exact hd

/-- The warnings count nothing. -/
theorem counted_warnAndCount (d : Drive) (cap : ℕ) : Counted 0 0 d (warnAndCount d cap) := by
  have hd := Counted.refl d
  unfold warnAndCount
  extract_lets current early prog e difference remaining
  have he : Counted 0 0 d e := Counted.guarded (hd.report _) (Counted.guarded (hd.report _) hd)
  exact he.put _ (by decide)

/-- The bytes are counted, unless the check word is wrong. -/
def CountsBlock (L : Libs) (d : Drive) (data : ℕ → UInt8) (n lbp_method : ℕ) (d' : Drive) : Prop :=
  ∃ w, w ≤ n ∧ Counted w 0 d d' ∧
    (guardFails d data n lbp_method (L.crc32c 0 (bytesAt data 0 n)) = false → w = n)

/-- Writing as it is. -/
theorem writeBlock_nocomp_counted (n : ℕ) (null_wr : Bool) (lbp_method : ℕ) :
    CountsBlock L d data n lbp_method (writeBlock_nocomp L d data n null_wr lbp_method).2 := by
  let e := setup_crypto d
  let a := nocompArgs L e data n null_wr
  have hblock : Counted 0 0 d { e with cart := (e.cart.write_tape_block a).2 } :=
    (counted_setup_crypto d).quiet (Counted.block a)
  have hguard : guardFails { e with cart := (e.cart.write_tape_block a).2 } data n lbp_method a.crc =
      guardFails d data n lbp_method (L.crc32c 0 (bytesAt data 0 n)) :=
    guardFails_kept (setup_crypto_beside d).1.toSettingsKept lbp_method _
  unfold writeBlock_nocomp
  dsimp only
  split
  · rename_i hwrong
    refine ⟨0, Nat.zero_le n, hblock.report _, fun hright => ?_⟩
    rw [hguard, hright] at hwrong
    cases hwrong
  · refine ⟨n, Nat.le_refl n, hblock.after ⟨LifeKept.refl _, rfl, rfl, rfl⟩, fun _ => rfl⟩

/-- Writing compressed. -/
theorem writeBlock_comp_counted (n : ℕ) {compress : List UInt8 → Option (List UInt8)}
    {z : List UInt8} (hz : compress (bytesAt data 0 n) = some z) (t : UInt8) (lbp_method : ℕ) :
    Counted n 0 d (writeBlock_comp L d data n compress t false lbp_method).2 := by
  let e := setup_crypto d
  let a := compArgs L e data n z t false
  have hblock : Counted 0 0 d { e with cart := (e.cart.write_tape_block a).2 } :=
    (counted_setup_crypto d).quiet (Counted.block a)
  have hcount : Counted n 0 d
      ({ e with cart := (e.cart.write_tape_block a).2 }.countWritten z.length n) :=
    hblock.after ⟨LifeKept.refl _, rfl, rfl, rfl⟩
  unfold writeBlock_comp
  simp only [hz]
  split
  · exact hcount.report _
  · exact hcount

/-- A block that comes to `write_tape_block` is counted, unless its check word is wrong. -/
theorem writeChosen_counted {n : ℕ} {a : BlockArgs} (ha : chosenArgs L d data n = some a)
    (lbp_method : ℕ) : ∃ w, w ≤ n ∧ Counted w 0 d (writeChosen L d data n lbp_method).2 ∧
      ((a.null_media_type = false →
        guardFails d data n lbp_method (L.crc32c 0 (bytesAt data 0 n)) = false) → w = n) := by
  have hzero : guardFails d data n 0 (L.crc32c 0 (bytesAt data 0 n)) = false := by
    simp [guardFails]
  have hplain : ∀ null_wr : Bool, a.null_media_type = null_wr →
      writeChosen L d data n lbp_method =
        writeBlock_nocomp L d data n null_wr (if null_wr then 0 else lbp_method) →
      ∃ w, w ≤ n ∧ Counted w 0 d (writeChosen L d data n lbp_method).2 ∧
        ((a.null_media_type = false →
          guardFails d data n lbp_method (L.crc32c 0 (bytesAt data 0 n)) = false) → w = n) := by
    intro null_wr hkind hrun
    have hcounts : CountsBlock L d data n (if null_wr then 0 else lbp_method)
        (writeBlock_nocomp L d data n null_wr (if null_wr then 0 else lbp_method)).2 :=
      writeBlock_nocomp_counted n null_wr _
    obtain ⟨w, hle, hcount, hright⟩ := hcounts
    rw [hrun]
    refine ⟨w, hle, hcount, fun h => hright ?_⟩
    cases null_wr with
    | true => exact hzero
    | false => exact h hkind
  have hpacked : ∀ (compress : List UInt8 → Option (List UInt8)) (t : UInt8),
      (compress (bytesAt data 0 n)).map (fun z => compArgs L (setup_crypto d) data n z t false) = some a →
      writeChosen L d data n lbp_method = writeBlock_comp L d data n compress t false lbp_method →
      ∃ w, w ≤ n ∧ Counted w 0 d (writeChosen L d data n lbp_method).2 ∧
        ((a.null_media_type = false →
          guardFails d data n lbp_method (L.crc32c 0 (bytesAt data 0 n)) = false) → w = n) := by
    intro compress t hsome hrun
    obtain ⟨z, hz, -⟩ := Option.map_eq_some_iff.mp hsome
    rw [hrun]
    exact ⟨n, Nat.le_refl n, writeBlock_comp_counted n hz t lbp_method, fun _ => rfl⟩
  unfold chosenArgs at ha
  extract_lets plain packed at ha
  split at ha
  · rename_i hnull
    cases ha
    exact hplain true rfl (if_pos hnull)
  rename_i hnull
  split at ha
  · rename_i hfactor
    cases ha
    exact hplain false rfl ((if_neg hnull).trans (if_pos hfactor))
  rename_i hfactor
  split at ha
  · rename_i htype
    exact hpacked _ _ ha ((if_neg hnull).trans ((if_neg hfactor).trans (if_pos htype)))
  rename_i hlzo
  split at ha
  · rename_i htype
    exact hpacked (L.compress2 · d.compressionFactor.toNat) _ ha ((if_neg hnull).trans
      ((if_neg hfactor).trans ((if_neg hlzo).trans (if_pos htype))))
  · rename_i hzlib
    cases ha
    exact hplain false rfl ((if_neg hnull).trans
      ((if_neg hfactor).trans ((if_neg hlzo).trans (if_neg hzlib))))

/-- A block that cannot be compressed is not counted. -/
theorem writeChosen_uncounted {n : ℕ} (ha : chosenArgs L d data n = none) (lbp_method : ℕ) :
    Counted 0 0 d (writeChosen L d data n lbp_method).2 := by
  rw [writeChosen_none ha]
  exact (counted_setup_crypto d).report _

/-- A block that is added has come to `write_tape_block`. -/
theorem addsBlock_reaches {sz : ℕ} (h : addsBlock L d data sz = true) :
    ∃ cap a, Reaches L d data sz cap a := by
  unfold addsBlock at h
  cases hcap : medium_partition_capacity L d d.cart.partition_id with
  | none =>
    rw [hcap] at h
    cases h
  | some cap =>
    cases ha : chosenArgs L d data (payload d sz) with
    | none =>
      rw [hcap, ha] at h
      cases h
    | some a =>
      rw [hcap, ha] at h
      obtain ⟨hroom, hword, -⟩ := of_decide_eq_true h
      exact ⟨cap, a, hcap, hroom, hword, ha⟩

/-- A block that comes to it is added when it is recorded. -/
theorem Reaches.adds {sz cap : ℕ} {a : BlockArgs} (h : Reaches L d data sz cap a)
    (hrec : BlockRecordable (setup_crypto d).cart a) : addsBlock L d data sz = true := by
  unfold addsBlock
  rw [h.capacity, h.args]
  exact decide_eq_true ⟨h.room, h.word, write_tape_block_recorded hrec⟩

/-- A block counts the bytes that are recorded. -/
theorem writeBlock_counted {sz k : ℕ} (h : BlockSound L d data sz)
    (hrun : writeBlock L d data sz = some (k, d')) :
    Counted (if addsBlock L d data sz then payload d sz else 0) 0 d d' := by
  have hnone : (∀ cap a, ¬Reaches L d data sz cap a) →
      (if addsBlock L d data sz then payload d sz else 0) = 0 := by
    intro hno
    apply if_neg
    intro hadds
    obtain ⟨cap, a, hr⟩ := addsBlock_reaches hadds
    exact hno cap a hr
  cases hcap : medium_partition_capacity L d d.cart.partition_id with
  | none =>
    simp only [writeBlock, hcap] at hrun
    cases hrun
  | some cap =>
    have hsame : ∀ cap' a, Reaches L d data sz cap' a → cap' = cap := fun cap' a hr =>
      Option.some.inj (hr.capacity.symm.trans hcap)
    by_cases hfull : cap ≤ d.cart.current_tape_offset
    · rw [writeBlock_full hcap hfull] at hrun
      cases hrun
      rw [hnone fun cap' a hr => by have := hr.room; have := hsame cap' a hr; omega]
      exact Counted.report ((Counted.refl d).put _ (by decide)) _
    · by_cases hword : writeLbpMethod d ≠ 0 ∧ sz < 4
      · simp only [writeBlock, hcap, if_neg hfull, if_pos hword] at hrun
        cases hrun
      · have hwarned : ∀ {w : ℕ} {r : ℕ × Drive}, Counted w 0 d r.2 →
            (if r.1 = 0 then some (0, r.2) else some (r.1, warnAndCount r.2 cap)) = some (k, d') →
            Counted w 0 d d' := by
          intro w r hcount hr
          split at hr
          · cases hr
            exact hcount
          · cases hr
            exact hcount.quiet (counted_warnAndCount _ _)
        simp only [writeBlock, hcap, if_neg hfull, if_neg hword] at hrun
        cases ha : chosenArgs L d data (payload d sz) with
        | none =>
          rw [hnone fun cap' a hr => by
            have hargs := hr.args
            rw [ha] at hargs
            cases hargs]
          exact hwarned (writeChosen_uncounted ha _) hrun
        | some a =>
          have hr : Reaches L d data sz cap a := ⟨hcap, by omega, hword, ha⟩
          obtain ⟨w, hle, hcount, hright⟩ := writeChosen_counted ha (writeLbpMethod d)
          have hw : w = if addsBlock L d data sz then payload d sz else 0 := by
            by_cases hzero : payload d sz = 0
            · rw [hzero, ite_self]
              omega
            · obtain ⟨hrec, hwords⟩ := h cap a hr hzero
              rw [hr.adds hrec, if_pos rfl]
              exact hright fun hdata => Bool.eq_false_of_not_eq_true (hwords hdata)
          rw [← hw]
          exact hwarned hcount hrun

/-- So do the blocks of a WRITE. -/
theorem writeBlocks_counted {sz count : ℕ} (h : WritesSound L data sz count d)
    (hrun : writeBlocks L data sz count d = some d') :
    Counted (bytesRecorded L data sz count d) 0 d d' := by
  induction count generalizing d with
  | zero =>
    cases hrun
    exact (Counted.refl d).returns _
  | succ count ih =>
    obtain ⟨hnow, hlater⟩ := h
    unfold writeBlocks at hrun
    unfold bytesRecorded
    cases hblk : writeBlock L d data sz with
    | none =>
      rw [hblk] at hrun
      cases hrun
    | some r =>
      obtain ⟨k, e⟩ := r
      rw [hblk] at hrun
      dsimp only at hrun ⊢
      have hcount := writeBlock_counted hnow hblk
      by_cases hstop : e.sam_stat ≠ SAM_STAT_GOOD
      · rw [if_pos hstop] at hrun
        cases hrun
        rw [if_pos hstop, Nat.add_zero]
        exact hcount
      · rw [if_neg hstop] at hrun
        rw [if_neg hstop]
        exact hcount.trans (ih (hlater k e hblk (not_not.mp hstop)) hrun)

/-- A WRITE(6) counts the bytes of the blocks that it records. -/
theorem ssc_write_6_counted {cdb : Cdb} (h : WriteSound L d cdb data)
    (hrun : ssc_write_6 L d cdb data = some d') :
    Counted (bytesRecordedBy L d cdb data) 0 d d' := by
  have hparams : opcode_6_params d.declare_ssc_vars cdb = opcode_6_params d cdb := rfl
  have hd := Counted.declared d
  unfold ssc_write_6 at hrun
  unfold bytesRecordedBy
  simp only [hparams] at hrun
  cases hcheck : check_restrictions d.declare_ssc_vars with
  | none =>
    rw [hcheck] at hrun
    cases hrun
  | some res =>
    obtain ⟨ok, e⟩ := res
    rw [hcheck] at hrun
    have he := hd.quiet (counted_check_restrictions hcheck)
    cases ok with
    | false =>
      cases hrun
      exact he.returns _
    | true =>
      have heq := check_restrictions_true hcheck
      subst heq
      change writeBlocks L data _ _ (writeStart d) = some d' at hrun
      have hstart : Counted 0 0 d (writeStart d) :=
        he.quiet (counted_update_volume_change_reference _)
      exact hstart.after (writeBlocks_counted (h ⟨_, hcheck⟩) hrun)

end Writes

end Mhvtl.Ssc
