import Mhvtl.Ssc.Spacing
import Mhvtl.Ssc.Tally

/-!
# VERIFY(6) and READ(6)

VERIFY(6) is to do what READ(6) does, and to send nothing. It goes through the same loop, which
counts every block that is read as data for the initiator. With no filemark to look for it looks
for one in front of the head.
-/

namespace Mhvtl.Ssc

open Bytes Cart Store Records

/-- VERIFY(6) with the bytes that it sends. -/
def verify_6_sent (L : Libs) (d : Drive) (cdb : Cdb) : Option (List UInt8 × Drive) :=
  let d := d.declare_ssc_vars
  let (blocks, sz) := opcode_6_params d cdb
  if cdb 1 &&& 0x20 ≠ 0 then
    some ([], d.report (sam_illegal_request E_INVALID_FIELD_IN_CDB (some ⟨SKSV ||| CD ||| BPV ||| 6, 1⟩)))
  else if cdb 1 &&& 0x08 ≠ 0 then some ([], resp_space d (if fixedBlock cdb then blocks else sz) 1)
  else complete_read_6 L d cdb sz blocks

/-- The state after it is that of VERIFY(6). -/
theorem verify_6_sent_snd (L : Libs) (d : Drive) (cdb : Cdb) :
    (verify_6_sent L d cdb).map (·.2) = ssc_verify_6 L d cdb := by
  unfold verify_6_sent ssc_verify_6
  dsimp only
  split
  · rfl
  split
  · rfl
  · rfl

/-- Filemarks are verified. -/
def vbf (cdb : Cdb) : Bool := cdb 1 &&& 0x08 ≠ 0

/-- A READ(6) of the same length with the same FIXED bit. -/
def readForm (cdb : Cdb) : Cdb := fun k => if k = 1 then cdb 1 &&& 0x01 else cdb k

/-- What VERIFY(6) is to do at index `i` of a partition, without VTE. -/
structure Verifies (L : Libs) (d : Drive) (cdb : Cdb) (p i : ℕ) (l : List Record)
    (r : List UInt8 × Drive) : Prop where
  /-- Nothing is sent. -/
  silent : r.1 = []
  /-- Of nothing to verify the head stays where it is, with good status. -/
  nothing : be24 cdb 2 = 0 → At r.2.cart p l i ∧ r.2.sam_stat = SAM_STAT_GOOD
  /-- Position, status and sense data are those of the READ(6). -/
  blocks : vbf cdb = false → ∃ s, ssc_read_6 L d (readForm cdb) = some s ∧
    r.2.cart.raw_pos = s.2.cart.raw_pos ∧ r.2.cart.status = s.2.cart.status
  /-- The head rests behind the last filemark that was asked for, or at the end of the data. -/
  marks : vbf cdb = true → 0 < be24 cdb 2 →
    Left r.2 p l (skipForward Record.isFilemark l i (be24 cdb 2))

/-- Whether the block at the position is compressed can be decided. -/
instance (d : Drive) : Decidable (CompressedHere d) := inferInstanceAs (Decidable (_ ∨ _))

/-- The content of the data block at the position. A compressed one that cannot be had is taken for
an empty one. -/
def contentTaken (L : Libs) (d : Drive) : Option (List UInt8) :=
  if CompressedHere d then some ((contentHere L d).getD []) else contentHere L d

/-- Something is sent of the block at the position, when it is asked for `sz` bytes. -/
def SendsSome (L : Libs) (d : Drive) (sz : ℕ) : Prop :=
  d.cart.c_pos.blk_type = B_DATA ∧ readLbpMethod d ≠ 3 ∧ ∃ bs, contentTaken L d = some bs ∧
    crcDiffers L d bs = false ∧ (sz < d.cart.c_pos.blk_size.toNat ∨ bs ≠ [] ∨ readLbpMethod d = 2)

/-- When VERIFY(6) of blocks does what it is to do. -/
structure BlocksFine (L : Libs) (d : Drive) (cdb : Cdb) : Prop where
  /-- Without a cartridge there is something to verify. -/
  mounted : be24 cdb 2 = 0 → ReadAdmitted d
  /-- The drive survives the comparison of the keys. -/
  survived : ReadAdmitted d → (opcode_6_params d cdb).1 ≠ 0 → d.valid_encryption_blk ≠ none
  /-- The keys agree when there is nothing to verify. -/
  keys : ReadAdmitted d → (opcode_6_params d cdb).1 ≠ 0 → be24 cdb 2 = 0 →
    d.valid_encryption_blk.map Prod.fst = some true
  /-- And nothing can be read when there is something. -/
  quiet : ReadAdmitted d → (opcode_6_params d cdb).1 ≠ 0 → 0 < (opcode_6_params d cdb).2 →
    d.valid_encryption_blk.map Prod.fst = some true →
      ¬SendsSome L d.declare_ssc_vars (opcode_6_params d cdb).2

/-- VERIFY(6) of filemarks does, at index `i`. -/
def MarksFine (cdb : Cdb) (i : ℕ) (l : List Record) : Prop :=
  be24 cdb 2 = 0 → ∃ f ∈ filemarksOf l, f + 1 = i

section Marks

variable {c : Store} {p i : ℕ} {l : List Record}

/-- It leaves the head alone right behind a filemark, and nowhere else. -/
theorem position_filemarks_forw_zero_iff (h : At c p l i) (hl : l.length < 2 ^ 32)
    (hgood : c.status.sam_stat = SAM_STAT_GOOD) :
    At (c.position_filemarks_forw 0).2 p l i ∧
      (c.position_filemarks_forw 0).2.status.sam_stat = SAM_STAT_GOOD ↔
      ∃ f ∈ filemarksOf l, f + 1 = i := by
  have hne : SAM_STAT_CHECK_CONDITION ≠ SAM_STAT_GOOD := by decide
  rcases position_filemarks_forw_zero h hl with ⟨hahead, hcheck⟩ | ⟨f, hf, hfi, hlast, hrests⟩
  · constructor
    · rintro ⟨-, hst⟩
      exact absurd (hcheck.symm.trans hst) hne
    · rintro ⟨f, hf, hfi⟩
      have hif := hahead f hf
      omega
  · have hat := hrests.at_pos h
    constructor
    · rintro ⟨hat', -⟩
      exact ⟨f, hf, at_unique hat hat'⟩
    · rintro ⟨g, hg, hgi⟩
      have hgf := hlast g hg (by omega)
      have hpos : f + 1 = i := by omega
      rw [hrests.status]
      exact ⟨hpos ▸ hat, hgood⟩

end Marks

section Silent

variable {L : Libs} {d d' : Drive} {cdb : Cdb} {sz : ℕ}

/-- What reading the block at the position gives. -/
theorem readContent_fst (L : Libs) (d : Drive) : (readContent L d).1 = contentTaken L d := by
  obtain ⟨-, hcontent⟩ := readContent_counted L d
  unfold contentTaken
  by_cases hcomp : CompressedHere d
  · have hsome : ∃ bs, (readContent L d).1 = some bs := by
      unfold readContent
      dsimp only
      by_cases hlzo : d.cart.c_pos.blk_flags &&& BLKHDR_FLG_LZO_COMPRESSED ≠ 0
      · rw [if_pos hlzo]
        exact ⟨_, rfl⟩
      · have hzlib : d.cart.c_pos.blk_flags &&& BLKHDR_FLG_ZLIB_COMPRESSED ≠ 0 :=
          hcomp.resolve_left hlzo
        rw [if_neg hlzo, if_pos hzlib]
        exact ⟨_, rfl⟩
    obtain ⟨bs, hbs⟩ := hsome
    rw [if_pos hcomp, hbs]
    rcases hcontent with hsame | ⟨hnone, hempty, -⟩
    · rw [← hsame, hbs, Option.getD_some]
    · rw [hnone, Option.getD_none, ← hempty, hbs]
  · rw [if_neg hcomp]
    rcases hcontent with hsame | ⟨-, -, hno⟩
    · exact hsame
    · exact absurd hno hcomp

/-- Nothing is put behind an empty block but a CRC32C. -/
theorem protectBlock_eq_nil_iff {lbp_method : ℕ} {stored : Option UInt32} {content : List UInt8} :
    protectBlock L d lbp_method stored content = [] ↔ content = [] ∧ lbp_method ≠ 2 := by
  unfold protectBlock
  split
  · unfold BlockProtectRSCRC
    dsimp only
    by_cases hnil : content.length = 0
    · rw [if_pos hnil]
      exact ⟨fun _ => ⟨List.eq_nil_of_length_eq_zero hnil, by decide⟩, fun _ => rfl⟩
    · rw [if_neg hnil]
      have hne : content ≠ [] := fun hno => hnil (congrArg List.length hno)
      constructor
      · intro h
        split at h
        · exact absurd (List.append_eq_nil_iff.mp h).1 hne
        · exact absurd (List.append_eq_nil_iff.mp h).1 hne
      · rintro ⟨h, -⟩
        exact absurd h hne
  · have hlen := leBytes_length 4 (stored.getD (L.crc32c 0 content)).toNat
    constructor
    · intro h
      rw [(List.append_eq_nil_iff.mp h).2] at hlen
      cases hlen
    · rintro ⟨-, h⟩
      exact absurd rfl h
  · rename_i h2
    exact ⟨fun h => ⟨h, h2⟩, fun h => h.1⟩

/-- What is left to do when the content is there: nothing is sent of an empty block that is not
longer than asked for, and then its length is reported in any case. -/
theorem reportLength_silent {lbp_sz blk_size : ℕ} (hsz : sz ≠ 0) (s s' : Bool) :
    reportLength d sz lbp_sz 0 blk_size s = reportLength d sz lbp_sz 0 blk_size s' := by
  unfold reportLength
  rw [if_pos (Ne.symm hsz), if_pos (Ne.symm hsz)]

/-- A block that nothing is sent of is read alike, whatever the SILI bit. One that something is sent
of is not. -/
theorem readBlock_silent (hsz : sz ≠ 0) (s s' : Bool) :
    (¬SendsSome L d sz ∧ (readBlock L d sz s (readLbpMethod d)).1 = [] ∧
      readBlock L d sz s (readLbpMethod d) = readBlock L d sz s' (readLbpMethod d)) ∨
    SendsSome L d sz ∧ (readBlock L d sz s (readLbpMethod d)).1 ≠ [] := by
  unfold readBlock
  dsimp only
  rw [if_neg hsz, if_neg hsz]
  have hmark : B_FILEMARK ≠ B_DATA := by decide
  have heod : B_EOD ≠ B_DATA := by decide
  by_cases htype : d.cart.c_pos.blk_type = B_DATA
  swap
  · have hnot : ¬SendsSome L d sz := fun h => htype h.1
    left
    split
    · exact ⟨hnot, rfl, rfl⟩
    split
    · exact ⟨hnot, rfl, rfl⟩
    · exact ⟨hnot, rfl, rfl⟩
  rw [htype, if_neg (Ne.symm hmark), if_neg (Ne.symm hmark), if_neg (Ne.symm heod),
    if_neg (Ne.symm heod), if_neg (not_not_intro rfl), if_neg (not_not_intro rfl)]
  have hfst := readContent_fst L d
  rcases hrun : readContent L d with ⟨content, e⟩
  rw [hrun] at hfst
  have hcrc : ∀ bs, ((if d.cart.c_pos.blk_flags &&& BLKHDR_FLG_CRC ≠ 0 then
      some d.cart.c_pos.uncomp_crc else none).any fun crc => decide (crc ≠ L.crc32c 0 bs)) =
      crcDiffers L d bs := fun _ => rfl
  cases content with
  | none =>
    left
    refine ⟨?_, rfl, rfl⟩
    rintro ⟨-, -, bs, hbs, -⟩
    rw [← hfst] at hbs
    cases hbs
  | some content =>
    have honly : ∀ bs, contentTaken L d = some bs → bs = content := by
      intro bs hbs
      rw [← hfst] at hbs
      exact (Option.some.inj hbs).symm
    simp only [hcrc]
    by_cases hdiff : crcDiffers L d content = true
    · left
      rw [if_pos hdiff, if_pos hdiff]
      refine ⟨?_, rfl, rfl⟩
      rintro ⟨-, -, bs, hbs, hok, -⟩
      rw [honly bs hbs, hdiff] at hok
      cases hok
    rw [if_neg hdiff, if_neg hdiff]
    by_cases hguard : readLbpMethod d = 3
    · left
      rw [if_pos hguard, if_pos hguard]
      exact ⟨fun h => h.2.1 hguard, rfl, rfl⟩
    rw [if_neg hguard, if_neg hguard]
    have hsends : (sz < d.cart.c_pos.blk_size.toNat ∨ content ≠ [] ∨ readLbpMethod d = 2) →
        SendsSome L d sz := fun h =>
      ⟨htype, hguard, content, hfst.symm, Bool.eq_false_iff.mpr hdiff, h⟩
    by_cases hshort : sz < d.cart.c_pos.blk_size.toNat
    · right
      refine ⟨hsends (Or.inl hshort), ?_⟩
      rw [if_pos hshort]
      intro hnil
      exact hsz ((takePad_length _ _).symm.trans (congrArg List.length hnil))
    · rw [if_neg hshort]
      by_cases hempty : content = [] ∧ readLbpMethod d ≠ 2
      · left
        have hnil : ∀ stored, protectBlock L e (readLbpMethod d) stored content = [] := fun _ =>
          protectBlock_eq_nil_iff.mpr hempty
        rw [hnil]
        refine ⟨?_, rfl, ?_⟩
        · rintro ⟨-, -, bs, hbs, -, hway⟩
          rw [honly bs hbs] at hway
          rcases hway with hlt | hne | h2
          · exact hshort hlt
          · exact hne hempty.1
          · exact hempty.2 h2
        · rw [List.length_nil, reportLength_silent hsz s s']
      · right
        refine ⟨hsends (Or.inr ?_), fun hnil => hempty (protectBlock_eq_nil_iff.mp hnil)⟩
        by_cases h2 : readLbpMethod d = 2
        · exact Or.inr h2
        · exact Or.inl fun hno => hempty ⟨hno, h2⟩

/-- The loop of READ(6) over one block, or over blocks that it has to stop at: when it sends something,
and what the SILI bit has to do with it. -/
theorem readBlocks_silent {n : ℕ} {cdb' : Cdb} (hone : fixedBlock cdb = true ∨ n = 0)
    (hfixed : fixedBlock cdb' = fixedBlock cdb) :
    ((∃ e, readBlocks L cdb sz (n + 1) d = some ([], e)) ↔ d.valid_encryption_blk ≠ none ∧
      (d.valid_encryption_blk.map Prod.fst = some true → 0 < sz →
        ¬SendsSome L d.checked sz)) ∧
    ∀ e, readBlocks L cdb sz (n + 1) d = some ([], e) →
      readBlocks L cdb' sz (n + 1) d = readBlocks L cdb sz (n + 1) d := by
  rcases hcheck : d.valid_encryption_blk with - | ⟨ok, e⟩
  · have hnone : readBlocks L cdb sz (n + 1) d = none := by
      simp only [readBlocks, hcheck]
    rw [hnone]
    refine ⟨⟨?_, fun h => absurd rfl h.1⟩, fun e h => ?_⟩
    · rintro ⟨e, he⟩
      cases he
    · cases h
  cases ok with
  | false =>
    have hstop : ∀ c : Cdb, readBlocks L c sz (n + 1) d =
        some ([], e.returns SAM_STAT_CHECK_CONDITION) := by
      intro c
      simp only [readBlocks, hcheck]
    refine ⟨⟨fun _ => ⟨Option.some_ne_none _, fun h => ?_⟩, fun _ => ⟨_, hstop cdb⟩⟩, fun _ _ => ?_⟩
    · cases h
    · rw [hstop, hstop]
  | true =>
    have hpass := Drive.valid_encryption_blk_true (congrArg (Option.map Prod.fst) hcheck)
    -- a first block that sends nothing ends the loop
    have hquiet : ∀ c : Cdb, (fixedBlock c = true ∨ n = 0) → (readOne L c sz d).1 = [] →
        readBlocks L c sz (n + 1) d = some ([], if fixedBlock c then (readOne L c sz d).2.report
          ((readOne L c sz d).2.cart.status.withInformation (n + 1)) else (readOne L c sz d).2) := by
      intro c hone' hnil
      rw [readBlocks_passed hpass, hnil]
      by_cases hf : fixedBlock c = true
      · rw [if_pos ⟨rfl, hf⟩, if_pos hf]
      · obtain rfl := hone'.resolve_left hf
        rw [if_neg (fun hno => hf hno.2), if_neg hf]
        rfl
    have hboth : (readOne L cdb sz d).1 = [] → readOne L cdb sz d = readOne L cdb' sz d →
        readBlocks L cdb' sz (n + 1) d = readBlocks L cdb sz (n + 1) d := by
      intro hnil hsame
      have hnil' : (readOne L cdb' sz d).1 = [] := by rwa [← hsame]
      rw [hquiet cdb hone hnil, hquiet cdb' (by rwa [hfixed]) hnil', hfixed, hsame]
    by_cases hsz : sz = 0
    · have hread : ∀ c, readOne L c sz d = ([], d.checked) := fun _ => if_pos hsz
      refine ⟨⟨fun _ => ⟨Option.some_ne_none _, fun _ hpos => absurd hsz (Nat.ne_of_gt hpos)⟩, fun _ =>
        ⟨_, hquiet cdb hone (by rw [hread])⟩⟩, fun _ _ => hboth (by rw [hread]) (by rw [hread, hread])⟩
    · rcases readBlock_silent (L := L) (d := d.checked) hsz (sili cdb) (sili cdb') with
        ⟨hno, hnil, hsame⟩ | ⟨hsends, hne⟩
      · exact ⟨⟨fun _ => ⟨Option.some_ne_none _, fun _ _ => hno⟩, fun _ => ⟨_, hquiet cdb hone hnil⟩⟩,
          fun _ _ => hboth hnil hsame⟩
      · have hsent : ∀ f, readBlocks L cdb sz (n + 1) d ≠ some ([], f) := by
          intro f hrun
          have hlen : ¬((readOne L cdb sz d).1.length = 0 ∧ fixedBlock cdb = true) := fun hz =>
            hne (List.eq_nil_of_length_eq_zero hz.1)
          rw [readBlocks_passed hpass, if_neg hlen] at hrun
          obtain ⟨r, -, hr⟩ := Option.map_eq_some_iff.mp hrun
          exact hne (List.append_eq_nil_iff.mp (congrArg Prod.fst hr)).1
        refine ⟨⟨?_, fun h => absurd hsends (h.2 rfl (Nat.pos_of_ne_zero hsz))⟩, fun f hf =>
          absurd hf (hsent f)⟩
        rintro ⟨f, hf⟩
        exact absurd hf (hsent f)

/-- READ(6) and VERIFY(6) where no cartridge with data is mounted. -/
theorem complete_read_6_refused (h : ¬ReadAdmitted d) : ∃ st : Status,
    st.sam_stat = SAM_STAT_CHECK_CONDITION ∧
    ∀ (c : Cdb) (sz count : ℕ), complete_read_6 L d c sz count = some ([], d.report st) := by
  unfold complete_read_6
  by_cases hloading : d.load_status = TAPE_LOADING
  · exact ⟨_, rfl, fun _ _ _ => if_pos hloading⟩
  by_cases hloaded : d.load_status = TAPE_LOADED
  · have hclean : d.cart.mam.MediumType = MEDIA_TYPE_CLEAN := by
      by_contra hne
      exact h ⟨hloaded, hne⟩
    exact ⟨_, rfl, fun _ _ _ => (if_neg hloading).trans ((if_pos hloaded).trans (if_pos hclean))⟩
  by_cases hout : d.load_status = TAPE_UNLOADED
  · exact ⟨_, rfl, fun _ _ _ => (if_neg hloading).trans ((if_neg hloaded).trans (if_pos hout))⟩
  · exact ⟨_, rfl, fun _ _ _ => (if_neg hloading).trans ((if_neg hloaded).trans (if_neg hout))⟩

/-- And where one is. -/
theorem complete_read_6_mounted (h : ReadAdmitted d) (c : Cdb) (sz count : ℕ) :
    complete_read_6 L d c sz count = readBlocks L c sz count d.declare_ssc_vars := by
  have hloading : d.load_status ≠ TAPE_LOADING := by
    rw [h.1]
    decide
  exact (if_neg hloading).trans ((if_pos h.1).trans (if_neg h.2))

end Silent

section Commands

variable {L : Libs} {d : Drive} {cdb : Cdb} {p i : ℕ} {l : List Record}

/-- The READ(6) has the FIXED bit, no SILI bit and the length. -/
theorem readForm_spec : fixedBlock (readForm cdb) = fixedBlock cdb ∧ sili (readForm cdb) = false ∧
    be24 (readForm cdb) 2 = be24 cdb 2 := by
  have hbit : readForm cdb 1 = cdb 1 &&& 0x01 := rfl
  refine ⟨?_, ?_, rfl⟩
  · have hand : cdb 1 &&& 0x01 &&& 1 = cdb 1 &&& 1 := by
      rw [UInt8.and_assoc, UInt8.and_self]
    rw [fixedBlock, fixedBlock, hbit, hand]
  · have hand : cdb 1 &&& 0x01 &&& 2 = 0 := by
      rw [UInt8.and_assoc]
      exact UInt8.and_zero
    rw [sili, hbit, hand]
    rfl

/-- It reads as many blocks of that size. -/
theorem ssc_read_6_readForm : ssc_read_6 L d (readForm cdb) =
    complete_read_6 L d.declare_ssc_vars (readForm cdb) (opcode_6_params d cdb).2
      (opcode_6_params d cdb).1 := by
  obtain ⟨hfixed, hsili, hlen⟩ := @readForm_spec cdb
  have hparams : opcode_6_params d.declare_ssc_vars (readForm cdb) = opcode_6_params d cdb := by
    unfold opcode_6_params
    rw [hfixed, hlen]
    rfl
  unfold ssc_read_6
  dsimp only
  rw [hparams, hsili, if_neg (fun hno => Bool.false_ne_true hno.1)]

/-- VERIFY(6) of blocks goes through the loop of READ(6). -/
theorem verify_6_blocks (hvte : cdb 1 &&& 0x20 = 0) (hvbf : vbf cdb = false) :
    verify_6_sent L d cdb = complete_read_6 L d.declare_ssc_vars cdb (opcode_6_params d cdb).2
      (opcode_6_params d cdb).1 := by
  have hbit : ¬cdb 1 &&& 0x08 ≠ 0 := of_decide_eq_false hvbf
  unfold verify_6_sent
  dsimp only
  rw [if_neg (not_not_intro hvte), if_neg hbit]
  rfl

/-- VERIFY(6) of filemarks looks for as many, with either setting of the FIXED bit. -/
theorem verify_6_marks (hvte : cdb 1 &&& 0x20 = 0) (hvbf : vbf cdb = true) :
    verify_6_sent L d cdb = some ([], d.declare_ssc_vars.onCart fun c =>
      (c.position_filemarks_forw (be24 cdb 2)).2) := by
  have hbit : cdb 1 &&& 0x08 ≠ 0 := of_decide_eq_true hvbf
  have hcount : (if fixedBlock cdb then ((opcode_6_params d.declare_ssc_vars cdb).1 : ℤ)
      else (opcode_6_params d.declare_ssc_vars cdb).2) = be24 cdb 2 := by
    unfold opcode_6_params
    split <;> rfl
  unfold verify_6_sent
  dsimp only
  rw [if_neg (not_not_intro hvte), if_pos hbit, hcount]
  simp [resp_space]

/-- Looking for some filemarks does what it is to do, and looking for none does right behind a
filemark. -/
theorem verify_6_marks_iff (h : At d.cart p l i) (hl : l.length < 2 ^ 32)
    (hvte : cdb 1 &&& 0x20 = 0) (hvbf : vbf cdb = true) :
    (∃ r, verify_6_sent L d cdb = some r ∧ Verifies L d cdb p i l r) ↔ MarksFine cdb i l := by
  have hat := at_declared h
  have hgood : d.declare_ssc_vars.cart.status.sam_stat = SAM_STAT_GOOD := rfl
  have hzero := position_filemarks_forw_zero_iff hat hl hgood
  rw [verify_6_marks hvte hvbf]
  have hblocks : vbf cdb ≠ false := fun hno => Bool.false_ne_true (hno.symm.trans hvbf)
  by_cases hn : be24 cdb 2 = 0
  · constructor
    · rintro ⟨r, hr, hv⟩ -
      obtain rfl := Option.some.inj hr
      have hnothing := hv.nothing hn
      rw [hn] at hnothing
      exact hzero.mp hnothing
    · intro hfine
      refine ⟨_, rfl, rfl, fun _ => ?_, fun hno => absurd hno hblocks, fun _ hpos =>
        absurd hn (Nat.ne_of_gt hpos)⟩
      rw [hn]
      exact hzero.mpr (hfine hn)
  · have hlt := be24_lt cdb 2
    have hfits : FitsInformation (be24 cdb 2 - ((filemarksOf l).filter (i ≤ ·)).length) :=
      Or.inl (by omega)
    have hrests := position_filemarks_forw_rests (be24 cdb 2) hat hl (Nat.pos_of_ne_zero hn) (by omega)
    have hsat : Rest.saturated (skipForward Record.isFilemark l i (be24 cdb 2)) =
        skipForward Record.isFilemark l i (be24 cdb 2) := by
      have hmissing : (skipForward Record.isFilemark l i (be24 cdb 2)).missing ≤ be24 cdb 2 := by
        unfold skipForward
        dsimp only
        split <;> dsimp only <;> omega
      rw [Rest.saturated, Nat.min_eq_left (by omega)]
    have hsays := (skip_forward_iff hgood).mpr hfits
    rw [hsat] at hsays
    exact iff_of_true ⟨_, rfl, rfl, fun hno => absurd hno hn, fun hno => absurd hno hblocks, fun _ _ =>
      (left_iff hat hrests _).mpr ⟨rfl, hsays⟩⟩ (fun hno => absurd hno hn)

/-- Without a cartridge with data VERIFY(6) is refused as READ(6) is. -/
theorem verify_6_refused_iff (hmount : ¬ReadAdmitted d) (hvte : cdb 1 &&& 0x20 = 0)
    (hvbf : vbf cdb = false) :
    (∃ r, verify_6_sent L d cdb = some r ∧ Verifies L d cdb p i l r) ↔ BlocksFine L d cdb := by
  have hnot : ¬ReadAdmitted d.declare_ssc_vars := hmount
  obtain ⟨st, hst, hrun⟩ := complete_read_6_refused (L := L) hnot
  have hmarks : vbf cdb ≠ true := fun hno => Bool.false_ne_true (hvbf.symm.trans hno)
  rw [verify_6_blocks hvte hvbf, hrun]
  constructor
  · rintro ⟨r, hr, hv⟩
    obtain rfl := Option.some.inj hr
    have hsome : be24 cdb 2 ≠ 0 := by
      intro hn
      have hbad : SAM_STAT_CHECK_CONDITION = SAM_STAT_GOOD := hst.symm.trans (hv.nothing hn).2
      exact absurd hbad (by decide)
    exact ⟨fun hn => absurd hn hsome, fun hm => absurd hm hmount, fun hm => absurd hm hmount,
      fun hm => absurd hm hmount⟩
  · intro hfine
    refine ⟨_, rfl, rfl, fun hn => absurd (hfine.mounted hn) hmount, fun _ => ⟨_, ?_, rfl, rfl⟩,
      fun hno => absurd hno hmarks⟩
    rw [ssc_read_6_readForm, hrun]

/-- With one it does what it is to do just when nothing is sent, and when the keys agree if there is
nothing to verify. -/
theorem verify_6_mounted_iff (h : At d.cart p l i) (hmount : ReadAdmitted d)
    (hvte : cdb 1 &&& 0x20 = 0) (hvbf : vbf cdb = false) :
    (∃ r, verify_6_sent L d cdb = some r ∧ Verifies L d cdb p i l r) ↔ BlocksFine L d cdb := by
  have hmount' : ReadAdmitted d.declare_ssc_vars := hmount
  have hmarks : vbf cdb ≠ true := fun hno => Bool.false_ne_true (hvbf.symm.trans hno)
  have hread : ssc_read_6 L d (readForm cdb) = readBlocks L (readForm cdb) (opcode_6_params d cdb).2
      (opcode_6_params d cdb).1 d.declare_ssc_vars := by
    rw [ssc_read_6_readForm, complete_read_6_mounted hmount']
    rfl
  have hrun : verify_6_sent L d cdb = readBlocks L cdb (opcode_6_params d cdb).2
      (opcode_6_params d cdb).1 d.declare_ssc_vars := by
    rw [verify_6_blocks hvte hvbf, complete_read_6_mounted hmount']
    rfl
  rw [hrun]
  rcases hcount : (opcode_6_params d cdb).1 with - | n
  · -- a count of zero ends the loop at once
    rw [hcount] at hread
    refine iff_of_true ⟨([], d.declare_ssc_vars), rfl, rfl, fun _ => ⟨at_declared h, rfl⟩, fun _ =>
      ⟨_, hread, rfl, rfl⟩, fun hno => absurd hno hmarks⟩ ?_
    exact ⟨fun _ => hmount, fun _ hne => absurd hcount hne, fun _ hne => absurd hcount hne,
      fun _ hne => absurd hcount hne⟩
  have hone : fixedBlock cdb = true ∨ n = 0 := by
    by_cases hf : fixedBlock cdb = true
    · exact Or.inl hf
    · rw [opcode_6_params, if_neg hf] at hcount
      exact Or.inr (Nat.succ.inj hcount).symm
  have hvoid : be24 cdb 2 = 0 → fixedBlock cdb = false ∧ (opcode_6_params d cdb).2 = 0 := by
    intro hn
    by_cases hf : fixedBlock cdb = true
    · rw [opcode_6_params, if_pos hf, hn] at hcount
      cases hcount
    · rw [opcode_6_params, if_neg hf]
      exact ⟨Bool.eq_false_iff.mpr hf, hn⟩
  obtain ⟨hsilent, hsame⟩ := @readBlocks_silent L d.declare_ssc_vars cdb (opcode_6_params d cdb).2 n
    (readForm cdb) hone readForm_spec.1
  have hcheck := d.valid_encryption_blk_declared
  have hsurvives : d.declare_ssc_vars.valid_encryption_blk ≠ none ↔ d.valid_encryption_blk ≠ none := by
    rw [ne_eq, ← Option.map_eq_none_iff, hcheck, Option.map_eq_none_iff]
  rw [hsurvives, hcheck, Drive.checked_declare_ssc_vars] at hsilent
  constructor
  · rintro ⟨⟨bs, e⟩, hr, hv⟩
    obtain rfl : bs = [] := hv.silent
    obtain ⟨hsurvived, hquiet⟩ := hsilent.mp ⟨e, hr⟩
    refine ⟨fun _ => hmount, fun _ _ => hsurvived, fun _ _ hn => ?_, fun _ _ hpos hkey =>
      hquiet hkey hpos⟩
    rw [← hcheck]
    rcases hblk : d.declare_ssc_vars.valid_encryption_blk with - | ⟨ok, e'⟩
    · exact absurd hblk (hsurvives.mpr hsurvived)
    cases ok with
    | true => rfl
    | false =>
      simp only [readBlocks, hblk, Option.some.injEq, Prod.mk.injEq, true_and] at hr
      have hbad : SAM_STAT_CHECK_CONDITION = SAM_STAT_GOOD := by
        rw [← (hv.nothing hn).2, ← hr]
        rfl
      exact absurd hbad (by decide)
  · intro hfine
    have hne : (opcode_6_params d cdb).1 ≠ 0 := by
      rw [hcount]
      exact Nat.succ_ne_zero n
    obtain ⟨e, he⟩ := hsilent.mpr ⟨hfine.survived hmount hne, fun hkey hpos =>
      hfine.quiet hmount hne hpos hkey⟩
    refine ⟨([], e), he, rfl, fun hn => ?_, fun _ => ⟨([], e), ?_, rfl, rfl⟩, fun hno =>
      absurd hno hmarks⟩
    · obtain ⟨hf, hsz⟩ := hvoid hn
      have hn0 : n = 0 := hone.resolve_left (fun hno => Bool.false_ne_true (hf.symm.trans hno))
      have hpass := Drive.valid_encryption_blk_true (hcheck.trans (hfine.keys hmount hne hn))
      rw [hn0, readBlocks_passed hpass, if_neg (fun hno => Bool.false_ne_true (hf.symm.trans hno.2)),
        readOne, hsz, readBlock, if_pos rfl, Drive.checked_declare_ssc_vars] at he
      obtain rfl : d.declare_ssc_vars = e := congrArg Prod.snd (Option.some.inj he)
      exact ⟨at_declared h, rfl⟩
    · rw [hread, hcount, hsame e he, he]

/-- VERIFY(6) does what it is to do just when nothing is read that could be sent, and when it looks
for some filemark or stands right behind one. -/
theorem verify_6_iff (h : At d.cart p l i) (hl : l.length < 2 ^ 32) (hvte : cdb 1 &&& 0x20 = 0) :
    (verify_6_sent L d cdb).map (·.2) = ssc_verify_6 L d cdb ∧
      ((∃ r, verify_6_sent L d cdb = some r ∧ Verifies L d cdb p i l r) ↔
        if vbf cdb then MarksFine cdb i l else BlocksFine L d cdb) := by
  refine ⟨verify_6_sent_snd L d cdb, ?_⟩
  by_cases hvbf : vbf cdb = true
  · rw [if_pos hvbf]
    exact verify_6_marks_iff h hl hvte hvbf
  · rw [if_neg hvbf]
    have hblocks : vbf cdb = false := Bool.eq_false_iff.mpr hvbf
    by_cases hmount : ReadAdmitted d
    · exact verify_6_mounted_iff h hmount hvte hblocks
    · exact verify_6_refused_iff hmount hvte hblocks

end Commands

/-- VERIFY(6) of two blocks at a filemark ends there, and sends nothing. -/
theorem verify_6_markedDrive :
    (∃ r, verify_6_sent storedLibs markedDrive (readCdb 1 2) = some r ∧
      Verifies storedLibs markedDrive (readCdb 1 2) 0 0 [.filemark] r) ∧
    BlocksFine storedLibs markedDrive (readCdb 1 2) := by
  have hfine : BlocksFine storedLibs markedDrive (readCdb 1 2) := by
    have hsome : be24 (readCdb 1 2) 2 ≠ 0 := by decide
    have hmark : markedDrive.declare_ssc_vars.cart.c_pos.blk_type ≠ B_DATA := by decide +kernel
    have hcheck : markedDrive.valid_encryption_blk.isSome = true := by decide +kernel
    refine ⟨fun hn => absurd hn hsome, fun _ _ hno => ?_, fun _ _ hn => absurd hn hsome, fun _ _ _ _ hsent =>
      hmark hsent.1⟩
    rw [hno] at hcheck
    cases hcheck
  exact ⟨(verify_6_iff markedDrive_at (by decide) (by decide)).2.mpr hfine, hfine⟩

/-- VERIFY(6) of a block of one byte sends it. And verifying no filemark in front of one ends at the end
of the data. -/
theorem verify_6_sends :
    (verify_6_sent storedLibs plainDrive (readCdb 1 1)).map (·.1) = some [7] ∧
    (verify_6_sent storedLibs markedDrive (readCdb 8 0)).map (fun r =>
      (r.2.cart.c_pos.blk_number, r.2.cart.status)) = some (1, endMet (2 ^ 32 - 1)) ∧
    ¬∀ (L : Libs) (d : Drive) (cdb : Cdb) (p i : ℕ) (l : List Record), At d.cart p l i →
      l.length < 2 ^ 32 → cdb 1 &&& 0x20 = 0 →
        ∃ r, verify_6_sent L d cdb = some r ∧ Verifies L d cdb p i l r := by
  have hsends : (verify_6_sent storedLibs plainDrive (readCdb 1 1)).map (·.1) = some [7] := by
    decide +kernel
  refine ⟨hsends, by decide +kernel, fun hall => ?_⟩
  obtain ⟨r, hr, hv⟩ := hall storedLibs plainDrive (readCdb 1 1) 0 0 _ plainDrive_at (by decide) (by decide)
  rw [hr, Option.map_some, hv.silent] at hsends
  cases hsends

end Mhvtl.Ssc
