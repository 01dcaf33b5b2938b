import Mhvtl.Lib.Run
import Mhvtl.Ssc.Volume

/-!
# Reading with the key

Runs of SECURITY PROTOCOL OUT, WRITE, positioning and READ on a mounted volume.
A READ is to look at the key of the block it stands in front of, and at nothing
else. The drive does so unless it has no key in use when it meets an encrypted
block, asks for the unauthenticated data of the block as well, or demands encryption
in front of a filemark or at end of data.
-/

namespace Mhvtl.Ssc

open Bytes Cart Store

/-- What the header of a recorded block says; a filemark is no block. -/
def recordInfo : Record → Option BlockInfo
  | .data b => some b.info
  | .blank info _ => some info
  | .filemark => none

/-- The block was recorded as encrypted. -/
def Encrypted (info : BlockInfo) : Prop := info.blk_flags &&& BLKHDR_FLG_ENCRYPTED ≠ 0

instance (info : BlockInfo) : Decidable (Encrypted info) := inferInstanceAs (Decidable (_ ≠ _))

/-- The key recorded with the block has the length and the bytes of `e`. -/
def SameKey (info : BlockInfo) (e : BoundedEncryption) : Prop :=
  info.blk_encryption_info.key_length = e.key_length ∧
    ∀ i : Fin ENCR_KEY_MAX_LEN, i.val < e.key_length.toNat →
      info.blk_encryption_info.key i = e.key i

/-- The unauthenticated data recorded with the block has the length and the bytes of `e`. -/
def SameUkad (info : BlockInfo) (e : BoundedEncryption) : Prop :=
  info.blk_encryption_info.ukad_length = e.ukad_length ∧
    ∀ i : Fin ENCR_KEY_MAX_LEN, i.val < e.ukad_length.toNat →
      info.blk_encryption_info.ukad i = e.ukad i

/-- The block is not to be read with the drive's decryption mode and key. -/
def Locked (d : Drive) (info : BlockInfo) : Prop :=
  (Encrypted info ∧ ¬(1 < d.DECRYPT_MODE ∧ SameKey info d.app_encryption_state)) ∨
    (¬Encrypted info ∧ d.DECRYPT_MODE = 2)

/-- The record of `l` that the drive stands in front of, when it is a block. -/
def blockHere (l : List Record) (d : Drive) : Option BlockInfo :=
  l[d.cart.c_pos.blk_number]?.bind recordInfo

/-- One block of a READ with no thought of encryption. -/
def readOne (L : Libs) (cdb : Cdb) (sz : ℕ) (d : Drive) : List UInt8 × Drive :=
  let d := d.checked
  readBlock L d sz (sili cdb) (if d.LBP_R then d.LBP_method else 0)

/-- The READ goes on behind the block. -/
def GoesOn (L : Libs) (cdb : Cdb) (sz : ℕ) (d : Drive) : Prop :=
  ¬((readOne L cdb sz d).1.length = 0 ∧ fixedBlock cdb = true)

/-- How a READ of some blocks of `l` is to end: as without encryption up to a block that is
locked, which is refused with DATA PROTECT and no data. -/
inductive ReadsByKey (L : Libs) (cdb : Cdb) (sz : ℕ) (l : List Record) :
    ℕ → Drive → List UInt8 × Drive → Prop where
  /-- No block is left. -/
  | done (d : Drive) : ReadsByKey L cdb sz l 0 d ([], d)
  /-- A locked block. -/
  | refused {count : ℕ} {d d' : Drive} {info : BlockInfo} (hb : blockHere l d = some info)
    (hl : Locked d info) (asc_ascq : ℕ) (hd' : d' = d.report (sam_data_protect asc_ascq)) :
    ReadsByKey L cdb sz l (count + 1) d ([], d')
  /-- No more is read behind it. -/
  | short {count : ℕ} {d : Drive} (hl : ∀ info, blockHere l d = some info → ¬Locked d info)
    (hs : ¬GoesOn L cdb sz d) :
    ReadsByKey L cdb sz l (count + 1) d
      ((readOne L cdb sz d).1, (readOne L cdb sz d).2.report
        ((readOne L cdb sz d).2.cart.status.withInformation (count + 1)))
  /-- The others follow. -/
  | more {count : ℕ} {d : Drive} {r : List UInt8 × Drive}
    (hl : ∀ info, blockHere l d = some info → ¬Locked d info) (hg : GoesOn L cdb sz d)
    (rest : ReadsByKey L cdb sz l count (readOne L cdb sz d).2 r) :
    ReadsByKey L cdb sz l (count + 1) d ((readOne L cdb sz d).1 ++ r.1, r.2)

/-- The places that such a READ comes to. -/
inductive ComesTo (L : Libs) (cdb : Cdb) (sz : ℕ) (l : List Record) : ℕ → Drive → Drive → Prop where
  /-- The first one. -/
  | here (count : ℕ) (d : Drive) : ComesTo L cdb sz l (count + 1) d d
  /-- Those behind it. -/
  | behind {count : ℕ} {d e : Drive} (hl : ∀ info, blockHere l d = some info → ¬Locked d info)
    (hg : GoesOn L cdb sz d) (rest : ComesTo L cdb sz l count (readOne L cdb sz d).2 e) :
    ComesTo L cdb sz l (count + 1) d e

/-- Where the drive judges by the key: the key is in use when an encrypted block is to be
decrypted, a drive that wants the unauthenticated data has it, and no encryption is demanded
where there is no block. -/
def Judges (l : List Record) (d : Drive) : Prop :=
  match blockHere l d with
  | some info => Encrypted info → 1 < d.DECRYPT_MODE → d.app_encr_info = true ∧
      (SameKey info d.app_encryption_state → d.pm.valid_encryption_blk ≠ .valid_encryption_blk →
        SameUkad info d.app_encryption_state)
  | none => d.DECRYPT_MODE ≠ 2

section OneBlock

variable {d : Drive} {p i : ℕ} {l : List Record}

/-- The head stands in front of what is there. -/
theorem blockHere_at (h : At d.cart p l i) : blockHere l d = l[i]?.bind recordInfo := by
  rw [blockHere, h.blk_number]

/-- The flags and key data of the position are those of the block, or clear. -/
theorem c_pos_here (h : At d.cart p l i) :
    match blockHere l d with
    | some info => d.cart.c_pos.blk_flags = info.blk_flags ∧
        d.cart.c_pos.blk_encryption_info = info.blk_encryption_info ∧ d.cart.c_pos.blk_type = B_DATA
    | none => d.cart.c_pos.blk_flags = 0 ∧
        (d.cart.c_pos.blk_type = B_FILEMARK ∨ d.cart.c_pos.blk_type = B_EOD) := by
  rw [blockHere_at h]
  by_cases hi : i < l.length
  · rw [c_pos, h.pos, headerAt_of_lt p hi, List.getElem?_eq_getElem hi]
    cases l[i] with
    | data b => exact ⟨rfl, rfl, rfl⟩
    | blank info n => exact ⟨rfl, rfl, rfl⟩
    | filemark => exact ⟨rfl, Or.inl rfl⟩
  · have hend : i = l.length := le_antisymm h.le (Nat.le_of_not_lt hi)
    rw [c_pos, h.pos, hend, headerAt_length, List.getElem?_eq_none (Nat.le_refl _)]
    exact ⟨rfl, Or.inr rfl⟩

/-- The comparison of the key. -/
theorem otherKey_iff (info : BlockInfo) (e : BoundedEncryption) :
    otherKey info.blk_encryption_info e = false ↔ SameKey info e := by
  rw [otherKey, decide_eq_false_iff_not, not_or, not_not, differs_iff, SameKey]
  refine and_congr_right fun hlen => ?_
  rw [hlen]

/-- And of the unauthenticated data. -/
theorem otherUkad_iff (info : BlockInfo) (e : BoundedEncryption) :
    otherUkad info.blk_encryption_info e = false ↔ SameUkad info e := by
  rw [otherUkad, decide_eq_false_iff_not, not_or, not_not, differs_iff, SameUkad]
  refine and_congr_right fun hlen => ?_
  rw [hlen]

/-- What a drive compares. -/
theorem KeyCheck.other_iff (k : KeyCheck) (info : BlockInfo) (e : BoundedEncryption) :
    k.other info.blk_encryption_info e = false ↔
      SameKey info e ∧ (k ≠ .valid_encryption_blk → SameUkad info e) := by
  have hboth : ((otherKey info.blk_encryption_info e || otherUkad info.blk_encryption_info e) =
      false) ↔ SameKey info e ∧ SameUkad info e := by
    rw [Bool.or_eq_false_iff, otherKey_iff, otherUkad_iff]
  cases k with
  | valid_encryption_blk =>
    simp only [KeyCheck.other, otherKey_iff, ne_eq, not_true_eq_false, false_implies, and_true]
  | valid_encryption_blk_t10k =>
    simpa only [KeyCheck.other, ne_eq, reduceCtorEq, not_false_eq_true, true_implies] using hboth
  | valid_encryption_blk_9840 =>
    simpa only [KeyCheck.other, ne_eq, reduceCtorEq, not_false_eq_true, true_implies] using hboth

/-- What the check says in front of a block. -/
theorem check_block (h : At d.cart p l i) {info : BlockInfo} (hb : blockHere l d = some info) :
    d.valid_encryption_blk.map Prod.fst =
      if Encrypted info then
        if 1 < d.DECRYPT_MODE then
          d.encryptp.map fun encr => !d.pm.valid_encryption_blk.other info.blk_encryption_info encr
        else some false
      else some (!decide (d.DECRYPT_MODE = 2)) := by
  have hpos := c_pos_here h
  rw [hb] at hpos
  obtain ⟨hflags, hkey, -⟩ := hpos
  rw [d.valid_encryption_blk_verdict, judgeBlock_verdict, hflags, hkey]
  rfl

/-- Where there is no block, encryption is demanded all the same. -/
theorem check_no_block (h : At d.cart p l i) (hb : blockHere l d = none) :
    d.valid_encryption_blk.map Prod.fst = some (!decide (d.DECRYPT_MODE = 2)) := by
  have hpos := c_pos_here h
  rw [hb] at hpos
  have hclear : ¬d.cart.c_pos.blk_flags &&& BLKHDR_FLG_ENCRYPTED ≠ 0 := by
    rw [hpos.1]
    decide
  rw [d.valid_encryption_blk_verdict, judgeBlock_verdict, if_neg hclear]

/-- A check that does not pass refuses with DATA PROTECT. -/
theorem check_refuses (h : d.valid_encryption_blk.map Prod.fst = some false) :
    ∃ asc_ascq, d.valid_encryption_blk = some (false, d.report (sam_data_protect asc_ascq)) := by
  rcases d.valid_encryption_blk_cases with hno | hno | hyes
  · rw [hno] at h
    cases h
  · exact hno
  · rw [hyes] at h
    cases h

/-- In front of an unlocked block, or of none, the check passes. -/
theorem check_unlocked (h : At d.cart p l i) (hj : Judges l d)
    (hl : ∀ info, blockHere l d = some info → ¬Locked d info) :
    d.valid_encryption_blk = some (true, d.checked) := by
  apply Drive.valid_encryption_blk_true
  unfold Judges at hj
  cases hb : blockHere l d with
  | none =>
    rw [hb] at hj
    rw [check_no_block h hb, decide_eq_false hj]
    rfl
  | some info =>
    rw [hb] at hj
    have hun := hl info hb
    rw [check_block h hb]
    by_cases henc : Encrypted info
    · have hopen : 1 < d.DECRYPT_MODE ∧ SameKey info d.app_encryption_state := by
        by_contra hn
        exact hun (Or.inl ⟨henc, hn⟩)
      obtain ⟨hinfo, hukad⟩ := hj henc hopen.1
      have hsame := (d.pm.valid_encryption_blk.other_iff info d.app_encryption_state).mpr
        ⟨hopen.2, hukad hopen.2⟩
      rw [if_pos henc, if_pos hopen.1, Drive.encryptp, if_pos hinfo, Option.map_some, hsame]
      rfl
    · have hmode : ¬d.DECRYPT_MODE = 2 := fun hm => hun (Or.inr ⟨henc, hm⟩)
      rw [if_neg henc, decide_eq_false hmode]
      rfl

/-- In front of a locked block it refuses. -/
theorem check_locked (h : At d.cart p l i) (hj : Judges l d) {info : BlockInfo}
    (hb : blockHere l d = some info) (hl : Locked d info) :
    ∃ asc_ascq, d.valid_encryption_blk = some (false, d.report (sam_data_protect asc_ascq)) := by
  apply check_refuses
  unfold Judges at hj
  rw [hb] at hj
  rw [check_block h hb]
  rcases hl with ⟨henc, hshut⟩ | ⟨henc, hmode⟩
  · rw [if_pos henc]
    by_cases hmode : 1 < d.DECRYPT_MODE
    · obtain ⟨hinfo, -⟩ := hj henc hmode
      have hother : d.pm.valid_encryption_blk.other info.blk_encryption_info
          d.app_encryption_state = true := by
        rw [← Bool.not_eq_false, KeyCheck.other_iff]
        exact fun hsame => hshut ⟨hmode, hsame.1⟩
      rw [if_pos hmode, Drive.encryptp, if_pos hinfo, Option.map_some, hother]
      rfl
    · rw [if_neg hmode]
  · rw [if_neg henc, decide_eq_true hmode]
    rfl

/-- Without a key in use nothing is checked: the drive reads through a null pointer. Where
there is no block, encryption is demanded all the same, and some drives refuse an unlocked
block for its unauthenticated data. -/
theorem check_misjudged (h : At d.cart p l i) (hj : ¬Judges l d) :
    d.valid_encryption_blk = none ∨
      (∀ info, blockHere l d = some info → ¬Locked d info) ∧
        ∃ asc_ascq, d.valid_encryption_blk = some (false, d.report (sam_data_protect asc_ascq)) := by
  unfold Judges at hj
  cases hb : blockHere l d with
  | none =>
    rw [hb] at hj
    refine Or.inr ⟨fun info hinfo => absurd hinfo (Option.some_ne_none info).symm, ?_⟩
    apply check_refuses
    rw [check_no_block h hb, decide_eq_true (not_not.mp hj)]
    rfl
  | some info =>
    rw [hb] at hj
    simp only [not_forall, not_and_or] at hj
    obtain ⟨henc, hmode, hbad⟩ := hj
    have hcheck := check_block h hb
    rw [if_pos henc, if_pos hmode] at hcheck
    by_cases hinfo : d.app_encr_info = true
    · obtain ⟨hkey, hstk, hukad⟩ := hbad.resolve_left (not_not.mpr hinfo)
      have hother : d.pm.valid_encryption_blk.other info.blk_encryption_info
          d.app_encryption_state = true := by
        rw [← Bool.not_eq_false, KeyCheck.other_iff]
        exact fun hsame => hukad (hsame.2 hstk)
      refine Or.inr ⟨?_, check_refuses ?_⟩
      · rintro info' hinfo'
        cases hinfo'
        rintro (⟨-, hshut⟩ | ⟨hclear, -⟩)
        · exact hshut ⟨hmode, hkey⟩
        · exact hclear henc
      · rw [hcheck, Drive.encryptp, if_pos hinfo, Option.map_some, hother]
        rfl
    · rw [Drive.encryptp, if_neg hinfo, Option.map_none, Option.map_eq_none_iff] at hcheck
      exact Or.inl hcheck

end OneBlock

/-- The status is not that of a block that was refused. -/
def Unrefused (c : Store) : Prop :=
  c.status.sam_stat = SAM_STAT_GOOD ∨ c.status.sense.key ≠ DATA_PROTECT

namespace Unrefused

variable {c : Store} {d : Drive}

/-- Another sense key. -/
theorem of_key (key : ℕ) (hne : key ≠ DATA_PROTECT) (h : c.status.sense.key = key) :
    Unrefused c :=
  Or.inr (h ▸ hne)

/-- So does a header that cannot be read. -/
theorem read_header (h : Unrefused c) (blk_number : ℕ) : Unrefused (c.read_header blk_number).2 := by
  unfold Store.read_header
  dsimp only
  split
  · exact h
  split
  · exact h
  split
  · exact of_key MEDIUM_ERROR (by decide) rfl
  split
  · exact of_key MEDIUM_ERROR (by decide) rfl
  · exact h

/-- A block of the data file. -/
theorem read_tape_block (h : Unrefused c) (buf_size : ℕ) :
    Unrefused (c.read_tape_block buf_size).2 := by
  have hmoved := h.read_header ((c.c_pos.blk_number + 1) % 2 ^ 32)
  unfold Store.read_tape_block Store.tape_loaded
  cases c.fd .data c.partition_id with
  | false => exact of_key NOT_READY (by decide) rfl
  | true =>
    simp only [if_true, Bool.not_true, Bool.false_eq_true, if_false]
    split
    · exact of_key BLANK_CHECK (by decide) rfl
    split
    · exact h
    split
    · exact h
    split
    · exact hmoved
    · exact hmoved

/-- A block that is stored compressed. -/
theorem uncompress_block (h : Unrefused d.cart) (decompress : List UInt8 → ℕ → Option (List UInt8)) :
    Unrefused (uncompress_block d decompress).2.cart := by
  have hread := h.read_tape_block d.cart.c_pos.disk_blk_size
  unfold Ssc.uncompress_block
  dsimp only
  split
  · exact of_key MEDIUM_ERROR (by decide) rfl
  split
  · exact of_key MEDIUM_ERROR (by decide) rfl
  split
  · exact of_key MEDIUM_ERROR (by decide) rfl
  · exact hread

/-- The content of a block, whichever way it is stored. -/
theorem readContent (h : Unrefused d.cart) (L : Libs) : Unrefused (readContent L d).2.cart := by
  have hread := h.read_tape_block d.cart.c_pos.blk_size.toNat
  unfold Ssc.readContent
  dsimp only
  split
  · exact h.uncompress_block L.lzo1x_decompress_safe
  split
  · exact h.uncompress_block L.uncompress
  split
  · exact hread
  · exact of_key MEDIUM_ERROR (by decide) rfl

/-- The length of a block is reported without a sense key. -/
theorem reportLength (h : Unrefused d.cart) (request_sz lbp_sz rc blk_size : ℕ) (sili : Bool) :
    Unrefused (reportLength d request_sz lbp_sz rc blk_size sili).cart := by
  unfold Ssc.reportLength
  split
  · exact of_key (NO_SENSE ||| SD_ILI) (by decide) rfl
  split
  · exact of_key (NO_SENSE ||| SD_ILI) (by decide) rfl
  · exact h

/-- Reading a block never refuses it. -/
theorem readBlock (h : Unrefused d.cart) (L : Libs) (request_sz : ℕ) (sili : Bool) (lbp_method : ℕ) :
    Unrefused (readBlock L d request_sz sili lbp_method).2.cart := by
  have hcontent := h.readContent L
  unfold Ssc.readBlock
  split
  · exact h
  extract_lets lbp_sz pos d₁ blk_size stored
  split
  · exact of_key (NO_SENSE ||| SD_FILEMARK) (by decide) rfl
  split
  · exact of_key BLANK_CHECK (by decide) rfl
  split
  · exact of_key MEDIUM_ERROR (by decide) rfl
  generalize Ssc.readContent L d = r at hcontent
  obtain ⟨content, d₂⟩ := r
  cases content with
  | none => exact hcontent
  | some content =>
    dsimp only
    split
    · exact of_key MEDIUM_ERROR (by decide) rfl
    split
    · exact of_key HARDWARE_ERROR (by decide) rfl
    · refine reportLength ?_ _ _ _ _ _
      exact hcontent

/-- Nor does the check in front of it when it passes. -/
theorem readOne (h : Unrefused d.cart) (L : Libs) (cdb : Cdb) (sz : ℕ) :
    Unrefused (readOne L cdb sz d).2.cart := by
  have hstart : Unrefused d.checked.cart := by
    rcases d.checked_eq with hd | hd
    · rw [hd]
      exact h
    · rw [hd]
      exact Or.inl rfl
  exact hstart.readBlock L sz (sili cdb) _

end Unrefused

section Blocks

variable {L : Libs} {cdb : Cdb} {sz n p : ℕ} {recs : ℕ → List Record}

/-- Reading one block keeps the partition open. -/
theorem readOne_at {d : Drive} {i : ℕ} (h : Mounted n d.cart recs) (hat : At d.cart p (recs p) i) :
    Mounted n (readOne L cdb sz d).2.cart recs ∧
      ∃ j, At (readOne L cdb sz d).2.cart p (recs p) j := by
  have hstart : HeadMoved n recs d d.checked := checked_moves h
  have hmoved : HeadMoved n recs d (readOne L cdb sz d).2 :=
    hstart.trans (readBlock_moves hstart.tape.mounted _ _ _)
  exact ⟨hmoved.tape.mounted, hmoved.tape.at_pos hat⟩

/-- A READ behind a check that passed. -/
theorem readBlocks_passed {count : ℕ} {d : Drive}
    (h : d.valid_encryption_blk = some (true, d.checked)) :
    readBlocks L cdb sz (count + 1) d =
      if (readOne L cdb sz d).1.length = 0 ∧ fixedBlock cdb = true then
        some ((readOne L cdb sz d).1, (readOne L cdb sz d).2.report
          ((readOne L cdb sz d).2.cart.status.withInformation (count + 1)))
      else (readBlocks L cdb sz count (readOne L cdb sz d).2).map
        fun r => ((readOne L cdb sz d).1 ++ r.1, r.2) := by
  simp only [readBlocks, h]
  rfl

/-- In front of a locked block such a READ ends, behind an open one it goes on or not. -/
theorem ReadsByKey.inv {count : ℕ} {d : Drive} {l : List Record} {r : List UInt8 × Drive}
    (h : ReadsByKey L cdb sz l (count + 1) d r)
    (hl : ∀ info, blockHere l d = some info → ¬Locked d info) :
    (¬GoesOn L cdb sz d ∧ r = ((readOne L cdb sz d).1, (readOne L cdb sz d).2.report
      ((readOne L cdb sz d).2.cart.status.withInformation (count + 1)))) ∨
    (GoesOn L cdb sz d ∧ ∃ r', r = ((readOne L cdb sz d).1 ++ r'.1, r'.2) ∧
      ReadsByKey L cdb sz l count (readOne L cdb sz d).2 r') := by
  cases h with
  | refused hb hlocked => exact absurd hlocked (hl _ hb)
  | short _ hs => exact Or.inl ⟨hs, rfl⟩
  | more _ hg rest => exact Or.inr ⟨hg, _, rfl, rest⟩

/-- A READ that is read by the key is judged by it in front of its first block. -/
theorem judges_first {count : ℕ} {d : Drive} {i : ℕ} {l : List Record} {r : List UInt8 × Drive}
    (hat : At d.cart p l i) (hun : Unrefused d.cart) (hcount : fixedBlock cdb = true ∨ count + 1 ≤ 1)
    (hrun : readBlocks L cdb sz (count + 1) d = some r)
    (hread : ReadsByKey L cdb sz l (count + 1) d r) : Judges l d := by
  by_contra hbad
  rcases check_misjudged hat hbad with hnone | ⟨hb, asc_ascq, hrefused⟩
  · simp only [readBlocks, hnone] at hrun
    exact absurd hrun (Option.some_ne_none r).symm
  · have hr : r = ([], d.report (sam_data_protect asc_ascq)) := by
      simp only [readBlocks, hrefused, Option.some.injEq] at hrun
      rw [← hrun]
      rfl
    -- the READ as it should be ends with the status of the block read
    have hends : r.2.cart.status.sam_stat = (readOne L cdb sz d).2.cart.status.sam_stat ∧
        r.2.cart.status.sense.key = (readOne L cdb sz d).2.cart.status.sense.key := by
      rcases hread.inv hb with ⟨-, rfl⟩ | ⟨hg, r', rfl, hrest⟩
      · exact ⟨rfl, rfl⟩
      · have hfixed : ¬fixedBlock cdb = true := by
          intro hf
          have hnil := congrArg Prod.fst hr
          rw [List.append_eq_nil_iff] at hnil
          exact hg ⟨by rw [hnil.1, List.length_nil], hf⟩
        obtain rfl : count = 0 := by
          rcases hcount with hf | hc
          · exact absurd hf hfixed
          · omega
        cases hrest with
        | done => exact ⟨rfl, rfl⟩
    rw [hr] at hends
    rcases hun.readOne L cdb sz with hgood | hkey
    · rw [hgood] at hends
      exact (by decide : ¬SAM_STAT_CHECK_CONDITION = SAM_STAT_GOOD) hends.1
    · exact hkey hends.2.symm

/-- The blocks of a READ are read by the key exactly when the drive judges by it wherever the
READ comes to. -/
theorem readBlocks_by_key {count : ℕ} {d : Drive} {i : ℕ} (h : Mounted n d.cart recs)
    (hat : At d.cart p (recs p) i) (hun : Unrefused d.cart)
    (hcount : fixedBlock cdb = true ∨ count ≤ 1) :
    (∃ r, readBlocks L cdb sz count d = some r ∧ ReadsByKey L cdb sz (recs p) count d r) ↔
      ∀ e, ComesTo L cdb sz (recs p) count d e → Judges (recs p) e := by
  induction count generalizing d i with
  | zero =>
    refine ⟨fun _ e he => ?_, fun _ => ⟨([], d), rfl, .done d⟩⟩
    cases he
  | succ count ih =>
    obtain ⟨hm, j, hat₁⟩ : Mounted n (readOne L cdb sz d).2.cart recs ∧
        ∃ j, At (readOne L cdb sz d).2.cart p (recs p) j := readOne_at h hat
    have hih := ih hm hat₁ (hun.readOne L cdb sz) (hcount.imp_right fun hc => Nat.le_of_succ_le hc)
    constructor
    · rintro ⟨r, hrun, hread⟩ e he
      have hhere := judges_first hat hun hcount hrun hread
      cases he with
      | here => exact hhere
      | behind hl hg rest =>
        rw [readBlocks_passed (check_unlocked hat hhere hl), if_neg hg] at hrun
        obtain ⟨r₁, hr₁, rfl⟩ := Option.map_eq_some_iff.mp hrun
        rcases hread.inv hl with ⟨hs, -⟩ | ⟨-, r', hr', hrest⟩
        · exact absurd hg hs
        · have heq : r₁ = r' := by
            rw [Prod.mk.injEq] at hr'
            exact Prod.ext (List.append_cancel_left hr'.1) hr'.2
          rw [heq] at hr₁
          exact hih.mp ⟨r', hr₁, hrest⟩ e rest
    · intro hall
      have hhere := hall d (.here count d)
      by_cases hl : ∃ info, blockHere (recs p) d = some info ∧ Locked d info
      · obtain ⟨info, hb, hlocked⟩ := hl
        obtain ⟨asc_ascq, hcheck⟩ := check_locked hat hhere hb hlocked
        refine ⟨([], d.report (sam_data_protect asc_ascq)), ?_, .refused hb hlocked asc_ascq rfl⟩
        simp only [readBlocks, hcheck]
        rfl
      · have hl' : ∀ info, blockHere (recs p) d = some info → ¬Locked d info :=
          fun info hb hlocked => hl ⟨info, hb, hlocked⟩
        have hcheck := check_unlocked hat hhere hl'
        by_cases hg : GoesOn L cdb sz d
        · obtain ⟨r, hr, hread⟩ := hih.mpr fun e he => hall e (.behind hl' hg he)
          refine ⟨_, ?_, .more hl' hg hread⟩
          rw [readBlocks_passed hcheck, if_neg hg, hr]
          rfl
        · refine ⟨_, ?_, .short hl' hg⟩
          rw [readBlocks_passed hcheck, if_pos (not_not.mp hg)]

end Blocks

/-- The commands that have to do with keys and blocks. -/
inductive KeyCommand where
  | security_protocol_out (cdb : Cdb) (buf : ℕ → UInt8)
  | write_6 (cdb : Cdb) (data : ℕ → UInt8)
  | rewind
  | space_6 (cdb : Cdb)
  | space_16 (cdb : Cdb)
  | locate (cdb : Cdb)
  | read_6 (cdb : Cdb)

/-- A command on a drive. -/
def KeyCommand.run (L : Libs) (update_encryption_mode : List ModePage → ℕ → List ModePage)
    (d : Drive) : KeyCommand → Option Drive
  | security_protocol_out cdb buf => ssc_spout update_encryption_mode d cdb buf
  | write_6 cdb data => ssc_write_6 L d cdb data
  | rewind => some (ssc_rewind d)
  | space_6 cdb => some (ssc_space_6 d cdb)
  | space_16 cdb => some (ssc_space_16 d cdb)
  | locate cdb => ssc_locate d cdb
  | read_6 cdb => (ssc_read_6 L d cdb).map Prod.snd

/-- A command that the drive survives. -/
def KeyStep (L : Libs) (update_encryption_mode : List ModePage → ℕ → List ModePage) (d : Drive)
    (c : KeyCommand) (d' : Drive) : Prop := c.run L update_encryption_mode d = some d'

/-- The block is as a WRITE of the drive records it: encrypted with the drive's key when the
encryption mode is 2, unless it is a label on an E06, and in the clear otherwise. -/
def RecordedBy (d : Drive) (info : BlockInfo) : Prop :=
  (Encrypted info ∧ d.ENCRYPT_MODE = 2 ∧ SameKey info d.app_encryption_state) ∨
    (¬Encrypted info ∧ (d.ENCRYPT_MODE ≠ 2 ∨ d.pm.valid_encryption_media = some .E06))

/-- The record was on the volume, or a WRITE of the run recorded it. -/
def ComesFrom (L : Libs) (upd : List ModePage → ℕ → List ModePage) (d₀ : Drive)
    (recs₀ : ℕ → List Record) (cs : List KeyCommand) (r : Record) : Prop :=
  (∃ q, r ∈ recs₀ q) ∨ ∃ pre cdb data post d₁ info, cs = pre ++ .write_6 cdb data :: post ∧
    Run (KeyStep L upd) d₀ pre d₁ ∧ recordInfo r = some info ∧ RecordedBy d₁ info

section Runs

variable {L : Libs} {upd : List ModePage → ℕ → List ModePage} {n : ℕ}

/-- What is written is recorded with the key. -/
theorem recordedBy_of_appends {d : Drive} {a : BlockArgs} {i : ℕ} (h : Appends d a i) :
    ∃ info, recordInfo (BlockArgs.record a) = some info ∧ RecordedBy d info := by
  refine ⟨a.info, ?_, ?_⟩
  · unfold BlockArgs.record
    split <;> rfl
  obtain ⟨-, -, -, hflag⟩ := info_flags a
  have hkey := info_encryption a
  have hsame : ∀ e : BoundedEncryption, a.encryptp = some e → SameKey a.info e := by
    intro e he
    rw [he] at hkey
    simp only [Option.map_some, Option.getD_some] at hkey
    rw [SameKey, hkey]
    exact ⟨rfl, fun j hj => if_pos hj⟩
  rcases h.key with hw | ⟨hE06, -, hoff⟩
  · unfold Drive.writeKey at hw
    by_cases hmode : d.ENCRYPT_MODE = 2
    · rw [if_pos hmode] at hw
      refine Or.inl ⟨hflag.mpr ?_, hmode, hsame _ hw⟩
      rw [hw, Option.isSome_some]
    · rw [if_neg hmode] at hw
      refine Or.inr ⟨fun he => ?_, Or.inl hmode⟩
      have hsome := hflag.mp he
      rw [hw] at hsome
      exact Bool.false_ne_true hsome
  · refine Or.inr ⟨fun he => ?_, Or.inr hE06⟩
    have hsome := hflag.mp he
    rw [hoff] at hsome
    exact Bool.false_ne_true hsome

/-- The records behind some blocks are those there were and the blocks. -/
theorem Appended.mem {d : Drive} {recs recs' : ℕ → List Record} (h : Appended L n d recs recs')
    {q : ℕ} {r : Record} (hr : r ∈ recs' q) :
    (∃ q', r ∈ recs q') ∨ ∃ info, recordInfo r = some info ∧ RecordedBy d info := by
  induction h with
  | nil recs => exact Or.inl ⟨q, hr⟩
  | @cons recs recs' p i a hf rest ih =>
    rcases ih hr with ⟨q', hq'⟩ | hnew
    · by_cases hqp : q' = p
      · subst hqp
        rw [Function.update_self, List.mem_append, List.mem_singleton] at hq'
        rcases hq' with hold | rfl
        · exact Or.inl ⟨q', List.mem_of_mem_take hold⟩
        · exact Or.inr (recordedBy_of_appends hf.block)
      · rw [Function.update_of_ne hqp] at hq'
        exact Or.inl ⟨q', hq'⟩
    · exact Or.inr hnew

/-- Every command keeps the volume mounted; only a WRITE adds records. -/
theorem KeyStep.mounted {d d' : Drive} {recs : ℕ → List Record} {c : KeyCommand}
    (h : Mounted n d.cart recs) (hs : KeyStep L upd d c d') :
    Mounted n d'.cart recs ∨ ∃ cdb data recs', c = .write_6 cdb data ∧ Mounted n d'.cart recs' ∧
      Appended L n d recs recs' := by
  unfold KeyStep KeyCommand.run at hs
  cases c with
  | security_protocol_out cdb buf => exact Or.inl (ssc_spout_mounted h hs)
  | write_6 cdb data =>
    obtain ⟨-, recs', happ, hm⟩ := ssc_write_6_left h hs
    exact Or.inr ⟨cdb, data, recs', rfl, hm, happ⟩
  | rewind =>
    cases hs
    exact Or.inl (ssc_rewind_moves h).tape.mounted
  | space_6 cdb =>
    cases hs
    exact Or.inl (space_moves h _ _).tape.mounted
  | space_16 cdb =>
    cases hs
    exact Or.inl (space_moves h _ _).tape.mounted
  | locate cdb => exact Or.inl (ssc_locate_keeps h hs).2
  | read_6 cdb =>
    obtain ⟨⟨bs, d₁⟩, hread, rfl⟩ := Option.map_eq_some_iff.mp hs
    exact Or.inl (ssc_read_6_moves h hread).tape.mounted

/-- A longer run comes from where a shorter one does. -/
theorem ComesFrom.concat {d₀ : Drive} {recs₀ : ℕ → List Record} {cs : List KeyCommand} {r : Record}
    (h : ComesFrom L upd d₀ recs₀ cs r) (c : KeyCommand) :
    ComesFrom L upd d₀ recs₀ (cs ++ [c]) r := by
  rcases h with hold | ⟨pre, cdb, data, post, d₁, info, rfl, hrun, hinfo, hby⟩
  · exact Or.inl hold
  · refine Or.inr ⟨pre, cdb, data, post ++ [c], d₁, info, ?_, hrun, hinfo, hby⟩
    rw [List.append_assoc, List.cons_append]

/-- The volume after a run, and where its records come from. -/
theorem run_mounted {d₀ d : Drive} {recs₀ : ℕ → List Record} {cs : List KeyCommand}
    (h : Mounted n d₀.cart recs₀) (hrun : Run (KeyStep L upd) d₀ cs d) :
    ∃ recs, Mounted n d.cart recs ∧ ∀ q, ∀ r ∈ recs q, ComesFrom L upd d₀ recs₀ cs r := by
  let I : Drive → List KeyCommand → Prop := fun d cs => Run (KeyStep L upd) d₀ cs d ∧
    ∃ recs, Mounted n d.cart recs ∧ ∀ q, ∀ r ∈ recs q, ComesFrom L upd d₀ recs₀ cs r
  have hstep : ∀ d cs c d', I d cs → KeyStep L upd d c d' → I d' (cs ++ [c]) := by
    rintro d cs c d' ⟨hcs, recs, hm, hfrom⟩ hs
    refine ⟨hcs.concat hs, ?_⟩
    rcases KeyStep.mounted hm hs with hm' | ⟨cdb, data, recs', rfl, hm', happ⟩
    · exact ⟨recs, hm', fun q r hr => (hfrom q r hr).concat c⟩
    · refine ⟨recs', hm', fun q r hr => ?_⟩
      rcases happ.mem hr with ⟨q', hq'⟩ | ⟨info, hinfo, hby⟩
      · exact (hfrom q' r hq').concat _
      · exact Or.inr ⟨cs, cdb, data, [], d, info, rfl, hcs, hinfo, hby⟩
  have hinit : I d₀ [] := ⟨Run.nil d₀, recs₀, h, fun q r hr => Or.inl ⟨q, hr⟩⟩
  exact (hrun.history hstep hinit).2

end Runs

/-- The READ gets as far as the medium. -/
structure ReachesMedium (d : Drive) (cdb : Cdb) : Prop where
  /-- A cartridge is mounted. -/
  loaded : d.load_status = TAPE_LOADED
  /-- It is not for cleaning. -/
  type : d.cart.mam.MediumType ≠ MEDIA_TYPE_CLEAN
  /-- The bits of the command block go together. -/
  bits : ¬(sili cdb = true ∧ fixedBlock cdb = true)

/-- Such a READ reads its blocks. -/
theorem ReachesMedium.read {d : Drive} {cdb : Cdb} (h : ReachesMedium d cdb) (L : Libs) :
    ssc_read_6 L d cdb = readBlocks L cdb (opcode_6_params d cdb).2 (opcode_6_params d cdb).1
      d.declare_ssc_vars := by
  have hloading : ¬TAPE_LOADED = TAPE_LOADING := by decide
  have hloaded : d.declare_ssc_vars.declare_ssc_vars.load_status = TAPE_LOADED := h.loaded
  have htype : ¬d.declare_ssc_vars.declare_ssc_vars.cart.mam.MediumType = MEDIA_TYPE_CLEAN := h.type
  unfold ssc_read_6 complete_read_6
  simp only [if_neg h.bits, hloaded, if_neg hloading, if_true, if_neg htype]
  rfl

/-- In every state that SECURITY PROTOCOL OUT, WRITE, positioning and READ lead to, the volume holds
the records it had and those written since, each encrypted with the key of its time or not at
all. A READ there reads by the keys of the blocks exactly when the drive judges by the key
wherever the READ comes to. -/
theorem blocks_read_by_their_keys (L : Libs) (upd : List ModePage → ℕ → List ModePage) {n : ℕ}
    {d₀ d : Drive} {recs₀ : ℕ → List Record} {cs : List KeyCommand} (h : Mounted n d₀.cart recs₀)
    (hrun : Run (KeyStep L upd) d₀ cs d) :
    ∃ recs, Mounted n d.cart recs ∧ (∀ q, ∀ r ∈ recs q, ComesFrom L upd d₀ recs₀ cs r) ∧
      ∀ (cdb : Cdb) (p i : ℕ), At d.cart p (recs p) i → ReachesMedium d cdb →
        ((∃ r, ssc_read_6 L d cdb = some r ∧
          ReadsByKey L cdb (opcode_6_params d cdb).2 (recs p) (opcode_6_params d cdb).1
            d.declare_ssc_vars r) ↔
        ∀ e, ComesTo L cdb (opcode_6_params d cdb).2 (recs p) (opcode_6_params d cdb).1
          d.declare_ssc_vars e → Judges (recs p) e) := by
  obtain ⟨recs, hm, hfrom⟩ := run_mounted h hrun
  refine ⟨recs, hm, hfrom, fun cdb p i hat hreach => ?_⟩
  have hstart : HeadMoved n recs d d.declare_ssc_vars := .returns hm SAM_STAT_GOOD
  have hat' : At d.declare_ssc_vars.cart p (recs p) i := At.congr hat rfl rfl rfl
  have hcount : fixedBlock cdb = true ∨ (opcode_6_params d cdb).1 ≤ 1 := by
    unfold opcode_6_params
    by_cases hf : fixedBlock cdb = true
    · exact Or.inl hf
    · rw [if_neg hf]
      exact Or.inr (Nat.le_refl 1)
  rw [hreach.read L]
  exact readBlocks_by_key hstart.tape.mounted hat' (Or.inl rfl) hcount

/-- A set data encryption page with the modes and a key of 32 equal bytes. -/
def keyPage (encryption decryption key : UInt8) : ℕ → UInt8
  | 1 => 0x10
  | 3 => 0x30
  | 6 => encryption
  | 7 => decryption
  | 8 => 1
  | 19 => 32
  | k => if 20 ≤ k then key else 0

/-- SECURITY PROTOCOL OUT for such a page. -/
def keyCdb : Cdb
  | 1 => TAPE_DATA_ENCRYPTION
  | 9 => 52
  | _ => 0

/-- Transfer of one block of one byte. -/
def oneByteCdb (k : ℕ) : UInt8 := if k = 4 then 1 else 0

/-- Two blocks, the first with the key and the second without encryption. -/
def keyedRun : List KeyCommand :=
  [.security_protocol_out keyCdb (keyPage 2 2 9), .write_6 oneByteCdb fun _ => 65,
    .security_protocol_out keyCdb (keyPage 0 3 9), .write_6 oneByteCdb fun _ => 66, .rewind]

/-- A drive behind some commands, for a personality that shows nothing in its pages. -/
def afterCommands (cs : List KeyCommand) : Drive :=
  (cs.foldlM (KeyCommand.run storedLibs fun l _ => l) emptyDrive).getD emptyDrive

/-- The open partition is the one the head is on. -/
theorem mounted_at {n p : ℕ} {c : Store} {recs : ℕ → List Record} (h : Mounted n c recs)
    (ho : c.fd .data p = true) : At c p (recs p) c.c_pos.blk_number := by
  rcases h.place with ⟨q, i, -, hat⟩ | ⟨hclosed, -⟩
  · obtain rfl : p = q := by
      rwa [hat.fd, decide_eq_true_eq] at ho
    rwa [hat.blk_number]
  · rw [hclosed] at ho
    cases ho

/-- A drive in front of a block. -/
theorem blockHere_data {d : Drive} {p i : ℕ} {l : List Record} (h : At d.cart p l i)
    (hdata : d.cart.c_pos.blk_type = B_DATA) :
    ∃ info, blockHere l d = some info ∧ d.cart.c_pos.blk_flags = info.blk_flags := by
  have hpos := c_pos_here h
  cases hb : blockHere l d with
  | none =>
    rw [hb, hdata] at hpos
    exact absurd hpos.2 (by decide)
  | some info =>
    rw [hb] at hpos
    exact ⟨info, rfl, hpos.1⟩

/-- A drive in front of a block that has lost its key. -/
theorem not_judges_data {d : Drive} {p i : ℕ} {l : List Record} (h : At d.cart p l i)
    (hdata : d.cart.c_pos.blk_type = B_DATA)
    (hflags : d.cart.c_pos.blk_flags &&& BLKHDR_FLG_ENCRYPTED ≠ 0) (hmode : 1 < d.DECRYPT_MODE)
    (hoff : d.app_encr_info = false) : ¬Judges l d.declare_ssc_vars := by
  have hat : At d.declare_ssc_vars.cart p l i := At.congr h rfl rfl rfl
  obtain ⟨info, hb, hinfo⟩ := blockHere_data hat hdata
  unfold Judges
  rw [hb]
  intro hj
  have henc : d.declare_ssc_vars.cart.c_pos.blk_flags &&& BLKHDR_FLG_ENCRYPTED ≠ 0 := hflags
  rw [hinfo] at henc
  exact Bool.false_ne_true (hoff.symm.trans (hj henc hmode).1)

/-- A drive in front of a block that has its key, with the check of most drives. -/
theorem judges_data {d : Drive} {p i : ℕ} {l : List Record} (h : At d.cart p l i)
    (hdata : d.cart.c_pos.blk_type = B_DATA) (hon : d.app_encr_info = true)
    (hplain : d.pm.valid_encryption_blk = .valid_encryption_blk) :
    Judges l d.declare_ssc_vars := by
  have hat : At d.declare_ssc_vars.cart p l i := At.congr h rfl rfl rfl
  obtain ⟨info, hb, -⟩ := blockHere_data hat hdata
  unfold Judges
  rw [hb]
  exact fun _ _ => ⟨hon, fun _ hstk => absurd hplain hstk⟩

/-- A run that the drive survives. -/
theorem afterCommands_run (cs : List KeyCommand)
    (h : (cs.foldlM (KeyCommand.run storedLibs fun l _ => l) emptyDrive).isSome = true) :
    Run (KeyStep storedLibs fun l _ => l) emptyDrive cs (afterCommands cs) := by
  apply Run.of_foldlM
  obtain ⟨d, hd⟩ := Option.isSome_iff_exists.mp h
  rw [afterCommands, hd]
  rfl

/-- The first of those blocks alone. -/
def readableRun : List KeyCommand :=
  [.security_protocol_out keyCdb (keyPage 2 2 9), .write_6 oneByteCdb fun _ => 65, .rewind]

/-- The drive survives them, and the empty volume has become one of two blocks. The first one is
not read by its key then, as it is before the second is written. -/
theorem blocks_read_by_their_keys_keyedRun :
    (∃ recs, Mounted 1 (afterCommands keyedRun).cart recs ∧
      (∀ r ∈ recs 0, ComesFrom storedLibs (fun l _ => l) emptyDrive (fun _ => []) keyedRun r) ∧
      ¬∃ r, ssc_read_6 storedLibs (afterCommands keyedRun) oneByteCdb = some r ∧
        ReadsByKey storedLibs oneByteCdb 1 (recs 0) 1 (afterCommands keyedRun).declare_ssc_vars r) ∧
    ∃ recs, Mounted 1 (afterCommands readableRun).cart recs ∧
      ∃ r, ssc_read_6 storedLibs (afterCommands readableRun) oneByteCdb = some r ∧
        ReadsByKey storedLibs oneByteCdb 1 (recs 0) 1
          (afterCommands readableRun).declare_ssc_vars r := by
  have hparams : ∀ d, opcode_6_params d oneByteCdb = (1, 1) := fun _ => rfl
  constructor
  · have hrun := afterCommands_run keyedRun (by decide +kernel)
    obtain ⟨recs, hm, hfrom, hread⟩ := blocks_read_by_their_keys storedLibs (fun l _ => l)
      emptyDrive_mounted hrun
    have hat : At (afterCommands keyedRun).cart 0 (recs 0)
        (afterCommands keyedRun).cart.c_pos.blk_number := mounted_at hm (by decide +kernel)
    refine ⟨recs, hm, hfrom 0, ?_⟩
    have hiff := hread oneByteCdb 0 _ hat ⟨by decide +kernel, by decide +kernel, by decide⟩
    rw [hparams] at hiff
    rw [hiff]
    intro hall
    refine not_judges_data hat ?_ ?_ ?_ ?_ (hall _ (.here 0 _))
    · decide +kernel
    · decide +kernel
    · decide +kernel
    · decide +kernel
  · have hrun := afterCommands_run readableRun (by decide +kernel)
    obtain ⟨recs, hm, -, hread⟩ := blocks_read_by_their_keys storedLibs (fun l _ => l)
      emptyDrive_mounted hrun
    have hat : At (afterCommands readableRun).cart 0 (recs 0)
        (afterCommands readableRun).cart.c_pos.blk_number := mounted_at hm (by decide +kernel)
    refine ⟨recs, hm, ?_⟩
    have hiff := hread oneByteCdb 0 _ hat ⟨by decide +kernel, by decide +kernel, by decide⟩
    rw [hparams] at hiff
    refine hiff.mpr fun e he => ?_
    cases he with
    | here =>
      refine judges_data hat ?_ ?_ ?_
      · decide +kernel
      · decide +kernel
      · decide +kernel
    | behind hl hg rest => cases rest

/-- The same page with unauthenticated data of one byte behind the key. -/
def ukadPage (ukad : UInt8) : ℕ → UInt8
  | 55 => 1
  | 56 => ukad
  | k => if 52 ≤ k then 0 else keyPage 2 2 9 k

/-- SECURITY PROTOCOL OUT for such a page. -/
def ukadCdb : Cdb
  | 9 => 57
  | k => keyCdb k

/-- A block with the key, and the same key with other unauthenticated data afterwards. -/
def ukadRun : List KeyCommand :=
  [.security_protocol_out ukadCdb (ukadPage 1), .write_6 oneByteCdb fun _ => 65,
    .security_protocol_out ukadCdb (ukadPage 2), .rewind]

/-- The empty tape in a drive that wants the unauthenticated data back. -/
def stkDrive : Drive :=
  { emptyDrive with pm := { emptyDrive.pm with valid_encryption_blk := .valid_encryption_blk_t10k } }

/-- The first block of that run has the drive's key and is to be decrypted. The drive cannot read
it: the write in the clear left it without a key in use. Where the decryption mode is 2, a READ at
end of data is refused for the missing encryption instead of reporting the end of data. Some drives
refuse a block that has their key for its unauthenticated data. -/
theorem key_not_judged :
    let d := afterCommands keyedRun
    let demanding := afterCommands [.security_protocol_out keyCdb (keyPage 2 2 9)]
    let stk := (ukadRun.foldlM (KeyCommand.run storedLibs fun l _ => l) stkDrive).getD stkDrive
    (d.cart.c_pos.blk_type = B_DATA ∧ d.cart.c_pos.blk_flags &&& BLKHDR_FLG_ENCRYPTED ≠ 0 ∧
      1 < d.DECRYPT_MODE ∧
      d.cart.c_pos.blk_encryption_info.key_length = d.app_encryption_state.key_length ∧
      (∀ i : Fin ENCR_KEY_MAX_LEN,
        d.cart.c_pos.blk_encryption_info.key i = d.app_encryption_state.key i) ∧
      (ssc_read_6 storedLibs d oneByteCdb).isNone) ∧
    ((ssc_read_6 storedLibs demanding oneByteCdb).map fun r =>
      r.2.cart.status.sense.asc_ascq) = some E_UNENCRYPTED_DATA ∧
    ((ssc_read_6 storedLibs emptyDrive oneByteCdb).map fun r =>
      r.2.cart.status.sense.asc_ascq) = some E_END_OF_DATA ∧
    (stk.cart.c_pos.blk_type = B_DATA ∧ stk.cart.c_pos.blk_flags &&& BLKHDR_FLG_ENCRYPTED ≠ 0 ∧
      1 < stk.DECRYPT_MODE ∧
      stk.cart.c_pos.blk_encryption_info.key_length = stk.app_encryption_state.key_length ∧
      (∀ i : Fin ENCR_KEY_MAX_LEN,
        stk.cart.c_pos.blk_encryption_info.key i = stk.app_encryption_state.key i) ∧
      ((ssc_read_6 storedLibs stk oneByteCdb).map fun r =>
        r.2.cart.status.sense.asc_ascq) = some E_INCORRECT_KEY) := by
  decide +kernel

end Mhvtl.Ssc
