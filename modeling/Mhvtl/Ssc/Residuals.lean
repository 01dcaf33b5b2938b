import Mhvtl.Ssc.BlockOutcomes
import Mhvtl.Ssc.Reading

/-!
# What a WRITE(6) tells about its blocks

A write that is cut short is reported with information bytes of zero, whatever
is missing. So a FIXED write tells what was recorded when nothing is missing,
and a write of one variable block when its failure is not a silent one.
-/

namespace Mhvtl.Ssc

open Bytes Cart Store

/-- The write is let through to the blocks. -/
def Admitted (d : Drive) : Prop := ∃ e, check_restrictions d.declare_ssc_vars = some (true, e)

/-- The write is refused in front of the blocks. -/
def Refused (d : Drive) : Prop := ∃ e, check_restrictions d.declare_ssc_vars = some (false, e)

/-- How many data blocks a WRITE(6) adds to the medium. -/
def blocksRecorded (L : Libs) (d : Drive) (cdb : Cdb) (data : ℕ → UInt8) : ℕ :=
  match check_restrictions d.declare_ssc_vars with
  | some (true, _) =>
    blocksAdded L data (opcode_6_params d cdb).2 (opcode_6_params d cdb).1 (writeStart d)
  | _ => 0

/-- What the initiator is told by the state `d'` that WRITE(6) leaves. -/
structure Tells (L : Libs) (d : Drive) (cdb : Cdb) (data : ℕ → UInt8) (d' : Drive) : Prop where
  /-- A good status: every block was recorded. -/
  good : d'.sam_stat = SAM_STAT_GOOD → blocksRecorded L d cdb data = (opcode_6_params d cdb).1
  /-- A CHECK CONDITION from the blocks of a FIXED write: the information bytes count the
  blocks that are missing. -/
  residual : fixedBlock cdb = true → Admitted d → d'.sam_stat = SAM_STAT_CHECK_CONDITION →
    d'.cart.status.sense.valid = true ∧
      d'.cart.status.sense.information = (opcode_6_params d cdb).1 - blocksRecorded L d cdb data
  /-- The position is behind the blocks that were recorded. -/
  position : d'.cart.c_pos.blk_number = d.cart.c_pos.blk_number + blocksRecorded L d cdb data

/-- The writing of one block has a result. -/
def HasResult (L : Libs) (d : Drive) (sz : ℕ) : Prop :=
  ∃ cap, medium_partition_capacity L d d.cart.partition_id = some cap ∧
    (d.cart.current_tape_offset < cap → ¬(writeLbpMethod d ≠ 0 ∧ sz < 4))

/-- A block that is not recorded leaves a good status. -/
def FailsUnseen (L : Libs) (d : Drive) (data : ℕ → UInt8) (sz : ℕ) : Prop :=
  (∃ cap a, Reaches L d data sz cap a) ∧ (setup_crypto d).sam_stat = SAM_STAT_GOOD ∧
    ¬WordWrong L d data sz ∧ FailsSilently (setup_crypto d).cart

/-- When WRITE(6) tells what was recorded: it is refused; or it is a FIXED write whose
blocks all find what they need; or a variable one that does not fail unseen. -/
def TellsWhen (L : Libs) (d : Drive) (cdb : Cdb) (data : ℕ → UInt8) : Prop :=
  let count := (opcode_6_params d cdb).1
  let sz := (opcode_6_params d cdb).2
  let e := writeStart d
  Refused d ∨ Admitted d ∧
    if fixedBlock cdb then count = 0 ∨ ∃ cap stored, Uninterrupted L e data sz count cap stored
    else HasResult L e sz ∧ ¬FailsUnseen L e data sz

/-- A silent failure is a failure. -/
theorem not_recordable {c : Store} (h : FailsSilently c) : ¬Recordable c := by
  rintro ⟨-, -, hcut, hmax, hcalls⟩
  rcases h.2 with ⟨h2, -, -, -, hno⟩ | ⟨-, hlt⟩
  · have hne : c.c_pos.blk_type ≠ B_EOD := by
      intro heod
      rw [cutCalls, if_pos heod] at h2
      omega
    exact hno ⟨(hcut hne).2.2 h2, hcalls.mono (Nat.le_add_right _ _)⟩
  · omega

section Blocks

variable {L : Libs} {d : Drive} {data : ℕ → UInt8} {sz : ℕ}

/-- When the writing of a block has a result. -/
theorem writeBlock_isSome_iff : (∃ r, writeBlock L d data sz = some r) ↔ HasResult L d sz := by
  unfold HasResult writeBlock
  cases medium_partition_capacity L d d.cart.partition_id with
  | none =>
    refine iff_of_false ?_ ?_
    · rintro ⟨_, h⟩
      cases h
    · rintro ⟨_, h, -⟩
      cases h
  | some cap =>
    dsimp only
    by_cases hfull : cap ≤ d.cart.current_tape_offset
    · rw [if_pos hfull]
      exact iff_of_true ⟨_, rfl⟩ ⟨cap, rfl, fun hlt => by omega⟩
    · rw [if_neg hfull]
      by_cases hword : writeLbpMethod d ≠ 0 ∧ sz < 4
      · rw [if_pos hword]
        refine iff_of_false ?_ ?_
        · rintro ⟨_, h⟩
          cases h
        · rintro ⟨cap', hcap, hno⟩
          cases hcap
          exact hno (by omega) hword
      · rw [if_neg hword]
        have hone : ∀ w : ℕ × Drive, ∃ r, (if w.1 = 0 then some (0, w.2)
            else some (w.1, warnAndCount w.2 cap)) = some r := by
          intro w
          split
          · exact ⟨_, rfl⟩
          · exact ⟨_, rfl⟩
        exact iff_of_true (hone _) ⟨cap, rfl, fun _ => hword⟩

/-- A block is added, or a status is left, unless the write fails unseen. -/
theorem added_or_seen_iff {k : ℕ} {d' : Drive} (hnull : d.cart.mam.MediumType ≠ MEDIA_TYPE_NULL)
    (hrun : writeBlock L d data sz = some (k, d')) :
    (d'.sam_stat = SAM_STAT_GOOD → addsBlock L d data sz = true) ↔ ¬FailsUnseen L d data sz := by
  have hbad : ¬SAM_STAT_CHECK_CONDITION = SAM_STAT_GOOD := by decide
  rw [addsBlock_iff hnull]
  rcases writeBlock_cases hnull hrun with ⟨e, key, asc, -, rfl, -, hno⟩ | ⟨cap, a, hr, hatt⟩
  · refine iff_of_true (fun hg => absurd hg hbad) ?_
    rintro ⟨⟨cap, a, hr⟩, -⟩
    exact hno cap a hr
  · have hleft := write_tape_block_left (setup_crypto d).cart (writeChosen_some hnull hr.args 0).null
    by_cases hrec : Recordable (setup_crypto d).cart
    · exact iff_of_true (fun _ => ⟨cap, a, hr, hrec⟩) fun h => not_recordable h.2.2.2 hrec
    · have hfail : ((setup_crypto d).cart.write_tape_block a).1 ≠ 0 := fun h0 =>
        hrec (hleft.ok_iff.mp h0)
      have hadds : ¬∃ cap a, Reaches L d data sz cap a ∧ Recordable (setup_crypto d).cart := by
        rintro ⟨-, -, -, h⟩
        exact hrec h
      have hgood : d'.sam_stat = SAM_STAT_GOOD ↔ FailsUnseen L d data sz := by
        rw [hatt.good]
        rcases hleft.failed hfail with ⟨hsil, hst⟩ | ⟨hsil, hst⟩
        · rw [hst]
          exact ⟨fun h => ⟨⟨cap, a, hr⟩, h.1, h.2.1, hsil⟩,
            fun h => ⟨h.2.1, h.2.2.1, fun h0 => absurd h0 hfail⟩⟩
        · refine iff_of_false (fun h => ?_) fun h => hsil h.2.2.2
          rw [hst.sam_stat] at h
          exact hbad h.1
      rw [hgood]
      exact ⟨fun h hu => hadds (h hu), fun h hu => absurd hu h⟩

/-- The blocks of a write: the position moves over those that are added. -/
theorem writeBlocks_moves {n : ℕ} {d' : Drive} (hnull : d.cart.mam.MediumType ≠ MEDIA_TYPE_NULL)
    (hrep : Reported d.cart.status) (hrun : writeBlocks L data sz n d = some d') :
    d'.cart.c_pos.blk_number = d.cart.c_pos.blk_number + blocksAdded L data sz n d ∧
      Reported d'.cart.status := by
  induction n generalizing d with
  | zero =>
    cases hrun
    exact ⟨rfl, Or.inl rfl⟩
  | succ n ih =>
    unfold writeBlocks at hrun
    unfold blocksAdded
    cases hblk : writeBlock L d data sz with
    | none =>
      rw [hblk] at hrun
      cases hrun
    | some res =>
      obtain ⟨k, d₁⟩ := res
      rw [hblk] at hrun
      obtain ⟨hkept, hpos, hrep₁⟩ := writeBlock_moves hnull hblk
      dsimp only at hrun ⊢
      by_cases hgood : d₁.sam_stat = SAM_STAT_GOOD
      · rw [if_neg (not_not_intro hgood)] at hrun ⊢
        have hnull₁ : d₁.cart.mam.MediumType ≠ MEDIA_TYPE_NULL := by
          rw [hkept.type]
          exact hnull
        obtain ⟨hpos', hrep'⟩ := ih hnull₁ (hrep₁ hrep) hrun
        exact ⟨by omega, hrep'⟩
      · rw [if_pos hgood] at hrun ⊢
        cases hrun
        exact ⟨hpos, hrep₁ hrep⟩

/-- When all the blocks are added, the write has a result. -/
theorem writeBlocks_of_added {n : ℕ} (h : blocksAdded L data sz n d = n) :
    ∃ d', writeBlocks L data sz n d = some d' := by
  induction n generalizing d with
  | zero => exact ⟨_, rfl⟩
  | succ n ih =>
    unfold blocksAdded at h
    unfold writeBlocks
    cases hblk : writeBlock L d data sz with
    | none =>
      rw [hblk] at h
      exact absurd h (Nat.succ_ne_zero n).symm
    | some res =>
      rw [hblk] at h
      have hbool := Bool.toNat_le (addsBlock L d data sz)
      dsimp only at h ⊢
      by_cases hgood : res.2.sam_stat = SAM_STAT_GOOD
      · have hle := blocksAdded_le L data sz n res.2
        rw [if_neg (not_not_intro hgood)] at h ⊢
        exact ih (by omega)
      · rw [if_pos hgood]
        exact ⟨_, rfl⟩

/-- A write of one block ends as the block did. -/
theorem writeBlocks_one {k : ℕ} {d₁ : Drive} (hblk : writeBlock L d data sz = some (k, d₁)) :
    (if d₁.sam_stat ≠ SAM_STAT_GOOD then d₁ else d₁.returns SAM_STAT_GOOD).sam_stat = d₁.sam_stat ∧
      (blocksAdded L data sz 1 d = 1 ↔ addsBlock L d data sz = true) ∧
      writeBlocks L data sz 1 d =
        some (if d₁.sam_stat ≠ SAM_STAT_GOOD then d₁ else d₁.returns SAM_STAT_GOOD) := by
  refine ⟨?_, ?_, ?_⟩
  · by_cases hgood : d₁.sam_stat = SAM_STAT_GOOD
    · rw [if_neg (not_not_intro hgood), hgood]
      rfl
    · rw [if_pos hgood]
  · unfold blocksAdded
    rw [hblk]
    dsimp only [blocksAdded]
    rw [ite_self, Nat.add_zero]
    cases addsBlock L d data sz with
    | false => exact iff_of_false (fun h => Nat.zero_ne_one h) Bool.false_ne_true
    | true => exact iff_of_true rfl rfl
  · unfold writeBlocks
    rw [hblk]
    dsimp only [writeBlocks]
    split
    · rfl
    · rfl

/-- It has a result when the block has. -/
theorem writeBlocks_one_defined {d' : Drive} (h : writeBlocks L data sz 1 d = some d') :
    ∃ r, writeBlock L d data sz = some r := by
  unfold writeBlocks at h
  cases hblk : writeBlock L d data sz with
  | none =>
    rw [hblk] at h
    cases h
  | some r => exact ⟨r, rfl⟩

end Blocks

/-- Permission leaves nothing but itself, whatever the medium. -/
theorem check_restrictions_true {d d' : Drive} (h : check_restrictions d = some (true, d')) :
    d' = d.declare_ssc_vars.onCart fun c => { c with OK_to_write := true } := by
  have hgiven : ∀ e : Drive, e.cart.OK_to_write = true →
      e = e.onCart fun c => { c with OK_to_write := true } := by
    intro e he
    rw [Drive.onCart, ← he]
  unfold check_restrictions at h
  extract_lets d₀ allow refuse type d₁ at h
  have hrefuse : ∀ {e r : Drive} {st : Status}, refuse e st ≠ some (true, r) := by
    intro e r st hr
    simp only [refuse, Option.some.injEq, Prod.mk.injEq, Bool.false_eq_true, false_and] at hr
  split at h
  · cases h
  split at h
  · exact absurd h hrefuse
  split at h
  · exact absurd h hrefuse
  split at h
  · exact absurd h hrefuse
  split at h
  · cases h
    rfl
  split at h
  · exact absurd h hrefuse
  split at h
  · cases h
  · simp only [Option.some.injEq, Prod.mk.injEq] at h
    obtain ⟨hok, rfl⟩ := h
    have hd₁ : d₁.cart.OK_to_write = true →
        d₁ = d₀.onCart fun c => { c with OK_to_write := true } := by
      unfold d₁
      split
      · exact fun hf => absurd hf Bool.false_ne_true
      split
      · split
        · exact fun _ => rfl
        split
        · exact hgiven d₀
        · rename_i hno
          exact fun hf => absurd hf hno
      split
      · exact fun _ => rfl
      · exact fun hf => absurd hf Bool.false_ne_true
    exact hd₁ hok

/-- What WRITE(6) does: it crashes in front of the blocks, it is refused, or it turns to them. -/
theorem ssc_write_6_cases {L : Libs} {d : Drive} (cdb : Cdb) (data : ℕ → UInt8) :
    (¬Refused d ∧ ¬Admitted d ∧ ssc_write_6 L d cdb data = none) ∨
    (¬Admitted d ∧ Refused d ∧ blocksRecorded L d cdb data = 0 ∧ ∃ e, Beside d e ∧
      ssc_write_6 L d cdb data = some (e.returns SAM_STAT_CHECK_CONDITION)) ∨
    (¬Refused d ∧ Admitted d ∧
      ssc_write_6 L d cdb data =
        writeBlocks L data (opcode_6_params d cdb).2 (opcode_6_params d cdb).1 (writeStart d) ∧
      blocksRecorded L d cdb data =
        blocksAdded L data (opcode_6_params d cdb).2 (opcode_6_params d cdb).1 (writeStart d)) := by
  have hparams : opcode_6_params d.declare_ssc_vars cdb = opcode_6_params d cdb := rfl
  unfold Refused Admitted blocksRecorded ssc_write_6
  simp only [hparams]
  cases hcheck : check_restrictions d.declare_ssc_vars with
  | none =>
    refine Or.inl ⟨?_, ?_, rfl⟩
    · rintro ⟨_, h⟩
      cases h
    · rintro ⟨_, h⟩
      cases h
  | some res =>
    obtain ⟨b, e⟩ := res
    cases b with
    | false =>
      refine Or.inr (Or.inl ⟨?_, ⟨e, rfl⟩, rfl, e, ?_, rfl⟩)
      · rintro ⟨_, h⟩
        cases h
      · exact (Beside.returns d SAM_STAT_GOOD).trans (check_restrictions_beside hcheck)
    | true =>
      refine Or.inr (Or.inr ⟨?_, ⟨e, rfl⟩, ?_, rfl⟩)
      · rintro ⟨_, h⟩
        cases h
      · rw [check_restrictions_true hcheck]
        rfl

/-- The drive in front of the first block. -/
theorem writeStart_left (d : Drive) :
    Beside d (writeStart d) ∧ Reported (writeStart d).cart.status := by
  let e := d.declare_ssc_vars.onCart fun c => { c with OK_to_write := true }
  have he : Beside d e := (Beside.returns d SAM_STAT_GOOD).trans (Beside.permit _ true)
  exact ⟨he.trans (update_volume_change_reference_beside e),
    update_volume_change_reference_reported (d := e) (Or.inl rfl)⟩

section Told

variable {L : Libs} {d : Drive} {cdb : Cdb} {data : ℕ → UInt8}

/-- A write that is refused tells that nothing was recorded. -/
theorem tells_refused (hno : ¬Admitted d) (hzero : blocksRecorded L d cdb data = 0) {e : Drive}
    (he : Beside d e) : Tells L d cdb data (e.returns SAM_STAT_CHECK_CONDITION) := by
  have hbad : ¬SAM_STAT_CHECK_CONDITION = SAM_STAT_GOOD := by decide
  refine ⟨fun hg => absurd hg hbad, fun _ had => absurd had hno, ?_⟩
  rw [hzero]
  exact congrArg (·.hdr.blk_number) he.tape.raw_pos

/-- Information bytes of zero are right when no block is missing. -/
theorem residual_iff {s : Status} (hrep : Reported s) {r n : ℕ} (hle : r ≤ n) :
    ((s.sam_stat = SAM_STAT_GOOD → r = n) ∧ (s.sam_stat = SAM_STAT_CHECK_CONDITION →
      s.sense.valid = true ∧ s.sense.information = n - r)) ↔ r = n := by
  have hbad : ¬SAM_STAT_GOOD = SAM_STAT_CHECK_CONDITION := by decide
  rcases hrep with hgood | hres
  · constructor
    · exact fun h => h.1 hgood
    · exact fun h => ⟨fun _ => h, fun hc => absurd (hgood.symm.trans hc) hbad⟩
  · constructor
    · intro h
      have hinfo := (h.2 hres.sam_stat).2
      rw [hres.information] at hinfo
      omega
    · intro h
      refine ⟨fun _ => h, fun _ => ⟨hres.valid, ?_⟩⟩
      rw [hres.information]
      omega

/-- Of blocks whose number is counted, what is told depends on the status and on the residual. -/
theorem tells_blocks_iff {n sz : ℕ} {d' : Drive} {cdb : Cdb} {data : ℕ → UInt8}
    (hnull : (writeStart d).cart.mam.MediumType ≠ MEDIA_TYPE_NULL) (had : Admitted d)
    (hn : (opcode_6_params d cdb).1 = n)
    (hcount : blocksRecorded L d cdb data = blocksAdded L data sz n (writeStart d))
    (hd' : writeBlocks L data sz n (writeStart d) = some d') :
    Tells L d cdb data d' ↔
      (d'.sam_stat = SAM_STAT_GOOD → blocksAdded L data sz n (writeStart d) = n) ∧
        (fixedBlock cdb = true → d'.sam_stat = SAM_STAT_CHECK_CONDITION →
          d'.cart.status.sense.valid = true ∧
            d'.cart.status.sense.information = n - blocksAdded L data sz n (writeStart d)) := by
  obtain ⟨hstart, hrep⟩ := writeStart_left d
  have hpos : (writeStart d).cart.c_pos.blk_number = d.cart.c_pos.blk_number :=
    congrArg (·.hdr.blk_number) hstart.tape.raw_pos
  have hmove := (writeBlocks_moves hnull hrep hd').1
  rw [hpos, ← hcount] at hmove
  constructor
  · rintro ⟨hg, hr, -⟩
    rw [hcount, hn] at hg hr
    exact ⟨hg, fun hf hc => hr hf had hc⟩
  · rintro ⟨hg, hr⟩
    rw [← hcount, ← hn] at hg hr
    exact ⟨hg, fun hf _ hc => hr hf hc, hmove⟩

/-- WRITE(6) on a data medium tells the initiator what was recorded in exactly these cases. -/
theorem write_tells_iff (hdata : d.cart.mam.MediumType = MEDIA_TYPE_DATA) (cdb : Cdb)
    (data : ℕ → UInt8) :
    (∃ d', ssc_write_6 L d cdb data = some d' ∧ Tells L d cdb data d') ↔ TellsWhen L d cdb data := by
  obtain ⟨hstart, hrep⟩ := writeStart_left d
  have hnull : (writeStart d).cart.mam.MediumType ≠ MEDIA_TYPE_NULL := by
    rw [hstart.type, hdata]
    decide
  unfold TellsWhen
  rcases ssc_write_6_cases (L := L) (d := d) cdb data with ⟨hno, had, hrun⟩ | ⟨had, hno, hzero, e, he, hrun⟩ |
    ⟨hno, had, hrun, hcount⟩
  · refine iff_of_false ?_ ?_
    · rintro ⟨d', h, -⟩
      cases hrun.symm.trans h
    · rintro (h | h)
      · exact hno h
      · exact had h.1
  · exact iff_of_true ⟨_, hrun, tells_refused had hzero he⟩ (Or.inl hno)
  · rw [or_iff_right hno, and_iff_right had, hrun]
    generalize hn : (opcode_6_params d cdb).1 = n at hcount
    generalize (opcode_6_params d cdb).2 = sz at hcount
    cases hfixed : fixedBlock cdb with
    | true =>
      rw [if_pos rfl]
      have hall : (n = 0 ∨ ∃ cap stored, Uninterrupted L (writeStart d) data sz n cap stored) ↔
          blocksAdded L data sz n (writeStart d) = n := by
        cases n with
        | zero => exact iff_of_true (Or.inl rfl) rfl
        | succ n =>
          rw [blocksAdded_eq_iff hnull]
          exact ⟨fun h => h.resolve_left (Nat.succ_ne_zero n), Or.inr⟩
      have hle := blocksAdded_le L data sz n (writeStart d)
      rw [hall]
      constructor
      · rintro ⟨d', hd', ht⟩
        obtain ⟨hg, hr⟩ := (tells_blocks_iff hnull had hn hcount hd').mp ht
        exact (residual_iff (writeBlocks_moves hnull hrep hd').2 hle).mp ⟨hg, hr hfixed⟩
      · intro h
        obtain ⟨d', hd'⟩ := writeBlocks_of_added h
        obtain ⟨hg, hr⟩ := (residual_iff (writeBlocks_moves hnull hrep hd').2 hle).mpr h
        exact ⟨d', hd', (tells_blocks_iff hnull had hn hcount hd').mpr ⟨hg, fun _ => hr⟩⟩
    | false =>
      have hone : n = 1 := by
        rw [← hn, opcode_6_params, hfixed]
        rfl
      subst hone
      rw [if_neg Bool.false_ne_true]
      constructor
      · rintro ⟨d', hd', ht⟩
        obtain ⟨⟨k, d₁⟩, hblk⟩ := writeBlocks_one_defined hd'
        obtain ⟨hst, hadds, hrun'⟩ := writeBlocks_one hblk
        cases hrun'.symm.trans hd'
        refine ⟨writeBlock_isSome_iff.mp ⟨_, hblk⟩, (added_or_seen_iff hnull hblk).mp fun hg => ?_⟩
        rw [← hadds]
        exact ((tells_blocks_iff hnull had hn hcount hd').mp ht).1 (hst.trans hg)
      · rintro ⟨hres, hseen⟩
        obtain ⟨⟨k, d₁⟩, hblk⟩ := writeBlock_isSome_iff.mpr hres
        obtain ⟨hst, hadds, hrun'⟩ := writeBlocks_one hblk
        refine ⟨_, hrun', (tells_blocks_iff hnull had hn hcount hrun').mpr ⟨fun hg => ?_, fun hf => ?_⟩⟩
        · exact hadds.mpr ((added_or_seen_iff hnull hblk).mpr hseen (hst.symm.trans hg))
        · exact absurd (hfixed.symm.trans hf) Bool.false_ne_true

end Told

/-- WRITE(6) of so many FIXED blocks. -/
def fixedCdb (n : UInt8) : Cdb := readCdb 1 n

/-- With room for them, two blocks are told of. -/
theorem write_tells_room :
    ∃ d', ssc_write_6 storedLibs (oneByteBlocks emptyDrive) (fixedCdb 2) (fun _ => 7) = some d' ∧
      Tells storedLibs (oneByteBlocks emptyDrive) (fixedCdb 2) (fun _ => 7) d' := by
  refine (write_tells_iff (by decide) _ _).mpr (Or.inr ⟨⟨_, rfl⟩, ?_⟩)
  have hfixed : fixedBlock (fixedCdb 2) = true := by decide
  have hparams : opcode_6_params (oneByteBlocks emptyDrive) (fixedCdb 2) = (2, 1) := by decide +kernel
  rw [if_pos hfixed, hparams]
  have htwo : ¬2 < 2 := by decide
  refine Or.inr ⟨2 ^ 20, 1, by decide +kernel, by decide, by decide +kernel, ⟨⟨rfl, rfl⟩, ⟨rfl, rfl⟩⟩,
    fun hne => absurd rfl hne, by decide, by decide, okFor_nil _, fun _ => rfl, fun _ => ?_,
    fun _ _ => ?_, fun h => absurd h htwo⟩
  · unfold WordWrong
    decide +kernel
  · unfold Warns
    decide +kernel

/-- Distance of the early warning from the end of a partition. -/
def EARLY_WARNING_SZ : ℕ := 1024 * 1024 * 2

/-- A drive with blocks of one byte that warns from the start of a cartridge of a megabyte. -/
def warnedDrive : Drive :=
  { oneByteBlocks emptyDrive with early_warning_sz := EARLY_WARNING_SZ }

/-- The early warning behind the first of two blocks says that nothing is missing. -/
theorem early_warning_tells_nothing :
    ((ssc_write_6 storedLibs warnedDrive (fixedCdb 2) fun _ => 7).map fun d' =>
      (d'.cart.status, d'.cart.c_pos.blk_number)) = some (sam_no_sense SD_EOM E_EOM, 1) ∧
    blocksRecorded storedLibs warnedDrive (fixedCdb 2) (fun _ => 7) = 1 ∧
    ¬∃ d', ssc_write_6 storedLibs warnedDrive (fixedCdb 2) (fun _ => 7) = some d' ∧
      Tells storedLibs warnedDrive (fixedCdb 2) (fun _ => 7) d' := by
  have hrun : ((ssc_write_6 storedLibs warnedDrive (fixedCdb 2) fun _ => 7).map fun d' =>
      (d'.cart.status, d'.cart.c_pos.blk_number)) = some (sam_no_sense SD_EOM E_EOM, 1) := by
    decide +kernel
  have hone : blocksRecorded storedLibs warnedDrive (fixedCdb 2) (fun _ => 7) = 1 := by
    decide +kernel
  refine ⟨hrun, hone, ?_⟩
  rintro ⟨d', hd', ht⟩
  rw [hd', Option.map_some, Option.some.injEq, Prod.mk.injEq] at hrun
  have hinfo := (ht.residual (by decide) ⟨_, rfl⟩ (congrArg Status.sam_stat hrun.1)).2
  have hparams : (opcode_6_params warnedDrive (fixedCdb 2)).1 = 2 := by decide +kernel
  rw [hrun.1, hone, hparams] at hinfo
  cases hinfo

end Mhvtl.Ssc
