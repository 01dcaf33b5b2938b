import Mhvtl.Cart.Refinement

/-!
# Writes in which a host call fails

One of the `pwrite` and `ftruncate` calls of a write fails or writes short. Two
of the places are harmless: the first truncation of the indx file, and the write
of the block's data. There the call reports failure, keeps the records in front
of the position, and files, arrays and position still describe one tape.
-/

namespace Mhvtl.Cart

open Records Store

/-- The call that fails, and how. -/
structure Fault where
  /-- Host calls of the operation that succeed before it. -/
  index : ℕ
  /-- Its outcome. -/
  outcome : IoResult
  /-- It fails. -/
  bad : outcome ≠ .ok

/-- Outcomes of the host calls when at most one fails. -/
def schedule : Option Fault → List IoResult
  | none => []
  | some f => List.replicate f.index .ok ++ [f.outcome]

/-- The calls in front of the failing one succeed. -/
theorem okFor_schedule {n : ℕ} {f : Option Fault} (h : ∀ g, f = some g → n ≤ g.index) :
    OkFor n (schedule f) := by
  cases f with
  | none => exact okFor_nil n
  | some g =>
    intro r hr
    have hn := h g rfl
    rw [schedule, List.take_append_of_le_length (by rwa [List.length_replicate]),
      List.take_replicate] at hr
    exact List.eq_of_mem_replicate hr

/-- At its index the schedule fails, and nothing fails after it. -/
theorem schedule_drop (f : Fault) : (schedule (some f)).drop f.index = [f.outcome] := by
  rw [schedule, List.drop_left' List.length_replicate]

/-- Host calls of `check_for_overwrite` at the position. -/
def Store.cutCalls (c : Store) : ℕ :=
  if c.c_pos.blk_type = B_EOD then 0
  else match (c.filemarkMap c.partition_id).findIdx? (c.c_pos.blk_number ≤ ·) with
    | none => 2
    | some j => 2 + metaCalls j

/-- A failing host call is harmless when it is the first truncation of a write in
front of end of data, or the data write of a block, or when it is never reached. -/
def FaultSafe (c : Store) (f : Fault) : Op → Prop
  | .write_tape_block a =>
    (f.index = 0 ∧ c.c_pos.blk_type ≠ B_EOD) ∨
      (f.index = c.cutCalls ∧ a.null_media_type = false) ∨ c.cutCalls + blockCalls a ≤ f.index
  | .write_filemarks n =>
    n.toNat = 0 ∨ (f.index = 0 ∧ c.c_pos.blk_type ≠ B_EOD) ∨ c.cutCalls + 4 * n.toNat ≤ f.index
  | _ => False

/-- One admissible call; only writes meet a fault, and it is a harmless one. -/
def FaultStep (c : Store) (l : Op × Option Fault × Res) (c' : Store) : Prop :=
  Admissible c l.1 ∧ (∀ f, l.2.1 = some f → FaultSafe c f l.1) ∧
    l.1.run { c with io := schedule l.2.1 } = (l.2.2, c')

/-- A call makes a step when its result is the one named. -/
theorem FaultStep.of_result {c : Store} {op : Op} {f : Option Fault} {r : Res}
    (hadm : Admissible c op) (hsafe : ∀ g, f = some g → FaultSafe c g op)
    (h : (op.run { c with io := schedule f }).1 = r) :
    FaultStep c (op, f, r) (op.run { c with io := schedule f }).2 :=
  ⟨hadm, hsafe, Prod.ext h rfl⟩

/-- Host calls that a write makes when none fails. -/
def callsNeeded (t : Tape ℕ Record) : Op → ℕ
  | .write_tape_block a => overwriteCalls t.here t.pos + blockCalls a
  | .write_filemarks n => if n.toNat = 0 then 0 else overwriteCalls t.here t.pos + 4 * n.toNat
  | _ => 0

/-- The operation writes to the medium at the position. -/
def Op.isWrite : Op → Bool
  | .write_tape_block _ | .write_filemarks _ => true
  | _ => false

/-- The calls on the tape when host calls fail. A write whose failing call is not
reached does what it always does. One whose failing call is reached reports failure
and leaves the tape, or cuts it at the position. -/
inductive FaultTapeStep : Tape ℕ Record → Op × Option Fault × Res → Tape ℕ Record → Prop where
  | done {t t' : Tape ℕ Record} {op : Op} {r : Res} (f : Option Fault)
      (hf : ∀ g, f = some g → callsNeeded t op ≤ g.index) (h : TapeStep t (op, r) t') :
      FaultTapeStep t (op, f, r) t'
  | kept {t : Tape ℕ Record} {op : Op} (f : Fault) (hw : op.isWrite)
      (hf : f.index < callsNeeded t op) : FaultTapeStep t (op, some f, .rc (-1)) t
  | cut {t : Tape ℕ Record} {op : Op} (f : Fault) (hw : op.isWrite)
      (hf : f.index < callsNeeded t op) : FaultTapeStep t (op, some f, .rc (-1)) (t.write [])

/-- The schedule does not matter for what the store stands for. -/
theorem Holds.withIo {n : ℕ} {c : Store} {t : Tape ℕ Record} (h : Holds n c t)
    (io : List IoResult) : Holds n { c with io := io } t :=
  ⟨⟨h.here.rep, h.here.pos, h.here.le, h.here.fd, h.here.part_lt⟩, h.part_lt, h.n_le, h.rep,
    h.absent, h.bound⟩

/-- Neither does the status. -/
theorem Holds.withStatus {n : ℕ} {c : Store} {t : Tape ℕ Record} (h : Holds n c t) (st : Status) :
    Holds n { c with status := st } t :=
  ⟨⟨h.here.rep, h.here.pos, h.here.le, h.here.fd, h.here.part_lt⟩, h.part_lt, h.n_le, h.rep,
    h.absent, h.bound⟩

/-- The calls counted on the store are those counted on the records. -/
theorem cutCalls_eq {c : Store} {p i : ℕ} {l : List Record} (h : At c p l i) :
    c.cutCalls = overwriteCalls l i := by
  have hmap : c.filemarkMap p = filemarksOf l := h.rep.marks
  unfold Store.cutCalls overwriteCalls
  by_cases hend : l.length ≤ i
  · rw [if_pos (h.eod_iff.mpr hend), if_pos hend]
  · rw [if_neg (fun he => hend (h.eod_iff.mp he)), if_neg hend, h.partition_id, h.blk_number, hmap]
    have htake := marks_take Record.isFilemark l i
    have hlen : (filemarksOf (l.take i)).length = (filemarksOf l).findIdx (i ≤ ·) := by
      rw [filemarksOf, filemarksOf, htake, List.length_take, Nat.min_eq_left List.findIdx_le_length]
    rw [hlen]
    cases hfind : (filemarksOf l).findIdx? (i ≤ ·) with
    | none =>
      have hall := List.findIdx_eq_length.mpr (List.findIdx?_eq_none_iff.mp hfind)
      rw [if_pos hall]
    | some j =>
      obtain ⟨hj, hje⟩ := List.findIdx?_eq_some_iff_findIdx_eq.mp hfind
      rw [hje, if_neg (by omega)]

/-- A truncation that fails leaves the file. -/
theorem ftruncate_bad (c : Store) (k : FileKind) (p len : ℕ) {e : IoResult} {rest : List IoResult}
    (hio : c.io = e :: rest) (he : e ≠ .ok) :
    ∃ io, c.ftruncate k p len = (-1, { c with io := io }) := by
  unfold Store.ftruncate
  split
  · simp only [nextIo, hio, List.headD_cons, List.tail_cons]
    cases e with
    | ok => exact absurd rfl he
    | fail => exact ⟨rest, rfl⟩
    | short n => exact ⟨rest, rfl⟩
  · exact ⟨c.io, rfl⟩

/-- When the first truncation fails, nothing has happened. -/
theorem check_for_overwrite_refused {c : Store} {p i : ℕ} {l : List Record} (h : At c p l i)
    (hi : i < l.length) {e : IoResult} {rest : List IoResult} (hio : c.io = e :: rest)
    (he : e ≠ .ok) :
    ∃ io st, c.check_for_overwrite = (-1, { c with io := io, status := st }) := by
  have hne : c.c_pos.blk_type ≠ B_EOD := by
    rw [ne_eq, h.eod_iff]
    omega
  obtain ⟨io, ht⟩ :=
    ftruncate_bad c .indx c.partition_id (c.c_pos.blk_number * HEADER_SIZE) hio he
  refine ⟨io, sam_medium_error E_WRITE_ERROR, ?_⟩
  have hm1 : (-1 : ℤ) ≠ 0 := by decide
  simp only [check_for_overwrite, hne, if_false, ht, hm1, ne_eq, not_false_eq_true, if_true]

/-- Cutting the data file back to where the block started undoes the data write,
however much of it was done. -/
theorem DataRep.cut_back {l : List Record} {f : File} (h : DataRep l f) (bs : List UInt8) :
    DataRep l ((f.pwrite (offsetOf l l.length) bs).ftruncate (offsetOf l l.length)) where
  block i b hb := by
    obtain ⟨hi, hbl⟩ := List.getElem?_eq_some_iff.mp hb
    have hsucc := offsetOf_succ l hi
    rw [hbl] at hsucc
    have hle : offsetOf l i + b.bytes.length ≤ offsetOf l l.length :=
      Nat.le_trans (Nat.le_of_eq hsucc.symm) (offsetOf_mono l hi)
    exact ((h.block i b hb).pwrite_before hle).ftruncate hle
  size _ := File.ftruncate_size ..

/-- A write that fails puts some part of the bytes, possibly none, into the file. -/
theorem pwrite_bad (c : Store) {k : FileKind} {p : ℕ} {f : File} (bs : List UInt8) (off : ℕ)
    {e : IoResult} (hio : c.io = [e]) (he : e ≠ .ok) (hfd : c.fd k p = true)
    (hf : c.dir.file k p = some f) :
    ∃ (r : ℤ) (bs' : List UInt8), r ≠ bs.length ∧
      c.pwrite k p bs off = (r, c.putFile k p (f.pwrite off bs')) := by
  have hself : { c with io := c.io.tail } = c.putFile k p (f.pwrite off []) := by
    have hfile : (fun k' p' => if k' = k ∧ p' = p then some f else c.dir.file k' p') =
        c.dir.file := by
      funext k' p'
      split
      · rename_i hkp
        rw [hkp.1, hkp.2, hf]
      · rfl
    simp only [putFile, setFile, pwrite_nil_eq, hfile]
  have hneg : (-1 : ℤ) ≠ bs.length := by omega
  simp only [pwrite, hfd, hf, nextIo, hio, List.headD_cons]
  cases e with
  | ok => exact absurd rfl he
  | fail => exact ⟨-1, [], hneg, by rw [← hself, hio]⟩
  | short n =>
    by_cases hn : n < bs.length
    · refine ⟨n, bs.take n, by omega, ?_⟩
      simp only [hn, if_true, putFile, hio]
    · refine ⟨-1, [], hneg, ?_⟩
      simp only [hn, if_false]
      rw [← hself, hio]

/-- When the data write of a block fails, the tape ends in front of the block. -/
theorem write_tape_block_data_fault {c : Store} {p i : ℕ} {l : List Record} (h : At c p l i)
    (a : BlockArgs) (hnull : a.null_media_type = false) (hlen : i ≤ MAX_BLK_NUMBER) {f : Fault}
    (hio : c.io = schedule (some f)) (hf : f.index = overwriteCalls l i) :
    ∃ c', c.write_tape_block a = (-1, c') ∧ At c' p (l.take i) i ∧ Frame p c c' := by
  obtain ⟨c₁, hover, hin₁, hio₁, hd₁⟩ := check_for_overwrite_ok h.rep.toOnDisk h.pos h.opened h.le
    (by rw [hio]; exact okFor_schedule fun g hg => by cases hg; omega)
  have htake : (l.take i).length = i := List.length_take_of_le h.le
  have hp₁ : c₁.partition_id = p := hin₁.partition_id.trans h.partition_id
  have hblk₁ : c₁.c_pos.blk_number = i := by
    rw [c_pos, hin₁.raw_pos]
    exact h.blk_number
  have hoff₁ : c₁.raw_pos.data_offset = offsetOf (l.take i) (l.take i).length := by
    rw [hin₁.raw_pos, htake, offsetOf_take l (Nat.le_refl i)]
    exact h.data_offset
  obtain ⟨fi, hfi, hfir⟩ := hd₁.indx
  obtain ⟨fd, hfdt, hfdr⟩ := hd₁.data
  obtain ⟨fm, hfm, hfmr⟩ := hd₁.metaf
  let off := offsetOf (l.take i) (l.take i).length
  let hdr := Record.blockHeader a.info p i off a.disk_blk_size.toNat
  let c₂ := c₁.setRawPos hdr
  have hfd₂ : c₂.fd .data p = true := by
    change c₁.fd .data p = true
    rw [hin₁.fd]
    exact h.opened .data
  have hio₂ : c₂.io = [f.outcome] := by
    change c₁.io = _
    rw [hio₁, hio, ← hf, schedule_drop]
  obtain ⟨r, bs', hr, hw⟩ := pwrite_bad c₂ a.bytes off hio₂ f.bad hfd₂ hfdt
  let c₃ : Store := { c₂.putFile .data p (fd.pwrite off bs') with
    status := sam_medium_error E_WRITE_ERROR }
  have hio₃ : c₃.io = [] := by
    change c₂.io.tail = []
    rw [hio₂, List.tail_cons]
  have ht : c₃.ftruncate .data p off = (0, c₃.putFile .data p ((fd.pwrite off bs').ftruncate off)) :=
    ftruncate_ok c₃ off (by rw [hio₃]; rfl) hfd₂ (putFile_file_same c₂ ..)
  let c₄ := c₃.putFile .data p ((fd.pwrite off bs').ftruncate off)
  have hpart₄ : c₄.part p = (c₁.part p).setFile .data ((fd.pwrite off bs').ftruncate off) := by
    rw [putFile_part_same]
    change ((c₂.putFile .data p (fd.pwrite off bs')).part p).setFile .data _ = _
    rw [putFile_part_same, PartView.setFile_setFile]
    rfl
  have hd₄ : OnDisk p (c₄.part p) (l.take i) := by
    rw [hpart₄]
    refine ⟨⟨fi, ?_, hfir⟩, ⟨_, PartView.setFile_same .., hfdr.cut_back bs'⟩, ⟨fm, ?_, hfmr⟩,
      hd₁.marks⟩
    · rw [PartView.setFile_other _ _ (by decide)]
      exact hfi
    · rw [PartView.setFile_other _ _ (by decide)]
      exact hfm
  have hfr : Frame p c c₄ := by
    have h₂₃ : Frame p c₂ c₃ := (Inside.putFile c₂ .data p _).toFrame.trans (Frame.status p _ _)
    exact ((hin₁.toFrame.trans (Frame.setRawPos p c₁ hdr)).trans h₂₃).trans
      (Inside.putFile c₃ .data p _).toFrame
  have hp₄ : c₄.partition_id = p := rfl
  obtain ⟨c₅, hmk, hat, hfr₅, -⟩ := mkEODHeader_at hd₄ hp₄ (by
    rw [hfr.fd]
    exact h.fd) h.part_lt
  rw [htake] at hat
  refine ⟨c₅, ?_, hat, hfr.trans hfr₅⟩
  have hmax : ¬MAX_BLK_NUMBER < i := by omega
  have hr' : r ≠ (a.disk_blk_size.toNat : ℤ) := by rwa [a.bytes_length] at hr
  have hmk' : c₄.mkEODHeader i off = (0, c₅) := by
    rw [← hmk, htake]
    simp only [off, htake]
  simp only [write_tape_block, h.tape_loaded, Bool.not_true, Bool.false_eq_true, if_false, hover,
    ne_eq, not_true_eq_false, hp₁, hblk₁, hoff₁, hmax, hnull]
  rw [hw]
  simp only [hr', not_false_eq_true, if_true]
  change (-1, ((c₃.ftruncate .data p off).2.mkEODHeader i off).2) = (-1, c₅)
  rw [ht]
  change (-1, (c₄.mkEODHeader i off).2) = (-1, c₅)
  rw [hmk']

/-- A refused first truncation leaves a write where it was. -/
theorem write_refused {n : ℕ} {c : Store} {t : Tape ℕ Record} (h : Holds n c t) {op : Op}
    (hw : op.isWrite) (h0 : ∀ m, op = .write_filemarks m → m.toNat ≠ 0) {f : Fault}
    (hf : f.index = 0) (hne : c.c_pos.blk_type ≠ B_EOD) :
    ∃ c', op.run { c with io := schedule (some f) } = (.rc (-1), c') ∧ Holds n c' t := by
  have hh := h.withIo (schedule (some f))
  have hpos : t.pos < t.here.length := by
    have hle := mt h.here.eod_iff.mpr hne
    omega
  have hio : schedule (some f) = f.outcome :: [] := by
    rw [schedule, hf, List.replicate_zero, List.nil_append]
  obtain ⟨io, st, hr⟩ := check_for_overwrite_refused hh.here hpos hio f.bad
  have hm1 : (-1 : ℤ) ≠ 0 := by decide
  have hl := hh.here.tape_loaded
  refine ⟨_, ?_, (h.withIo io).withStatus st⟩
  cases op with
  | write_tape_block a =>
    simp only [Op.run, write_tape_block, hl, Bool.not_true, Bool.false_eq_true, if_false, hr, ne_eq,
      hm1, not_false_eq_true, if_true]
  | write_filemarks m =>
    simp only [Op.run, Store.write_filemarks, hl, Bool.not_true, Bool.false_eq_true, if_false,
      h0 m rfl, hr, ne_eq, hm1, not_false_eq_true, if_true]
  | _ => exact absurd hw Bool.false_ne_true

/-- A failing data write cuts the tape at the position. -/
theorem data_fault_holds {n : ℕ} {c : Store} {t : Tape ℕ Record} (h : Holds n c t) (a : BlockArgs)
    (hadm : Admissible c (.write_tape_block a)) (hnull : a.null_media_type = false) {f : Fault}
    (hf : f.index = overwriteCalls t.here t.pos) :
    ∃ c', Op.run { c with io := schedule (some f) } (.write_tape_block a) = (.rc (-1), c') ∧
      Holds n c' (t.write []) := by
  simp only [Admissible, h.here.blk_number] at hadm
  have hh := h.withIo (schedule (some f))
  obtain ⟨c', hw, hat, hfr⟩ := write_tape_block_data_fault hh.here a hnull (by omega) rfl hf
  refine ⟨c', by simp only [Op.run, hw], hh.of_frame hfr rfl
    (fun q hq => t.write_recs_other [] hq) ?_ ?_⟩
  · rw [Tape.write_here, List.append_nil]
    exact hat
  · rw [Tape.write_here, List.append_nil, List.length_take]
    have hb := h.bound t.part h.part_lt
    exact Nat.lt_of_le_of_lt (Nat.min_le_right _ _) hb

/-- A call whose failing host call is not reached works as if none failed. -/
theorem unreached_simulates {n : ℕ} {c : Store} {t : Tape ℕ Record} (h : Holds n c t) {op : Op}
    (hw : op.isWrite) (hadm : Admissible c op) (f : Fault) (hf : callsNeeded t op ≤ f.index) :
    ∃ r c' t', op.run { c with io := schedule (some f) } = (r, c') ∧ TapeStep t (op, r) t' ∧
      Holds n c' t' := by
  have hh := h.withIo (schedule (some f))
  have hok : OkFor (callsNeeded t op) (schedule (some f)) := okFor_schedule fun g hg => by
    cases hg
    exact hf
  cases op with
  | write_tape_block a =>
    simp only [Admissible, h.here.blk_number] at hadm
    obtain ⟨c₁, hrun, hwr⟩ := write_tape_block_ok hh.here a (by omega) hok
    exact ⟨_, c₁, _, by simp only [Op.run, hrun], .write_tape_block t a,
      hh.of_written hwr hadm⟩
  | write_filemarks m =>
    simp only [Admissible, h.here.blk_number, h.count_filemarks] at hadm
    by_cases h0 : m.toNat = 0
    · exact ⟨_, _, t, by simp only [Op.run, h0, write_filemarks_zero hh.here], .flush t m h0, hh⟩
    · simp only [callsNeeded, h0, if_false] at hok
      have hm : MAX_BLK_NUMBER = 4294967280 := rfl
      obtain ⟨c₁, hrun, hwr⟩ := write_filemarks_ok hh.here h0 (by omega) hadm.2 hok
      refine ⟨_, c₁, _, by simp only [Op.run, hrun], .write_filemarks t m h0,
        hh.of_written hwr ?_⟩
      rw [List.length_replicate]
      exact hadm.1
  | _ => exact absurd hw Bool.false_ne_true

/-- One call with at most one, harmless, failing host call. -/
theorem fault_step_simulates {n : ℕ} {c c' : Store} {t : Tape ℕ Record}
    {l : Op × Option Fault × Res} (h : Holds n c t) (hstep : FaultStep c l c') :
    ∃ t', FaultTapeStep t l t' ∧ Holds n c' t' := by
  obtain ⟨op, fault, res⟩ := l
  obtain ⟨hadm, hsafe, hrun⟩ := hstep
  have hcut := cutCalls_eq h.here
  cases fault with
  | none =>
    have hadm' : Admissible { c with io := [] } op := by
      cases op with
      | _ => exact hadm
    have hstep : Step { c with io := [] } (op, res) c' := ⟨hadm', hrun⟩
    obtain ⟨t', ht, hh', -⟩ := step_simulates (h.withIo []) rfl hstep
    exact ⟨t', .done none nofun ht, hh'⟩
  | some f =>
    have hs := hsafe f rfl
    have hw : op.isWrite := by
      cases op with
      | write_tape_block a => rfl
      | write_filemarks m => rfl
      | _ => exact absurd hs id
    -- a fault that is not reached, for either write
    have hdone : callsNeeded t op ≤ f.index → ∃ t', FaultTapeStep t (op, some f, res) t' ∧
        Holds n c' t' := by
      intro hge
      obtain ⟨r, c₁, t₁, hr, ht, hh'⟩ := unreached_simulates h hw hadm f hge
      rw [hr, Prod.mk.injEq] at hrun
      obtain ⟨rfl, rfl⟩ := hrun
      exact ⟨t₁, .done (some f) (fun g hg => by cases hg; exact hge) ht, hh'⟩
    by_cases hge : callsNeeded t op ≤ f.index
    · exact hdone hge
    have hlt : f.index < callsNeeded t op := Nat.lt_of_not_le hge
    have hkept : (∀ m, op = .write_filemarks m → m.toNat ≠ 0) → f.index = 0 →
        c.c_pos.blk_type ≠ B_EOD → ∃ t', FaultTapeStep t (op, some f, res) t' ∧ Holds n c' t' := by
      intro h0 hf0 hne
      obtain ⟨c₁, hr, hh'⟩ := write_refused h hw h0 hf0 hne
      rw [hr, Prod.mk.injEq] at hrun
      obtain ⟨rfl, rfl⟩ := hrun
      exact ⟨t, .kept f hw hlt, hh'⟩
    cases op with
    | write_tape_block a =>
      rcases hs with ⟨hf0, hne⟩ | ⟨hfc, hnull⟩ | hge'
      · exact hkept nofun hf0 hne
      · rw [hcut] at hfc
        obtain ⟨c₁, hr, hh'⟩ := data_fault_holds h a hadm hnull hfc
        rw [hr, Prod.mk.injEq] at hrun
        obtain ⟨rfl, rfl⟩ := hrun
        exact ⟨_, .cut f hw hlt, hh'⟩
      · rw [hcut] at hge'
        exact absurd hge' (by simp only [callsNeeded] at hlt; omega)
    | write_filemarks m =>
      have h0 : m.toNat ≠ 0 := by
        intro h0
        simp only [callsNeeded, h0, if_true] at hlt
        omega
      rcases hs with hz | ⟨hf0, hne⟩ | hge'
      · exact absurd hz h0
      · refine hkept (fun k hk => ?_) hf0 hne
        cases hk
        exact h0
      · rw [hcut] at hge'
        exact absurd hge' (by simp only [callsNeeded, h0, if_false] at hlt; omega)
    | _ => exact absurd hw Bool.false_ne_true

/-- In every run of calls whose failing host calls are all harmless, each write whose
failing call is reached reports failure and is atomic, and the store stands for a
tape throughout. -/
theorem faulty_runs_refine_tape {n : ℕ} {c c' : Store} {t : Tape ℕ Record}
    {ls : List (Op × Option Fault × Res)} (h : Holds n c t) (hrun : Run FaultStep c ls c') :
    ∃ t', Run FaultTapeStep t ls t' ∧ Holds n c' t' :=
  hrun.simulate (fun _ _ _ _ => fault_step_simulates) h

/-- A block written over the last one, and its data write failing. -/
theorem faulty_runs_refine_tape_oneByte :
    let f : Fault := ⟨0, .fail, nofun⟩
    let c₁ := (Op.run { emptyCartridge with io := schedule none } (.write_tape_block oneByte)).2
    ∃ t', Run FaultTapeStep ⟨fun _ => [], 0, 0, Nat.zero_le _⟩
      [(.write_tape_block oneByte, none, .rc 0), (.write_tape_block oneByte, some f, .rc (-1))] t' ∧
      Holds 1 (Op.run { c₁ with io := schedule (some f) } (.write_tape_block oneByte)).2 t' := by
  intro f c₁
  have hadm : Admissible c₁ (.write_tape_block oneByte) :=
    show c₁.c_pos.blk_number + 1 < MAX_BLK_NUMBER by decide +kernel
  have hsafe : FaultSafe c₁ f (.write_tape_block oneByte) :=
    Or.inr (Or.inl ⟨show 0 = c₁.cutCalls by decide +kernel, rfl⟩)
  have h₁ : FaultStep emptyCartridge (.write_tape_block oneByte, none, .rc 0) c₁ :=
    FaultStep.of_result (show 0 + 1 < MAX_BLK_NUMBER by decide) nofun (by decide +kernel)
  have h₂ : FaultStep c₁ (.write_tape_block oneByte, some f, .rc (-1))
      (Op.run { c₁ with io := schedule (some f) } (.write_tape_block oneByte)).2 :=
    FaultStep.of_result hadm (fun g hg => by cases hg; exact hsafe) (by decide +kernel)
  exact faulty_runs_refine_tape emptyCartridge_holds (.cons h₁ (.cons h₂ (.nil _)))

/-- When the index write of the second block fails, the clean-up cuts the first block
away: it reads before the write and not after it. -/
theorem index_fault_loses_block :
    let c := (emptyCartridge.write_tape_block oneByte).2
    let c' := Store.write_tape_block { c with io := [.ok, .fail] } oneByte
    (c.rewind_tape.2.read_tape_block 8).1 = some [7] ∧ c'.1 = -1 ∧
      (c'.2.rewind_tape.2.read_tape_block 8).1 = none := by
  decide +kernel

end Mhvtl.Cart
