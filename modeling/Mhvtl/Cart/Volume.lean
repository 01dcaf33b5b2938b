import Mhvtl.Cart.Refinement

/-!
# A mounted volume

A volume keeps its records while the head moves over it, whatever partition a
command opens. After a switch to a partition that is not there no partition is
open, until another switch opens one.
-/

namespace Mhvtl.Cart

open Records Store

/-- The store holds a volume of `n` partitions with the records `recs`, and stands on one of
them or on none. -/
structure Mounted (n : ℕ) (c : Store) (recs : ℕ → List Record) : Prop where
  /-- The arrays have room for the partitions. -/
  n_le : n ≤ MAX_PARTITIONS
  /-- Every partition is represented. -/
  rep : ∀ q, q < n → Rep q (c.part q) (recs q)
  /-- There are no files of others. -/
  absent : ∀ q, n ≤ q → ∀ k, c.dir.file k q = none
  /-- No block was written behind the largest block number. -/
  bound : ∀ q, q < n → (recs q).length ≤ MAX_BLK_NUMBER + 1
  /-- The open partition and the position. -/
  place : (∃ p i, p < n ∧ At c p (recs p) i) ∨
    (∀ k q, c.fd k q = false) ∧ c.partition_id < MAX_PARTITIONS
  /-- Every host call succeeds. -/
  io : c.io = []

/-- `c'` is the volume of `c` with the head elsewhere on the open partition. -/
structure Elsewhere (n : ℕ) (recs : ℕ → List Record) (c c' : Store) : Prop where
  /-- Only the position, the permission and the status differ. -/
  eq : ∃ raw ok st, c' = { c with raw_pos := raw, OK_to_write := ok, status := st }
  /-- The volume is mounted. -/
  mounted : Mounted n c' recs

/-- A volume that stands for a tape is mounted. -/
theorem Holds.mounted {n : ℕ} {c : Store} {t : Tape ℕ Record} (h : Holds n c t) (hio : c.io = []) :
    Mounted n c t.recs where
  n_le := h.n_le
  rep := h.rep
  absent := h.absent
  bound q hq := by
    have hb := h.bound q hq
    omega
  place := Or.inl ⟨t.part, t.pos, h.part_lt, h.here⟩
  io := hio

namespace Elsewhere

variable {n : ℕ} {recs : ℕ → List Record} {a b c : Store}

/-- One move after another. -/
theorem trans (h : Elsewhere n recs a b) (h' : Elsewhere n recs b c) : Elsewhere n recs a c where
  eq := by
    obtain ⟨raw, ok, st, rfl⟩ := h.eq
    obtain ⟨raw', ok', st', rfl⟩ := h'.eq
    exact ⟨raw', ok', st', rfl⟩
  mounted := h'.mounted

/-- The attributes stay. -/
theorem mam (h : Elsewhere n recs a b) : b.mam = a.mam := by
  obtain ⟨raw, ok, st, rfl⟩ := h.eq
  rfl

/-- The partition stays open. -/
theorem at_pos (h : Elsewhere n recs a b) {p i : ℕ} (hat : At a p (recs p) i) :
    ∃ j, At b p (recs p) j := by
  have hfd : ∀ k q, b.fd k q = decide (q = p) := by
    obtain ⟨raw, ok, st, rfl⟩ := h.eq
    exact hat.fd
  rcases h.mounted.place with ⟨q, j, hq, hat'⟩ | ⟨hclosed, -⟩
  · have hqp : q = p := by
      have ho := hat'.opened .data
      rwa [hfd, decide_eq_true_eq] at ho
    subst hqp
    exact ⟨j, hat'⟩
  · have ho := hfd .data p
    rw [hclosed, decide_eq_true rfl] at ho
    exact absurd ho Bool.false_ne_true

end Elsewhere

/-- Reading a header changes the position, the permission and the status only. -/
theorem read_header_only (c : Store) (j : ℕ) : ∃ raw ok st,
    (c.read_header j).2 = { c with raw_pos := raw, OK_to_write := ok, status := st } := by
  unfold Store.read_header
  dsimp only
  split
  · exact ⟨_, _, _, rfl⟩
  · split
    · simp only [mkEODHeader, Function.update_eq_self]
      exact ⟨_, _, _, rfl⟩
    · split
      · exact ⟨_, _, _, rfl⟩
      · split <;> exact ⟨_, _, _, rfl⟩

/-- Switching partitions changes what is open as well. -/
theorem change_partition_only (c : Store) (q : ℕ) : ∃ raw ok st fd, (c.change_partition q).2 =
    { c with raw_pos := raw, OK_to_write := ok, status := st, fd := fd } := by
  obtain ⟨raw, ok, st, heq⟩ :=
    read_header_only (((c.close_partition c.partition_id).setPartition q).open_partition q).2 0
  simp only [Store.change_partition]
  rw [heq]
  exact ⟨_, _, _, _, rfl⟩

/-- What is open then: the files of the partition that exist. -/
theorem change_partition_fd (c : Store) (q : ℕ) (k : FileKind) (r : ℕ) :
    (c.change_partition q).2.fd k r = if r = q then (c.dir.file k q).isSome
      else if r = c.partition_id then false else c.fd k r := by
  obtain ⟨raw, ok, st, heq⟩ :=
    read_header_only (((c.close_partition c.partition_id).setPartition q).open_partition q).2 0
  simp only [Store.change_partition]
  rw [heq]
  rfl

/-- Without the index file no other partition is taken from a header. -/
theorem read_header_closed {c : Store} (h : c.fd .indx c.partition_id = false) (j : ℕ) :
    (c.read_header j).2.partition_id = c.partition_id := by
  have hread : ∀ off m, c.pread .indx c.partition_id off m = none := by
    intro off m
    simp only [pread, h]
  unfold Store.read_header
  dsimp only
  split
  · rfl
  · split
    · rfl
    · rw [hread]
      rfl

/-- A partition that is not there is the current one all the same. -/
theorem change_partition_absent {c : Store} {q : ℕ} (h : ∀ k, c.dir.file k q = none) :
    (c.change_partition q).2.partition_id = q := by
  simp only [Store.change_partition]
  refine (read_header_closed ?_ 0).trans rfl
  refine (if_pos rfl).trans ?_
  change (c.dir.file .indx q).isSome = false
  rw [h, Option.isSome_none]

namespace Mounted

variable {n : ℕ} {c : Store} {recs : ℕ → List Record}

/-- Block counts fit 32 bits. -/
theorem length_lt (h : Mounted n c recs) {q : ℕ} (hq : q < n) : (recs q).length < 2 ^ 32 := by
  have hb := h.bound q hq
  have hm : MAX_BLK_NUMBER = 4294967280 := rfl
  omega

/-- Files and arrays as they were, and a place for the head. -/
theorem elsewhere (h : Mounted n c recs) {raw : RawHeader} {ok : Bool} {st : Status}
    (hp : (∃ p i, p < n ∧ At { c with raw_pos := raw, OK_to_write := ok, status := st } p
      (recs p) i) ∨ (∀ k q, c.fd k q = false) ∧ raw.hdr.partition_id < MAX_PARTITIONS) :
    Elsewhere n recs c { c with raw_pos := raw, OK_to_write := ok, status := st } :=
  ⟨⟨raw, ok, st, rfl⟩, ⟨h.n_le, h.rep, h.absent, h.bound, hp, h.io⟩⟩

/-- The position stays, whatever the permission and the status become. -/
theorem settled (h : Mounted n c recs) (ok : Bool) (st : Status) :
    Elsewhere n recs c { c with OK_to_write := ok, status := st } := by
  apply h.elsewhere
  rcases h.place with ⟨p, i, hp, hat⟩ | hclosed
  · exact Or.inl ⟨p, i, hp, hat.rep, hat.pos, hat.le, hat.fd, hat.part_lt⟩
  · exact Or.inr hclosed

/-- Nothing happens. -/
theorem refl (h : Mounted n c recs) : Elsewhere n recs c c := h.settled c.OK_to_write c.status

/-- The status changes. -/
theorem report (h : Mounted n c recs) (st : Status) : Elsewhere n recs c { c with status := st } :=
  h.settled c.OK_to_write st

/-- The permission changes. -/
theorem permit (h : Mounted n c recs) (ok : Bool) : Elsewhere n recs c { c with OK_to_write := ok } :=
  h.settled ok c.status

/-- Losing the WORM permission. -/
theorem clearWormWrite (h : Mounted n c recs) : Elsewhere n recs c c.clearWormWrite := by
  unfold Store.clearWormWrite
  split
  · exact h.permit false
  · exact h.refl

/-- Reading a header puts it under the head, when there is one. -/
theorem read_header (h : Mounted n c recs) (j : ℕ) : Elsewhere n recs c (c.read_header j).2 := by
  rcases h.place with ⟨p, i, hp, hat⟩ | ⟨hclosed, hpart⟩
  · by_cases hj : j ≤ (recs p).length
    · rw [hat.read_header_eq (h.length_lt hp) hj]
      exact h.elsewhere (Or.inl ⟨p, j, hp, hat.rep, rfl, hj, hat.fd, hat.part_lt⟩)
    · have hbeyond : c.read_header j = (0, c) := by
        simp only [Store.read_header, hat.partition_id, hat.eod_blk, if_pos (Nat.lt_of_not_le hj)]
      rw [hbeyond]
      exact h.refl
  · have hread : ∀ k p off m, c.pread k p off m = none := by
      intro k p off m
      simp only [pread, hclosed]
    unfold Store.read_header
    dsimp only
    split
    · exact h.refl
    · split
      · simp only [mkEODHeader, Function.update_eq_self]
        exact h.elsewhere (Or.inr ⟨hclosed, hpart⟩)
      · rw [hread]
        exact h.report _

/-- Stopping short of what was asked. -/
theorem stopShort (h : Mounted n c recs) (s : Status) (residual : ℕ) :
    Elsewhere n recs c (c.stopShort s residual).2 := h.report _

/-- A tape is there, or not. -/
theorem tape_loaded_cases (h : Mounted n c recs) :
    (∃ c₁, c.tape_loaded = (false, c₁) ∧ Elsewhere n recs c c₁) ∨ c.tape_loaded = (true, c) := by
  unfold Store.tape_loaded
  split
  · exact Or.inr rfl
  · exact Or.inl ⟨_, rfl, h.report _⟩

/-- Going to a header and stopping there. -/
theorem read_stop (h : Mounted n c recs) (j : ℕ) (s : Status) (residual : ℕ) :
    Elsewhere n recs c (if (c.read_header j).1 ≠ 0 then ((-1 : ℤ), (c.read_header j).2)
      else (c.read_header j).2.stopShort s residual).2 := by
  have h₁ := h.read_header j
  split
  · exact h₁
  · exact h₁.trans (h₁.mounted.stopShort s residual)

/-- Going to the first block. -/
theorem rewind_tape (h : Mounted n c recs) : Elsewhere n recs c c.rewind_tape.2 := by
  rcases h.tape_loaded_cases with ⟨c₁, hl, h₁⟩ | hl
  · simp only [Store.rewind_tape, hl, Bool.not_false, if_true]
    exact h₁
  · have h₁ := h.read_header 0
    simp only [Store.rewind_tape, hl, Bool.not_true, Bool.false_eq_true, if_false]
    split
    · exact h₁
    · exact h₁.trans (h₁.mounted.permit _)

/-- Going to end of data. -/
theorem position_to_eod (h : Mounted n c recs) : Elsewhere n recs c c.position_to_eod.2 := by
  rcases h.tape_loaded_cases with ⟨c₁, hl, h₁⟩ | hl
  · simp only [Store.position_to_eod, hl, Bool.not_false, if_true]
    exact h₁
  · have h₁ := h.read_header (c.eod_blk_number c.partition_id)
    simp only [Store.position_to_eod, hl, Bool.not_true, Bool.false_eq_true, if_false]
    split
    · exact h₁
    · split
      · exact h₁.trans (h₁.mounted.permit _)
      · exact h₁

/-- Going to a block. -/
theorem position_to_block (h : Mounted n c recs) (blk_number : ℕ) :
    Elsewhere n recs c (c.position_to_block blk_number).2 := by
  rcases h.tape_loaded_cases with ⟨c₁, hl, h₁⟩ | hl
  · simp only [Store.position_to_block, hl, Bool.not_false, if_true]
    exact h₁
  · have h₁ := h.clearWormWrite
    simp only [Store.position_to_block, hl, Bool.not_true, Bool.false_eq_true, if_false]
    split
    · have h₂ := h₁.mounted.report (sam_blank_check E_END_OF_DATA)
      exact (h₁.trans h₂).trans h₂.mounted.position_to_eod
    · split
      · exact h₁.trans h₁.mounted.rewind_tape
      · exact h₁.trans (h₁.mounted.read_header _)

/-- Spacing over blocks. -/
theorem position_blocks_forw (h : Mounted n c recs) (count : ℕ) :
    Elsewhere n recs c (c.position_blocks_forw count).2 := by
  rcases h.tape_loaded_cases with ⟨c₁, hl, h₁⟩ | hl
  · simp only [Store.position_blocks_forw, hl, Bool.not_false, if_true]
    exact h₁
  · have h₁ := h.clearWormWrite
    simp only [Store.position_blocks_forw, hl, Bool.not_true, Bool.false_eq_true, if_false]
    split
    · split
      · exact h₁.trans (h₁.mounted.position_to_block _)
      · exact h₁.trans (h₁.mounted.read_stop _ _ _)
    · split
      · exact h₁.trans (h₁.mounted.read_stop _ _ _)
      · exact h₁.trans (h₁.mounted.position_to_block _)

/-- Spacing back over blocks. -/
theorem position_blocks_back (h : Mounted n c recs) (count : ℕ) :
    Elsewhere n recs c (c.position_blocks_back count).2 := by
  rcases h.tape_loaded_cases with ⟨c₁, hl, h₁⟩ | hl
  · simp only [Store.position_blocks_back, hl, Bool.not_false, if_true]
    exact h₁
  · have h₁ := h.clearWormWrite
    simp only [Store.position_blocks_back, hl, Bool.not_true, Bool.false_eq_true, if_false]
    split
    · split
      · exact h₁.trans (h₁.mounted.position_to_block _)
      · exact h₁.trans (h₁.mounted.read_stop _ _ _)
    · exact h₁.trans (h₁.mounted.position_to_block _)

/-- Spacing over filemarks. -/
theorem position_filemarks_forw (h : Mounted n c recs) (count : ℕ) :
    Elsewhere n recs c (c.position_filemarks_forw count).2 := by
  rcases h.tape_loaded_cases with ⟨c₁, hl, h₁⟩ | hl
  · simp only [Store.position_filemarks_forw, hl, Bool.not_false, if_true]
    exact h₁
  · have h₁ := h.clearWormWrite
    simp only [Store.position_filemarks_forw, hl, Bool.not_true, Bool.false_eq_true, if_false]
    split
    · exact h₁.trans (h₁.mounted.position_to_block _)
    · exact h₁.trans (h₁.mounted.read_stop _ _ _)

/-- Spacing back over filemarks. -/
theorem position_filemarks_back (h : Mounted n c recs) (count : ℕ) :
    Elsewhere n recs c (c.position_filemarks_back count).2 := by
  rcases h.tape_loaded_cases with ⟨c₁, hl, h₁⟩ | hl
  · simp only [Store.position_filemarks_back, hl, Bool.not_false, if_true]
    exact h₁
  · have h₁ := h.clearWormWrite
    simp only [Store.position_filemarks_back, hl, Bool.not_true, Bool.false_eq_true, if_false]
    split <;> split
    · exact h₁.trans (h₁.mounted.position_to_block _)
    · exact h₁.trans (h₁.mounted.read_stop _ _ _)
    · exact h₁.trans (h₁.mounted.position_to_block _)
    · exact h₁.trans (h₁.mounted.read_stop _ _ _)

/-- At most the current partition is open. -/
theorem open_here (h : Mounted n c recs) (k : FileKind) (r : ℕ) (ho : c.fd k r = true) :
    r = c.partition_id := by
  rcases h.place with ⟨p, i, hp, hat⟩ | ⟨hclosed, -⟩
  · rw [hat.fd, decide_eq_true_eq] at ho
    exact ho.trans hat.partition_id.symm
  · rw [hclosed] at ho
    exact absurd ho Bool.false_ne_true

/-- Switching opens the partition when it is there, and none when it is not. -/
theorem change_partition (h : Mounted n c recs) {q : ℕ} (hmax : q < MAX_PARTITIONS) :
    Mounted n (c.change_partition q).2 recs ∧
      (q < n → At (c.change_partition q).2 q (recs q) 0) := by
  obtain ⟨raw, ok, st, fd, heq⟩ := change_partition_only c q
  have hat : q < n → At (c.change_partition q).2 q (recs q) 0 := by
    intro hq
    have hlt : q < 2 ^ 32 := by
      have hn := h.n_le
      have hm : MAX_PARTITIONS = 4 := rfl
      omega
    obtain ⟨c', hw, hat, -⟩ := change_partition_opens h.open_here (h.rep q hq) hlt (h.length_lt hq)
    rw [hw]
    exact hat
  refine ⟨?_, hat⟩
  have hplace : (∃ p i, p < n ∧ At (c.change_partition q).2 p (recs p) i) ∨
      (∀ k r, (c.change_partition q).2.fd k r = false) ∧
        (c.change_partition q).2.partition_id < MAX_PARTITIONS := by
    by_cases hq : q < n
    · exact Or.inl ⟨q, 0, hq, hat hq⟩
    · have hgone : ∀ k, c.dir.file k q = none := fun k => h.absent q (Nat.le_of_not_lt hq) k
      refine Or.inr ⟨fun k r => ?_, (change_partition_absent hgone).symm ▸ hmax⟩
      rw [change_partition_fd]
      by_cases hrq : r = q
      · rw [if_pos hrq, h.absent q (Nat.le_of_not_lt hq), Option.isSome_none]
      · rw [if_neg hrq]
        by_cases hrp : r = c.partition_id
        · exact if_pos hrp
        · rw [if_neg hrp]
          exact Bool.eq_false_iff.mpr fun ho => hrp (h.open_here k r ho)
  rw [heq] at hplace ⊢
  exact ⟨h.n_le, h.rep, h.absent, h.bound, hplace, h.io⟩

/-- A read leaves the head at the record or behind it. -/
theorem read_tape_block (h : Mounted n c recs) (buf_size : ℕ) :
    Elsewhere n recs c (c.read_tape_block buf_size).2 := by
  rcases h.place with ⟨p, i, hp, hat⟩ | ⟨hclosed, -⟩
  · obtain ⟨j, ok, st, heq, hj, -⟩ := read_tape_block_moves hat (h.length_lt hp) buf_size
    rw [heq]
    exact h.elsewhere (Or.inl ⟨p, j, hp, hat.rep, rfl, hj, hat.fd, hat.part_lt⟩)
  · have hnone : c.tape_loaded = (false, { c with status := sam_not_ready E_MEDIUM_NOT_PRESENT }) := by
      simp only [Store.tape_loaded, hclosed, Bool.false_eq_true, if_false]
    simp only [Store.read_tape_block, hnone, Bool.not_false, if_true]
    exact h.report _

/-- New records behind the position. -/
theorem of_written (h : Mounted n c recs) {p calls : ℕ} {l : List Record} {c' : Store} (hp : p < n)
    (hw : Written c c' p l calls) (hl : l.length ≤ MAX_BLK_NUMBER + 1) :
    Mounted n c' (Function.update recs p l) where
  n_le := h.n_le
  rep q hq := by
    by_cases hqp : q = p
    · subst hqp
      rw [Function.update_self]
      exact hw.at_end.rep
    · rw [Function.update_of_ne hqp, hw.frame.part q hqp]
      exact h.rep q hq
  absent q hq k := by
    have hqp : q ≠ p := by omega
    exact (congrArg (fun v => v.file k) (hw.frame.part q hqp)).trans (h.absent q hq k)
  bound q hq := by
    by_cases hqp : q = p
    · subst hqp
      rwa [Function.update_self]
    · rw [Function.update_of_ne hqp]
      exact h.bound q hq
  place := by
    refine Or.inl ⟨p, l.length, hp, ?_⟩
    rw [Function.update_self]
    exact hw.at_end
  io := by rw [hw.io, h.io, List.drop_nil]

/-- A block is written behind the position, or nothing is. -/
theorem write_tape_block (h : Mounted n c recs) (a : BlockArgs) :
    ((c.write_tape_block a).1 = -1 ∧ Elsewhere n recs c (c.write_tape_block a).2) ∨
    ∃ p i calls, p < n ∧ At c p (recs p) i ∧ i ≤ MAX_BLK_NUMBER ∧ (c.write_tape_block a).1 = 0 ∧
      Written c (c.write_tape_block a).2 p ((recs p).take i ++ [BlockArgs.record a]) calls := by
  rcases h.place with ⟨p, i, hp, hat⟩ | ⟨hclosed, -⟩
  · by_cases hi : i ≤ MAX_BLK_NUMBER
    · have hio : OkFor (overwriteCalls (recs p) i + blockCalls a) c.io := by
        rw [h.io]
        exact okFor_nil _
      obtain ⟨c', hrun, hw⟩ := write_tape_block_ok hat a hi hio
      rw [hrun]
      exact Or.inr ⟨p, i, _, hp, hat, hi, rfl, hw⟩
    · -- the head stands behind the largest block number, which is the end of the data
      have hend : (recs p).length ≤ i := by
        have hb := h.bound p hp
        omega
      have hnot : c.check_for_overwrite = (0, c) := by
        simp only [check_for_overwrite, hat.eod_iff.mpr hend, if_true]
      have hrun : c.write_tape_block a = (-1, c) := by
        simp only [Store.write_tape_block, hat.tape_loaded, Bool.not_true, Bool.false_eq_true,
          if_false, hnot, ne_eq, not_true_eq_false, hat.blk_number, if_pos (Nat.lt_of_not_le hi)]
      rw [hrun]
      exact Or.inl ⟨rfl, h.refl⟩
  · have hnone : c.tape_loaded = (false, { c with status := sam_not_ready E_MEDIUM_NOT_PRESENT }) := by
      simp only [Store.tape_loaded, hclosed, Bool.false_eq_true, if_false]
    simp only [Store.write_tape_block, hnone, Bool.not_false, if_true]
    exact Or.inl ⟨trivial, h.report _⟩

end Mounted

section Recorded

variable {n : ℕ} {c : Store} {t : Tape ℕ Record}

/-- A block is recorded. -/
theorem Holds.block (h : Holds n c t) (hio : c.io = []) (a : BlockArgs)
    (hroom : t.pos + 1 < MAX_BLK_NUMBER) :
    Holds n (c.write_tape_block a).2 (t.write [BlockArgs.record a]) ∧
      (c.write_tape_block a).2.io = [] := by
  have hadm : Admissible c (.write_tape_block a) := by
    rwa [← h.here.blk_number] at hroom
  obtain ⟨t', hstep, hholds⟩ := step_simulates h hio (Step.of_result hadm rfl)
  generalize (Op.run c (.write_tape_block a)).1 = r at hstep
  cases hstep
  exact hholds

/-- Filemarks are recorded. -/
theorem Holds.filemarks (h : Holds n c t) (hio : c.io = []) {m : ℕ} (hm : m ≠ 0)
    (hroom : t.pos + m < MAX_BLK_NUMBER)
    (hmap : (filemarksOf (t.here.take t.pos)).length + m ≤ MAX_FILEMARKS) :
    Holds n (c.write_filemarks m).2 (t.write (List.replicate m .filemark)) ∧
      (c.write_filemarks m).2.io = [] := by
  have hmax : MAX_BLK_NUMBER = 4294967280 := rfl
  obtain ⟨w, rfl⟩ : ∃ w : UInt32, w.toNat = m :=
    ⟨UInt32.ofNat m, UInt32.toNat_ofNat_of_lt' (show m < 2 ^ 32 by omega)⟩
  have hadm : Admissible c (.write_filemarks w) := by
    rw [Admissible, h.here.blk_number, h.count_filemarks]
    exact ⟨hroom, hmap⟩
  obtain ⟨t', hstep, hholds⟩ := step_simulates h hio (Step.of_result hadm rfl)
  generalize (Op.run c (.write_filemarks w)).1 = r at hstep
  cases hstep with
  | write_filemarks => exact hholds
  | flush _ h0 => exact absurd h0 hm

/-- Another partition is opened. -/
theorem Holds.switch (h : Holds n c t) (hio : c.io = []) {q : ℕ} (hq : q < n) :
    Holds n (c.change_partition q).2 (t.switch q) ∧ (c.change_partition q).2.io = [] := by
  have hmax : MAX_PARTITIONS = 4 := rfl
  have hle := h.n_le
  obtain ⟨w, rfl⟩ : ∃ w : UInt8, w.toNat = q :=
    ⟨UInt8.ofNat q, UInt8.toNat_ofNat_of_lt' (show q < 2 ^ 8 by omega)⟩
  have hadm : Admissible c (.change_partition w) := by
    obtain ⟨f, hf, -⟩ := (h.rep _ hq).data
    exact Option.isSome_iff_exists.mpr ⟨f, hf⟩
  obtain ⟨t', hstep, hholds⟩ := step_simulates h hio (Step.of_result hadm rfl)
  generalize (Op.run c (.change_partition w)).1 = r at hstep
  cases hstep
  exact hholds

/-- An empty cartridge of two partitions and a megabyte. -/
def emptyPair : Store :=
  { emptyCartridge with
    dir := { emptyCartridge.dir with
      file := fun k p => if p < 2 then emptyCartridge.dir.file k 0 else none }
    fd := fun _ q => decide (q = 0)
    mam := (Mam.zero.putBe .max_capacity (2 ^ 20)).putByte .num_partitions 2 }

/-- It stands for two empty partitions. -/
theorem emptyPair_holds : Holds 2 emptyPair ⟨fun _ => [], 0, 0, Nat.zero_le _⟩ := by
  have hpart : ∀ q < 2, emptyPair.part q = emptyCartridge.part 0 := by
    intro q hq
    simp only [Store.part, emptyPair, if_pos hq]
    rfl
  have hrep : ∀ q < 2, Rep q (emptyPair.part q) [] := by
    intro q hq
    have h := emptyCartridge_holds.rep 0 Nat.one_pos
    obtain ⟨f, hf, hindx⟩ := h.indx
    rw [hpart q hq]
    refine ⟨⟨⟨f, hf, hindx.size, fun i hi => absurd hi (Nat.not_lt_zero i)⟩, h.data, h.metaf,
      h.marks⟩, h.eod_blk, h.eod_off⟩
  refine ⟨⟨hrep 0 (by decide), rfl, Nat.le_refl 0, fun _ _ => rfl, by decide⟩, by decide, by decide,
    hrep, ?_, ?_⟩
  · intro q hq k
    exact if_neg (by omega)
  · intro q _
    exact (by decide : 0 < MAX_BLK_NUMBER)

/-- A block, a filemark and a block in the first partition; two filemarks and a block in the
second. -/
def pairTape : Tape ℕ Record :=
  ((((((⟨fun _ => [], 0, 0, Nat.zero_le _⟩ : Tape ℕ Record).write [BlockArgs.record oneByte]).write
    (List.replicate 1 .filemark)).write [BlockArgs.record oneByte]).switch 1).write (List.replicate 2 .filemark)).write
      [BlockArgs.record oneByte]

/-- The cartridge with these records. The head is behind the last one. -/
def recordedPair : Store :=
  ((((((emptyPair.write_tape_block oneByte).2.write_filemarks 1).2.write_tape_block
    oneByte).2.change_partition 1).2.write_filemarks 2).2.write_tape_block oneByte).2

/-- It stands for them. -/
theorem recordedPair_holds : Holds 2 recordedPair pairTape ∧ recordedPair.io = [] := by
  obtain ⟨h₁, hio₁⟩ := emptyPair_holds.block rfl oneByte (by decide +kernel)
  obtain ⟨h₂, hio₂⟩ := h₁.filemarks hio₁ (m := 1) (by decide) (by decide +kernel) (by decide +kernel)
  obtain ⟨h₃, hio₃⟩ := h₂.block hio₂ oneByte (by decide +kernel)
  obtain ⟨h₄, hio₄⟩ := h₃.switch hio₃ (q := 1) (by decide)
  obtain ⟨h₅, hio₅⟩ := h₄.filemarks hio₄ (m := 2) (by decide) (by decide +kernel) (by decide +kernel)
  obtain ⟨h₆, hio₆⟩ := h₅.block hio₅ oneByte (by decide +kernel)
  unfold recordedPair
  exact ⟨h₆, hio₆⟩

end Recorded

end Mhvtl.Cart
