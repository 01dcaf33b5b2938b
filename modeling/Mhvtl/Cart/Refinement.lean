import Mhvtl.Cart.Positioning
import Mhvtl.Lib.Run

/-!
# The store refines a partitioned tape

The files, arrays and position of a loaded cartridge stand for a tape: one record
sequence for each partition and one position. Every call that the host serves in
full does on the store what the abstract operation does on the tape, so whole
runs of calls agree, results included.
-/

namespace Mhvtl.Cart

open Records Store

/-- The calls of the cartridge interface. -/
inductive Op where
  | write_tape_block (a : BlockArgs)
  | write_filemarks (count : UInt32)
  | read_tape_block (buf_size : UInt32)
  | rewind_tape
  | position_to_block (blk_number : UInt32)
  | position_to_eod
  | format_partition
  | change_partition (partition_number : UInt8)

/-- What a call returns. -/
inductive Res where
  /-- A return code. -/
  | rc (r : ℤ)
  /-- The bytes read, nothing on failure. -/
  | bytes (bs : Option (List UInt8))
deriving DecidableEq

/-- A call on the store. -/
def Op.run (c : Store) : Op → Res × Store
  | write_tape_block a => let (r, c) := c.write_tape_block a; (.rc r, c)
  | write_filemarks n => let (r, c) := c.write_filemarks n.toNat; (.rc r, c)
  | read_tape_block n => let (bs, c) := c.read_tape_block n.toNat; (.bytes bs, c)
  | rewind_tape => let (r, c) := c.rewind_tape; (.rc r, c)
  | position_to_block n => let (r, c) := c.position_to_block n.toNat; (.rc r, c)
  | position_to_eod => let (r, c) := c.position_to_eod; (.rc r, c)
  | format_partition => let (r, c) := c.format_partition; (.rc r, c)
  | change_partition q => let (r, c) := c.change_partition q.toNat; (.rc r, c)

/-- Number of filemarks in front of a block. -/
def Store.count_filemarks (c : Store) (blk_number : ℕ) : ℕ :=
  (c.filemarkMap c.partition_id).findIdx (blk_number ≤ ·)

/-- When a call is made: partitions keep fewer than `MAX_BLK_NUMBER` blocks and no
more filemarks than the size of the map can express, formatting is at block 0, and
the partition switched to is there. -/
def Admissible (c : Store) : Op → Prop
  | .write_tape_block _ => c.c_pos.blk_number + 1 < MAX_BLK_NUMBER
  | .write_filemarks n => c.c_pos.blk_number + n.toNat < MAX_BLK_NUMBER ∧
      c.count_filemarks c.c_pos.blk_number + n.toNat ≤ MAX_FILEMARKS
  | .format_partition => c.c_pos.blk_number = 0
  | .change_partition q => (c.dir.file .data q.toNat).isSome
  | _ => True

/-- One admissible call with its result. -/
def Step (c : Store) (l : Op × Res) (c' : Store) : Prop := Admissible c l.1 ∧ l.1.run c = (l.2, c')

/-- A call makes a step when its result is the one named. -/
theorem Step.of_result {c : Store} {op : Op} {r : Res} (hadm : Admissible c op)
    (h : (op.run c).1 = r) : Step c (op, r) (op.run c).2 :=
  ⟨hadm, Prod.ext h rfl⟩

/-- The calls on the tape. A write keeps the records in front of the position and
puts the new ones behind them; reading a data block returns its bytes. -/
inductive TapeStep : Tape ℕ Record → Op × Res → Tape ℕ Record → Prop where
  | write_tape_block (t : Tape ℕ Record) (a : BlockArgs) :
      TapeStep t (.write_tape_block a, .rc 0) (t.write [BlockArgs.record a])
  | write_filemarks (t : Tape ℕ Record) (n : UInt32) (h : n.toNat ≠ 0) :
      TapeStep t (.write_filemarks n, .rc 0) (t.write (List.replicate n.toNat .filemark))
  | flush (t : Tape ℕ Record) (n : UInt32) (h : n.toNat = 0) :
      TapeStep t (.write_filemarks n, .rc 0) t
  | read_data (t : Tape ℕ Record) (n : UInt32) (b : DataBlock)
      (h : t.here[t.pos]? = some (.data b)) :
      TapeStep t (.read_tape_block n, .bytes (some (b.bytes.take n.toNat))) (t.seek (t.pos + 1))
  | read_filemark (t : Tape ℕ Record) (n : UInt32) (h : t.here[t.pos]? = some .filemark) :
      TapeStep t (.read_tape_block n, .bytes (some [])) (t.seek (t.pos + 1))
  | read_end (t : Tape ℕ Record) (n : UInt32) (h : t.pos = t.here.length) :
      TapeStep t (.read_tape_block n, .bytes none) t
  /-- A block of which only the header is kept reads as anything or fails. -/
  | read_blank (t : Tape ℕ Record) (n : UInt32) (r : Res) (j : ℕ) (info : BlockInfo) (size : UInt32)
      (h : t.here[t.pos]? = some (.blank info size)) (hj : j = t.pos ∨ j = t.pos + 1) :
      TapeStep t (.read_tape_block n, r) (t.seek j)
  | rewind_tape (t : Tape ℕ Record) : TapeStep t (.rewind_tape, .rc 1) (t.seek 0)
  | position_to_block (t : Tape ℕ Record) (n : UInt32) :
      TapeStep t (.position_to_block n, .rc (blockResult n.toNat)) (t.seek n.toNat)
  | position_to_eod (t : Tape ℕ Record) :
      TapeStep t (.position_to_eod, .rc 0) (t.seek t.here.length)
  | format_partition (t : Tape ℕ Record) (h : t.pos = 0) :
      TapeStep t (.format_partition, .rc 0) (t.write [])
  | change_partition (t : Tape ℕ Record) (q : UInt8) :
      TapeStep t (.change_partition q, .rc 0) (t.switch q.toNat)

/-- The store stands for the tape `t` of `n` partitions. -/
structure Holds (n : ℕ) (c : Store) (t : Tape ℕ Record) : Prop where
  /-- The open partition and the position. -/
  here : At c t.part t.here t.pos
  /-- It is one of the partitions. -/
  part_lt : t.part < n
  /-- The arrays have room for all of them. -/
  n_le : n ≤ MAX_PARTITIONS
  /-- Every partition is represented. -/
  rep : ∀ q, q < n → Rep q (c.part q) (t.recs q)
  /-- There are no files of others. -/
  absent : ∀ q, n ≤ q → ∀ k, c.dir.file k q = none
  /-- Block numbers have room. -/
  bound : ∀ q, q < n → (t.recs q).length < MAX_BLK_NUMBER

namespace Holds

variable {n : ℕ} {c : Store} {t : Tape ℕ Record}

/-- Block counts fit 32 bits. -/
theorem length_lt (h : Holds n c t) : t.here.length < 2 ^ 32 := by
  have hb := h.bound t.part h.part_lt
  have hm : MAX_BLK_NUMBER = 4294967280 := rfl
  have hh : t.here = t.recs t.part := rfl
  rw [hh]
  omega

/-- A change inside the open partition. -/
theorem of_frame (h : Holds n c t) {c' : Store} {t' : Tape ℕ Record} (hf : Frame t.part c c')
    (hp : t'.part = t.part) (hr : ∀ q, q ≠ t.part → t'.recs q = t.recs q)
    (hat : At c' t.part t'.here t'.pos) (hb : t'.here.length < MAX_BLK_NUMBER) :
    Holds n c' t' where
  here := by
    rw [hp]
    exact hat
  part_lt := by
    rw [hp]
    exact h.part_lt
  n_le := h.n_le
  rep q hq := by
    by_cases hqt : q = t.part
    · subst hqt
      have hrep := hat.rep
      rwa [Tape.here, hp] at hrep
    · rw [hf.part q hqt, hr q hqt]
      exact h.rep q hq
  absent q hq k := by
    have hqt : q ≠ t.part := by
      have := h.part_lt
      omega
    exact (congrArg (fun v => v.file k) (hf.part q hqt)).trans (h.absent q hq k)
  bound q hq := by
    by_cases hqt : q = t.part
    · subst hqt
      rwa [Tape.here, hp] at hb
    · rw [hr q hqt]
      exact h.bound q hq

/-- The position put at index `j`, whatever the permission and the status. -/
theorem of_moved (h : Holds n c t) {j : ℕ} (hj : j ≤ t.here.length) (ok : Bool) (st : Status) :
    Holds n { c with raw_pos := headerAt t.part t.here j, OK_to_write := ok, status := st }
      (t.seek j) := by
  have hmin : (t.seek j).pos = j := Nat.min_eq_left hj
  refine h.of_frame ⟨fun _ _ => rfl, rfl, rfl, rfl, rfl, rfl, rfl⟩ rfl (fun _ _ => rfl) ?_
    (h.bound t.part h.part_lt)
  rw [hmin]
  exact ⟨h.here.rep, rfl, hj, h.here.fd, h.here.part_lt⟩

/-- A move inside the open partition. -/
theorem of_sought (h : Holds n c t) {c' : Store} {j i : ℕ}
    (hs : Sought c c' t.part t.here j) (hj : j = min i t.here.length) :
    Holds n c' (t.seek i) := by
  subst hj
  exact h.of_frame hs.frame rfl (fun _ _ => rfl) (hs.at_pos h.here) (h.bound t.part h.part_lt)

/-- New records behind the position. -/
theorem of_written (h : Holds n c t) {c' : Store} {rs : List Record} {calls : ℕ}
    (hw : Written c c' t.part (t.here.take t.pos ++ rs) calls)
    (hb : t.pos + rs.length < MAX_BLK_NUMBER) : Holds n c' (t.write rs) := by
  have hlen : (t.here.take t.pos ++ rs).length = t.pos + rs.length := by
    rw [List.length_append, List.length_take_of_le h.here.le]
  refine h.of_frame hw.frame rfl (fun q hq => t.write_recs_other rs hq) ?_ ?_
  · rw [Tape.write_here, Tape.write_pos, ← hlen]
    exact hw.at_end
  · rwa [Tape.write_here, hlen]

/-- The filemarks counted in memory are those in front of the position. -/
theorem count_filemarks (h : Holds n c t) :
    c.count_filemarks t.pos = (filemarksOf (t.here.take t.pos)).length := by
  have hmap : c.filemarkMap t.part = filemarksOf t.here := h.here.rep.marks
  have htake := marks_take Record.isFilemark t.here t.pos
  rw [Store.count_filemarks, h.here.partition_id, hmap, filemarksOf, filemarksOf, htake,
    List.length_take, Nat.min_eq_left List.findIdx_le_length]

/-- A partition with a data file is one of the represented ones. -/
theorem lt_of_exists (h : Holds n c t) {q : ℕ} (hq : (c.dir.file .data q).isSome) : q < n := by
  by_contra hn
  rw [h.absent q (Nat.le_of_not_lt hn)] at hq
  exact absurd hq Bool.false_ne_true

end Holds

/-- A read leaves the store at the record or behind it. -/
theorem read_holds {n : ℕ} {c : Store} {t : Tape ℕ Record} (h : Holds n c t) (m : ℕ) :
    ∃ j, (j = t.pos ∨ j = t.pos + 1) ∧ Holds n (c.read_tape_block m).2 (t.seek j) ∧
      (c.read_tape_block m).2.io = c.io := by
  obtain ⟨j, ok, st, heq, hj, hpos⟩ := read_tape_block_moves h.here h.length_lt m
  rw [heq]
  exact ⟨j, hpos.imp And.left And.left, h.of_moved hj ok st, rfl⟩

/-- One admissible call: the tape makes the step that its result describes. -/
theorem step_simulates {n : ℕ} {c c' : Store} {t : Tape ℕ Record} {l : Op × Res}
    (h : Holds n c t) (hio : c.io = []) (hstep : Step c l c') :
    ∃ t', TapeStep t l t' ∧ Holds n c' t' ∧ c'.io = [] := by
  obtain ⟨op, res⟩ := l
  obtain ⟨hadm, hrun⟩ := hstep
  have hok : ∀ k, OkFor k c.io := fun k => by
    rw [hio]
    exact okFor_nil k
  have hdrained : ∀ {c₁ : Store} {k : ℕ}, c₁.io = c.io.drop k → c₁.io = [] := fun he => by
    rw [he, hio, List.drop_nil]
  have hblk := h.here.blk_number
  cases op with
  | write_tape_block a =>
    simp only [Admissible, hblk] at hadm
    obtain ⟨c₁, hw, hwr⟩ := write_tape_block_ok h.here a (by omega) (hok _)
    simp only [Op.run, hw, Prod.mk.injEq] at hrun
    obtain ⟨rfl, rfl⟩ := hrun
    exact ⟨_, .write_tape_block t a, h.of_written hwr hadm, hdrained hwr.io⟩
  | write_filemarks m =>
    simp only [Admissible, hblk, h.count_filemarks] at hadm
    by_cases h0 : m.toNat = 0
    · simp only [Op.run, h0, write_filemarks_zero h.here, Prod.mk.injEq] at hrun
      obtain ⟨rfl, rfl⟩ := hrun
      exact ⟨t, .flush t m h0, h, hio⟩
    · have hm : MAX_BLK_NUMBER = 4294967280 := rfl
      obtain ⟨c₁, hw, hwr⟩ := write_filemarks_ok h.here h0 (by omega) hadm.2 (hok _)
      simp only [Op.run, hw, Prod.mk.injEq] at hrun
      obtain ⟨rfl, rfl⟩ := hrun
      refine ⟨_, .write_filemarks t m h0, h.of_written hwr ?_, hdrained hwr.io⟩
      rw [List.length_replicate]
      exact hadm.1
  | read_tape_block m =>
    obtain ⟨j, hj, hh, hio'⟩ := read_holds h m.toNat
    simp only [Op.run, Prod.mk.injEq] at hrun
    obtain ⟨rfl, rfl⟩ := hrun
    rw [hio] at hio'
    cases hrec : t.here[t.pos]? with
    | none =>
      have hend : t.pos = t.here.length := by
        have := List.getElem?_eq_none_iff.mp hrec
        have := t.pos_le
        simp only [Tape.here] at *
        omega
      have hat := h.here
      rw [hend] at hat
      rw [read_tape_block_eod hat]
      refine ⟨t, .read_end t m hend, ?_, hio⟩
      exact h.of_frame ⟨fun _ _ => rfl, rfl, rfl, rfl, rfl, rfl, rfl⟩ rfl (fun _ _ => rfl)
        ⟨h.here.rep, h.here.pos, h.here.le, h.here.fd, h.here.part_lt⟩ (h.bound t.part h.part_lt)
    | some r =>
      have hlt : t.pos < t.here.length := (List.getElem?_eq_some_iff.mp hrec).1
      cases r with
      | data b =>
        have hr := read_tape_block_data h.here h.length_lt hrec m.toNat
        rw [hr]
        exact ⟨_, .read_data t m b hrec, h.of_moved hlt _ c.status, hio⟩
      | blank info size =>
        exact ⟨_, .read_blank t m _ j info size hrec hj, hh, hio'⟩
      | filemark =>
        have hr := read_tape_block_filemark h.here h.length_lt hrec m.toNat
        rw [hr]
        exact ⟨_, .read_filemark t m hrec, h.of_moved hlt _ c.status, hio⟩
  | rewind_tape =>
    obtain ⟨c₁, hw, hs⟩ := rewind_tape_ok h.here h.length_lt
    simp only [Op.run, hw, Prod.mk.injEq] at hrun
    obtain ⟨rfl, rfl⟩ := hrun
    exact ⟨_, .rewind_tape t, h.of_sought hs (Nat.zero_min _).symm, hs.io.trans hio⟩
  | position_to_block m =>
    obtain ⟨c₁, hw, hs⟩ := position_to_block_ok h.here h.length_lt m.toNat
    simp only [Op.run, hw, Prod.mk.injEq] at hrun
    obtain ⟨rfl, rfl⟩ := hrun
    exact ⟨_, .position_to_block t m, h.of_sought hs rfl, hs.io.trans hio⟩
  | position_to_eod =>
    obtain ⟨c₁, hw, hs⟩ := position_to_eod_ok h.here h.length_lt
    simp only [Op.run, hw, Prod.mk.injEq] at hrun
    obtain ⟨rfl, rfl⟩ := hrun
    exact ⟨_, .position_to_eod t, h.of_sought hs (Nat.min_self _).symm, hs.io.trans hio⟩
  | format_partition =>
    simp only [Admissible, hblk] at hadm
    have hat := h.here
    rw [hadm] at hat
    obtain ⟨c₁, hw, hwr⟩ := format_partition_ok hat (hok _)
    simp only [Op.run, hw, Prod.mk.injEq] at hrun
    obtain ⟨rfl, rfl⟩ := hrun
    have hwr' : Written c c₁ t.part (t.here.take t.pos ++ []) (overwriteCalls t.here 0 + 2) := by
      rw [hadm]
      exact hwr
    refine ⟨_, .format_partition t hadm, h.of_written hwr' ?_, hdrained hwr.io⟩
    rw [hadm]
    decide
  | change_partition q =>
    have hq := h.lt_of_exists hadm
    have hlt : q.toNat < 2 ^ 32 := Nat.lt_of_lt_of_le q.toNat_lt (by decide)
    have hb := h.bound _ hq
    have hm : MAX_BLK_NUMBER = 4294967280 := rfl
    obtain ⟨c₁, hw, hat, hpart, -, hio₁, -, -, hdir, -⟩ :=
      change_partition_ok h.here (h.rep _ hq) hlt (by omega)
    simp only [Op.run, hw, Prod.mk.injEq] at hrun
    obtain ⟨rfl, rfl⟩ := hrun
    refine ⟨_, .change_partition t q, ⟨hat, hq, h.n_le, ?_, ?_, h.bound⟩, hio₁.trans hio⟩
    · intro r hr
      rw [hpart]
      exact h.rep r hr
    · rw [hdir]
      exact h.absent

/-- A loaded cartridge of one empty partition, at its start. -/
def emptyCartridge : Store where
  dir :=
    { file := fun k p =>
        if p = 0 then
          some (if k = .metaf then File.ofList (meta_header.enc MetaHeader.zero) else File.empty)
        else none
      mam := some (mamImage Mam.zero)
      mhvtl_data := some (mhvtlImage Mam.zero) }
  fd _ q := decide (q = 0)
  mamfile := true
  mhvtlfile := true
  raw_pos := eodHeader 0 0 0
  meta_hdr _ := MetaHeader.zero
  eod_data_offset _ := 0
  eod_blk_number _ := 0
  filemark_alloc _ := 0
  filemarks _ _ := 0
  OK_to_write := true
  mam := Mam.zero
  status := Status.good
  io := []

/-- It stands for the empty tape of one partition. -/
theorem emptyCartridge_holds : Holds 1 emptyCartridge ⟨fun _ => [], 0, 0, Nat.zero_le _⟩ := by
  have hrep : Rep 0 (emptyCartridge.part 0) [] := by
    refine ⟨⟨⟨File.empty, rfl, rfl, fun i hi => absurd hi (Nat.not_lt_zero i)⟩,
      ⟨File.empty, rfl, fun i b hb => ?_, fun _ => rfl⟩,
      ⟨File.ofList (meta_header.enc MetaHeader.zero), rfl, ?_, ?_, File.stores_nil _ _⟩, rfl⟩,
      rfl, rfl⟩
    · rw [List.getElem?_nil] at hb
      exact absurd hb nofun
    · exact meta_header.enc_length MetaHeader.zero
    · exact File.stores_ofList _
  refine ⟨⟨hrep, rfl, Nat.le_refl 0, fun _ _ => rfl, by decide⟩, by decide, by decide, ?_, ?_, ?_⟩
  · intro q hq
    obtain rfl : q = 0 := by omega
    exact hrep
  · intro q hq k
    exact if_neg (by omega)
  · intro q _
    exact (by decide : 0 < MAX_BLK_NUMBER)

/-- Every run of admissible calls on a store that stands for a tape is a run of the
tape with the same results, and ends in a store that stands for the tape reached. -/
theorem store_refines_tape {n : ℕ} {c c' : Store} {t : Tape ℕ Record} {ls : List (Op × Res)}
    (h : Holds n c t) (hio : c.io = []) (hrun : Run Step c ls c') :
    ∃ t', Run TapeStep t ls t' ∧ Holds n c' t' := by
  have hsim : ∀ (s : Store) (t : Tape ℕ Record) (l : Op × Res) (s' : Store),
      Holds n s t ∧ s.io = [] → Step s l s' → ∃ t', TapeStep t l t' ∧ Holds n s' t' ∧ s'.io = [] :=
    fun _ _ _ _ hR hs => step_simulates hR.1 hR.2 hs
  obtain ⟨t', hr, hh, -⟩ := hrun.simulate hsim ⟨h, hio⟩
  exact ⟨t', hr, hh⟩

/-- A block of one byte. -/
def oneByte : BlockArgs := ⟨fun _ => 7, 1, 0, none, 0, false, 0⟩

/-- Writing a byte to an empty cartridge, rewinding and reading it. -/
theorem store_refines_tape_oneByte :
    let c₁ := (Op.run emptyCartridge (.write_tape_block oneByte)).2
    let c₂ := (Op.run c₁ .rewind_tape).2
    ∃ t', Run TapeStep ⟨fun _ => [], 0, 0, Nat.zero_le _⟩
      [(.write_tape_block oneByte, .rc 0), (.rewind_tape, .rc 1),
        (.read_tape_block 8, .bytes (some [7]))] t' ∧
      Holds 1 (Op.run c₂ (.read_tape_block 8)).2 t' := by
  intro c₁ c₂
  have h₁ : Step emptyCartridge (.write_tape_block oneByte, .rc 0) c₁ :=
    Step.of_result (show 0 + 1 < MAX_BLK_NUMBER by decide) (by decide +kernel)
  have h₂ : Step c₁ (.rewind_tape, .rc 1) c₂ := Step.of_result trivial (by decide +kernel)
  have h₃ : Step c₂ (.read_tape_block 8, .bytes (some [7])) (Op.run c₂ (.read_tape_block 8)).2 :=
    Step.of_result trivial (by decide +kernel)
  exact store_refines_tape emptyCartridge_holds rfl (.cons h₁ (.cons h₂ (.cons h₃ (.nil _))))

/-- The same block on a medium whose data is not kept cannot be read back. -/
theorem null_media_block_not_read :
    let nullByte := { oneByte with null_media_type := true }
    let c := (emptyCartridge.write_tape_block nullByte).2
    (emptyCartridge.write_tape_block nullByte).1 = 0 ∧ nullByte.bytes = [7] ∧
      (c.rewind_tape.2.read_tape_block 8).1 = none := by
  decide +kernel

end Mhvtl.Cart
