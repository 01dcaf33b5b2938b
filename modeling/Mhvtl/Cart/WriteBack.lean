import Mhvtl.Cart.Inspection

/-!
# Unloading files that do not fit each other

A cartridge whose files do not fit each other is loaded all the same, partition after partition. An
unload writes every meta file from the arrays, and leaves the cartridge as it was exactly when each
of them is written back.
-/

namespace Mhvtl.Cart

open Store

/-- Every header of an index file is on the partition of the file. -/
def Dir.OwnHeaders (dir : Dir) : Prop :=
  ∀ p f j, dir.file .indx p = some f → (j + 1) * HEADER_SIZE ≤ f.size →
    (raw_header.dec (f.pread (j * HEADER_SIZE) HEADER_SIZE)).hdr.partition_id = p

section Headers

variable {c c' : Store} {p : ℕ}

/-- A slot of a file that has it. -/
theorem slot_length {f : File} {j : ℕ} (h : (j + 1) * HEADER_SIZE ≤ f.size) :
    (f.pread (j * HEADER_SIZE) HEADER_SIZE).length = HEADER_SIZE := by
  rw [Nat.succ_mul] at h
  rw [File.pread_length]
  omega

/-- A header keeps the head on its partition. -/
theorem read_header_here (hown : c.dir.OwnHeaders) (hback : c.Backed) (j : ℕ) :
    (c.read_header j).2.partition_id = c.partition_id := by
  unfold Store.read_header
  dsimp only
  split
  · rfl
  split
  · rfl
  · rename_i hle hne
    cases hread : c.pread .indx c.partition_id (j * HEADER_SIZE) HEADER_SIZE with
    | none => rfl
    | some bs =>
      obtain ⟨f, hf, hsize⟩ := hback c.partition_id (by omega)
      have hbs : bs = f.pread (j * HEADER_SIZE) HEADER_SIZE := by
        cases hfd : c.fd .indx c.partition_id with
        | false =>
          simp only [Store.pread, hfd] at hread
          cases hread
        | true =>
          simp only [Store.pread, hfd, hf] at hread
          exact (Option.some.inj hread).symm
      have hroom : (j + 1) * HEADER_SIZE ≤ f.size :=
        (Nat.mul_le_mul_right _ (by omega)).trans hsize
      have hlen : bs.length = HEADER_SIZE := by
        rw [hbs, slot_length hroom]
      have hraw : (raw_header.overlay bs c.raw_pos).hdr.partition_id = c.partition_id := by
        rw [raw_header.overlay_full hlen, hbs]
        exact hown c.partition_id f j hf hroom
      dsimp only
      split
      · exact hraw
      · exact hraw

/-- Switching partitions leads to the partition. -/
theorem change_partition_here (hown : c.dir.OwnHeaders) (hback : c.Backed) (p : ℕ) :
    (c.change_partition p).2.partition_id = p := by
  let c₁ := (((c.close_partition c.partition_id).setPartition p).open_partition p).2
  exact read_header_here (c := c₁) hown hback 0

/-- The head moves inside its partition. -/
structure Shifted (c c' : Store) : Prop where
  /-- What may differ. -/
  eq : ∃ raw ok st, c' = { c with raw_pos := raw, OK_to_write := ok, status := st }
  /-- The partition. -/
  here : c'.partition_id = c.partition_id

namespace Shifted

theorem refl (c : Store) : Shifted c c := ⟨⟨_, _, _, rfl⟩, rfl⟩

theorem trans {a b : Store} (h : Shifted a b) (h' : Shifted b c) : Shifted a c := by
  obtain ⟨_, _, _, rfl⟩ := h.eq
  obtain ⟨_, _, _, rfl⟩ := h'.eq
  exact ⟨⟨_, _, _, rfl⟩, h'.here.trans h.here⟩

/-- Permission and status are set. -/
theorem settled (h : Shifted c c') (ok : Bool) (st : Status) :
    Shifted c { c' with OK_to_write := ok, status := st } := by
  obtain ⟨_, _, _, rfl⟩ := h.eq
  exact ⟨⟨_, _, _, rfl⟩, h.here⟩

/-- The files and the counts are the same. -/
theorem backed (h : Shifted c c') (hback : c.Backed) : c'.Backed := by
  obtain ⟨_, _, _, rfl⟩ := h.eq
  exact hback

/-- So are the headers. -/
theorem own (h : Shifted c c') (hown : c.dir.OwnHeaders) : c'.dir.OwnHeaders := by
  obtain ⟨_, _, _, rfl⟩ := h.eq
  exact hown

theorem read_header (hown : c.dir.OwnHeaders) (hback : c.Backed) (j : ℕ) :
    Shifted c (c.read_header j).2 := ⟨read_header_only c j, read_header_here hown hback j⟩

/-- A header is read behind some moves. -/
theorem thenHeader (h : Shifted c c') (hown : c.dir.OwnHeaders) (hback : c.Backed) (j : ℕ) :
    Shifted c (c'.read_header j).2 := h.trans (read_header (h.own hown) (h.backed hback) j)

theorem tape_loaded (c : Store) : Shifted c c.tape_loaded.2 := by
  unfold Store.tape_loaded
  split
  · exact refl c
  · exact (refl c).settled c.OK_to_write _

theorem rewind_tape (hown : c.dir.OwnHeaders) (hback : c.Backed) : Shifted c c.rewind_tape.2 := by
  have hread := (tape_loaded c).thenHeader hown hback 0
  unfold Store.rewind_tape
  dsimp only
  split
  · exact tape_loaded c
  split
  · exact hread
  · exact hread.settled _ _

theorem position_to_eod (hown : c.dir.OwnHeaders) (hback : c.Backed) :
    Shifted c c.position_to_eod.2 := by
  have hread := (tape_loaded c).thenHeader hown hback
    (c.tape_loaded.2.eod_blk_number c.tape_loaded.2.partition_id)
  unfold Store.position_to_eod
  dsimp only
  split
  · exact tape_loaded c
  split
  · exact hread
  split
  · exact hread.settled _ _
  · exact hread

theorem position_to_block (hown : c.dir.OwnHeaders) (hback : c.Backed) (blk_number : ℕ) :
    Shifted c (c.position_to_block blk_number).2 := by
  have hclear : Shifted c c.tape_loaded.2.clearWormWrite := by
    unfold Store.clearWormWrite
    split
    · exact (tape_loaded c).settled _ _
    · exact tape_loaded c
  have hstatus : Shifted c
      { c.tape_loaded.2.clearWormWrite with status := sam_blank_check E_END_OF_DATA } :=
    hclear.settled _ _
  unfold Store.position_to_block
  dsimp only
  split
  · exact tape_loaded c
  split
  · exact hstatus.trans (position_to_eod (hstatus.own hown) (hstatus.backed hback))
  split
  · exact hclear.trans (rewind_tape (hclear.own hown) (hclear.backed hback))
  · exact hclear.thenHeader hown hback blk_number

end Shifted

end Headers

section Load

variable {pcl : Dir} {error_check : Bool} {left : ℕ → MetaHeader} {n : ℕ} {c c' b : Store}

/-- The first `n` partitions of a cartridge were loaded, as far as their files go. -/
structure Inspected (pcl : Dir) (error_check : Bool) (left : ℕ → MetaHeader) (n : ℕ) (c : Store) :
    Prop where
  /-- The files of the cartridge. -/
  dir : c.dir = pcl
  /-- Every host call succeeds. -/
  io : c.io = []
  /-- The partitions are counted. -/
  count : c.mam.num_partitions = n
  /-- They are there. -/
  there : ∀ q < n, (pcl.file .data q).isSome = true
  /-- Their arrays write the meta files back, where the files say so. -/
  written : ∀ q < n, ∀ f, pcl.file .metaf q = some f →
    (c.WritesBack q f ↔ MetaWrittenBack pcl error_check (left q) q f)
  /-- The arrays behind them are untouched. -/
  rest : ∀ q, n ≤ q → c.meta_hdr q = left q ∧ c.filemark_alloc q = 0
  /-- Blocks are counted only where there are headers for them. -/
  backed : c.Backed

/-- One partition more. -/
theorem Inspected.next (h : Inspected pcl error_check left n c) (hn : n < MAX_PARTITIONS)
    (hdata : (pcl.file .data n).isSome = true) :
    Inspected pcl error_check left (n + 1)
      { ((c.setPartition n).load_partition error_check n).2 with
        mam := ((c.setPartition n).load_partition error_check n).2.mam.putByte .num_partitions
          (UInt8.ofNat (n + 1)) } := by
  have hM : MAX_PARTITIONS = 4 := rfl
  have hthere : ((c.setPartition n).dir.file .data n).isSome = true := by
    change (c.dir.file .data n).isSome = true
    rw [h.dir]
    exact hdata
  obtain ⟨hfrom, hwrites⟩ := @load_partition_inspects (c.setPartition n) n rfl hthere
    (h.rest n (Nat.le_refl n)).2 error_check
  generalize ((c.setPartition n).load_partition error_check n).2 = c₁ at hfrom hwrites
  have hleft : (c.setPartition n).meta_hdr n = left n := (h.rest n (Nat.le_refl n)).1
  have hdir : (c.setPartition n).dir = pcl := h.dir
  rw [hleft, hdir] at hwrites
  refine ⟨hfrom.dir.trans h.dir, hfrom.io.trans h.io, ?_, ?_, ?_, ?_, ?_⟩
  · rw [Mam.num_partitions, Mam.byte_putByte _ _ rfl, UInt8.toNat_ofNat_of_lt' (by
      change n + 1 < 256
      omega)]
  · intro q hq
    by_cases hqn : q = n
    · rw [hqn]
      exact hdata
    · exact h.there q (by omega)
  · intro q hq f hf
    by_cases hqn : q = n
    · subst hqn
      exact (WritesBack.congr rfl rfl rfl).trans (hwrites f hf)
    · obtain ⟨hmeta, halloc, hmarks⟩ := hfrom.metas q hqn
      exact (WritesBack.congr hmeta halloc hmarks).trans (h.written q (by omega) f hf)
  · intro q hq
    obtain ⟨hmeta, halloc, -⟩ := hfrom.metas q (by omega)
    obtain ⟨hmeta', halloc'⟩ := h.rest q (by omega)
    exact ⟨hmeta.trans hmeta', halloc.trans halloc'⟩
  · exact hfrom.backed h.backed

/-- A cartridge that was loaded as far as its files go: the head is on the first partition. -/
structure InPlace (pcl : Dir) (error_check : Bool) (left : ℕ → MetaHeader) (n : ℕ) (c : Store) :
    Prop extends Inspected pcl error_check left n c where
  /-- There are no more partitions. -/
  last : pcl.file .data n = none
  /-- The arrays have room for them. -/
  n_le : n ≤ MAX_PARTITIONS
  /-- The first one. -/
  here : c.partition_id = 0
  /-- Its data file is open when it is there. -/
  opened : c.fd .data 0 = (pcl.file .data 0).isSome
  /-- No other data file is. -/
  closed : ∀ q, c.fd .data q = true → q = 0

/-- What closing one partition leaves alone. -/
structure ClosedFrom (p : ℕ) (c c' : Store) : Prop where
  /-- Every file but the meta file of the partition. -/
  file : ∀ k q, k ≠ .metaf ∨ q ≠ p → c'.dir.file k q = c.dir.file k q
  /-- That one is kept exactly when the arrays write it back. -/
  metaf : c'.dir.file .metaf p = c.dir.file .metaf p ↔
    ∀ f, c.dir.file .metaf p = some f → c.WritesBack p f
  /-- The attribute files. -/
  attrs : c'.dir.mam = c.dir.mam ∧ c'.dir.mhvtl_data = c.dir.mhvtl_data
  /-- The arrays. -/
  arrays : c'.meta_hdr = c.meta_hdr ∧ c'.filemark_alloc = c.filemark_alloc ∧
    c'.filemarks = c.filemarks ∧ c'.eod_blk_number = c.eod_blk_number
  /-- The host calls to come. -/
  io : c'.io = []
  /-- The attributes. -/
  mam : c'.mam = c.mam

/-- The meta file of the current partition is written out. -/
theorem write_meta_out_writesBack {p : ℕ} (hp : c.partition_id = p)
    (hopen : c.fd .metaf p = (c.dir.file .metaf p).isSome) (hio : c.io = []) :
    ClosedFrom p c c.write_meta_out ∧ c.write_meta_out.fd = c.fd := by
  have hok : c.io.headD .ok = .ok := by
    rw [hio]
    rfl
  cases hf : c.dir.file .metaf p with
  | none =>
    have hfd : c.fd .metaf p = false := by
      rw [hopen, hf]
      rfl
    have hwrite : ∀ bs off, c.pwrite .metaf p bs off = (-1, c) := by
      intro bs off
      simp only [Store.pwrite, hfd]
    have hsame : c.write_meta_out = c := by
      unfold Store.write_meta_out Store.rewrite_meta_file
      simp only [hp, hwrite]
      split
      · rfl
      · rw [if_pos (by decide)]
    rw [hsame]
    refine ⟨⟨fun _ _ _ => rfl, iff_of_true rfl fun f hno => ?_, ⟨rfl, rfl⟩,
      ⟨rfl, rfl, rfl, rfl⟩, hio, rfl⟩, rfl⟩
    rw [hf] at hno
    cases hno
  | some f =>
    have hfd : c.fd .metaf p = true := by
      rw [hopen, hf]
      rfl
    have hiff : ∀ g : File, (some g = some f ↔ c.WritesBack p f) →
        ((some g : Option File) = c.dir.file .metaf p ↔
          ∀ f', c.dir.file .metaf p = some f' → c.WritesBack p f') := by
      intro g hg
      rw [hf, hg]
      refine ⟨fun h f' hf' => ?_, fun h => h f rfl⟩
      rw [← Option.some.inj hf']
      exact h
    unfold Store.write_meta_out
    dsimp only
    rw [hp]
    by_cases hnone : (c.meta_hdr p).filemark_count ≠ 0 ∧ c.filemark_alloc p = 0
    · rw [if_pos hnone, pwrite_ok c _ _ hok hfd hf]
      refine ⟨⟨fun k q hkq => ?_, ?_, ⟨rfl, rfl⟩, ⟨rfl, rfl, rfl, rfl⟩, ?_, rfl⟩, rfl⟩
      · refine if_neg ?_
        rintro ⟨rfl, rfl⟩
        exact hkq.elim (fun h => h rfl) fun h => h rfl
      · rw [putFile_file_same]
        refine hiff _ ?_
        rw [Store.WritesBack, if_pos hnone, Option.some_inj]
        constructor
        · intro h
          have hstored := File.stores_pwrite_same f 0 (meta_header.enc (c.meta_hdr p))
          rwa [h] at hstored
        · exact File.Stores.pwrite_self
      · rw [putFile_io, hio]
        rfl
    · rw [if_neg hnone]
      obtain ⟨c₁, g, hrun, hin, hio₁, hpart, hrep⟩ := rewrite_meta_file_ok c hp hfd hf
        (by rw [hio]; exact okFor_nil _)
      obtain ⟨file, io, hcalled⟩ := (rewrite_meta_file_called c hp rfl).1.eq
      rw [hrun] at hcalled ⊢
      dsimp only at hcalled ⊢
      have hfile : ∀ k, c₁.dir.file k p = ((c.part p).setFile .metaf g).file k := fun k =>
        congrArg (fun v => v.file k) hpart
      refine ⟨⟨fun k q hkq => ?_, ?_, ?_, ?_, ?_, ?_⟩, ?_⟩
      · by_cases hq : q = p
        · subst hq
          rw [hfile, PartView.setFile_other _ _ (hkq.resolve_right (not_not_intro rfl))]
          rfl
        · exact congrArg (fun v => v.file k) (hin.part q hq)
      · rw [hfile, PartView.setFile_same]
        refine hiff _ ?_
        rw [Store.WritesBack, if_neg hnone, Option.some_inj]
        exact ⟨fun h => h ▸ hrep, fun h => hrep.unique h⟩
      · exact ⟨hin.attrs.1, hin.attrs.2.1⟩
      · rw [hcalled]
        exact ⟨rfl, rfl, rfl, rfl⟩
      · rw [hio₁, hio, List.drop_nil]
      · exact hin.mam
      · exact hin.fd

/-- Closing a partition. -/
theorem closeOut_writesBack (hown : c.dir.OwnHeaders) (hback : c.Backed) (hio : c.io = [])
    (hone : ∀ q, c.fd .data q = true → q = c.partition_id) (p : ℕ) :
    ClosedFrom p c (c.closeOut p) ∧ ∀ q, (c.closeOut p).fd .data q = false := by
  have hp := change_partition_here hown hback p
  have hfd := change_partition_fd c p
  obtain ⟨raw, ok, st, fd, heq⟩ := change_partition_only c p
  unfold Store.closeOut
  generalize (c.change_partition p).2 = c₁ at hp hfd heq
  have hdir : c₁.dir = c.dir := by rw [heq]
  have hio₁ : c₁.io = [] := by
    rw [heq]
    exact hio
  have hopen : c₁.fd .metaf p = (c₁.dir.file .metaf p).isSome := by
    rw [hfd, if_pos rfl, hdir]
  obtain ⟨hclosed, hsame⟩ := write_meta_out_writesBack hp hopen hio₁
  refine ⟨⟨fun k q hkq => ?_, ?_, ?_, ?_, hclosed.io, hclosed.mam.trans (by rw [heq])⟩, fun q => ?_⟩
  · refine (hclosed.file k q hkq).trans ?_
    rw [hdir]
  · refine Iff.trans ?_ (hclosed.metaf.trans ?_)
    · rw [hdir]
      exact Iff.rfl
    · rw [hdir]
      refine forall_congr' fun f => imp_congr Iff.rfl (WritesBack.congr ?_ ?_ ?_) <;> rw [heq]
  · rw [← hdir]
    exact hclosed.attrs
  · obtain ⟨hmeta, halloc, hmarks, heod⟩ := hclosed.arrays
    exact ⟨hmeta.trans (by rw [heq]), halloc.trans (by rw [heq]), hmarks.trans (by rw [heq]),
      heod.trans (by rw [heq])⟩
  · change (if q = p then false else c₁.write_meta_out.fd .data q) = false
    split
    · rfl
    · rename_i hq
      rw [hsame, hfd, if_neg hq]
      split
      · rfl
      · rename_i hno
        cases hopen' : c.fd .data q with
        | false => rfl
        | true => exact absurd (hone q hopen') hno

/-- What closing the first `m` partitions leaves alone. -/
structure ClosedTo (m : ℕ) (c c' : Store) : Prop where
  /-- Every file but the meta files of these partitions. -/
  file : ∀ k q, k ≠ .metaf ∨ m ≤ q → c'.dir.file k q = c.dir.file k q
  /-- Those are kept exactly when the arrays write them back. -/
  metaf : (∀ q < m, c'.dir.file .metaf q = c.dir.file .metaf q) ↔
    ∀ q < m, ∀ f, c.dir.file .metaf q = some f → c.WritesBack q f
  /-- The attribute files. -/
  attrs : c'.dir.mam = c.dir.mam ∧ c'.dir.mhvtl_data = c.dir.mhvtl_data
  /-- The arrays. -/
  arrays : c'.meta_hdr = c.meta_hdr ∧ c'.filemark_alloc = c.filemark_alloc ∧
    c'.filemarks = c.filemarks ∧ c'.eod_blk_number = c.eod_blk_number
  /-- The host calls to come. -/
  io : c'.io = []
  /-- No other data file than the current one is open. -/
  one : ∀ q, c'.fd .data q = true → q = c'.partition_id
  /-- Behind a partition none is. -/
  shut : 0 < m → ∀ q, c'.fd .data q = false

/-- Closing one partition more. -/
theorem ClosedTo.next {m : ℕ} (h : ClosedTo m c c') (hown : c.dir.OwnHeaders) (hback : c.Backed) :
    ClosedTo (m + 1) c (c'.closeOut m) := by
  obtain ⟨hmeta, halloc, hmarks, heod⟩ := h.arrays
  have hindx : ∀ q, c'.dir.file .indx q = c.dir.file .indx q := fun q =>
    h.file .indx q (Or.inl (by decide))
  have hown' : c'.dir.OwnHeaders := by
    intro q f j hf
    rw [hindx] at hf
    exact hown q f j hf
  have hback' : c'.Backed := by
    intro q hq
    rw [heod] at hq ⊢
    rw [hindx]
    exact hback q hq
  obtain ⟨hstep, hshut⟩ := closeOut_writesBack hown' hback' h.io h.one m
  generalize c'.closeOut m = b at hstep hshut
  obtain ⟨hmeta', halloc', hmarks', heod'⟩ := hstep.arrays
  have hlast : b.dir.file .metaf m = c.dir.file .metaf m ↔
      ∀ f, c.dir.file .metaf m = some f → c.WritesBack m f := by
    rw [← h.file .metaf m (Or.inr (Nat.le_refl m)), hstep.metaf]
    refine forall_congr' fun f => imp_congr Iff.rfl (WritesBack.congr ?_ ?_ ?_)
    · rw [hmeta]
    · rw [halloc]
    · rw [hmarks]
  have hbefore : ∀ q < m, b.dir.file .metaf q = c'.dir.file .metaf q := fun q hq =>
    hstep.file .metaf q (Or.inr (Nat.ne_of_lt hq))
  refine ⟨fun k q hkq => ?_, ?_, ⟨hstep.attrs.1.trans h.attrs.1, hstep.attrs.2.trans h.attrs.2⟩,
    ⟨hmeta'.trans hmeta, halloc'.trans halloc, hmarks'.trans hmarks, heod'.trans heod⟩, hstep.io,
    fun q hq => ?_, fun _ => hshut⟩
  · have hm : k ≠ .metaf ∨ q ≠ m := hkq.imp id fun h => by omega
    have hm' : k ≠ .metaf ∨ m ≤ q := hkq.imp id fun h => by omega
    exact (hstep.file k q hm).trans (h.file k q hm')
  · constructor
    · intro hall q hq
      by_cases hqm : q = m
      · subst hqm
        exact hlast.mp (hall q hq)
      · exact h.metaf.mp (fun r hr => (hbefore r hr).symm.trans (hall r (by omega))) q (by omega)
    · intro hall q hq
      by_cases hqm : q = m
      · subst hqm
        exact hlast.mpr (hall q hq)
      · exact (hbefore q (by omega)).trans
          (h.metaf.mpr (fun r hr => hall r (by omega)) q (by omega))
  · rw [hshut] at hq
    cases hq

/-- Closing the first `m` partitions one after the other. -/
theorem closeOuts_writesBack (hown : c.dir.OwnHeaders) (hback : c.Backed) (hio : c.io = [])
    (hone : ∀ q, c.fd .data q = true → q = c.partition_id) (m : ℕ) :
    ClosedTo m c ((List.range m).foldl closeOut c) := by
  induction m with
  | zero =>
    exact ⟨fun _ _ _ => rfl, iff_of_true (fun q hq => absurd hq (Nat.not_lt_zero q))
      (fun q hq => absurd hq (Nat.not_lt_zero q)), ⟨rfl, rfl⟩, ⟨rfl, rfl, rfl, rfl⟩, hio, hone,
      fun hno => absurd hno (Nat.lt_irrefl 0)⟩
  | succ m ih =>
    rw [List.range_succ, List.foldl_append, List.foldl_cons, List.foldl_nil]
    exact ih.next hown hback

/-- An unload leaves the files of a cartridge as they were exactly when it writes every meta file
back. -/
theorem InPlace.unload_tape (h : InPlace pcl error_check left n c) (hown : pcl.OwnHeaders) :
    ∃ b, c.unload_tape = some b ∧
      (b.dir = c.dir ↔ ∀ q < n, ∀ f, pcl.file .metaf q = some f →
        MetaWrittenBack pcl error_check (left q) q f) ∧
      (∀ q, b.fd .data q = false) ∧ (∀ q, b.filemark_alloc q = 0) ∧ Spare 0 b ∧ b.io = [] := by
  have hone : ∀ q, c.fd .data q = true → q = c.partition_id := by
    intro q hq
    rw [h.here]
    exact h.closed q hq
  have hown' : c.dir.OwnHeaders := by
    rw [h.dir]
    exact hown
  have hclosed := closeOuts_writesBack hown' h.backed h.io hone n
  have hwritten : (∀ q < n, ∀ f, c.dir.file .metaf q = some f → c.WritesBack q f) ↔
      ∀ q < n, ∀ f, pcl.file .metaf q = some f → MetaWrittenBack pcl error_check (left q) q f := by
    rw [h.dir]
    exact forall₂_congr fun q hq => forall₂_congr fun f hf => h.written q hq f hf
  unfold Store.unload_tape
  rw [h.count, if_neg (Nat.not_lt.mpr h.n_le)]
  refine ⟨_, rfl, ?_, fun q => ?_, fun _ => rfl, fun _ _ => ⟨rfl, rfl⟩, hclosed.io⟩
  · rw [← hwritten, ← hclosed.metaf]
    constructor
    · intro hsame q _
      exact congrArg (fun dir : Dir => dir.file .metaf q) hsame
    · intro hall
      refine Dir.eq_of_parts (fun k q => ?_) hclosed.attrs.1 hclosed.attrs.2
      by_cases hkq : k ≠ .metaf ∨ n ≤ q
      · exact hclosed.file k q hkq
      · rw [not_or, not_not, not_le] at hkq
        rw [hkq.1]
        exact hall q hkq.2
  · rcases Nat.eq_zero_or_pos n with hzero | hpos
    · subst hzero
      cases hq : c.fd .data q with
      | false => exact hq
      | true =>
        have hno := h.opened
        rw [h.closed q hq] at hq
        rw [hq, h.last] at hno
        cases hno
    · exact hclosed.shut hpos q

end Load

end Mhvtl.Cart
