import Mhvtl.Cart.Formatting
import Mhvtl.Cart.Volume

/-!
# Changing the layout of a mounted volume

Filemarks, erasure of a partition, and `format_tape`: one partition after the other
is emptied and removed, then the partitions asked for are created.
-/

namespace Mhvtl.Cart

open Records Store

/-- The attributes in memory and the attribute files stay. -/
structure SameAttrs (c c' : Store) : Prop where
  /-- The attributes in memory. -/
  mam : c'.mam = c.mam
  /-- The mam file. -/
  dir_mam : c'.dir.mam = c.dir.mam
  /-- The mhvtl_data file. -/
  dir_mhvtl_data : c'.dir.mhvtl_data = c.dir.mhvtl_data
  /-- Its descriptor. -/
  mamfile : c'.mamfile = c.mamfile
  /-- And that of the other one. -/
  mhvtlfile : c'.mhvtlfile = c.mhvtlfile

namespace SameAttrs

variable {a b c : Store}

theorem refl (c : Store) : SameAttrs c c := ⟨rfl, rfl, rfl, rfl, rfl⟩

theorem trans (h : SameAttrs a b) (h' : SameAttrs b c) : SameAttrs a c where
  mam := h'.mam.trans h.mam
  dir_mam := h'.dir_mam.trans h.dir_mam
  dir_mhvtl_data := h'.dir_mhvtl_data.trans h.dir_mhvtl_data
  mamfile := h'.mamfile.trans h.mamfile
  mhvtlfile := h'.mhvtlfile.trans h.mhvtlfile

/-- Work inside a partition leaves them. -/
theorem of_frame {p : ℕ} (h : Frame p a b) : SameAttrs a b :=
  ⟨h.mam, h.attrs.1, h.attrs.2.1, h.attrs.2.2.1, h.attrs.2.2.2⟩

end SameAttrs

/-- The arrays are clear behind the `n` partitions of a volume. -/
def Spare (n : ℕ) (c : Store) : Prop :=
  ∀ q, n ≤ q → c.eod_blk_number q = 0 ∧ c.eod_data_offset q = 0

/-- Of the `n` partitions of a volume those below `k` are gone, and the arrays are clear there. -/
structure Erased (n k : ℕ) (c : Store) (recs : ℕ → List Record) : Prop where
  /-- The arrays have room for the partitions. -/
  n_le : n ≤ MAX_PARTITIONS
  /-- The other partitions are as they were. -/
  rep : ∀ q, k ≤ q → q < n → Rep q (c.part q) (recs q)
  /-- No block was written behind the largest block number. -/
  bound : ∀ q, q < n → (recs q).length ≤ MAX_BLK_NUMBER + 1
  /-- There are no other files. -/
  gone : ∀ q, q < k ∨ n ≤ q → ∀ kind, c.dir.file kind q = none
  /-- The end of data of the partitions that are gone. -/
  cleared : ∀ q, q < k → c.eod_blk_number q = 0 ∧ c.eod_data_offset q = 0
  /-- At most the current partition is open. -/
  open_here : ∀ kind r, c.fd kind r = true → r = c.partition_id
  /-- Every host call succeeds. -/
  io : c.io = []

/-- Of the new partitions those below `k` are there and empty; below `n` the arrays are clear. -/
structure Created (n k : ℕ) (c : Store) : Prop where
  /-- The new partitions. -/
  rep : ∀ q, q < k → Rep q (c.part q) []
  /-- There are no other files. -/
  gone : ∀ q, k ≤ q → ∀ kind, c.dir.file kind q = none
  /-- The ends of data. -/
  cleared : ∀ q, q < n → c.eod_blk_number q = 0 ∧ c.eod_data_offset q = 0
  /-- At most the current partition is open. -/
  open_here : ∀ kind r, c.fd kind r = true → r = c.partition_id
  /-- Every host call succeeds. -/
  io : c.io = []

section Erase

variable {n k : ℕ} {c : Store} {recs : ℕ → List Record}

/-- Nothing is erased yet. -/
theorem Mounted.erased (h : Mounted n c recs) : Erased n 0 c recs where
  n_le := h.n_le
  rep q _ hq := h.rep q hq
  bound := h.bound
  gone q hq kind := h.absent q (by omega) kind
  cleared q hq := absurd hq (Nat.not_lt_zero q)
  open_here := h.open_here
  io := h.io

/-- Emptying the partition at whose start the head stands and removing its files. -/
theorem erase_partition_ok {p : ℕ} {l : List Record} (h : At c p l 0) (hio : c.io = []) :
    ∃ c', c.erase_partition = c' ∧ (∀ q, q ≠ p → c'.part q = c.part q) ∧
      (∀ kind, c'.dir.file kind p = none) ∧ c'.eod_blk_number p = 0 ∧ c'.eod_data_offset p = 0 ∧
      (∀ kind r, c'.fd kind r = false) ∧ c'.io = [] ∧ SameAttrs c c' := by
  have hstart : c.setRawPos
      { data_offset := 0, hdr := { c.raw_pos.hdr with blk_number := 0 } } = c := by
    have hoff : c.raw_pos.data_offset = 0 := h.data_offset
    have hblk : c.raw_pos.hdr.blk_number = 0 := h.blk_number
    have hhdr : { c.raw_pos.hdr with blk_number := 0 } = c.raw_pos.hdr := by
      rw [← hblk]
    rw [hhdr, ← hoff]
    rfl
  have hok : OkFor (overwriteCalls l 0 + 2) c.io := by
    rw [hio]
    exact okFor_nil _
  obtain ⟨c₁, hformat, hw⟩ := format_partition_ok h hok
  refine ⟨(c₁.close_partition p).unlink_partition p, ?_, ?_, ?_, ?_, ?_, ?_, ?_, ?_⟩
  · unfold Store.erase_partition
    dsimp only
    rw [hstart, hformat]
    dsimp only
    rw [hw.at_end.partition_id]
  · intro q hq
    rw [← hw.frame.part q hq]
    simp only [part, unlink_partition, close_partition, if_neg hq]
  · intro kind
    exact if_pos rfl
  · exact hw.at_end.eod_blk
  · exact hw.at_end.eod_off
  · intro kind r
    by_cases hr : r = p
    · exact if_pos hr
    · refine (if_neg hr).trans ?_
      rw [hw.at_end.fd, decide_eq_false hr]
  · change c₁.io = []
    rw [hw.io, hio, List.drop_nil]
  · have hattrs : SameAttrs c c₁ := .of_frame hw.frame
    exact ⟨hattrs.mam, hattrs.dir_mam, hattrs.dir_mhvtl_data, hattrs.mamfile, hattrs.mhvtlfile⟩

/-- What the loop does to one partition. -/
theorem Erased.erases (h : Erased n k c recs) (hk : k < n) :
    ∃ c', (c.change_partition k).2.erase_partition = c' ∧ (∀ q, q ≠ k → c'.part q = c.part q) ∧
      (∀ kind, c'.dir.file kind k = none) ∧ c'.eod_blk_number k = 0 ∧ c'.eod_data_offset k = 0 ∧
      (∀ kind r, c'.fd kind r = false) ∧ c'.io = [] ∧ SameAttrs c c' := by
  have hb := h.bound k hk
  have hm : MAX_PARTITIONS = 4 := rfl
  have hmax : MAX_BLK_NUMBER = 4294967280 := rfl
  have hn := h.n_le
  obtain ⟨c₁, hw, hat, hpart, hmam, hio, -, -, hdir, hmf, hvf⟩ :=
    change_partition_opens h.open_here (h.rep k (Nat.le_refl k) hk) (by omega) (by omega)
  have hio₁ : c₁.io = [] := hio.trans h.io
  obtain ⟨c₂, heq, hother, hnone, heod, hoff, hclosed, hio₂, hattrs⟩ := erase_partition_ok hat hio₁
  have hfirst : SameAttrs c c₁ :=
    ⟨hmam, congrArg Dir.mam hdir, congrArg Dir.mhvtl_data hdir, hmf, hvf⟩
  rw [hw]
  exact ⟨c₂, heq, fun q hq => (hother q hq).trans (hpart q), hnone, heod, hoff, hclosed, hio₂,
    hfirst.trans hattrs⟩

/-- The loop erases one partition. -/
theorem Erased.erase (h : Erased n k c recs) (hk : k < n) :
    Erased n (k + 1) (c.change_partition k).2.erase_partition recs ∧
      SameAttrs c (c.change_partition k).2.erase_partition := by
  obtain ⟨c', heq, hsame, hnone, heod, hoff, hclosed, hio, hattrs⟩ := h.erases hk
  rw [heq]
  refine ⟨⟨h.n_le, ?_, h.bound, ?_, ?_, ?_, hio⟩, hattrs⟩
  · intro q hq hqn
    rw [hsame q (by omega)]
    exact h.rep q (by omega) hqn
  · intro q hq kind
    by_cases hqk : q = k
    · subst hqk
      exact hnone kind
    · exact (congrArg (fun v => v.file kind) (hsame q hqk)).trans (h.gone q (by omega) kind)
  · intro q hq
    by_cases hqk : q = k
    · subst hqk
      exact ⟨heod, hoff⟩
    · have hold := h.cleared q (by omega)
      have hv := hsame q hqk
      exact ⟨(congrArg PartView.eod_blk_number hv).trans hold.1,
        (congrArg PartView.eod_data_offset hv).trans hold.2⟩
  · intro kind r ho
    rw [hclosed] at ho
    exact absurd ho Bool.false_ne_true

/-- The loop erases them all, and leaves the arrays alone behind them. -/
theorem Erased.erasePartitions {fuel : ℕ} (h : Erased n k c recs) (hk : k ≤ n)
    (hf : n ≤ k + fuel) :
    ∃ c', c.erasePartitions fuel k = some c' ∧ Erased n n c' recs ∧ SameAttrs c c' ∧
      ∀ q, n ≤ q → c'.part q = c.part q := by
  induction fuel generalizing k c with
  | zero =>
    obtain rfl : k = n := by omega
    refine ⟨c, ?_, h, .refl c, fun _ _ => rfl⟩
    rw [Store.erasePartitions, h.gone k (Or.inr (Nat.le_refl k)) .data, Option.isSome_none,
      if_neg Bool.false_ne_true]
  | succ fuel ih =>
    by_cases hkn : k < n
    · obtain ⟨fd, hfd, -⟩ := (h.rep k (Nat.le_refl k) hkn).data
      have hfile : c.dir.file .data k = some fd := hfd
      obtain ⟨he, hattrs⟩ := h.erase hkn
      obtain ⟨c₁, heq, hsame, -⟩ := h.erases hkn
      obtain ⟨c', hrun, he', hattrs', hrest⟩ := ih he (by omega) (by omega)
      rw [heq] at hrest
      refine ⟨c', ?_, he', hattrs.trans hattrs', fun q hq => ?_⟩
      · rw [Store.erasePartitions, hfile, Option.isSome_some, if_pos rfl]
        exact hrun
      · exact (hrest q hq).trans (hsame q (by omega))
    · obtain rfl : k = n := by omega
      refine ⟨c, ?_, h, .refl c, fun _ _ => rfl⟩
      rw [Store.erasePartitions, h.gone k (Or.inr (Nat.le_refl k)) .data, Option.isSome_none,
        if_neg Bool.false_ne_true]

/-- Nothing is created yet, and `m` partitions may be where the arrays are clear. -/
theorem Erased.created (h : Erased n n c recs) {m : ℕ}
    (hclear : ∀ q, n ≤ q → q < m → c.eod_blk_number q = 0 ∧ c.eod_data_offset q = 0) :
    Created m 0 c where
  rep q hq := absurd hq (Nat.not_lt_zero q)
  gone q _ kind := h.gone q (by omega) kind
  cleared q hq := by
    by_cases hqn : q < n
    · exact h.cleared q hqn
    · exact hclear q (Nat.le_of_not_lt hqn) hq
  open_here := h.open_here
  io := h.io

/-- The meta file of a new partition. -/
theorem MetaRep.created :
    MetaRep MetaHeader.zero [] (File.empty.pwrite 0 (meta_header.enc MetaHeader.zero)) := by
  have hlen : (meta_header.enc MetaHeader.zero).length = HEADER_SIZE := by
    rw [meta_header.enc_length, meta_header_width]
  refine ⟨?_, File.stores_pwrite_same .., ?_⟩
  · rw [File.pwrite_size (by rw [hlen]; decide), hlen]
    rfl
  · exact File.stores_nil _ _

/-- The files of one partition are created. -/
theorem Created.create (h : Created n k c) (hk : k < n) :
    Created n (k + 1) (c.create_partition k).2 ∧ SameAttrs c (c.create_partition k).2 := by
  have hlen : (meta_header.enc MetaHeader.zero).length = HEADER_SIZE := by
    rw [meta_header.enc_length, meta_header_width]
  let c₁ : Store := { c with
    dir := { c.dir with file := fun kind q => if q = k then some File.empty else c.dir.file kind q }
    fd := fun kind q => if q = k then true else c.fd kind q
    meta_hdr := Function.update c.meta_hdr k MetaHeader.zero }
  let f := File.empty.pwrite 0 (meta_header.enc MetaHeader.zero)
  let c₂ := c₁.putFile .metaf k f
  have hwrite : c₁.pwrite .metaf k (meta_header.enc MetaHeader.zero) 0 = ((HEADER_SIZE : ℤ), c₂) := by
    have hio : c₁.io.headD .ok = .ok := by
      change c.io.headD .ok = .ok
      rw [h.io]
      rfl
    rw [pwrite_ok c₁ _ 0 hio (if_pos rfl) (if_pos rfl), hlen]
  have hrun : c.create_partition k = (0, c₂.close_partition k) := by
    unfold Store.create_partition
    dsimp only
    simp only [c₁] at hwrite
    rw [hwrite]
    simp only [ne_eq, not_true_eq_false, if_false]
  rw [hrun]
  have hother : ∀ q, q ≠ k → (c₂.close_partition k).part q = c.part q := by
    intro q hq
    have hq₁ : c₁.part q = c.part q := by
      simp only [part, c₁, if_neg hq, Function.update_of_ne hq]
    exact (putFile_part_other c₁ .metaf k f hq).trans hq₁
  have hnew : (c₂.close_partition k).part k = (c₁.part k).setFile .metaf f := putFile_part_same ..
  obtain ⟨heod, hoff⟩ := h.cleared k hk
  have hrep : Rep k ((c₂.close_partition k).part k) [] := by
    rw [hnew]
    have hhdr : c₁.meta_hdr k = MetaHeader.zero := Function.update_self ..
    refine ⟨⟨⟨File.empty, ?_, rfl, fun i hi => absurd hi (Nat.not_lt_zero i)⟩,
      ⟨File.empty, ?_, fun i b hb => ?_, fun _ => rfl⟩, ⟨f, PartView.setFile_same .., ?_⟩, ?_⟩,
      heod, hoff⟩
    · rw [PartView.setFile_other _ _ (by decide)]
      exact if_pos rfl
    · rw [PartView.setFile_other _ _ (by decide)]
      exact if_pos rfl
    · rw [List.getElem?_nil] at hb
      exact absurd hb (Option.some_ne_none _).symm
    · change MetaRep (c₁.meta_hdr k) [] f
      rw [hhdr]
      exact .created
    · have hcount : (c₁.meta_hdr k).filemark_count = 0 := by
        rw [hhdr]
        rfl
      change (List.range (c₁.meta_hdr k).filemark_count).map _ = []
      rw [hcount, List.range_zero, List.map_nil]
  refine ⟨⟨?_, ?_, h.cleared, ?_, ?_⟩, ⟨rfl, rfl, rfl, rfl, rfl⟩⟩
  · intro q hq
    by_cases hqk : q = k
    · subst hqk
      exact hrep
    · rw [hother q hqk]
      exact h.rep q (by omega)
  · intro q hq kind
    exact (congrArg (fun v => v.file kind) (hother q (by omega))).trans (h.gone q (by omega) kind)
  · intro kind r ho
    by_cases hr : r = k
    · have hshut : (c₂.close_partition k).fd kind r = false := if_pos hr
      rw [hshut] at ho
      exact absurd ho Bool.false_ne_true
    · have hsame : (c₂.close_partition k).fd kind r = c.fd kind r := (if_neg hr).trans (if_neg hr)
      rw [hsame] at ho
      exact h.open_here kind r ho
  · change c.io.tail = []
    rw [h.io]
    rfl

/-- Some partitions are created, one after the other. -/
theorem Created.createPartitions (h : Created n 0 c) {m : ℕ} (hm : m ≤ n) :
    Created n m (c.createPartitions m) ∧ SameAttrs c (c.createPartitions m) := by
  induction m with
  | zero => exact ⟨h, .refl c⟩
  | succ m ih =>
    obtain ⟨hc, hattrs⟩ := ih (by omega)
    have hstep : c.createPartitions (m + 1) = ((c.createPartitions m).create_partition m).2 := by
      simp only [Store.createPartitions, List.range_succ, List.foldl_append, List.foldl_cons,
        List.foldl_nil]
    obtain ⟨hc', hattrs'⟩ := hc.create (k := m) (by omega)
    rw [hstep]
    exact ⟨hc', hattrs.trans hattrs'⟩

end Erase

namespace Mounted

variable {n : ℕ} {c : Store} {recs : ℕ → List Record}

/-- The files that there are, are those of the partitions. -/
theorem there (h : Mounted n c recs) (kind : FileKind) (q : ℕ) :
    (c.dir.file kind q).isSome ↔ q < n := by
  constructor
  · intro hsome
    by_contra hq
    rw [h.absent q (Nat.le_of_not_lt hq) kind] at hsome
    exact Bool.false_ne_true hsome
  · intro hq
    obtain ⟨⟨fi, hfi, -⟩, ⟨fd, hfd, -⟩, ⟨fm, hfm, -⟩, -⟩ := (h.rep q hq).toOnDisk
    cases kind with
    | data => exact congrArg Option.isSome hfd
    | indx => exact congrArg Option.isSome hfi
    | metaf => exact congrArg Option.isSome hfm

/-- Formatting removes all partitions and creates as many as the attributes ask for, when the
arrays are clear where new ones come to be: below `m`. With at least one, the volume is mounted
and the head stands at the start of the first. -/
theorem format_tape_clear (h : Mounted n c recs) {m : ℕ}
    (hmax : c.mam.num_partitions ≤ MAX_PARTITIONS) (hm : c.mam.num_partitions ≤ m)
    (hclear : ∀ q, n ≤ q → q < m → c.eod_blk_number q = 0 ∧ c.eod_data_offset q = 0) :
    ∃ c', c.format_tape = some c' ∧ SameAttrs c c' ∧
      (∀ q, c.mam.num_partitions ≤ q → ∀ kind, c'.dir.file kind q = none) ∧
      (∀ q, q < m → c'.eod_blk_number q = 0 ∧ c'.eod_data_offset q = 0) ∧
      (1 ≤ c.mam.num_partitions →
        Mounted c.mam.num_partitions c' (fun _ => []) ∧ At c' 0 [] 0) := by
  have hle := h.n_le
  obtain ⟨c₁, herase, he, hattrs₁, hrest⟩ : ∃ c₁, c.erasePartitions MAX_PARTITIONS 0 = some c₁ ∧
      Erased n n c₁ recs ∧ SameAttrs c c₁ ∧ ∀ q, n ≤ q → c₁.part q = c.part q :=
    h.erased.erasePartitions (Nat.zero_le n) (by omega)
  have hmam : c₁.mam.num_partitions = c.mam.num_partitions := by rw [hattrs₁.mam]
  have hclear₁ : ∀ q, n ≤ q → q < m → c₁.eod_blk_number q = 0 ∧ c₁.eod_data_offset q = 0 := by
    intro q hq hqm
    have hsame := hrest q hq
    exact ⟨(congrArg PartView.eod_blk_number hsame).trans (hclear q hq hqm).1,
      (congrArg PartView.eod_data_offset hsame).trans (hclear q hq hqm).2⟩
  obtain ⟨hc, hattrs₂⟩ := (he.created hclear₁).createPartitions hm
  have hrun : c.format_tape =
      some ((c₁.createPartitions c.mam.num_partitions).change_partition 0).2 := by
    unfold Store.format_tape
    rw [herase]
    dsimp only
    rw [hmam, if_neg (by omega)]
  have hopen : 1 ≤ c.mam.num_partitions → ∃ c', c.format_tape = some c' ∧
      Mounted c.mam.num_partitions c' (fun _ => []) ∧ At c' 0 [] 0 := by
    intro h1
    obtain ⟨c₃, hw, hat, hpart, -, hio, -, -, hdir, -⟩ :=
      change_partition_opens (q := 0) hc.open_here (hc.rep 0 h1) (by decide) (Nat.two_pow_pos 32)
    rw [hw] at hrun
    refine ⟨c₃, hrun, ⟨hmax, ?_, ?_, fun _ _ => Nat.zero_le _, Or.inl ⟨0, 0, h1, hat⟩,
      hio.trans hc.io⟩, hat⟩
    · intro q hq
      rw [hpart]
      exact hc.rep q hq
    · intro q hq kind
      rw [hdir]
      exact hc.gone q hq kind
  obtain ⟨raw, ok, st, fd, heq⟩ := change_partition_only
    (c₁.createPartitions c.mam.num_partitions) 0
  rw [heq] at hrun
  refine ⟨_, hrun, (hattrs₁.trans hattrs₂).trans ⟨rfl, rfl, rfl, rfl, rfl⟩, hc.gone, hc.cleared,
    fun h1 => ?_⟩
  obtain ⟨c', hc', hmounted⟩ := hopen h1
  obtain rfl := Option.some.inj (hc'.symm.trans hrun)
  exact hmounted

/-- Formatting leaves as many empty partitions as the attributes ask for, and no more than there
were; the head stands at the start of the first. -/
theorem format_tape (h : Mounted n c recs) (h1 : 1 ≤ c.mam.num_partitions)
    (hn : c.mam.num_partitions ≤ n) :
    ∃ c', c.format_tape = some c' ∧ Mounted c.mam.num_partitions c' (fun _ => []) ∧
      At c' 0 [] 0 ∧ SameAttrs c c' := by
  obtain ⟨c', hrun, hattrs, -, -, hopen⟩ := h.format_tape_clear (hn.trans h.n_le) (le_refl _)
    fun q hq hqm => absurd hq (by omega)
  obtain ⟨hmounted, hat⟩ := hopen h1
  exact ⟨c', hrun, hmounted, hat, hattrs⟩

/-- Formatting leaves the arrays clear behind the new partitions, whatever their number. -/
theorem format_tape_spare (h : Mounted n c recs) (hs : Spare n c)
    (hmax : c.mam.num_partitions ≤ MAX_PARTITIONS) :
    ∃ c', c.format_tape = some c' ∧ SameAttrs c c' ∧
      (∀ kind q, (c'.dir.file kind q).isSome ↔ q < c.mam.num_partitions) ∧
      Spare c.mam.num_partitions c' ∧
      (1 ≤ c.mam.num_partitions →
        Mounted c.mam.num_partitions c' (fun _ => []) ∧ At c' 0 [] 0) := by
  have hall : ∀ m, ∀ q, n ≤ q → q < m → c.eod_blk_number q = 0 ∧ c.eod_data_offset q = 0 :=
    fun _ q hq _ => hs q hq
  obtain ⟨c', hrun, hattrs, hgone, -, hopen⟩ := h.format_tape_clear hmax (le_refl _) (hall _)
  refine ⟨c', hrun, hattrs, fun kind q => ?_, fun q _ => ?_, hopen⟩
  · by_cases h1 : 1 ≤ c.mam.num_partitions
    · exact (hopen h1).1.there kind q
    · rw [hgone q (by omega) kind, Option.isSome_none]
      exact iff_of_false Bool.false_ne_true (by omega)
  · obtain ⟨c'', hrun', -, -, hclear, -⟩ :=
      h.format_tape_clear (m := max c.mam.num_partitions (q + 1)) hmax (le_max_left _ _) (hall _)
    obtain rfl := Option.some.inj (hrun'.symm.trans hrun)
    exact hclear q (by omega)

/-- Where the head stands, or that no partition is open. -/
theorem cases_place (h : Mounted n c recs) :
    (∃ p i, p < n ∧ At c p (recs p) i) ∨
      c.tape_loaded = (false, { c with status := sam_not_ready E_MEDIUM_NOT_PRESENT }) := by
  rcases h.place with hat | ⟨hclosed, -⟩
  · exact Or.inl hat
  · right
    simp only [Store.tape_loaded, hclosed, Bool.false_eq_true, if_false]

/-- At block 0 the partition is emptied, unless none is open. -/
theorem format_partition (h : Mounted n c recs) (h0 : c.c_pos.blk_number = 0) :
    Elsewhere n recs c c.format_partition.2 ∨
    ∃ p calls, p < n ∧ At c p (recs p) 0 ∧ Written c c.format_partition.2 p [] calls := by
  rcases h.cases_place with ⟨p, i, hp, hat⟩ | hnone
  · have hi : i = 0 := hat.blk_number.symm.trans h0
    subst hi
    have hok : OkFor (overwriteCalls (recs p) 0 + 2) c.io := by
      rw [h.io]
      exact okFor_nil _
    obtain ⟨c', hrun, hw⟩ := format_partition_ok hat hok
    rw [hrun]
    exact Or.inr ⟨p, _, hp, hat, hw⟩
  · left
    simp only [Store.format_partition, hnone, Bool.not_false, if_true]
    exact h.report _

/-- Filemarks are written behind the position as long as their numbers fit the map. -/
theorem write_filemarks (h : Mounted n c recs) {count : ℕ}
    (hfit : c.c_pos.blk_number + count ≤ MAX_FILEMARKS) :
    Elsewhere n recs c (c.write_filemarks count).2 ∨
    ∃ p i calls, p < n ∧ At c p (recs p) i ∧ count ≠ 0 ∧ i + count ≤ MAX_FILEMARKS ∧
      Written c (c.write_filemarks count).2 p
        ((recs p).take i ++ List.replicate count .filemark) calls := by
  rcases h.cases_place with ⟨p, i, hp, hat⟩ | hnone
  · by_cases h0 : count = 0
    · subst h0
      rw [write_filemarks_zero hat]
      exact Or.inl h.refl
    · rw [hat.blk_number] at hfit
      have hmax : MAX_FILEMARKS = 4294966796 := rfl
      have hmarks : (filemarksOf ((recs p).take i)).length ≤ i :=
        (marks_length_le _ ((recs p).take i)).trans (List.length_take_le _ _)
      have hok : OkFor (overwriteCalls (recs p) i + 4 * count) c.io := by
        rw [h.io]
        exact okFor_nil _
      obtain ⟨c', hrun, hw⟩ := write_filemarks_ok hat h0 (by omega) (by omega) hok
      rw [hrun]
      exact Or.inr ⟨p, i, _, hp, hat, h0, hfit, hw⟩
  · left
    simp only [Store.write_filemarks, hnone, Bool.not_false, if_true]
    exact h.report _

end Mounted

namespace Spare

variable {n : ℕ} {c c' : Store}

/-- Only what the arrays hold there matters. -/
theorem of_part (h : Spare n c) (hpart : ∀ q, n ≤ q → c'.part q = c.part q) : Spare n c' := by
  intro q hq
  exact ⟨(congrArg PartView.eod_blk_number (hpart q hq)).trans (h q hq).1,
    (congrArg PartView.eod_data_offset (hpart q hq)).trans (h q hq).2⟩

/-- Work inside a partition leaves them clear. -/
theorem of_frame (h : Spare n c) {p : ℕ} (hp : p < n) (hf : Frame p c c') : Spare n c' :=
  h.of_part fun q hq => hf.part q (by omega)

/-- So do moves of the head. -/
theorem elsewhere (h : Spare n c) {recs : ℕ → List Record} (he : Elsewhere n recs c c') :
    Spare n c' := by
  obtain ⟨raw, ok, st, rfl⟩ := he.eq
  exact h

/-- And so does a switch to any partition. -/
theorem change_partition (h : Spare n c) (q : ℕ) : Spare n (c.change_partition q).2 := by
  obtain ⟨raw, ok, st, fd, heq⟩ := change_partition_only c q
  rw [heq]
  exact h

end Spare

end Mhvtl.Cart
