import Mhvtl.Cart.Represents

/-!
# What the store functions do when the host calls succeed

One statement for each function: the result, what becomes of the partition under
the head, and how many host calls were spent. Everything outside the partition
is covered by one frame condition.
-/

namespace Mhvtl.Cart

open Records

namespace Store

/-- The state after a successful host call that leaves `f` in a file. -/
def putFile (c : Store) (k : FileKind) (p : ℕ) (f : File) : Store :=
  { c with io := c.io.tail }.setFile k p (some f)

/-- A successful `pwrite`. -/
theorem pwrite_ok (c : Store) {k : FileKind} {p : ℕ} {f : File} (bs : List UInt8) (off : ℕ)
    (hio : c.io.headD .ok = .ok) (hfd : c.fd k p = true) (hf : c.dir.file k p = some f) :
    c.pwrite k p bs off = ((bs.length : ℤ), c.putFile k p (f.pwrite off bs)) := by
  simp only [pwrite, hfd, hf, nextIo, hio]
  rfl

/-- A successful `ftruncate`. -/
theorem ftruncate_ok (c : Store) {k : FileKind} {p : ℕ} {f : File} (len : ℕ)
    (hio : c.io.headD .ok = .ok) (hfd : c.fd k p = true) (hf : c.dir.file k p = some f) :
    c.ftruncate k p len = (0, c.putFile k p (f.ftruncate len)) := by
  simp only [ftruncate, hfd, hf, nextIo, hio]
  rfl

section PutFile

variable (c : Store) (k : FileKind) (p : ℕ) (f : File)

@[simp] theorem putFile_io : (c.putFile k p f).io = c.io.tail := rfl
@[simp] theorem putFile_fd : (c.putFile k p f).fd = c.fd := rfl
@[simp] theorem putFile_raw_pos : (c.putFile k p f).raw_pos = c.raw_pos := rfl
@[simp] theorem putFile_partition_id : (c.putFile k p f).partition_id = c.partition_id := rfl
@[simp] theorem putFile_meta_hdr : (c.putFile k p f).meta_hdr = c.meta_hdr := rfl
@[simp] theorem putFile_filemarkMap : (c.putFile k p f).filemarkMap = c.filemarkMap := rfl

@[simp] theorem putFile_file_same : (c.putFile k p f).dir.file k p = some f := by
  simp only [putFile, setFile, and_self, if_pos]

@[simp] theorem putFile_file_other {k' : FileKind} (h : k' ≠ k) (q : ℕ) :
    (c.putFile k p f).dir.file k' q = c.dir.file k' q := by
  simp only [putFile, setFile, h, false_and, if_false]

/-- The view of the partition with one file replaced. -/
theorem putFile_part_same : (c.putFile k p f).part p = (c.part p).setFile k f := by
  simp only [part, putFile, setFile, PartView.setFile, and_true, PartView.mk.injEq]
  refine funext fun k' => ?_
  rw [Function.update_apply]

/-- The other partitions do not see the file. -/
theorem putFile_part_other {q : ℕ} (h : q ≠ p) : (c.putFile k p f).part q = c.part q := by
  simp only [part, putFile, setFile, h, and_false, if_false]

end PutFile

@[simp] theorem setFilemarkCount_same (c : Store) (p n : ℕ) :
    ((c.setFilemarkCount p n).meta_hdr p).filemark_count = n := by
  simp only [setFilemarkCount, Function.update_self]

end Store

/-- A step that only touches the files and the filemark map of partition `p`. -/
structure Inside (p : ℕ) (c c' : Store) : Prop extends Frame p c c' where
  /-- The position. -/
  raw_pos : c'.raw_pos = c.raw_pos
  /-- The write permission. -/
  OK_to_write : c'.OK_to_write = c.OK_to_write
  /-- Status and sense data. -/
  status : c'.status = c.status
  /-- The end of data of the partition. -/
  eod : c'.eod_blk_number = c.eod_blk_number ∧ c'.eod_data_offset = c.eod_data_offset

namespace Inside

variable {p : ℕ} {a b c : Store}

theorem refl (p : ℕ) (c : Store) : Inside p c c :=
  { Frame.refl p c with raw_pos := rfl, OK_to_write := rfl, status := rfl, eod := ⟨rfl, rfl⟩ }

theorem trans (h : Inside p a b) (h' : Inside p b c) : Inside p a c :=
  { Frame.trans h.toFrame h'.toFrame with
    raw_pos := h'.raw_pos.trans h.raw_pos
    OK_to_write := h'.OK_to_write.trans h.OK_to_write
    status := h'.status.trans h.status
    eod := ⟨h'.eod.1.trans h.eod.1, h'.eod.2.trans h.eod.2⟩ }

/-- The partition under the head stays the same. -/
theorem partition_id (h : Inside p a b) : b.partition_id = a.partition_id :=
  congrArg (fun r => r.hdr.partition_id) h.raw_pos

/-- A host call on a file of the partition. -/
theorem putFile (c : Store) (k : FileKind) (p : ℕ) (f : File) : Inside p c (c.putFile k p f) where
  part _ hq := Store.putFile_part_other c k p f hq
  fd := rfl
  mam := rfl
  attrs := ⟨rfl, rfl, rfl, rfl⟩
  raw_pos := rfl
  OK_to_write := rfl
  status := rfl
  eod := ⟨rfl, rfl⟩

/-- More room for the filemark map. -/
theorem filemark_alloc (p : ℕ) (c : Store) (alloc : ℕ → ℕ) :
    Inside p c { c with filemark_alloc := alloc } :=
  { Inside.refl p c with part := fun _ _ => rfl }

/-- A new entry of the filemark map. -/
theorem setFilemark (c : Store) (p n blk : ℕ) : Inside p c (c.setFilemark p n blk) :=
  { Inside.refl p c with
    part := fun q hq => by simp only [Store.part, Store.setFilemark, Function.update_of_ne hq] }

/-- A new filemark count. -/
theorem setFilemarkCount (c : Store) (p n : ℕ) : Inside p c (c.setFilemarkCount p n) :=
  { Inside.refl p c with
    part := fun q hq => by simp only [Store.part, Store.setFilemarkCount, Function.update_of_ne hq] }

end Inside

namespace Store

/-- Host calls of `rewrite_meta_file` for a map of `n` entries. -/
def metaCalls (n : ℕ) : ℕ := if n = 0 then 2 else 3

/-- `rewrite_meta_file` puts the header and the map of the current partition into
the meta file, whatever it held. -/
theorem rewrite_meta_file_ok (c : Store) {p : ℕ} {f : File} (hp : c.partition_id = p)
    (hfd : c.fd .metaf p = true) (hf : c.dir.file .metaf p = some f)
    (hio : OkFor (metaCalls (c.meta_hdr p).filemark_count) c.io) :
    ∃ c' g, c.rewrite_meta_file = (0, c') ∧ Inside p c c' ∧
      c'.io = c.io.drop (metaCalls (c.meta_hdr p).filemark_count) ∧
      c'.part p = (c.part p).setFile .metaf g ∧
      MetaRep (c.meta_hdr p) (c.filemarkMap p) g := by
  have hmlen : (c.filemarkMap p).length = (c.meta_hdr p).filemark_count := by
    rw [filemarkMap, List.length_map, List.length_range]
  have hhdr : (meta_header.enc (c.meta_hdr p)).length = HEADER_SIZE := meta_header.enc_length _
  have hmap : ((Codec.uint 4).encList (c.filemarkMap p)).length =
      (c.meta_hdr p).filemark_count * 4 := by
    rw [Codec.encList_length, hmlen]
    rfl
  let f₁ := f.pwrite 0 (meta_header.enc (c.meta_hdr p))
  let f₂ := f₁.pwrite HEADER_SIZE ((Codec.uint 4).encList (c.filemarkMap p))
  let f₃ := f₂.ftruncate (HEADER_SIZE + (c.meta_hdr p).filemark_count * 4)
  have hrw : MetaRep (c.meta_hdr p) (c.filemarkMap p) f₃ := by
    have h := MetaRep.rewrite (c.meta_hdr p) (c.filemarkMap p) f
    rwa [hmlen] at h
  by_cases h0 : (c.meta_hdr p).filemark_count = 0
  · have hnil : (Codec.uint 4).encList (c.filemarkMap p) = [] :=
      List.eq_nil_of_length_eq_zero (by rw [hmap, h0])
    have h12 : f₂ = f₁ := by
      simp only [f₂, hnil, pwrite_nil_eq]
    rw [metaCalls, if_pos h0] at hio ⊢
    let c₁ := c.putFile .metaf p f₁
    let c₂ := c₁.putFile .metaf p f₃
    refine ⟨c₂, f₃, ?_, (Inside.putFile c ..).trans (Inside.putFile c₁ ..), ?_, ?_, hrw⟩
    · have hw : c.pwrite .metaf p (meta_header.enc (c.meta_hdr p)) 0 = ((HEADER_SIZE : ℤ), c₁) := by
        rw [pwrite_ok c _ _ hio.head hfd hf, hhdr]
      have ht : c₁.ftruncate .metaf p HEADER_SIZE = (0, c₂) := by
        rw [ftruncate_ok c₁ HEADER_SIZE hio.tail.head hfd (putFile_file_same ..)]
        simp only [c₂, f₃, h12, h0, Nat.zero_mul, Nat.add_zero]
      have hmeta : c₁.meta_hdr = c.meta_hdr := rfl
      simp only [rewrite_meta_file, hp, hw, ne_eq, not_true_eq_false, if_false, hmeta, h0,
        Nat.zero_mul, Nat.cast_zero, Nat.add_zero, ht]
      rfl
    · simp only [c₂, c₁, putFile_io, ← List.drop_one, List.drop_drop]
    · simp only [c₂, c₁, putFile_part_same, PartView.setFile_setFile]
  · have h4 : (c.meta_hdr p).filemark_count * 4 ≠ 0 := by omega
    rw [metaCalls, if_neg h0] at hio ⊢
    let c₁ := c.putFile .metaf p f₁
    let c₂ := c₁.putFile .metaf p f₂
    let c₃ := c₂.putFile .metaf p f₃
    refine ⟨c₃, f₃, ?_, ((Inside.putFile c ..).trans (Inside.putFile c₁ ..)).trans
      (Inside.putFile c₂ ..), ?_, ?_, hrw⟩
    · have hw : c.pwrite .metaf p (meta_header.enc (c.meta_hdr p)) 0 = ((HEADER_SIZE : ℤ), c₁) := by
        rw [pwrite_ok c _ _ hio.head hfd hf, hhdr]
      have hm : c₁.pwrite .metaf p ((Codec.uint 4).encList (c.filemarkMap p)) HEADER_SIZE =
          ((((c.meta_hdr p).filemark_count * 4 : ℕ) : ℤ), c₂) := by
        rw [pwrite_ok c₁ _ _ hio.tail.head hfd (putFile_file_same ..), hmap]
      have ht : c₂.ftruncate .metaf p (HEADER_SIZE + (c.meta_hdr p).filemark_count * 4) = (0, c₃) :=
        ftruncate_ok c₂ _ hio.tail.tail.head hfd (putFile_file_same ..)
      have hmeta : c₁.meta_hdr = c.meta_hdr := rfl
      have hfm : c₁.filemarkMap = c.filemarkMap := rfl
      simp only [rewrite_meta_file, hp, hw, ne_eq, not_true_eq_false, if_false, hmeta, hfm, h4,
        not_false_eq_true, if_true, hm, ht]
      rfl
    · simp only [c₃, c₂, c₁, putFile_io, ← List.drop_one, List.drop_drop]
    · simp only [c₃, c₂, c₁, putFile_part_same, PartView.setFile_setFile]

/-- Host calls of `check_for_overwrite` at block `i` of `l`. -/
def overwriteCalls (l : List Record) (i : ℕ) : ℕ :=
  if l.length ≤ i then 0
  else if (filemarksOf (l.take i)).length = (filemarksOf l).length then 2
  else 2 + metaCalls (filemarksOf (l.take i)).length

/-- The first entries of a filemark map. -/
theorem map_range_take (f : ℕ → ℕ) {j n : ℕ} (h : j ≤ n) :
    (List.range j).map f = ((List.range n).map f).take j := by
  rw [← List.map_take, List.take_range, Nat.min_eq_left h]

/-- `check_for_overwrite` leaves the records in front of the position. -/
theorem check_for_overwrite_ok {c : Store} {p i : ℕ} {l : List Record}
    (hd : OnDisk p (c.part p) l) (hpos : c.raw_pos = headerAt p l i)
    (hfd : ∀ k, c.fd k p = true) (hi : i ≤ l.length) (hio : OkFor (overwriteCalls l i) c.io) :
    ∃ c', c.check_for_overwrite = (0, c') ∧ Inside p c c' ∧
      c'.io = c.io.drop (overwriteCalls l i) ∧ OnDisk p (c'.part p) (l.take i) := by
  have hp : c.partition_id = p := by rw [partition_id, hpos, headerAt_partition_id]
  have hblk : c.c_pos.blk_number = i := by rw [c_pos, hpos, headerAt_blk_number]
  have hoff : c.raw_pos.data_offset = offsetOf l i := by rw [hpos, headerAt_data_offset]
  have heod : c.c_pos.blk_type = B_EOD ↔ l.length ≤ i := by rw [c_pos, hpos, headerAt_eod_iff]
  by_cases hend : l.length ≤ i
  · refine ⟨c, if_pos (heod.mpr hend), Inside.refl p c, ?_, ?_⟩
    · rw [overwriteCalls, if_pos hend, List.drop_zero]
    · rwa [List.take_of_length_le hend]
  · rw [overwriteCalls, if_neg hend] at hio ⊢
    obtain ⟨fi, hfi, hfir⟩ := hd.indx
    obtain ⟨fd, hfdt, hfdr⟩ := hd.data
    obtain ⟨fm, hfm, hfmr⟩ := hd.metaf
    have hmap : c.filemarkMap p = filemarksOf l := hd.marks
    have hcount : (c.meta_hdr p).filemark_count = (filemarksOf l).length := hd.filemark_count
    have hio2 : OkFor 2 c.io := by
      split at hio
      · exact hio
      · exact hio.mono (Nat.le_add_right _ _)
    let c₁ := c.putFile .indx p (fi.ftruncate (i * HEADER_SIZE))
    let c₂ := c₁.putFile .data p (fd.ftruncate (offsetOf l i))
    have hin₂ : Inside p c c₂ := (Inside.putFile c ..).trans (Inside.putFile c₁ ..)
    have hpart₂ : c₂.part p = ((c.part p).setFile .indx (fi.ftruncate (i * HEADER_SIZE))).setFile
        .data (fd.ftruncate (offsetOf l i)) := by
      simp only [c₂, c₁, putFile_part_same]
    have h₁ : c.ftruncate .indx p (i * HEADER_SIZE) = (0, c₁) :=
      ftruncate_ok c _ hio2.head (hfd _) hfi
    have hdata₁ : c₁.dir.file .data p = some fd := by
      rw [putFile_file_other c .indx p _ (by decide)]
      exact hfdt
    have h₂ : c₁.ftruncate .data p (offsetOf l i) = (0, c₂) :=
      ftruncate_ok c₁ _ hio2.tail.head (hfd _) hdata₁
    have hmap₂ : c₂.filemarkMap p = filemarksOf l := hmap
    have hio₂ : c₂.io = c.io.drop 2 := by
      simp only [c₂, c₁, putFile_io, ← List.drop_one, List.drop_drop]
    have hne : c.c_pos.blk_type ≠ B_EOD := fun h => hend (heod.mp h)
    -- the two files that were cut, whatever happens to the map
    have hindx : ∃ f, (c₂.part p).file .indx = some f ∧ IndxRep p (l.take i) f :=
      ⟨_, by rw [hpart₂, PartView.setFile_other _ _ (by decide), PartView.setFile_same],
        hfir.take hi⟩
    have hdata : ∃ f, (c₂.part p).file .data = some f ∧ DataRep (l.take i) f :=
      ⟨_, by rw [hpart₂, PartView.setFile_same], hfdr.take hi⟩
    have hmetaf : (c₂.part p).file .metaf = some fm := by
      rw [hpart₂, PartView.setFile_other _ _ (by decide), PartView.setFile_other _ _ (by decide)]
      exact hfm
    cases hfind : (filemarksOf l).findIdx? (i ≤ ·) with
    | none =>
      have hlt : ∀ j ∈ filemarksOf l, j < i := by
        intro j hj
        have h := List.findIdx?_eq_none_iff.mp hfind j hj
        have hnle := of_decide_eq_false h
        omega
      have htake : filemarksOf (l.take i) = filemarksOf l :=
        marks_take_of_none Record.isFilemark l hlt
      rw [htake, if_pos rfl]
      refine ⟨c₂, ?_, hin₂, hio₂, hindx, hdata, ⟨fm, hmetaf, ?_⟩, ?_⟩
      · simp only [check_for_overwrite, hne, if_false, hp, hblk, hoff, h₁, h₂, ne_eq,
          not_true_eq_false, hmap₂, hfind]
      · rw [htake]
        exact hfmr
      · rw [htake]
        exact hmap₂
    | some j =>
      obtain ⟨hjlt, hj⟩ := List.findIdx?_eq_some_iff_findIdx_eq.mp hfind
      have htake : filemarksOf (l.take i) = (filemarksOf l).take j := by
        rw [← hj]
        exact marks_take Record.isFilemark l i
      have hlen : (filemarksOf (l.take i)).length = j := by
        rw [htake, List.length_take]
        omega
      rw [hlen] at hio ⊢
      rw [if_neg (by omega)] at hio ⊢
      let c₃ : Store := c₂.setFilemarkCount p j
      have hcnt₃ : (c₃.meta_hdr p).filemark_count = j := setFilemarkCount_same c₂ p j
      have hmap₃ : c₃.filemarkMap p = filemarksOf (l.take i) := by
        rw [htake, ← hmap, filemarkMap, filemarkMap, hcnt₃, hcount,
          map_range_take _ (Nat.le_of_lt hjlt)]
        rfl
      have hin₃ : Inside p c₂ c₃ := Inside.setFilemarkCount c₂ p j
      have hio₃ : OkFor (metaCalls (c₃.meta_hdr p).filemark_count) c₃.io := by
        rw [hcnt₃]
        change OkFor (metaCalls j) c₂.io
        rw [hio₂]
        exact hio.drop
      obtain ⟨c₄, g, hr, hin₄, hio₄, hpart₄, hrep⟩ :=
        rewrite_meta_file_ok c₃ hp (hfd _) hmetaf hio₃
      refine ⟨c₄, ?_, (hin₂.trans hin₃).trans hin₄, ?_, ?_, ?_, ?_, ?_⟩
      · simp only [check_for_overwrite, hne, if_false, hp, hblk, hoff, h₁, h₂, ne_eq,
          not_true_eq_false, hmap₂, hfind]
        exact hr
      · rw [hio₄, hcnt₃]
        change c₂.io.drop (metaCalls j) = _
        rw [hio₂, List.drop_drop]
      · rw [hpart₄, PartView.setFile_other _ _ (by decide)]
        exact hindx
      · rw [hpart₄, PartView.setFile_other _ _ (by decide)]
        exact hdata
      · refine ⟨g, by rw [hpart₄, PartView.setFile_same], ?_⟩
        rw [← hmap₃, hpart₄]
        exact hrep
      · rw [hpart₄]
        exact hmap₃

/-- Filemarks a partition can have before the size of the map wraps. -/
def MAX_FILEMARKS : ℕ := 2 ^ 32 - FM_DELTA

/-- Room for a filemark map whose rounded size fits 32 bits. -/
theorem check_filemarks_alloc_ok (c : Store) {count : ℕ} (h : count ≤ MAX_FILEMARKS) :
    ∃ alloc, c.check_filemarks_alloc count = (0, { c with filemark_alloc := alloc }) := by
  unfold check_filemarks_alloc
  by_cases ha : c.filemark_alloc c.partition_id < count
  · have hd : FM_DELTA = 500 := rfl
    have hm : MAX_FILEMARKS = 4294966796 := rfl
    have hmod : (count + FM_DELTA - 1) % 2 ^ 32 = count + FM_DELTA - 1 :=
      Nat.mod_eq_of_lt (by omega)
    have hne : (count + FM_DELTA - 1) / FM_DELTA * FM_DELTA ≠ 0 := by
      rw [hd]
      omega
    simp only [if_pos ha, hmod, if_neg hne]
    exact ⟨_, rfl⟩
  · simp only [if_neg ha]
    exact ⟨c.filemark_alloc, rfl⟩

/-- `add_filemark` appends one entry to the map in memory and on disk. -/
theorem add_filemark_ok (c : Store) {p : ℕ} {f : File} {fms : List ℕ} (blk : ℕ)
    (hp : c.partition_id = p) (hfd : c.fd .metaf p = true) (hf : c.dir.file .metaf p = some f)
    (hmap : c.filemarkMap p = fms) (hlim : fms.length + 1 ≤ MAX_FILEMARKS) (hio : OkFor 3 c.io) :
    ∃ c' g, c.add_filemark blk = (0, c') ∧ Inside p c c' ∧ c'.io = c.io.drop 3 ∧
      (∀ k, k ≠ .metaf → (c'.part p).file k = (c.part p).file k) ∧
      (c'.part p).file .metaf = some g ∧ MetaRep (c'.meta_hdr p) (fms ++ [blk]) g ∧
      c'.filemarkMap p = fms ++ [blk] := by
  have hcount : (c.meta_hdr p).filemark_count = fms.length := by
    rw [← hmap, filemarkMap, List.length_map, List.length_range]
  obtain ⟨alloc, halloc⟩ := c.check_filemarks_alloc_ok hlim
  let c₁ : Store := { c with filemark_alloc := alloc }
  let c₂ := c₁.setFilemark p fms.length blk
  let c₃ := c₂.setFilemarkCount p (fms.length + 1)
  have hin : Inside p c c₂ :=
    (Inside.filemark_alloc p c alloc).trans (Inside.setFilemark c₁ p _ _)
  have hcnt₃ : (c₃.meta_hdr p).filemark_count = fms.length + 1 := setFilemarkCount_same ..
  have hmap₃ : c₃.filemarkMap p = fms ++ [blk] := by
    have hupd : c₃.filemarks p = Function.update (c.filemarks p) fms.length blk :=
      Function.update_self ..
    have hold : (List.range fms.length).map (Function.update (c.filemarks p) fms.length blk) =
        (List.range fms.length).map (c.filemarks p) := by
      apply List.map_congr_left
      intro k hk
      exact Function.update_of_ne (Nat.ne_of_lt (List.mem_range.mp hk)) ..
    rw [filemarkMap, hcnt₃, hupd, List.range_succ, List.map_append, hold, List.map_singleton,
      Function.update_self, ← hcount, ← hmap, filemarkMap, hcount]
  have hio₃ : OkFor (metaCalls (c₃.meta_hdr p).filemark_count) c₃.io := by
    rw [hcnt₃, metaCalls, if_neg (by omega)]
    exact hio
  obtain ⟨c₄, g, hr, hin₄, hio₄, hpart, hrep⟩ := rewrite_meta_file_ok c₃ hp hfd hf hio₃
  rw [hmap₃] at hrep
  refine ⟨c₄, g, ?_, (hin.trans (Inside.setFilemarkCount c₂ p _)).trans hin₄, ?_, ?_, ?_, ?_, ?_⟩
  · simp only [add_filemark, hp, hcount, halloc, ne_eq, not_true_eq_false, if_false]
    exact hr
  · rw [hio₄, hcnt₃, metaCalls, if_neg (by omega)]
    rfl
  · intro k hk
    rw [hpart, PartView.setFile_other _ _ hk]
    rfl
  · rw [hpart, PartView.setFile_same]
  · have hm : c₄.meta_hdr p = c₃.meta_hdr p := congrArg PartView.meta_hdr hpart
    rw [hm]
    exact hrep
  · have hm : c₄.filemarkMap p = c₃.filemarkMap p := congrArg PartView.filemarkMap hpart
    rw [hm, hmap₃]

/-- The store stands at index `i` of partition `p`, whose files, arrays and
position all describe the records `l`. -/
structure At (c : Store) (p : ℕ) (l : List Record) (i : ℕ) : Prop where
  /-- The files and arrays of the partition. -/
  rep : Rep p (c.part p) l
  /-- The position. -/
  pos : c.raw_pos = headerAt p l i
  /-- It lies on the partition. -/
  le : i ≤ l.length
  /-- The files of this partition are open, and no others. -/
  fd : ∀ k q, c.fd k q = decide (q = p)
  /-- Partition numbers fit their field. -/
  part_lt : p < 2 ^ 32

namespace At

variable {c : Store} {p i : ℕ} {l : List Record}

theorem partition_id (h : At c p l i) : c.partition_id = p := by
  rw [Store.partition_id, h.pos, headerAt_partition_id]

theorem blk_number (h : At c p l i) : c.c_pos.blk_number = i := by
  rw [c_pos, h.pos, headerAt_blk_number]

theorem data_offset (h : At c p l i) : c.raw_pos.data_offset = offsetOf l i := by
  rw [h.pos, headerAt_data_offset]

theorem eod_iff (h : At c p l i) : c.c_pos.blk_type = B_EOD ↔ l.length ≤ i := by
  rw [c_pos, h.pos, headerAt_eod_iff]

theorem eod_blk (h : At c p l i) : c.eod_blk_number p = l.length := h.rep.eod_blk

theorem eod_off (h : At c p l i) : c.eod_data_offset p = offsetOf l l.length := h.rep.eod_off

/-- The files are open. -/
theorem opened (h : At c p l i) (k : FileKind) : c.fd k p = true := by
  rw [h.fd, decide_eq_true rfl]

/-- A tape is there. -/
theorem tape_loaded (h : At c p l i) : c.tape_loaded = (true, c) := by
  rw [Store.tape_loaded, h.partition_id, if_pos (h.opened .data)]

end At

/-- `mkEODHeader` makes the end of the files the position. -/
theorem mkEODHeader_at {c : Store} {p : ℕ} {l : List Record} (hd : OnDisk p (c.part p) l)
    (hp : c.partition_id = p) (hfd : ∀ k q, c.fd k q = decide (q = p)) (hlt : p < 2 ^ 32) :
    ∃ c', c.mkEODHeader l.length (offsetOf l l.length) = (0, c') ∧ At c' p l l.length ∧
      Frame p c c' ∧ c'.io = c.io ∧ c'.OK_to_write = true ∧ c'.status = c.status := by
  refine ⟨_, rfl, ⟨⟨⟨hd.indx, hd.data, hd.metaf, hd.marks⟩, ?_, ?_⟩, ?_, Nat.le_refl _, hfd, hlt⟩,
    ⟨?_, rfl, rfl, rfl, rfl, rfl, rfl⟩, rfl, rfl, rfl⟩
  · simp only [part, hp, Function.update_self]
  · simp only [part, hp, Function.update_self]
  · rw [headerAt_length, ← hp]
  · intro q hq
    rw [← hp] at hq
    simp only [part, Function.update_of_ne hq]

/-- One header and one map entry for each filemark. -/
theorem writeFilemarkHeaders_ok {p : ℕ} (n : ℕ) (c : Store) (l : List Record) (b : ℕ)
    (hd : OnDisk p (c.part p) l)
    (hpos : c.raw_pos = Record.filemark.header p b (offsetOf l l.length))
    (hfd : ∀ k, c.fd k p = true) (hlen : l.length + n < 2 ^ 32)
    (hlim : (filemarksOf l).length + n ≤ MAX_FILEMARKS) (hio : OkFor (4 * n) c.io) :
    ∃ c', c.writeFilemarkHeaders n l.length = (0, l.length + n, c') ∧ Frame p c c' ∧
      c'.io = c.io.drop (4 * n) ∧ c'.status = c.status ∧ c'.partition_id = p ∧
      OnDisk p (c'.part p) (l ++ List.replicate n .filemark) := by
  induction n generalizing c l b with
  | zero =>
    refine ⟨c, rfl, Frame.refl p c, rfl, rfl, ?_, ?_⟩
    · rw [partition_id, hpos, Record.header_partition_id]
    · rwa [List.replicate_zero, List.append_nil]
  | succ n ih =>
    obtain ⟨fi, hfi, hfir⟩ := hd.indx
    obtain ⟨fd, hfdt, hfdr⟩ := hd.data
    obtain ⟨fm, hfm, hfmr⟩ := hd.metaf
    let hdr := Record.filemark.header p l.length (offsetOf l l.length)
    let c₁ := c.setRawPos hdr
    let c₂ := c₁.putFile .indx p (fi.pwrite (l.length * HEADER_SIZE) (raw_header.enc hdr))
    have hset : c.setBlkNumber l.length = c₁ := by
      rw [setBlkNumber, hpos]
      rfl
    have hp₂ : c₂.partition_id = p := rfl
    have hfm₂ : c₂.dir.file .metaf p = some fm := by
      rw [putFile_file_other c₁ .indx p _ (by decide)]
      exact hfm
    have hw : c₁.pwrite .indx p (raw_header.enc hdr) (l.length * HEADER_SIZE) =
        ((HEADER_SIZE : ℤ), c₂) := by
      rw [pwrite_ok c₁ _ _ (hio.mono (Nat.le_add_left 1 _)).head (hfd _) hfi, raw_header.enc_length]
      rfl
    have hio₂ : OkFor 3 c₂.io := by
      apply OkFor.tail
      exact hio.mono (by omega)
    obtain ⟨c₃, g, hadd, hin₃, hio₃, hother, hg, hgr, hmap₃⟩ :=
      add_filemark_ok c₂ l.length hp₂ (hfd _) hfm₂ hd.marks (by omega) hio₂
    have hmarks : filemarksOf (l ++ [.filemark]) = filemarksOf l ++ [l.length] :=
      marks_concat Record.isFilemark l .filemark
    have hd₃ : OnDisk p (c₃.part p) (l ++ [.filemark]) := by
      refine ⟨⟨_, ?_, hfir.concat .filemark⟩, ⟨fd, ?_, hfdr.concat_other (fun _ => nofun)⟩,
        ⟨g, hg, ?_⟩, ?_⟩
      · rw [hother _ (by decide), putFile_part_same, PartView.setFile_same]
      · rw [hother _ (by decide), putFile_part_same, PartView.setFile_other _ _ (by decide)]
        exact hfdt
      · rw [hmarks]
        exact hgr
      · rw [hmarks]
        exact hmap₃
    have hlen₃ : (l ++ [Record.filemark]).length = l.length + 1 := by
      rw [List.length_append, List.length_singleton]
    have hoff₃ : offsetOf (l ++ [.filemark]) (l ++ [Record.filemark]).length =
        offsetOf l l.length := by
      rw [hlen₃, offsetOf_concat]
      rfl
    have hpos₃ : c₃.raw_pos = Record.filemark.header p l.length
        (offsetOf (l ++ [.filemark]) (l ++ [Record.filemark]).length) := by
      rw [hin₃.raw_pos, hoff₃]
      rfl
    have hlim₃ : (filemarksOf (l ++ [.filemark])).length + n ≤ MAX_FILEMARKS := by
      rw [hmarks, List.length_append, List.length_singleton]
      omega
    have hdrop : c₃.io = c.io.drop 4 := by
      rw [hio₃]
      change c.io.tail.drop 3 = _
      rw [← List.drop_one, List.drop_drop]
    obtain ⟨c₄, hrun, hfr₄, hio₄, hst₄, hp₄, hd₄⟩ := ih c₃ (l ++ [.filemark]) l.length hd₃ hpos₃
      (by rw [hin₃.fd]; exact hfd) (by omega) hlim₃ (by
        rw [hdrop]
        exact OkFor.drop (hio.mono (by omega)))
    have hfr₁ : Frame p c c₃ :=
      ((Frame.setRawPos p c hdr).trans (Inside.putFile c₁ ..).toFrame).trans hin₃.toFrame
    refine ⟨c₄, ?_, hfr₁.trans hfr₄, ?_, hst₄.trans (hin₃.status.trans rfl), hp₄, ?_⟩
    · have hmod : (l.length + 1) % 2 ^ 32 = l.length + 1 := Nat.mod_eq_of_lt (by omega)
      rw [hlen₃] at hrun
      have hp₁ : c₁.partition_id = p := rfl
      have hr₁ : c₁.raw_pos = hdr := rfl
      simp only [writeFilemarkHeaders, hset, hp₁, hr₁, hw, ne_eq, not_true_eq_false, if_false, hadd,
        hmod, hrun, Prod.mk.injEq, and_true, true_and]
      omega
    · rw [hio₄, hdrop, List.drop_drop]
      congr 1
      omega
    · rw [List.append_assoc] at hd₄
      rwa [List.replicate_succ, ← List.singleton_append]

end Store

end Mhvtl.Cart
