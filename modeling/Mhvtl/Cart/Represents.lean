import Mhvtl.Cart.Store

/-!
# What the files of a partition stand for

The three files and the in-memory arrays of a partition represent a sequence of
records when the indx file holds their headers, the data file their bytes, and
the meta file and the filemark map the block numbers of the filemarks. The
relation is followed through cutting and extending the files.
-/

namespace Mhvtl.Cart

open Records

/-- Cutting keeps the headers in front of the cut. -/
theorem headerAt_take (p : ℕ) (l : List Record) {i n : ℕ} (hi : i < n) (hn : n ≤ l.length) :
    headerAt p (l.take n) i = headerAt p l i := by
  have ht : i < (l.take n).length := by
    rw [List.length_take]
    omega
  rw [headerAt_of_lt p ht, headerAt_of_lt p (by omega : i < l.length), List.getElem_take,
    offsetOf_take l (Nat.le_of_lt hi)]

/-- Appending keeps the headers of the records that were there. -/
theorem headerAt_append (p : ℕ) (l m : List Record) {i : ℕ} (hi : i < l.length) :
    headerAt p (l ++ m) i = headerAt p l i := by
  have ht : i < (l ++ m).length := by
    rw [List.length_append]
    omega
  rw [headerAt_of_lt p ht, headerAt_of_lt p hi, List.getElem_append_left hi,
    offsetOf_append l m (Nat.le_of_lt hi)]

/-- The header of an appended record. -/
theorem headerAt_concat (p : ℕ) (l : List Record) (r : Record) :
    headerAt p (l ++ [r]) l.length = r.header p l.length (offsetOf l l.length) := by
  have ht : l.length < (l ++ [r]).length := by
    rw [List.length_append, List.length_singleton]
    exact Nat.lt_succ_self _
  rw [headerAt_of_lt p ht, List.getElem_concat_length rfl, offsetOf_append l [r] (Nat.le_refl _)]

/-- Whether the data file keeps the bytes of a record. -/
def Record.kept : Record → Bool
  | blank _ _ => false
  | _ => true

/-- The indx file holds exactly the headers of the records. -/
structure IndxRep (p : ℕ) (l : List Record) (f : File) : Prop where
  /-- One slot for each record. -/
  size : f.size = l.length * HEADER_SIZE
  /-- The slot of a record holds its header. -/
  slot : ∀ i, i < l.length → f.Stores (i * HEADER_SIZE) (raw_header.enc (headerAt p l i))

/-- The data file holds the bytes of the data blocks. -/
structure DataRep (l : List Record) (f : File) : Prop where
  /-- A data block lies at its offset. -/
  block : ∀ i b, l[i]? = some (.data b) → f.Stores (offsetOf l i) b.bytes
  /-- When every block is kept, the file ends with the last one. -/
  size : (∀ r ∈ l, r.kept) → f.size = offsetOf l l.length

/-- The meta file holds its header and the filemark map. -/
structure MetaRep (mh : MetaHeader) (fms : List ℕ) (f : File) : Prop where
  /-- Nothing follows the map. -/
  size : f.size = HEADER_SIZE + fms.length * 4
  /-- The header comes first. -/
  header : f.Stores 0 (meta_header.enc mh)
  /-- The map follows. -/
  map : f.Stores HEADER_SIZE ((Codec.uint 4).encList fms)

/-- Cutting the indx file at a slot. -/
theorem IndxRep.take {p : ℕ} {l : List Record} {f : File} (h : IndxRep p l f) {n : ℕ}
    (hn : n ≤ l.length) : IndxRep p (l.take n) (f.ftruncate (n * HEADER_SIZE)) where
  size := by rw [File.ftruncate_size, List.length_take_of_le hn]
  slot i hi := by
    rw [List.length_take_of_le hn] at hi
    rw [headerAt_take p l hi hn]
    apply (h.slot i (by omega)).ftruncate
    rw [raw_header.enc_length, raw_header_width, ← Nat.succ_mul]
    exact Nat.mul_le_mul_right _ hi

/-- Appending a header to the indx file. -/
theorem IndxRep.concat {p : ℕ} {l : List Record} {f : File} (h : IndxRep p l f) (r : Record) :
    IndxRep p (l ++ [r]) (f.pwrite (l.length * HEADER_SIZE)
      (raw_header.enc (r.header p l.length (offsetOf l l.length)))) where
  size := by
    have hlen := raw_header.enc_length (r.header p l.length (offsetOf l l.length))
    rw [raw_header_width] at hlen
    rw [File.pwrite_size (by rw [hlen]; decide), hlen, h.size, List.length_append,
      List.length_singleton, Nat.succ_mul]
    exact Nat.max_eq_right (Nat.le_add_right _ _)
  slot i hi := by
    rw [List.length_append, List.length_singleton] at hi
    rcases Nat.lt_or_eq_of_le (Nat.le_of_lt_succ hi) with hlt | heq
    · rw [headerAt_append p l [r] hlt]
      apply (h.slot i hlt).pwrite_before
      rw [raw_header.enc_length, raw_header_width, ← Nat.succ_mul]
      exact Nat.mul_le_mul_right _ hlt
    · subst heq
      rw [headerAt_concat]
      exact File.stores_pwrite_same ..

/-- Cutting the data file where a record starts. -/
theorem DataRep.take {l : List Record} {f : File} (h : DataRep l f) {n : ℕ} (hn : n ≤ l.length) :
    DataRep (l.take n) (f.ftruncate (offsetOf l n)) where
  block i b hb := by
    obtain ⟨hi, -⟩ := List.getElem?_eq_some_iff.mp hb
    rw [List.length_take_of_le hn] at hi
    rw [List.getElem?_take_of_lt hi] at hb
    obtain ⟨hl, hbl⟩ := List.getElem?_eq_some_iff.mp hb
    have hsucc := offsetOf_succ l hl
    rw [hbl] at hsucc
    rw [offsetOf_take l (Nat.le_of_lt hi)]
    apply (h.block i b hb).ftruncate
    exact Nat.le_trans (Nat.le_of_eq hsucc.symm) (offsetOf_mono l hi)
  size _ := by
    rw [File.ftruncate_size, List.length_take_of_le hn, offsetOf_take l (Nat.le_refl n)]

/-- Appending a data block to the data file. -/
theorem DataRep.concat_data {l : List Record} {f : File} (h : DataRep l f) (b : DataBlock) :
    DataRep (l ++ [.data b]) (f.pwrite (offsetOf l l.length) b.bytes) where
  block i b' hb := by
    obtain ⟨hi, -⟩ := List.getElem?_eq_some_iff.mp hb
    rw [List.length_append, List.length_singleton] at hi
    rcases Nat.lt_or_eq_of_le (Nat.le_of_lt_succ hi) with hlt | heq
    · rw [List.getElem?_append_left hlt] at hb
      rw [offsetOf_append l _ (Nat.le_of_lt hlt)]
      obtain ⟨hl, hbl⟩ := List.getElem?_eq_some_iff.mp hb
      have hsucc := offsetOf_succ l hl
      rw [hbl] at hsucc
      apply (h.block i b' hb).pwrite_before
      exact Nat.le_trans (Nat.le_of_eq hsucc.symm) (offsetOf_mono l hlt)
    · subst heq
      rw [List.getElem?_concat_length, Option.some.injEq, Record.data.injEq] at hb
      subst hb
      rw [offsetOf_append l _ (Nat.le_refl _)]
      exact File.stores_pwrite_same ..
  size hk := by
    have hl : f.size = offsetOf l l.length :=
      h.size fun r hr => hk r (List.mem_append_left _ hr)
    rw [List.length_append, List.length_singleton, offsetOf_concat]
    rcases Nat.eq_zero_or_pos b.bytes.length with h0 | hpos
    · rw [List.eq_nil_of_length_eq_zero h0, File.pwrite_nil, hl]
      simp only [Record.size, h0, Nat.add_zero]
    · rw [File.pwrite_size hpos, hl]
      exact Nat.max_eq_right (Nat.le_add_right _ _)

/-- Appending a record that puts nothing into the data file. -/
theorem DataRep.concat_other {l : List Record} {f : File} (h : DataRep l f) {r : Record}
    (hr : ∀ b, r ≠ .data b) : DataRep (l ++ [r]) f where
  block i b hb := by
    obtain ⟨hi, -⟩ := List.getElem?_eq_some_iff.mp hb
    rw [List.length_append, List.length_singleton] at hi
    rcases Nat.lt_or_eq_of_le (Nat.le_of_lt_succ hi) with hlt | heq
    · rw [List.getElem?_append_left hlt] at hb
      rw [offsetOf_append l _ (Nat.le_of_lt hlt)]
      exact h.block i b hb
    · subst heq
      rw [List.getElem?_concat_length, Option.some.injEq] at hb
      exact absurd hb (hr b)
  size hk := by
    have hl : f.size = offsetOf l l.length :=
      h.size fun r hr => hk r (List.mem_append_left _ hr)
    have hr0 : r.size = 0 := by
      have hkr := hk r (List.mem_append_right _ List.mem_cons_self)
      cases r with
      | data b => exact absurd rfl (hr b)
      | blank info n => exact absurd hkr Bool.false_ne_true
      | filemark => rfl
    rw [List.length_append, List.length_singleton, offsetOf_concat, hr0, hl, Nat.add_zero]

/-- The rewritten meta file, whatever it held before. -/
theorem MetaRep.rewrite (mh : MetaHeader) (fms : List ℕ) (f : File) :
    MetaRep mh fms (((f.pwrite 0 (meta_header.enc mh)).pwrite HEADER_SIZE
      ((Codec.uint 4).encList fms)).ftruncate (HEADER_SIZE + fms.length * 4)) where
  size := File.ftruncate_size ..
  header := by
    have hlen : (meta_header.enc mh).length = HEADER_SIZE := by
      rw [meta_header.enc_length, meta_header_width]
    apply File.Stores.ftruncate
    · exact (File.stores_pwrite_same ..).pwrite_before (by rw [hlen, Nat.zero_add])
    · rw [hlen]
      omega
  map := by
    apply File.Stores.ftruncate (File.stores_pwrite_same ..)
    rw [Codec.encList_length]
    exact Nat.le_refl _

/-- Writing nothing changes nothing. -/
theorem pwrite_nil_eq (f : File) (off : ℕ) : f.pwrite off [] = f := by
  cases f with
  | mk size byte hole =>
    simp only [File.pwrite, List.length_nil, File.mk.injEq, if_pos, true_and]
    funext i
    exact if_neg (by omega)

/-- What the store knows about one partition. -/
structure PartView where
  /-- The three files. -/
  file : FileKind → Option File
  /-- Entry of `meta`. -/
  meta_hdr : MetaHeader
  /-- Memory of the filemark map. -/
  filemarks : ℕ → ℕ
  /-- Entry of `eod_blk_number`. -/
  eod_blk_number : ℕ
  /-- Entry of `eod_data_offset`. -/
  eod_data_offset : ℕ

/-- The view of partition `p`. -/
def Store.part (c : Store) (p : ℕ) : PartView :=
  ⟨fun k => c.dir.file k p, c.meta_hdr p, c.filemarks p, c.eod_blk_number p, c.eod_data_offset p⟩

/-- The view with one file replaced. -/
def PartView.setFile (v : PartView) (k : FileKind) (f : File) : PartView :=
  { v with file := Function.update v.file k (some f) }

@[simp] theorem PartView.setFile_same (v : PartView) (k : FileKind) (f : File) :
    (v.setFile k f).file k = some f := Function.update_self ..

@[simp] theorem PartView.setFile_other (v : PartView) {k k' : FileKind} (f : File) (h : k' ≠ k) :
    (v.setFile k f).file k' = v.file k' := Function.update_of_ne h ..

@[simp] theorem PartView.setFile_setFile (v : PartView) (k : FileKind) (f g : File) :
    (v.setFile k f).setFile k g = v.setFile k g := by
  simp only [setFile, Function.update_idem]

/-- Entries of the filemark map in use. -/
def PartView.filemarkMap (v : PartView) : List ℕ :=
  (List.range v.meta_hdr.filemark_count).map v.filemarks

/-- The files and the filemark map represent `l`. -/
structure OnDisk (p : ℕ) (v : PartView) (l : List Record) : Prop where
  /-- The indx file is there and holds the headers. -/
  indx : ∃ f, v.file .indx = some f ∧ IndxRep p l f
  /-- The data file is there and holds the blocks. -/
  data : ∃ f, v.file .data = some f ∧ DataRep l f
  /-- The meta file is there and holds the map. -/
  metaf : ∃ f, v.file .metaf = some f ∧ MetaRep v.meta_hdr (filemarksOf l) f
  /-- The map in memory lists the filemarks. -/
  marks : v.filemarkMap = filemarksOf l

/-- Files, filemark map and end of data all represent `l`. -/
structure Rep (p : ℕ) (v : PartView) (l : List Record) : Prop extends OnDisk p v l where
  /-- Number of blocks. -/
  eod_blk : v.eod_blk_number = l.length
  /-- Size of the data. -/
  eod_off : v.eod_data_offset = offsetOf l l.length

/-- The stored count is the number of filemarks. -/
theorem OnDisk.filemark_count {p : ℕ} {v : PartView} {l : List Record} (h : OnDisk p v l) :
    v.meta_hdr.filemark_count = (filemarksOf l).length := by
  have hlen := congrArg List.length h.marks
  rwa [PartView.filemarkMap, List.length_map, List.length_range] at hlen

/-- Everything about partitions other than `p`, and what only mounting changes. -/
structure Frame (p : ℕ) (c c' : Store) : Prop where
  /-- The other partitions are as they were. -/
  part : ∀ q, q ≠ p → c'.part q = c.part q
  /-- The same files are open. -/
  fd : c'.fd = c.fd
  /-- The attributes in memory. -/
  mam : c'.mam = c.mam
  /-- The attribute files and their descriptors. -/
  attrs : c'.dir.mam = c.dir.mam ∧ c'.dir.mhvtl_data = c.dir.mhvtl_data ∧
    c'.mamfile = c.mamfile ∧ c'.mhvtlfile = c.mhvtlfile

theorem Frame.refl (p : ℕ) (c : Store) : Frame p c c :=
  ⟨fun _ _ => rfl, rfl, rfl, rfl, rfl, rfl, rfl⟩

/-- Moving the position. -/
theorem Frame.setRawPos (p : ℕ) (c : Store) (r : RawHeader) : Frame p c (c.setRawPos r) :=
  ⟨fun _ _ => rfl, rfl, rfl, rfl, rfl, rfl, rfl⟩

/-- Setting status and sense data. -/
theorem Frame.status (p : ℕ) (c : Store) (st : Status) : Frame p c { c with status := st } :=
  ⟨fun _ _ => rfl, rfl, rfl, rfl, rfl, rfl, rfl⟩

theorem Frame.trans {p : ℕ} {a b c : Store} (h : Frame p a b) (h' : Frame p b c) : Frame p a c where
  part q hq := (h'.part q hq).trans (h.part q hq)
  fd := h'.fd.trans h.fd
  mam := h'.mam.trans h.mam
  attrs := ⟨h'.attrs.1.trans h.attrs.1, h'.attrs.2.1.trans h.attrs.2.1,
    h'.attrs.2.2.1.trans h.attrs.2.2.1, h'.attrs.2.2.2.trans h.attrs.2.2.2⟩

/-- The next `n` host calls succeed. -/
def OkFor (n : ℕ) (io : List IoResult) : Prop := ∀ r ∈ io.take n, r = .ok

theorem OkFor.head {n : ℕ} {io : List IoResult} (h : OkFor (n + 1) io) : io.headD .ok = .ok := by
  cases io with
  | nil => rfl
  | cons r rs => exact h r List.mem_cons_self

theorem OkFor.tail {n : ℕ} {io : List IoResult} (h : OkFor (n + 1) io) : OkFor n io.tail := by
  cases io with
  | nil => exact fun s hs => absurd hs (by rw [List.tail_nil, List.take_nil]; exact List.not_mem_nil)
  | cons r rs => exact fun s hs => h s (List.mem_cons_of_mem r hs)

theorem OkFor.mono {m n : ℕ} {io : List IoResult} (h : OkFor n io) (hm : m ≤ n) : OkFor m io :=
  fun r hr => h r (List.take_subset_take_left io hm hr)

theorem OkFor.drop {m n : ℕ} {io : List IoResult} (h : OkFor (m + n) io) : OkFor n (io.drop m) := by
  intro r hr
  rw [List.take_drop] at hr
  exact h r (List.mem_of_mem_drop hr)

/-- A drained schedule never fails. -/
theorem okFor_nil (n : ℕ) : OkFor n [] := by
  intro r hr
  rw [List.take_nil] at hr
  exact absurd hr List.not_mem_nil

end Mhvtl.Cart
