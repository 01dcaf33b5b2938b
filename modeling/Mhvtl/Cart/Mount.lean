import Mhvtl.Cart.Loading
import Mhvtl.Cart.Positioning
import Mhvtl.Cart.Volume

/-!
# Loading what was recorded

The files of a cartridge that was taken out stand for the records of its partitions. A load reads
them into the arrays and opens the first partition, an unload writes back what was read.
-/

namespace Mhvtl.Cart

open Store

/-- The files of a partition, with the header of the meta file. -/
structure Kept (p : ℕ) (file : FileKind → Option File) (mh : MetaHeader) (l : List Record) : Prop where
  /-- The headers. -/
  indx : ∃ f, file .indx = some f ∧ IndxRep p l f
  /-- The blocks. -/
  data : ∃ f, file .data = some f ∧ DataRep l f
  /-- The filemarks. -/
  metaf : ∃ f, file .metaf = some f ∧ MetaRep mh (filemarksOf l) f
  /-- Their number. -/
  count : mh.filemark_count = (filemarksOf l).length

/-- A cartridge with `n` partitions that was taken out; the data of its blocks are kept unless the
medium is one that keeps none. -/
structure Shelved (n : ℕ) (dir : Dir) (keeps : Prop) (recs : ℕ → List Record) : Prop where
  /-- There is a partition. -/
  n_pos : 0 < n
  /-- The arrays have room for the partitions. -/
  n_le : n ≤ MAX_PARTITIONS
  /-- Their files. -/
  kept : ∀ q < n, ∃ mh, Kept q (dir.file · q) mh (recs q)
  /-- There are no others. -/
  absent : ∀ q, n ≤ q → ∀ k, dir.file k q = none
  /-- Block numbers stay below the largest one. -/
  bound : ∀ q < n, (recs q).length ≤ MAX_BLK_NUMBER + 1
  /-- The size of a meta file fits 32 bits. -/
  map : ∀ q < n, HEADER_SIZE + (filemarksOf (recs q)).length * 4 < 2 ^ 32
  /-- The blocks. -/
  blocks : keeps → ∀ q < n, ∀ r ∈ recs q, r.kept

section Files

variable {p : ℕ} {l : List Record} {mh : MetaHeader}

/-- The meta file is determined by what it stands for. -/
theorem MetaRep.unique {fms : List ℕ} {f g : File} (hf : MetaRep mh fms f) (hg : MetaRep mh fms g) :
    f = g := by
  have hhdr : (meta_header.enc mh).length = HEADER_SIZE := meta_header.enc_length _
  have hmap : ((Codec.uint 4).encList fms).length = fms.length * 4 := Codec.encList_length _ _
  refine File.eq_of_bytes (hf.size.trans hg.size.symm) fun i hlt => ?_
  by_cases hi : i < HEADER_SIZE
  · have h₁ := (File.stores_iff.mp hf.header) i (by omega)
    have h₂ := (File.stores_iff.mp hg.header) i (by omega)
    rw [Nat.zero_add] at h₁ h₂
    exact h₁.2.trans h₂.2.symm
  · have hsize := hf.size
    have h₁ := (File.stores_iff.mp hf.map) (i - HEADER_SIZE) (by omega)
    have h₂ := (File.stores_iff.mp hg.map) (i - HEADER_SIZE) (by omega)
    rw [Nat.add_sub_cancel' (Nat.le_of_not_lt hi)] at h₁ h₂
    exact h₁.2.trans h₂.2.symm

/-- A directory is its files. -/
theorem Dir.eq_of_parts {a b : Dir} (hfile : ∀ k q, a.file k q = b.file k q) (hmam : a.mam = b.mam)
    (hmhvtl : a.mhvtl_data = b.mhvtl_data) : a = b := by
  obtain ⟨fa, ma, ha⟩ := a
  obtain ⟨fb, mb, hb⟩ := b
  have hf : fa = fb := funext fun k => funext fun q => hfile k q
  have hm : ma = mb := hmam
  have hh : ha = hb := hmhvtl
  rw [hf, hm, hh]

end Files

section Meta

variable {c : Store} {p : ℕ} {l : List Record} {mh : MetaHeader}

/-- An entry of a list of numbers that fit their bytes. -/
theorem uint_entry {w : ℕ} {l : List ℕ} {i : ℕ} (hi : i < l.length) (hfit : l[i] < 256 ^ w) (old : ℕ) :
    (Codec.uint w).overlay ((((Codec.uint w).encList l).drop (w * i)).take w) old = l[i] := by
  induction l generalizing i with
  | nil => exact absurd hi (Nat.not_lt_zero i)
  | cons n l ih =>
    have hlen : ((Codec.uint w).enc n).length = w := (Codec.uint w).enc_length n
    have hcons : (Codec.uint w).encList (n :: l) = (Codec.uint w).enc n ++ (Codec.uint w).encList l :=
      List.flatMap_cons
    cases i with
    | zero =>
      rw [hcons, Nat.mul_zero, List.drop_zero, List.take_left' hlen,
        (Codec.uint w).overlay_full hlen]
      exact (Codec.uint w).dec_enc_self hfit
    | succ i =>
      have hdrop : ((Codec.uint w).enc n ++ (Codec.uint w).encList l).drop (w * (i + 1)) =
          ((Codec.uint w).encList l).drop (w * i) := by
        rw [Nat.mul_succ, Nat.add_comm, ← List.drop_drop, List.drop_left' hlen]
      rw [hcons, hdrop]
      exact ih (Nat.lt_of_succ_lt_succ hi) hfit

/-- The filemarks of a partition are read into the arrays. -/
theorem load_meta_ok (hopen : c.fd .metaf p = true)
    (h : Kept p (c.dir.file · p) mh l) (hl : l.length < 2 ^ 32)
    (hmap : HEADER_SIZE + (filemarksOf l).length * 4 < 2 ^ 32) (error_check : Bool) :
    ∃ alloc fm, c.load_meta error_check p = (0, { c with
        meta_hdr := Function.update c.meta_hdr p mh, filemark_alloc := alloc, filemarks := fm }) ∧
      (∀ q ≠ p, fm q = c.filemarks q) ∧
      (List.range mh.filemark_count).map (fm p) = filemarksOf l := by
  obtain ⟨f, hf, hrep⟩ := h.metaf
  have hcount := h.count
  have hhdr : (meta_header.enc mh).length = HEADER_SIZE := meta_header.enc_length _
  have hlen : ((Codec.uint 4).encList (filemarksOf l)).length = (filemarksOf l).length * 4 :=
    Codec.encList_length _ _
  have hfits : meta_header.Fits mh := by
    refine ⟨?_, trivial⟩
    change mh.filemark_count < 256 ^ 4
    omega
  have hfile : c.dir.file .metaf p = some f := hf
  have hsize : c.fileSize .metaf p % 2 ^ 32 = HEADER_SIZE + (filemarksOf l).length * 4 := by
    have hwhole : c.fileSize .metaf p = HEADER_SIZE + (filemarksOf l).length * 4 := by
      rw [Store.fileSize, hfile]
      exact hrep.size
    rw [hwhole, Nat.mod_eq_of_lt hmap]
  have hread : ∀ (d : Store) {off n : ℕ}, d.fd = c.fd → d.dir = c.dir →
      d.pread .metaf p off n = some (f.pread off n) := by
    intro d off n hfd hdir
    simp only [Store.pread, hfd, hopen, hdir, hfile]
  have hover : meta_header.overlay (meta_header.enc mh) (c.meta_hdr p) = mh := by
    rw [meta_header.overlay_full (meta_header.enc_length _), meta_header.dec_enc_self hfits]
  unfold Store.load_meta
  extract_lets st_size bs c₁ count
  have hst : st_size = HEADER_SIZE + (filemarksOf l).length * 4 := hsize
  have hbs : bs = meta_header.enc mh := by
    change (c.pread .metaf p 0 HEADER_SIZE).getD [] = _
    rw [hread c rfl rfl, hrep.header.pread_eq hhdr]
    rfl
  have hc₁ : c₁ = { c with meta_hdr := Function.update c.meta_hdr p mh } := by
    change { c with meta_hdr := Function.update c.meta_hdr p (meta_header.overlay bs (c.meta_hdr p)) } = _
    rw [hbs, hover]
  have hcount₁ : count = (filemarksOf l).length := by
    change (c₁.meta_hdr p).filemark_count = _
    rw [hc₁, ← hcount]
    exact congrArg MetaHeader.filemark_count (Function.update_self ..)
  have hmax : MAX_FILEMARKS = 4294966796 := rfl
  obtain ⟨alloc, halloc⟩ := @check_filemarks_alloc_ok c₁ count (by omega)
  rw [if_neg (by omega), if_neg (by rw [hbs]; exact not_not_intro hhdr), if_neg (by omega), halloc]
  dsimp only
  rw [if_neg (by simp)]
  by_cases hzero : count = 0
  · rw [if_pos hzero, hc₁]
    refine ⟨alloc, c.filemarks, rfl, fun _ _ => rfl, ?_⟩
    rw [hcount, ← hcount₁, hzero]
    exact (List.eq_nil_of_length_eq_zero (hcount₁.symm.trans hzero)).symm
  · rw [if_neg hzero, if_neg (by simp)]
    have hmapread : ({ c₁ with filemark_alloc := alloc } : Store).pread .metaf p HEADER_SIZE (count * 4) =
        some ((Codec.uint 4).encList (filemarksOf l)) := by
      rw [hread _ (by rw [hc₁]) (by rw [hc₁]), hcount₁, hrep.map.pread_eq hlen]
    rw [hmapread, Option.getD_some, if_neg (by rw [hlen, hcount₁]; simp), hc₁]
    refine ⟨alloc, _, rfl, fun q hq => Function.update_of_ne hq _ _, ?_⟩
    apply List.ext_getElem
    · rw [List.length_map, List.length_range, hcount]
    · intro i hi hi'
      have hfit : (filemarksOf l)[i] < 256 ^ 4 := by
        have hlt := Records.marks_lt Record.isFilemark (List.getElem_mem hi')
        omega
      rw [List.getElem_map, List.getElem_range]
      simp only [Function.update_self]
      exact uint_entry hi' hfit _

/-- A header in front of the end of data is read into the position. -/
theorem read_header_block (hp : c.partition_id = p) (hopen : c.fd .indx p = true)
    (hindx : ∃ f, c.dir.file .indx p = some f ∧ IndxRep p l f) (heod : c.eod_blk_number p = l.length)
    (hlt : p < 2 ^ 32) (hl : l.length < 2 ^ 32) {j : ℕ} (hj : j < l.length) :
    c.read_header j = (0, { c with raw_pos := headerAt p l j }) := by
  obtain ⟨f, hf, hrep⟩ := hindx
  have hlen := raw_header.enc_length (headerAt p l j)
  rw [raw_header_width] at hlen
  have hread : c.pread .indx p (j * HEADER_SIZE) HEADER_SIZE =
      some (raw_header.enc (headerAt p l j)) := by
    simp only [pread, hopen, hf, (hrep.slot j hj).pread_eq hlen]
  have hover : raw_header.overlay (raw_header.enc (headerAt p l j)) c.raw_pos = headerAt p l j := by
    rw [raw_header.overlay_full (raw_header.enc_length _), decode_headerAt hlt hl hj]
  have hnot : ¬l.length < j := by omega
  have hne : j ≠ l.length := by omega
  simp only [read_header, hp, heod, hnot, if_false, hne, hread, hover, hlen, ne_eq, not_true_eq_false]

/-- The end of data is taken from the index, and the data file is as long as it says. -/
theorem load_index_ok (hp : c.partition_id = p) (hopen : c.fd .indx p = true)
    (h : Kept p (c.dir.file · p) mh l) (hlt : p < 2 ^ 32) (hl : l.length < 2 ^ 32)
    (hmh : c.meta_hdr p = mh) (hmarks : (List.range mh.filemark_count).map (c.filemarks p) = filemarksOf l)
    (hkept : c.mam.MediumType ≠ MEDIA_TYPE_NULL → ∀ r ∈ l, r.kept) (error_check : Bool) :
    ∃ raw, c.load_index error_check p = (0, { c with
      eod_blk_number := Function.update c.eod_blk_number p l.length
      eod_data_offset := Function.update c.eod_data_offset p (offsetOf l l.length)
      raw_pos := raw }) ∧ raw.hdr.partition_id = p := by
  obtain ⟨f, hf, hrep⟩ := h.indx
  obtain ⟨g, hg, hdata⟩ := h.data
  have hH : HEADER_SIZE = 512 := rfl
  have hfile : c.fileSize .indx p = l.length * HEADER_SIZE := by
    rw [Store.fileSize, show c.dir.file .indx p = some f from hf]
    exact hrep.size
  have hsize : c.mam.MediumType ≠ MEDIA_TYPE_NULL → c.fileSize .data p = offsetOf l l.length := by
    intro htype
    rw [Store.fileSize, show c.dir.file .data p = some g from hg]
    exact hdata.size (hkept htype)
  unfold Store.load_index
  extract_lets eod c₁ count
  have heod : eod = l.length := by
    change c.fileSize .indx p / HEADER_SIZE % 2 ^ 32 = l.length
    rw [hfile, Nat.mul_div_cancel _ (by omega), Nat.mod_eq_of_lt hl]
  have hcount : count = (filemarksOf l).length := by
    change (c.meta_hdr p).filemark_count = _
    rw [hmh, h.count]
  -- the last filemark lies in front of the end of data
  have hlast : ¬(count ≠ 0 ∧ eod ≠ 0 ∧ eod ≤ c₁.filemarks p (count - 1)) := by
    rintro ⟨hcount₀, -, hle⟩
    have hlen : count - 1 < (filemarksOf l).length := by omega
    have hentry : c.filemarks p (count - 1) = (filemarksOf l)[count - 1] := by
      have hget := congrArg (·[count - 1]?) hmarks
      rw [List.getElem?_eq_getElem hlen, List.getElem?_map, List.getElem?_range (by
        rw [h.count]; exact hlen), Option.map_some, Option.some_inj] at hget
      exact hget
    have hmark := Records.marks_lt Record.isFilemark (List.getElem_mem hlen)
    change eod ≤ c.filemarks p (count - 1) at hle
    rw [hentry] at hle
    omega
  rw [if_neg (by rw [hfile]; simp), if_neg hlast]
  by_cases hzero : l.length = 0
  · have heod₀ : eod = 0 := heod.trans hzero
    have hempty : offsetOf l l.length = 0 := by rw [hzero, offsetOf_zero]
    simp only [heod₀, if_true, ne_eq, not_true_eq_false, if_false]
    rw [if_neg (fun hno => hno.2.1 ((hsize hno.1).trans hempty))]
    refine ⟨c.raw_pos, ?_, hp⟩
    rw [hempty, hzero]
    simp only [c₁, heod₀]
  · have heod₀ : eod ≠ 0 := by omega
    have hread := @read_header_block c₁ p l hp hopen ⟨f, hf, hrep⟩ (by
      change Function.update c.eod_blk_number p eod p = l.length
      rw [Function.update_self, heod]) hlt hl (l.length - 1) (by omega)
    have hblk : l.length - 1 < l.length := by omega
    -- the last record ends at the end of data
    have hend : (offsetOf l (l.length - 1) + l[l.length - 1].size) % 2 ^ 64 = offsetOf l l.length := by
      rw [← offsetOf_succ l hblk, Nat.sub_add_cancel (by omega), Nat.mod_eq_of_lt (offsetOf_lt hl)]
    have hraw : (headerAt p l (l.length - 1)).hdr.disk_blk_size = l[l.length - 1].size := by
      rw [headerAt_of_lt p hblk, Record.header_disk_blk_size]
    simp only [heod, hzero, if_false, hread, ne_eq, not_true_eq_false, headerAt_data_offset, hraw, hend]
    rw [if_neg (fun hno => hno.2.1 (hsize hno.1))]
    refine ⟨headerAt p l (l.length - 1), ?_, headerAt_partition_id ..⟩
    simp only [c₁, heod]

/-- A partition that was read into the arrays, with its files closed again. -/
structure Filled (p : ℕ) (l : List Record) (c c' : Store) : Prop where
  /-- The partition. -/
  rep : Rep p (c'.part p) l
  /-- The others are as they were. -/
  part : ∀ q ≠ p, c'.part q = c.part q
  /-- No file is open. -/
  closed : ∀ k q, c'.fd k q = false
  /-- The files themselves. -/
  dir : c'.dir = c.dir
  /-- The partition of the position. -/
  here : c'.partition_id = p
  /-- The attributes. -/
  mam : c'.mam = c.mam
  /-- The host calls to come. -/
  io : c'.io = c.io

/-- The files of a partition are read into the arrays. -/
theorem load_partition_ok (hp : c.partition_id = p) (hclosed : ∀ k q, c.fd k q = false)
    (h : Kept p (c.dir.file · p) mh l) (hlt : p < 2 ^ 32) (hl : l.length < 2 ^ 32)
    (hmap : HEADER_SIZE + (filemarksOf l).length * 4 < 2 ^ 32)
    (hkept : c.mam.MediumType ≠ MEDIA_TYPE_NULL → ∀ r ∈ l, r.kept) (error_check : Bool) :
    ∃ c', c.load_partition error_check p = (0, c') ∧ Filled p l c c' := by
  have hall : ∀ k, (c.dir.file k p).isSome = true := by
    obtain ⟨_, hindx, -⟩ := h.indx
    obtain ⟨_, hdata, -⟩ := h.data
    obtain ⟨_, hmeta, -⟩ := h.metaf
    intro k
    cases k with
    | data => rw [hdata]; rfl
    | indx => rw [hindx]; rfl
    | metaf => rw [hmeta]; rfl
  have hfd : ∀ k, (c.open_partition p).2.fd k p = true := fun k => (if_pos rfl).trans (hall k)
  have hrc : (c.open_partition p).1 = 0 := if_pos ⟨hall .data, hall .indx, hall .metaf⟩
  obtain ⟨alloc, fm, hmeta, hother, hmarks⟩ :=
    @load_meta_ok (c.open_partition p).2 p l mh (hfd .metaf) h hl hmap error_check
  let c₁ : Store := { (c.open_partition p).2 with
    meta_hdr := Function.update (c.open_partition p).2.meta_hdr p mh, filemark_alloc := alloc
    filemarks := fm }
  obtain ⟨raw, hindx, hraw⟩ := @load_index_ok c₁ p l mh hp (hfd .indx) h hlt hl
    (Function.update_self ..) hmarks hkept error_check
  have hopen : c.open_partition p = (0, (c.open_partition p).2) := Prod.ext hrc rfl
  unfold Store.load_partition
  rw [hopen]
  dsimp only
  rw [if_neg (by decide), hmeta]
  dsimp only
  rw [if_neg (by decide), hindx]
  refine ⟨_, rfl, ?_⟩
  obtain ⟨hi, hd, hm⟩ := And.intro h.indx (And.intro h.data h.metaf)
  have hhdr : Function.update (c.open_partition p).2.meta_hdr p mh p = mh := Function.update_self ..
  refine ⟨⟨⟨hi, hd, ?_, ?_⟩, Function.update_self .., Function.update_self ..⟩, ?_, ?_, rfl, hraw, rfl, rfl⟩
  · refine hm.imp fun f hf => ⟨hf.1, ?_⟩
    change MetaRep (Function.update (c.open_partition p).2.meta_hdr p mh p) (filemarksOf l) f
    rw [hhdr]
    exact hf.2
  · change (List.range (Function.update (c.open_partition p).2.meta_hdr p mh p).filemark_count).map
      (fm p) = _
    rw [hhdr, hmarks]
  · intro q hq
    have hfm : fm q = c.filemarks q := hother q hq
    simp only [Store.part, c₁, Store.close_partition, Function.update_of_ne hq, hfm]
    rfl
  · intro k q
    by_cases hq : q = p
    · exact if_pos hq
    · exact (if_neg hq).trans ((if_neg hq).trans (hclosed k q))

end Meta

section Volume

variable {n : ℕ} {c c' : Store} {dir : Dir} {keeps : Prop} {recs : ℕ → List Record}

/-- The first partitions of a cartridge were read, and its files are closed. -/
structure FilledTo (n p : ℕ) (dir : Dir) (recs : ℕ → List Record) (c : Store) : Prop where
  /-- The partitions that were read. -/
  rep : ∀ q < p, Rep q (c.part q) (recs q)
  /-- They were counted. -/
  count : c.mam.num_partitions = p
  /-- No more than there are. -/
  le : p ≤ n
  /-- No file is open. -/
  closed : ∀ k q, c.fd k q = false
  /-- The files of the cartridge. -/
  dir : c.dir = dir
  /-- The position. -/
  place : p ≠ 0 → c.partition_id < MAX_PARTITIONS
  /-- Every host call succeeds. -/
  io : c.io = []

/-- All partitions are read, one after the other. -/
theorem loadPartitions_ok (h : Shelved n dir keeps recs) {p m : ℕ} (hf : FilledTo n p dir recs c)
    (hkeeps : c.mam.MediumType ≠ MEDIA_TYPE_NULL → keeps) (hm : p + m = MAX_PARTITIONS)
    (error_check : Bool) :
    ∃ c', loadPartitions error_check m c = some c' ∧ FilledTo n n dir recs c' := by
  have hM : MAX_PARTITIONS = 4 := rfl
  have hn := h.n_le
  have hend : p = n → (c.dir.file .data c.mam.num_partitions).isSome = false := by
    intro hpn
    rw [hf.dir, hf.count, h.absent p (by omega), Option.isSome_none]
  induction m generalizing c p with
  | zero =>
    have hpn : p = n := Nat.le_antisymm hf.le (by omega)
    unfold loadPartitions
    rw [hend hpn, if_neg Bool.false_ne_true]
    subst hpn
    exact ⟨c, rfl, hf⟩
  | succ m ih =>
    unfold loadPartitions
    dsimp only
    by_cases hpn : p = n
    · rw [hend hpn, if_neg Bool.false_ne_true]
      subst hpn
      exact ⟨c, rfl, hf⟩
    · have hp : p < n := lt_of_le_of_ne hf.le hpn
      obtain ⟨mh, hk⟩ := h.kept p hp
      have hthere : (c.dir.file .data p).isSome = true := by
        obtain ⟨f, hdata, -⟩ := hk.data
        rw [hf.dir, hdata, Option.isSome_some]
      have hlen : (recs p).length < 2 ^ 32 := by
        have hb := h.bound p hp
        have hmax : MAX_BLK_NUMBER = 4294967280 := rfl
        omega
      have hfiles : Kept p ((c.setPartition p).dir.file · p) mh (recs p) := by
        change Kept p (c.dir.file · p) mh (recs p)
        rw [hf.dir]
        exact hk
      obtain ⟨c₁, hrun, hnew⟩ := @load_partition_ok (c.setPartition p) p (recs p) mh rfl hf.closed
        hfiles (by omega) hlen (h.map p hp) (fun hno => h.blocks (hkeeps hno) p hp) error_check
      rw [hf.count, if_pos hthere, hrun]
      have hother : p + 1 < 256 := by omega
      refine ih (p := p + 1) ?_ ?_ (by omega) ?_
      · refine ⟨?_, ?_, hp, hnew.closed, hnew.dir.trans hf.dir, fun _ => ?_,
          hnew.io.trans hf.io⟩
        · intro q hq
          by_cases hqp : q = p
          · subst hqp
            exact hnew.rep
          · have hpart : c₁.part q = c.part q := hnew.part q hqp
            have hrep := hf.rep q (by omega)
            rw [← hpart] at hrep
            exact hrep
        · rw [Mam.num_partitions, Mam.byte_putByte _ _ rfl, UInt8.toNat_ofNat_of_lt' hother]
        · change c₁.partition_id < MAX_PARTITIONS
          rw [hnew.here]
          omega
      · intro hno
        refine hkeeps fun htype => hno ?_
        have hmt : c₁.mam.MediumType = c.mam.MediumType := congrArg Mam.MediumType hnew.mam
        exact (Mam.byte_put_other c₁.mam _ (by decide)).trans (hmt.trans htype)
      · intro hpn'
        have hnum : (c₁.mam.putByte .num_partitions (UInt8.ofNat (p + 1))).num_partitions = p + 1 := by
          rw [Mam.num_partitions, Mam.byte_putByte _ _ rfl, UInt8.toNat_ofNat_of_lt' hother]
        change (c₁.dir.file .data
          (c₁.mam.putByte .num_partitions (UInt8.ofNat (p + 1))).num_partitions).isSome = false
        rw [hnum, hnew.dir]
        change (c.dir.file .data (p + 1)).isSome = false
        rw [hf.dir, h.absent (p + 1) (by omega), Option.isSome_none]

/-- What was taken out is mounted again, at the first block of the first partition. -/
theorem load_tape_ok {U : Updater} {pcl : Dir} {error_check : Bool}
    (hmam : c.load_mam U pcl error_check = (0, c')) (h : Shelved n c'.dir keeps recs)
    (hkeeps : c'.mam.MediumType ≠ MEDIA_TYPE_NULL → keeps)
    (hopen : c.fd .data c.partition_id = false) (hclosed : ∀ k q, c'.fd k q = false)
    (hio : c'.io = []) :
    ∃ b, c.load_tape U pcl error_check = some (0, b) ∧ Mounted n b recs ∧ At b 0 (recs 0) 0 ∧
      b.dir = c'.dir ∧ b.mam.num_partitions = n := by
  have hnum : (c'.mam.putByte .num_partitions 0).num_partitions = 0 := by
    rw [Mam.num_partitions, Mam.byte_putByte _ _ rfl]
    rfl
  have hnone : FilledTo n 0 c'.dir recs { c' with mam := c'.mam.putByte .num_partitions 0 } :=
    ⟨fun q hq => absurd hq (Nat.not_lt_zero q), hnum, Nat.zero_le n, hclosed, rfl,
      fun h0 => absurd rfl h0, hio⟩
  obtain ⟨c₁, hrun, hfull⟩ := loadPartitions_ok h hnone (fun hno => hkeeps fun htype =>
    hno ((Mam.byte_put_other c'.mam _ (by decide)).trans htype)) (Nat.zero_add _) error_check
  have hmounted : Mounted n c₁ recs := by
    refine ⟨h.n_le, hfull.rep, ?_, h.bound, Or.inr ⟨hfull.closed, ?_⟩, hfull.io⟩
    · rw [hfull.dir]
      exact h.absent
    · exact hfull.place (Nat.ne_of_gt h.n_pos)
  obtain ⟨-, hat⟩ := hmounted.change_partition (q := 0) (by decide)
  have hmax := hmounted.length_lt h.n_pos
  have hlt : (0 : ℕ) < 2 ^ 32 := by decide
  obtain ⟨c₂, hchange, hat₂, hpart, hmam₂, hio₂, -, -, hdir₂, -, -⟩ :=
    change_partition_opens hmounted.open_here (hmounted.rep 0 h.n_pos) hlt hmax
  let c₃ : Store := { c₂ with status := { c₂.status with sam_stat := SAM_STAT_GOOD } }
  have hat₃ : At c₃ 0 (recs 0) 0 := ⟨hat₂.rep, hat₂.pos, hat₂.le, hat₂.fd, hat₂.part_lt⟩
  have hread := hat₃.read_header_eq hmax (Nat.zero_le _)
  unfold Store.load_tape
  rw [hopen, if_neg Bool.false_ne_true, hmam]
  dsimp only
  rw [if_neg (not_not_intro rfl), hrun]
  dsimp only
  rw [hchange]
  dsimp only
  rw [hread]
  dsimp only
  rw [if_neg (not_not_intro rfl)]
  refine ⟨_, rfl, ⟨h.n_le, ?_, ?_, h.bound, Or.inl ⟨0, 0, h.n_pos, ?_⟩, hio₂.trans hfull.io⟩, ?_,
    hdir₂.trans hfull.dir, ?_⟩
  · intro q hq
    change Rep q (c₂.part q) (recs q)
    rw [hpart]
    exact hfull.rep q hq
  · intro q hq k
    change c₂.dir.file k q = none
    rw [hdir₂, hfull.dir]
    exact h.absent q hq k
  · exact ⟨hat₂.rep, rfl, hat₂.le, hat₂.fd, hat₂.part_lt⟩
  · exact ⟨hat₂.rep, rfl, hat₂.le, hat₂.fd, hat₂.part_lt⟩
  · change c₂.mam.num_partitions = n
    rw [hmam₂]
    exact hfull.count

/-- A meta file that holds what is in the arrays is written as it was. -/
theorem write_meta_out_same {p : ℕ} {f : File} (hp : c.partition_id = p) (hfd : c.fd .metaf p = true)
    (hf : c.dir.file .metaf p = some f) (h : MetaRep (c.meta_hdr p) (c.filemarkMap p) f)
    (hio : c.io = []) :
    ∃ c', c.write_meta_out = c' ∧ Inside p c c' ∧ c'.io = [] ∧ c'.part p = c.part p := by
  have hsame : ∀ c' : Store, c'.part p = (c.part p).setFile .metaf f → c'.part p = c.part p := by
    intro c' hpart
    have hview : (c.part p).file .metaf = some f := hf
    rw [hpart, PartView.setFile, ← hview, Function.update_eq_self]
  unfold Store.write_meta_out
  dsimp only
  rw [hp]
  split
  · have hok : c.io.headD .ok = .ok := by rw [hio]; rfl
    rw [pwrite_ok c _ _ hok hfd hf, h.header.pwrite_self]
    exact ⟨c.putFile .metaf p f, rfl, Inside.putFile c .metaf p f, by rw [putFile_io, hio]; rfl,
      hsame _ (putFile_part_same c .metaf p f)⟩
  · obtain ⟨c', g, hrun, hin, hio', hpart, hrep⟩ := rewrite_meta_file_ok c hp hfd hf
      (by rw [hio]; exact okFor_nil _)
    obtain rfl : g = f := hrep.unique h
    exact ⟨c', congrArg Prod.snd hrun, hin, by rw [hio', hio, List.drop_nil], hsame c' hpart⟩

/-- Writing out the meta file of a partition that was not changed leaves the files as they are. -/
theorem closeOut_ok (h : Mounted n c recs) {p : ℕ} (hp : p < n) :
    Mounted n (c.closeOut p) recs ∧ (c.closeOut p).dir = c.dir ∧
      (∀ k q, (c.closeOut p).fd k q = false) ∧ (c.closeOut p).mam = c.mam := by
  have hn := h.n_le
  have hM : MAX_PARTITIONS = 4 := rfl
  have hlt : p < 2 ^ 32 := by omega
  obtain ⟨c₁, hchange, hat, hpart, hmam, hio, -, -, hdir, -, -⟩ :=
    change_partition_opens h.open_here (h.rep p hp) hlt (h.length_lt hp)
  obtain ⟨f, hf, hmeta⟩ := hat.rep.metaf
  have hmarks : c₁.filemarkMap p = filemarksOf (recs p) := hat.rep.marks
  rw [← hmarks] at hmeta
  obtain ⟨c₂, hrun, hin, hio₂, hsame⟩ := write_meta_out_same hat.partition_id (hat.opened .metaf) hf
    hmeta (hio.trans h.io)
  have hparts : ∀ q, c₂.part q = c.part q := by
    intro q
    by_cases hq : q = p
    · rw [hq, hsame, hpart]
    · rw [hin.part q hq, hpart]
  have hdirs : c₂.dir = c.dir := by
    rw [← hdir]
    refine Dir.eq_of_parts (fun k q => ?_) hin.attrs.1 hin.attrs.2.1
    exact congrArg (fun v => v.file k) ((hparts q).trans (hpart q).symm)
  have hclose : c.closeOut p = c₂.close_partition p := by
    rw [Store.closeOut, hchange, hrun]
  rw [hclose]
  have hclosed : ∀ k q, (c₂.close_partition p).fd k q = false := by
    intro k q
    by_cases hq : q = p
    · exact if_pos hq
    · refine (if_neg hq).trans ?_
      rw [hin.fd, hat.fd, decide_eq_false hq]
  refine ⟨⟨h.n_le, fun q hq => ?_, fun q hq k => ?_, h.bound, Or.inr ⟨hclosed, ?_⟩, ?_⟩, hdirs, hclosed,
    hin.mam.trans hmam⟩
  · change Rep q (c₂.part q) (recs q)
    rw [hparts]
    exact h.rep q hq
  · change c₂.dir.file k q = none
    rw [hdirs]
    exact h.absent q hq k
  · have hpos : (c₂.close_partition p).raw_pos = c₁.raw_pos := hin.raw_pos
    rw [Store.partition_id, hpos]
    exact hat.partition_id.trans_lt (by omega)
  · exact hio₂

/-- Neither does writing out those of several partitions, one after the other. -/
theorem closeOuts_ok (h : Mounted n c recs) {m : ℕ} (hm : m ≤ n) :
    Mounted n ((List.range m).foldl closeOut c) recs ∧
      ((List.range m).foldl closeOut c).dir = c.dir ∧
      (0 < m → ∀ k q, ((List.range m).foldl closeOut c).fd k q = false) ∧
      ((List.range m).foldl closeOut c).mam = c.mam := by
  induction m with
  | zero => exact ⟨h, rfl, fun h0 => absurd h0 (Nat.lt_irrefl 0), rfl⟩
  | succ m ih =>
    obtain ⟨hmounted, hdir, -, hmam⟩ := ih (by omega)
    obtain ⟨hmounted', hdir', hclosed', hmam'⟩ := closeOut_ok hmounted (p := m) (by omega)
    rw [List.range_succ, List.foldl_append, List.foldl_cons, List.foldl_nil]
    exact ⟨hmounted', hdir'.trans hdir, fun _ => hclosed', hmam'.trans hmam⟩

/-- Unloading leaves the files as they are, all of them closed. -/
theorem unload_tape_ok (h : Mounted n c recs) (hcount : c.mam.num_partitions = n) (hn : 0 < n) :
    ∃ b, c.unload_tape = some b ∧ b.dir = c.dir ∧ (∀ k q, b.fd k q = false) ∧
      b.partition_id < MAX_PARTITIONS ∧ b.mam = c.mam ∧ b.io = [] ∧ b.mamfile = false := by
  obtain ⟨hmounted, hdir, hclosed, hmam⟩ := closeOuts_ok h (Nat.le_refl n)
  have hfull := h.n_le
  unfold Store.unload_tape
  rw [hcount, if_neg (by omega)]
  refine ⟨_, rfl, hdir, hclosed hn, ?_, hmam, hmounted.io, rfl⟩
  rcases hmounted.place with ⟨p, i, -, hat⟩ | ⟨-, hplace⟩
  · have hopened := hat.opened .data
    rw [hclosed hn] at hopened
    exact absurd hopened Bool.false_ne_true
  · exact hplace

end Volume

end Mhvtl.Cart
