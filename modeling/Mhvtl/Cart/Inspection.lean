import Mhvtl.Cart.Mount

/-!
# Loading files that do not fit each other

A load reads the files of a partition as far as they fit each other. What it has put into the
arrays by then is what the next unload writes to the meta file, and the file may come out another
one.
-/

namespace Mhvtl.Cart

open Bytes Store

/-- The header of a meta file. -/
def metaHeaderOf (f : File) : MetaHeader := meta_header.dec (f.pread 0 HEADER_SIZE)

/-- A load reads nothing of the meta file `f` of a partition: the index file is missing, or sizes
are checked and `f` has no room for a header. -/
def MetaUnread (dir : Dir) (error_check : Bool) (p : ℕ) (f : File) : Prop :=
  dir.file .indx p = none ∨ f.size % 2 ^ 32 < HEADER_SIZE ∧ error_check = true

/-- A load reads the header of the meta file `f` and none of its filemarks: there are too many of
them, or sizes are checked and that of `f` is another one. -/
def MapUnread (error_check : Bool) (f : File) : Prop :=
  let count := (metaHeaderOf f).filemark_count
  count ≠ 0 ∧ (2 ^ 32 < count + FM_DELTA ∨
    f.size % 2 ^ 32 ≠ HEADER_SIZE + count * 4 ∧ error_check = true)

/-- A load and an unload leave the meta file `f` of a partition as it was, when `left` is what an
earlier cartridge left of its header in the arrays. -/
structure MetaWrittenBack (dir : Dir) (error_check : Bool) (left : MetaHeader) (p : ℕ) (f : File) :
    Prop where
  /-- Of a file that was not read the header left over is written. -/
  unread : MetaUnread dir error_check p f →
    f.Stores 0 (meta_header.enc left) ∧ (left.filemark_count = 0 → f.size = HEADER_SIZE)
  /-- One that was read has the size that its header tells, or its filemarks were not read. -/
  read : ¬MetaUnread dir error_check p f → HEADER_SIZE ≤ f.size ∧
    (f.size = HEADER_SIZE + (metaHeaderOf f).filemark_count * 4 ∨ MapUnread error_check f)

namespace Store

/-- What the arrays hold of a partition is written over its meta file `f` without a change. -/
def WritesBack (c : Store) (p : ℕ) (f : File) : Prop :=
  if (c.meta_hdr p).filemark_count ≠ 0 ∧ c.filemark_alloc p = 0 then
    f.Stores 0 (meta_header.enc (c.meta_hdr p))
  else MetaRep (c.meta_hdr p) (c.filemarkMap p) f

/-- Blocks are counted only where the index file has headers for them. -/
def Backed (c : Store) : Prop := ∀ p, c.eod_blk_number p ≠ 0 →
  ∃ f, c.dir.file .indx p = some f ∧ c.eod_blk_number p * HEADER_SIZE ≤ f.size

end Store

section Meta

variable {c c' : Store} {p : ℕ} {f : File}

/-- Only the arrays matter. -/
theorem WritesBack.congr (hmeta : c'.meta_hdr p = c.meta_hdr p)
    (halloc : c'.filemark_alloc p = c.filemark_alloc p) (hmarks : c'.filemarks p = c.filemarks p) :
    c'.WritesBack p f ↔ c.WritesBack p f := by
  simp only [WritesBack, filemarkMap, hmeta, halloc, hmarks]

/-- Without a map the header is written, and the file is cut behind it when it counts nothing. -/
theorem writesBack_unmapped (halloc : c.filemark_alloc p = 0) : c.WritesBack p f ↔
    f.Stores 0 (meta_header.enc (c.meta_hdr p)) ∧
      ((c.meta_hdr p).filemark_count = 0 → f.size = HEADER_SIZE) := by
  unfold Store.WritesBack
  by_cases hcount : (c.meta_hdr p).filemark_count = 0
  · have hmap : c.filemarkMap p = [] := by
      rw [filemarkMap, hcount]
      rfl
    rw [if_neg fun hno => hno.1 hcount, hmap]
    constructor
    · intro h
      exact ⟨h.header, fun _ => h.size⟩
    · rintro ⟨hheader, hsize⟩
      exact ⟨hsize hcount, hheader, File.stores_nil f HEADER_SIZE⟩
  · rw [if_pos ⟨hcount, halloc⟩]
    exact ⟨fun h => ⟨h, fun hno => absurd hno hcount⟩, And.left⟩

/-- A file with room for a header starts with its header. -/
theorem header_stored (h : HEADER_SIZE ≤ f.size) :
    f.Stores 0 (meta_header.enc (metaHeaderOf f)) := by
  have hread : f.Stores 0 (f.pread 0 HEADER_SIZE) := File.stores_pread (by omega)
  have hlen : (f.pread 0 HEADER_SIZE).length = HEADER_SIZE := by
    rw [File.pread_length]
    omega
  rwa [metaHeaderOf, meta_header_enc_dec hlen]

/-- Arrays with the header of the file and no map. -/
theorem writesBack_header (h : HEADER_SIZE ≤ f.size) (hmeta : c.meta_hdr p = metaHeaderOf f)
    (halloc : c.filemark_alloc p = 0) :
    c.WritesBack p f ↔ ((metaHeaderOf f).filemark_count = 0 → f.size = HEADER_SIZE) := by
  rw [writesBack_unmapped halloc, hmeta]
  exact and_iff_right (header_stored h)

/-- Arrays with a map write the file back if it has the size that its header tells and its entries
were read. -/
theorem writesBack_mapped (h : HEADER_SIZE ≤ f.size) (hmeta : c.meta_hdr p = metaHeaderOf f)
    (halloc : c.filemark_alloc p ≠ 0) (old : ℕ → ℕ)
    (hmarks : c.filemarks p = fun i => (Codec.uint 4).overlay
      (((f.pread HEADER_SIZE ((metaHeaderOf f).filemark_count * 4)).drop (4 * i)).take 4)
      (old i)) :
    c.WritesBack p f ↔ f.size = HEADER_SIZE + (metaHeaderOf f).filemark_count * 4 := by
  unfold Store.WritesBack
  rw [if_neg fun hno => halloc hno.2]
  obtain ⟨n, hn⟩ : ∃ n, (metaHeaderOf f).filemark_count = n := ⟨_, rfl⟩
  rw [hn] at hmarks ⊢
  have hmap : (c.filemarkMap p).length = n := by
    rw [filemarkMap, List.length_map, List.length_range, hmeta, hn]
  constructor
  · intro hrep
    rw [← hmap]
    exact hrep.size
  · intro hsize
    have hlen : (f.pread HEADER_SIZE (n * 4)).length = n * 4 := by
      rw [File.pread_length, hsize]
      omega
    have hentries : c.filemarkMap p = (List.range n).map fun i =>
        (Codec.uint 4).dec (((f.pread HEADER_SIZE (n * 4)).drop (4 * i)).take 4) := by
      rw [filemarkMap, hmeta, hn, hmarks]
      refine List.map_congr_left fun i hi => ?_
      have hlt := List.mem_range.mp hi
      refine (Codec.uint 4).overlay_full ?_ _
      rw [List.length_take_of_le]
      · rfl
      · rw [List.length_drop, hlen]
        omega
    refine ⟨by rw [hmap]; exact hsize, by rw [hmeta]; exact header_stored h, ?_⟩
    rw [hentries, Codec.encList_entries hlen]
    exact File.stores_pread hsize.ge

/-- Room for filemarks where there was none. -/
theorem check_filemarks_alloc_cases (hp : c.partition_id = p) (halloc : c.filemark_alloc p = 0)
    {count : ℕ} (hcount : count ≠ 0) (hlt : count < 2 ^ 32) :
    (2 ^ 32 < count + FM_DELTA ∧ c.check_filemarks_alloc count = (-1, c)) ∨
      ∃ n, n ≠ 0 ∧ count + FM_DELTA ≤ 2 ^ 32 ∧ c.check_filemarks_alloc count =
        (0, { c with filemark_alloc := Function.update c.filemark_alloc p n }) := by
  have hdelta : FM_DELTA = 500 := rfl
  unfold Store.check_filemarks_alloc
  dsimp only
  rw [hp, halloc, if_pos (Nat.pos_of_ne_zero hcount)]
  by_cases hwrap : 2 ^ 32 < count + FM_DELTA
  · have hzero : (count + FM_DELTA - 1) % 2 ^ 32 / FM_DELTA * FM_DELTA = 0 := by
      rw [hdelta] at hwrap ⊢
      omega
    rw [if_pos hzero]
    exact Or.inl ⟨hwrap, rfl⟩
  · have hsome : (count + FM_DELTA - 1) % 2 ^ 32 / FM_DELTA * FM_DELTA ≠ 0 := by
      rw [hdelta] at hwrap ⊢
      omega
    rw [if_neg hsome]
    exact Or.inr ⟨_, hsome, Nat.not_lt.mp hwrap, rfl⟩

/-- Reading the meta file of a partition is about the arrays of this partition. -/
theorem load_meta_only (c : Store) (hp : c.partition_id = p) (error_check : Bool) : ∃ hdr alloc fm,
    (c.load_meta error_check p).2 = { c with
        meta_hdr := hdr, filemark_alloc := alloc, filemarks := fm } ∧
      ∀ q ≠ p, hdr q = c.meta_hdr q ∧ alloc q = c.filemark_alloc q ∧ fm q = c.filemarks q := by
  unfold Store.load_meta
  extract_lets st_size bs c₁ count
  have hhdr : ∀ q ≠ p, c₁.meta_hdr q = c.meta_hdr q := fun q hq => Function.update_of_ne hq _ _
  have hone : ∃ alloc, (c₁.check_filemarks_alloc count).2 = { c₁ with filemark_alloc := alloc } ∧
      ∀ q ≠ p, alloc q = c.filemark_alloc q := by
    have hp₁ : c₁.partition_id = p := hp
    unfold Store.check_filemarks_alloc
    dsimp only
    rw [hp₁]
    split
    · split
      · exact ⟨_, rfl, fun _ _ => rfl⟩
      · exact ⟨_, rfl, fun q hq => Function.update_of_ne hq _ _⟩
    · exact ⟨_, rfl, fun _ _ => rfl⟩
  obtain ⟨alloc, halloc, hother⟩ := hone
  generalize c₁.check_filemarks_alloc count = r at halloc
  obtain ⟨rc, c₂⟩ := r
  subst halloc
  have hsame : ∃ hdr alloc' fm, ({ c₁ with filemark_alloc := alloc } : Store) = { c with
        meta_hdr := hdr, filemark_alloc := alloc', filemarks := fm } ∧
      ∀ q ≠ p, hdr q = c.meta_hdr q ∧ alloc' q = c.filemark_alloc q ∧ fm q = c.filemarks q :=
    ⟨c₁.meta_hdr, alloc, c.filemarks, rfl, fun q hq => ⟨hhdr q hq, hother q hq, rfl⟩⟩
  split
  · exact ⟨c.meta_hdr, c.filemark_alloc, c.filemarks, rfl, fun _ _ => ⟨rfl, rfl, rfl⟩⟩
  split
  · exact ⟨c₁.meta_hdr, c.filemark_alloc, c.filemarks, rfl, fun q hq => ⟨hhdr q hq, rfl, rfl⟩⟩
  split
  · exact ⟨c₁.meta_hdr, c.filemark_alloc, c.filemarks, rfl, fun q hq => ⟨hhdr q hq, rfl, rfl⟩⟩
  dsimp only
  split
  · exact hsame
  split
  · exact hsame
  split
  · exact hsame
  have hread : ∀ bs' : List UInt8, ∃ hdr alloc' fm,
      ({ c₁ with filemark_alloc := alloc } : Store).readFilemarks p bs' = { c with
        meta_hdr := hdr, filemark_alloc := alloc', filemarks := fm } ∧
      ∀ q ≠ p, hdr q = c.meta_hdr q ∧ alloc' q = c.filemark_alloc q ∧ fm q = c.filemarks q :=
    fun _ => ⟨c₁.meta_hdr, alloc, _, rfl, fun q hq =>
      ⟨hhdr q hq, hother q hq, Function.update_of_ne hq _ _⟩⟩
  split
  · exact hread _
  · exact hread _

/-- Arrays without a map write a header at least. -/
theorem Store.WritesBack.whole (h : c.WritesBack p f) (halloc : c.filemark_alloc p = 0) :
    HEADER_SIZE ≤ f.size := by
  have hstored := ((writesBack_unmapped halloc).mp h).1
  have hlen : (meta_header.enc (c.meta_hdr p)).length = HEADER_SIZE := meta_header.enc_length _
  have hsize : HEADER_SIZE = 512 := rfl
  have hlast := (File.stores_iff.mp hstored (HEADER_SIZE - 1) (by omega)).1
  omega

/-- The number of filemarks in a header has four bytes. -/
theorem metaHeaderOf_filemark_count_lt (f : File) : (metaHeaderOf f).filemark_count < 2 ^ 32 := by
  have hval := leNat_lt ((f.pread 0 HEADER_SIZE).take 4)
  have hfour : ((f.pread 0 HEADER_SIZE).take 4).length ≤ 4 := List.length_take_le ..
  have hpow : 256 ^ ((f.pread 0 HEADER_SIZE).take 4).length ≤ 256 ^ 4 :=
    Nat.pow_le_pow_right (by decide) hfour
  exact hval.trans_le hpow

/-- Behind the reading of a meta file the arrays write it back exactly when the file says so. -/
theorem load_meta_writesBack (hp : c.partition_id = p) (hopen : c.fd .metaf p = true)
    (hf : c.dir.file .metaf p = some f) (hindx : c.dir.file .indx p ≠ none)
    (halloc : c.filemark_alloc p = 0) (error_check : Bool) :
    (c.load_meta error_check p).2.WritesBack p f ↔
      MetaWrittenBack c.dir error_check (c.meta_hdr p) p f := by
  have hread : ∀ (d : Store) {off n : ℕ}, d.fd = c.fd → d.dir = c.dir →
      d.pread .metaf p off n = some (f.pread off n) := by
    intro d off n hfd hdir
    simp only [Store.pread, hfd, hopen, hdir, hf]
  have hsize : c.fileSize .metaf p = f.size := by
    rw [Store.fileSize, hf]
    rfl
  unfold Store.load_meta
  extract_lets st_size bs c₁ count
  have hst : st_size = f.size % 2 ^ 32 := congrArg (· % 2 ^ 32) hsize
  have hbs : bs = f.pread 0 HEADER_SIZE := by
    change (c.pread .metaf p 0 HEADER_SIZE).getD [] = _
    rw [hread c rfl rfl]
    rfl
  have hlen : bs.length = min HEADER_SIZE f.size := by
    rw [hbs, File.pread_length, Nat.sub_zero]
  rw [hst]
  by_cases hshort : f.size % 2 ^ 32 < HEADER_SIZE ∧ error_check = true
  · -- nothing is read
    rw [if_pos hshort]
    refine (writesBack_unmapped halloc).trans ⟨fun h => ⟨fun _ => h, fun hno => ?_⟩, fun h => ?_⟩
    · exact absurd (Or.inr hshort) hno
    · exact h.unread (Or.inr hshort)
  have hmeta : ¬MetaUnread c.dir error_check p f := by
    rintro (hno | hno)
    · exact hindx hno
    · exact hshort hno
  have hiff : MetaWrittenBack c.dir error_check (c.meta_hdr p) p f ↔ HEADER_SIZE ≤ f.size ∧
      (f.size = HEADER_SIZE + (metaHeaderOf f).filemark_count * 4 ∨ MapUnread error_check f) :=
    ⟨fun h => h.read hmeta, fun h => ⟨fun hno => absurd hno hmeta, fun _ => h⟩⟩
  rw [if_neg hshort, hiff]
  by_cases hroom : HEADER_SIZE ≤ f.size
  swap
  · -- less than a header is read, and one is written
    rw [if_pos (by omega)]
    refine ⟨fun h => ?_, fun h => absurd h.1 hroom⟩
    have hwhole : c₁.WritesBack p f := h
    exact absurd (hwhole.whole halloc) hroom
  have hfull : bs.length = HEADER_SIZE := by omega
  have hhdr : c₁.meta_hdr p = metaHeaderOf f := by
    refine (Function.update_self ..).trans ?_
    rw [meta_header.overlay_full hfull, hbs]
    rfl
  have hcount : count = (metaHeaderOf f).filemark_count := congrArg MetaHeader.filemark_count hhdr
  rw [if_neg (not_not_intro hfull), ← hcount, and_iff_right hroom]
  -- arrays with the header and no map
  have hheader : c₁.WritesBack p f ↔ (count = 0 → f.size = HEADER_SIZE) := by
    rw [writesBack_header hroom hhdr halloc, hcount]
  have hunmapped : count ≠ 0 → c₁.WritesBack p f := fun h => hheader.mpr fun hno => absurd hno h
  have hempty : count = 0 → (c₁.WritesBack p f ↔
      f.size = HEADER_SIZE + count * 4 ∨ MapUnread error_check f) := by
    intro hzero
    have hno : ¬MapUnread error_check f := by
      rw [MapUnread, ← hcount]
      exact fun h => h.1 hzero
    rw [hheader, or_iff_left hno, hzero, Nat.zero_mul, Nat.add_zero]
    exact ⟨fun h => h rfl, fun h _ => h⟩
  by_cases hother : f.size % 2 ^ 32 ≠ HEADER_SIZE + count * 4 ∧ error_check = true
  · rw [if_pos hother]
    by_cases hzero : count = 0
    · exact hempty hzero
    · exact iff_of_true (hunmapped hzero) (Or.inr (by
        rw [MapUnread, ← hcount]
        exact ⟨hzero, Or.inr hother⟩))
  rw [if_neg hother]
  by_cases hzero : count = 0
  · have hnone : c₁.check_filemarks_alloc count = (0, c₁) := by
      simp only [Store.check_filemarks_alloc, hzero, Nat.not_lt_zero, if_false]
    rw [hnone]
    dsimp only
    rw [if_neg (fun hno => hno.1 rfl), if_pos hzero]
    exact hempty hzero
  have hlt : count < 2 ^ 32 := by
    rw [hcount]
    exact metaHeaderOf_filemark_count_lt f
  rcases check_filemarks_alloc_cases (c := c₁) hp halloc hzero hlt with
    ⟨hwrap, hnone⟩ | ⟨n, hn, hfits, hsome⟩
  · -- too many for a map
    have hright : MapUnread error_check f := by
      rw [MapUnread, ← hcount]
      exact ⟨hzero, Or.inl hwrap⟩
    rw [hnone]
    dsimp only
    split
    · exact iff_of_true (hunmapped hzero) (Or.inr hright)
    · rw [if_pos (by decide)]
      exact iff_of_true (hunmapped hzero) (Or.inr hright)
  · rw [hsome]
    dsimp only
    rw [if_neg (fun hno => hno.1 rfl), if_neg hzero, if_neg (not_not_intro rfl)]
    let c₂ : Store := { c₁ with filemark_alloc := Function.update c₁.filemark_alloc p n }
    have hmap : c₂.pread .metaf p HEADER_SIZE (count * 4) =
        some (f.pread HEADER_SIZE (count * 4)) :=
      hread c₂ rfl rfl
    rw [hmap, Option.getD_some]
    have hback : (c₂.readFilemarks p (f.pread HEADER_SIZE (count * 4))).WritesBack p f ↔
        f.size = HEADER_SIZE + count * 4 := by
      rw [hcount]
      refine writesBack_mapped hroom hhdr ?_ (c₁.filemarks p) (Function.update_self ..)
      change Function.update c₁.filemark_alloc p n p ≠ 0
      rw [Function.update_self]
      exact hn
    have hno : ¬MapUnread error_check f := by
      rw [MapUnread, ← hcount]
      rintro ⟨-, hwrap | hsz⟩
      · omega
      · exact hother hsz
    rw [or_iff_left hno]
    split
    · exact hback
    · exact hback

/-- Reading the index of a partition is about the end of its data. -/
theorem load_index_only (c : Store) (error_check : Bool) (p : ℕ) : ∃ blk off raw ok st,
    (c.load_index error_check p).2 = { c with
        eod_blk_number := blk, eod_data_offset := off, raw_pos := raw, OK_to_write := ok
        status := st } ∧
      (∀ q ≠ p, blk q = c.eod_blk_number q) ∧
      (blk p = c.eod_blk_number p ∨ blk p * HEADER_SIZE ≤ c.fileSize .indx p) := by
  unfold Store.load_index
  extract_lets eod c₁ count
  have hother : ∀ q ≠ p, c₁.eod_blk_number q = c.eod_blk_number q := fun q hq =>
    Function.update_of_ne hq _ _
  have hhere : c₁.eod_blk_number p * HEADER_SIZE ≤ c.fileSize .indx p := by
    have heod : c₁.eod_blk_number p = eod := Function.update_self ..
    have hle : eod ≤ c.fileSize .indx p / HEADER_SIZE := Nat.mod_le _ _
    rw [heod]
    exact (Nat.mul_le_mul_right _ hle).trans (Nat.div_mul_le_self _ _)
  split
  · exact ⟨_, _, _, _, _, rfl, fun _ _ => rfl, Or.inl rfl⟩
  split
  · exact ⟨_, _, _, _, _, rfl, hother, Or.inr hhere⟩
  have hread : ∃ rc raw ok st, (if eod = 0 then ((0 : ℤ), c₁) else c₁.read_header (eod - 1)) =
      (rc, { c₁ with raw_pos := raw, OK_to_write := ok, status := st }) := by
    split
    · exact ⟨_, _, _, _, rfl⟩
    · obtain ⟨raw, ok, st, heq⟩ := read_header_only c₁ (eod - 1)
      exact ⟨_, raw, ok, st, Prod.ext rfl heq⟩
  obtain ⟨rc, raw, ok, st, hrun⟩ := hread
  rw [hrun]
  dsimp only
  split
  · exact ⟨_, _, _, _, _, rfl, hother, Or.inr hhere⟩
  generalize (if eod = 0 then 0 else (raw.data_offset + raw.hdr.disk_blk_size) % 2 ^ 64) = off
  split
  · exact ⟨_, _, _, _, _, rfl, hother, Or.inr hhere⟩
  · exact ⟨_, _, _, _, _, rfl, hother, Or.inr hhere⟩

/-- Loading a partition is about its arrays, and leaves its files closed. -/
structure LoadedFrom (p : ℕ) (c c' : Store) : Prop where
  /-- The files. -/
  dir : c'.dir = c.dir
  /-- The host calls to come. -/
  io : c'.io = c.io
  /-- The attributes. -/
  mam : c'.mam = c.mam
  /-- What is open. -/
  fd : ∀ k q, c'.fd k q = if q = p then false else c.fd k q
  /-- The meta files of the other partitions. -/
  metas : ∀ q ≠ p, c'.meta_hdr q = c.meta_hdr q ∧ c'.filemark_alloc q = c.filemark_alloc q ∧
    c'.filemarks q = c.filemarks q
  /-- Their ends of data. -/
  ends : ∀ q ≠ p, c'.eod_blk_number q = c.eod_blk_number q
  /-- The own one. -/
  fits : c'.eod_blk_number p = c.eod_blk_number p ∨
    c'.eod_blk_number p * HEADER_SIZE ≤ c.fileSize .indx p

/-- Blocks are still counted only where there are headers for them. -/
theorem LoadedFrom.backed (h : LoadedFrom p c c') (hback : c.Backed) : c'.Backed := by
  intro q hq
  rw [h.dir]
  by_cases hqp : q = p
  · subst hqp
    rcases h.fits with hsame | hfits
    · rw [hsame] at hq ⊢
      exact hback q hq
    · cases hindx : c.dir.file .indx q with
      | none =>
        rw [Store.fileSize, hindx] at hfits
        have hzero : c'.eod_blk_number q * HEADER_SIZE = 0 := Nat.le_zero.mp hfits
        exact absurd ((Nat.mul_eq_zero.mp hzero).resolve_right (by decide)) hq
      | some f =>
        rw [Store.fileSize, hindx] at hfits
        exact ⟨f, rfl, hfits⟩
  · rw [h.ends q hqp] at hq ⊢
    exact hback q hq

/-- The partition is loaded as far as its files go, and its arrays write the meta file back exactly
when the files say so. -/
theorem load_partition_inspects (hp : c.partition_id = p)
    (hdata : (c.dir.file .data p).isSome = true) (halloc : c.filemark_alloc p = 0)
    (error_check : Bool) :
    LoadedFrom p c (c.load_partition error_check p).2 ∧ ∀ f, c.dir.file .metaf p = some f →
      ((c.load_partition error_check p).2.WritesBack p f ↔
        MetaWrittenBack c.dir error_check (c.meta_hdr p) p f) := by
  have hfd : ∀ k q, (((c.open_partition p).2.close_partition p).fd k q) =
      if q = p then false else c.fd k q := by
    intro k q
    by_cases hq : q = p
    · rw [if_pos hq]
      exact if_pos hq
    · rw [if_neg hq]
      exact (if_neg hq).trans (if_neg hq)
  obtain ⟨hdr, alloc, fm, hmeta, hothers⟩ := load_meta_only (c.open_partition p).2 hp error_check
  obtain ⟨blk, off, raw, ok, st, hindx, hends, hfits⟩ :=
    load_index_only ((c.open_partition p).2.load_meta error_check p).2 error_check p
  have hwrites : ∀ f, c.dir.file .metaf p = some f → c.dir.file .indx p ≠ none →
      (((c.open_partition p).2.load_meta error_check p).2.WritesBack p f ↔
        MetaWrittenBack c.dir error_check (c.meta_hdr p) p f) := by
    intro f hf hthere
    refine @load_meta_writesBack (c.open_partition p).2 p f hp ?_ hf hthere halloc error_check
    refine (if_pos rfl).trans ?_
    rw [hf]
    rfl
  unfold Store.load_partition
  rcases hopen : c.open_partition p with ⟨rc, c₁⟩
  rw [hopen] at hfd hmeta hothers hindx hends hfits hwrites
  have hrc : rc = if (c.dir.file .data p).isSome ∧ (c.dir.file .indx p).isSome ∧
      (c.dir.file .metaf p).isSome then 0 else 3 := (congrArg Prod.fst hopen).symm
  have hc₁ : c₁ = { c with fd := c₁.fd } := by
    have hsnd : (c.open_partition p).2 = c₁ := congrArg Prod.snd hopen
    rw [← hsnd]
    rfl
  dsimp only at hfd hmeta hothers hindx hends hfits hwrites ⊢
  have hsame : LoadedFrom p c (c₁.close_partition p) := by
    rw [hc₁]
    exact ⟨rfl, rfl, rfl, hfd, fun _ _ => ⟨rfl, rfl, rfl⟩, fun _ _ => rfl, Or.inl rfl⟩
  split
  · -- a file of the partition is missing
    rename_i hthree
    refine ⟨hsame, fun f hf => ?_⟩
    have hno : c.dir.file .indx p = none := by
      rw [hthree] at hrc
      by_contra hthere
      have hall : (c.dir.file .data p).isSome ∧ (c.dir.file .indx p).isSome ∧
          (c.dir.file .metaf p).isSome :=
        ⟨hdata, Option.isSome_iff_ne_none.mpr hthere, by rw [hf]; rfl⟩
      rw [if_pos hall] at hrc
      exact absurd hrc (by decide)
    rw [hc₁]
    refine (writesBack_unmapped halloc).trans ⟨fun h => ⟨fun _ => h, fun h' => ?_⟩, fun h => ?_⟩
    · exact absurd (Or.inl hno) h'
    · exact h.unread (Or.inl hno)
  rename_i hthree
  have hthere : c.dir.file .indx p ≠ none := by
    intro hno
    rw [hno] at hrc
    simp only [Option.isSome_none, Bool.false_eq_true, false_and, and_false, if_false] at hrc
    exact hthree hrc
  rcases hloaded : c₁.load_meta error_check p with ⟨rc₂, c₂⟩
  rw [hloaded] at hmeta hindx hends hfits hwrites
  dsimp only at hmeta hindx hends hfits hwrites ⊢
  subst hmeta
  have hotherc : ∀ q ≠ p, hdr q = c.meta_hdr q ∧ alloc q = c.filemark_alloc q ∧
      fm q = c.filemarks q := by
    intro q hq
    have hq' := hothers q hq
    rw [hc₁] at hq'
    exact hq'
  have hdir : c₁.dir = c.dir := by rw [hc₁]
  split
  · refine ⟨⟨hdir, ?_, ?_, hfd, hotherc, ?_, Or.inl ?_⟩, fun f hf => hwrites f hf hthere⟩
    · change c₁.io = c.io
      rw [hc₁]
    · change c₁.mam = c.mam
      rw [hc₁]
    · intro q _
      change c₁.eod_blk_number q = c.eod_blk_number q
      rw [hc₁]
    · change c₁.eod_blk_number p = c.eod_blk_number p
      rw [hc₁]
  · rcases hlast : Store.load_index _ error_check p with ⟨rc₃, c₃⟩
    rw [hlast] at hindx
    dsimp only at hindx ⊢
    subst hindx
    refine ⟨⟨hdir, ?_, ?_, hfd, hotherc, ?_, ?_⟩, fun f hf => hwrites f hf hthere⟩
    · change c₁.io = c.io
      rw [hc₁]
    · change c₁.mam = c.mam
      rw [hc₁]
    · intro q hq
      refine (hends q hq).trans ?_
      change c₁.eod_blk_number q = c.eod_blk_number q
      rw [hc₁]
    · have heod : c₁.eod_blk_number p = c.eod_blk_number p := by rw [hc₁]
      rcases hfits with hsame' | hfits'
      · exact Or.inl (hsame'.trans heod)
      · refine Or.inr ?_
        have hsz : c₁.fileSize .indx p = c.fileSize .indx p := by
          rw [Store.fileSize, Store.fileSize, hdir]
        exact hfits'.trans_eq hsz

end Meta

end Mhvtl.Cart
