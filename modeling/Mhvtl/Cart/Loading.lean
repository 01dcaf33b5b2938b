import Mhvtl.Cart.Layout
import Mhvtl.Cart.Outcomes

/-!
# Loading and unloading a cartridge

`load_tape` and `unload_tape` on the cartridge store, and the fact that no work on
the partitions touches the attributes, whatever the host calls do.
-/

namespace Mhvtl.Cart

/-- The programs that bring an old cartridge up to date: whether they succeed, and the
directory they leave. -/
structure Updater where
  /-- Takes the attributes out of the meta file. -/
  try_extract_mam : Dir → Bool × Dir
  /-- Brings the attribute format up to date. -/
  try_update_mam : Dir → Bool × Dir
  /-- Brings the cartridge format up to date. -/
  try_update_tape : Dir → Bool × Dir

namespace Store

/-- Size of a file, 0 when it is not there. -/
def fileSize (c : Store) (k : FileKind) (p : ℕ) : ℕ := ((c.dir.file k p).map File.size).getD 0

/-- A read into the filemark map: what arrived, over what was there. -/
def readFilemarks (c : Store) (p : ℕ) (bs : List UInt8) : Store :=
  { c with filemarks := Function.update c.filemarks p fun i =>
      (Codec.uint 4).overlay ((bs.drop (4 * i)).take 4) (c.filemarks p i) }

/-- The meta file of an open partition, its size compared in 32 bits. -/
def load_meta (c : Store) (error_check : Bool) (p : ℕ) : ℤ × Store :=
  let st_size := c.fileSize .metaf p % 2 ^ 32
  if st_size < HEADER_SIZE ∧ error_check then (2, c) else
  let bs := (c.pread .metaf p 0 HEADER_SIZE).getD []
  let c := { c with
    meta_hdr := Function.update c.meta_hdr p (meta_header.overlay bs (c.meta_hdr p)) }
  let count := (c.meta_hdr p).filemark_count
  if bs.length ≠ HEADER_SIZE then (2, c)
  else if st_size ≠ HEADER_SIZE + count * 4 ∧ error_check then (2, c)
  else
  let (rc, c) := c.check_filemarks_alloc count
  if rc ≠ 0 ∧ error_check then (3, c)
  else if count = 0 then (0, c)
  -- the map is null when it could not be allocated
  else if rc ≠ 0 then (2, c)
  else
  let bs := (c.pread .metaf p HEADER_SIZE (count * 4)).getD []
  let c := c.readFilemarks p bs
  if bs.length ≠ count * 4 ∧ error_check then (2, c) else (0, c)

/-- The index file and the size of the data file of an open partition. Of the filemark
map only the last entry is checked. -/
def load_index (c : Store) (error_check : Bool) (p : ℕ) : ℤ × Store :=
  if c.fileSize .indx p % HEADER_SIZE ≠ 0 then (2, c) else
  let eod := c.fileSize .indx p / HEADER_SIZE % 2 ^ 32
  let c := { c with eod_blk_number := Function.update c.eod_blk_number p eod }
  let count := (c.meta_hdr p).filemark_count
  if count ≠ 0 ∧ eod ≠ 0 ∧ eod ≤ c.filemarks p (count - 1) then (2, c) else
  let (rc, c) : ℤ × Store := if eod = 0 then (0, c) else c.read_header (eod - 1)
  if rc ≠ 0 then (3, c) else
  let off := if eod = 0 then 0 else (c.raw_pos.data_offset + c.raw_pos.hdr.disk_blk_size) % 2 ^ 64
  let c := { c with eod_data_offset := Function.update c.eod_data_offset p off }
  if c.mam.MediumType ≠ MEDIA_TYPE_NULL ∧ c.fileSize .data p ≠ off ∧ error_check then (2, c)
  else (0, c)

/-- Reads the files of a partition into the arrays. -/
def load_partition (c : Store) (error_check : Bool) (p : ℕ) : ℤ × Store :=
  let (rc, c) := c.open_partition p
  if rc = 3 then (0, c.close_partition p) else
  let (rc, c) := c.load_meta error_check p
  if rc ≠ 0 then (rc, c.close_partition p) else
  let (rc, c) := c.load_index error_check p
  (rc, c.close_partition p)

/-- The partitions that there are, from the number counted so far on. What is wrong
with one of them goes unnoticed. The arrays have room for `MAX_PARTITIONS`. -/
def loadPartitions (error_check : Bool) : ℕ → Store → Option Store
  | 0, c => if (c.dir.file .data c.mam.num_partitions).isSome then none else some c
  | n + 1, c =>
    let p := c.mam.num_partitions
    if (c.dir.file .data p).isSome then
      let c := ((c.setPartition p).load_partition error_check p).2
      loadPartitions error_check n
        { c with mam := c.mam.putByte .num_partitions (UInt8.ofNat (p + 1)) }
    else some c

/-- The two versions at the head of the mam file, read into the attributes. -/
def readVersions (c : Store) : Store :=
  let bs := c.dir.mam.getD []
  { c with mam := { c.mam with
      tape_fmt_version := (Codec.uint 4).overlay (bs.take 4) c.mam.tape_fmt_version
      mam_fmt_version := (Codec.uint 4).overlay ((bs.drop 4).take 4) c.mam.mam_fmt_version } }

/-- An update that is called for, and whether the load goes on behind it. -/
def updated (c : Store) (error_check needed : Bool) (update : Dir → Bool × Dir) : Bool × Store :=
  if !needed then (true, c) else
  let (ok, dir) := update c.dir
  let c := { c with dir := dir }
  if ok then (true, c) else (!error_check, { c with status := sam_medium_error E_MEDIUM_FMT_CORRUPT })

/-- The attributes of the cartridge `pcl`: 0, 2 when the format is bad, 3 when there are
none. They are read over those of the last cartridge. -/
def load_mam (U : Updater) (c : Store) (pcl : Dir) (error_check : Bool) : ℤ × Store :=
  let (found, dir) := if pcl.mam.isSome then (true, pcl) else U.try_extract_mam pcl
  let c := { c with dir := dir, mamfile := found ∧ dir.mam.isSome }
  if !found then (3, c) else
  if !c.mamfile ∧ error_check then (2, c) else
  let c := if c.mamfile then c.readVersions else c
  let (ok, c) := c.updated error_check (c.mam.mam_fmt_version ≠ MAM_VERSION) U.try_update_mam
  if !ok then (2, c) else
  let c := { c with mhvtlfile := c.dir.mhvtl_data.isSome }
  let c := { c with mam := (read_mam (if c.mamfile then c.dir.mam else none) c.dir.mhvtl_data c.mam).2 }
  let (ok, c) := c.updated error_check (c.mam.tape_fmt_version ≠ TAPE_FMT_VERSION) U.try_update_tape
  if !ok then (2, c) else (0, c)

/-- Loads the cartridge `pcl`: 0, 1 when there is one already, 2 when the format is bad, 3
when it cannot be opened. Sanity checks are made when the file that is to bypass them exists. -/
def load_tape (U : Updater) (c : Store) (pcl : Dir) (bypass_error_check : Bool) :
    Option (ℤ × Store) :=
  if c.fd .data c.partition_id then some (1, c) else
  match c.load_mam U pcl bypass_error_check with
  | (rc, c) =>
    if rc ≠ 0 then some (rc, c) else
    match loadPartitions bypass_error_check MAX_PARTITIONS
      { c with mam := c.mam.putByte .num_partitions 0 } with
    | none => none
    | some c =>
      let c := (c.change_partition 0).2
      let (rc, c) :=
        { c with status := { c.status with sam_stat := SAM_STAT_GOOD } : Store }.read_header 0
      if rc ≠ 0 then some (3, c.close_partition c.partition_id) else some (0, c)

/-- `rewrite_meta_file` behind a load: a map that the load did not allocate is NULL, and the host
writes the header but nothing of the map. -/
def write_meta_out (c : Store) : Store :=
  let p := c.partition_id
  if (c.meta_hdr p).filemark_count ≠ 0 ∧ c.filemark_alloc p = 0 then
    (c.pwrite .metaf p (meta_header.enc (c.meta_hdr p)) 0).2
  else c.rewrite_meta_file.2

/-- Writes the meta file of a partition out and closes it. -/
def closeOut (c : Store) (p : ℕ) : Store :=
  (c.change_partition p).2.write_meta_out.close_partition p

/-- Unloads the cartridge. -/
def unload_tape (c : Store) : Option Store :=
  if MAX_PARTITIONS < c.mam.num_partitions then none else
  let c := (List.range c.mam.num_partitions).foldl closeOut c
  some { c with
    filemark_alloc := fun _ => 0, eod_blk_number := fun _ => 0, eod_data_offset := fun _ => 0
    mamfile := false, mhvtlfile := false }

end Store

namespace SameAttrs

open Store

variable {a b c : Store}

/-- Work on the partition under the position. -/
theorem of_worked (h : Worked a b) : SameAttrs a b := by
  obtain ⟨_, _, _, _, _, _, _, _, rfl⟩ := h.eq
  exact ⟨rfl, rfl, rfl, rfl, rfl⟩

theorem of_called (h : Called a b) : SameAttrs a b := of_worked (Worked.of_called h)

/-- Setting status, permission, position or open files. -/
theorem settled (c : Store) (st : Status) (ok : Bool) (raw : RawHeader) (fd : FileKind → ℕ → Bool) :
    SameAttrs c { c with status := st, OK_to_write := ok, raw_pos := raw, fd := fd } :=
  ⟨rfl, rfl, rfl, rfl, rfl⟩

/-- Sense data behind some work. -/
theorem report (h : SameAttrs a b) (st : Status) : SameAttrs a { b with status := st } :=
  h.trans ⟨rfl, rfl, rfl, rfl, rfl⟩

/-- A new position behind some work. -/
theorem setRawPos (h : SameAttrs a b) (raw : RawHeader) : SameAttrs a (b.setRawPos raw) :=
  h.trans ⟨rfl, rfl, rfl, rfl, rfl⟩

/-- A new end of data behind some work. -/
theorem mkEODHeader (h : SameAttrs a b) (blk off : ℕ) : SameAttrs a (b.mkEODHeader blk off).2 :=
  h.trans ⟨rfl, rfl, rfl, rfl, rfl⟩

/-- A truncation behind some work. -/
theorem ftruncate (h : SameAttrs a b) (k : FileKind) (p len : ℕ) :
    SameAttrs a (b.ftruncate k p len).2 := h.trans (of_called (ftruncate_called b k p len).1)

/-- A write behind some work. -/
theorem pwrite (h : SameAttrs a b) (k : FileKind) (p : ℕ) (bs : List UInt8) (off : ℕ) :
    SameAttrs a (b.pwrite k p bs off).2 := h.trans (of_called (pwrite_called b k p bs off).1)

theorem tape_loaded (c : Store) : SameAttrs c c.tape_loaded.2 := by
  unfold Store.tape_loaded
  split
  · exact refl c
  · exact settled c _ c.OK_to_write c.raw_pos c.fd

theorem read_header (c : Store) (blk_number : ℕ) : SameAttrs c (c.read_header blk_number).2 := by
  unfold Store.read_header
  dsimp only
  split
  · exact refl c
  · split
    · exact ⟨rfl, rfl, rfl, rfl, rfl⟩
    · split
      · exact ⟨rfl, rfl, rfl, rfl, rfl⟩
      · split
        · exact ⟨rfl, rfl, rfl, rfl, rfl⟩
        · exact ⟨rfl, rfl, rfl, rfl, rfl⟩

theorem rewrite_meta_file (c : Store) : SameAttrs c c.rewrite_meta_file.2 :=
  of_called (rewrite_meta_file_called c rfl rfl).1

theorem write_meta_out (c : Store) : SameAttrs c c.write_meta_out := by
  unfold Store.write_meta_out
  dsimp only
  split
  · exact of_called (pwrite_called c .metaf c.partition_id _ 0).1
  · exact rewrite_meta_file c

theorem check_for_overwrite (c : Store) : SameAttrs c c.check_for_overwrite.2 :=
  of_worked (check_for_overwrite_left c).worked

/-- A guarded operation: a failure of the first part ends it. -/
theorem guarded {P : Prop} [Decidable P] {r r' : ℤ × Store} (h : SameAttrs a r.2)
    (h' : SameAttrs a r'.2) : SameAttrs a (if P then r else r').2 := by
  split
  · exact h
  · exact h'

theorem rewind_tape (c : Store) : SameAttrs c c.rewind_tape.2 := by
  unfold Store.rewind_tape
  have h₁ := tape_loaded c
  have h₂ := h₁.trans (read_header c.tape_loaded.2 0)
  exact guarded h₁ (guarded h₂ (h₂.trans (settled _ _ _ _ _)))

theorem position_to_eod (c : Store) : SameAttrs c c.position_to_eod.2 := by
  unfold Store.position_to_eod
  have h₁ := tape_loaded c
  have h₂ := h₁.trans (read_header c.tape_loaded.2
    (c.tape_loaded.2.eod_blk_number c.tape_loaded.2.partition_id))
  exact guarded h₁ (guarded h₂ (guarded (h₂.trans (settled _ _ _ _ _)) h₂))

theorem clearWormWrite (c : Store) : SameAttrs c c.clearWormWrite := by
  unfold Store.clearWormWrite
  split
  · exact settled c _ _ _ _
  · exact refl c

theorem position_to_block (c : Store) (blk_number : ℕ) :
    SameAttrs c (c.position_to_block blk_number).2 := by
  unfold Store.position_to_block
  have h₁ := tape_loaded c
  have h₂ := h₁.trans (clearWormWrite _)
  refine guarded h₁ (guarded ?_ (guarded (h₂.trans (rewind_tape _)) (h₂.trans (read_header _ _))))
  exact (h₂.trans (settled _ (sam_blank_check E_END_OF_DATA) _ _ _)).trans (position_to_eod _)

/-- A header is read, and a positioning command stops there. -/
theorem stopShort (h : SameAttrs a b) (blk_number : ℕ) (s : Status) (residual : ℕ) :
    SameAttrs a (if (b.read_header blk_number).1 ≠ 0 then (-1, (b.read_header blk_number).2)
      else (b.read_header blk_number).2.stopShort s residual).2 := by
  have h₁ := h.trans (read_header b blk_number)
  exact guarded h₁ (h₁.trans (settled _ _ _ _ _))

theorem position_blocks_forw (c : Store) (count : ℕ) :
    SameAttrs c (c.position_blocks_forw count).2 := by
  unfold Store.position_blocks_forw
  have h₁ := tape_loaded c
  have h₂ := h₁.trans (clearWormWrite _)
  refine guarded h₁ ?_
  dsimp only
  split
  · exact guarded (h₂.trans (position_to_block _ _)) (stopShort h₂ _ _ _)
  · exact guarded (stopShort h₂ _ _ _) (h₂.trans (position_to_block _ _))

theorem position_blocks_back (c : Store) (count : ℕ) :
    SameAttrs c (c.position_blocks_back count).2 := by
  unfold Store.position_blocks_back
  have h₁ := tape_loaded c
  have h₂ := h₁.trans (clearWormWrite _)
  refine guarded h₁ ?_
  dsimp only
  split
  · exact guarded (h₂.trans (position_to_block _ _)) (stopShort h₂ _ _ _)
  · exact h₂.trans (position_to_block _ _)

theorem position_filemarks_forw (c : Store) (count : ℕ) :
    SameAttrs c (c.position_filemarks_forw count).2 := by
  unfold Store.position_filemarks_forw
  have h₁ := tape_loaded c
  have h₂ := h₁.trans (clearWormWrite _)
  exact guarded h₁ (guarded (h₂.trans (position_to_block _ _)) (stopShort h₂ _ _ _))

theorem position_filemarks_back (c : Store) (count : ℕ) :
    SameAttrs c (c.position_filemarks_back count).2 := by
  unfold Store.position_filemarks_back
  have h₁ := tape_loaded c
  have h₂ := h₁.trans (clearWormWrite _)
  refine guarded h₁ (guarded (h₂.trans (position_to_block _ _)) ?_)
  exact stopShort h₂ 0 (sam_no_sense SD_EOM E_BOM) _

theorem change_partition (c : Store) (p : ℕ) : SameAttrs c (c.change_partition p).2 := by
  unfold Store.change_partition
  have h₁ : SameAttrs c (((c.close_partition c.partition_id).setPartition p).open_partition p).2 :=
    ⟨rfl, rfl, rfl, rfl, rfl⟩
  exact (h₁.trans (read_header _ 0)).trans (settled _ _ _ _ _)

theorem zero_filemark_count (c : Store) : SameAttrs c c.zero_filemark_count := by
  unfold Store.zero_filemark_count
  extract_lets p c₁
  have h₁ : SameAttrs c (c₁.setFilemarkCount p 0) := ⟨rfl, rfl, rfl, rfl, rfl⟩
  exact h₁.trans (rewrite_meta_file _)

theorem format_partition (c : Store) : SameAttrs c c.format_partition.2 := by
  unfold Store.format_partition
  have h₁ := tape_loaded c
  have h₂ := h₁.trans (check_for_overwrite _)
  have h₃ := h₂.trans (zero_filemark_count _)
  exact guarded h₁ (guarded h₂ (h₃.trans ⟨rfl, rfl, rfl, rfl, rfl⟩))

theorem erase_partition (c : Store) : SameAttrs c c.erase_partition := by
  unfold Store.erase_partition
  extract_lets hdr c₁
  have h₁ : SameAttrs c c₁ := ⟨rfl, rfl, rfl, rfl, rfl⟩
  exact (h₁.trans (format_partition _)).trans ⟨rfl, rfl, rfl, rfl, rfl⟩

theorem create_partition (c : Store) (p : ℕ) : SameAttrs c (c.create_partition p).2 := by
  unfold Store.create_partition
  extract_lets dir c₁
  have h₁ : SameAttrs c c₁ := ⟨rfl, rfl, rfl, rfl, rfl⟩
  have h₂ := h₁.trans (of_called (pwrite_called c₁ .metaf p (meta_header.enc MetaHeader.zero) 0).1)
  exact guarded (h₂.trans ⟨rfl, rfl, rfl, rfl, rfl⟩) (h₂.trans ⟨rfl, rfl, rfl, rfl, rfl⟩)

theorem erasePartitions {n p : ℕ} (h : a.erasePartitions n p = some b) : SameAttrs a b := by
  induction n generalizing a p with
  | zero =>
    unfold Store.erasePartitions at h
    split at h
    · cases h
    · obtain rfl := Option.some.inj h
      exact refl a
  | succ n ih =>
    unfold Store.erasePartitions at h
    split at h
    · exact ((change_partition a p).trans (erase_partition _)).trans (ih h)
    · obtain rfl := Option.some.inj h
      exact refl a

/-- What every round of a loop leaves alone, the loop does. -/
theorem foldl {f : Store → ℕ → Store} (hf : ∀ c p, SameAttrs c (f c p)) (l : List ℕ) (c : Store) :
    SameAttrs c (l.foldl f c) := by
  induction l generalizing c with
  | nil => exact refl c
  | cons p l ih => exact (hf c p).trans (ih (f c p))

theorem format_tape (h : a.format_tape = some b) : SameAttrs a b := by
  unfold Store.format_tape at h
  split at h
  · cases h
  · rename_i c₁ herase
    split at h
    · cases h
    · obtain rfl := Option.some.inj h
      exact ((erasePartitions herase).trans (foldl create_partition _ _)).trans
        (change_partition _ 0)

theorem check_filemarks_alloc (c : Store) (count : ℕ) :
    SameAttrs c (c.check_filemarks_alloc count).2 := by
  unfold Store.check_filemarks_alloc
  exact guarded (guarded (refl c) ⟨rfl, rfl, rfl, rfl, rfl⟩) (refl c)

theorem add_filemark (c : Store) (blk_number : ℕ) : SameAttrs c (c.add_filemark blk_number).2 := by
  unfold Store.add_filemark
  have h₁ := check_filemarks_alloc c ((c.meta_hdr c.partition_id).filemark_count + 1)
  refine guarded h₁ (SameAttrs.trans (h₁.trans ?_) (rewrite_meta_file _))
  exact ⟨rfl, rfl, rfl, rfl, rfl⟩

theorem writeFilemarkHeaders (c : Store) (count blk_number : ℕ) :
    SameAttrs c (c.writeFilemarkHeaders count blk_number).2.2 := by
  induction count generalizing c blk_number with
  | zero => exact refl c
  | succ count ih =>
    unfold Store.writeFilemarkHeaders
    extract_lets c₁
    have h₁ : SameAttrs c c₁ := ⟨rfl, rfl, rfl, rfl, rfl⟩
    have h₂ := h₁.trans (of_called (pwrite_called c₁ .indx c₁.partition_id (raw_header.enc c₁.raw_pos)
      (blk_number * HEADER_SIZE)).1)
    dsimp only
    split
    · exact h₂.trans (settled _ _ _ _ _)
    · exact (h₂.trans (add_filemark _ blk_number)).trans (ih _ _)

theorem write_filemarks (c : Store) (count : ℕ) : SameAttrs c (c.write_filemarks count).2 := by
  unfold Store.write_filemarks
  have h₁ := tape_loaded c
  rcases hloaded : c.tape_loaded with ⟨loaded, c₁⟩
  rw [hloaded] at h₁
  have h₂ := h₁.trans (check_for_overwrite c₁)
  refine guarded h₁ (guarded h₁ ?_)
  rcases hcut : c₁.check_for_overwrite with ⟨rc, c₂⟩
  rw [hcut] at h₂
  refine guarded h₂ ?_
  extract_lets blk_number data_offset c₃
  have h₃ : SameAttrs c c₃ := h₂.setRawPos _
  have h₄ := h₃.trans (writeFilemarkHeaders c₃ count blk_number)
  exact guarded h₄ (h₄.mkEODHeader _ _)

theorem read_tape_block (c : Store) (buf_size : ℕ) : SameAttrs c (c.read_tape_block buf_size).2 := by
  have h₁ := tape_loaded c
  unfold Store.read_tape_block
  rcases hloaded : c.tape_loaded with ⟨loaded, c₁⟩
  rw [hloaded] at h₁
  have h₂ := h₁.trans (read_header c₁ ((c₁.c_pos.blk_number + 1) % 2 ^ 32))
  dsimp only
  split
  · exact h₁
  · split
    · exact h₁.trans ⟨rfl, rfl, rfl, rfl, rfl⟩
    · split
      · exact h₁
      · split
        · exact h₁
        · split
          · exact h₂
          · exact h₂

/-- A block, whatever the host calls do and the medium is. -/
theorem write_tape_block (c : Store) (a : BlockArgs) : SameAttrs c (c.write_tape_block a).2 := by
  have h₁ := tape_loaded c
  unfold Store.write_tape_block
  rcases hloaded : c.tape_loaded with ⟨loaded, c₁⟩
  rw [hloaded] at h₁
  have h₂ := h₁.trans (check_for_overwrite c₁)
  refine guarded h₁ ?_
  rcases hcut : c₁.check_for_overwrite with ⟨rc, c₂⟩
  rw [hcut] at h₂
  refine guarded h₂ ?_
  extract_lets blk_number p data_offset size c₃
  have h₃ : SameAttrs c c₃ := h₂.setRawPos _
  let r := if a.null_media_type then ((size : ℤ), c₃) else c₃.pwrite .data p a.bytes data_offset
  have h₄ : SameAttrs c r.2 := guarded h₃ (h₃.pwrite _ _ _ _)
  refine guarded h₂ ?_
  refine guarded (r := (-1, _)) ?_ ?_
  · exact ((h₄.report _).ftruncate .data p data_offset).mkEODHeader _ _
  · have h₅ := h₄.pwrite .indx p (raw_header.enc r.2.raw_pos) (blk_number * HEADER_SIZE)
    refine guarded (r := (-1, _)) ?_ (h₅.mkEODHeader _ _)
    refine SameAttrs.mkEODHeader (b := if a.null_media_type then _ else _) ?_ _ _
    have h₆ := (h₅.report (sam_medium_error E_WRITE_ERROR)).ftruncate .indx p
      ((blk_number + 2 ^ 32 - 1) % 2 ^ 32 * HEADER_SIZE)
    split
    · exact h₆
    · exact h₆.ftruncate .data p data_offset

end SameAttrs

/-- The ends of data of the partitions other than `p` stay. -/
def EndsKept (p : ℕ) (a b : Store) : Prop :=
  ∀ q, q ≠ p → b.eod_blk_number q = a.eod_blk_number q ∧ b.eod_data_offset q = a.eod_data_offset q

namespace EndsKept

variable {p : ℕ} {a b c : Store}

theorem refl (p : ℕ) (c : Store) : EndsKept p c c := fun _ _ => ⟨rfl, rfl⟩

theorem trans (h : EndsKept p a b) (h' : EndsKept p b c) : EndsKept p a c := fun q hq =>
  ⟨(h' q hq).1.trans (h q hq).1, (h' q hq).2.trans (h q hq).2⟩

/-- The arrays themselves are kept. -/
theorem of_same (hblk : b.eod_blk_number = a.eod_blk_number)
    (hoff : b.eod_data_offset = a.eod_data_offset) : EndsKept p a b := fun _ _ =>
  ⟨by rw [hblk], by rw [hoff]⟩

/-- A guarded operation. -/
theorem guarded {P : Prop} [Decidable P] {r r' : ℤ × Store} (h : EndsKept p a r.2)
    (h' : EndsKept p a r'.2) : EndsKept p a (if P then r else r').2 := by
  split
  · exact h
  · exact h'

/-- An update of the cartridge. -/
theorem updated (h : EndsKept p a b) (error_check needed : Bool) (update : Dir → Bool × Dir) :
    EndsKept p a (b.updated error_check needed update).2 := by
  unfold Store.updated
  split
  · exact h
  · dsimp only
    split
    · exact h.trans (of_same rfl rfl)
    · exact h.trans (of_same rfl rfl)

/-- The attributes are read. -/
theorem load_mam (p : ℕ) (U : Updater) (c : Store) (pcl : Dir) (error_check : Bool) :
    EndsKept p c (c.load_mam U pcl error_check).2 := by
  unfold Store.load_mam
  generalize (if pcl.mam.isSome then (true, pcl) else U.try_extract_mam pcl) = r
  obtain ⟨found, dir⟩ := r
  have hversions : ∀ {b : Store}, EndsKept p c b →
      EndsKept p c (if b.mamfile then b.readVersions else b) := by
    intro b h
    split
    · exact h.trans (of_same rfl rfl)
    · exact h
  have h₁ : EndsKept p c { c with dir := dir, mamfile := found ∧ dir.mam.isSome } := of_same rfl rfl
  have h₂ := fun needed => (hversions h₁).updated error_check needed U.try_update_mam
  dsimp only
  refine guarded h₁ (guarded h₁ (guarded (h₂ _) (guarded ?_ ?_)))
  · refine updated ?_ _ _ _
    exact (h₂ _).trans (of_same rfl rfl)
  · refine updated ?_ _ _ _
    exact (h₂ _).trans (of_same rfl rfl)

/-- The meta file of a partition is read. -/
theorem load_meta (c : Store) (error_check : Bool) (p : ℕ) :
    EndsKept p c (c.load_meta error_check p).2 := by
  unfold Store.load_meta
  extract_lets st_size bs c₁ count
  have h₁ : EndsKept p c c₁ := of_same rfl rfl
  have h₂ : EndsKept p c (c₁.check_filemarks_alloc count).2 := by
    refine h₁.trans ?_
    unfold Store.check_filemarks_alloc
    exact guarded (guarded (refl p _) (of_same rfl rfl)) (refl p _)
  refine guarded (refl p c) (guarded h₁ (guarded h₁ (guarded h₂ (guarded h₂ (guarded h₂ ?_)))))
  exact guarded (h₂.trans (of_same rfl rfl)) (h₂.trans (of_same rfl rfl))

/-- Its index is read. -/
theorem load_index (c : Store) (error_check : Bool) (p : ℕ) :
    EndsKept p c (c.load_index error_check p).2 := by
  unfold Store.load_index
  extract_lets eod c₁ count
  have h₁ : EndsKept p c c₁ := fun q hq => ⟨Function.update_of_ne hq _ _, rfl⟩
  refine guarded (refl p c) (guarded h₁ ?_)
  have hread : EndsKept p c (c₁.read_header (eod - 1)).2 := by
    obtain ⟨raw, ok, st, heq⟩ := read_header_only c₁ (eod - 1)
    rw [heq]
    exact h₁.trans (of_same rfl rfl)
  have h₂ : EndsKept p c (if eod = 0 then ((0 : ℤ), c₁) else c₁.read_header (eod - 1)).2 :=
    guarded h₁ hread
  generalize (if eod = 0 then ((0 : ℤ), c₁) else c₁.read_header (eod - 1)) = r at h₂ ⊢
  obtain ⟨rc, c₂⟩ := r
  refine guarded h₂ ?_
  have h₃ : ∀ off : ℕ, EndsKept p c₂ { c₂ with
      eod_data_offset := Function.update c₂.eod_data_offset p off } :=
    fun _ q hq => ⟨rfl, Function.update_of_ne hq _ _⟩
  exact guarded (h₂.trans (h₃ _)) (h₂.trans (h₃ _))

/-- The partition is read. -/
theorem load_partition (c : Store) (error_check : Bool) (p : ℕ) :
    EndsKept p c (c.load_partition error_check p).2 := by
  have hclosed : ∀ {b : Store}, EndsKept p c b → EndsKept p c (b.close_partition p) := fun h =>
    h.trans (of_same rfl rfl)
  have h₁ : EndsKept p c (c.open_partition p).2 := of_same rfl rfl
  have h₂ := h₁.trans (load_meta (c.open_partition p).2 error_check p)
  have h₃ := h₂.trans (load_index ((c.open_partition p).2.load_meta error_check p).2 error_check p)
  unfold Store.load_partition
  exact guarded (hclosed h₁) (guarded (hclosed h₂) (hclosed h₃))

end EndsKept

namespace Spare

variable {a b : Store}

/-- Reading one partition after the other, the arrays stay clear behind those that were read. -/
theorem loadPartitions {error_check : Bool} {n : ℕ}
    (h : Store.loadPartitions error_check n a = some b) (hroom : a.mam.num_partitions + n < 256)
    (hs : Spare a.mam.num_partitions a) :
    Spare b.mam.num_partitions b := by
  induction n generalizing a with
  | zero =>
    unfold Store.loadPartitions at h
    split at h
    · cases h
    · obtain rfl := Option.some.inj h
      exact hs
  | succ n ih =>
    unfold Store.loadPartitions at h
    extract_lets p c₁ at h
    split at h
    · have hkept : EndsKept p a c₁ := EndsKept.trans (.of_same rfl rfl)
        (EndsKept.load_partition (a.setPartition p) error_check p)
      let c₂ : Store := { c₁ with mam := c₁.mam.putByte .num_partitions (UInt8.ofNat (p + 1)) }
      have hnum : c₂.mam.num_partitions = p + 1 := by
        rw [Mam.num_partitions, Mam.byte_putByte _ _ rfl, UInt8.toNat_ofNat_of_lt' (by
          change p + 1 < 256
          omega)]
      refine ih (a := c₂) h (by omega) ?_
      rw [hnum]
      intro q hq
      obtain ⟨hblk, hoff⟩ := hkept q (by omega)
      exact ⟨hblk.trans (hs q (by omega)).1, hoff.trans (hs q (by omega)).2⟩
    · obtain rfl := Option.some.inj h
      exact hs

/-- A tape that is loaded into clear arrays leaves them clear behind its partitions. -/
theorem load_tape {U : Updater} {pcl : Dir} {bypass : Bool} (h : a.load_tape U pcl bypass = some (0, b))
    (hs : Spare 0 a) : Spare b.mam.num_partitions b := by
  unfold Store.load_tape at h
  split at h
  · cases h
  have hkept := fun p => EndsKept.load_mam p U a pcl bypass
  rcases hload : a.load_mam U pcl bypass with ⟨rc, c₁⟩
  rw [hload] at h hkept
  dsimp only at h
  split at h
  · rename_i hrc
    exact absurd (congrArg Prod.fst (Option.some.inj h)) hrc
  split at h
  · cases h
  rename_i c₂ hparts
  have hnum : (c₁.mam.putByte .num_partitions 0).num_partitions = 0 := by
    rw [Mam.num_partitions, Mam.byte_putByte _ _ rfl]
    rfl
  have hclear : Spare 0 { c₁ with mam := c₁.mam.putByte .num_partitions 0 } := by
    intro q hq
    obtain ⟨hblk, hoff⟩ := hkept (q + 1) q (by omega)
    exact ⟨hblk.trans (hs q hq).1, hoff.trans (hs q hq).2⟩
  have hloaded : Spare c₂.mam.num_partitions c₂ :=
    loadPartitions hparts (by rw [hnum]; decide) (by rw [hnum]; exact hclear)
  obtain ⟨raw, ok, st, fd, hchange⟩ := change_partition_only c₂ 0
  rw [hchange] at h
  obtain ⟨raw', ok', st', hread⟩ := read_header_only
    { c₂ with raw_pos := raw, OK_to_write := ok, fd := fd, status := { st with sam_stat := SAM_STAT_GOOD } } 0
  dsimp only at h
  split at h
  · cases congrArg Prod.fst (Option.some.inj h)
  · have hb := congrArg Prod.snd (Option.some.inj h)
    dsimp only at hb
    rw [hread] at hb
    rw [← hb]
    exact hloaded

/-- And unloading clears them. -/
theorem unload_tape (h : a.unload_tape = some b) : Spare 0 b := by
  unfold Store.unload_tape at h
  split at h
  · cases h
  · obtain rfl := Option.some.inj h
    exact fun _ _ => ⟨rfl, rfl⟩

end Spare

end Mhvtl.Cart
