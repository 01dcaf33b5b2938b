import Mhvtl.Cart.Positioning

/-!
# Attribute files and partitions of a mounted cartridge

Rewriting the attribute files, and erasing and creating the partitions of a
volume. The many small writes of the attributes share one outcome: a short one
leaves a front part of what was to be written.
-/

namespace Mhvtl.Cart

namespace Store

/-- `write_mam` on the open attribute files. -/
def write_mam (c : Store) : ℤ × Store :=
  match c.mamfile, c.dir.mam, c.mhvtlfile, c.dir.mhvtl_data with
  | true, some mam, true, some mhvtl =>
    let put := fun (c : Store) (n : ℕ) =>
      { c with dir := { c.dir with
          mam := some (overwriteFront ((mamImage c.mam).take n) mam)
          mhvtl_data :=
            some (overwriteFront ((mhvtlImage c.mam).take (n - (mamImage c.mam).length)) mhvtl) } }
    let all := (mamImage c.mam).length + (mhvtlImage c.mam).length
    match c.nextIo with
    | (.ok, c) => (0, put c all)
    | (.fail, c) => (-1, c)
    | (.short n, c) => if n < all then (-1, put c n) else (-1, c)
  | _, _, _, _ => (-1, c)

/-- Rewrites the attribute files of the loaded cartridge. -/
def rewriteMAM (c : Store) : ℤ × Store :=
  let (loaded, c) := c.tape_loaded
  if !loaded then (-1, c) else
  let (rc, c) := c.write_mam
  if rc < 0 then (-1, { c with status := sam_medium_error E_MEDIUM_FMT_CORRUPT }) else (0, c)

/-- Writing the attributes out does not change them. -/
theorem write_mam_mam (c : Store) : c.write_mam.2.mam = c.mam := by
  unfold write_mam
  split
  · cases hio : c.io.headD .ok with
    | ok => simp only [nextIo, hio]
    | fail => simp only [nextIo, hio]
    | short n =>
      simp only [nextIo, hio]
      split <;> rfl
  · rfl

/-- Nor does rewriting them. -/
theorem rewriteMAM_mam (c : Store) : c.rewriteMAM.2.mam = c.mam := by
  have hloaded : c.tape_loaded.2.mam = c.mam := by
    unfold tape_loaded
    split <;> rfl
  unfold rewriteMAM
  dsimp only
  split
  · exact hloaded
  · split
    · exact (write_mam_mam _).trans hloaded
    · exact (write_mam_mam _).trans hloaded

/-- Where the next block starts in the data file; 0 without a tape. -/
def current_tape_offset (c : Store) : ℕ :=
  if c.fd .data c.partition_id then c.raw_pos.data_offset else 0

/-- Removes the files of a partition. -/
def unlink_partition (c : Store) (p : ℕ) : Store :=
  { c with dir := { c.dir with file := fun k q => if q = p then none else c.dir.file k q } }

/-- Empties the current partition from its start and removes its files. -/
def erase_partition (c : Store) : Store :=
  let c := c.setRawPos
    { data_offset := 0, hdr := { c.raw_pos.hdr with blk_number := 0 } }
  let (_, c) := c.format_partition
  (c.close_partition c.partition_id).unlink_partition c.partition_id

/-- Creates the files of a partition, the meta file with an empty header. -/
def create_partition (c : Store) (p : ℕ) : ℤ × Store :=
  let c : Store := { c with
    dir := { c.dir with file := fun k q => if q = p then some File.empty else c.dir.file k q }
    fd := fun k q => if q = p then true else c.fd k q
    meta_hdr := Function.update c.meta_hdr p MetaHeader.zero }
  let (nwrite, c) := c.pwrite .metaf p (meta_header.enc MetaHeader.zero) 0
  if nwrite ≠ HEADER_SIZE then (1, (c.close_partition p).unlink_partition p)
  else (0, c.close_partition p)

/-- Erases the partitions from `p` on as long as there is one. The arrays have
room for `MAX_PARTITIONS` of them. -/
def erasePartitions (c : Store) : ℕ → ℕ → Option Store
  | 0, p => if (c.dir.file .data p).isSome then none else some c
  | n + 1, p =>
    if (c.dir.file .data p).isSome then
      ((c.change_partition p).2.erase_partition).erasePartitions n (p + 1)
    else some c

/-- Creates partitions `0` to `n - 1`. -/
def createPartitions (c : Store) (n : ℕ) : Store :=
  (List.range n).foldl (fun c p => (c.create_partition p).2) c

/-- Erases every partition and creates as many as the attributes ask for; nothing
is said of more than the arrays can hold. -/
def format_tape (c : Store) : Option Store :=
  match c.erasePartitions MAX_PARTITIONS 0 with
  | none => none
  | some c =>
    if MAX_PARTITIONS < c.mam.num_partitions then none
    else some ((c.createPartitions c.mam.num_partitions).change_partition 0).2

end Store

end Mhvtl.Cart
