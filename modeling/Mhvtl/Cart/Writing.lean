import Mhvtl.Cart.Operations

/-!
# Writing at the position

Filemarks, data blocks and formatting, when every host call succeeds: the
records in front of the position stay, those behind it are replaced by the new
ones, and the store stands behind them.
-/

namespace Mhvtl.Cart

open Records

/-- The record that `write_tape_block` stands for. -/
def BlockArgs.record (a : Store.BlockArgs) : Record :=
  if a.null_media_type then .blank a.info a.disk_blk_size
  else .data ⟨a.info, a.bytes, by
    rw [Store.BlockArgs.bytes, List.length_map, List.length_range]
    exact a.disk_blk_size.toNat_lt⟩

namespace Store

/-- As many bytes are written as the header says. -/
theorem BlockArgs.bytes_length (a : BlockArgs) : a.bytes.length = a.disk_blk_size.toNat := by
  rw [bytes, List.length_map, List.length_range]

/-- A block takes the size given with it. -/
theorem record_size (a : BlockArgs) : (BlockArgs.record a).size = a.disk_blk_size.toNat := by
  unfold Cart.BlockArgs.record
  split
  · rfl
  · exact a.bytes_length

/-- The header `write_tape_block` builds is the record's. -/
theorem record_header (a : BlockArgs) (p i off : ℕ) :
    (BlockArgs.record a).header p i off =
      Record.blockHeader a.info p i off a.disk_blk_size.toNat := by
  unfold Cart.BlockArgs.record
  split
  · rfl
  · simp only [Record.header, a.bytes_length]

/-- No block is a filemark. -/
theorem record_isFilemark (a : BlockArgs) : (BlockArgs.record a).isFilemark = false := by
  unfold Cart.BlockArgs.record
  split <;> rfl

/-- What the store is after writing: position, frame and spent host calls. -/
structure Written (c c' : Store) (p : ℕ) (l : List Record) (calls : ℕ) : Prop where
  /-- The store stands at the end of the new records. -/
  at_end : At c' p l l.length
  /-- Nothing else changed. -/
  frame : Frame p c c'
  /-- Host calls spent. -/
  io : c'.io = c.io.drop calls
  /-- Writing goes on. -/
  OK_to_write : c'.OK_to_write = true
  /-- No sense data. -/
  status : c'.status = c.status

/-- Filemarks replace what was behind the position. -/
theorem write_filemarks_ok {c : Store} {p i : ℕ} {l : List Record} (h : At c p l i) {n : ℕ}
    (hn : n ≠ 0) (hlen : i + n < 2 ^ 32)
    (hlim : (filemarksOf (l.take i)).length + n ≤ MAX_FILEMARKS)
    (hio : OkFor (overwriteCalls l i + 4 * n) c.io) :
    ∃ c', c.write_filemarks n = (0, c') ∧
      Written c c' p (l.take i ++ List.replicate n .filemark) (overwriteCalls l i + 4 * n) := by
  obtain ⟨c₁, hover, hin₁, hio₁, hd₁⟩ :=
    check_for_overwrite_ok h.rep.toOnDisk h.pos h.opened h.le (hio.mono (Nat.le_add_right _ _))
  have htake : (l.take i).length = i := List.length_take_of_le h.le
  have hp₁ : c₁.partition_id = p := hin₁.partition_id.trans h.partition_id
  have hblk₁ : c₁.c_pos.blk_number = (l.take i).length := by
    rw [c_pos, hin₁.raw_pos, htake]
    exact h.blk_number
  have hoff₁ : c₁.raw_pos.data_offset = offsetOf (l.take i) (l.take i).length := by
    rw [hin₁.raw_pos, htake, offsetOf_take l (Nat.le_refl i)]
    exact h.data_offset
  let hdr := Record.filemark.header p (l.take i).length (offsetOf (l.take i) (l.take i).length)
  let c₂ := c₁.setRawPos hdr
  obtain ⟨c₃, hrun, hfr₃, hio₃, hst₃, hp₃, hd₃⟩ :=
    writeFilemarkHeaders_ok n c₂ (l.take i) _ hd₁ rfl (by
      intro k
      change c₁.fd k p = true
      rw [hin₁.fd]
      exact h.opened k) (by omega) hlim (by
      change OkFor (4 * n) c₁.io
      rw [hio₁]
      exact hio.drop)
  have hfr : Frame p c c₃ := (hin₁.toFrame.trans (Frame.setRawPos p c₁ hdr)).trans hfr₃
  have hend : (l.take i ++ List.replicate n Record.filemark).length = (l.take i).length + n := by
    rw [List.length_append, List.length_replicate]
  obtain ⟨c₄, hmk, hat, hfr₄, hio₄, hok₄, hst₄⟩ := mkEODHeader_at hd₃ hp₃ (by
    rw [hfr.fd]
    exact h.fd) h.part_lt
  rw [hend, offsetOf_filemarks] at hmk
  refine ⟨c₄, ?_, hat, hfr.trans hfr₄, ?_, hok₄, ?_⟩
  · simp only [write_filemarks, h.tape_loaded, Bool.not_true, Bool.false_eq_true, if_false, hn,
      hover, ne_eq, not_true_eq_false, hp₁, hblk₁, hoff₁]
    rw [hrun]
    exact hmk
  · rw [hio₄, hio₃]
    change c₁.io.drop (4 * n) = _
    rw [hio₁, List.drop_drop]
  · rw [hst₄, hst₃]
    exact hin₁.status

/-- Zero filemarks change nothing. -/
theorem write_filemarks_zero {c : Store} {p i : ℕ} {l : List Record} (h : At c p l i) :
    c.write_filemarks 0 = (0, c) := by
  simp only [write_filemarks, h.tape_loaded, Bool.not_true, Bool.false_eq_true, if_false, if_pos]

/-- Host calls for the block proper. -/
def blockCalls (a : BlockArgs) : ℕ := if a.null_media_type then 1 else 2

/-- The data write of a block, when there is one. -/
theorem write_data_ok (c : Store) (a : BlockArgs) {p : ℕ} {l : List Record} {fi fd : File}
    (hfd : ∀ k, c.fd k p = true) (hfi : c.dir.file .indx p = some fi)
    (hfdt : c.dir.file .data p = some fd) (hrep : DataRep l fd)
    (hio : OkFor (blockCalls a) c.io) :
    ∃ c' g, (if a.null_media_type then ((a.disk_blk_size.toNat : ℤ), c)
        else c.pwrite .data p a.bytes (offsetOf l l.length)) = ((a.disk_blk_size.toNat : ℤ), c') ∧
      Inside p c c' ∧ OkFor 1 c'.io ∧ c'.io.tail = c.io.drop (blockCalls a) ∧
      c'.part p = (c.part p).setFile .data g ∧ c'.dir.file .indx p = some fi ∧
      DataRep (l ++ [BlockArgs.record a]) g := by
  unfold blockCalls at hio ⊢
  unfold Cart.BlockArgs.record
  by_cases hnull : a.null_media_type
  · simp only [hnull, if_true] at hio ⊢
    refine ⟨c, fd, rfl, Inside.refl p c, hio, List.drop_one.symm, ?_, hfi,
      hrep.concat_other (fun _ => nofun)⟩
    have hfile : (c.part p).file .data = some fd := hfdt
    rw [PartView.setFile, ← hfile, Function.update_eq_self]
  · simp only [hnull, Bool.false_eq_true, if_false] at hio ⊢
    refine ⟨_, _, ?_, Inside.putFile c .data p _, hio.tail, ?_, putFile_part_same .., ?_,
      hrep.concat_data _⟩
    · rw [pwrite_ok c _ _ hio.head (hfd _) hfdt, a.bytes_length]
    · rw [putFile_io, ← List.drop_one, ← List.drop_one, List.drop_drop]
    · rw [putFile_file_other c .data p _ (by decide)]
      exact hfi

/-- A block replaces what was behind the position. -/
theorem write_tape_block_ok {c : Store} {p i : ℕ} {l : List Record} (h : At c p l i)
    (a : BlockArgs) (hlen : i ≤ MAX_BLK_NUMBER)
    (hio : OkFor (overwriteCalls l i + blockCalls a) c.io) :
    ∃ c', c.write_tape_block a = (0, c') ∧
      Written c c' p (l.take i ++ [BlockArgs.record a]) (overwriteCalls l i + blockCalls a) := by
  obtain ⟨c₁, hover, hin₁, hio₁, hd₁⟩ :=
    check_for_overwrite_ok h.rep.toOnDisk h.pos h.opened h.le (hio.mono (Nat.le_add_right _ _))
  have htake : (l.take i).length = i := List.length_take_of_le h.le
  have hp₁ : c₁.partition_id = p := hin₁.partition_id.trans h.partition_id
  have hblk₁ : c₁.c_pos.blk_number = i := by
    rw [c_pos, hin₁.raw_pos]
    exact h.blk_number
  have hoffi : offsetOf (l.take i) i = offsetOf l i := offsetOf_take l (Nat.le_refl i)
  have hoff₁ : c₁.raw_pos.data_offset = offsetOf (l.take i) (l.take i).length := by
    rw [hin₁.raw_pos, htake, hoffi]
    exact h.data_offset
  obtain ⟨fi, hfi, hfir⟩ := hd₁.indx
  obtain ⟨fd, hfdt, hfdr⟩ := hd₁.data
  obtain ⟨fm, hfm, hfmr⟩ := hd₁.metaf
  let off := offsetOf (l.take i) (l.take i).length
  let hdr := Record.blockHeader a.info p i off a.disk_blk_size.toNat
  let c₂ := c₁.setRawPos hdr
  have hhdr : hdr = (BlockArgs.record a).header p (l.take i).length off := by
    rw [record_header, htake]
  obtain ⟨c₃, g, hdata, hin₃, hio₃, hio₃', hpart₃, hfi₃, hrep₃⟩ :=
    write_data_ok c₂ a (by
      intro k
      change c₁.fd k p = true
      rw [hin₁.fd]
      exact h.opened k) hfi hfdt hfdr (by
      change OkFor (blockCalls a) c₁.io
      rw [hio₁]
      exact hio.drop)
  let c₄ := c₃.putFile .indx p (fi.pwrite ((l.take i).length * HEADER_SIZE) (raw_header.enc hdr))
  have hfr : Frame p c c₄ :=
    ((hin₁.toFrame.trans (Frame.setRawPos p c₁ hdr)).trans hin₃.toFrame).trans
      (Inside.putFile c₃ ..).toFrame
  have hw : c₃.pwrite .indx p (raw_header.enc hdr) (i * HEADER_SIZE) = ((HEADER_SIZE : ℤ), c₄) := by
    rw [pwrite_ok c₃ _ _ hio₃.head (by
      rw [hin₃.fd]
      change c₁.fd _ p = true
      rw [hin₁.fd]
      exact h.opened _) hfi₃, raw_header.enc_length]
    simp only [c₄, htake]
    rfl
  have hmarks : filemarksOf (l.take i ++ [BlockArgs.record a]) = filemarksOf (l.take i) := by
    have hm := marks_concat Record.isFilemark (l.take i) (BlockArgs.record a)
    rwa [record_isFilemark, if_neg Bool.false_ne_true, List.append_nil] at hm
  have hpart₄ : c₄.part p = ((c₁.part p).setFile .data g).setFile .indx
      (fi.pwrite ((l.take i).length * HEADER_SIZE) (raw_header.enc hdr)) := by
    rw [putFile_part_same, hpart₃]
    rfl
  have hd₄ : OnDisk p (c₄.part p) (l.take i ++ [BlockArgs.record a]) := by
    refine ⟨⟨_, ?_, hfir.concat (BlockArgs.record a)⟩, ⟨g, ?_, hrep₃⟩, ⟨fm, ?_, ?_⟩, ?_⟩
    · rw [hpart₄, PartView.setFile_same, hhdr]
    · rw [hpart₄, PartView.setFile_other _ _ (by decide), PartView.setFile_same]
    · rw [hpart₄, PartView.setFile_other _ _ (by decide), PartView.setFile_other _ _ (by decide)]
      exact hfm
    · rw [hpart₄, hmarks]
      exact hfmr
    · rw [hpart₄, hmarks]
      exact hd₁.marks
  have hp₄ : c₄.partition_id = p := by
    rw [putFile_partition_id, hin₃.partition_id]
    rfl
  obtain ⟨c₅, hmk, hat, hfr₅, hio₅, hok₅, hst₅⟩ := mkEODHeader_at hd₄ hp₄ (by
    rw [hfr.fd]
    exact h.fd) h.part_lt
  have hend : (l.take i ++ [BlockArgs.record a]).length = i + 1 := by
    rw [List.length_append, List.length_singleton, htake]
  have hoffend : offsetOf (l.take i ++ [BlockArgs.record a]) (i + 1) =
      off + a.disk_blk_size.toNat := by
    have hc := offsetOf_concat (l.take i) (BlockArgs.record a)
    have hi : i + 1 = (l.take i).length + 1 := by rw [htake]
    rw [record_size] at hc
    rw [hi]
    exact hc
  rw [hend, hoffend] at hmk
  refine ⟨c₅, ?_, hat, hfr.trans hfr₅, ?_, hok₅, ?_⟩
  · have hmax : ¬MAX_BLK_NUMBER < i := by omega
    have hraw₃ : c₃.raw_pos = hdr := hin₃.raw_pos
    simp only [write_tape_block, h.tape_loaded, Bool.not_true, Bool.false_eq_true, if_false, hover,
      ne_eq, not_true_eq_false, hp₁, hblk₁, hoff₁, hmax]
    rw [hdata]
    simp only [not_true_eq_false, if_false, hraw₃, hw]
    exact hmk
  · rw [hio₅, putFile_io, hio₃']
    change c₁.io.drop (blockCalls a) = _
    rw [hio₁, List.drop_drop]
  · rw [hst₅]
    exact hin₃.status.trans hin₁.status

end Store

end Mhvtl.Cart
