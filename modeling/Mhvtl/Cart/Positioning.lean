import Mhvtl.Cart.Writing

/-!
# Positioning, reading, formatting and switching partitions

Positioning puts the header of some block of the partition under the head and
changes nothing else but the write permission, the status and the sense data.
-/

namespace Mhvtl.Cart

open Records

namespace Store

/-- `c'` is `c` with the position at index `j` of the partition. On a WORM medium
the write permission is then only there at end of data, or when the partition
holds nothing but one filemark. -/
structure Sought (c c' : Store) (p : ℕ) (l : List Record) (j : ℕ) : Prop where
  /-- Only the position, the write permission and the status differ. -/
  eq : ∃ ok st, c' = { c with raw_pos := headerAt p l j, OK_to_write := ok, status := st }
  /-- The position lies on the partition. -/
  le : j ≤ l.length
  /-- The permission rule of WORM media. -/
  worm : c.mam.MediumType = MEDIA_TYPE_WORM → c'.OK_to_write = true →
    j = l.length ∨ l.map Record.isFilemark = [true]

namespace Sought

variable {c c' : Store} {p i j : ℕ} {l : List Record}

theorem frame (h : Sought c c' p l j) : Frame p c c' := by
  obtain ⟨ok, st, rfl⟩ := h.eq
  exact ⟨fun _ _ => rfl, rfl, rfl, rfl, rfl, rfl, rfl⟩

theorem io (h : Sought c c' p l j) : c'.io = c.io := by
  obtain ⟨ok, st, rfl⟩ := h.eq
  rfl

/-- The store stands at the new index. -/
theorem at_pos (h : Sought c c' p l j) (ha : At c p l i) : At c' p l j := by
  obtain ⟨ok, st, rfl⟩ := h.eq
  exact ⟨ha.rep, rfl, h.le, ha.fd, ha.part_lt⟩

/-- A sought position is also sought from a state that differs in the status and,
on other media than WORM, in nothing else. -/
theorem of_status {st : Status} {ok : Bool}
    (h : Sought { c with status := st, OK_to_write := ok } c' p l j) : Sought c c' p l j := by
  obtain ⟨ok', st', rfl⟩ := h.eq
  exact ⟨⟨ok', st', rfl⟩, h.le, h.worm⟩

end Sought

/-- `read_header` of a block of the partition, or of its end. -/
theorem read_header_eq {c : Store} {p j : ℕ} {l : List Record} (hr : Rep p (c.part p) l)
    (hp : c.partition_id = p) (hfd : c.fd .indx p = true) (hlt : p < 2 ^ 32)
    (hl : l.length < 2 ^ 32) (hj : j ≤ l.length) :
    c.read_header j = (0, { c with
      raw_pos := headerAt p l j
      OK_to_write := if j = l.length then true else c.OK_to_write }) := by
  have heod : c.eod_blk_number p = l.length := hr.eod_blk
  have hoff : c.eod_data_offset p = offsetOf l l.length := hr.eod_off
  have hnot : ¬l.length < j := by omega
  simp only [read_header, hp, heod, hnot, if_false]
  rcases Nat.lt_or_eq_of_le hj with hlt' | heq
  · obtain ⟨f, hf, hrep⟩ := hr.indx
    have hfile : c.dir.file .indx p = some f := hf
    have hlen := raw_header.enc_length (headerAt p l j)
    rw [raw_header_width] at hlen
    have hread : c.pread .indx p (j * HEADER_SIZE) HEADER_SIZE =
        some (raw_header.enc (headerAt p l j)) := by
      simp only [pread, hfd, hfile, (hrep.slot j hlt').pread_eq hlen]
    have hover : raw_header.overlay (raw_header.enc (headerAt p l j)) c.raw_pos = headerAt p l j := by
      rw [raw_header.overlay_full (raw_header.enc_length _), decode_headerAt hlt hl hlt']
    have hne : j ≠ l.length := by omega
    simp only [hne, if_false, hread, hover, hlen, ne_eq, not_true_eq_false]
  · have hblk : Function.update c.eod_blk_number p l.length = c.eod_blk_number := by
      rw [← heod, Function.update_eq_self]
    have hofs : Function.update c.eod_data_offset p (offsetOf l l.length) = c.eod_data_offset := by
      rw [← hoff, Function.update_eq_self]
    simp only [heq, if_true, hoff, mkEODHeader, hp, hblk, hofs, headerAt_length]

section AtRest

variable {c : Store} {p i : ℕ} {l : List Record}

/-- `read_header` from a state that stands on the partition. -/
theorem At.read_header_eq (h : At c p l i) (hl : l.length < 2 ^ 32) {j : ℕ} (hj : j ≤ l.length) :
    c.read_header j = (0, { c with
      raw_pos := headerAt p l j
      OK_to_write := if j = l.length then true else c.OK_to_write }) :=
  Store.read_header_eq h.rep h.partition_id (h.opened .indx) h.part_lt hl hj

/-- Losing the WORM permission leaves the store where it is. -/
theorem At.clearWormWrite (h : At c p l i) : At c.clearWormWrite p l i := by
  unfold Store.clearWormWrite
  split
  · exact ⟨h.rep, h.pos, h.le, h.fd, h.part_lt⟩
  · exact h

/-- After `clearWormWrite`, a position sought is one sought before it. -/
theorem Sought.of_clearWormWrite {c' : Store} {j : ℕ} (h : Sought c.clearWormWrite c' p l j) :
    Sought c c' p l j := by
  unfold Store.clearWormWrite at h
  split at h
  · exact @Sought.of_status c _ _ _ _ c.status false h
  · exact h

/-- A WORM medium has no write permission after `clearWormWrite`. -/
theorem clearWormWrite_worm (c : Store) (hw : c.clearWormWrite.mam.MediumType = MEDIA_TYPE_WORM) :
    c.clearWormWrite.OK_to_write = false := by
  unfold clearWormWrite at hw ⊢
  split
  · rfl
  · rename_i hn
    rw [if_neg hn] at hw
    exact absurd hw hn

/-- `read_header` seeks, when a WORM medium had no permission before. -/
theorem read_header_sought (h : At c p l i) (hl : l.length < 2 ^ 32) {j : ℕ} (hj : j ≤ l.length)
    (hw : c.mam.MediumType = MEDIA_TYPE_WORM → c.OK_to_write = true →
      l.map Record.isFilemark = [true]) :
    ∃ c', c.read_header j = (0, c') ∧ Sought c c' p l j := by
  refine ⟨_, h.read_header_eq hl hj, ⟨_, c.status, rfl⟩, hj, ?_⟩
  intro hm hok
  by_cases he : j = l.length
  · exact Or.inl he
  · rw [if_neg he] at hok
    exact Or.inr (hw hm hok)

/-- Type of the header at block 0 of a WORM partition that may be rewritten. -/
theorem rewind_worm_rule (p : ℕ) (l : List Record)
    (h : (headerAt p l 0).hdr.blk_type = B_EOD ∨
      ((headerAt p l 0).hdr.blk_type = B_FILEMARK ∧ l.length = 1)) :
    0 = l.length ∨ l.map Record.isFilemark = [true] := by
  rcases h with he | ⟨hf, h1⟩
  · exact Or.inl (Nat.le_zero.mp ((headerAt_eod_iff p l 0).mp he)).symm
  · obtain ⟨r, rfl⟩ := List.length_eq_one_iff.mp h1
    rw [headerAt_of_lt p (Nat.zero_lt_one)] at hf
    have hne : B_DATA ≠ B_FILEMARK := by decide
    cases r with
    | data b => exact absurd hf hne
    | blank info n => exact absurd hf hne
    | filemark => exact Or.inr rfl

/-- `rewind_tape` seeks block 0. -/
theorem rewind_tape_ok (h : At c p l i) (hl : l.length < 2 ^ 32) :
    ∃ c', c.rewind_tape = (1, c') ∧ Sought c c' p l 0 := by
  have hr := h.read_header_eq hl (Nat.zero_le _)
  have hpid : (headerAt p l 0).hdr.partition_id = p := headerAt_partition_id ..
  have heod : c.eod_blk_number p = l.length := h.eod_blk
  let c₁ : Store := { c with
    raw_pos := headerAt p l 0, OK_to_write := if 0 = l.length then true else c.OK_to_write }
  refine ⟨{ c₁ with OK_to_write := c₁.rewindPermission }, ?_, ⟨_, c.status, rfl⟩,
    Nat.zero_le _, ?_⟩
  · simp only [rewind_tape, h.tape_loaded, Bool.not_true, Bool.false_eq_true, if_false, hr, ne_eq,
      not_true_eq_false, c₁]
  · intro hm hok
    have hne : MEDIA_TYPE_WORM ≠ MEDIA_TYPE_CLEAN := by decide
    have hm₁ : c₁.mam.MediumType = MEDIA_TYPE_WORM := hm
    have hperm : c₁.rewindPermission = true := hok
    simp only [rewindPermission, hm₁, if_neg hne, if_pos, decide_eq_true_eq] at hperm
    apply rewind_worm_rule p l
    rw [← hpid] at heod
    rw [← heod]
    exact hperm

/-- `position_to_eod` seeks end of data. -/
theorem position_to_eod_ok (h : At c p l i) (hl : l.length < 2 ^ 32) :
    ∃ c', c.position_to_eod = (0, c') ∧ Sought c c' p l l.length := by
  have hr := h.read_header_eq hl (Nat.le_refl _)
  rw [if_pos rfl] at hr
  refine ⟨_, ?_, ⟨true, c.status, rfl⟩, Nat.le_refl _, fun _ _ => Or.inl rfl⟩
  simp only [position_to_eod, h.tape_loaded, Bool.not_true, Bool.false_eq_true, if_false,
    h.partition_id, h.eod_blk, hr, ne_eq, not_true_eq_false, ite_self]

/-- Result of `position_to_block`: rewinding returns 1. -/
def blockResult (n : ℕ) : ℤ := if n = 0 then 1 else 0

/-- `position_to_block` seeks the block, or end of data when it lies behind. -/
theorem position_to_block_ok (h : At c p l i) (hl : l.length < 2 ^ 32) (n : ℕ) :
    ∃ c', c.position_to_block n = (blockResult n, c') ∧ Sought c c' p l (min n l.length) := by
  have h₁ := h.clearWormWrite
  have hwf : c.clearWormWrite.mam.MediumType = MEDIA_TYPE_WORM →
      c.clearWormWrite.OK_to_write = true → l.map Record.isFilemark = [true] := by
    intro hw hok
    rw [clearWormWrite_worm c hw] at hok
    exact absurd hok Bool.false_ne_true
  by_cases hn : l.length < n
  · let c₁ : Store := { c.clearWormWrite with status := sam_blank_check E_END_OF_DATA }
    have ha₁ : At c₁ p l i := ⟨h₁.rep, h₁.pos, h₁.le, h₁.fd, h₁.part_lt⟩
    obtain ⟨c', hr, hs⟩ := position_to_eod_ok ha₁ hl
    refine ⟨c', ?_, ?_⟩
    · simp only [position_to_block, h.tape_loaded, Bool.not_true, Bool.false_eq_true, if_false,
        h₁.partition_id, h₁.eod_blk, if_pos hn]
      rw [blockResult, if_neg (by omega)]
      exact hr
    · rw [Nat.min_eq_right (Nat.le_of_lt hn)]
      exact (Sought.of_status hs).of_clearWormWrite
  · rw [Nat.min_eq_left (by omega)]
    by_cases h0 : n = 0
    · subst h0
      obtain ⟨c', hr, hs⟩ := rewind_tape_ok h₁ hl
      refine ⟨c', ?_, hs.of_clearWormWrite⟩
      simp only [position_to_block, h.tape_loaded, Bool.not_true, Bool.false_eq_true, if_false,
        h₁.partition_id, h₁.eod_blk, hn, if_pos, blockResult, hr]
    · obtain ⟨c', hr, hs⟩ := read_header_sought h₁ hl (Nat.le_of_not_lt hn) hwf
      refine ⟨c', ?_, hs.of_clearWormWrite⟩
      simp only [position_to_block, h.tape_loaded, Bool.not_true, Bool.false_eq_true, if_false,
        h₁.partition_id, h₁.eod_blk, hn, h0, blockResult, hr]

/-- Reading a data block returns its bytes, cut to the buffer, and moves behind it. -/
theorem read_tape_block_data (h : At c p l i) (hl : l.length < 2 ^ 32) {b : DataBlock}
    (hb : l[i]? = some (.data b)) (buf_size : ℕ) :
    c.read_tape_block buf_size = (some (b.bytes.take buf_size), { c with
      raw_pos := headerAt p l (i + 1)
      OK_to_write := if i + 1 = l.length then true else c.OK_to_write }) := by
  obtain ⟨hi, hli⟩ := List.getElem?_eq_some_iff.mp hb
  obtain ⟨f, hf, hrep⟩ := h.rep.data
  have hfile : c.dir.file .data p = some f := hf
  have hne : ¬c.c_pos.blk_type = B_EOD := by
    rw [h.eod_iff]
    omega
  have hsize : c.c_pos.disk_blk_size = b.bytes.length := by
    rw [c_pos, h.pos, headerAt_of_lt p hi, Record.header_disk_blk_size, hli]
    rfl
  have hread : c.pread .data p (offsetOf l i) (min b.bytes.length buf_size) =
      some (b.bytes.take buf_size) := by
    simp only [pread, h.opened, hfile, (hrep.block i b hb).pread_take buf_size]
  have hlen : (b.bytes.take buf_size).length = min b.bytes.length buf_size := by
    rw [List.length_take, Nat.min_comm]
  have hmod : (i + 1) % 2 ^ 32 = i + 1 := Nat.mod_eq_of_lt (by omega)
  simp only [read_tape_block, h.tape_loaded, Bool.not_true, Bool.false_eq_true, if_false, hne,
    h.partition_id, h.data_offset, h.blk_number, hsize, hread, hlen, ne_eq, not_true_eq_false, hmod,
    h.read_header_eq hl (Nat.succ_le_of_lt hi)]

/-- Reading a filemark returns no bytes and moves behind it. -/
theorem read_tape_block_filemark (h : At c p l i) (hl : l.length < 2 ^ 32)
    (hb : l[i]? = some .filemark) (buf_size : ℕ) :
    c.read_tape_block buf_size = (some [], { c with
      raw_pos := headerAt p l (i + 1)
      OK_to_write := if i + 1 = l.length then true else c.OK_to_write }) := by
  obtain ⟨hi, hli⟩ := List.getElem?_eq_some_iff.mp hb
  obtain ⟨f, hf, -⟩ := h.rep.data
  have hfile : c.dir.file .data p = some f := hf
  have hne : ¬c.c_pos.blk_type = B_EOD := by
    rw [h.eod_iff]
    omega
  have hsize : c.c_pos.disk_blk_size = 0 := by
    rw [c_pos, h.pos, headerAt_of_lt p hi, Record.header_disk_blk_size, hli]
    rfl
  have hread : c.pread .data p (offsetOf l i) 0 = some [] := by
    have hnil : f.pread (offsetOf l i) 0 = [] := (File.stores_nil f (offsetOf l i)).pread_eq rfl
    simp only [pread, h.opened, hfile, hnil]
  have hmod : (i + 1) % 2 ^ 32 = i + 1 := Nat.mod_eq_of_lt (by omega)
  simp only [read_tape_block, h.tape_loaded, Bool.not_true, Bool.false_eq_true, if_false, hne,
    h.partition_id, h.data_offset, h.blk_number, hsize, Nat.zero_min, hread, List.length_nil, ne_eq,
    not_true_eq_false, hmod, h.read_header_eq hl (Nat.succ_le_of_lt hi)]

/-- At end of data nothing is read and the store stays. -/
theorem read_tape_block_eod (h : At c p l l.length) (buf_size : ℕ) :
    c.read_tape_block buf_size =
      (none, { c with status := sam_blank_check E_END_OF_DATA }) := by
  simp only [read_tape_block, h.tape_loaded, Bool.not_true, Bool.false_eq_true, if_false,
    h.eod_iff.mpr (Nat.le_refl _), if_true]

/-- Whatever is read, the store stays or moves behind the record. -/
theorem read_tape_block_moves (h : At c p l i) (hl : l.length < 2 ^ 32) (buf_size : ℕ) :
    ∃ j ok st, (c.read_tape_block buf_size).2 =
      { c with raw_pos := headerAt p l j, OK_to_write := ok, status := st } ∧ j ≤ l.length ∧
      (j = i ∧ ok = c.OK_to_write ∨ j = i + 1 ∧ ok = if j = l.length then true else c.OK_to_write) := by
  have hself : c = { c with raw_pos := headerAt p l i } := by rw [← h.pos]
  by_cases hend : l.length ≤ i
  · refine ⟨i, c.OK_to_write, sam_blank_check E_END_OF_DATA, ?_, h.le, Or.inl ⟨rfl, rfl⟩⟩
    simp only [read_tape_block, h.tape_loaded, Bool.not_true, Bool.false_eq_true, if_false,
      h.eod_iff.mpr hend, if_true, ← h.pos]
  · have hne : ¬c.c_pos.blk_type = B_EOD := by
      rw [h.eod_iff]
      omega
    have hmod : (i + 1) % 2 ^ 32 = i + 1 := Nat.mod_eq_of_lt (by omega)
    have hle : i + 1 ≤ l.length := by omega
    simp only [read_tape_block, h.tape_loaded, Bool.not_true, Bool.false_eq_true, if_false, hne]
    have hstay : ∃ j ok st, c =
        { c with raw_pos := headerAt p l j, OK_to_write := ok, status := st } ∧ j ≤ l.length ∧
        (j = i ∧ ok = c.OK_to_write ∨
          j = i + 1 ∧ ok = if j = l.length then true else c.OK_to_write) :=
      ⟨i, c.OK_to_write, c.status, hself, h.le, Or.inl ⟨rfl, rfl⟩⟩
    cases hread : c.pread .data c.partition_id c.raw_pos.data_offset
        (min c.c_pos.disk_blk_size buf_size) with
    | none => exact hstay
    | some bs =>
      simp only [h.blk_number, hmod, h.read_header_eq hl hle]
      by_cases hlen : bs.length = min c.c_pos.disk_blk_size buf_size
      · simp only [hlen, ne_eq, not_true_eq_false, if_false]
        exact ⟨i + 1, _, c.status, rfl, hle, Or.inr ⟨rfl, rfl⟩⟩
      · simp only [hlen, ne_eq, not_false_eq_true, if_true]
        exact hstay

end AtRest

/-- Formatting at block 0 leaves an empty partition. -/
theorem format_partition_ok {c : Store} {p : ℕ} {l : List Record} (h : At c p l 0)
    (hio : OkFor (overwriteCalls l 0 + 2) c.io) :
    ∃ c', c.format_partition = (0, c') ∧ Written c c' p [] (overwriteCalls l 0 + 2) := by
  obtain ⟨c₁, hover, hin₁, hio₁, hd₁⟩ :=
    check_for_overwrite_ok h.rep.toOnDisk h.pos h.opened h.le (hio.mono (Nat.le_add_right _ _))
  rw [List.take_zero] at hd₁
  have hp₁ : c₁.partition_id = p := hin₁.partition_id.trans h.partition_id
  obtain ⟨fm, hfm, -⟩ := hd₁.metaf
  let c₂ : Store :=
    { c₁ with filemark_alloc := Function.update c₁.filemark_alloc c₁.partition_id 0 }
  let c₃ := c₂.setFilemarkCount p 0
  have hin₃ : Inside p c₁ c₃ :=
    (Inside.filemark_alloc p c₁ _).trans (Inside.setFilemarkCount c₂ p 0)
  have hcnt₃ : (c₃.meta_hdr p).filemark_count = 0 := setFilemarkCount_same ..
  have hmap₃ : c₃.filemarkMap p = [] := by rw [filemarkMap, hcnt₃, List.range_zero, List.map_nil]
  obtain ⟨c₄, g, hr, hin₄, hio₄, hpart₄, hrep⟩ := rewrite_meta_file_ok c₃ hp₁ (by
    change c₁.fd .metaf p = true
    rw [hin₁.fd]
    exact h.opened .metaf) hfm (by
    rw [hcnt₃, metaCalls, if_pos rfl]
    change OkFor 2 c₁.io
    rw [hio₁]
    exact hio.drop)
  rw [hmap₃] at hrep
  have hzero : c₁.zero_filemark_count = c₄ := by
    simp only [zero_filemark_count, hp₁]
    simp only [c₃, c₂, hp₁] at hr
    rw [hr]
  have hmeta₄ : c₄.meta_hdr p = c₃.meta_hdr p := congrArg PartView.meta_hdr hpart₄
  have hd₄ : OnDisk p (c₄.part p) [] := by
    refine ⟨?_, ?_, ⟨g, by rw [hpart₄, PartView.setFile_same], ?_⟩, ?_⟩
    · rw [hpart₄, PartView.setFile_other _ _ (by decide)]
      exact hd₁.indx
    · rw [hpart₄, PartView.setFile_other _ _ (by decide)]
      exact hd₁.data
    · rw [hpart₄]
      exact hrep
    · rw [hpart₄]
      exact hmap₃
  have hin : Inside p c c₄ := (hin₁.trans hin₃).trans hin₄
  have hp₄ : c₄.partition_id = p := hin.partition_id.trans h.partition_id
  obtain ⟨c₅, hmk, hat, hfr₅, hio₅, hok₅, hst₅⟩ := mkEODHeader_at hd₄ hp₄ (by
    rw [hin.fd]
    exact h.fd) h.part_lt
  have hblk : c₄.c_pos.blk_number = 0 := by
    rw [c_pos, hin.raw_pos]
    exact h.blk_number
  have hoff : c₄.raw_pos.data_offset = 0 := by
    rw [hin.raw_pos]
    exact h.data_offset
  refine ⟨c₅, ?_, hat, hin.toFrame.trans hfr₅, ?_, hok₅, hst₅.trans hin.status⟩
  · simp only [format_partition, h.tape_loaded, Bool.not_true, Bool.false_eq_true, if_false, hover,
      ne_eq, not_true_eq_false, hzero, hblk, hoff]
    exact hmk
  · rw [hio₅, hio₄, hcnt₃, metaCalls, if_pos rfl]
    change c₁.io.drop 2 = _
    rw [hio₁, List.drop_drop]

/-- Switching to a partition that is there opens it at its first block, when at most the
current one is open. -/
theorem change_partition_opens {c : Store} {q : ℕ} {l' : List Record}
    (hfds : ∀ k r, c.fd k r = true → r = c.partition_id) (hr : Rep q (c.part q) l')
    (hq : q < 2 ^ 32) (hl : l'.length < 2 ^ 32) :
    ∃ c', c.change_partition q = (0, c') ∧ At c' q l' 0 ∧ (∀ r, c'.part r = c.part r) ∧
      c'.mam = c.mam ∧ c'.io = c.io ∧ c'.status = c.status ∧
      c'.OK_to_write = (if 0 = l'.length then true else c.OK_to_write) ∧
      c'.dir = c.dir ∧ c'.mamfile = c.mamfile ∧ c'.mhvtlfile = c.mhvtlfile := by
  obtain ⟨fi, hfi, -⟩ := hr.indx
  obtain ⟨fd, hfd, -⟩ := hr.data
  obtain ⟨fm, hfm, -⟩ := hr.metaf
  have hfi' : c.dir.file .indx q = some fi := hfi
  have hfd' : c.dir.file .data q = some fd := hfd
  have hfm' : c.dir.file .metaf q = some fm := hfm
  let c₁ := (c.close_partition c.partition_id).setPartition q
  let c₂ : Store := { c₁ with fd := fun k r => decide (r = q) }
  have hopen : c₁.open_partition q = (0, c₂) := by
    simp only [open_partition, c₂, Prod.mk.injEq]
    constructor
    · simp only [c₁, setPartition, close_partition, hfi', hfd', hfm', Option.isSome_some, and_self,
        if_true]
    · have hfds' : (fun k r => if r = q then (c₁.dir.file k q).isSome else c₁.fd k r) =
          fun (_ : FileKind) (r : ℕ) => decide (r = q) := by
        funext k r
        by_cases hrq : r = q
        · have hsome : (c₁.dir.file k q).isSome = true := by
            cases k with
            | data => exact congrArg Option.isSome hfd'
            | indx => exact congrArg Option.isSome hfi'
            | metaf => exact congrArg Option.isSome hfm'
          rw [if_pos hrq, hsome, decide_eq_true hrq]
        · rw [if_neg hrq, decide_eq_false hrq]
          by_cases hrp : r = c.partition_id
          · simp only [c₁, setPartition, close_partition, if_pos hrp]
          · simp only [c₁, setPartition, close_partition, if_neg hrp]
            exact Bool.eq_false_iff.mpr fun hop => hrp (hfds k r hop)
      rw [hfds']
  have hread := @read_header_eq c₂ q 0 l' hr rfl (decide_eq_true rfl) hq hl (Nat.zero_le _)
  refine ⟨{ c₂ with
      raw_pos := headerAt q l' 0
      OK_to_write := if 0 = l'.length then true else c.OK_to_write },
    ?_, ⟨hr, rfl, Nat.zero_le _, fun _ _ => rfl, hq⟩, fun _ => rfl, rfl, rfl, rfl, rfl, rfl, rfl, rfl⟩
  simp only [change_partition]
  simp only [c₁] at hopen
  rw [hopen]
  simp only [hread]
  rfl

/-- Switching from a partition to one that is there. -/
theorem change_partition_ok {c : Store} {p q i : ℕ} {l l' : List Record} (h : At c p l i)
    (hr : Rep q (c.part q) l') (hq : q < 2 ^ 32) (hl : l'.length < 2 ^ 32) :
    ∃ c', c.change_partition q = (0, c') ∧ At c' q l' 0 ∧ (∀ r, c'.part r = c.part r) ∧
      c'.mam = c.mam ∧ c'.io = c.io ∧ c'.status = c.status ∧
      c'.OK_to_write = (if 0 = l'.length then true else c.OK_to_write) ∧
      c'.dir = c.dir ∧ c'.mamfile = c.mamfile ∧ c'.mhvtlfile = c.mhvtlfile := by
  apply change_partition_opens _ hr hq hl
  intro k r hop
  rw [h.fd, decide_eq_true_eq] at hop
  exact hop.trans h.partition_id.symm

end Store

end Mhvtl.Cart
