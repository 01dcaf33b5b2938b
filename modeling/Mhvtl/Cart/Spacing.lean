import Mhvtl.Cart.Positioning
import Mhvtl.Lib.Spacing

/-!
# Where positioning ends

The four ways of spacing and positioning to a block, with the index that the head
comes to rest at and the status that is left.
-/

namespace Mhvtl.Cart

open Records

namespace Store

/-- `c'` is `c` with the head at index `j` of the partition and the status `st`; only the
write permission may differ besides. -/
structure Rests (c c' : Store) (p : ℕ) (l : List Record) (j : ℕ) (st : Status) : Prop where
  /-- What differs. -/
  eq : ∃ ok, c' = { c with raw_pos := headerAt p l j, OK_to_write := ok, status := st }
  /-- The head is on the partition. -/
  le : j ≤ l.length

namespace Rests

variable {c c' : Store} {p i j : ℕ} {l : List Record} {st : Status}

/-- The store stands where the head rests. -/
theorem at_pos (h : Rests c c' p l j st) (ha : At c p l i) : At c' p l j := by
  obtain ⟨ok, rfl⟩ := h.eq
  exact ⟨ha.rep, rfl, h.le, ha.fd, ha.part_lt⟩

/-- The status is the one named. -/
theorem status (h : Rests c c' p l j st) : c'.status = st := by
  obtain ⟨ok, rfl⟩ := h.eq
  rfl

/-- What comes to rest after the permission of a WORM medium is taken comes to rest so. -/
theorem of_clearWormWrite (h : Rests c.clearWormWrite c' p l j st) : Rests c c' p l j st := by
  obtain ⟨ok, rfl⟩ := h.eq
  refine ⟨⟨ok, ?_⟩, h.le⟩
  unfold Store.clearWormWrite
  split <;> rfl

/-- A status set afterwards is the one that is left. -/
theorem withStatus (h : Rests c c' p l j st) (st' : Status) :
    Rests c { c' with status := st' } p l j st' := by
  obtain ⟨ok, rfl⟩ := h.eq
  exact ⟨⟨ok, rfl⟩, h.le⟩

end Rests

/-- Taking the permission of a WORM medium leaves the status. -/
@[simp] theorem status_clearWormWrite (c : Store) : c.clearWormWrite.status = c.status := by
  unfold clearWormWrite
  split <;> rfl

section AtRest

variable {c : Store} {p i : ℕ} {l : List Record}

/-- Reading a header moves the head there. -/
theorem read_header_rests (h : At c p l i) (hl : l.length < 2 ^ 32) {j : ℕ} (hj : j ≤ l.length) :
    ∃ c', c.read_header j = (0, c') ∧ Rests c c' p l j c.status :=
  ⟨_, h.read_header_eq hl hj, ⟨_, rfl⟩, hj⟩

/-- Where `position_to_block` leaves the head, and with which status. -/
theorem position_to_block_rests (h : At c p l i) (hl : l.length < 2 ^ 32) (n : ℕ) :
    Rests c (c.position_to_block n).2 p l (min n l.length)
      (if l.length < n then sam_blank_check E_END_OF_DATA else c.status) := by
  have h₁ := h.clearWormWrite
  apply Rests.of_clearWormWrite
  by_cases hn : l.length < n
  · let c₁ : Store := { c.clearWormWrite with status := sam_blank_check E_END_OF_DATA }
    have ha₁ : At c₁ p l i := ⟨h₁.rep, h₁.pos, h₁.le, h₁.fd, h₁.part_lt⟩
    have hread := ha₁.read_header_eq hl (le_refl _)
    have heod : c.position_to_block n = c₁.position_to_eod := by
      simp only [position_to_block, h.tape_loaded, Bool.not_true, Bool.false_eq_true, if_false,
        h₁.partition_id, h₁.eod_blk, if_pos hn, c₁]
    rw [Nat.min_eq_right (Nat.le_of_lt hn), if_pos hn, heod]
    simp only [position_to_eod, ha₁.tape_loaded, Bool.not_true, Bool.false_eq_true, if_false,
      ha₁.partition_id, ha₁.eod_blk, hread, ne_eq, not_true_eq_false]
    split <;> exact ⟨⟨_, rfl⟩, le_refl _⟩
  · rw [Nat.min_eq_left (by omega), if_neg hn]
    have hstatus : c.status = c.clearWormWrite.status := (status_clearWormWrite c).symm
    by_cases h0 : n = 0
    · subst h0
      have hread := h₁.read_header_eq hl (Nat.zero_le _)
      simp only [position_to_block, h.tape_loaded, Bool.not_true, Bool.false_eq_true, if_false,
        h₁.partition_id, h₁.eod_blk, hn, if_pos, rewind_tape, h₁.tape_loaded, hread, ne_eq,
        not_true_eq_false]
      exact ⟨⟨_, by rw [hstatus]⟩, Nat.zero_le _⟩
    · have hread := h₁.read_header_eq hl (Nat.le_of_not_lt hn)
      simp only [position_to_block, h.tape_loaded, Bool.not_true, Bool.false_eq_true, if_false,
        h₁.partition_id, h₁.eod_blk, hn, h0, hread]
      exact ⟨⟨_, by rw [hstatus]⟩, Nat.le_of_not_lt hn⟩

/-- Reading a header and then reporting how much is missing. -/
theorem stopShort_rests (h : At c p l i) (hl : l.length < 2 ^ 32) {j : ℕ} (hj : j ≤ l.length)
    (st : Status) (residual : ℕ) :
    Rests c (let r := c.read_header j
      (if r.1 ≠ 0 then (-1, r.2) else r.2.stopShort st residual : ℤ × Store)).2 p l j
      (st.withInformation (residual % 2 ^ 32)) := by
  obtain ⟨c', hread, hrests⟩ := read_header_rests h hl hj
  simp only [hread, ne_eq, not_true_eq_false, if_false, stopShort]
  exact hrests.withStatus _

/-- An entry of the filemark map. -/
theorem At.filemarks_eq (h : At c p l i) {k : ℕ} (hk : k < (filemarksOf l).length) :
    c.filemarks p k = (filemarksOf l)[k] := by
  have hmap : c.filemarkMap p = filemarksOf l := h.rep.marks
  have hget := congrArg (fun x => x[k]?) hmap
  simp only [List.getElem?_eq_getElem hk] at hget
  have hlen : k < (c.filemarkMap p).length := by rwa [hmap]
  rw [List.getElem?_eq_getElem hlen, Option.some.injEq] at hget
  rw [← hget]
  simp only [filemarkMap, List.getElem_map, List.getElem_range]

/-- Filemarks are on the partition. -/
theorem filemarksOf_lt {f : ℕ} (h : f ∈ filemarksOf l) : f < l.length :=
  marks_lt Record.isFilemark h

section Forward

variable (count : ℕ)

/-- Spacing forward over filemarks. -/
theorem position_filemarks_forw_rests (h : At c p l i) (hl : l.length < 2 ^ 32)
    (hpos : 0 < count) (hcount : count < 2 ^ 63) :
    Rests c (c.position_filemarks_forw count).2 p l (skipForward Record.isFilemark l i count).pos
      (if (skipForward Record.isFilemark l i count).halt = .arrived then c.status
        else (sam_blank_check E_END_OF_DATA).withInformation
          ((skipForward Record.isFilemark l i count).missing % 2 ^ 32)) := by
  have h₁ := h.clearWormWrite
  have hmap : c.clearWormWrite.filemarkMap p = filemarksOf l := h₁.rep.marks
  have hcnt : (c.clearWormWrite.meta_hdr p).filemark_count = (filemarksOf l).length :=
    h₁.rep.filemark_count
  have hmarks : (filemarksOf l).length ≤ l.length := marks_length_le Record.isFilemark l
  have hfirst : (filemarksOf l).findIdx (i ≤ ·) ≤ (filemarksOf l).length := List.findIdx_le_length
  have hspec := skipForward_eq Record.isFilemark l i hpos
  change _ = if (filemarksOf l).findIdx (i ≤ ·) + count ≤ (filemarksOf l).length
    then Rest.mk ((filemarksOf l).getD ((filemarksOf l).findIdx (i ≤ ·) + count - 1) 0 + 1) _ _
    else Rest.mk _ _ ((filemarksOf l).findIdx (i ≤ ·) + count - (filemarksOf l).length) at hspec
  rw [hspec]
  apply Rests.of_clearWormWrite
  have hj : ((((filemarksOf l).findIdx (i ≤ ·) : ℕ) + (count : ℤ) - 1) % 2 ^ 64).toNat =
      (filemarksOf l).findIdx (i ≤ ·) + count - 1 := by omega
  by_cases hn : (filemarksOf l).findIdx (i ≤ ·) + count ≤ (filemarksOf l).length
  · have hlt : (filemarksOf l).findIdx (i ≤ ·) + count - 1 < (filemarksOf l).length := by omega
    have hentry := h₁.filemarks_eq hlt
    have hmem := filemarksOf_lt (List.getElem_mem hlt)
    have hmod : ((filemarksOf l)[(filemarksOf l).findIdx (i ≤ ·) + count - 1] + 1) % 2 ^ 32 =
        (filemarksOf l)[(filemarksOf l).findIdx (i ≤ ·) + count - 1] + 1 :=
      Nat.mod_eq_of_lt (by omega)
    have hto := position_to_block_rests h₁ hl
      ((filemarksOf l)[(filemarksOf l).findIdx (i ≤ ·) + count - 1] + 1)
    rw [Nat.min_eq_left (by omega), if_neg (by omega), status_clearWormWrite] at hto
    rw [if_pos hn, if_pos rfl, List.getD_eq_getElem _ _ hlt]
    simp only [position_filemarks_forw, h.tape_loaded, Bool.not_true, Bool.false_eq_true, if_false,
      h₁.partition_id, hmap, h₁.blk_number, hcnt, hj, if_pos hlt, hentry, hmod]
    exact hto
  · have hge : ¬ (filemarksOf l).findIdx (i ≤ ·) + count - 1 < (filemarksOf l).length := by omega
    have hleft : ((((filemarksOf l).findIdx (i ≤ ·) : ℕ) + (count : ℤ) - (filemarksOf l).length) %
        2 ^ 64).toNat = (filemarksOf l).findIdx (i ≤ ·) + count - (filemarksOf l).length := by omega
    have hstop := stopShort_rests h₁ hl (le_refl _) (sam_blank_check E_END_OF_DATA)
      ((filemarksOf l).findIdx (i ≤ ·) + count - (filemarksOf l).length)
    have hhalt : ¬ Halt.endOfData = Halt.arrived := by decide
    rw [if_neg hn, if_neg hhalt]
    simp only [position_filemarks_forw, h.tape_loaded, Bool.not_true, Bool.false_eq_true, if_false,
      h₁.partition_id, hmap, h₁.blk_number, hcnt, hj, if_neg hge, hleft, h₁.eod_blk]
    exact hstop

/-- Spacing over no filemark goes back behind the last one, or on to the end of the data. -/
theorem position_filemarks_forw_zero (h : At c p l i) (hl : l.length < 2 ^ 32) :
    ((∀ f ∈ filemarksOf l, i ≤ f) ∧
      (c.position_filemarks_forw 0).2.status.sam_stat = SAM_STAT_CHECK_CONDITION) ∨
    ∃ f ∈ filemarksOf l, f < i ∧ (∀ g ∈ filemarksOf l, g < i → g ≤ f) ∧
      Rests c (c.position_filemarks_forw 0).2 p l (f + 1) c.status := by
  have h₁ := h.clearWormWrite
  have hmap : c.clearWormWrite.filemarkMap p = filemarksOf l := h₁.rep.marks
  have hcnt : (c.clearWormWrite.meta_hdr p).filemark_count = (filemarksOf l).length :=
    h₁.rep.filemark_count
  have hmarks : (filemarksOf l).length ≤ l.length := marks_length_le Record.isFilemark l
  have hsorted : (filemarksOf l).Pairwise (· < ·) := marks_sorted
  have hfirst : (filemarksOf l).findIdx (i ≤ ·) ≤ (filemarksOf l).length := List.findIdx_le_length
  by_cases hnone : (filemarksOf l).findIdx (i ≤ ·) = 0
  · left
    have hj : ((((filemarksOf l).findIdx (i ≤ ·) : ℕ) + ((0 : ℕ) : ℤ) - 1) % 2 ^ 64).toNat = 2 ^ 64 - 1 := by
      omega
    have hge : ¬2 ^ 64 - 1 < (filemarksOf l).length := by omega
    have hstop := stopShort_rests h₁ hl (le_refl _) (sam_blank_check E_END_OF_DATA)
      ((((filemarksOf l).findIdx (i ≤ ·) : ℕ) + ((0 : ℕ) : ℤ) - (filemarksOf l).length) % 2 ^ 64).toNat
    refine ⟨fun f hf => ?_, ?_⟩
    · obtain ⟨k, hk, rfl⟩ := List.getElem_of_mem hf
      exact le_getElem_of_findIdx_le hsorted (hnone.trans_le (Nat.zero_le k)) hk
    · simp only [position_filemarks_forw, h.tape_loaded, Bool.not_true, Bool.false_eq_true, if_false,
        h₁.partition_id, hmap, h₁.blk_number, hcnt, hj, if_neg hge, h₁.eod_blk]
      exact congrArg Status.sam_stat hstop.status
  · right
    have hlt : (filemarksOf l).findIdx (i ≤ ·) - 1 < (filemarksOf l).length := by omega
    have hj : ((((filemarksOf l).findIdx (i ≤ ·) : ℕ) + ((0 : ℕ) : ℤ) - 1) % 2 ^ 64).toNat =
        (filemarksOf l).findIdx (i ≤ ·) - 1 := by omega
    have hmem := List.getElem_mem hlt
    have hbelow := getElem_lt_of_lt_findIdx
      (by omega : (filemarksOf l).findIdx (i ≤ ·) - 1 < (filemarksOf l).findIdx (i ≤ ·)) hlt
    have hentry := h₁.filemarks_eq hlt
    have hlen := filemarksOf_lt hmem
    have hmod : ((filemarksOf l)[(filemarksOf l).findIdx (i ≤ ·) - 1] + 1) % 2 ^ 32 =
        (filemarksOf l)[(filemarksOf l).findIdx (i ≤ ·) - 1] + 1 := Nat.mod_eq_of_lt (by omega)
    refine ⟨_, hmem, hbelow, ?_, Rests.of_clearWormWrite ?_⟩
    · intro g hg hgi
      obtain ⟨k, hk, rfl⟩ := List.getElem_of_mem hg
      have hk' : k < (filemarksOf l).findIdx (i ≤ ·) := by
        by_contra hge
        have hle := le_getElem_of_findIdx_le hsorted (Nat.le_of_not_lt hge) hk
        omega
      rcases Nat.lt_or_eq_of_le (Nat.le_sub_one_of_lt hk') with hlast | hlast
      · exact le_of_lt (List.pairwise_iff_getElem.mp hsorted _ _ hk hlt hlast)
      · simp only [hlast, le_refl]
    · have hto := position_to_block_rests h₁ hl
        ((filemarksOf l)[(filemarksOf l).findIdx (i ≤ ·) - 1] + 1)
      rw [Nat.min_eq_left (by omega), if_neg (by omega), status_clearWormWrite] at hto
      simp only [position_filemarks_forw, h.tape_loaded, Bool.not_true, Bool.false_eq_true, if_false,
        h₁.partition_id, hmap, h₁.blk_number, hcnt, hj, if_pos hlt, hentry, hmod]
      exact hto

end Forward

section Backward

variable (count : ℕ)

end Backward

end AtRest

end Store

end Mhvtl.Cart
