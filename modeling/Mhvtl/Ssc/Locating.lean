import Mhvtl.Ssc.Spacing
import Mhvtl.Ssc.Volume

/-!
# LOCATE

The partition and the block that a LOCATE names, and where the head is behind it. Block
numbers on the medium have 32 bits, so that the low ones of a longer number count.
-/

namespace Mhvtl.Ssc

open Bytes Cart Records Store

/-- The command block is one of LOCATE. -/
def IsLocate (cdb : Cdb) : Prop := cdb 0 = LOCATE_10 ∨ cdb 0 = LOCATE_16

/-- It names a logical object, as LOCATE(10) always does. -/
def NamesObject (cdb : Cdb) : Prop :=
  cdb 0 = LOCATE_10 ∨ cdb 0 = LOCATE_16 ∧ cdb 1 &&& 0x18 = 0

/-- The partition it names, when it asks for another one. -/
def namedPartition (cdb : Cdb) : ℕ := if cdb 0 = LOCATE_10 then (cdb 8).toNat else (cdb 3).toNat

/-- The logical object it names. -/
def namedObject (cdb : Cdb) : ℕ :=
  if cdb 0 = LOCATE_10 then beNat (bytesAt cdb 3 4) else beNat (bytesAt cdb 4 8)

/-- The partition that is to be the current one. -/
def wantedPartition (d : Drive) (cdb : Cdb) : ℕ :=
  if changesPartition cdb then namedPartition cdb else d.cart.partition_id

/-- The head is at block `b` of the partition, or at the end of its data when there are
fewer, which is reported. -/
structure Located (d : Drive) (q : ℕ) (l : List Record) (b : ℕ) : Prop where
  /-- The head is there. -/
  at_pos : At d.cart q l (min b l.length)
  /-- The status tells whether the block is there. -/
  ends : Ends d (if b ≤ l.length then none else some (sam_blank_check E_END_OF_DATA))

section Target

variable (d : Drive) {cdb : Cdb}

/-- What a LOCATE to a logical object is taken for. -/
theorem locateTarget_object (h : NamesObject cdb) :
    locateTarget d cdb = some (wantedPartition d cdb, namedObject cdb) := by
  rw [locateTarget, wantedPartition, namedPartition, namedObject]
  rcases h with h10 | ⟨h16, htype⟩
  · simp only [h10, if_true]
  · have hne : ¬ cdb 0 = LOCATE_10 := by
      rw [h16]
      decide
    simp only [hne, if_false, htype, if_true]

/-- When another partition is asked for, the target has that one. -/
theorem locateTarget_partition (hcp : changesPartition cdb = true) {q b : ℕ}
    (h : locateTarget d cdb = some (q, b)) : q = namedPartition cdb := by
  rw [locateTarget] at h
  rw [namedPartition]
  by_cases h10 : cdb 0 = LOCATE_10
  · simp only [h10, if_true, hcp, Option.some.injEq, Prod.mk.injEq] at h
    rw [if_pos h10, ← h.1]
  · by_cases htype : cdb 1 &&& 0x18 = 0
    · simp only [h10, if_false, htype, if_true, hcp, Option.some.injEq, Prod.mk.injEq] at h
      rw [if_neg h10, ← h.1]
    · simp only [h10, if_false, htype] at h
      exact absurd h (Option.some_ne_none _).symm

end Target

section Locate

variable {d : Drive} {n : ℕ} {recs : ℕ → List Record} {cdb : Cdb}

/-- A partition above the recorded number is refused, and nothing but the status changes. -/
theorem ssc_locate_refused (hop : IsLocate cdb) (hcp : changesPartition cdb = true)
    (habove : d.cart.mam.num_partitions < namedPartition cdb) :
    ssc_locate d cdb = some (d.report (sam_illegal_request E_INVALID_FIELD_IN_CDB none)) := by
  have hnot : ¬(cdb 0 ≠ LOCATE_10 ∧ cdb 0 ≠ LOCATE_16) := by
    rintro ⟨h10, h16⟩
    exact hop.elim h10 h16
  simp only [ssc_locate, if_neg hnot]
  cases htarget : locateTarget d.declare_ssc_vars cdb with
  | none => rfl
  | some target =>
    have hq := locateTarget_partition d.declare_ssc_vars hcp (b := target.2) htarget
    have hrefuse : changesPartition cdb = true ∧
        d.declare_ssc_vars.cart.mam.num_partitions < target.1 := ⟨hcp, hq ▸ habove⟩
    simp only [if_pos hrefuse]
    rfl

/-- A LOCATE that is taken moves the head to the block, by its low bits. -/
theorem ssc_locate_taken (h : Mounted n d.cart recs) (hobj : NamesObject cdb)
    (hq : wantedPartition d cdb < n)
    (hknown : changesPartition cdb = true → namedPartition cdb ≤ d.cart.mam.num_partitions) :
    ∃ d', ssc_locate d cdb = some d' ∧
      Located d' (wantedPartition d cdb) (recs (wantedPartition d cdb))
        (namedObject cdb % 2 ^ 32) := by
  have hm : Mounted n d.declare_ssc_vars.cart recs := (h.report _).mounted
  have hlen := hm.length_lt hq
  have hmax : wantedPartition d cdb < MAX_PARTITIONS := hq.trans_le h.n_le
  have hnot : ¬(cdb 0 ≠ LOCATE_10 ∧ cdb 0 ≠ LOCATE_16) := by
    rintro ⟨h10, h16⟩
    exact hobj.elim h10 fun h => h16 h.1
  have htarget : locateTarget d.declare_ssc_vars cdb =
      some (wantedPartition d cdb, namedObject cdb) := locateTarget_object d.declare_ssc_vars hobj
  have htaken : ¬(changesPartition cdb = true ∧
      d.declare_ssc_vars.cart.mam.num_partitions < wantedPartition d cdb) := by
    rintro ⟨hcp, hlt⟩
    rw [wantedPartition, if_pos hcp] at hlt
    exact absurd (hknown hcp) (Nat.not_le_of_lt hlt)
  obtain ⟨c', hchange, hat, -, -, -, hstatus, -⟩ := change_partition_opens hm.open_here
    (hm.rep _ hq) (hmax.trans (by decide)) hlen
  have hrests := position_to_block_rests hat hlen (namedObject cdb % 2 ^ 32)
  have hlocate : ssc_locate d cdb =
      some { d with cart := (c'.position_to_block (namedObject cdb % 2 ^ 32)).2 } := by
    simp only [ssc_locate, if_neg hnot, htarget, if_neg htaken, if_neg (Nat.not_le_of_lt hmax)]
    simp only [Drive.onCart, hchange]
    rfl
  refine ⟨_, hlocate, hrests.at_pos hat, ?_⟩
  have hst := hrests.status
  by_cases hle : namedObject cdb % 2 ^ 32 ≤ (recs (wantedPartition d cdb)).length
  · rw [if_neg (Nat.not_lt_of_le hle), hstatus] at hst
    rw [if_pos hle]
    exact congrArg Status.sam_stat hst
  · rw [if_pos (Nat.lt_of_not_le hle)] at hst
    rw [if_neg hle]
    exact hst

/-- LOCATE lands where it says. A partition above the recorded number is refused and nothing
moves; the head is put on a partition that is there, at the logical object that the low bits
name. -/
theorem ssc_locate_lands (h : Mounted n d.cart recs) (hop : IsLocate cdb) :
    (changesPartition cdb = true → d.cart.mam.num_partitions < namedPartition cdb →
      ∃ st, st.sam_stat = SAM_STAT_CHECK_CONDITION ∧ ssc_locate d cdb = some (d.report st)) ∧
    (NamesObject cdb → wantedPartition d cdb < n →
      (changesPartition cdb = true → namedPartition cdb ≤ d.cart.mam.num_partitions) →
      ∃ d', ssc_locate d cdb = some d' ∧
        Located d' (wantedPartition d cdb) (recs (wantedPartition d cdb))
          (namedObject cdb % 2 ^ 32)) :=
  ⟨fun hcp habove => ⟨_, rfl, ssc_locate_refused hop hcp habove⟩, ssc_locate_taken h⟩

/-- LOCATE(10) of a block. -/
def locateCdb (b : UInt8) : Cdb
  | 0 => LOCATE_10
  | 6 => b
  | _ => 0

/-- LOCATE(16) of block `2 ^ 32`. -/
def locateFarCdb : Cdb
  | 0 => LOCATE_16
  | 7 => 1
  | _ => 0

/-- LOCATE(10) of a block of a partition. -/
def partitionCdb (p b : UInt8) : Cdb
  | 0 => LOCATE_10
  | 1 => 0x02
  | 6 => b
  | 8 => p
  | _ => 0

/-- From the end of the second partition, a LOCATE of block 1 of the first ends at its filemark.
One of block 5 of the second ends behind its three records and says so, and one of a fourth
partition is refused. -/
theorem locate_pairDrive :
    (∃ d', ssc_locate pairDrive (partitionCdb 0 1) = some d' ∧
      Located d' 0 [BlockArgs.record oneByte, .filemark, BlockArgs.record oneByte] 1) ∧
    (∃ d', ssc_locate pairDrive (locateCdb 5) = some d' ∧
      Located d' 1 [.filemark, .filemark, BlockArgs.record oneByte] 5) ∧
    ∃ st, st.sam_stat = SAM_STAT_CHECK_CONDITION ∧
      ssc_locate pairDrive (partitionCdb 3 0) = some (pairDrive.report st) := by
  have hnum : pairDrive.cart.mam.num_partitions = 2 := by decide +kernel
  have hfirst : namedObject (partitionCdb 0 1) % 2 ^ 32 = 1 := by decide +kernel
  have hthird : namedObject (locateCdb 5) % 2 ^ 32 = 5 := by decide +kernel
  have hhere : wantedPartition pairDrive (locateCdb 5) = 1 := pairDrive_at.partition_id
  refine ⟨?_, ?_, ?_⟩
  · have hlands := (@ssc_locate_lands _ _ _ (partitionCdb 0 1) pairDrive_mounted (Or.inl rfl)).2
      (Or.inl rfl) (show 0 < 2 by decide) fun _ => Nat.zero_le _
    rw [hfirst] at hlands
    exact hlands
  · have hlands := (@ssc_locate_lands _ _ _ (locateCdb 5) pairDrive_mounted (Or.inl rfl)).2
      (Or.inl rfl) (by rw [hhere]; decide) (by decide)
    rw [hthird, hhere] at hlands
    exact hlands
  · refine (@ssc_locate_lands _ _ _ (partitionCdb 3 0) pairDrive_mounted (Or.inl rfl)).1 rfl ?_
    rw [hnum]
    decide

/-- On an empty tape, a LOCATE(16) of block `2 ^ 32` is good and tells nothing of the end of
the data. -/
theorem locate_low_bits :
    namedObject locateFarCdb = 2 ^ 32 ∧
    ¬∃ d', ssc_locate emptyDrive locateFarCdb = some d' ∧ Located d' 0 [] (2 ^ 32) := by
  have hgood : (ssc_locate emptyDrive locateFarCdb).map Drive.sam_stat =
      some SAM_STAT_GOOD := by decide +kernel
  refine ⟨by decide +kernel, ?_⟩
  rintro ⟨d', hrun, hlocated⟩
  have hend : d'.cart.status = sam_blank_check E_END_OF_DATA := hlocated.ends
  rw [hrun, Option.map_some, Drive.sam_stat, hend] at hgood
  exact absurd hgood (by decide)

end Locate

end Mhvtl.Ssc
