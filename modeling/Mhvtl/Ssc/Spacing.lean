import Mhvtl.Cart.Spacing
import Mhvtl.Ssc.Commands
import Mhvtl.Ssc.Reading

/-!
# SPACE

What an initiator expects of SPACE: the head passes blocks one by one, or looks for
filemarks, and what stopped it is reported with the number that is missing. The drive
computes targets and residual counts in 32 bits.
-/

namespace Mhvtl.Ssc

open Bytes Cart Records Store

/-- The status at the beginning of the partition, with the number that is missing. -/
def beginningMet (missing : ℕ) : Status := (sam_no_sense SD_EOM E_BOM).withInformation missing

/-- The status that a head at rest is reported with. -/
def restStatus (r : Rest) : Option Status :=
  match r.halt with
  | .arrived => none
  | .mark => some (markMet r.missing)
  | .endOfData => some (endMet r.missing)
  | .beginning => some (beginningMet r.missing)

/-- A status is good, or the one named. -/
def Says (st : Status) : Option Status → Prop
  | none => st.sam_stat = SAM_STAT_GOOD
  | some s => st = s

/-- The drive has come to rest on the partition, and says why. -/
structure Left (d : Drive) (p : ℕ) (l : List Record) (r : Rest) : Prop where
  /-- The head is there. -/
  at_pos : At d.cart p l r.pos
  /-- The status tells why. -/
  ends : Ends d (restStatus r)

/-- SPACE over blocks from index `i` on, back when the count is negative. -/
def passed (l : List Record) (i : ℕ) (count : ℤ) : Rest :=
  if 0 ≤ count then passForward Record.isFilemark l i count.toNat
  else passBackward Record.isFilemark l i (-count).toNat

/-- SPACE over filemarks from index `i` on, back when the count is negative. -/
def found (l : List Record) (i : ℕ) (count : ℤ) : Rest :=
  if 0 ≤ count then skipForward Record.isFilemark l i count.toNat
  else skipBackward Record.isFilemark l i (-count).toNat

/-- The largest number that fits the information field stands for those above it. -/
def Rest.saturated (r : Rest) : Rest := { r with missing := min r.missing (2 ^ 32 - 1) }

/-- The number of missing filemarks fits the information field, or its low bits are what
stands for a larger one. -/
def FitsInformation (missing : ℕ) : Prop := missing < 2 ^ 32 ∨ missing % 2 ^ 32 = 2 ^ 32 - 1

/-- Fitting the information field is decided by the number. -/
instance (missing : ℕ) : Decidable (FitsInformation missing) :=
  inferInstanceAs (Decidable (_ ∨ _))

section Statuses

variable {m n : ℕ}

/-- Different residual counts are told apart. -/
theorem endMet_inj : endMet m = endMet n ↔ m = n := by
  simp [endMet, Status.withInformation]

end Statuses

section Rest

variable {d d' : Drive} {p i j : ℕ} {l : List Record} {st : Status}

/-- The head is at one place only. -/
theorem at_unique {c : Store} (h : At c p l i) (h' : At c p l j) : i = j :=
  h.blk_number.symm.trans h'.blk_number

/-- What a head at rest tells, by where it is and by its status. -/
theorem left_iff (h : At d.cart p l i) (hr : Rests d.cart d'.cart p l j st) (r : Rest) :
    Left d' p l r ↔ j = r.pos ∧ Says st (restStatus r) := by
  have hat := hr.at_pos h
  have hst := hr.status
  have hends : Ends d' (restStatus r) ↔ Says st (restStatus r) := by
    cases restStatus r with
    | none => rw [Ends, Says, Drive.sam_stat, hst]
    | some s => rw [Ends, Says, hst]
  constructor
  · rintro ⟨hpos, hend⟩
    exact ⟨at_unique hat hpos, hends.mp hend⟩
  · rintro ⟨rfl, hsays⟩
    exact ⟨hat, hends.mpr hsays⟩

end Rest

section Blocks

variable {d d' : Drive} {p i j : ℕ} {l : List Record} {st : Status} (n : ℕ)

end Blocks

section Filemarks

variable {l : List Record} {i : ℕ} {n : ℕ} {st : Status}

/-- Low bits are the number that is reported just when it fits. -/
theorem low_bits_iff (m : ℕ) : m % 2 ^ 32 = min m (2 ^ 32 - 1) ↔ FitsInformation m := by
  rw [FitsInformation]
  omega

/-- Skipping forward tells what it should just when the missing number fits. -/
theorem skip_forward_iff (hgood : st.sam_stat = SAM_STAT_GOOD) :
    Says (if (skipForward Record.isFilemark l i n).halt = .arrived then st
        else endMet ((skipForward Record.isFilemark l i n).missing % 2 ^ 32))
      (restStatus (Rest.saturated (skipForward Record.isFilemark l i n))) ↔
      FitsInformation (n - ((filemarksOf l).filter (i ≤ ·)).length) := by
  simp only [skipForward, Rest.saturated, restStatus]
  by_cases hn : n ≤ ((filemarksOf l).filter (i ≤ ·)).length
  · have hfits : FitsInformation (n - ((filemarksOf l).filter (i ≤ ·)).length) :=
      Or.inl (by omega)
    have hn' : n ≤ ((marks Record.isFilemark l).filter (i ≤ ·)).length := hn
    simp [hn', hgood, Says, hfits]
  · have hn' : ¬ n ≤ ((marks Record.isFilemark l).filter (i ≤ ·)).length := hn
    simp only [if_neg hn', Says, reduceCtorEq, if_false, endMet_inj]
    exact low_bits_iff _

end Filemarks

section Commands

variable {d : Drive} {p i : ℕ} {l : List Record}

/-- The command starts with good status where the head is. -/
theorem at_declared (h : At d.cart p l i) : At d.declare_ssc_vars.cart p l i :=
  ⟨h.rep, h.pos, h.le, h.fd, h.part_lt⟩

/-- The tape of one filemark, rewound. -/
def markedDrive : Drive :=
  { emptyDrive with cart := (emptyDrive.cart.write_filemarks 1).2.rewind_tape.2 }

/-- The head is in front of the filemark. -/
theorem markedDrive_at : At markedDrive.cart 0 [.filemark] 0 := by
  obtain ⟨c', hrun, hw⟩ := write_filemarks_ok emptyDrive_at (n := 1) (by decide) (by decide)
    (by decide) (okFor_nil _)
  have hat : At c' 0 [.filemark] 1 := hw.at_end
  obtain ⟨c₀, hrewind, hsought⟩ := rewind_tape_ok hat (by decide)
  have hcart : markedDrive.cart = c₀ := by
    rw [markedDrive, hrun]
    exact congrArg Prod.snd hrewind
  rw [hcart]
  exact hsought.at_pos hat

end Commands

end Mhvtl.Ssc
