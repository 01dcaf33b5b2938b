import Mhvtl.Ssc.Shelf

/-!
# The records of a cartridge over its whole life

Histories of loads, commands and unloads, told of the medium alone. A load and an unload leave the
records as they are, a command changes them as it says and only in a drive that lets it write.
-/

namespace Mhvtl.Ssc

open Bytes Cart Store

/-- The records of `M` are there, in the drive or in front of it. -/
def Keeps (M : Medium) (d : Drive) : Prop := (∃ m, OnShelf M m d) ∨ InDrive M d

/-- What the records need of an event: an unload finds a partition open, an empty drive opens no
file of the cartridge that was there before, and filemarks fit their map. -/
def LifeEvent.Clean (d : Drive) : LifeEvent → Prop
  | .load _ _ _ | .finish_mount => True
  | .unload _ => d.load_status ≠ TAPE_UNLOADED → d.cart.fd .data d.cart.partition_id = true
  | .load_unload _ _ _ stale => d.load_status = TAPE_UNLOADED → stale = false
  | .command c => c.Clean d ∧ (d.load_status = TAPE_UNLOADED → ∀ cdb, c ≠ .locate cdb)
  | .elsewhere e => Vacant e ∧ Spare 0 e.cart ∧ e.cart.mamfile = false

/-- An event at which the records have what they need. -/
def CleanStep (L : Libs) (s : Life) (e : LifeEvent) (s' : Life) : Prop :=
  e.Clean s.drive ∧ LifeStep L s e s'

section Histories

variable {L : Libs} {M : Medium} {s s' : Life}

/-- A cartridge in a drive is not in front of it. -/
theorem InDrive.ne_unloaded {d : Drive} (h : InDrive M d) : d.load_status ≠ TAPE_UNLOADED := by
  rcases h.load_status with hst | hst
  · rw [hst]
    decide
  · rw [hst]
    decide

/-- What goes with the cartridge is its drive. -/
theorem Life.goes_drive (s : Life) (d : Drive) : (s.goes d).drive = d := by
  unfold Life.goes
  split <;> rfl

end Histories

section Examples

end Examples

end Mhvtl.Ssc
