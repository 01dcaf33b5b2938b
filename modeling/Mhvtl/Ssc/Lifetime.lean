import Mhvtl.Lib.Run
import Mhvtl.Ssc.Mounting
import Mhvtl.Ssc.Reading
import Mhvtl.Ssc.Tally

/-!
# The life of a cartridge

Histories of loads, commands and unloads of one cartridge, beside a book of what every load
wrote and read. The attributes of the cartridge are to agree with the book after each unload.
-/

namespace Mhvtl.Ssc

open Bytes Cart Store

/-- What a load wrote and read, in bytes as the initiator counts them. -/
structure Tally where
  /-- Bytes in the blocks that were recorded. -/
  written : ℕ
  /-- Bytes in the blocks that were read. -/
  read : ℕ
deriving DecidableEq

/-- LOG SELECT counts from zero again. -/
def Resets (cdb : Cdb) : Prop :=
  spc_log_select cdb = none ∧ cdb 1 &&& 0x02 ≠ 0 ∧ (cdb 2 &&& 0xc0) >>> 6 = 3

/-- The commands that turn to the medium, to its attributes or to the settings, and any other
one, which leaves a status. -/
inductive MediumCommand where
  | read_6 (cdb : Cdb)
  | verify_6 (cdb : Cdb)
  | write_6 (cdb : Cdb) (data : ℕ → UInt8)
  | rewind
  | space_6 (cdb : Cdb)
  | space_16 (cdb : Cdb)
  | locate (cdb : Cdb)
  | allow_overwrite (cdb : Cdb)
  | write_filemarks (cdb : Cdb)
  | erase
  | format_medium (cdb : Cdb)
  | set_capacity
  | mode_select (cdb : Cdb) (buf : ℕ → UInt8)
  | log_select (cdb : Cdb)
  | write_attributes (cdb : Cdb) (buf : ℕ → UInt8) (found : Bool)
  | security_protocol_out (update_encryption_mode : List ModePage → ℕ → List ModePage) (cdb : Cdb)
      (buf : ℕ → UInt8)
  | other (st : Status)

/-- The state that a command leaves. -/
def MediumCommand.run (L : Libs) (d : Drive) : MediumCommand → Option Drive
  | .read_6 cdb => (ssc_read_6 L d cdb).map (·.2)
  | .verify_6 cdb => ssc_verify_6 L d cdb
  | .write_6 cdb data => ssc_write_6 L d cdb data
  | .rewind => some (ssc_rewind d)
  | .space_6 cdb => some (ssc_space_6 d cdb)
  | .space_16 cdb => some (ssc_space_16 d cdb)
  | .locate cdb => ssc_locate d cdb
  | .allow_overwrite cdb => some (ssc_allow_overwrite d cdb)
  | .write_filemarks cdb => ssc_write_filemarks L d cdb
  | .erase => ssc_erase d
  | .format_medium cdb => ssc_format_medium L d cdb
  | .set_capacity => ssc_set_capacity d
  | .mode_select cdb buf => (ssc_mode_select d cdb buf).map Selected.drive
  | .log_select cdb => some (ssc_log_select d cdb)
  | .write_attributes cdb buf found => some (ssc_write_attributes d cdb buf found)
  | .security_protocol_out upd cdb buf => ssc_spout upd d cdb buf
  | .other st => some (d.report st)

/-- What a command writes and reads. -/
def MediumCommand.tally (L : Libs) (d : Drive) : MediumCommand → Tally
  | .read_6 cdb => ⟨0, if sili cdb ∧ fixedBlock cdb then 0 else bytesReadBy L d cdb⟩
  | .verify_6 cdb =>
    ⟨0, if cdb 1 &&& 0x20 ≠ 0 ∨ cdb 1 &&& 0x08 ≠ 0 then 0 else bytesReadBy L d cdb⟩
  | .write_6 cdb data => ⟨bytesRecordedBy L d cdb data, 0⟩
  | _ => ⟨0, 0⟩

/-- What the counters need of a command: blocks are recorded and read or found out, and nothing
that was counted is forgotten. -/
def MediumCommand.Sound (L : Libs) (d : Drive) : MediumCommand → Prop
  | .read_6 cdb => ¬(sili cdb ∧ fixedBlock cdb) → ReadDetected L d cdb
  | .verify_6 cdb => ¬(cdb 1 &&& 0x20 ≠ 0 ∨ cdb 1 &&& 0x08 ≠ 0) → ReadDetected L d cdb
  | .write_6 cdb data => WriteSound L d cdb data
  | .log_select cdb => Resets cdb → d.load_status ≠ TAPE_UNLOADED →
      d.bytesWritten_I = 0 ∧ d.bytesRead_I = 0
  | _ => True

/-- The drive of the cartridge, and what its loads wrote and read. -/
structure Life where
  /-- The drive. -/
  drive : Drive
  /-- The loads that are over, the last one first. -/
  loads : List Tally
  /-- The load that goes on. -/
  now : Tally

/-- What can happen to a cartridge. -/
inductive LifeEvent where
  /-- It is mounted. -/
  | load (P : LoadRules) (bypass_error_check : Bool) (delay_load : ℕ)
  /-- The timer of the mount runs out. -/
  | finish_mount
  /-- The library takes it out. -/
  | unload (P : LoadRules)
  /-- The initiator sends LOAD UNLOAD. -/
  | load_unload (P : LoadRules) (cdb : Cdb) (barcode : Option LoadRequest) (stale : Bool)
  /-- The initiator sends another command. -/
  | command (c : MediumCommand)
  /-- It is carried to another drive, or the drive has been to other cartridges. -/
  | elsewhere (e : Drive)

/-- A drive that has let the cartridge go has ended a load. -/
def Life.goes (s : Life) (d : Drive) : Life :=
  if s.drive.load_status ≠ TAPE_UNLOADED ∧ d.load_status = TAPE_UNLOADED then
    { s with drive := d, loads := s.now :: s.loads }
  else { s with drive := d }

/-- What an event makes of the cartridge; nothing when it cannot occur, or crashes the drive. -/
def LifeEvent.run (L : Libs) (s : Life) : LifeEvent → Option Life
  | .load P bypass_error_check delay_load =>
    if s.drive.load_status ≠ TAPE_UNLOADED then none else
    (loadTape P L s.drive ⟨s.drive.cart.dir, bypass_error_check, delay_load⟩).map fun (_, d) =>
      { s with drive := d, now := ⟨0, 0⟩ }
  | .finish_mount => some { s with drive := Ssc.finish_mount s.drive }
  | .unload P => (unloadTape P s.drive).map s.goes
  | .load_unload P cdb barcode stale => (ssc_load_unload P L s.drive cdb barcode stale).map s.goes
  | .command c =>
    let t := c.tally L s.drive
    (c.run L s.drive).map fun d =>
      { s with drive := d, now := ⟨s.now.written + t.written, s.now.read + t.read⟩ }
  | .elsewhere e =>
    if s.drive.load_status ≠ TAPE_UNLOADED ∨ e.load_status ≠ TAPE_UNLOADED then none else
    some { s with drive := { e with cart := { e.cart with dir := s.drive.cart.dir } } }

/-- What the attributes need of an event: the files are written at a load and at an unload. -/
def LifeEvent.Sound (L : Libs) (d : Drive) : LifeEvent → Prop
  | .load _ _ _ => OkFor 1 d.cart.io
  | .unload _ => d.load_status ≠ TAPE_UNLOADED →
      d.cart.fd .data d.cart.partition_id = true ∧ OkFor 1 d.cart.io
  | .load_unload _ cdb _ _ => Unloads d cdb → FirstOpens d.declare_ssc_vars.cart ∧ OkFor 1 d.cart.io
  | .command c => c.Sound L d ∧ (d.load_status = TAPE_UNLOADED → d.cart.mamfile = false)
  | .finish_mount | .elsewhere _ => True

/-- The counts of a cartridge agree with the book of its loads. -/
structure Counts (m : Mam) (loads : List Tally) : Prop where
  /-- Bytes written in the last load. -/
  writtenInLastLoad : m.be .WrittenInLastLoad = (loads.head?.map Tally.written).getD 0
  /-- Bytes read in the last load. -/
  readInLastLoad : m.be .ReadInLastLoad = (loads.head?.map Tally.read).getD 0
  /-- Bytes written in all loads. -/
  writtenInMediumLife : m.be .WrittenInMediumLife = (loads.map Tally.written).sum
  /-- Bytes read in all loads. -/
  readInMediumLife : m.be .ReadInMediumLife = (loads.map Tally.read).sum

/-- The counts agree as far as their eight bytes go. -/
structure CountsModulo (m : Mam) (loads : List Tally) : Prop where
  /-- Bytes written in the last load. -/
  writtenInLastLoad : m.be .WrittenInLastLoad = (loads.head?.map Tally.written).getD 0 % 2 ^ 64
  /-- Bytes read in the last load. -/
  readInLastLoad : m.be .ReadInLastLoad = (loads.head?.map Tally.read).getD 0 % 2 ^ 64
  /-- Bytes written in all loads. -/
  writtenInMediumLife : m.be .WrittenInMediumLife = (loads.map Tally.written).sum % 2 ^ 64
  /-- Bytes read in all loads. -/
  readInMediumLife : m.be .ReadInMediumLife = (loads.map Tally.read).sum % 2 ^ 64

section Counts

variable {m m' : Mam} {loads : List Tally}

/-- A count takes eight bytes. -/
theorem be_life_lt (m : Mam) {f : MamField} (hf : f ∈ lifeFields) : m.be f < 2 ^ 64 := by
  have hlen : f.length = 8 := by
    revert f
    decide
  have hlt := beNat_lt (m.bytes f)
  rw [Mam.bytes_length, hlen] at hlt
  exact hlt

/-- Counts that agree do so modulo anything. -/
theorem Counts.modulo (h : Counts m loads) : CountsModulo m loads where
  writtenInLastLoad := by
    rw [← h.writtenInLastLoad, Nat.mod_eq_of_lt (be_life_lt m (by decide))]
  readInLastLoad := by
    rw [← h.readInLastLoad, Nat.mod_eq_of_lt (be_life_lt m (by decide))]
  writtenInMediumLife := by
    rw [← h.writtenInMediumLife, Nat.mod_eq_of_lt (be_life_lt m (by decide))]
  readInMediumLife := by
    rw [← h.readInMediumLife, Nat.mod_eq_of_lt (be_life_lt m (by decide))]

/-- The last load is one of all. -/
theorem head_le_sum (l : List ℕ) : l.head?.getD 0 ≤ l.sum := by
  cases l with
  | nil => exact Nat.le_refl 0
  | cons n l =>
    rw [List.head?_cons, Option.getD_some, List.sum_cons]
    exact Nat.le_add_right n l.sum

/-- Totals that fit eight bytes agree. -/
theorem CountsModulo.exact (h : CountsModulo m loads) (hw : (loads.map Tally.written).sum < 2 ^ 64)
    (hr : (loads.map Tally.read).sum < 2 ^ 64) : Counts m loads := by
  have hlast : ∀ f : Tally → ℕ, (loads.map f).sum < 2 ^ 64 → (loads.head?.map f).getD 0 < 2 ^ 64 := by
    intro f hsum
    have hle := head_le_sum (loads.map f)
    rw [List.head?_map] at hle
    exact Nat.lt_of_le_of_lt hle hsum
  refine ⟨?_, ?_, ?_, ?_⟩
  · rw [h.writtenInLastLoad, Nat.mod_eq_of_lt (hlast _ hw)]
  · rw [h.readInLastLoad, Nat.mod_eq_of_lt (hlast _ hr)]
  · rw [h.writtenInMediumLife, Nat.mod_eq_of_lt hw]
  · rw [h.readInMediumLife, Nat.mod_eq_of_lt hr]

/-- They depend on the counts only. -/
theorem CountsModulo.same (h : CountsModulo m loads) (hlife : SameLife m m') :
    CountsModulo m' loads := by
  have hbe : ∀ f ∈ lifeFields, m'.be f = m.be f := by
    intro f hf
    rw [Mam.be, hlife.life f hf, Mam.be]
  refine ⟨?_, ?_, ?_, ?_⟩
  · rw [hbe _ (by decide), h.writtenInLastLoad]
  · rw [hbe _ (by decide), h.readInLastLoad]
  · rw [hbe _ (by decide), h.writtenInMediumLife]
  · rw [hbe _ (by decide), h.readInMediumLife]

/-- A number in eight bytes. -/
theorem beNat_beBytes_eight (n : ℕ) : beNat (beBytes 8 n) = n % 2 ^ 64 := by
  have hsize : (256 : ℕ) ^ 8 = 2 ^ 64 := by decide
  rw [beNat, beBytes, List.reverse_reverse, leNat_leBytes, hsize]

/-- An unload adds the load to the book and to the counts. -/
theorem CountsModulo.unload (h : CountsModulo m loads) (t : Tally) :
    CountsModulo (unloadMam t.written t.read m) (t :: loads) := by
  obtain ⟨hw, hr, hwl, hrl⟩ := unloadMam_life t.written t.read m
  refine ⟨?_, ?_, ?_, ?_⟩
  · rw [Mam.be, hw, beNat_beBytes_eight]
    rfl
  · rw [Mam.be, hr, beNat_beBytes_eight]
    rfl
  · rw [Mam.be, hwl, beNat_beBytes_eight, h.writtenInMediumLife, List.map_cons, List.sum_cons]
    omega
  · rw [Mam.be, hrl, beNat_beBytes_eight, h.readInMediumLife, List.map_cons, List.sum_cons]
    omega

end Counts

section Events

variable {L : Libs} {d d' : Drive}

/-- LOG SELECT resets the counters, or leaves everything alone that counts. -/
theorem ssc_log_select_kept (d : Drive) (cdb : Cdb) :
    LifeKept d.cart (ssc_log_select d cdb).cart ∧ (ssc_log_select d cdb).load_status = d.load_status ∧
      ((Resets cdb → d.bytesWritten_I = 0 ∧ d.bytesRead_I = 0) → Counted 0 0 d (ssc_log_select d cdb)) := by
  have hd := Counted.declared d
  unfold ssc_log_select Resets
  dsimp only
  cases hcheck : spc_log_select cdb with
  | some st => exact ⟨(hd.report st).attrs, rfl, fun _ => hd.report st⟩
  | none =>
    dsimp only
    by_cases hreset : cdb 1 &&& 0x02 ≠ 0 ∧ (cdb 2 &&& 0xc0) >>> 6 = 3
    · rw [if_pos hreset]
      refine ⟨hd.attrs, rfl, fun hzero => ?_⟩
      obtain ⟨hw, hr⟩ := hzero ⟨rfl, hreset⟩
      exact ⟨hd.attrs, rfl, hw.symm, hr.symm⟩
    · rw [if_neg hreset]
      exact ⟨hd.attrs, rfl, fun _ => hd⟩

/-- What LOG SELECT has reset is not counted any more. -/
theorem Counting.reset {m : Mam} {w r : ℕ} {cdb : Cdb} (h : Counting m w r d) (hreset : Resets cdb) :
    Counting m 0 0 (ssc_log_select d cdb) := by
  obtain ⟨hcheck, hpcr, hpage⟩ := hreset
  have hrun : ssc_log_select d cdb = d.declare_ssc_vars.resetCounters := by
    unfold ssc_log_select
    dsimp only
    rw [hcheck]
    exact if_pos ⟨hpcr, hpage⟩
  have hd := h.counted (Counted.declared d)
  rw [hrun]
  exact ⟨hd.load_status, hd.life, hd.versions, hd.sized, hd.files, rfl, rfl⟩

/-- READ(6). -/
theorem counted_ssc_read_6 {cdb : Cdb} {r : List UInt8 × Drive}
    (h : ¬(sili cdb ∧ fixedBlock cdb) → ReadDetected L d cdb) (hrun : ssc_read_6 L d cdb = some r) :
    Counted 0 (if sili cdb ∧ fixedBlock cdb then 0 else bytesReadBy L d cdb) d r.2 := by
  have hd := Counted.declared d
  unfold ssc_read_6 at hrun
  dsimp only at hrun
  by_cases hboth : sili cdb ∧ fixedBlock cdb
  · rw [if_pos hboth] at hrun ⊢
    obtain rfl := Option.some.inj hrun
    exact hd.report _
  · rw [if_neg hboth] at hrun ⊢
    exact complete_read_6_counted (h hboth) hrun

/-- VERIFY(6). -/
theorem counted_ssc_verify_6 {cdb : Cdb}
    (h : ¬(cdb 1 &&& 0x20 ≠ 0 ∨ cdb 1 &&& 0x08 ≠ 0) → ReadDetected L d cdb)
    (hrun : ssc_verify_6 L d cdb = some d') :
    Counted 0 (if cdb 1 &&& 0x20 ≠ 0 ∨ cdb 1 &&& 0x08 ≠ 0 then 0 else bytesReadBy L d cdb) d d' := by
  have hd := Counted.declared d
  unfold ssc_verify_6 at hrun
  dsimp only at hrun
  split at hrun
  · rename_i hres
    rw [if_pos (Or.inl hres)]
    obtain rfl := Option.some.inj hrun
    exact hd.report _
  split at hrun
  · rename_i hmarks
    rw [if_pos (Or.inr hmarks)]
    obtain rfl := Option.some.inj hrun
    exact hd.quiet (counted_resp_space _ _ _)
  · rename_i hres hmarks
    have hno := not_or.mpr ⟨hres, hmarks⟩
    obtain ⟨r, hr, rfl⟩ := Option.map_eq_some_iff.mp hrun
    rw [if_neg hno]
    exact complete_read_6_counted (h hno) hr

/-- Every command counts what it writes and reads, or finds the drive empty. -/
theorem MediumCommand.counted {c : MediumCommand} (h : c.Sound L d) (hrun : c.run L d = some d') :
    Counted (c.tally L d).written (c.tally L d).read d d' ∨
      d.load_status = TAPE_UNLOADED ∧ LifeKept d.cart d'.cart ∧ d'.load_status = d.load_status := by
  cases c with
  | log_select cdb =>
    obtain rfl := Option.some.inj hrun
    obtain ⟨hkept, hload, hcount⟩ := ssc_log_select_kept d cdb
    by_cases hout : d.load_status = TAPE_UNLOADED
    · exact Or.inr ⟨hout, hkept, hload⟩
    · exact Or.inl (hcount fun hreset => h hreset hout)
  | read_6 cdb =>
    obtain ⟨r, hr, rfl⟩ := Option.map_eq_some_iff.mp hrun
    exact Or.inl (counted_ssc_read_6 h hr)
  | verify_6 cdb => exact Or.inl (counted_ssc_verify_6 h hrun)
  | write_6 cdb data => exact Or.inl (ssc_write_6_counted h hrun)
  | rewind =>
    obtain rfl := Option.some.inj hrun
    exact Or.inl (counted_ssc_rewind d)
  | space_6 cdb =>
    obtain rfl := Option.some.inj hrun
    exact Or.inl (counted_space d _ _)
  | space_16 cdb =>
    obtain rfl := Option.some.inj hrun
    exact Or.inl (counted_space d _ _)
  | locate cdb => exact Or.inl (counted_ssc_locate hrun)
  | allow_overwrite cdb =>
    obtain rfl := Option.some.inj hrun
    exact Or.inl (counted_ssc_allow_overwrite d cdb)
  | write_filemarks cdb => exact Or.inl (counted_ssc_write_filemarks hrun)
  | erase => exact Or.inl (counted_ssc_erase hrun)
  | format_medium cdb => exact Or.inl (counted_ssc_format_medium hrun)
  | set_capacity => exact Or.inl (counted_ssc_set_capacity hrun)
  | mode_select cdb buf =>
    obtain ⟨r, hr, rfl⟩ := Option.map_eq_some_iff.mp hrun
    exact Or.inl (counted_ssc_mode_select hr)
  | write_attributes cdb buf found =>
    obtain rfl := Option.some.inj hrun
    exact Or.inl (counted_ssc_write_attributes d cdb buf found)
  | security_protocol_out upd cdb buf => exact Or.inl (counted_ssc_spout hrun)
  | other st =>
    obtain rfl := Option.some.inj hrun
    exact Or.inl ((Counted.refl d).report st)

/-- The book agrees with the attributes of a cartridge at rest, or with those in memory and
with the counters of the drive. -/
def Life.Kept (s : Life) : Prop :=
  ∃ m, CountsModulo m s.loads ∧ (AtRest m s.drive ∨ Counting m s.now.written s.now.read s.drive)

/-- A drive with a cartridge in it is not empty. -/
theorem Counting.ne_unloaded {m : Mam} {w r : ℕ} (h : Counting m w r d) :
    d.load_status ≠ TAPE_UNLOADED := by
  rcases h.load_status with hst | hst
  · rw [hst]
    decide
  · rw [hst]
    decide

/-- The cartridge stays, or it goes and its load is in the book. -/
theorem Life.Kept.goes {s : Life} {m : Mam} (hm : CountsModulo m s.loads)
    (hin : Counting m s.now.written s.now.read s.drive)
    (h : Counting m s.now.written s.now.read d' ∨ AtRest (unloadMam s.now.written s.now.read m) d') :
    (s.goes d').Kept := by
  unfold Life.goes
  rcases h with hstays | hgone
  · rw [if_neg fun hboth => hstays.ne_unloaded hboth.2]
    exact ⟨m, hm, Or.inr hstays⟩
  · rw [if_pos ⟨hin.ne_unloaded, hgone.1⟩]
    exact ⟨_, hm.unload s.now, Or.inl hgone⟩

/-- An empty drive stays empty. -/
theorem Life.Kept.stays {s : Life} {m : Mam} (hm : CountsModulo m s.loads) (h : AtRest m s.drive)
    (h' : AtRest m d') : (s.goes d').Kept := by
  unfold Life.goes
  rw [if_neg fun hboth => hboth.1 h.1]
  exact ⟨m, hm, Or.inl h'⟩

/-- Every event keeps the book. -/
theorem LifeEvent.kept {s s' : Life} {e : LifeEvent} (h : s.Kept) (hsound : e.Sound L s.drive)
    (hrun : e.run L s = some s') : s'.Kept := by
  obtain ⟨m, hm, hstate⟩ := h
  cases e with
  | load P bypass_error_check delay_load =>
    change (if s.drive.load_status ≠ TAPE_UNLOADED then none else Option.map _ _) = _ at hrun
    split at hrun
    · cases hrun
    · rename_i hout
      have hrest : AtRest m s.drive := by
        rcases hstate with hrest | hin
        · exact hrest
        · exact absurd (not_not.mp hout) hin.ne_unloaded
      obtain ⟨⟨rc, d⟩, hload, rfl⟩ := Option.map_eq_some_iff.mp hrun
      exact ⟨m, hm, loadTape_left hrest rfl hsound hload⟩
  | finish_mount =>
    obtain rfl := Option.some.inj hrun
    refine ⟨m, hm, hstate.imp (fun hrest => ?_) fun hin => ?_⟩
    · have hno : ¬s.drive.load_status = TAPE_LOADING := by
        rw [hrest.1]
        decide
      change AtRest m (if s.drive.load_status = TAPE_LOADING then _ else s.drive)
      rwa [if_neg hno]
    · change Counting m _ _ (if s.drive.load_status = TAPE_LOADING then _ else s.drive)
      split
      · exact ⟨Or.inr rfl, hin.life, hin.versions, hin.sized, hin.files, hin.written, hin.read⟩
      · exact hin
  | unload P =>
    obtain ⟨d, hunload, rfl⟩ := Option.map_eq_some_iff.mp hrun
    rcases hstate with hrest | hin
    · exact Life.Kept.stays hm hrest (unloadTape_empty hrest hunload)
    · obtain ⟨hopen, hio⟩ := hsound hin.ne_unloaded
      exact Life.Kept.goes hm hin (Or.inr (unloadTape_left hin hopen hio hunload))
  | load_unload P cdb barcode stale =>
    obtain ⟨d, hunload, rfl⟩ := Option.map_eq_some_iff.mp hrun
    rcases hstate with hrest | hin
    · exact Life.Kept.stays hm hrest (ssc_load_unload_empty hrest hunload)
    · exact Life.Kept.goes hm hin (ssc_load_unload_counting hin hsound hunload)
  | command c =>
    obtain ⟨d, hcommand, rfl⟩ := Option.map_eq_some_iff.mp hrun
    obtain ⟨hc, hclosed⟩ := hsound
    refine ⟨m, hm, ?_⟩
    have hcounted := MediumCommand.counted hc hcommand
    rcases hstate with hrest | hin
    · left
      rcases hcounted with hcount | ⟨-, hkept, hload⟩
      · exact hrest.kept (hclosed hrest.1) hcount.attrs hcount.load_status
      · exact hrest.kept (hclosed hrest.1) hkept hload
    · right
      rcases hcounted with hcount | ⟨hout, -⟩
      · exact hin.counted hcount
      · exact absurd hout hin.ne_unloaded
  | elsewhere e =>
    change (if s.drive.load_status ≠ TAPE_UNLOADED ∨ e.load_status ≠ TAPE_UNLOADED then none
      else some _) = _ at hrun
    split at hrun
    · cases hrun
    · rename_i hno
      obtain ⟨hout, hout'⟩ := not_or.mp hno
      obtain rfl := Option.some.inj hrun
      refine ⟨m, hm, Or.inl ?_⟩
      rcases hstate with ⟨-, m', hstored, hlife⟩ | hin
      · exact ⟨not_not.mp hout', m', hstored, hlife⟩
      · exact absurd (not_not.mp hout) hin.ne_unloaded

/-- A cartridge at rest whose attributes agree with the book of its loads so far: a new one, with
no load and counts of zero, is such a cartridge. -/
def Life.Begins (s : Life) : Prop :=
  s.drive.load_status = TAPE_UNLOADED ∧ ∃ m, Stored s.drive.cart.dir m ∧ Counts m s.loads

/-- Whoever reads the attributes finds the counts of the book. -/
def Life.Exact (s : Life) : Prop :=
  ∀ x, ∃ m, read_mam s.drive.cart.dir.mam s.drive.cart.dir.mhvtl_data x = (0, m) ∧ Counts m s.loads

/-- An event that the drive survives. -/
def LifeStep (L : Libs) (s : Life) (e : LifeEvent) (s' : Life) : Prop := e.run L s = some s'

/-- One at which the counters have what they need. -/
def SoundStep (L : Libs) (s : Life) (e : LifeEvent) (s' : Life) : Prop :=
  e.Sound L s.drive ∧ LifeStep L s e s'

/-- The book is right where a history begins. -/
theorem Life.Begins.kept {s : Life} (h : s.Begins) : s.Kept := by
  obtain ⟨hout, m, hstored, hcounts⟩ := h
  exact ⟨m, hcounts.modulo, Or.inl ⟨hout, m, hstored, SameLife.refl m⟩⟩

/-- The book is kept by every history. -/
theorem run_kept {s s' : Life} {es : List LifeEvent} (h : s.Kept) (hrun : Run (SoundStep L) s es s') :
    s'.Kept := by
  induction hrun with
  | nil s => exact h
  | cons head tail ih => exact ih (LifeEvent.kept h head.1 head.2)

/-- In every history whose events give the counters what they need, the attributes of the
cartridge are exact whenever it is at rest. -/
theorem lifetimes_exact {s s' : Life} {es : List LifeEvent} (hstart : s.Begins)
    (hrun : Run (SoundStep L) s es s') (hout : s'.drive.load_status = TAPE_UNLOADED)
    (hw : (s'.loads.map Tally.written).sum < 2 ^ 64) (hr : (s'.loads.map Tally.read).sum < 2 ^ 64) :
    s'.Exact := by
  intro x
  obtain ⟨m, hcounts, hrest | hin⟩ := run_kept hstart.kept hrun
  · obtain ⟨m', hread, hlife⟩ := hrest.read x
    exact ⟨m', hread, (hcounts.same hlife).exact hw hr⟩
  · exact absurd hout hin.ne_unloaded

end Events

section Examples

/-- Attributes of a new cartridge of a megabyte. -/
def newMam : Mam := Mam.zero.putBe .max_capacity (2 ^ 20)

/-- A new cartridge in front of a drive that is empty. -/
def newLife : Life where
  drive := { emptyDrive with
    load_status := TAPE_UNLOADED
    cart := { emptyCartridge with
      dir := { emptyCartridge.dir with
        mam := some (mamImage newMam), mhvtl_data := some (mhvtlImage newMam) }
      fd := fun _ _ => false
      mamfile := false
      mhvtlfile := false } }
  loads := []
  now := ⟨0, 0⟩

/-- A drive that reads and writes every medium of type zero. -/
def anyRules : LoadRules where
  vendor_id := []
  lu_serial_no := []
  clear_WORM := none
  set_WORM := none
  media_load _ _ r := r
  supported_media_list := [(0, LOAD_RW)]
  updater := ⟨fun d => (false, d), fun d => (false, d), fun d => (false, d)⟩

/-- The cartridge after some events. -/
def lifeAfter (es : List LifeEvent) : Life :=
  (es.foldlM (LifeEvent.run storedLibs) newLife).getD newLife

/-- A block of one byte is written to the new cartridge. -/
def writtenOnce : List LifeEvent := [.load anyRules true 0, .command (.write_6 (writeCdb 1) fun _ => 7)]

/-- The next event of a history that the drive survives. -/
theorem lifeAfter_step (es : List LifeEvent) (e : LifeEvent)
    (h : ((es ++ [e]).foldlM (LifeEvent.run storedLibs) newLife).isSome = true) :
    LifeStep storedLibs (lifeAfter es) e (lifeAfter (es ++ [e])) := by
  obtain ⟨s', hs'⟩ := Option.isSome_iff_exists.mp h
  have hsplit := hs'
  rw [List.foldlM_append] at hsplit
  obtain ⟨s, hs, he⟩ := Option.bind_eq_some_iff.mp hsplit
  rw [List.foldlM_cons] at he
  obtain ⟨s'', he', hnil⟩ := Option.bind_eq_some_iff.mp he
  obtain rfl : s'' = s' := Option.some.inj hnil
  unfold LifeStep lifeAfter
  rw [hs, hs', Option.getD_some, Option.getD_some, he']

/-- The history of a new cartridge begins. -/
theorem newLife_begins : newLife.Begins := by
  refine ⟨rfl, newMam, ⟨rfl, rfl, rfl, rfl⟩, ?_⟩
  constructor <;> decide +kernel

/-- The load and the block give the counters what they need. -/
theorem writtenOnce_sound : Run (SoundStep storedLibs) newLife writtenOnce (lifeAfter writtenOnce) := by
  let d := (lifeAfter [.load anyRules true 0]).drive
  let c := (setup_crypto (writeStart d)).cart
  obtain ⟨hload, hparams, hkind, hword⟩ : d.load_status = TAPE_LOADED ∧
      opcode_6_params d (writeCdb 1) = (1, 1) ∧
      (chosenArgs storedLibs (writeStart d) (fun _ => 7) (payload (writeStart d) 1)).map
        (·.null_media_type) = some false ∧
      guardFails (writeStart d) (fun _ => 7) (payload (writeStart d) 1) (writeLbpMethod (writeStart d))
        (crc32cBitwise 0 (bytesAt (fun _ => 7) 0 (payload (writeStart d) 1))) = false := by
    decide +kernel
  obtain ⟨hfd, hfile, hblk, hio⟩ : (∀ k ∈ [FileKind.data, .indx, .metaf], c.fd k c.partition_id = true) ∧
      (∀ k ∈ [FileKind.data, .indx, .metaf], (c.dir.file k c.partition_id).isSome = true) ∧
      c.c_pos.blk_number ≤ MAX_BLK_NUMBER ∧ c.io = [] := by
    decide +kernel
  have husable : ∀ k, Usable c k c.partition_id := by
    intro k
    cases k with
    | data => exact ⟨hfd _ (by decide), hfile _ (by decide)⟩
    | indx => exact ⟨hfd _ (by decide), hfile _ (by decide)⟩
    | metaf => exact ⟨hfd _ (by decide), hfile _ (by decide)⟩
  have hrecordable : Recordable c := by
    refine ⟨husable _, husable _, fun _ => ⟨husable _, husable _, fun _ => husable _⟩, hblk, ?_⟩
    rw [hio]
    intro r hr
    rw [List.take_nil] at hr
    cases hr
  have hsound : WriteSound storedLibs d (writeCdb 1) fun _ => 7 := by
    intro _
    rw [hparams]
    refine ⟨fun cap a hr _ => ?_, fun _ _ _ _ => trivial⟩
    have hnull : a.null_media_type = false := by
      rw [hr.args] at hkind
      exact Option.some.inj hkind
    refine ⟨?_, fun _ hwrong => Bool.false_ne_true (hword.symm.trans hwrong)⟩
    unfold BlockRecordable
    rw [if_neg (ne_true_of_eq_false hnull)]
    exact hrecordable
  have hclosed : d.load_status = TAPE_UNLOADED → d.cart.mamfile = false := by
    intro hout
    rw [hload] at hout
    cases hout
  refine Run.cons ⟨?_, lifeAfter_step [] _ (by decide +kernel)⟩
    (Run.cons ⟨⟨hsound, hclosed⟩, lifeAfter_step [_] _ (by decide +kernel)⟩ (Run.nil _))
  intro r hr
  cases hr

/-- A block of one byte is counted once, in its load and in the life of the cartridge. -/
theorem lifetimes_exact_newLife : (lifeAfter (writtenOnce ++ [.unload anyRules])).Exact ∧
    (lifeAfter (writtenOnce ++ [.unload anyRules])).loads = [⟨1, 0⟩] := by
  obtain ⟨hopen, hio⟩ : (lifeAfter writtenOnce).drive.cart.fd .data
      (lifeAfter writtenOnce).drive.cart.partition_id = true ∧
      (lifeAfter writtenOnce).drive.cart.io = [] := by decide +kernel
  have hsound : (LifeEvent.unload anyRules).Sound storedLibs (lifeAfter writtenOnce).drive := by
    refine fun _ => ⟨hopen, ?_⟩
    rw [hio]
    intro r hr
    cases hr
  obtain ⟨hrun, hout, hloads⟩ :
      ((writtenOnce ++ [LifeEvent.unload anyRules]).foldlM (LifeEvent.run storedLibs) newLife).isSome = true ∧
      (lifeAfter (writtenOnce ++ [.unload anyRules])).drive.load_status = TAPE_UNLOADED ∧
      (lifeAfter (writtenOnce ++ [.unload anyRules])).loads = [⟨1, 0⟩] := by decide +kernel
  refine ⟨lifetimes_exact newLife_begins (writtenOnce_sound.concat ⟨hsound, ?_⟩) ?_ ?_ ?_, hloads⟩
  · exact lifeAfter_step _ _ hrun
  · exact hout
  · rw [hloads]
    decide
  · rw [hloads]
    decide

/-- LOG SELECT that resets the counters. -/
def resetCdb : Cdb
  | 1 => 2
  | 2 => 0xc0
  | _ => 0

/-- The block is written, the counters are reset, and the cartridge is taken out. -/
def resetOnce : List LifeEvent := writtenOnce ++ [.command (.log_select resetCdb)]

/-- The block is nowhere counted then. -/
theorem reset_not_exact : newLife.Begins ∧
    Run (LifeStep storedLibs) newLife (resetOnce ++ [.unload anyRules])
      (lifeAfter (resetOnce ++ [.unload anyRules])) ∧
    (lifeAfter (resetOnce ++ [.unload anyRules])).drive.load_status = TAPE_UNLOADED ∧
    (lifeAfter (resetOnce ++ [.unload anyRules])).loads = [⟨1, 0⟩] ∧
    ¬(lifeAfter (resetOnce ++ [.unload anyRules])).Exact := by
  obtain ⟨hopen, hio, hreset⟩ : (lifeAfter resetOnce).drive.cart.fd .data
      (lifeAfter resetOnce).drive.cart.partition_id = true ∧
      (lifeAfter resetOnce).drive.cart.io = [] ∧
      (resetOnce.foldlM (LifeEvent.run storedLibs) newLife).isSome = true := by decide +kernel
  obtain ⟨hrun, hin, hout, hloads⟩ :
      ((resetOnce ++ [LifeEvent.unload anyRules]).foldlM (LifeEvent.run storedLibs) newLife).isSome =
        true ∧
      (lifeAfter writtenOnce).drive.load_status = TAPE_LOADED ∧
      (lifeAfter (resetOnce ++ [.unload anyRules])).drive.load_status = TAPE_UNLOADED ∧
      (lifeAfter (resetOnce ++ [.unload anyRules])).loads = [⟨1, 0⟩] := by decide +kernel
  have hselect := lifeAfter_step writtenOnce (.command (.log_select resetCdb)) hreset
  have hunload := lifeAfter_step resetOnce (.unload anyRules) hrun
  refine ⟨newLife_begins, ?_, hout, hloads, fun hexact => ?_⟩
  · exact ((writtenOnce_sound.mono fun _ _ _ h => h.2).concat hselect).concat hunload
  obtain ⟨m, -, hrest | hcounting⟩ := run_kept newLife_begins.kept writtenOnce_sound
  · rw [hrest.1] at hin
    cases hin
  -- what the unload adds is what LOG SELECT has left of the counters
  have hzero : Counting m 0 0 (lifeAfter resetOnce).drive := by
    have hdrive : (lifeAfter resetOnce).drive = ssc_log_select (lifeAfter writtenOnce).drive resetCdb :=
      congrArg Life.drive (Option.some.inj hselect).symm
    rw [hdrive]
    exact hcounting.reset ⟨by decide, by decide, by decide⟩
  obtain ⟨d, hd, hgoes⟩ := Option.map_eq_some_iff.mp hunload
  have hdrive : (lifeAfter (resetOnce ++ [.unload anyRules])).drive = d := by
    rw [← hgoes]
    unfold Life.goes
    split <;> rfl
  have hrest : AtRest (unloadMam 0 0 m) d := by
    refine unloadTape_left hzero hopen ?_ hd
    rw [hio]
    intro r hr
    cases hr
  obtain ⟨m', hread, hlife⟩ := hrest.read Mam.zero
  obtain ⟨m'', hread', hcounts⟩ := hexact Mam.zero
  rw [hdrive, hread] at hread'
  obtain rfl : m' = m'' := congrArg Prod.snd hread'
  have hlast : m'.be .WrittenInLastLoad = 0 := by
    rw [Mam.be, hlife.life _ (by decide), (unloadMam_life 0 0 m).1, beNat_beBytes_eight, Nat.zero_mod]
  have hone := hcounts.writtenInLastLoad
  rw [hlast, hloads] at hone
  cases hone

end Examples

end Mhvtl.Ssc
