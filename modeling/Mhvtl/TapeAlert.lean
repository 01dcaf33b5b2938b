import Mathlib.Data.Nat.Basic

/-!
# TapeAlert flags

The flags are kept in three log pages: one by one in the TapeAlert page, as a number
in the sequential access device page, and three of them in the device status page.
A write error replaces what was raised before it, a raised flag takes the cleaning bits
of earlier ones back, and a library never clears a flag.
-/

namespace Mhvtl.TapeAlert

/-- No flag. -/
def TA_NONE : BitVec 64 := 0
/-- The drive had trouble writing. -/
def TA_WRITE : BitVec 64 := 0x02
/-- The drive had trouble reading or writing. -/
def TA_HARD : BitVec 64 := 0x04
/-- The medium is write protected. -/
def TA_WRITE_PROTECT : BitVec 64 := 0x100
/-- The cartridge does not fit the drive. -/
def TA_MEDIA_NOT_SUPPORTED : BitVec 64 := 0x800

/-- Place of the flag that cleaning is required. -/
def CLEAN_NOW : ℕ := 19
/-- Place of the flag that cleaning is requested. -/
def CLEAN_PERIODIC : ℕ := 20

/-- The bits of the device status page that go with the flags. -/
structure DeviceStatus where
  /-- A flag was changed. -/
  TAFC : Bool
  /-- Cleaning is required. -/
  CRQRD : Bool
  /-- Cleaning is requested. -/
  CRQST : Bool
deriving DecidableEq

/-- The log pages that hold flags; a device has some of them. -/
structure LogPages where
  /-- Values of the TapeAlert page. -/
  tapeAlert : Option (Fin 64 → Bool)
  /-- `TapeAlert` of the sequential access device page. -/
  sad : Option (BitVec 64)
  /-- The device status page. -/
  deviceStatus : Option DeviceStatus

/-- The values of the TapeAlert page for some flags. -/
def values (flags : BitVec 64) : Fin 64 → Bool := fun i => flags.getLsbD i

namespace LogPages

/-- Sets the bit for a changed flag. -/
def set_tafc (p : LogPages) (flag : Bool) : LogPages :=
  { p with deviceStatus := p.deviceStatus.map fun s => { s with TAFC := flag } }

/-- Sets the bit for required cleaning. -/
def set_lp_11_crqrd (p : LogPages) (flag : Bool) : LogPages :=
  { p with deviceStatus := p.deviceStatus.map fun s => { s with CRQRD := flag } }

/-- Sets the bit for requested cleaning. -/
def set_lp_11_crqst (p : LogPages) (flag : Bool) : LogPages :=
  { p with deviceStatus := p.deviceStatus.map fun s => { s with CRQST := flag } }

/-- Replaces the flags in every page there is. -/
def set_TapeAlert (p : LogPages) (flags : BitVec 64) : LogPages :=
  let p := p.set_tafc (flags ≠ TA_NONE)
  match p.tapeAlert with
  | none => p
  | some _ =>
    let p := { p with tapeAlert := some (values flags), sad := p.sad.map fun _ => flags }
    (p.set_lp_11_crqrd (flags.getLsbD CLEAN_NOW)).set_lp_11_crqst (flags.getLsbD CLEAN_PERIODIC)

/-- Adds flags to those of the sequential access device page, and takes the cleaning bits
from the added ones. Nothing happens without that page. -/
def update_TapeAlert (p : LogPages) (flags : BitVec 64) : LogPages :=
  match p.sad with
  | none => p
  | some ta =>
    ((p.set_TapeAlert (ta ||| flags)).set_lp_11_crqrd (flags.getLsbD CLEAN_NOW)).set_lp_11_crqst
      (flags.getLsbD CLEAN_PERIODIC)

/-- LOG SENSE of the TapeAlert page on a drive: the values, and the pages after it. -/
def ssc_log_sense (p : LogPages) (alloc_len : ℕ) : Option (Fin 64 → Bool) × LogPages :=
  match p.tapeAlert with
  | none => (none, p)
  | some v => (some v, if 4 < alloc_len then p.set_TapeAlert TA_NONE else p)

/-- The same on a library. -/
def smc_log_sense (p : LogPages) (alloc_len : ℕ) : Option (Fin 64 → Bool) × LogPages :=
  match p.tapeAlert with
  | none => (none, p)
  | some v => (some v, if 4 < alloc_len then p.update_TapeAlert TA_NONE else p)

end LogPages

/-- What happens to the flags of a drive. -/
inductive AlertEvent where
  /-- A load, a refused write or a message raises flags. -/
  | raised (flags : BitVec 64)
  /-- `writeBlock` failed. -/
  | write_error
  /-- LOG SENSE of the TapeAlert page. -/
  | log_sense (alloc_len : ℕ)

/-- The pages after an event. -/
def AlertEvent.run (p : LogPages) : AlertEvent → LogPages
  | raised flags => p.update_TapeAlert flags
  | write_error => p.set_TapeAlert (TA_HARD ||| TA_WRITE)
  | log_sense alloc_len => (p.ssc_log_sense alloc_len).2

/-- The flags that were raised and not reported. -/
def AlertEvent.pending (F : BitVec 64) : AlertEvent → BitVec 64
  | raised flags => F ||| flags
  | write_error => F ||| (TA_HARD ||| TA_WRITE)
  | log_sense alloc_len => if 4 < alloc_len then TA_NONE else F

/-- Every page says that exactly the flags `F` are set. -/
structure Agree (F : BitVec 64) (p : LogPages) : Prop where
  /-- One by one. -/
  tapeAlert : p.tapeAlert = some (values F)
  /-- As a number. -/
  sad : p.sad = some F
  /-- The bits of the device status page, when there is one. -/
  deviceStatus : ∀ s, p.deviceStatus = some s →
    s = ⟨F ≠ TA_NONE, F.getLsbD CLEAN_NOW, F.getLsbD CLEAN_PERIODIC⟩

/-- What an event is to do to pages that say `F`: what is reported are these flags, and
the pages then say what is pending. -/
structure LawfulEvent (F : BitVec 64) (p : LogPages) (e : AlertEvent) : Prop where
  /-- The report. -/
  reported : ∀ alloc_len, e = .log_sense alloc_len →
    (p.ssc_log_sense alloc_len).1 = some (values F)
  /-- The pages. -/
  agree : Agree (e.pending F) (e.run p)

/-- Every event of a sequence does so. -/
def LawfulRun : BitVec 64 → LogPages → List AlertEvent → Prop
  | _, _, [] => True
  | F, p, e :: es => LawfulEvent F p e ∧ LawfulRun (e.pending F) (e.run p) es

/-- When an event keeps the flags: a write error when no other flag is set than its own, and
raised flags when, on a drive with a device status page, a cleaning flag that is set is raised
once more. -/
def Meets (p : LogPages) : AlertEvent → Prop
  | .raised flags => p.deviceStatus ≠ none → ∀ ta, p.sad = some ta →
      (ta.getLsbD CLEAN_NOW → flags.getLsbD CLEAN_NOW) ∧
        (ta.getLsbD CLEAN_PERIODIC → flags.getLsbD CLEAN_PERIODIC)
  | .write_error => ∀ ta, p.sad = some ta →
      ta ||| (TA_HARD ||| TA_WRITE) = TA_HARD ||| TA_WRITE
  | .log_sense _ => True

/-- Every event of a sequence meets its condition in the pages it finds. -/
def MeetsAll : LogPages → List AlertEvent → Prop
  | _, [] => True
  | p, e :: es => Meets p e ∧ MeetsAll (e.run p) es

section Pages

variable {p : LogPages}

/-- Replaced flags are in every page. -/
theorem agree_set_TapeAlert (F : BitVec 64) (ht : p.tapeAlert ≠ none) (hs : p.sad ≠ none) :
    Agree F (p.set_TapeAlert F) := by
  obtain ⟨v, hv⟩ := Option.ne_none_iff_exists'.mp ht
  obtain ⟨ta, hta⟩ := Option.ne_none_iff_exists'.mp hs
  have hset : p.set_TapeAlert F = ⟨some (values F), some F,
      p.deviceStatus.map fun _ =>
        ⟨F ≠ TA_NONE, F.getLsbD CLEAN_NOW, F.getLsbD CLEAN_PERIODIC⟩⟩ := by
    simp only [LogPages.set_TapeAlert, LogPages.set_tafc, hv, LogPages.set_lp_11_crqrd,
      LogPages.set_lp_11_crqst, hta, Option.map_some, Option.map_map]
    rfl
  rw [hset]
  refine ⟨rfl, rfl, fun s hsome => ?_⟩
  obtain ⟨s₀, -, hs₀⟩ := Option.map_eq_some_iff.mp hsome
  exact hs₀.symm

/-- Adding flags leaves everything but the cleaning bits as it is to be. -/
theorem update_TapeAlert_eq {F : BitVec 64} (h : Agree F p) (flags : BitVec 64) :
    p.update_TapeAlert flags = ⟨some (values (F ||| flags)), some (F ||| flags),
      p.deviceStatus.map fun _ => ⟨F ||| flags ≠ TA_NONE, flags.getLsbD CLEAN_NOW,
        flags.getLsbD CLEAN_PERIODIC⟩⟩ := by
  simp only [LogPages.update_TapeAlert, h.sad, LogPages.set_TapeAlert, LogPages.set_tafc,
    h.tapeAlert, LogPages.set_lp_11_crqrd, LogPages.set_lp_11_crqst, Option.map_some,
    Option.map_map]
  rfl

/-- A bit of either of two flags is one of the second, when it is no news of the first. -/
theorem getLsbD_or_eq (F flags : BitVec 64) (i : ℕ) :
    flags.getLsbD i = (F ||| flags).getLsbD i ↔ (F.getLsbD i → flags.getLsbD i) := by
  rw [BitVec.getLsbD_or]
  cases F.getLsbD i with
  | false => simp only [Bool.false_or, Bool.false_eq_true, false_implies]
  | true => simp only [Bool.true_or, true_implies]

/-- Raised flags are kept under their condition, and only then. -/
theorem raised_lawful_iff {F : BitVec 64} (h : Agree F p) (flags : BitVec 64) :
    LawfulEvent F p (.raised flags) ↔ Meets p (.raised flags) := by
  have hrun : AlertEvent.run p (.raised flags) = _ := update_TapeAlert_eq h flags
  constructor
  · intro hlaw hds ta hta
    obtain rfl : F = ta := Option.some.inj (h.sad.symm.trans hta)
    obtain ⟨s, hs⟩ := Option.ne_none_iff_exists'.mp hds
    have hbits := hlaw.agree.deviceStatus
    rw [hrun, hs] at hbits
    have heq := hbits _ rfl
    simp only [AlertEvent.pending, DeviceStatus.mk.injEq] at heq
    exact ⟨(getLsbD_or_eq F flags CLEAN_NOW).mp heq.2.1,
      (getLsbD_or_eq F flags CLEAN_PERIODIC).mp heq.2.2⟩
  · intro hmeets
    refine ⟨fun alloc_len he => ?_, ?_⟩
    · cases he
    · rw [hrun]
      refine ⟨rfl, rfl, fun s hs => ?_⟩
      obtain ⟨s₀, hs₀, rfl⟩ := Option.map_eq_some_iff.mp hs
      have hds : p.deviceStatus ≠ none := Option.ne_none_iff_exists'.mpr ⟨s₀, hs₀⟩
      obtain ⟨hnow, hperiodic⟩ := hmeets hds F h.sad
      simp only [AlertEvent.pending, DeviceStatus.mk.injEq]
      exact ⟨rfl, (getLsbD_or_eq F flags CLEAN_NOW).mpr hnow,
        (getLsbD_or_eq F flags CLEAN_PERIODIC).mpr hperiodic⟩

/-- So is a write error. -/
theorem write_error_lawful_iff {F : BitVec 64} (h : Agree F p) :
    LawfulEvent F p .write_error ↔ Meets p .write_error := by
  have ht : p.tapeAlert ≠ none := Option.ne_none_iff_exists'.mpr ⟨_, h.tapeAlert⟩
  have hs : p.sad ≠ none := Option.ne_none_iff_exists'.mpr ⟨F, h.sad⟩
  have hset := agree_set_TapeAlert (TA_HARD ||| TA_WRITE) ht hs
  constructor
  · intro hlaw ta hta
    obtain rfl : F = ta := Option.some.inj (h.sad.symm.trans hta)
    exact Option.some.inj (hlaw.agree.sad.symm.trans hset.sad)
  · intro hmeets
    refine ⟨fun alloc_len he => ?_, ?_⟩
    · cases he
    · rw [AlertEvent.pending, hmeets F h.sad]
      exact hset

/-- LOG SENSE reports what is set and clears it. -/
theorem log_sense_lawful {F : BitVec 64} (h : Agree F p) (alloc_len : ℕ) :
    LawfulEvent F p (.log_sense alloc_len) := by
  have ht : p.tapeAlert ≠ none := Option.ne_none_iff_exists'.mpr ⟨_, h.tapeAlert⟩
  have hs : p.sad ≠ none := Option.ne_none_iff_exists'.mpr ⟨F, h.sad⟩
  constructor
  · rintro n he
    simp only [LogPages.ssc_log_sense, h.tapeAlert]
  · simp only [AlertEvent.pending, AlertEvent.run, LogPages.ssc_log_sense, h.tapeAlert]
    split
    · exact agree_set_TapeAlert TA_NONE ht hs
    · exact h

/-- An event is lawful exactly when it meets its condition. -/
theorem lawfulEvent_iff {F : BitVec 64} (h : Agree F p) (e : AlertEvent) :
    LawfulEvent F p e ↔ Meets p e := by
  cases e with
  | raised flags => exact raised_lawful_iff h flags
  | write_error => exact write_error_lawful_iff h
  | log_sense alloc_len => exact iff_of_true (log_sense_lawful h alloc_len) trivial

/-- A sequence of events is. -/
theorem lawfulRun_iff {F : BitVec 64} (h : Agree F p) (es : List AlertEvent) :
    LawfulRun F p es ↔ MeetsAll p es := by
  induction es generalizing F p with
  | nil => exact Iff.rfl
  | cons e es ih =>
    constructor
    · rintro ⟨hlaw, hrest⟩
      exact ⟨(lawfulEvent_iff h e).mp hlaw, (ih hlaw.agree).mp hrest⟩
    · rintro ⟨hmeets, hrest⟩
      have hlaw := (lawfulEvent_iff h e).mpr hmeets
      exact ⟨hlaw, (ih hlaw.agree).mpr hrest⟩

end Pages

/-- From its start on a drive keeps every flag until it is reported, in all its pages alike,
exactly when each event meets its condition. A library that reports its flags clears them
only when there are none. -/
theorem tapeAlerts_kept {p : LogPages} (ht : p.tapeAlert ≠ none) :
    (p.sad ≠ none → ∀ es, LawfulRun TA_NONE (p.set_TapeAlert TA_NONE) es ↔
      MeetsAll (p.set_TapeAlert TA_NONE) es) ∧
    (p.sad = none → ∀ flags alloc_len, p.tapeAlert = some (values flags) → 4 < alloc_len →
      ((p.smc_log_sense alloc_len).2.tapeAlert = some (values TA_NONE) ↔ flags = TA_NONE)) := by
  constructor
  · intro hs es
    exact lawfulRun_iff (agree_set_TapeAlert TA_NONE ht hs) es
  · intro hs flags alloc_len hflags halloc
    have hkept : (p.smc_log_sense alloc_len).2.tapeAlert = some (values flags) := by
      simp only [LogPages.smc_log_sense, hflags, if_pos halloc, LogPages.update_TapeAlert, hs]
    rw [hkept, Option.some.injEq]
    constructor
    · intro heq
      apply BitVec.eq_of_getLsbD_eq
      intro i hi
      exact congrFun heq ⟨i, hi⟩
    · intro heq
      rw [heq]

/-- The pages of a drive with all three, before it starts. -/
def drivePages : LogPages := ⟨some fun _ => false, some 0, some ⟨false, false, false⟩⟩

/-- A refused write, a report, and a write error. -/
theorem tapeAlerts_kept_drive : LawfulRun TA_NONE (drivePages.set_TapeAlert TA_NONE)
    [.raised TA_WRITE_PROTECT, .log_sense 512, .write_error] := by
  have ht : drivePages.tapeAlert ≠ none := (Option.some_ne_none _)
  have hs : drivePages.sad ≠ none := (Option.some_ne_none _)
  refine ((tapeAlerts_kept ht).1 hs _).mpr ⟨?_, trivial, ?_, trivial⟩
  · intro _ ta hta
    cases hta
    exact ⟨by decide, by decide⟩
  · intro ta hta
    cases hta
    decide

/-- A load that fails, then a write error: the flag of the load is lost. A cleaning flag, then a
refused write: the flag is set and its bit in the device status page is not. A library
reports a flag and keeps it. -/
theorem tapeAlerts_lost :
    let started := drivePages.set_TapeAlert TA_NONE
    let lost := AlertEvent.run (AlertEvent.run started (.raised TA_MEDIA_NOT_SUPPORTED)) .write_error
    let dirty := AlertEvent.run (AlertEvent.run started (.raised (1 <<< CLEAN_NOW)))
      (.raised TA_WRITE_PROTECT)
    let library : LogPages := (LogPages.mk (some fun _ => false) none none).set_TapeAlert TA_WRITE
    (lost.sad.map fun ta => ta.getLsbD 11) = some false ∧
      (dirty.sad.map fun ta => ta.getLsbD CLEAN_NOW) = some true ∧
      (dirty.deviceStatus.map fun s => s.CRQRD) = some false ∧
      ((library.smc_log_sense 512).2.tapeAlert.map fun v => v 1) = some true := by
  decide +kernel

end Mhvtl.TapeAlert
