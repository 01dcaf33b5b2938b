import Mhvtl.Smc.DriveDetails
import Mhvtl.Smc.ElementDump

/-!
# The life of a library

From its contents file and the device file on, through moves, messages and commands to its
port, a library keeps every element under its address, and its reports are on exactly the
elements that are asked for.
-/

namespace Mhvtl

open Interact

/-- Open or close the import/export port. -/
def Smc.smc_open_close_import_export_element (smc : Smc) (cdb : Cdb) : Smc × Status :=
  if smc.slot_type (cdb.get_unaligned_be16 2) ≠ some .MAP_ELEMENT then
    (smc, sam_illegal_request E_INVALID_ELEMENT_ADDR none)
  else if cdb 4 &&& 0x1f = 0 then
    ({ smc with cap_closed := if smc.cap_closed then false else smc.cap_closed }, Status.good)
  else if cdb 4 &&& 0x1f = 1 then
    ({ smc with cap_closed := if smc.cap_closed then smc.cap_closed else true }, Status.good)
  else (smc, sam_illegal_request E_INVALID_FIELD_IN_CDB (some ⟨SKSV ||| CD, 4⟩))

/-- What a library meets in its life. -/
inductive LifeEvent where
  /-- A move or a message. -/
  | library (l : LibraryEvent)
  /-- OPEN/CLOSE IMPORT/EXPORT ELEMENT. -/
  | port (cdb : Cdb)

/-- Steps of a library, which adds storage slots where there is room for them. -/
inductive LifeStep : Option Smc → LifeEvent → Option Smc → Prop where
  /-- A move or a message. -/
  | library {st st' : Option Smc} {l : LibraryEvent} (h : LibraryStep st l st')
      (hroom : RoomForSlots st l) : LifeStep st (.library l) st'
  /-- A command to the port. -/
  | port (smc : Smc) (cdb : Cdb) :
      LifeStep (some smc) (.port cdb) (some (smc.smc_open_close_import_export_element cdb).1)

/-- Steps in which the cartridges and the elements stay together, too. -/
def SafeLifeStep (st : Option Smc) (e : LifeEvent) (st' : Option Smc) : Prop :=
  LifeStep st e st' ∧ ∀ l, e = .library l → LibrarySafe st l

section Layout

variable {smc smc' : Smc}

/-- A command to the port changes the port at most. -/
theorem port_eq (smc : Smc) (cdb : Cdb) : ∃ closed,
    (smc.smc_open_close_import_export_element cdb).1 = { smc with cap_closed := closed } := by
  rw [Smc.smc_open_close_import_export_element]
  split
  · exact ⟨smc.cap_closed, rfl⟩
  split
  · exact ⟨_, rfl⟩
  split
  · exact ⟨_, rfl⟩
  · exact ⟨smc.cap_closed, rfl⟩

/-- A step keeps the layout. -/
theorem LifeStep.laidOut {e : LifeEvent} (hl : smc.LaidOut)
    (h : LifeStep (some smc) e (some smc')) : smc'.LaidOut := by
  generalize hst : some smc = st at h
  generalize hst' : some smc' = st' at h
  cases h with
  | library h hroom =>
    subst hst
    cases h with
    | @move _ cdb tr r hexec =>
      obtain ⟨x, hx, hfirst⟩ := Option.map_eq_some_iff.mp hst'.symm
      have hsame := SameLayout.smc_move_medium hexec x hx
      rw [hfirst] at hsame
      exact hsame.laidOut hl
    | message _ msg =>
      obtain ⟨r, hr, hfirst⟩ := Option.map_eq_some_iff.mp hst'.symm
      rw [← hfirst]
      exact hl.processMessageQ (hroom smc msg rfl rfl) hr
  | port _ cdb =>
    cases hst
    obtain ⟨closed, hport⟩ := port_eq smc cdb
    rw [Option.some.inj hst', hport]
    exact (SameLayout.port smc closed).laidOut hl

/-- The daemon does not come back. -/
theorem LifeStep.none {e : LifeEvent} {st : Option Smc} (h : LifeStep none e st) : st = none := by
  cases h with
  | library h => cases h

/-- A run keeps the layout. -/
theorem life_laidOut {es : List LifeEvent} {st st' : Option Smc} (hrun : Run LifeStep st es st')
    (hl : ∀ smc, st = some smc → smc.LaidOut) : ∀ smc, st' = some smc → smc.LaidOut := by
  refine hrun.invariant (I := fun st => ∀ smc, st = some smc → smc.LaidOut) ?_ hl
  intro s e s' hs hstep smc' hsmc'
  cases s with
  | none =>
    rw [hstep.none] at hsmc'
    cases hsmc'
  | some smc =>
    rw [hsmc'] at hstep
    exact hstep.laidOut (hs smc rfl)

/-- A step keeps the elements at their places. -/
theorem LifeStep.placesKept {e : LifeEvent} (h : LifeStep (some smc) e (some smc')) :
    PlacesKept smc smc' := by
  generalize hst : some smc = st at h
  generalize hst' : some smc' = st' at h
  cases h with
  | library h _ =>
    subst hst
    cases h with
    | @move _ cdb tr r hexec =>
      obtain ⟨x, hx, hfirst⟩ := Option.map_eq_some_iff.mp hst'.symm
      have hsame := SameLayout.smc_move_medium hexec x hx
      rw [hfirst] at hsame
      exact PlacesKept.of_same hsame
    | message _ msg =>
      obtain ⟨r, hr, hfirst⟩ := Option.map_eq_some_iff.mp hst'.symm
      rw [← hfirst]
      exact PlacesKept.processMessageQ hr
  | port _ cdb =>
    cases hst
    obtain ⟨closed, hport⟩ := port_eq smc cdb
    rw [Option.some.inj hst', hport]
    exact PlacesKept.of_same (SameLayout.port smc closed)

/-- So does a run. -/
theorem life_placesKept {es : List LifeEvent} (hrun : Run LifeStep (some smc) es (some smc')) :
    PlacesKept smc smc' := by
  have hkept : ∀ s, some smc' = some s → PlacesKept smc s := by
    refine hrun.invariant (I := fun st => ∀ s, st = some s → PlacesKept smc s) ?_ ?_
    · intro st e st' hst hstep s hs
      cases st with
      | none =>
        rw [hstep.none] at hs
        cases hs
      | some s₀ =>
        rw [hs] at hstep
        exact (hst s₀ rfl).trans hstep.placesKept
    · intro s hs
      rw [← Option.some.inj hs]
      exact PlacesKept.of_same (SameLayout.refl smc)
  exact hkept smc' rfl

/-- Every element, and nothing else, is found under its address. -/
theorem Smc.LaidOut.slot2struct_iff (hl : smc.LaidOut) {a i : ℕ} {sp : Slot} :
    smc.slot2struct a = some (i, sp) ↔ smc.slots[i]? = some sp ∧ sp.slot_location = a := by
  constructor
  · intro h
    obtain ⟨k, hk, hsp⟩ := Option.bind_eq_some_iff.mp h
    obtain ⟨sq, hsq, heq⟩ := Option.map_eq_some_iff.mp hsp
    cases heq
    obtain ⟨_, hloc, -⟩ := List.findIdx?_eq_some_iff_getElem.mp hk
    obtain ⟨_, hget⟩ := List.getElem?_eq_some_iff.mp hsq
    rw [hget] at hloc
    exact ⟨hsq, eq_of_beq hloc⟩
  · rintro ⟨hi, rfl⟩
    obtain ⟨hlt, hget⟩ := List.getElem?_eq_some_iff.mp hi
    have hfind : smc.slots.findIdx? (fun sq => sq.slot_location == sp.slot_location) = some i := by
      rw [List.findIdx?_eq_some_iff_getElem]
      refine ⟨hlt, by rw [hget]; exact beq_self_eq_true _, fun j hj => ?_⟩
      have hless := List.pairwise_iff_getElem.mp hl.ascending j i (hj.trans hlt) hlt hj
      rw [hget] at hless
      simpa using hless.ne
    rw [Smc.slot2struct, hfind, Option.bind_some, hi]
    rfl

end Layout

/-- A command to the port is safe. -/
theorem SafeLifeStep.port (smc : Smc) (cdb : Cdb) : SafeLifeStep (some smc) (.port cdb)
    (some (smc.smc_open_close_import_export_element cdb).1) := by
  refine ⟨LifeStep.port smc cdb, fun l h => ?_⟩
  cases h

/-- A library in order: it is laid out, and its full elements and cartridges belong together. -/
def InOrderLibrary (st : Option Smc) : Prop := ∃ smc, st = some smc ∧ smc.LaidOut ∧ Conserved smc

/-- A step keeps the order. -/
theorem SafeLifeStep.inOrder {st st' : Option Smc} {e : LifeEvent} (h : InOrderLibrary st)
    (hstep : SafeLifeStep st e st') : InOrderLibrary st' := by
  obtain ⟨smc, rfl, hl, hc⟩ := h
  obtain ⟨hlife, hsafe⟩ := hstep
  have hstays : ∃ smc', st' = some smc' ∧ Conserved smc' := by
    generalize hst : some smc = st at hlife
    cases hlife with
    | library hlib =>
      subst hst
      obtain ⟨smc', hst', hc', -⟩ := SafeLibraryStep.conserved hc ⟨hlib, hsafe _ rfl⟩
      exact ⟨smc', hst', hc'⟩
    | port _ cdb =>
      cases hst
      obtain ⟨closed, hport⟩ := port_eq smc cdb
      exact ⟨_, rfl, hport ▸ ⟨hc.1, hc.2, hc.3⟩⟩
  obtain ⟨smc', rfl, hc'⟩ := hstays
  exact ⟨smc', rfl, hlife.laidOut hl, hc'⟩

section Life

variable {pm : Personality} {lines : List Text} {stack : ElementType → ℤ}
  {movecommand : Option Text} {my_id : ℤ} {conf : List Text} {smc : Smc} {es : List LifeEvent}

/-- A library that was read from its files is in order. -/
theorem Smc.update_drive_details_inOrder (h : pm.Sound) (hfile : WellNumbered pm lines)
    (hread : Smc.init_slot_info lines stack (Smc.blank pm movecommand) = some smc)
    (hconf : smc.NamesDrives my_id conf) :
    InOrderLibrary (some (smc.update_drive_details my_id conf)) := by
  obtain ⟨hlaid, hkept, -⟩ := Smc.init_slot_info_inOrder h hfile hread
  have hredriven := Smc.update_drive_details_redriven hconf
  exact ⟨_, rfl, hredriven.layout.laidOut hlaid, hredriven.conserved hkept⟩

/-- In the life of a library an address is found exactly where it belongs, and is of the
type of its element. -/
theorem every_element_found (h : pm.Sound) (hfile : WellNumbered pm lines)
    (hread : Smc.init_slot_info lines stack (Smc.blank pm movecommand) = some smc)
    (hconf : smc.NamesDrives my_id conf) {smc' : Smc}
    (hrun : Run LifeStep (some (smc.update_drive_details my_id conf)) es (some smc')) :
    (∀ a i sp, smc'.slot2struct a = some (i, sp) ↔
      smc'.slots[i]? = some sp ∧ sp.slot_location = a) ∧
    ∀ sp ∈ smc'.slots, smc'.slot_type sp.slot_location = some sp.element_type := by
  obtain ⟨_, hstart, hlaid, -⟩ := Smc.update_drive_details_inOrder h hfile hread hconf
  have hl := life_laidOut hrun
    (fun _ heq => Option.some.inj (hstart.symm.trans heq) ▸ hlaid) smc' rfl
  exact ⟨fun a i sp => hl.slot2struct_iff,
    fun sp hsp => hl.slot_type_eq (hl.inRange sp hsp).1 (hl.inRange sp hsp).2⟩

/-- Start addresses of the default personality. -/
def defaultPersonality : Personality := ⟨0x001, 0x2f0, 0x300, 0x400⟩

/-- They are of use. -/
theorem defaultPersonality_sound : defaultPersonality.Sound := by
  refine ⟨by decide +kernel, fun t => ?_, fun t => ?_⟩ <;> cases t <;> decide +kernel

/-- A contents file with a drive, a picker, an import/export slot, and a storage slot left out. -/
def shortContents : List Text :=
  ["# Contents".toList, "Drive 1:".toList, "Picker 1:".toList, "MAP 1:".toList,
    "Slot 1: A1".toList, "Slot 3: A3".toList]

/-- Its numbers are in order. -/
theorem shortContents_wellNumbered : WellNumbered defaultPersonality shortContents := by
  refine ⟨fun t => ?_, fun t => ?_, fun t => ?_, fun t => ?_⟩ <;> cases t <;> decide +kernel

/-- The library of that file. -/
def shortLibrary : Smc :=
  (Smc.init_slot_info shortContents (fun _ => 0) (Smc.blank defaultPersonality none)).getD
    (Smc.blank defaultPersonality none)

/-- A device file with the drive of the library. -/
def shortDevices : List Text :=
  ["Library: 10 CHANNEL: 00 TARGET: 00 LUN: 00".toList, [],
    "Drive: 11 CHANNEL: 00 TARGET: 01 LUN: 00".toList, " Library ID: 10 Slot: 01".toList]

/-- It names the drive that is there. -/
theorem shortDevices_named : shortLibrary.NamesDrives 10 shortDevices := by
  have hslots : ∀ line ∈ shortDevices,
      (scanElement (readline line)).all fun x => decide (x = (10, 1)) := by decide +kernel
  intro line hline slot hscan
  have hslot := hslots line hline
  rw [hscan, Option.all_some, decide_eq_true_eq] at hslot
  rw [(Prod.mk.inj hslot).2]
  decide +kernel

/-- The library with its drive. -/
def startedLibrary : Smc := shortLibrary.update_drive_details 10 shortDevices

/-- Answers to a move into the drive. -/
def loadAnswers : List (Sigma Answer) :=
  asked msg_mount_state 11 msg_not_occupied ++ asked "lload A3".toList 11 msg_load_ok

/-- The library with the cartridge of the third slot in its drive. -/
def movedLibrary : Smc :=
  (((startedLibrary.smc_move_medium (moveCdb 1026 1)).replay loadAnswers).join.map
    Prod.fst).getD startedLibrary

/-- A message that adds a slot. -/
def addSlot : QMsg := ⟨1, "add slot".toList⟩

/-- The library with a fourth slot. -/
def grownLibrary : Smc := ((movedLibrary.processMessageQ addSlot).map Prod.fst).getD movedLibrary

/-- Opening the port. -/
def openPort : Cdb := fun i => if i = 2 then 0x03 else 0

/-- The library with its port open. -/
def openLibrary : Smc := (grownLibrary.smc_open_close_import_export_element openPort).1

/-- What it met. -/
def shortLife : List LifeEvent :=
  [.library (.move (moveCdb 1026 1) loadAnswers (some Status.good)),
    .library (.message addSlot), .port openPort]

/-- It met nothing that is not safe. -/
theorem openLibrary_run :
    Run SafeLifeStep (some startedLibrary) shortLife (some openLibrary) := by
  have hmove : Exec (startedLibrary.smc_move_medium (moveCdb 1026 1)) loadAnswers
      (some (movedLibrary, Status.good)) := Exec.of_replay (by decide +kernel)
  have hadd : movedLibrary.processMessageQ addSlot = some (grownLibrary, ["slot=4".toList]) := by
    decide +kernel
  have hroom : movedLibrary.HasRoom := by
    refine ⟨fun t ht => ?_, by decide +kernel⟩
    cases t with
    | STORAGE_ELEMENT => exact absurd rfl ht
    | _ => decide +kernel
  refine Run.cons ⟨LifeStep.library (LibraryStep.move hmove) ?_, fun l hl => ?_⟩
    (Run.cons ⟨LifeStep.library (LibraryStep.of_processMessageQ hadd) ?_, fun l hl => ?_⟩
      (Run.cons (SafeLifeStep.port grownLibrary openPort) (Run.nil _)))
  · intro _ _ _ hno
    cases hno
  · obtain rfl := LifeEvent.library.inj hl
    exact LibrarySafe.move_full (by decide +kernel) rfl
  · intro smc msg hsmc _ _
    obtain rfl := Option.some.inj hsmc
    exact hroom
  · obtain rfl := LifeEvent.library.inj hl
    exact fun hempty => absurd hempty (by decide)

/-- Nothing was met that a library does not meet. -/
theorem SafeLifeStep.life {st st' : Option Smc} {es : List LifeEvent}
    (h : Run SafeLifeStep st es st') : Run LifeStep st es st' :=
  h.mono fun _ _ _ hstep => hstep.1

/-- Addresses in the library after a move, with another slot and its port open. -/
theorem every_element_found_open :
    (∀ a i sp, openLibrary.slot2struct a = some (i, sp) ↔
      openLibrary.slots[i]? = some sp ∧ sp.slot_location = a) ∧
    ∀ sp ∈ openLibrary.slots, openLibrary.slot_type sp.slot_location = some sp.element_type :=
  @every_element_found _ _ (fun _ => 0) none 10 shortDevices shortLibrary _
    defaultPersonality_sound shortContents_wellNumbered (by decide +kernel) shortDevices_named _
    (SafeLifeStep.life openLibrary_run)

/-- The pages of a report are on elements of the library. -/
theorem Library.Paged.pagesOf {lib : Library} {cdb : Cdb}
    {pages : List (ElementType × List Element)} (hp : lib.Paged (lib.reported cdb) pages) :
    lib.PagesOf pages where
  mem g hg e he := by
    have hall : e ∈ lib.reported cdb := hp.all ▸ List.mem_flatMap.mpr ⟨g, hg, he⟩
    exact List.mem_of_mem_filter (List.mem_of_mem_take hall)
  type := hp.type
  filled := hp.filled

/-- In the life of a library whose cartridges are kept, a report on its elements is on those
asked for, by address and page by page, and reads back as what it is about. -/
theorem every_report_read_back (h : pm.Sound) (hfile : WellNumbered pm lines)
    (hread : Smc.init_slot_info lines stack (Smc.blank pm movecommand) = some smc)
    (hconf : smc.NamesDrives my_id conf) {lib : Library}
    (hrun : Run SafeLifeStep (some (smc.update_drive_details my_id conf)) es (some lib.smc))
    {cdb : Cdb} (hs : lib.Sized cdb) (hport : cdb 11 = 0) (sd : SenseField) :
    (lib.wanted cdb = [] ∧ lib.smc_read_element_status cdb sd =
      some (sam_illegal_request E_INVALID_FIELD_IN_CDB (some sd), [])) ∨
    ∃ first pages, (lib.wanted cdb).head? = some first ∧
      lib.Paged (lib.reported cdb) pages ∧
      (lib.reported cdb).Pairwise (fun e f => e.slot_location < f.slot_location) ∧
      lib.smc_read_element_status cdb sd = some (Status.good,
        (lib.reportBytes cdb first.slot_location pages).take (lib.allocLen cdb)) ∧
      ∀ rest, decode_element_status lib.dvcid_serial_only
        (lib.reportBytes cdb first.slot_location pages ++ rest) =
          lib.toldReport cdb first.slot_location pages := by
  obtain ⟨_, heq, hl, hc⟩ := hrun.invariant (fun _ _ _ hst hstep => hstep.inOrder hst)
    (Smc.update_drive_details_inOrder h hfile hread hconf)
  cases Option.some.inj heq
  cases hw : lib.wanted cdb with
  | nil =>
    left
    refine ⟨rfl, ?_⟩
    rw [Library.smc_read_element_status, Library.element_status_data_none hl hport sd hw]
    rfl
  | cons first others =>
    right
    obtain ⟨pages, hpaged, hdata⟩ := Library.element_status_data_eq hl hc hs hport sd hw
    obtain ⟨hfirst, -, -⟩ := Library.wanted_first hl hw
    have hcount : (lib.reported cdb).length ≤ 65535 :=
      (List.length_take_le _ _).trans (Library.maxCount_le cdb)
    refine ⟨first, pages, rfl, hpaged, ?_, ?_, fun rest => ?_⟩
    · exact (Library.wanted_ascending hl).sublist (List.take_sublist _ _)
    · rw [Library.smc_read_element_status, hdata]
      rfl
    · apply Library.decode_element_status_eq hl hs hpaged.pagesOf
      · rw [hpaged.all]
        exact hcount
      · exact (Library.element_address hl hfirst).2
      · rw [Library.countField]
        split
        · decide
        · exact Nat.lt_succ_of_le hcount

/-- The library with its port open, with what its reports read. -/
def openReports : Library where
  smc := openLibrary
  asc_ascq := fun _ => 0
  identity := fun _ => ⟨0, [], [], [], fun b hb => by simp at hb⟩
  cart_type := fun _ => 0
  no_dvcid_flag := false
  dvcid_serial_only := false
  dvcid_len := 34
  bufsize := 1024 * 1024
  dvcid_len_le := by decide

/-- Asking for all elements. -/
def allElements : Cdb := fun i => if i = 8 ∨ i = 9 then 0xff else 0

/-- A report on the library with its port open. -/
theorem every_report_read_back_open :
    (openReports.wanted allElements = [] ∧
      openReports.smc_read_element_status allElements ⟨SKSV, 0⟩ =
        some (sam_illegal_request E_INVALID_FIELD_IN_CDB (some ⟨SKSV, 0⟩), [])) ∨
    ∃ first pages, (openReports.wanted allElements).head? = some first ∧
      openReports.Paged (openReports.reported allElements) pages ∧
      (openReports.reported allElements).Pairwise
        (fun e f => e.slot_location < f.slot_location) ∧
      openReports.smc_read_element_status allElements ⟨SKSV, 0⟩ = some (Status.good,
        (openReports.reportBytes allElements first.slot_location pages).take
          (openReports.allocLen allElements)) ∧
      ∀ rest, decode_element_status openReports.dvcid_serial_only
        (openReports.reportBytes allElements first.slot_location pages ++ rest) =
          openReports.toldReport allElements first.slot_location pages :=
  @every_report_read_back _ _ (fun _ => 0) none 10 shortDevices shortLibrary _
    defaultPersonality_sound shortContents_wellNumbered (by decide +kernel) shortDevices_named
    openReports openLibrary_run allElements (fun _ _ => rfl) rfl ⟨SKSV, 0⟩

end Life

end Mhvtl
