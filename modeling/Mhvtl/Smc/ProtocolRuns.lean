import Mhvtl.Smc.Undisturbed

/-!
# Runs of the protocol

After a move into a drive that ended well, the element of the drive shows what the
drive holds, in every state of the run until something is done to the drive. With
the record of requests this is what the library and its drives promise each other.
-/

namespace Mhvtl

open Interact TapeDrive

variable {P : Parties} {s s' : System} {l : Event} {ls : List Event}

/-- An element of a drive shows a bar code, the drive holds a cartridge, and no move
goes to or from the element. -/
structure Shows (s : System) (d j : ℕ) (barcode t : Text) : Prop where
  /-- What the drive holds. -/
  held : (s.drives d).barcode = some t
  /-- The element is that of the drive. -/
  element : ∀ smc, s.library.inventory = some smc →
    ∃ sp drv, smc.slots[j]? = some sp ∧ sp.drive = some drv ∧ drv.drv_id = d
  /-- What the element shows. -/
  shown : ∀ smc, s.library.inventory = some smc → smc.barcode j = some barcode
  /-- No move is about the element. -/
  apart : ∀ smc cdb p awaited, s.library = .moving smc cdb p awaited → ∀ addr sp,
    addr = cdb.source ∨ addr = cdb.destination → smc.slot2struct addr ≠ some (j, sp)

namespace Shows

variable {d j : ℕ} {barcode t : Text}

/-- The library gets on in the same move, or with the same inventory between moves. -/
theorem of_library (h : Shows s d j barcode t) (hdrive : (s'.drives d).barcode = (s.drives d).barcode)
    (hinv : s'.library.inventory = s.library.inventory)
    (hmoves : ∀ smc cdb p awaited, s'.library = .moving smc cdb p awaited →
      ∃ p' awaited', s.library = .moving smc cdb p' awaited') : Shows s' d j barcode t where
  held := hdrive.trans h.held
  element := fun smc hsmc => h.element smc (hinv ▸ hsmc)
  shown := fun smc hsmc => h.shown smc (hinv ▸ hsmc)
  apart := by
    intro smc cdb p awaited heq
    obtain ⟨p', awaited', hold⟩ := hmoves smc cdb p awaited heq
    exact h.apart smc cdb p' awaited' hold

/-- The idle library handles a message. -/
theorem of_keeps {smc smc' : Smc} (h : Shows s d j barcode t) (hphase : s.library = .idle smc)
    (hphase' : s'.library = .idle smc') (hkeeps : Keeps smc smc')
    (hdrives : s'.drives = s.drives) : Shows s' d j barcode t := by
  have hinv : s.library.inventory = some smc := by rw [hphase]; rfl
  obtain ⟨sp, drv, hsp, hd, hid⟩ := h.element smc hinv
  constructor
  · rw [hdrives]
    exact h.held
  · intro smc'' hsmc
    rw [hphase'] at hsmc
    cases hsmc
    obtain ⟨sp', hsp', hd', _⟩ := hkeeps.elements j sp drv hsp hd
    exact ⟨sp', drv, hsp', hd', hid⟩
  · intro smc'' hsmc
    rw [hphase'] at hsmc
    cases hsmc
    exact hkeeps.barcode hsp hd (h.shown smc hinv)
  · intro smc'' cdb p awaited heq
    rw [hphase'] at heq
    cases heq

/-- The library ends. -/
theorem of_gone (h : Shows s d j barcode t) (hphase : s'.library = .gone)
    (hdrives : s'.drives = s.drives) : Shows s' d j barcode t := by
  constructor
  · rw [hdrives]
    exact h.held
  · intro smc hsmc
    rw [hphase] at hsmc
    cases hsmc
  · intro smc hsmc
    rw [hphase] at hsmc
    cases hsmc
  · intro smc cdb p awaited heq
    rw [hphase] at heq
    cases heq

/-- A move of other elements ends. -/
theorem of_touches {smc smc' : Smc} {cdb : Cdb} {p : Proc Moved} {awaited : Option (ℕ × ℕ)}
    (h : Shows s d j barcode t) (hphase : s.library = .moving smc cdb p awaited)
    (hphase' : s'.library = .idle smc') (ht : TouchesAt smc cdb smc')
    (hdrives : s'.drives = s.drives) : Shows s' d j barcode t := by
  have hinv : s.library.inventory = some smc := by rw [hphase]; rfl
  have hslot : smc'.slots[j]? = smc.slots[j]? ∧ smc'.barcode j = smc.barcode j := by
    rcases ht with rfl | ⟨i, src, k, dst, hsrc, hdst, ht⟩
    · exact ⟨rfl, rfl⟩
    have hi : j ≠ i := by
      rintro rfl
      exact h.apart smc cdb p awaited hphase _ src (Or.inl rfl) hsrc
    have hk : j ≠ k := by
      rintro rfl
      exact h.apart smc cdb p awaited hphase _ dst (Or.inr rfl) hdst
    have hsame := ht.others j hi hk
    have hcodes : smc'.barcodeOf = smc.barcodeOf := by
      funext sp
      simp only [Smc.barcodeOf, ht.barcodes]
    refine ⟨hsame, ?_⟩
    simp only [Smc.barcode, hsame, hcodes]
  constructor
  · rw [hdrives]
    exact h.held
  · intro smc'' hsmc
    rw [hphase'] at hsmc
    cases hsmc
    rw [hslot.1]
    exact h.element smc hinv
  · intro smc'' hsmc
    rw [hphase'] at hsmc
    cases hsmc
    exact hslot.2.trans (h.shown smc hinv)
  · intro smc'' cdb p awaited heq
    rw [hphase'] at heq
    cases heq

/-- A move of other elements begins. -/
theorem of_begins {smc : Smc} {cdb : Cdb} {p : Proc Moved} {awaited : Option (ℕ × ℕ)}
    (h : Shows s d j barcode t) (hphase : s.library = .idle smc)
    (hphase' : s'.library = .moving smc cdb p awaited) (hdrives : s'.drives = s.drives)
    (hnot : ¬ (Event.moveBegins smc cdb).Involves d) : Shows s' d j barcode t := by
  have hinv : s'.library.inventory = s.library.inventory := by rw [hphase, hphase']; rfl
  constructor
  · rw [hdrives]
    exact h.held
  · exact fun smc' hsmc => h.element smc' (hinv ▸ hsmc)
  · exact fun smc' hsmc => h.shown smc' (hinv ▸ hsmc)
  · intro smc' cdb' p' awaited' heq addr sp haddr hsp
    cases hphase'.symm.trans heq
    obtain ⟨sp', drv, hsp', hd, hid⟩ := h.element smc (by rw [hphase]; rfl)
    cases (Smc.slot2struct_some hsp).1.symm.trans hsp'
    exact hnot ⟨addr, j, sp, drv, haddr, hsp, hd, hid⟩

/-- Every step that disturbs no move and is about something else. -/
theorem step (h : Shows s d j barcode t) (hs : InOrder P s) (hstep : PeacefulStep P s l s')
    (hnot : ¬ l.Involves d) : Shows s' d j barcode t := by
  obtain ⟨hstep, hpeace⟩ := hstep
  have hex := hs.exchange
  have hother : ∀ (d' : ℕ) (drive : TapeDrive),
      (d' = d → drive.barcode = (s.drives d).barcode) →
        ((s.setDrive d' drive).drives d).barcode = (s.drives d).barcode := by
    intro d' drive hdrive
    by_cases hd : d = d'
    · subst hd
      simpa [System.setDrive] using hdrive rfl
    · simp [System.setDrive, hd]
  cases hstep with
  | libraryHandles hphase hnext hrun hes =>
    exact h.of_keeps hphase rfl (Keeps.processMessageQ hrun) rfl
  | libraryFails hphase hnext hrun => exact h.of_gone rfl rfl
  | moveBegins cdb hphase => exact h.of_begins hphase rfl rfl hnot
  | libraryAsks hphase hes =>
    refine h.of_library rfl (by rw [hphase]; rfl) fun smc cdb p awaited heq => ?_
    cases heq
    exact ⟨_, _, hphase⟩
  | libraryRuns code hphase =>
    refine h.of_library rfl (by rw [hphase]; rfl) fun smc cdb p awaited heq => ?_
    cases heq
    exact ⟨_, _, hphase⟩
  | libraryHears hphase hnext =>
    refine h.of_library rfl (by rw [hphase]; rfl) fun smc cdb p awaited heq => ?_
    cases heq
    exact ⟨_, _, hphase⟩
  | @moveEnds smc cdb r awaited hphase =>
    rw [hphase] at hex
    have hsame : (s.setLibrary ((r.map fun x => LibraryPhase.idle x.1).getD .gone)).inbox = s.inbox :=
      rfl
    have hends := (hex.moveEnds hsame).1
    cases r with
    | none => exact h.of_gone rfl rfl
    | some x => exact h.of_touches hphase rfl (hends.2 x.1 x.2 rfl).1 rfl
  | @driveHandles d' e rest drive out es result hd hnext hrun hes =>
    exact h.of_library (hother d' drive fun heq => absurd heq hnot) rfl
      fun smc cdb p awaited heq => ⟨p, awaited, heq⟩
  | @driveObeys d' es command hd hes =>
    refine h.of_library (hother d' _ ?_) rfl fun smc cdb p awaited heq => ⟨p, awaited, heq⟩
    rintro rfl
    exact (host_keeps (s.drives d') command).1
  | @driveRestarts d' hd =>
    exact h.of_library (hother d' _ fun heq => absurd heq hnot) rfl
      fun smc cdb p awaited heq => ⟨p, awaited, heq⟩
  | userSends user rcv_id text hlibrary hdrive hes =>
    exact h.of_library rfl rfl fun smc cdb p awaited heq => ⟨p, awaited, heq⟩
  | userReads hlibrary hdrive hnext =>
    exact h.of_library rfl rfl fun smc cdb p awaited heq => ⟨p, awaited, heq⟩

/-- A run that disturbs no move and is about something else. -/
theorem run (h : Shows s d j barcode t) (hs : InOrder P s) (hrun : Run (PeacefulStep P) s ls s')
    (hnot : ∀ l ∈ ls, ¬ l.Involves d) : Shows s' d j barcode t := by
  induction hrun with
  | nil s => exact h
  | cons head tail ih =>
    have hfirst := h.step hs head (hnot _ List.mem_cons_self)
    exact ih hfirst (hs.step head) fun l hl => hnot l (List.mem_cons_of_mem _ hl)

end Shows

/-- The element that a move goes to is still that of its drive. -/
theorem TouchesAt.element {smc smc' : Smc} {cdb : Cdb} {d j : ℕ} {dst : Slot}
    (h : TouchesAt smc cdb smc') (hdst : smc.slot2struct cdb.destination = some (j, dst))
    (hd : destDrive smc cdb = some d) :
    ∃ sp drv, smc'.slots[j]? = some sp ∧ sp.drive = some drv ∧ drv.drv_id = d := by
  simp only [destDrive] at hd
  split at hd
  · obtain ⟨⟨k, sp, drv⟩, hdrive, hid⟩ := Option.map_eq_some_iff.mp hd
    obtain ⟨hslot, hsp⟩ := Smc.drive2struct_some hdrive
    cases hdst.symm.trans hslot
    have hplace := h.places j
    rw [(Smc.slot2struct_some hdst).1, Option.map_some, Option.map_eq_some_iff] at hplace
    obtain ⟨sp', hsp', heq⟩ := hplace
    simp only [Slot.place, Prod.mk.injEq] at heq
    exact ⟨sp', drv, hsp', heq.2.trans hsp, hid⟩
  · cases hd

/-- The library's word for a cartridge, and the drive's. -/
theorem strip_PCL_lload {barcode : Text} (h : barcode.Plain) :
    strip_PCL (lload barcode) 6 = barcode.truncate_spaces := by
  have hdrop : (lload barcode).drop 6 = barcode.truncate_spaces := rfl
  rw [strip_PCL, hdrop, List.takeWhile_eq_self_iff]
  intro c hc
  simpa using h.isspace_truncate c hc

/-- A move into a drive that ended well leaves its cartridge in the drive. -/
theorem InOrder.shows (hs : InOrder P s) {smc smc' : Smc} {cdb : Cdb} {status : Status}
    (h : ProtocolStep P s (.moveEnds smc cdb (some (smc', status))) s')
    (hgood : status.sam_stat = SAM_STAT_GOOD) (hport : cdb 11 = 0) {d : ℕ}
    (hd : destDrive smc cdb = some d) :
    ∃ j dst barcode, smc.slot2struct cdb.destination = some (j, dst) ∧ barcode.Plain ∧
      Shows s' d j barcode barcode.truncate_spaces := by
  have hex := hs.exchange
  cases h with
  | @moveEnds _ _ _ awaited hphase =>
    rw [hphase] at hex
    have hends := (hex.moveEnds (Eq.refl s.inbox)).1
    obtain ⟨hne, hplain⟩ := hs.plain smc cdb _ awaited hphase (by rw [hd]; rfl)
    obtain ⟨ht, hdelivered⟩ := hends.2 smc' status rfl
    obtain ⟨i, src, j, dst, barcode, hsrc, hdst, hb, hb', hheld⟩ :=
      hdelivered hgood hport hne (by rw [hd]; rfl)
    have hword := hplain i src barcode hsrc hb
    refine ⟨j, dst, barcode, hdst, hword, ?_, ?_, ?_, ?_⟩
    · rw [strip_PCL_lload hword, hd] at hheld
      exact hheld
    · intro smc'' hsmc
      cases hsmc
      exact ht.element hdst hd
    · intro smc'' hsmc
      cases hsmc
      exact hb'
    · exact fun smc'' cdb' p awaited' heq => nomatch heq

/-- Nothing that happens peacefully is unknown to a drive. -/
theorem PeacefulStep.known (h : PeacefulStep P s l s') : l.Known s := by
  intro d e sent heq hlload
  subst heq
  exact h.2.1 hlload

/-- From a start, everything is in order and on record. -/
theorem Started.reaches (h : Started P s) (hrun : Run (PeacefulStep P) s ls s') :
    InOrder P s' ∧ Recorded P s' ls := by
  have hstep : ∀ (s : System) (ls : List Event) (l : Event) (s' : System),
      InOrder P s ∧ Recorded P s ls → PeacefulStep P s l s' →
        InOrder P s' ∧ Recorded P s' (ls ++ [l]) := by
    rintro s ls l s' ⟨hs, hrec⟩ hl
    exact ⟨hs.step hl, hrec.step hs.numbered hl.1 hl.known⟩
  have hnil : InOrder P s ∧ Recorded P s [] := ⟨h.inOrder, h.recorded⟩
  exact Run.history hstep hrun hnil

/-- Messages to the library that were sent on the way wait, were handled or were heard. -/
theorem kept_on_record (hrun : Run (ProtocolStep P) s ls s') {e : Envelope} (he : e ∈ sentIn ls)
    (hrcv : e.rcv_id = P.library_id) :
    e ∈ s'.inbox P.library_id ∨ ∃ l ∈ ls, l.took P = some (P.library_id, e) := by
  obtain ⟨l, hl, hel⟩ := List.mem_flatMap.mp he
  obtain ⟨pre, post, rfl⟩ := List.append_of_mem hl
  obtain ⟨s₁, s₂, _, hstep, hpost⟩ := hrun.split
  have harrived := hstep.queues.arrives hel
  rw [hrcv] at harrived
  rcases nothing_lost hpost harrived with hin | ⟨l', hl', htook⟩
  · exact Or.inl hin
  · exact Or.inr ⟨l', List.mem_append_right _ (List.mem_cons_of_mem _ hl'), htook⟩

/-- In every run from the start in which nobody disturbs a move, the library and its
drives keep their protocol. -/
theorem protocol_kept (hstart : Started P s) (hrun : Run (PeacefulStep P) s ls s') :
    ProtocolKept P ls s' where
  heard := by
    intro e awaited hl
    obtain ⟨pre, post, rfl⟩ := List.append_of_mem hl
    obtain ⟨s₁, s₂, hpre, hstep, _⟩ := hrun.split
    have hex := (hstart.reaches hpre).1.exchange
    have hq := hstep.1.queues
    cases hstep.1 with
    | libraryHears hphase hnext =>
      rw [hphase] at hex
      exact (hex.libraryHears hnext hq rfl).1
  kept := fun e he hrcv => kept_on_record (hrun.mono fun _ _ _ h => h.1) he hrcv
  answered := (hstart.reaches hrun).2.once
  agrees := by
    intro pre smc cdb smc' status post hls hgood hport d hd hnot smc'' hinv
    subst hls
    obtain ⟨s₁, s₂, hpre, hstep, hpost⟩ := hrun.split
    have horder := (hstart.reaches hpre).1
    obtain ⟨j, dst, barcode, hdst, hplain, hshows⟩ := horder.shows hstep.1 hgood hport hd
    have hlast := hshows.run (horder.step hstep) hpost hnot
    obtain ⟨n, hblanks⟩ := hplain.eq_truncate
    exact ⟨j, dst, barcode.truncate_spaces, n, hdst, hlast.held, hblanks ▸ hlast.shown smc'' hinv⟩

/-- A library and two drives. -/
def smallParties : Parties := ⟨1, [11, 12], by decide⟩

/-- The small library has just registered with its drives. -/
def startedSystem : System where
  inbox := fun id =>
    if id = 11 ∨ id = 12 then [⟨id, ⟨1, "Register".toList⟩, id - 11, none⟩] else []
  posted := 2
  library := .idle smallLibrary
  drives := fun _ => TapeDrive.start 1

/-- It has. -/
theorem startedSystem_started : Started smallParties startedSystem := by
  constructor
  · refine ⟨smallLibrary, rfl, ?_⟩
    intro sp hsp drv hdrive
    simp only [smallLibrary, List.mem_cons, List.not_mem_nil, or_false] at hsp
    rcases hsp with rfl | rfl | rfl | rfl
    all_goals cases hdrive
    · exact List.mem_cons_self
    · exact List.mem_cons_of_mem _ List.mem_cons_self
  · intro d hd
    simp only [smallParties, List.mem_cons, List.not_mem_nil, or_false] at hd
    rcases hd with rfl | rfl
    · exact ⟨_, rfl, rfl, by decide⟩
    · exact ⟨_, rfl, rfl, by decide⟩
  · intro id hid
    simp only [smallParties, List.mem_cons, List.not_mem_nil, or_false] at hid
    simp only [startedSystem, hid, if_false]
  · exact fun d _ => rfl

/-- The small library with the cartridge of its port in its first drive. -/
def loadedLibrary : Smc :=
  ((smallLibrary.move_cart 0 1).getD smallLibrary).updateSlot 1
    fun sp => sp.setSlotFull.setAccessStatus false

/-- The library loads the cartridge of its port into its first drive. -/
def loading : List Event :=
  [ .driveHandles 11 ⟨11, ⟨1, "Register".toList⟩, 0, none⟩ [],
    .moveBegins smallLibrary (moveCdb 10 100),
    .libraryAsks [⟨11, ⟨1, msg_mount_state⟩, 2, none⟩],
    .driveHandles 11 ⟨11, ⟨1, msg_mount_state⟩, 2, none⟩ [⟨1, ⟨11, msg_not_occupied⟩, 3, some 2⟩],
    .libraryHears ⟨1, ⟨11, msg_not_occupied⟩, 3, some 2⟩ (some (11, 2)),
    .libraryAsks [⟨11, ⟨1, "lload A1".toList⟩, 4, none⟩],
    .driveHandles 11 ⟨11, ⟨1, "lload A1".toList⟩, 4, none⟩
      [⟨1, ⟨11, "Loaded OK: A1".toList⟩, 5, some 4⟩],
    .libraryHears ⟨1, ⟨11, "Loaded OK: A1".toList⟩, 5, some 4⟩ (some (11, 4)),
    .moveEnds smallLibrary (moveCdb 10 100) (some (loadedLibrary, Status.good)) ]

/-- The cartridge in the port has a plain bar code. -/
theorem smallLibrary_plain : SourcePlain smallLibrary (moveCdb 10 100) := by
  intro i src barcode hsrc hb
  have hport : (smallLibrary.slot2struct (moveCdb 10 100).source).map Prod.fst = some 0 := rfl
  rw [hsrc, Option.map_some, Option.some.injEq] at hport
  subst hport
  have hbarcode : smallLibrary.barcode 0 = some ("A1".toList ++ List.replicate 14 ' ') := rfl
  rw [hb, Option.some.injEq] at hbarcode
  have hword : ("A1".toList.all fun c => !Text.isspace c) = true := by decide +kernel
  exact ⟨"A1".toList, 14, hbarcode, fun c hc => by simpa using List.all_eq_true.mp hword c hc⟩

/-- A message of the library to a drive that knows it. -/
theorem Peaceful.of_library {s : System} {d : ℕ} {e : Envelope} {sent : List Envelope}
    (hsnd : e.msg.snd_id = P.library_id) (hknown : ¬ "lload".toList <+: e.msg.text ∨
      (s.drives d).inLibrary = true) : Peaceful P s (.driveHandles d e sent) :=
  ⟨fun hlload => hknown.resolve_left (not_not_intro hlload), fun _ => Or.inl hsnd⟩

/-- The load of the small library keeps the protocol, and the drive holds the cartridge. -/
theorem protocol_kept_load :
    ∃ s', (s'.drives 11).barcode = some "A1".toList ∧ ProtocolKept smallParties loading s' :=
  ⟨_, rfl, protocol_kept startedSystem_started <|
    Run.cons ⟨ProtocolStep.driveHandles .loaded (by decide) rfl rfl rfl,
      Peaceful.of_library rfl (Or.inl (by decide))⟩ <|
    Run.cons ⟨ProtocolStep.moveBegins (moveCdb 10 100) rfl,
      fun _ => ⟨by decide +kernel, smallLibrary_plain⟩⟩ <|
    Run.cons ⟨ProtocolStep.libraryAsks rfl rfl, rfl⟩ <|
    Run.cons ⟨ProtocolStep.driveHandles .loaded (by decide) rfl rfl rfl,
      Peaceful.of_library rfl (Or.inl (by decide))⟩ <|
    Run.cons ⟨ProtocolStep.libraryHears rfl rfl, trivial⟩ <|
    Run.cons ⟨ProtocolStep.libraryAsks rfl rfl, rfl⟩ <|
    Run.cons ⟨ProtocolStep.driveHandles .loaded (by decide) rfl rfl rfl,
      Peaceful.of_library rfl (Or.inr rfl)⟩ <|
    Run.cons ⟨ProtocolStep.libraryHears rfl rfl, trivial⟩ <|
    Run.cons ⟨ProtocolStep.moveEnds rfl, trivial⟩ <| Run.nil _⟩

/-- The library asks its first drive for its state in a move, and the user opens the port
before the answer. -/
def interrupted : List Event :=
  [ .moveBegins smallLibrary (moveCdb 10 100),
    .libraryAsks [⟨11, ⟨1, msg_mount_state⟩, 2, none⟩],
    .userSends [⟨1, ⟨32768, "open map".toList⟩, 3, none⟩],
    .libraryHears ⟨1, ⟨32768, "open map".toList⟩, 3, none⟩ (some (11, 2)) ]

/-- The daemon of the first drive is started again, and then told to load. -/
def forgotten : List Event :=
  [ .driveHandles 11 ⟨11, ⟨1, "Register".toList⟩, 0, none⟩ [],
    .driveRestarts 11,
    .moveBegins smallLibrary (moveCdb 10 100),
    .libraryAsks [⟨11, ⟨1, msg_mount_state⟩, 2, none⟩],
    .driveHandles 11 ⟨11, ⟨1, msg_mount_state⟩, 2, none⟩ [⟨1, ⟨11, msg_not_occupied⟩, 3, some 2⟩],
    .libraryHears ⟨1, ⟨11, msg_not_occupied⟩, 3, some 2⟩ (some (11, 2)),
    .libraryAsks [⟨11, ⟨1, "lload A1".toList⟩, 4, none⟩],
    .driveHandles 11 ⟨11, ⟨1, "lload A1".toList⟩, 4, none⟩ [] ]

/-- The library takes the message of the user for the answer of the drive, and a drive
that was started again does not answer the library at all. -/
theorem smallLibrary_protocol_broken :
    (∃ s', Run (ProtocolStep smallParties) startedSystem interrupted s' ∧
      ¬ ProtocolKept smallParties interrupted s') ∧
    (∃ s', Run (ProtocolStep smallParties) startedSystem forgotten s' ∧
      ¬ ProtocolKept smallParties forgotten s') := by
  constructor
  · refine ⟨_, Run.cons (ProtocolStep.moveBegins (moveCdb 10 100) rfl) <|
      Run.cons (ProtocolStep.libraryAsks rfl rfl) <|
      Run.cons (ProtocolStep.userSends 32768 1 "open map".toList (by decide) (by decide) rfl) <|
      Run.cons (ProtocolStep.libraryHears rfl rfl) <| Run.nil _, fun hkept => ?_⟩
    obtain ⟨d, n, heq, _, hsnd, _⟩ := hkept.heard _ _
      (List.mem_cons_of_mem _ (List.mem_cons_of_mem _ (List.mem_cons_of_mem _ List.mem_cons_self)))
    cases heq
    cases hsnd
  · refine ⟨_, Run.cons (ProtocolStep.driveHandles .failed (by decide) rfl rfl rfl) <|
      Run.cons (ProtocolStep.driveRestarts (by decide)) <|
      Run.cons (ProtocolStep.moveBegins (moveCdb 10 100) rfl) <|
      Run.cons (ProtocolStep.libraryAsks rfl rfl) <|
      Run.cons (ProtocolStep.driveHandles .failed (by decide) rfl rfl rfl) <|
      Run.cons (ProtocolStep.libraryHears rfl rfl) <|
      Run.cons (ProtocolStep.libraryAsks rfl rfl) <|
      Run.cons (ProtocolStep.driveHandles .failed (by decide) rfl rfl rfl) <| Run.nil _,
      fun hkept => ?_⟩
    have hsent : (⟨11, ⟨1, "lload A1".toList⟩, 4, none⟩ : Envelope) ∈ sentIn forgotten := by
      decide +kernel
    have hrequest : Request "lload A1".toList := Or.inl (by decide)
    rcases hkept.answered _ hsent (by decide) hrequest with ⟨hin, _⟩ | ⟨_, hone, _⟩
    · cases hin
    · have hnone : answersTo 4 forgotten = 0 := by decide +kernel
      rw [hnone] at hone
      cases hone

end Mhvtl
