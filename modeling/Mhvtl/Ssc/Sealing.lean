import Mhvtl.Ssc.Chronicle

/-!
# A write-protected cartridge

The write protection of a data cartridge is a flag among its attributes. A load turns the switch of
the drive on, no command turns it off, and until SET CAPACITY is sent the records stay as they are.
-/

namespace Mhvtl.Ssc

open Bytes Cart Store

/-- A data medium with the flag of its write protection. -/
structure Sealed (m : Mam) : Prop where
  /-- It keeps data. -/
  type : m.MediumType = MEDIA_TYPE_DATA
  /-- The second flag is set. -/
  flag : leNat (m.bytes .Flags) / 2 % 2 = 1

/-- Only the type and the flags tell. -/
theorem Sealed.of_bytes {m m' : Mam} (h : Sealed m) (htype : m'.MediumType = m.MediumType)
    (hflags : m'.bytes .Flags = m.bytes .Flags) : Sealed m' where
  type := htype.trans h.type
  flag := by
    rw [hflags]
    exact h.flag

/-- A load and an unload leave them. -/
theorem Sealed.of_label {m m' : Mam} (h : Sealed m) (hs : SameLabel m m') : Sealed m' :=
  h.of_bytes (congrArg (List.headD · 0) (hs .MediumType (by decide))) (hs .Flags (by decide))

/-- A write-protected cartridge is in the drive. -/
structure Guarded (M : Medium) (d : Drive) : Prop where
  /-- With its records. -/
  inside : InDrive M d
  /-- The flag is set. -/
  flag : Sealed d.cart.mam
  /-- So is the switch. -/
  switch : d.MediaWriteProtect = true

/-- A write-protected cartridge is in the drive or in front of it. -/
def KeepsSealed (M : Medium) (d : Drive) : Prop :=
  (∃ m, OnShelf M m d ∧ Sealed m) ∨ Guarded M d

/-- What write protection does not outlast: SET CAPACITY, which does not ask for it, an attribute
that makes the medium another one, and a drive that neither reads nor writes nor refuses it. -/
def LifeEvent.Respects (d : Drive) : LifeEvent → Prop
  | .load P _ _ => ∀ t ∈ P.supported_media_list, t.2 &&& LOAD_RO ≠ 0 ∨ t.2 &&& LOAD_RW ≠ 0
  | .command c => c ≠ .set_capacity ∧ ∀ cdb buf found, c = .write_attributes cdb buf found →
      (ssc_write_attributes d cdb buf found).cart.mam.MediumType = d.cart.mam.MediumType
  | _ => True

/-- An event that respects it. -/
def SealedStep (L : Libs) (s : Life) (e : LifeEvent) (s' : Life) : Prop :=
  e.Respects s.drive ∧ CleanStep L s e s'

/-- What tells write protection is the same. -/
structure SealKept (d d' : Drive) : Prop where
  /-- The type of the medium. -/
  type : d'.cart.mam.MediumType = d.cart.mam.MediumType
  /-- Its flags. -/
  flags : d'.cart.mam.bytes .Flags = d.cart.mam.bytes .Flags
  /-- The switch. -/
  switch : d'.MediaWriteProtect = d.MediaWriteProtect

namespace SealKept

variable {d d' : Drive}

/-- The attributes as a whole are. -/
theorem of_mam (hmam : d'.cart.mam = d.cart.mam) (hswitch : d'.MediaWriteProtect = d.MediaWriteProtect) :
    SealKept d d' :=
  ⟨congrArg Mam.MediumType hmam, congrArg (Mam.bytes · .Flags) hmam, hswitch⟩

/-- Settings of the drive, and the status. -/
theorem settings {st : Status} (hcart : d'.cart = { d.cart with status := st })
    (hswitch : d'.MediaWriteProtect = d.MediaWriteProtect) : SealKept d d' := by
  refine of_mam ?_ hswitch
  rw [hcart]

/-- Permission and status. -/
theorem alone (h : LeftAlone d d') : SealKept d d' := by
  obtain ⟨ok, st, rfl⟩ := h
  exact of_mam rfl rfl

/-- The head moves. -/
theorem moved {n : ℕ} {recs : ℕ → List Record} (h : HeadMoved n recs d d') : SealKept d d' := by
  obtain ⟨c, vcr, info, mbd, rm, ri, wm, wi, hd⟩ := h.eq
  refine of_mam h.tape.mam ?_
  rw [hd]

/-- The settings of MODE SELECT. -/
theorem outside (h : KeptOutside d d') : SealKept d d' := by
  obtain ⟨pages, bd, method, w, r, a, o, e, m, st, hm, rfl⟩ := h
  exact ⟨congrArg (List.headD · 0) (hm .MediumType (by decide)), hm .Flags (by decide), rfl⟩

end SealKept

section Guards

variable {L : Libs} {M : Medium} {d d' : Drive}

/-- Nothing may be written. -/
theorem Guarded.not_mayWrite (h : Guarded M d) {ok : Bool} (hcheck : check_restrictions d = some (ok, d')) :
    ok = false := by
  have htype : d.declare_ssc_vars.cart.mam.MediumType = MEDIA_TYPE_DATA := h.flag.type
  have hswitch : d.declare_ssc_vars.MediaWriteProtect = true := h.switch
  have hnull : ¬MEDIA_TYPE_DATA = MEDIA_TYPE_NULL := by decide
  have hclean : ¬MEDIA_TYPE_DATA = MEDIA_TYPE_CLEAN := by decide
  have hworm : ¬MEDIA_TYPE_DATA = MEDIA_TYPE_WORM := by decide
  unfold check_restrictions at hcheck
  simp only [htype, hnull, hclean, hworm, if_false, if_true] at hcheck
  split at hcheck
  · cases hcheck
  split at hcheck
  · cases hcheck
    rfl
  split at hcheck
  · cases hcheck
    rfl
  split at hcheck
  · cases hcheck
    rfl
  · simp only [Drive.onCart, hswitch, and_self, if_true] at hcheck
    cases hcheck
    rfl

/-- The check of a command that writes, and its refusal. -/
theorem Guarded.refused (h : Guarded M d) {ok : Bool} (hcheck : check_restrictions d = some (ok, d')) :
    ok = false ∧ LeftAlone d (d'.returns SAM_STAT_CHECK_CONDITION) :=
  ⟨h.not_mayWrite hcheck, (check_restrictions_alone hcheck).trans (LeftAlone.returns _ _)⟩

/-- WRITE ATTRIBUTE sets no flag and no switch. -/
theorem write_attributes_seal (d : Drive) (cdb : Cdb) (buf : ℕ → UInt8) (found : Bool) :
    (ssc_write_attributes d cdb buf found).cart.mam.bytes .Flags = d.cart.mam.bytes .Flags ∧
      (ssc_write_attributes d cdb buf found).MediaWriteProtect = d.MediaWriteProtect := by
  unfold ssc_write_attributes
  dsimp only
  split
  · exact ⟨rfl, rfl⟩
  split
  · exact ⟨rfl, rfl⟩
  · unfold resp_write_attribute
    dsimp only
    split
    · exact ⟨rfl, rfl⟩
    · rename_i m htake
      have hflags : m.bytes .Flags = d.cart.mam.bytes .Flags :=
        takeAttributes_other (by decide) (by decide) htake
      split
      · exact ⟨hflags, rfl⟩
      · refine ⟨?_, rfl⟩
        change (Store.rewriteMAM _).2.mam.bytes _ = _
        rw [Store.rewriteMAM_mam]
        exact hflags

/-- Commands that set settings of the drive leave the switch. -/
theorem settings_switch (d : Drive) (cdb : Cdb) :
    (ssc_allow_overwrite d cdb).MediaWriteProtect = d.MediaWriteProtect ∧
      (ssc_log_select d cdb).MediaWriteProtect = d.MediaWriteProtect := by
  constructor
  · unfold ssc_allow_overwrite
    dsimp only
    split_ifs <;> rfl
  · unfold ssc_log_select
    dsimp only
    cases spc_log_select cdb with
    | some st => rfl
    | none =>
      dsimp only
      split_ifs <;> rfl

/-- So does SECURITY PROTOCOL OUT. -/
theorem spout_switch {upd : List ModePage → ℕ → List ModePage} {cdb : Cdb} {buf : ℕ → UInt8}
    (hrun : ssc_spout upd d cdb buf = some d') : d'.MediaWriteProtect = d.MediaWriteProtect := by
  unfold ssc_spout resp_spout at hrun
  dsimp only at hrun
  split at hrun
  · cases hrun
    rfl
  split at hrun
  · cases hrun
    rfl
  split at hrun
  · cases hrun
  split at hrun
  · cases hrun
    rfl
  · cases hrun
    rfl

/-- LOCATE moves the head. -/
theorem locate_seal {cdb : Cdb} (hrun : ssc_locate d cdb = some d') : SealKept d d' := by
  unfold ssc_locate at hrun
  dsimp only at hrun
  split at hrun
  · cases hrun
    exact .of_mam rfl rfl
  split at hrun
  · cases hrun
    exact .of_mam rfl rfl
  split at hrun
  · cases hrun
    exact .of_mam rfl rfl
  split at hrun
  · cases hrun
  · cases hrun
    exact .of_mam ((SameAttrs.change_partition _ _).trans (SameAttrs.position_to_block _ _)).mam rfl

/-- No command changes what tells write protection, but SET CAPACITY and an attribute. -/
theorem Guarded.seal {c : MediumCommand} (h : Guarded M d) (hset : c ≠ .set_capacity)
    (hattrs : ∀ cdb buf found, c = .write_attributes cdb buf found →
      (ssc_write_attributes d cdb buf found).cart.mam.MediumType = d.cart.mam.MediumType)
    (hrun : c.run L d = some d') : SealKept d d' := by
  have hm := h.inside.mounted
  cases c with
  | read_6 cdb =>
    obtain ⟨⟨bs, e⟩, hr, rfl⟩ := Option.map_eq_some_iff.mp hrun
    exact .moved (ssc_read_6_moves hm hr)
  | verify_6 cdb => exact .moved (ssc_verify_6_moves hm hrun)
  | write_6 cdb data =>
    change ssc_write_6 L d cdb data = some d' at hrun
    unfold ssc_write_6 at hrun
    dsimp only at hrun
    rw [check_restrictions_declared] at hrun
    cases hcheck : check_restrictions d with
    | none =>
      rw [hcheck] at hrun
      cases hrun
    | some res =>
      obtain ⟨allowed, e⟩ := res
      obtain ⟨rfl, halone⟩ := h.refused hcheck
      rw [hcheck] at hrun
      cases hrun
      exact .alone halone
  | rewind =>
    obtain rfl := Option.some.inj hrun
    exact .moved (ssc_rewind_moves hm)
  | space_6 cdb =>
    obtain rfl := Option.some.inj hrun
    exact .moved (space_moves hm _ _)
  | space_16 cdb =>
    obtain rfl := Option.some.inj hrun
    exact .moved (space_moves hm _ _)
  | locate cdb => exact locate_seal hrun
  | allow_overwrite cdb =>
    obtain rfl := Option.some.inj hrun
    obtain ⟨st, hst⟩ := allow_overwrite_cart d cdb
    exact .settings hst (settings_switch d cdb).1
  | write_filemarks cdb =>
    change ssc_write_filemarks L d cdb = some d' at hrun
    unfold ssc_write_filemarks at hrun
    dsimp only at hrun
    rw [check_restrictions_declared] at hrun
    cases hcheck : check_restrictions d with
    | none =>
      rw [hcheck] at hrun
      cases hrun
    | some res =>
      obtain ⟨allowed, e⟩ := res
      obtain ⟨rfl, halone⟩ := h.refused hcheck
      have htype : e.cart.mam.MediumType = MEDIA_TYPE_DATA :=
        (check_restrictions_beside hcheck).type.trans h.flag.type
      have hworm : ¬MEDIA_TYPE_DATA = MEDIA_TYPE_WORM := by decide
      rw [hcheck] at hrun
      simp only [htype, hworm, false_and, not_false_eq_true, Bool.not_false, and_self, if_true] at hrun
      cases hrun
      exact .alone halone
  | erase =>
    change ssc_erase d = some d' at hrun
    unfold ssc_erase at hrun
    dsimp only at hrun
    rw [check_restrictions_declared] at hrun
    cases hcheck : check_restrictions d with
    | none =>
      rw [hcheck] at hrun
      cases hrun
    | some res =>
      obtain ⟨allowed, e⟩ := res
      obtain ⟨rfl, halone⟩ := h.refused hcheck
      rw [hcheck] at hrun
      cases hrun
      exact .alone halone
  | format_medium cdb =>
    change ssc_format_medium L d cdb = some d' at hrun
    unfold ssc_format_medium at hrun
    dsimp only at hrun
    rw [check_restrictions_declared] at hrun
    cases hcheck : check_restrictions d with
    | none =>
      rw [hcheck] at hrun
      cases hrun
    | some res =>
      obtain ⟨allowed, e⟩ := res
      obtain ⟨rfl, halone⟩ := h.refused hcheck
      rw [hcheck] at hrun
      cases hrun
      exact .alone halone
  | set_capacity => exact absurd rfl hset
  | mode_select cdb buf =>
    obtain ⟨r, hr, rfl⟩ := Option.map_eq_some_iff.mp hrun
    exact .outside (mode_select_outside hr)
  | log_select cdb =>
    obtain rfl := Option.some.inj hrun
    obtain ⟨st, hst⟩ := log_select_cart d cdb
    exact .settings hst (settings_switch d cdb).2
  | write_attributes cdb buf found =>
    obtain rfl := Option.some.inj hrun
    obtain ⟨hflags, hswitch⟩ := write_attributes_seal d cdb buf found
    exact ⟨hattrs cdb buf found rfl, hflags, hswitch⟩
  | security_protocol_out upd cdb buf =>
    obtain ⟨st, hst⟩ := spout_cart hrun
    exact .settings hst (spout_switch hrun)
  | other st =>
    obtain rfl := Option.some.inj hrun
    exact .of_mam rfl rfl

/-- A write-protected cartridge stays so, and keeps its records. -/
theorem Guarded.command {c : MediumCommand} (h : Guarded M d) (hclean : c.Clean d)
    (hset : c ≠ .set_capacity)
    (hattrs : ∀ cdb buf found, c = .write_attributes cdb buf found →
      (ssc_write_attributes d cdb buf found).cart.mam.MediumType = d.cart.mam.MediumType)
    (hrun : c.run L d = some d') : Guarded M d' := by
  have hsame := h.seal hset hattrs hrun
  obtain ⟨M', hin, halters⟩ := h.inside.command hclean hrun
  have hno : ¬MayWrite d := fun ⟨e, he⟩ => Bool.false_ne_true (h.not_mayWrite he).symm
  have hsameM : M' = M := by
    cases halters with
    | keeps => rfl
    | write_6 allowed => exact absurd allowed hno
    | write_filemarks allowed =>
      rcases allowed with hmay | ⟨hworm, -⟩
      · exact absurd hmay hno
      · rw [h.flag.type] at hworm
        cases hworm
    | erase allowed => exact absurd allowed hno
    | format_medium allowed => exact absurd allowed hno
    | set_capacity => exact absurd rfl hset
  subst hsameM
  exact ⟨hin, h.flag.of_bytes hsame.type hsame.flags, hsame.switch.trans h.switch⟩

/-- A drive that reads or writes the medium turns the switch on. -/
theorem mountByCapability_switch {e : Drive} {load_capability : UInt8} (h : Sealed d.cart.mam)
    (hcap : load_capability &&& LOAD_RO ≠ 0 ∨ load_capability &&& LOAD_RW ≠ 0)
    (hrun : mountByCapability d load_capability = some e) : e.MediaWriteProtect = true := by
  have hworm : ¬MEDIA_TYPE_DATA = MEDIA_TYPE_WORM := by decide
  unfold mountByCapability at hrun
  simp only [h.type, hworm, if_false, if_true] at hrun
  split at hrun
  · cases hrun
    rfl
  rename_i hro
  rw [if_pos (hcap.resolve_left hro)] at hrun
  cases hrun
  exact decide_eq_true h.flag

/-- A write-protected cartridge that is taken in is guarded. -/
theorem OnShelf.load_guarded {m : Mam} {P : LoadRules} {bypass_error_check : Bool} {delay_load : ℕ}
    (h : OnShelf M m d) (hseal : Sealed m)
    (hcaps : ∀ t ∈ P.supported_media_list, t.2 &&& LOAD_RO ≠ 0 ∨ t.2 &&& LOAD_RW ≠ 0)
    (hrun : loadTape P L d ⟨d.cart.dir, bypass_error_check, delay_load⟩ = some (0, d')) :
    Guarded M d' := by
  obtain ⟨hin, hlabel⟩ := h.load_taken hrun
  refine ⟨hin, hseal.of_label hlabel, ?_⟩
  obtain ⟨c, hload, hfront⟩ := h.presented P bypass_error_check
  obtain ⟨e, f, g, t, he, htype, hcap, hmem, -, hswitch, -⟩ := loadTape_taken hload hrun
  have hf := ((hfront e he).1.mountByType htype).mam
  have hentered : (updateMAM P f true).cart.mam = loadMam P f.cart.mam := Store.rewriteMAM_mam _
  have hsealed : Sealed (updateMAM P f true).cart.mam := by
    rw [hentered]
    refine hseal.of_label fun k hk => ?_
    have hload' : k ∉ loadFields := fun hmem => hk (List.mem_append_left _ hmem)
    have hnum : k ≠ .num_partitions := by
      rintro rfl
      exact hload' (by decide)
    exact (loadMam_other P f.cart.mam hload').trans (hf.bytes k hnum)
  rw [hswitch]
  exact mountByCapability_switch hsealed (hcaps t hmem) hcap

end Guards

section Histories

variable {L : Libs} {M : Medium} {s s' : Life}

/-- Every event that respects write protection keeps it, and the records. -/
theorem LifeEvent.sealed {e : LifeEvent} (h : KeepsSealed M s.drive) (hrespects : e.Respects s.drive)
    (hclean : e.Clean s.drive) (hrun : e.run L s = some s') : KeepsSealed M s'.drive := by
  cases e with
  | load P bypass_error_check delay_load =>
    change (if s.drive.load_status ≠ TAPE_UNLOADED then none else Option.map _ _) = _ at hrun
    split at hrun
    · cases hrun
    · rename_i hout
      obtain ⟨⟨rc, d⟩, hload, rfl⟩ := Option.map_eq_some_iff.mp hrun
      rcases h with ⟨m, hshelf, hseal⟩ | hin
      · by_cases hrc : rc = 0
        · subst hrc
          exact Or.inr (hshelf.load_guarded hseal hrespects hload)
        · obtain ⟨m', hback, hlabel⟩ := hshelf.load_refused hload hrc
          exact Or.inl ⟨m', hback, hseal.of_label hlabel⟩
      · exact absurd hin.inside.ne_unloaded hout
  | finish_mount =>
    obtain rfl := Option.some.inj hrun
    change KeepsSealed M (Ssc.finish_mount s.drive)
    rcases h with ⟨m, hshelf, hseal⟩ | hin
    · rw [hshelf.finish_mount]
      exact Or.inl ⟨m, hshelf, hseal⟩
    · refine Or.inr ⟨hin.inside.finish_mount, ?_, ?_⟩
      · unfold Ssc.finish_mount
        split <;> exact hin.flag
      · unfold Ssc.finish_mount
        split <;> exact hin.switch
  | unload P =>
    obtain ⟨d, hunload, rfl⟩ := Option.map_eq_some_iff.mp hrun
    rw [Life.goes_drive]
    rcases h with ⟨m, hshelf, hseal⟩ | hin
    · exact Or.inl ⟨m, hshelf.unload hunload, hseal⟩
    · refine Or.inl ⟨_, hin.inside.unload (hclean hin.inside.ne_unloaded) hunload, ?_⟩
      exact hin.flag.of_label fun k hk => unloadMam_other _ _ _ fun hmem => hk (List.mem_append_right _ hmem)
  | load_unload P cdb barcode stale =>
    obtain ⟨d, hunload, rfl⟩ := Option.map_eq_some_iff.mp hrun
    rw [Life.goes_drive]
    rcases h with ⟨m, hshelf, hseal⟩ | hin
    · obtain rfl := hclean hshelf.vacant.load_status
      exact Or.inl ⟨m, hshelf.load_unload hunload, hseal⟩
    · rcases hin.inside.load_unload hunload with ⟨m, hshelf, hlabel⟩ | ⟨hstays, hmam, hswitch⟩
      · exact Or.inl ⟨m, hshelf, hin.flag.of_label hlabel⟩
      · refine Or.inr ⟨hstays, ?_, hswitch.trans hin.switch⟩
        rw [hmam]
        exact hin.flag
  | command c =>
    obtain ⟨d, hcommand, rfl⟩ := Option.map_eq_some_iff.mp hrun
    obtain ⟨hc, hlocate⟩ := hclean
    rcases h with ⟨m, hshelf, hseal⟩ | hin
    · exact Or.inl ⟨m, hshelf.command (hlocate hshelf.vacant.load_status) hcommand, hseal⟩
    · exact Or.inr (hin.command hc hrespects.1 hrespects.2 hcommand)
  | elsewhere e =>
    change (if s.drive.load_status ≠ TAPE_UNLOADED ∨ e.load_status ≠ TAPE_UNLOADED then none
      else some _) = _ at hrun
    split at hrun
    · cases hrun
    · rename_i hno
      obtain rfl := Option.some.inj hrun
      obtain ⟨hv, hspare, hfile⟩ := hclean
      rcases h with ⟨m, hshelf, hseal⟩ | hin
      · exact Or.inl ⟨m, hshelf.elsewhere hv hspare hfile, hseal⟩
      · exact absurd (Or.inl hin.inside.ne_unloaded) hno

/-- A write-protected cartridge keeps its records, through every load, whatever is written to it. -/
theorem sealed_untouched {es : List LifeEvent} (h : KeepsSealed M s.drive)
    (hrun : Run (SealedStep L) s es s') : KeepsSealed M s'.drive :=
  Run.invariant (I := fun t : Life => KeepsSealed M t.drive)
    (fun _ _ _ hkeeps hstep => LifeEvent.sealed hkeeps hstep.1 hstep.2.1 hstep.2.2) hrun h

end Histories

section Examples

/-- Attributes of the new cartridge with its write protection. -/
def sealedMam : Mam := newMam.put .Flags [2, 0]

/-- It is in front of the drive of the new cartridge. -/
def sealedLife : Life := { newLife with
  drive := { newLife.drive with
    cart := { newLife.drive.cart with
      dir := { newLife.drive.cart.dir with
        mam := some (mamImage sealedMam), mhvtl_data := some (mhvtlImage sealedMam) } } } }

/-- It is loaded. -/
def sealedLoaded : Life := (LifeEvent.run storedLibs sealedLife (.load anyRules true 0)).getD sealedLife

/-- A block is sent to it. -/
def sealedWritten : Life :=
  (LifeEvent.run storedLibs sealedLoaded (.command (.write_6 (writeCdb 1) fun _ => 7))).getD sealedLoaded

/-- The block is refused. -/
theorem sealed_untouched_written : KeepsSealed (Medium.blank 1) sealedWritten.drive := by
  have hsealed : Sealed sealedMam := by
    constructor <;> decide +kernel
  have hshelf : OnShelf (Medium.blank 1) sealedMam sealedLife.drive := by
    refine ⟨⟨rfl, fun _ _ => rfl, rfl⟩, fun _ _ => ⟨rfl, rfl⟩, rfl, newRequest_stored ⟨rfl, rfl⟩,
      newRequest_shelved sealedMam, ?_⟩
    decide +kernel
  have hload : (LifeEvent.run storedLibs sealedLife (.load anyRules true 0)).isSome = true := by
    decide +kernel
  have hin : sealedLoaded.drive.load_status = TAPE_LOADED := by decide +kernel
  have hwrite : (LifeEvent.run storedLibs sealedLoaded
      (.command (.write_6 (writeCdb 1) fun _ => 7))).isSome = true := by decide +kernel
  have hcaps : ∀ t ∈ anyRules.supported_media_list, t.2 &&& LOAD_RO ≠ 0 ∨ t.2 &&& LOAD_RW ≠ 0 := by
    intro t ht
    obtain rfl : t = (0, LOAD_RW) := List.mem_singleton.mp ht
    exact Or.inr (by decide)
  have hstep : ∀ {s : Life} {e : LifeEvent}, (e.run storedLibs s).isSome = true →
      LifeStep storedLibs s e ((e.run storedLibs s).getD s) := by
    intro s e h
    obtain ⟨s', hs'⟩ := Option.isSome_iff_exists.mp h
    rw [LifeStep, hs', Option.getD_some]
  have hloaded : SealedStep storedLibs sealedLife (.load anyRules true 0) sealedLoaded :=
    ⟨hcaps, trivial, hstep hload⟩
  have hwritten : SealedStep storedLibs sealedLoaded (.command (.write_6 (writeCdb 1) fun _ => 7))
      sealedWritten := by
    refine ⟨⟨fun hno => ?_, fun _ _ _ hno => ?_⟩, ⟨trivial, fun hout => ?_⟩, hstep hwrite⟩
    · cases hno
    · cases hno
    · rw [hin] at hout
      cases hout
  exact sealed_untouched (Or.inl ⟨sealedMam, hshelf, hsealed⟩)
    (Run.cons hloaded (Run.cons hwritten (Run.nil _)))

end Examples

end Mhvtl.Ssc
