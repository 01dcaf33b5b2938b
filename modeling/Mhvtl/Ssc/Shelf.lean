import Mhvtl.Ssc.Altering
import Mhvtl.Ssc.RefusedLoad

/-!
# A cartridge on its way in and out

A cartridge that was taken out keeps its records in its files, whatever is asked of the empty
drive; a load finds them again or leaves them there, and an unload puts them back.
-/

namespace Mhvtl.Ssc

open Bytes Cart Store

/-- A cartridge with the records of `M` and the attributes `m` is in front of the drive. -/
structure OnShelf (M : Medium) (m : Mam) (d : Drive) : Prop where
  /-- The drive is empty. -/
  vacant : Vacant d
  /-- So are its arrays. -/
  spare : Spare 0 d.cart
  /-- The attribute file is closed. -/
  mamfile : d.cart.mamfile = false
  /-- The attributes are in the files. -/
  stored : Stored d.cart.dir m
  /-- The records are. -/
  shelved : Shelved M.n d.cart.dir (m.MediumType ≠ MEDIA_TYPE_NULL) M.recs
  /-- The medium may have as many partitions. -/
  le_max : M.n ≤ (media_max_partitions (m.byte .MediaType)).toNat

section Empty

variable {M : Medium} {m : Mam} {d d' : Drive} {cdb : Cdb}

/-- Nothing happened to the files. -/
theorem OnShelf.beside (h : OnShelf M m d) (hload : d'.load_status = d.load_status)
    (ht : SameTape d.cart d'.cart) (hl : LifeKept d.cart d'.cart) : OnShelf M m d' := by
  obtain ⟨hmam, hmhvtl⟩ := hl.closed h.mamfile
  have hfile : ∀ k q, d'.cart.dir.file k q = d.cart.dir.file k q :=
    fun k q => congrFun (congrArg PartView.file (ht.part q)) k
  have hs := h.shelved
  refine ⟨⟨hload.trans h.vacant.load_status, fun k q => ?_, ht.io h.vacant.io⟩,
    h.spare.of_part fun q _ => ht.part q, hl.files.1.trans h.mamfile,
    ⟨hmam.trans h.stored.mam, hmhvtl.trans h.stored.mhvtl_data, h.stored.versions⟩, ?_, h.le_max⟩
  · rw [ht.fd]
    exact h.vacant.closed k q
  · refine ⟨hs.n_pos, hs.n_le, fun q hq => ?_, fun q hq k => (hfile k q).trans (hs.absent q hq k),
      hs.bound, hs.map, hs.blocks⟩
    have hsame : (d'.cart.dir.file · q) = (d.cart.dir.file · q) := funext fun k => hfile k q
    rw [hsame]
    exact hs.kept q hq

/-- The head of an empty drive does not move. -/
theorem tape_loaded_closed {c : Store} (h : ∀ k q, c.fd k q = false) :
    c.tape_loaded = (false, { c with status := sam_not_ready E_MEDIUM_NOT_PRESENT }) := by
  simp only [Store.tape_loaded, h, Bool.false_eq_true, if_false]

/-- SPACE finds no tape. -/
theorem resp_space_closed (h : ∀ k q, d.cart.fd k q = false) (count : ℤ) (code : ℕ) :
    ∃ st, resp_space d count code = d.report st := by
  have hnone := tape_loaded_closed h
  have hreport : ∀ f : Store → Store,
      f d.cart = { d.cart with status := sam_not_ready E_MEDIUM_NOT_PRESENT } →
      ∃ st, d.onCart f = d.report st := by
    intro f hf
    refine ⟨sam_not_ready E_MEDIUM_NOT_PRESENT, ?_⟩
    rw [Drive.onCart, hf]
    rfl
  unfold resp_space
  split
  · split
    · exact hreport _ (by simp only [position_blocks_forw, hnone, Bool.not_false, if_true])
    · exact hreport _ (by simp only [position_blocks_back, hnone, Bool.not_false, if_true])
  split
  · split
    · exact hreport _ (by simp only [position_filemarks_forw, hnone, Bool.not_false, if_true])
    · exact hreport _ (by simp only [position_filemarks_back, hnone, Bool.not_false, if_true])
  split
  · exact hreport _ (by simp only [position_to_eod, hnone, Bool.not_false, if_true])
  · exact ⟨_, rfl⟩

/-- Neither do filemarks. -/
theorem write_filemarks_closed {c : Store} (h : ∀ k q, c.fd k q = false) (count : ℕ) :
    SameTape c (c.write_filemarks count).2 := by
  have hnone := tape_loaded_closed h
  simp only [Store.write_filemarks, hnone, Bool.not_false, if_true]
  exact SameTape.of_mam c c.mam c.OK_to_write _

/-- An empty drive may not write. -/
theorem check_restrictions_empty {ok : Bool} (h : d.load_status = TAPE_UNLOADED)
    (hcheck : check_restrictions d = some (ok, d')) : ok = false := by
  have hloading : ¬TAPE_UNLOADED = TAPE_LOADING := by decide
  have hload : d.declare_ssc_vars.load_status = TAPE_UNLOADED := h
  simp only [check_restrictions, hload, hloading, if_false, if_true] at hcheck
  split at hcheck
  · cases hcheck
  · cases hcheck
    rfl

namespace OnShelf

/-- Sense data. -/
theorem report (h : OnShelf M m d) (st : Status) : OnShelf M m (d.report st) :=
  h.beside rfl (Beside.report d st).tape (LifeKept.of_same ⟨rfl, rfl, rfl, rfl, rfl⟩)

/-- The status byte. -/
theorem returns (h : OnShelf M m d) (sam_stat : ℕ) : OnShelf M m (d.returns sam_stat) := h.report _

/-- A command that counts nothing. -/
theorem counted (h : OnShelf M m d) (hc : Counted 0 0 d d') (ht : SameTape d.cart d'.cart) : OnShelf M m d' :=
  h.beside hc.load_status ht hc.attrs

/-- The check of a command that writes. -/
theorem checked (h : OnShelf M m d) {ok : Bool} (hcheck : Ssc.check_restrictions d = some (ok, d')) :
    ok = false ∧ OnShelf M m d' :=
  ⟨check_restrictions_empty h.vacant.load_status hcheck,
    h.counted (counted_check_restrictions hcheck) (check_restrictions_beside hcheck).tape⟩

/-- The work of READ and VERIFY. -/
theorem complete_read_6 {L : Libs} {sz count : ℕ} {bs : List UInt8} (h : OnShelf M m d)
    (hrun : Ssc.complete_read_6 L d cdb sz count = some (bs, d')) : OnShelf M m d' := by
  have hload : d.declare_ssc_vars.load_status = TAPE_UNLOADED := h.vacant.load_status
  have hloading : ¬TAPE_UNLOADED = TAPE_LOADING := by decide
  have hloaded : ¬TAPE_UNLOADED = TAPE_LOADED := by decide
  simp only [Ssc.complete_read_6, hload, if_neg hloading, if_neg hloaded, if_true] at hrun
  cases hrun
  exact (h.returns _).report _

/-- SPACE. -/
theorem resp_space (h : OnShelf M m d) (count : ℤ) (code : ℕ) : OnShelf M m (Ssc.resp_space d count code) := by
  obtain ⟨st, hst⟩ := resp_space_closed h.vacant.closed count code
  rw [hst]
  exact h.report st

/-- SPACE behind the fields of its command block. -/
theorem space (h : OnShelf M m d) (icount : ℤ) (code : ℕ) : OnShelf M m (Ssc.space d icount code) := by
  have hstart : OnShelf M m d.declare_ssc_vars := h.returns _
  unfold Ssc.space
  dsimp only
  split
  · exact hstart.report _
  split
  · exact hstart.resp_space _ _
  · exact hstart

/-- A command that writes is refused, but for one that writes no filemarks. -/
theorem write_filemarks {L : Libs} (h : OnShelf M m d) (hrun : ssc_write_filemarks L d cdb = some d') :
    OnShelf M m d' := by
  refine h.counted (counted_ssc_write_filemarks hrun) ?_
  unfold ssc_write_filemarks at hrun
  dsimp only at hrun
  rw [check_restrictions_declared] at hrun
  cases hcheck : check_restrictions d with
  | none =>
    rw [hcheck] at hrun
    cases hrun
  | some res =>
    obtain ⟨allowed, e⟩ := res
    rw [hcheck] at hrun
    have he := (check_restrictions_beside hcheck).tape
    dsimp only at hrun
    split at hrun
    · cases hrun
      exact he.trans (Beside.returns e _).tape
    generalize hvcr : (if be24 cdb 2 ≠ 0 then update_volume_change_reference e else e) = v at hrun
    generalize hwrite : (v.onCart fun c => (c.write_filemarks (be24 cdb 2)).2) = w at hrun
    have hv : SameTape d.cart v.cart := by
      rw [← hvcr]
      split
      · exact he.trans (update_volume_change_reference_beside e).tape
      · exact he
    have hclosed : ∀ k q, v.cart.fd k q = false := by
      rw [hv.fd]
      exact h.vacant.closed
    have hw : SameTape d.cart w.cart := by
      rw [← hwrite]
      exact hv.trans (write_filemarks_closed hclosed _)
    split at hrun
    · cases hrun
      exact hw
    split at hrun
    · cases hrun
    · split at hrun
      · cases hrun
        exact hw.trans ((Noted.remaining w 0).beside.trans (Beside.report _ _)).tape
      · cases hrun
        exact hw

/-- What an empty drive is asked leaves the cartridge alone. LOCATE would open its files. -/
theorem command {L : Libs} {c : MediumCommand} (h : OnShelf M m d) (hlocate : ∀ cdb, c ≠ .locate cdb)
    (hrun : c.run L d = some d') : OnShelf M m d' := by
  have hstart : OnShelf M m d.declare_ssc_vars := h.returns _
  cases c with
  | read_6 cdb =>
    obtain ⟨⟨bs, e⟩, hr, rfl⟩ := Option.map_eq_some_iff.mp hrun
    unfold ssc_read_6 at hr
    dsimp only at hr
    split at hr
    · cases hr
      exact hstart.report _
    · exact hstart.complete_read_6 hr
  | verify_6 cdb =>
    change ssc_verify_6 L d cdb = some d' at hrun
    unfold ssc_verify_6 at hrun
    dsimp only at hrun
    split at hrun
    · cases hrun
      exact hstart.report _
    split at hrun
    · cases hrun
      exact hstart.resp_space _ _
    · obtain ⟨⟨bs, e⟩, hr, rfl⟩ := Option.map_eq_some_iff.mp hrun
      exact hstart.complete_read_6 hr
  | write_6 cdb data =>
    change ssc_write_6 L d cdb data = some d' at hrun
    unfold ssc_write_6 at hrun
    dsimp only at hrun
    rw [check_restrictions_declared] at hrun
    cases hcheck : check_restrictions d with
    | none =>
      rw [hcheck] at hrun
      cases hrun
    | some res =>
      obtain ⟨allowed, e⟩ := res
      obtain ⟨rfl, he⟩ := h.checked hcheck
      rw [hcheck] at hrun
      cases hrun
      exact he.returns _
  | rewind =>
    obtain rfl := Option.some.inj hrun
    have hload : d.declare_ssc_vars.load_status = TAPE_UNLOADED := h.vacant.load_status
    simp only [ssc_rewind, hload, if_true]
    exact hstart.report _
  | space_6 cdb =>
    obtain rfl := Option.some.inj hrun
    exact h.space _ _
  | space_16 cdb =>
    obtain rfl := Option.some.inj hrun
    exact h.space _ _
  | locate cdb => exact absurd rfl (hlocate cdb)
  | allow_overwrite cdb =>
    obtain rfl := Option.some.inj hrun
    obtain ⟨st, hst⟩ := allow_overwrite_cart d cdb
    refine h.counted (counted_ssc_allow_overwrite d cdb) ?_
    rw [hst]
    exact SameTape.of_mam d.cart d.cart.mam d.cart.OK_to_write st
  | write_filemarks cdb => exact h.write_filemarks hrun
  | erase =>
    change ssc_erase d = some d' at hrun
    unfold ssc_erase at hrun
    dsimp only at hrun
    rw [check_restrictions_declared] at hrun
    cases hcheck : check_restrictions d with
    | none =>
      rw [hcheck] at hrun
      cases hrun
    | some res =>
      obtain ⟨allowed, e⟩ := res
      obtain ⟨rfl, he⟩ := h.checked hcheck
      rw [hcheck] at hrun
      cases hrun
      exact he.returns _
  | format_medium cdb =>
    change ssc_format_medium L d cdb = some d' at hrun
    unfold ssc_format_medium at hrun
    dsimp only at hrun
    rw [check_restrictions_declared] at hrun
    cases hcheck : check_restrictions d with
    | none =>
      rw [hcheck] at hrun
      cases hrun
    | some res =>
      obtain ⟨allowed, e⟩ := res
      obtain ⟨rfl, he⟩ := h.checked hcheck
      rw [hcheck] at hrun
      cases hrun
      exact he.returns _
  | set_capacity =>
    have hno : ¬CapacityAccepted d := by
      rintro ⟨-, hload⟩
      rw [h.vacant.load_status] at hload
      cases hload
    obtain ⟨e, he, ok, st, rfl⟩ := ssc_set_capacity_rejected hno
    obtain rfl := Option.some.inj (he.symm.trans hrun)
    exact h.beside rfl (SameTape.of_mam d.cart d.cart.mam ok st)
      (LifeKept.of_same ⟨rfl, rfl, rfl, rfl, rfl⟩)
  | mode_select cdb buf =>
    obtain ⟨r, hr, rfl⟩ := Option.map_eq_some_iff.mp hrun
    obtain ⟨m, st, hcart, -⟩ := (mode_select_outside hr).cart
    refine h.counted (counted_ssc_mode_select hr) ?_
    rw [hcart]
    exact SameTape.of_mam d.cart m d.cart.OK_to_write st
  | log_select cdb =>
    obtain rfl := Option.some.inj hrun
    obtain ⟨hkept, hload, -⟩ := ssc_log_select_kept d cdb
    obtain ⟨st, hst⟩ := log_select_cart d cdb
    refine h.beside hload ?_ hkept
    rw [hst]
    exact SameTape.of_mam d.cart d.cart.mam d.cart.OK_to_write st
  | write_attributes cdb buf found =>
    obtain rfl := Option.some.inj hrun
    exact h.counted (counted_ssc_write_attributes d cdb buf found) (write_attributes_tape d cdb buf found).1
  | security_protocol_out upd cdb buf =>
    obtain ⟨st, hst⟩ := spout_cart hrun
    refine h.counted (counted_ssc_spout hrun) ?_
    rw [hst]
    exact SameTape.of_mam d.cart d.cart.mam d.cart.OK_to_write st
  | other st =>
    obtain rfl := Option.some.inj hrun
    exact h.report st

end OnShelf

end Empty

section Moved

variable {M : Medium} {d d' : Drive} {n : ℕ} {recs : ℕ → List Record} {P : LoadRules} {L : Libs}

/-- The head of a drive that is empty goes elsewhere, and nothing is opened. -/
theorem OnShelf.head (h : OnShelf M m d) (raw : RawHeader) (ok : Bool) (st : Status)
    {fd : FileKind → ℕ → Bool} (hfd : ∀ k q, fd k q = false) : OnShelf M m { d with
      cart := { d.cart with raw_pos := raw, OK_to_write := ok, status := st, fd := fd } } :=
  ⟨⟨h.vacant.load_status, hfd, h.vacant.io⟩, h.spare, h.mamfile, h.stored, h.shelved, h.le_max⟩

/-- A volume on its files is a cartridge that can be taken out. -/
theorem Mounted.shelved {c : Store} {keeps : Prop} (h : Mounted n c recs) (hn : 0 < n)
    (hmap : ∀ q < n, HEADER_SIZE + (filemarksOf (recs q)).length * 4 < 2 ^ 32)
    (hblocks : keeps → ∀ q < n, ∀ r ∈ recs q, r.kept) : Shelved n c.dir keeps recs where
  n_pos := hn
  n_le := h.n_le
  kept q hq := by
    have hrep := h.rep q hq
    exact ⟨_, hrep.indx, hrep.data, hrep.metaf, hrep.filemark_count⟩
  absent := h.absent
  bound := h.bound
  map := hmap
  blocks := hblocks

/-- A cartridge whose attributes are in its files is on the shelf once the store has let it go. -/
theorem OnShelf.of_unload {c b : Store} {m : Mam} (hm : Mounted M.n c M.recs)
    (hcount : c.mam.num_partitions = M.n) (hs : Shelved M.n c.dir (m.MediumType ≠ MEDIA_TYPE_NULL) M.recs)
    (hstored : Stored c.dir m) (hmax : M.n ≤ (media_max_partitions (m.byte .MediaType)).toNat)
    (hrun : c.unload_tape = some b) (hload : d.load_status = TAPE_UNLOADED) {ok : Bool}
    (hcart : d.cart = { b with OK_to_write := ok }) : OnShelf M m d := by
  obtain ⟨b', hb', hdir, hclosed, -, -, hio, hmamfile⟩ := unload_tape_ok hm hcount hs.n_pos
  obtain rfl := Option.some.inj (hb'.symm.trans hrun)
  refine ⟨⟨hload, ?_, ?_⟩, ?_, ?_, ?_, ?_, hmax⟩
  · rw [hcart]
    exact hclosed
  · rw [hcart]
    exact hio
  · have hspare : Spare 0 b' := Spare.unload_tape hrun
    rw [hcart]
    exact hspare
  · rw [hcart]
    exact hmamfile
  · rw [hcart]
    change Stored b'.dir m
    rwa [hdir]
  · rw [hcart]
    change Shelved M.n b'.dir _ M.recs
    rwa [hdir]

/-- The permission of a write-once medium moves the head only. -/
theorem wormPermission_elsewhere (h : Mounted n d.cart recs) :
    Elsewhere n recs d.cart (wormPermission d).cart := by
  have hsought := h.position_to_block 1
  unfold wormPermission
  split
  · exact h.permit true
  split
  · exact h.permit false
  · dsimp only
    split
    · exact hsought.trans (hsought.mounted.permit false)
    · have hset := hsought.trans
        (hsought.mounted.permit (decide ((d.cart.position_to_block 1).2.c_pos.blk_type = B_EOD)))
      exact hset.trans hset.mounted.rewind_tape

/-- So does the type of the medium. -/
theorem mountByType_elsewhere (h : Mounted n d.cart recs) (hrun : mountByType P d = some d') :
    Elsewhere n recs d.cart d'.cart := by
  have hset : ∀ (ok : Bool) (st : Status),
      Elsewhere n recs d.cart (((d.permit ok).clearWORM P).report st).cart := by
    intro ok st
    have hcart : ((d.permit ok).clearWORM P).cart = { d.cart with OK_to_write := ok } := by
      unfold Drive.clearWORM
      split <;> rfl
    have hpermit := h.permit ok
    rw [← hcart] at hpermit
    exact hpermit.trans (hpermit.mounted.report st)
  unfold mountByType at hrun
  dsimp only at hrun
  split at hrun
  · cases hrun
    exact hset true _
  split at hrun
  · cases hrun
    exact hset false _
  split at hrun
  · obtain ⟨f, -, rfl⟩ := Option.map_eq_some_iff.mp hrun
    exact wormPermission_elsewhere h
  split at hrun
  · cases hrun
    exact (h.permit true).trans ((h.permit true).mounted.report _)
  · cases hrun
    exact h.refl

/-- And what the drive can do with it. -/
theorem mountByCapability_elsewhere {load_capability : UInt8} (h : Mounted n d.cart recs)
    (hrun : mountByCapability d load_capability = some d') : Elsewhere n recs d.cart d'.cart := by
  unfold mountByCapability at hrun
  dsimp only at hrun
  split at hrun
  · split at hrun
    · cases hrun
      exact h.refl
    split at hrun
    · cases hrun
      exact h.permit false
    · cases hrun
  split at hrun
  · split at hrun
    · cases hrun
      exact h.permit false
    split at hrun
    · cases hrun
      exact h.permit _
    split at hrun
    · cases hrun
    · cases hrun
      exact h.refl
  split at hrun
  · cases hrun
    exact h.refl
  · cases hrun
    exact h.permit false

/-- The mode page of the partitions is read off the cartridge. -/
theorem update_medium_partition_page_left (h : update_medium_partition_page L d = some d') :
    d'.cart = d.cart ∧ d'.MediaWriteProtect = d.MediaWriteProtect := by
  have hstore : ∀ (num unit : ℕ) (ks : List ℕ) (a b : Drive),
      ks.foldlM (storeDescriptor L num unit) a = some b →
        b.cart = a.cart ∧ b.MediaWriteProtect = a.MediaWriteProtect := by
    intro num unit ks
    induction ks with
    | nil =>
      intro a b hl
      cases hl
      exact ⟨rfl, rfl⟩
    | cons k ks ih =>
      intro a b hl
      rw [List.foldlM_cons] at hl
      obtain ⟨e, he, hrest⟩ := Option.bind_eq_some_iff.mp hl
      have hnext := ih e b hrest
      unfold storeDescriptor at he
      split at he
      · cases he
      · cases he
        exact hnext
  unfold update_medium_partition_page at h
  split at h
  · cases h
    exact ⟨rfl, rfl⟩
  · dsimp only at h
    split at h
    · cases h
    · have hrest := hstore _ _ _ _ _ h
      exact hrest

end Moved

/-- Attributes that agree but for what loads and unloads set. -/
def SameLabel (m m' : Mam) : Prop := ∀ f ∉ loadFields ++ unloadFields, m'.bytes f = m.bytes f

section Loads

variable {M : Medium} {m : Mam} {d d' : Drive} {P : LoadRules} {L : Libs}

/-- The attributes of a load are entered, in memory and in the files. -/
theorem Presented.entered {n : ℕ} {recs : ℕ → List Record} {pcl : Dir}
    (h : Presented n recs pcl m d) :
    Presented n recs (updateMAM P d true).cart.dir (loadMam P d.cart.mam) (updateMAM P d true) ∧
      (updateMAM P d true).cart.mam = loadMam P d.cart.mam ∧
      SameTape d.cart (updateMAM P d true).cart := by
  have hmam : (updateMAM P d true).cart.mam = loadMam P d.cart.mam := Store.rewriteMAM_mam _
  have htape : SameTape d.cart (updateMAM P d true).cart :=
    (SameTape.of_mam d.cart (loadMam P d.cart.mam) d.cart.OK_to_write d.cart.status).trans
      (SameTape.rewriteMAM _)
  have hkept : LifeKept { d.cart with mam := loadMam P d.cart.mam } (updateMAM P d true).cart :=
    LifeKept.rewriteMAM _
  obtain ⟨p, i, hat⟩ := h.place
  refine ⟨⟨htape.mounted h.mounted, ⟨p, i, htape.at_pos hat⟩, rfl, ?_, ?_, ?_⟩, hmam, htape⟩
  · rw [hmam, (loadMam_partitions P d.cart.mam).1]
    exact h.count
  · rw [hmam]
    exact SameMedium.refl _
  · exact ⟨hkept.files.1.trans h.files.1, hkept.files.2.trans h.files.2⟩

/-- A cartridge that the drive has mounted: what it went through. -/
theorem loadTape_taken {r : LoadRequest} {c : Store}
    (hload : d.cart.load_tape P.updater r.pcl r.bypass_error_check = some (0, c))
    (hrun : loadTape P L d r = some (0, d')) :
    ∃ (e f g : Drive) (t : UInt8 × UInt8), e.cart = c.rewind_tape.2 ∧ mountByType P e = some f ∧
      mountByCapability (updateMAM P f true) t.2 = some g ∧ t ∈ P.supported_media_list ∧
      d'.cart = g.cart ∧ d'.MediaWriteProtect = g.MediaWriteProtect ∧
      (d'.load_status = TAPE_LOADING ∨ d'.load_status = TAPE_LOADED) := by
  have hmismatch : ∀ e : Drive, mismatchmedia P e ≠ some (0, d') := by
    intro e he
    obtain ⟨c, -, hrc⟩ := Option.map_eq_some_iff.mp he
    have hone : (1 : ℤ) = 0 := congrArg Prod.fst hrc
    exact absurd hone one_ne_zero
  unfold loadTape at hrun
  extract_lets d₀ at hrun
  have hload₀ : d₀.cart.load_tape P.updater r.pcl r.bypass_error_check = some (0, c) := hload
  split at hrun
  · cases hrun
  rename_i rc₁ c₁ hload₁
  obtain ⟨rfl, rfl⟩ := Prod.mk.inj (Option.some.inj (hload₁.symm.trans hload₀))
  extract_lets d₁ e at hrun
  rw [if_neg (not_not_intro rfl)] at hrun
  split at hrun
  · exact absurd hrun (hmismatch _)
  rename_i f htype
  extract_lets g at hrun
  split at hrun
  · exact absurd hrun (hmismatch _)
  rename_i load_capability hfind
  split at hrun
  · exact absurd hrun (hmismatch _)
  rename_i k hcapability
  extract_lets density k₁ k₂ at hrun
  obtain ⟨d'', hpage, hd'⟩ := Option.map_eq_some_iff.mp hrun
  obtain ⟨-, rfl⟩ := Prod.mk.inj hd'
  -- the record is taken apart first: compared as a whole, its store would be evaluated
  have hg : g.load_status = f.load_status := by
    simp only [g, updateMAM, if_true, Drive.onCart, Drive.setMam]
  have hk : k.load_status = TAPE_LOADING := by
    rw [(steady_mountByCapability hcapability).load_status, hg, (steady_mountByType htype).load_status]
    rfl
  have hk₂ : k₂.cart = k.cart ∧ k₂.MediaWriteProtect = k.MediaWriteProtect ∧
      (k₂.load_status = TAPE_LOADING ∨ k₂.load_status = TAPE_LOADED) := by
    have hmounted : finish_mount k₁ = { k₁ with load_status := TAPE_LOADED } := if_pos hk
    unfold k₂
    rw [hmounted]
    split
    · exact ⟨rfl, rfl, Or.inr rfl⟩
    · exact ⟨rfl, rfl, Or.inl hk⟩
  obtain ⟨hcart, hswitch⟩ := update_medium_partition_page_left hpage
  refine ⟨e, f, k, _, rfl, htype, hcapability, List.mem_of_find?_eq_some hfind, hcart.trans hk₂.1,
    hswitch.trans hk₂.2.1, ?_⟩
  rw [(steady_update_medium_partition_page hpage).load_status]
  exact hk₂.2.2

/-- The cartridge is in the drive with the attributes `k` of its load, which are in its files. -/
structure Entered (M : Medium) (pcl : Dir) (k : Mam) (d : Drive) : Prop where
  /-- It is mounted. -/
  presented : Presented M.n M.recs pcl k d
  /-- It can be taken out. -/
  shelved : Shelved M.n pcl (k.MediumType ≠ MEDIA_TYPE_NULL) M.recs
  /-- The arrays behind it are clear. -/
  spare : Spare M.n d.cart
  /-- Its attributes are in the files. -/
  stored : Stored pcl k
  /-- They allow as many partitions as the medium does. -/
  max : k.byte .max_partitions = media_max_partitions (k.byte .MediaType)
  /-- It has no more. -/
  le_max : M.n ≤ (media_max_partitions (k.byte .MediaType)).toNat

/-- The head moves. -/
theorem Entered.moved {pcl : Dir} {k : Mam} (h : Entered M pcl k d)
    (hc : Elsewhere M.n M.recs d.cart d'.cart) : Entered M pcl k d' :=
  ⟨h.presented.moved hc rfl, h.shelved, h.spare.elsewhere hc, h.stored, h.max, h.le_max⟩

/-- The cartridge has been taken in. -/
theorem Entered.inDrive {pcl : Dir} {k : Mam} (h : Entered M pcl k d)
    (hload : d.load_status = TAPE_LOADING ∨ d.load_status = TAPE_LOADED) : InDrive M d := by
  have hd := h.presented
  have hbyte : ∀ f ≠ .num_partitions, d.cart.mam.byte f = k.byte f :=
    fun f hf => congrArg (List.headD · 0) (hd.mam.bytes f hf)
  have hmost := (hbyte .max_partitions (by decide)).trans h.max
  refine ⟨hload, h.shelved.n_pos, hd.mounted, hd.count, ?_, ?_, h.spare, h.shelved.map, fun hne => ?_,
    ?_, ?_, hd.files⟩
  · rw [hmost]
    exact h.le_max
  · rw [hmost, hbyte .MediaType (by decide)]
  · refine h.shelved.blocks ?_
    rwa [← hd.mam.MediumType]
  · exact ⟨hd.mam.versions.1.trans h.stored.versions.1, hd.mam.versions.2.trans h.stored.versions.2⟩
  · refine Stored.sized (m := k) ?_
    rw [hd.dir]
    exact h.stored

/-- A cartridge that is refused goes back to the shelf. -/
theorem OnShelf.of_mismatch {pcl : Dir} {rc : ℤ} (h : Presented M.n M.recs pcl m d)
    (hs : Shelved M.n pcl (m.MediumType ≠ MEDIA_TYPE_NULL) M.recs) (hstored : Stored pcl m)
    (hmax : M.n ≤ (media_max_partitions (m.byte .MediaType)).toNat)
    (hrun : mismatchmedia P d = some (rc, d')) : OnShelf M m d' := by
  obtain ⟨b, hb, hd'⟩ := Option.map_eq_some_iff.mp hrun
  obtain ⟨-, rfl⟩ := Prod.mk.inj hd'
  rw [← h.dir] at hs hstored
  exact OnShelf.of_unload h.mounted h.count hs hstored hmax hb rfl rfl

/-- A cartridge of the shelf is entered when its type is one for the drive. -/
theorem entered_of_mountByType {e f : Drive} (h : Presented M.n M.recs d.cart.dir m e)
    (hs : Shelved M.n d.cart.dir (m.MediumType ≠ MEDIA_TYPE_NULL) M.recs) (hspare : Spare M.n e.cart)
    (hstored : Stored d.cart.dir m) (hmax : M.n ≤ (media_max_partitions (m.byte .MediaType)).toNat)
    (htype : mountByType P e = some f) :
    Entered M (updateMAM P f true).cart.dir (loadMam P f.cart.mam) (updateMAM P f true) := by
  have hf := h.mountByType htype
  have hsized : Sized f.cart := by
    refine Stored.sized (m := m) ?_
    rw [hf.dir]
    exact hstored
  obtain ⟨hg, -, htape⟩ := hf.entered (P := P)
  obtain ⟨hmam, hmhvtl⟩ := updateMAM_files (P := P) hf.files hf.opened
    hf.mounted.io hsized
  have hversions := (hf.mam.life.trans (sameLife_loadMam P f.cart.mam)).versions
  have hbyte : ∀ g ∉ loadFields, (loadMam P f.cart.mam).byte g = m.byte g := by
    intro g hg
    have hnum : g ≠ .num_partitions := by
      rintro rfl
      exact hg (by decide)
    exact congrArg (List.headD · 0) ((loadMam_other P f.cart.mam hg).trans (hf.mam.bytes g hnum))
  have hmt : (loadMam P f.cart.mam).MediumType = m.MediumType := hbyte .MediumType (by decide)
  refine ⟨hg, ?_, ?_, ⟨hmam, hmhvtl, hversions.1.trans hstored.versions.1,
    hversions.2.trans hstored.versions.2⟩, ?_, ?_⟩
  · rw [hmt]
    exact Mounted.shelved hg.mounted hs.n_pos hs.map hs.blocks
  · exact (hspare.elsewhere (mountByType_elsewhere h.mounted htype)).of_part fun q _ => htape.part q
  · rw [(loadMam_partitions P f.cart.mam).2]
    exact congrArg (fun bs => media_max_partitions (List.headD bs 0))
      (loadMam_other P f.cart.mam (by decide)).symm
  · rwa [hbyte .MediaType (by decide)]

/-- The cartridge in front of a drive, as a load reads it. -/
theorem OnShelf.presented (h : OnShelf M m d) (P : LoadRules) (bypass_error_check : Bool) :
    ∃ c, d.cart.load_tape P.updater d.cart.dir bypass_error_check = some (0, c) ∧ ∀ e : Drive,
      e.cart = c.rewind_tape.2 → Presented M.n M.recs d.cart.dir m e ∧ Spare M.n e.cart := by
  obtain ⟨c, hload, hin⟩ := load_tape_shelved (P := P) (r := ⟨d.cart.dir, bypass_error_check, 0⟩)
    h.stored h.shelved h.vacant
  have hc := hin { d with cart := c } rfl
  have hspare : Spare M.n c := by
    have hspare := Spare.load_tape hload h.spare
    rwa [show c.mam.num_partitions = M.n from hc.count] at hspare
  refine ⟨c, hload, fun e he => ⟨hc.moved hc.mounted.rewind_tape he, ?_⟩⟩
  rw [he]
  exact hspare.elsewhere hc.mounted.rewind_tape

/-- A load takes the cartridge in with its records and attributes. -/
theorem OnShelf.load_taken {bypass_error_check : Bool} {delay_load : ℕ} (h : OnShelf M m d)
    (hrun : loadTape P L d ⟨d.cart.dir, bypass_error_check, delay_load⟩ = some (0, d')) :
    InDrive M d' ∧ SameLabel m d'.cart.mam := by
  obtain ⟨c, hload, hfront⟩ := h.presented P bypass_error_check
  obtain ⟨e, f, g, _, he, htype, hcap, -, hcart, -, hst⟩ := loadTape_taken hload hrun
  obtain ⟨hp, hsp⟩ := hfront e he
  have hentered := entered_of_mountByType hp h.shelved hsp h.stored h.le_max htype
  have hmoved := mountByCapability_elsewhere hentered.presented.mounted hcap
  rw [← hcart] at hmoved
  refine ⟨(hentered.moved hmoved).inDrive hst, fun k hk => loadTape_mam h.stored hrun fun hload => ?_⟩
  exact hk (List.mem_append_left _ hload)

/-- Or it leaves the cartridge where it is. -/
theorem OnShelf.load_refused {bypass_error_check : Bool} {delay_load : ℕ} {rc : ℤ} (h : OnShelf M m d)
    (hrun : loadTape P L d ⟨d.cart.dir, bypass_error_check, delay_load⟩ = some (rc, d')) (hrc : rc ≠ 0) :
    ∃ m', OnShelf M m' d' ∧ SameLabel m m' := by
  obtain ⟨c, hload, hfront⟩ := h.presented P bypass_error_check
  obtain ⟨e, he, hways⟩ := loadTape_refused hload hrun hrc
  obtain ⟨hp, hsp⟩ := hfront e he
  rcases hways with ⟨-, hmismatch⟩ | ⟨f, htype, hmismatch⟩
  · exact ⟨m, OnShelf.of_mismatch hp h.shelved h.stored h.le_max hmismatch, fun _ _ => rfl⟩
  · have hentered := entered_of_mountByType hp h.shelved hsp h.stored h.le_max htype
    refine ⟨_, OnShelf.of_mismatch hentered.presented hentered.shelved hentered.stored hentered.le_max
      hmismatch, fun k hk => ?_⟩
    have hload' : k ∉ loadFields := fun hmem => hk (List.mem_append_left _ hmem)
    have hnum : k ≠ .num_partitions := by
      rintro rfl
      exact hload' (by decide)
    exact (loadMam_other P f.cart.mam hload').trans ((hp.mountByType htype).mam.bytes k hnum)

/-- The timer of the mount runs out. -/
theorem InDrive.finish_mount (h : InDrive M d) : InDrive M (finish_mount d) := by
  unfold Ssc.finish_mount
  split
  · exact ⟨Or.inr rfl, h.n_pos, h.mounted, h.count, h.le_max, h.max, h.spare, h.map, h.kept, h.versions,
      h.sized, h.files⟩
  · exact h

/-- Nothing is being mounted in an empty drive. -/
theorem OnShelf.finish_mount (h : OnShelf M m d) : Ssc.finish_mount d = d := by
  unfold Ssc.finish_mount
  rw [h.vacant.load_status]
  exact if_neg (by decide)

/-- An unload with a partition open puts the records back. -/
theorem InDrive.unload (h : InDrive M d) (hopen : d.cart.fd .data d.cart.partition_id = true)
    (hrun : unloadTape P d = some d') :
    OnShelf M (unloadMam d.bytesWritten_I d.bytesRead_I d.cart.mam) d' := by
  have hio : OkFor 1 d.cart.io := by
    rw [h.mounted.io]
    exact okFor_nil 1
  obtain ⟨hout, hstored⟩ := unloadTape_stored h.load_status h.versions h.sized h.files hopen hio hrun
  let k := unloadMam d.bytesWritten_I d.bytesRead_I d.cart.mam
  have hbyte : ∀ f ∉ unloadFields, k.byte f = d.cart.mam.byte f :=
    fun f hf => congrArg (List.headD · 0) (unloadMam_other _ _ _ hf)
  have hmam : (updateMAM P d false).cart.mam = k := Store.rewriteMAM_mam _
  have htape : SameTape d.cart (updateMAM P d false).cart :=
    (SameTape.of_mam d.cart k d.cart.OK_to_write d.cart.status).trans (SameTape.rewriteMAM _)
  have hmounted := htape.mounted h.mounted
  have hcount : (updateMAM P d false).cart.mam.num_partitions = M.n := by
    rw [hmam, ← h.count]
    exact congrArg UInt8.toNat (hbyte .num_partitions (by decide))
  have hshelved : Shelved M.n (updateMAM P d false).cart.dir (k.MediumType ≠ MEDIA_TYPE_NULL) M.recs := by
    refine Mounted.shelved hmounted h.n_pos h.map fun hne => h.kept ?_
    rwa [show k.MediumType = d.cart.mam.MediumType from hbyte .MediumType (by decide)] at hne
  have hmax : M.n ≤ (media_max_partitions (k.byte .MediaType)).toNat := by
    rw [hbyte .MediaType (by decide), ← h.max]
    exact h.le_max
  unfold unloadTape at hrun
  extract_lets emptied e at hrun
  rw [if_pos h.load_status] at hrun
  obtain ⟨b, hb, rfl⟩ := Option.map_eq_some_iff.mp hrun
  obtain ⟨b', hb', hdir, -⟩ := unload_tape_ok hmounted hcount h.n_pos
  obtain rfl := Option.some.inj (hb'.symm.trans hb)
  have hcart : (emptied (({ e with cart := b' }.clearWORM P).media_load P false)).cart =
      { b' with OK_to_write := false } := by
    unfold Drive.clearWORM
    split <;> rfl
  have hdir' : (emptied (({ e with cart := b' }.clearWORM P).media_load P false)).cart.dir =
      (updateMAM P d false).cart.dir := (congrArg Store.dir hcart).trans hdir
  rw [hdir'] at hstored
  exact OnShelf.of_unload hmounted hcount hshelved hstored hmax hb rfl hcart

/-- There is nothing to unload in an empty drive. -/
theorem OnShelf.unload (h : OnShelf M m d) (hrun : unloadTape P d = some d') : OnShelf M m d' := by
  have hno : ¬(d.load_status = TAPE_LOADING ∨ d.load_status = TAPE_LOADED) := by
    rw [h.vacant.load_status]
    decide
  unfold unloadTape at hrun
  rw [if_neg hno] at hrun
  obtain rfl := Option.some.inj hrun
  exact ⟨⟨rfl, h.vacant.closed, h.vacant.io⟩, h.spare, h.mamfile, h.stored, h.shelved, h.le_max⟩

/-- LOAD UNLOAD rewinds the cartridge, and may take it out. -/
theorem InDrive.load_unload {cdb : Cdb} {barcode : Option LoadRequest} {stale : Bool} (h : InDrive M d)
    (hrun : ssc_load_unload P L d cdb barcode stale = some d') :
    (∃ m, OnShelf M m d' ∧ SameLabel d.cart.mam m) ∨
      InDrive M d' ∧ d'.cart.mam = d.cart.mam ∧ d'.MediaWriteProtect = d.MediaWriteProtect := by
  have hin : d.load_status ≠ TAPE_UNLOADED := by
    rcases h.load_status with hst | hst
    · rw [hst]
      decide
    · rw [hst]
      decide
  have hstart : InDrive M d.declare_ssc_vars := h.alone (LeftAlone.returns d SAM_STAT_GOOD)
  unfold ssc_load_unload at hrun
  extract_lets e load_request f at hrun
  have he : InDrive M e := hstart
  split at hrun
  · obtain rfl := Option.some.inj hrun
    exact Or.inr ⟨he.alone (LeftAlone.report _ _), rfl, rfl⟩
  have hf : f = e.onCart fun c => (c.change_partition 0).2 := by
    unfold f firstPartition
    exact if_neg fun hno => hin hno.1
  obtain ⟨hfirst, hat⟩ := he.mounted.change_partition (q := 0) (by decide)
  obtain ⟨c, hrewind, hsought⟩ := rewind_tape_ok (hat h.n_pos) (he.mounted.length_lt h.n_pos)
  have hback : Elsewhere M.n M.recs (e.cart.change_partition 0).2 c := by
    have hback := hfirst.rewind_tape
    rwa [hrewind] at hback
  have hrewind' : f.cart.rewind_tape = (1, c) := by
    rw [hf]
    exact hrewind
  rw [hrewind'] at hrun
  have hg : InDrive M { f with cart := c } := by
    have hattrs : SameAttrs e.cart c := by
      have hattrs := (SameAttrs.change_partition e.cart 0).trans (SameAttrs.rewind_tape _)
      rwa [hrewind] at hattrs
    rw [hf]
    exact he.same (SameCartridge.onCart e hattrs) hback.mounted
      ((he.spare.change_partition 0).elsewhere hback)
  have hkept : c.mam = d.cart.mam ∧ f.MediaWriteProtect = d.MediaWriteProtect := by
    have hmam := hback.mam.trans (SameAttrs.change_partition e.cart 0).mam
    rw [hf]
    exact ⟨hmam, rfl⟩
  have hin' : f.load_status ≠ TAPE_UNLOADED := by
    rw [hf]
    exact hin
  have hopen : c.fd .data c.partition_id = true := by
    obtain ⟨j, hj⟩ := hback.at_pos (hat h.n_pos)
    have hpart := hj.partition_id
    have hopened := hj.opened .data
    rwa [← hpart] at hopened
  dsimp only at hrun
  rw [if_neg hin'] at hrun
  split at hrun
  · split at hrun
    · refine Or.inl ⟨_, hg.unload hopen hrun, fun k hk => ?_⟩
      rw [unloadMam_other _ _ _ fun hmem => hk (List.mem_append_right _ hmem)]
      exact congrArg (Mam.bytes · k) hkept.1
    · obtain rfl := Option.some.inj hrun
      exact Or.inr ⟨hg, hkept⟩
  · obtain rfl := Option.some.inj hrun
    exact Or.inr ⟨hg.alone (LeftAlone.report _ _), hkept⟩

/-- An empty drive whose name of a directory is gone finds nothing to load. -/
theorem OnShelf.load_unload {cdb : Cdb} {barcode : Option LoadRequest} (h : OnShelf M m d)
    (hrun : ssc_load_unload P L d cdb barcode false = some d') : OnShelf M m d' := by
  unfold ssc_load_unload at hrun
  extract_lets e load_request f at hrun
  have he : OnShelf M m e := h.returns SAM_STAT_GOOD
  split at hrun
  · obtain rfl := Option.some.inj hrun
    exact he.report _
  obtain ⟨raw, ok, st, fd, hchange⟩ :=
    change_partition_only { e.cart with dir := ⟨fun _ _ => none, none, none⟩ } 0
  have hclosed : ∀ k q, fd k q = false := by
    intro k q
    have hfd := change_partition_fd { e.cart with dir := ⟨fun _ _ => none, none, none⟩ } 0 k q
    rw [hchange] at hfd
    change fd k q = _ at hfd
    rw [hfd]
    split
    · rfl
    split
    · rfl
    · exact he.vacant.closed k q
  have hf : f = { e with cart := { e.cart with raw_pos := raw, OK_to_write := ok, status := st, fd := fd } } := by
    unfold f firstPartition
    rw [if_pos ⟨he.vacant.load_status, rfl⟩]
    simp only [Drive.onCart, hchange]
  have hfirst : OnShelf M m f := by
    rw [hf]
    exact he.head raw ok st hclosed
  have hrewind : f.cart.rewind_tape = (-1, { f.cart with status := sam_not_ready E_MEDIUM_NOT_PRESENT }) := by
    simp only [Store.rewind_tape, tape_loaded_closed hfirst.vacant.closed, Bool.not_false, if_true]
  rw [hrewind] at hrun
  have hg := hfirst.report (sam_not_ready E_MEDIUM_NOT_PRESENT)
  have hload : f.load_status = TAPE_UNLOADED := hfirst.vacant.load_status
  dsimp only at hrun
  rw [if_pos hload, if_neg (show ¬(-1 : ℤ) = 0 by decide), if_neg (show ¬(-1 : ℤ) = 1 by decide)] at hrun
  split at hrun
  · obtain rfl := Option.some.inj hrun
    exact hg.report _
  · obtain rfl := Option.some.inj hrun
    exact hg.report _

/-- The cartridge is carried to another drive. -/
theorem OnShelf.elsewhere {e : Drive} (h : OnShelf M m d) (hv : Vacant e) (hspare : Spare 0 e.cart)
    (hfile : e.cart.mamfile = false) : OnShelf M m { e with cart := { e.cart with dir := d.cart.dir } } :=
  ⟨⟨hv.load_status, hv.closed, hv.io⟩, hspare, hfile, h.stored, h.shelved, h.le_max⟩

end Loads

end Mhvtl.Ssc
