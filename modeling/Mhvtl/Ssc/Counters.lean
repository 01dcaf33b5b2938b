import Mhvtl.Mam.RoundTrip
import Mhvtl.Ssc.Attributes
import Mhvtl.Ssc.Loading
import Mhvtl.Ssc.ModeSelect
import Mhvtl.Ssc.Residuals

/-!
# Counting the bytes of a load

Every command of the drive counts the bytes that it writes to the medium and reads from it,
and leaves the attributes alone in which the bytes of a load and of a life are kept.
-/

namespace Mhvtl.Ssc

open Bytes Cart Store

/-- The attributes that count bytes. -/
def lifeFields : List MamField :=
  [.WrittenInLastLoad, .ReadInLastLoad, .WrittenInMediumLife, .ReadInMediumLife]

/-- Attributes with the same versions and the same counts. -/
structure SameLife (m m' : Mam) : Prop where
  /-- The versions. -/
  versions : m'.tape_fmt_version = m.tape_fmt_version ∧ m'.mam_fmt_version = m.mam_fmt_version
  /-- The counts. -/
  life : ∀ f ∈ lifeFields, m'.bytes f = m.bytes f

namespace SameLife

variable {a b c : Mam}

theorem refl (m : Mam) : SameLife m m := ⟨⟨rfl, rfl⟩, fun _ _ => rfl⟩

theorem trans (h : SameLife a b) (h' : SameLife b c) : SameLife a c where
  versions := ⟨h'.versions.1.trans h.versions.1, h'.versions.2.trans h.versions.2⟩
  life f hf := (h'.life f hf).trans (h.life f hf)

/-- Another attribute is set. -/
theorem put (h : SameLife a b) {f : MamField} (bs : List UInt8) (hf : f ∉ lifeFields) :
    SameLife a (b.put f bs) := by
  refine ⟨h.versions, fun g hg => ?_⟩
  have hne : g ≠ f := by
    rintro rfl
    exact hf hg
  rw [Mam.bytes_put_other b bs hne]
  exact h.life g hg

end SameLife

/-- The attribute files are there, and of the size that they are written with. -/
def Sized (c : Store) : Prop :=
  ∃ mam mhvtl, c.dir.mam = some mam ∧ mam.length = mamSize ∧
    c.dir.mhvtl_data = some mhvtl ∧ mhvtl.length = mhvtlSize

/-- The counts in the attributes, and what is needed to write them out, stay. -/
structure LifeKept (c c' : Store) : Prop where
  /-- The counts. -/
  mam : SameLife c.mam c'.mam
  /-- The descriptors of the attribute files. -/
  files : c'.mamfile = c.mamfile ∧ c'.mhvtlfile = c.mhvtlfile
  /-- Their size. -/
  sized : Sized c → Sized c'
  /-- The files themselves, when they are closed. -/
  closed : c.mamfile = false → c'.dir.mam = c.dir.mam ∧ c'.dir.mhvtl_data = c.dir.mhvtl_data

namespace LifeKept

variable {a b c : Store}

theorem refl (c : Store) : LifeKept c c := ⟨SameLife.refl _, ⟨rfl, rfl⟩, id, fun _ => ⟨rfl, rfl⟩⟩

theorem trans (h : LifeKept a b) (h' : LifeKept b c) : LifeKept a c where
  mam := h.mam.trans h'.mam
  files := ⟨h'.files.1.trans h.files.1, h'.files.2.trans h.files.2⟩
  sized hs := h'.sized (h.sized hs)
  closed hc := by
    obtain ⟨hmam, hmhvtl⟩ := h'.closed (h.files.1.trans hc)
    obtain ⟨hmam₀, hmhvtl₀⟩ := h.closed hc
    exact ⟨hmam.trans hmam₀, hmhvtl.trans hmhvtl₀⟩

/-- Work on the partitions. -/
theorem of_same (h : SameAttrs a b) : LifeKept a b where
  mam := by
    rw [h.mam]
    exact SameLife.refl _
  files := ⟨h.mamfile, h.mhvtlfile⟩
  sized hs := by
    rw [Sized, h.dir_mam, h.dir_mhvtl_data]
    exact hs
  closed _ := ⟨h.dir_mam, h.dir_mhvtl_data⟩

/-- Other attributes. -/
theorem of_mam (c : Store) {m : Mam} (h : SameLife c.mam m) : LifeKept c { c with mam := m } :=
  ⟨h, ⟨rfl, rfl⟩, id, fun _ => ⟨rfl, rfl⟩⟩

/-- A front part of the new contents does not change the size of a file. -/
theorem overwriteFront_length {image old : List UInt8} (h : image.length = old.length) (n : ℕ) :
    (overwriteFront (image.take n) old).length = old.length := by
  rw [overwriteFront, List.length_append, List.length_drop, List.length_take]
  omega

/-- Writing the attributes out, whatever the host calls do. -/
theorem write_mam (c : Store) : LifeKept c c.write_mam.2 := by
  unfold Store.write_mam
  split
  · rename_i mam mhvtl hmamfile hmam hmhvtlfile hmhvtl
    extract_lets put all
    have hput : ∀ (c' : Store) (n : ℕ), c'.mam = c.mam → c'.mamfile = c.mamfile →
        c'.mhvtlfile = c.mhvtlfile → LifeKept c (put c' n) := by
      intro c' n hm hf hf'
      refine ⟨?_, ⟨hf, hf'⟩, ?_, fun hc => absurd (hc.symm.trans hmamfile) Bool.false_ne_true⟩
      · change SameLife c.mam c'.mam
        rw [hm]
        exact SameLife.refl _
      · rintro ⟨mam', mhvtl', hmam', hlen, hmhvtl', hlen'⟩
        cases hmam.symm.trans hmam'
        cases hmhvtl.symm.trans hmhvtl'
        refine ⟨_, _, rfl, ?_, rfl, ?_⟩
        · rw [overwriteFront_length ((mamImage_length _).trans hlen.symm), hlen]
        · rw [overwriteFront_length ((mhvtlImage_length _).trans hlen'.symm), hlen']
    cases hio : c.io.headD .ok with
    | ok =>
      simp only [nextIo, hio]
      exact hput _ _ rfl rfl rfl
    | fail =>
      simp only [nextIo, hio]
      exact of_same ⟨rfl, rfl, rfl, rfl, rfl⟩
    | short n =>
      simp only [nextIo, hio]
      split
      · exact hput _ _ rfl rfl rfl
      · exact of_same ⟨rfl, rfl, rfl, rfl, rfl⟩
  · exact refl c

/-- Rewriting the attributes. -/
theorem rewriteMAM (c : Store) : LifeKept c c.rewriteMAM.2 := by
  have hloaded := of_same (SameAttrs.tape_loaded c)
  have hwritten := hloaded.trans (write_mam c.tape_loaded.2)
  unfold Store.rewriteMAM
  dsimp only
  split
  · exact hloaded
  · split
    · exact hwritten.trans (of_same ⟨rfl, rfl, rfl, rfl, rfl⟩)
    · exact hwritten

end LifeKept

/-- A command that counts `w` bytes written and `r` bytes read. -/
structure Counted (w r : ℕ) (d d' : Drive) : Prop where
  /-- The attributes. -/
  attrs : LifeKept d.cart d'.cart
  /-- The cartridge stays mounted. -/
  load_status : d'.load_status = d.load_status
  /-- Bytes written. -/
  written : d'.bytesWritten_I = d.bytesWritten_I + w
  /-- Bytes read. -/
  read : d'.bytesRead_I = d.bytesRead_I + r

namespace Counted

variable {a b d e : Drive} {w r w' r' : ℕ}

theorem refl (d : Drive) : Counted 0 0 d d := ⟨LifeKept.refl _, rfl, rfl, rfl⟩

theorem trans (h : Counted w r a b) (h' : Counted w' r' b d) : Counted (w + w') (r + r') a d where
  attrs := h.attrs.trans h'.attrs
  load_status := h'.load_status.trans h.load_status
  written := by
    rw [h'.written, h.written, Nat.add_assoc]
  read := by
    rw [h'.read, h.read, Nat.add_assoc]

/-- Something behind it that counts nothing. -/
theorem quiet (h : Counted w r a b) (h' : Counted 0 0 b d) : Counted w r a d := h.trans h'

/-- Something in front of it that counts nothing. -/
theorem after (h : Counted 0 0 a b) (h' : Counted w r b d) : Counted w r a d := by
  have hsum := h.trans h'
  rwa [Nat.zero_add, Nat.zero_add] at hsum

/-- Work on the cartridge. -/
theorem onCart (h : Counted w r a b) {f : Store → Store} (hf : LifeKept b.cart (f b.cart)) :
    Counted w r a (b.onCart f) := h.quiet ⟨hf, rfl, rfl, rfl⟩

/-- Sense data. -/
theorem report (h : Counted w r a b) (st : Status) : Counted w r a (b.report st) :=
  h.quiet ⟨LifeKept.of_same ⟨rfl, rfl, rfl, rfl, rfl⟩, rfl, rfl, rfl⟩

/-- The status byte. -/
theorem returns (h : Counted w r a b) (sam_stat : ℕ) : Counted w r a (b.returns sam_stat) :=
  h.report _

/-- The beginning of a command. -/
theorem declared (d : Drive) : Counted 0 0 d d.declare_ssc_vars := (refl d).returns SAM_STAT_GOOD

/-- Another attribute is set. -/
theorem setMam (h : Counted w r a b) {f : Mam → Mam} (hf : SameLife b.cart.mam (f b.cart.mam)) :
    Counted w r a (b.setMam f) := h.quiet ⟨LifeKept.of_mam _ hf, rfl, rfl, rfl⟩

theorem put (h : Counted w r a b) {f : MamField} (bs : List UInt8) (hf : f ∉ lifeFields) :
    Counted w r a (b.setMam (·.put f bs)) := h.setMam ((SameLife.refl _).put bs hf)

/-- The attributes are written out. -/
theorem rewriteMAM (h : Counted w r a b) : Counted w r a (b.onCart fun c => c.rewriteMAM.2) :=
  h.onCart (LifeKept.rewriteMAM _)

/-- A guarded step. -/
theorem guarded {P : Prop} [Decidable P] (h : Counted w r a b) (h' : Counted w r a d) :
    Counted w r a (if P then b else d) := by
  split
  · exact h
  · exact h'

end Counted

section Commands

variable {d d' : Drive}

/-- The volume change reference. -/
theorem counted_update_volume_change_reference (d : Drive) :
    Counted 0 0 d (update_volume_change_reference d) := by
  unfold update_volume_change_reference
  extract_lets vcr vcr' d₁
  have h₁ : Counted 0 0 d d₁ := (Counted.refl d).setMam ((SameLife.refl _).put _ (by decide))
  have h₂ : Counted 0 0 d { d₁ with vcr_updated := true } := h₁.quiet ⟨LifeKept.refl _, rfl, rfl, rfl⟩
  exact Counted.guarded (Counted.refl d) h₂.rewriteMAM

/-- Whether the medium may be written. -/
theorem counted_check_restrictions {ok : Bool} (h : check_restrictions d = some (ok, d')) :
    Counted 0 0 d d' := by
  have hallow : ∀ {e : Drive} (b : Bool), Counted 0 0 d e →
      Counted 0 0 d (e.onCart fun c => { c with OK_to_write := b }) := fun b he =>
    he.onCart (LifeKept.of_same ⟨rfl, rfl, rfl, rfl, rfl⟩)
  have hd := Counted.declared d
  unfold check_restrictions at h
  extract_lets d₀ allow refuse type d₁ at h
  have hrefuse : ∀ {e : Drive} {st : Status}, Counted 0 0 d e → refuse e st = some (ok, d') →
      Counted 0 0 d d' := by
    intro e st he hr
    cases hr
    exact hallow false (he.report st)
  have hd₁ : Counted 0 0 d d₁ := by
    unfold d₁
    refine Counted.guarded (hallow _ (hd.report _)) (Counted.guarded (Counted.guarded (hallow _ hd)
      (Counted.guarded hd (hd.report _))) (Counted.guarded (hallow _ hd) (hallow _ (hd.report _))))
  split at h
  · cases h
  split at h
  · exact hrefuse hd h
  split at h
  · exact hrefuse hd h
  split at h
  · exact hrefuse hd h
  split at h
  · cases h
    exact hallow true hd
  split at h
  · exact hrefuse hd₁ h
  split at h
  · cases h
  · obtain rfl := congrArg Prod.snd (Option.some.inj h)
    exact hd₁

/-- Work on the partitions of the cartridge. -/
theorem Counted.cart {w r : ℕ} {a b : Drive} (h : Counted w r a b) {c : Store}
    (hc : SameAttrs b.cart c) : Counted w r a { b with cart := c } :=
  h.quiet ⟨LifeKept.of_same hc, rfl, rfl, rfl⟩

/-- REWIND. -/
theorem counted_ssc_rewind (d : Drive) : Counted 0 0 d (ssc_rewind d) := by
  have hd := Counted.declared d
  have hc := hd.cart (SameAttrs.rewind_tape d.declare_ssc_vars.cart)
  unfold ssc_rewind
  exact Counted.guarded (hd.report _) (Counted.guarded (Counted.guarded (hc.report _) hc) (hd.report _))

/-- The work of SPACE. -/
theorem counted_resp_space (d : Drive) (count : ℤ) (code : ℕ) :
    Counted 0 0 d (resp_space d count code) := by
  have hd := Counted.refl d
  unfold resp_space
  refine Counted.guarded (Counted.guarded ?_ ?_) (Counted.guarded (Counted.guarded ?_ ?_)
    (Counted.guarded ?_ (hd.report _)))
  · exact hd.cart (SameAttrs.position_blocks_forw _ _)
  · exact hd.cart (SameAttrs.position_blocks_back _ _)
  · exact hd.cart (SameAttrs.position_filemarks_forw _ _)
  · exact hd.cart (SameAttrs.position_filemarks_back _ _)
  · exact hd.cart (SameAttrs.position_to_eod _)

/-- SPACE. -/
theorem counted_space (d : Drive) (icount : ℤ) (code : ℕ) : Counted 0 0 d (space d icount code) := by
  have hd := Counted.declared d
  unfold space
  exact Counted.guarded (hd.report _) (Counted.guarded (hd.quiet (counted_resp_space _ _ _)) hd)

/-- LOCATE. -/
theorem counted_ssc_locate {cdb : Cdb} (h : ssc_locate d cdb = some d') : Counted 0 0 d d' := by
  have hd := Counted.declared d
  unfold ssc_locate at h
  dsimp only at h
  split at h
  · cases h
    exact hd.returns _
  split at h
  · cases h
    exact hd.report _
  split at h
  · cases h
    exact hd.report _
  split at h
  · cases h
  · cases h
    exact hd.cart ((SameAttrs.change_partition _ _).trans (SameAttrs.position_to_block _ _))

/-- ALLOW OVERWRITE. -/
theorem counted_ssc_allow_overwrite (d : Drive) (cdb : Cdb) :
    Counted 0 0 d (ssc_allow_overwrite d cdb) := by
  have hd : Counted 0 0 d { d.declare_ssc_vars with allow_overwrite := false } :=
    (Counted.declared d).quiet ⟨LifeKept.refl _, rfl, rfl, rfl⟩
  unfold ssc_allow_overwrite
  refine Counted.guarded hd (Counted.guarded (Counted.guarded (hd.report _) (Counted.guarded ?_ ?_))
    (Counted.guarded ?_ (hd.report _)))
  · exact hd.quiet ⟨LifeKept.refl _, rfl, rfl, rfl⟩
  · exact hd.quiet ⟨LifeKept.of_same ⟨rfl, rfl, rfl, rfl, rfl⟩, rfl, rfl, rfl⟩
  · exact hd.quiet ⟨LifeKept.refl _, rfl, rfl, rfl⟩

/-- WRITE FILEMARKS. -/
theorem counted_ssc_write_filemarks {L : Libs} {cdb : Cdb} (h : ssc_write_filemarks L d cdb = some d') :
    Counted 0 0 d d' := by
  have hd := Counted.declared d
  unfold ssc_write_filemarks at h
  extract_lets d₀ count at h
  split at h
  · cases h
  rename_i allowed d₁ hcheck
  have h₁ := hd.quiet (counted_check_restrictions hcheck)
  split at h
  · cases h
    exact h₁.returns _
  extract_lets d₂ d₃ at h
  have h₂ : Counted 0 0 d d₂ :=
    Counted.guarded (h₁.quiet (counted_update_volume_change_reference _)) h₁
  have h₃ : Counted 0 0 d d₃ := h₂.cart (SameAttrs.write_filemarks _ count)
  split at h
  · obtain rfl := Option.some.inj h
    exact h₃
  split at h
  · cases h
  split at h
  · obtain rfl := Option.some.inj h
    exact (h₃.put (f := .remaining_capacity) _ (by decide)).report _
  · obtain rfl := Option.some.inj h
    exact h₃

/-- ERASE. -/
theorem counted_ssc_erase (h : ssc_erase d = some d') : Counted 0 0 d d' := by
  have hd := Counted.declared d
  unfold ssc_erase at h
  dsimp only at h
  split at h
  · cases h
  · rename_i d₁ hcheck
    cases h
    exact (hd.quiet (counted_check_restrictions hcheck)).returns _
  · rename_i d₁ hcheck
    have h₁ := hd.quiet (counted_check_restrictions hcheck)
    split at h
    · cases h
      exact h₁.report _
    split at h
    · cases h
      exact (h₁.quiet (counted_update_volume_change_reference _)).cart (SameAttrs.format_partition _)
    · cases h
      exact h₁.report _

/-- The capacities of the partitions are recorded. -/
theorem counted_set_medium_partition_capacity {L : Libs}
    (h : set_medium_partition_capacity L d = some d') : Counted 0 0 d d' := by
  have hfield : ∀ k, partitionCapacity k ∉ lifeFields := by
    intro k
    unfold partitionCapacity
    split <;> decide
  have hclear : ∀ (l : List ℕ) (m : Mam),
      SameLife m (l.foldl (fun m k => m.putBe (partitionCapacity k) 0) m) := by
    intro l
    induction l with
    | nil => exact SameLife.refl
    | cons k l ih => exact fun m => ((SameLife.refl m).put _ (hfield k)).trans (ih _)
  have hput : ∀ (l : List ℕ) (a b : Drive), l.foldlM (fun d k =>
      (medium_partition_capacity_from_mode_page L d k).map fun size =>
        d.setMam (·.putBe (partitionCapacity k) size)) a = some b → Counted 0 0 a b := by
    intro l
    induction l with
    | nil =>
      intro a b hl
      cases hl
      exact Counted.refl a
    | cons k l ih =>
      intro a b hl
      rw [List.foldlM_cons] at hl
      obtain ⟨e, he, hrest⟩ := Option.bind_eq_some_iff.mp hl
      obtain ⟨size, -, rfl⟩ := Option.map_eq_some_iff.mp he
      exact ((Counted.refl a).setMam ((SameLife.refl _).put _ (hfield k))).quiet (ih _ _ hrest)
  unfold set_medium_partition_capacity at h
  extract_lets num cleared at h
  split at h
  · cases h
  · exact ((Counted.refl d).setMam (hclear _ _)).quiet (hput _ _ _ h)

/-- The whole tape is formatted. -/
theorem counted_formatTape (h : d.formatTape = some d') : Counted 0 0 d d' := by
  obtain ⟨c, hc, rfl⟩ := Option.map_eq_some_iff.mp h
  exact (Counted.refl d).cart (SameAttrs.format_tape hc)

/-- FORMAT MEDIUM. -/
theorem counted_ssc_format_medium {L : Libs} {cdb : Cdb} (h : ssc_format_medium L d cdb = some d') :
    Counted 0 0 d d' := by
  have hd := Counted.declared d
  unfold ssc_format_medium at h
  dsimp only at h
  split at h
  · cases h
  · rename_i d₁ hcheck
    cases h
    exact (hd.quiet (counted_check_restrictions hcheck)).returns _
  · rename_i d₁ hcheck
    have h₁ := hd.quiet (counted_check_restrictions hcheck)
    split at h
    · cases h
      exact h₁.report _
    have h₂ := h₁.quiet (counted_update_volume_change_reference d₁)
    split at h
    · cases h
      exact h₂.report _
    split at h
    · cases h
    · rename_i d₃ hformat
      obtain ⟨d₄, hcap, rfl⟩ := Option.map_eq_some_iff.mp h
      refine Counted.returns (Counted.rewriteMAM ?_) _
      refine Counted.quiet ?_ (counted_set_medium_partition_capacity hcap)
      refine Counted.quiet ?_ (counted_formatTape hformat)
      exact Counted.guarded (h₂.setMam ((SameLife.refl _).put _ (by decide))) h₂

/-- SET CAPACITY. -/
theorem counted_ssc_set_capacity (h : ssc_set_capacity d = some d') : Counted 0 0 d d' := by
  have hd := Counted.declared d
  unfold ssc_set_capacity at h
  dsimp only at h
  split at h
  · cases h
    exact hd.report _
  split at h
  · obtain ⟨d₁, hformat, rfl⟩ := Option.map_eq_some_iff.mp h
    have h₁ : Counted 0 0 d (d.declare_ssc_vars.setMam (·.putByte .num_partitions 1)) :=
      hd.setMam ((SameLife.refl _).put _ (by decide))
    exact (h₁.quiet (counted_formatTape hformat)).returns _
  split at h
  · cases h
    exact hd.report _
  split at h
  · cases h
    exact hd.report _
  · cases h
    exact hd.report _

/-- SECURITY PROTOCOL OUT. -/
theorem counted_ssc_spout {upd : List ModePage → ℕ → List ModePage} {cdb : Cdb} {buf : ℕ → UInt8}
    (h : ssc_spout upd d cdb buf = some d') : Counted 0 0 d d' := by
  have hd := Counted.declared d
  unfold ssc_spout resp_spout at h
  dsimp only at h
  split at h
  · cases h
    exact hd.report _
  split at h
  · cases h
    exact hd.report _
  split at h
  · cases h
  split at h
  · cases h
    exact hd.quiet ⟨LifeKept.of_same ⟨rfl, rfl, rfl, rfl, rfl⟩, rfl, rfl, rfl⟩
  · cases h
    exact hd.quiet ⟨LifeKept.of_same ⟨rfl, rfl, rfl, rfl, rfl⟩, rfl, rfl, rfl⟩

/-- Settings of the drive beside the cartridge. -/
theorem Counted.settings (h : d'.cart = d.cart) (hload : d'.load_status = d.load_status)
    (hw : d'.bytesWritten_I = d.bytesWritten_I) (hr : d'.bytesRead_I = d.bytesRead_I) :
    Counted 0 0 d d' := by
  refine ⟨?_, hload, hw, hr⟩
  rw [h]
  exact LifeKept.refl _

/-- The drive that a page leaves. -/
def PageResult.drive : PageResult → Drive
  | next d _ => d
  | done d => d
  | refused _ d => d

/-- A page of a MODE SELECT. -/
theorem counted_selectPage {p : ℕ → UInt8} {i : ℕ} {r : PageResult} (h : selectPage d p i = some r) :
    Counted 0 0 d r.drive := by
  have hd := Counted.refl d
  have hext : ∀ {s : Option Status} {e : Drive}, set_device_configuration_extension d p = (s, e) →
      Counted 0 0 d e := by
    intro s e he
    have hpews : Counted 0 0 d (d.setProgEarlyWarning (be16At p 6)) := by
      unfold Drive.setProgEarlyWarning
      exact Counted.guarded (Counted.settings rfl rfl rfl rfl) hd
    have hmode : ∀ (e : Drive) (m : UInt8), Counted 0 0 e (e.setWriteMode m) := by
      intro e m
      unfold Drive.setWriteMode
      extract_lets e₁ put
      have h₁ : Counted 0 0 e e₁ :=
        Counted.guarded (Counted.settings rfl rfl rfl rfl) (Counted.refl e)
      exact h₁.quiet (Counted.settings rfl rfl rfl rfl)
    unfold set_device_configuration_extension at he
    dsimp only at he
    split at he
    · cases he
      exact hd
    split at he
    · cases he
      exact hd
    split at he
    · cases he
      exact hd
    split at he
    · cases he
      exact hpews
    · cases he
      exact hpews.quiet (hmode _ _)
  have hlbp : ∀ {s : Option Status} {e : Drive}, set_lbp d p = (s, e) → Counted 0 0 d e := by
    intro s e he
    unfold set_lbp update_logical_block_protection at he
    split at he
    · cases he
      split
      · exact hd
      · exact Counted.settings rfl rfl rfl rfl
    · cases he
      exact hd
  unfold selectPage at h
  dsimp only at h
  split at h
  · have h₁ : Counted 0 0 d (if p 1 = 0x0e then set_mode_compression d p else d) :=
      Counted.guarded (Counted.settings rfl rfl rfl rfl) hd
    split at h
    · cases h
      exact h₁
    · cases h
      exact h₁
  split at h
  · split at h
    · split at h
      · rename_i he
        cases h
        exact hext he
      · rename_i he
        cases h
        exact hext he
    split at h
    · cases h
      exact Counted.settings rfl rfl rfl rfl
    · cases h
      exact hd
  split at h
  · split at h
    · cases h
      exact hd
    split at h
    · split at h
      · rename_i he
        cases h
        exact hlbp he
      · rename_i he
        cases h
        exact hlbp he
    · cases h
      exact hd
  split at h
  · obtain ⟨e, he, rfl⟩ := Option.map_eq_some_iff.mp h
    unfold set_medium_partition at he
    split at he
    · cases he
    split at he
    · cases he
    · cases he
      have h₁ := hd.put (f := .num_partitions) [UInt8.ofNat (askedPartitions p)] (by decide)
      exact h₁.quiet (Counted.settings rfl rfl rfl rfl)
  · cases h
    exact hd

/-- MODE SELECT. -/
theorem counted_ssc_mode_select {cdb : Cdb} {buf : ℕ → UInt8} {s : Selected}
    (h : ssc_mode_select d cdb buf = some s) : Counted 0 0 d s.drive := by
  have hpages : ∀ (rounds count i reads : ℕ) (e : Drive) (s : Selected),
      selectPages buf count rounds i reads e = some s → Counted 0 0 e s.drive := by
    intro rounds
    induction rounds with
    | zero =>
      intro count i reads e s hs
      cases hs
    | succ rounds ih =>
      intro count i reads e s hs
      unfold selectPages at hs
      dsimp only at hs
      split at hs
      · cases hs
        exact (Counted.refl e).returns _
      split at hs
      · cases hs
      · rename_i hpage
        cases hs
        exact (counted_selectPage hpage).report _
      · rename_i hpage
        cases hs
        exact (counted_selectPage hpage).returns _
      · rename_i hpage
        exact (counted_selectPage hpage).quiet (ih _ _ _ _ _ hs)
  have hd := Counted.declared d
  have hdesc : Counted 0 0 d (d.declare_ssc_vars.describe cdb buf) :=
    hd.quiet (Counted.settings rfl rfl rfl rfl)
  unfold ssc_mode_select at h
  dsimp only at h
  split at h
  · cases h
    exact hd.report _
  split at h
  · cases h
    exact hdesc.report _
  · exact hdesc.quiet (hpages _ _ _ _ _ _ h)

/-- No attribute that counts bytes can be written. -/
theorem sameLife_takeAttributes {partition alloc_len : ℕ} {buf : ℕ → UInt8} {i : ℕ} {m m' : Mam}
    (h : takeAttributes partition alloc_len buf i m = .inl m') : SameLife m m' := by
  have hfield : ∀ a ∈ mamAttributes, a.read_only = false → attrField a partition ∉ lifeFields := by
    intro a ha hro
    have hplain : a.field ∉ lifeFields := by
      revert a
      decide
    unfold attrField
    split
    · split
      · decide
      · decide
      · decide
      · exact hplain
    · exact hplain
  induction i, m using takeAttributes.induct partition alloc_len buf with
  | case1 i m hend =>
    rw [takeAttributes, if_pos hend] at h
    cases h
    exact SameLife.refl _
  | case2 i m hin hfind =>
    rw [takeAttributes, if_neg hin, hfind] at h
    cases h
  | case3 i m hin a hfind len htake =>
    rw [takeAttributes, if_neg hin, hfind] at h
    dsimp only at h
    rw [htake] at h
    cases h
  | case4 i m hin a hfind len m₁ htake ih =>
    rw [takeAttributes, if_neg hin, hfind] at h
    dsimp only at h
    rw [htake] at h
    refine SameLife.trans ?_ (ih h)
    unfold takeAttribute at htake
    split at htake
    · cases htake
      exact (SameLife.refl m).put _ (by decide)
    split at htake
    · cases htake
    · rename_i hro
      cases htake
      exact (SameLife.refl m).put _ (hfield a (List.mem_of_find?_eq_some hfind) (Bool.not_eq_true _ ▸ hro))

/-- WRITE ATTRIBUTE. -/
theorem counted_ssc_write_attributes (d : Drive) (cdb : Cdb) (buf : ℕ → UInt8) (found : Bool) :
    Counted 0 0 d (ssc_write_attributes d cdb buf found) := by
  have hd := Counted.declared d
  unfold ssc_write_attributes
  refine Counted.guarded (hd.report _) (Counted.guarded (hd.report _) (Counted.returns ?_ _))
  unfold resp_write_attribute
  dsimp only
  split
  · exact hd.report _
  · rename_i m hm
    have hset : Counted 0 0 d (d.declare_ssc_vars.setMam fun _ => m) :=
      hd.setMam (sameLife_takeAttributes hm)
    exact Counted.guarded hset hset.rewriteMAM

end Commands

end Mhvtl.Ssc
