import Mhvtl.Ssc.Lifetime
import Mhvtl.Ssc.PartitionCount
import Mhvtl.Ssc.Refusals

/-!
# A medium in a drive

A medium is a number of partitions and the records on them. What a drive knows of the one that is
in it, and which changes of the drive leave it the same cartridge.
-/

namespace Mhvtl.Ssc

open Bytes Cart Store

/-- A medium, apart from any drive. -/
structure Medium where
  /-- Number of partitions. -/
  n : ℕ
  /-- The records on each. -/
  recs : ℕ → List Record

/-- Records behind a place on a partition, in the place of those that were there. -/
def Medium.write (M : Medium) (p i : ℕ) (rs : List Record) : Medium :=
  { M with recs := Function.update M.recs p ((M.recs p).take i ++ rs) }

/-- A medium without records. -/
def Medium.blank (n : ℕ) : Medium := ⟨n, fun _ => []⟩

/-- A cartridge with the records of `M` is in the drive. -/
structure InDrive (M : Medium) (d : Drive) : Prop where
  /-- The drive says so. -/
  load_status : d.load_status = TAPE_LOADING ∨ d.load_status = TAPE_LOADED
  /-- There is a partition. -/
  n_pos : 1 ≤ M.n
  /-- The volume. -/
  mounted : Mounted M.n d.cart M.recs
  /-- The attributes count its partitions. -/
  count : d.cart.mam.num_partitions = M.n
  /-- No more than are allowed. -/
  le_max : M.n ≤ (d.cart.mam.byte .max_partitions).toNat
  /-- That goes by the kind of medium. -/
  max : d.cart.mam.byte .max_partitions = media_max_partitions (d.cart.mam.byte .MediaType)
  /-- The arrays behind it are clear. -/
  spare : Spare M.n d.cart
  /-- The meta files can be read back. -/
  map : ∀ q < M.n, HEADER_SIZE + (filemarksOf (M.recs q)).length * 4 < 2 ^ 32
  /-- Their blocks are kept, unless the medium is one that keeps none. -/
  kept : d.cart.mam.MediumType ≠ MEDIA_TYPE_NULL → ∀ q < M.n, ∀ r ∈ M.recs q, r.kept
  /-- The formats are up to date. -/
  versions : d.cart.mam.tape_fmt_version = TAPE_FMT_VERSION ∧
    d.cart.mam.mam_fmt_version = MAM_VERSION
  /-- The attribute files can be rewritten. -/
  sized : Sized d.cart
  /-- They are open. -/
  files : d.cart.mamfile = true ∧ d.cart.mhvtlfile = true

/-- Attributes that tell cartridges apart, or that are counted. -/
def heldFields : List MamField :=
  [.num_partitions, .max_partitions, .MediaType, .MediumType] ++ lifeFields

/-- Those of the kind of medium. -/
def kindFields : List MamField := [.max_partitions, .MediaType]

/-- Drives with the same cartridge, apart from its records. -/
structure SameCartridge (d d' : Drive) : Prop where
  /-- It is where it was. -/
  load_status : d'.load_status = d.load_status
  /-- The attribute files, and what the loads have counted. -/
  attrs : LifeKept d.cart d'.cart
  /-- The number of partitions. -/
  num : d'.cart.mam.num_partitions = d.cart.mam.num_partitions
  /-- The largest one. -/
  max : d'.cart.mam.byte .max_partitions = d.cart.mam.byte .max_partitions
  /-- The kind of medium. -/
  media : d'.cart.mam.byte .MediaType = d.cart.mam.byte .MediaType
  /-- A medium that keeps nothing does not turn into one that does. -/
  type : d'.cart.mam.MediumType ≠ MEDIA_TYPE_NULL → d.cart.mam.MediumType ≠ MEDIA_TYPE_NULL

namespace SameCartridge

variable {a b c d : Drive}

theorem refl (d : Drive) : SameCartridge d d := ⟨rfl, LifeKept.refl _, rfl, rfl, rfl, id⟩

theorem trans (h : SameCartridge a b) (h' : SameCartridge b c) : SameCartridge a c where
  load_status := h'.load_status.trans h.load_status
  attrs := h.attrs.trans h'.attrs
  num := h'.num.trans h.num
  max := h'.max.trans h.max
  media := h'.media.trans h.media
  type := fun hne => h.type (h'.type hne)

/-- Work on the cartridge that leaves its attributes alone. -/
theorem onCart (d : Drive) {c : Store} (hc : SameAttrs d.cart c) :
    SameCartridge d { d with cart := c } where
  load_status := rfl
  attrs := LifeKept.of_same hc
  num := congrArg Mam.num_partitions hc.mam
  max := congrArg (Mam.byte · .max_partitions) hc.mam
  media := congrArg (Mam.byte · .MediaType) hc.mam
  type := by
    rw [show ({ d with cart := c } : Drive).cart.mam = d.cart.mam from hc.mam]
    exact id

/-- Sense data. -/
theorem report (d : Drive) (st : Status) : SameCartridge d (d.report st) :=
  onCart d ⟨rfl, rfl, rfl, rfl, rfl⟩

/-- The status byte. -/
theorem returns (d : Drive) (sam_stat : ℕ) : SameCartridge d (d.returns sam_stat) :=
  onCart d ⟨rfl, rfl, rfl, rfl, rfl⟩

/-- A command that counts, on a medium whose type and partitions stay. -/
theorem of_counted {w r : ℕ} (h : Counted w r a b)
    (hnum : b.cart.mam.num_partitions = a.cart.mam.num_partitions)
    (hmax : b.cart.mam.byte .max_partitions = a.cart.mam.byte .max_partitions)
    (hmedia : b.cart.mam.byte .MediaType = a.cart.mam.byte .MediaType)
    (htype : b.cart.mam.MediumType = a.cart.mam.MediumType) : SameCartridge a b where
  load_status := h.load_status
  attrs := h.attrs
  num := hnum
  max := hmax
  media := hmedia
  type := by
    rw [htype]
    exact id

/-- Settings of the drive. -/
theorem settings (h : SameCartridge a b) (hcart : c.cart = b.cart)
    (hload : c.load_status = b.load_status) : SameCartridge a c := by
  refine h.trans ⟨hload, ?_, ?_, ?_, ?_, ?_⟩
  · rw [hcart]
    exact LifeKept.refl _
  · rw [hcart]
  · rw [hcart]
  · rw [hcart]
  · rw [hcart]
    exact id

/-- An attribute that does not tell cartridges apart. -/
theorem put (h : SameCartridge a b) {f : MamField} (bs : List UInt8) (hf : f ∉ heldFields) :
    SameCartridge a (b.setMam (·.put f bs)) := by
  have hne : ∀ g ∈ heldFields, g ≠ f := by
    rintro g hg rfl
    exact hf hg
  have hlife : f ∉ lifeFields := fun hmem => hf (List.mem_append_right _ hmem)
  have hbyte : ∀ g ∈ heldFields, (b.cart.mam.put f bs).byte g = b.cart.mam.byte g :=
    fun g hg => Mam.byte_put_other _ bs (hne g hg)
  refine h.trans ⟨rfl, LifeKept.of_mam b.cart ((SameLife.refl _).put bs hlife), ?_, ?_, ?_, ?_⟩
  · exact congrArg UInt8.toNat (hbyte .num_partitions (by decide))
  · exact hbyte .max_partitions (by decide)
  · exact hbyte .MediaType (by decide)
  · intro hnull
    rwa [← show (b.setMam (·.put f bs)).cart.mam.MediumType = b.cart.mam.MediumType from
      hbyte .MediumType (by decide)]

/-- The attribute files are written. -/
theorem rewriteMAM (h : SameCartridge a b) : SameCartridge a (b.onCart fun c => c.rewriteMAM.2) := by
  have hmam : (b.onCart fun c => c.rewriteMAM.2).cart.mam = b.cart.mam := Store.rewriteMAM_mam b.cart
  refine h.trans ⟨rfl, LifeKept.rewriteMAM b.cart, ?_, ?_, ?_, ?_⟩
  · rw [hmam]
  · rw [hmam]
  · rw [hmam]
  · rw [hmam]
    exact id

/-- One way or another. -/
theorem guarded {P : Prop} [Decidable P] (h : SameCartridge a b) (h' : SameCartridge a c) :
    SameCartridge a (if P then b else c) := by
  split
  · exact h
  · exact h'

/-- The volume change reference. -/
theorem update_volume_change_reference (d : Drive) :
    SameCartridge d (update_volume_change_reference d) := by
  unfold Ssc.update_volume_change_reference
  extract_lets vcr vcr' d₁
  have h₁ : SameCartridge d d₁ := (refl d).put _ (by decide)
  have h₂ : SameCartridge d { d₁ with vcr_updated := true } := h₁.settings rfl rfl
  exact guarded (refl d) h₂.rewriteMAM

/-- Whether the medium may be written. -/
theorem check_restrictions {ok : Bool} (h : check_restrictions d = some (ok, b)) :
    SameCartridge d b := by
  have hallow : ∀ {e : Drive} (b : Bool), SameCartridge d e →
      SameCartridge d (e.onCart fun c => { c with OK_to_write := b }) := fun b he =>
    he.trans (onCart _ ⟨rfl, rfl, rfl, rfl, rfl⟩)
  have hd : SameCartridge d d.declare_ssc_vars := returns d SAM_STAT_GOOD
  have hsense : ∀ st, SameCartridge d (d.declare_ssc_vars.report st) := fun st => hd.trans (report _ st)
  unfold Ssc.check_restrictions at h
  extract_lets d₀ allow refuse type d₁ at h
  have hrefuse : ∀ {e : Drive} {st : Status}, SameCartridge d e → refuse e st = some (ok, b) →
      SameCartridge d b := by
    intro e st he hr
    cases hr
    exact hallow false (he.trans (report _ st))
  have hd₁ : SameCartridge d d₁ := by
    unfold d₁
    refine guarded (hallow _ (hsense _)) (guarded (guarded (hallow _ hd)
      (guarded hd (hsense _))) (guarded (hallow _ hd) (hallow _ (hsense _))))
  split at h
  · cases h
  split at h
  · exact hrefuse hd h
  split at h
  · exact hrefuse hd h
  split at h
  · exact hrefuse hd h
  split at h
  · cases h
    exact hallow true hd
  split at h
  · exact hrefuse hd₁ h
  split at h
  · cases h
  · obtain rfl := congrArg Prod.snd (Option.some.inj h)
    exact hd₁

/-- The rules of a drive that chooses by the medium. -/
theorem setup_crypto (d : Drive) : SameCartridge d (setup_crypto d) := by
  have hd : SameCartridge d { d with app_encr_info := d.ENCRYPT_MODE = 2 } := (refl d).settings rfl rfl
  unfold Ssc.setup_crypto
  extract_lets d₁
  cases d.pm.valid_encryption_media with
  | none => exact hd
  | some t =>
    change SameCartridge d (valid_encryption_media_E06 d₁ t)
    unfold valid_encryption_media_E06
    extract_lets flags putFlags dOn d₂ density d₃ d₄ code
    have hput : ∀ {e : Drive} (n : ℕ), SameCartridge d e → SameCartridge d (putFlags e n) :=
      fun _ he => he.put _ (by decide)
    split
    · have h₂ : SameCartridge d d₂ := by
        unfold d₂
        split
        · split
          · exact settings (hput _ hd) rfl rfl
          · exact hput _ hd
        · exact hd
      have h₃ : SameCartridge d d₃ := h₂.settings rfl rfl
      exact ((h₃.put [density] (by decide)).put [density] (by decide)).rewriteMAM
    · exact guarded (hd.trans (report _ _)) (guarded (hd.trans (report _ _)) hd)

/-- The warnings. -/
theorem warnAndCount (d : Drive) (cap : ℕ) : SameCartridge d (warnAndCount d cap) := by
  unfold Ssc.warnAndCount
  extract_lets current early prog e difference remaining
  have he : SameCartridge d e := guarded (report _ _) (guarded (report _ _) (refl d))
  exact he.put _ (by decide)

section Writing

variable {L : Libs} {data : ℕ → UInt8}

/-- A block. -/
theorem block (h : SameCartridge a b) (args : BlockArgs) :
    SameCartridge a { b with cart := (b.cart.write_tape_block args).2 } :=
  h.trans (onCart b (SameAttrs.write_tape_block b.cart args))

/-- A block as it is. -/
theorem writeBlock_nocomp (d : Drive) (n : ℕ) (null_wr : Bool) (lbp_method : ℕ) :
    SameCartridge d (writeBlock_nocomp L d data n null_wr lbp_method).2 := by
  have hblock := (setup_crypto d).block (nocompArgs L (Ssc.setup_crypto d) data n null_wr)
  unfold Ssc.writeBlock_nocomp
  dsimp only
  split
  · exact hblock.trans (report _ _)
  · exact hblock.settings rfl rfl

/-- A block compressed. -/
theorem writeBlock_comp (d : Drive) (n : ℕ) (compress : List UInt8 → Option (List UInt8))
    (comp_type : UInt8) (null_wr : Bool) (lbp_method : ℕ) :
    SameCartridge d (writeBlock_comp L d data n compress comp_type null_wr lbp_method).2 := by
  have hsetup := setup_crypto d
  unfold Ssc.writeBlock_comp
  extract_lets d₁
  cases compress (bytesAt data 0 n) with
  | none => exact hsetup.trans (report _ _)
  | some dest_buf =>
    have hblock := hsetup.block (compArgs L d₁ data n dest_buf comp_type null_wr)
    have hcounted : SameCartridge d (Drive.countWritten { d₁ with
        cart := (d₁.cart.write_tape_block (compArgs L d₁ data n dest_buf comp_type null_wr)).2 }
        dest_buf.length n) := hblock.settings rfl rfl
    dsimp only
    split
    · exact hcounted.trans (report _ _)
    · exact hcounted

/-- A block one way or the other. -/
theorem writeChosen (d : Drive) (n lbp_method : ℕ) :
    SameCartridge d (writeChosen L d data n lbp_method).2 := by
  unfold Ssc.writeChosen
  split
  · exact writeBlock_nocomp d n true 0
  split
  · exact writeBlock_nocomp d n false lbp_method
  split
  · exact writeBlock_comp d n _ _ false lbp_method
  split
  · exact writeBlock_comp d n _ _ false lbp_method
  · exact writeBlock_nocomp d n false lbp_method

/-- Every attempt to write a block. -/
theorem writeBlock {sz k : ℕ} (hrun : writeBlock L d data sz = some (k, b)) : SameCartridge d b := by
  unfold Ssc.writeBlock at hrun
  extract_lets lbp_method lbp_sz at hrun
  split at hrun
  · cases hrun
  · rename_i cap hcap
    split at hrun
    · cases hrun
      exact ((refl d).put (beBytes 8 0) (by decide)).trans (report _ _)
    split at hrun
    · cases hrun
    have hchosen : SameCartridge d (Ssc.writeChosen L d data lbp_sz lbp_method).2 :=
      writeChosen d lbp_sz lbp_method
    generalize Ssc.writeChosen L d data lbp_sz lbp_method = w at hrun hchosen
    obtain ⟨src_len, d₁⟩ := w
    dsimp only at hrun
    split at hrun
    · cases hrun
      exact hchosen
    · cases hrun
      exact hchosen.trans (warnAndCount _ _)

end Writing

end SameCartridge

/-- A volume has one number of partitions. -/
theorem mounted_count {n m : ℕ} {c : Store} {recs recs' : ℕ → List Record} (h : Mounted n c recs)
    (h' : Mounted m c recs') : n = m := by
  have hsame : ∀ p, p < n ↔ p < m := fun p => (h.there .data p).symm.trans (h'.there .data p)
  have hn := hsame n
  have hm := hsame m
  omega

namespace InDrive

variable {M M' : Medium} {d d' : Drive}

/-- The medium is in the drive with other records. -/
theorem changed (h : InDrive M d) (hs : SameCartridge d d') (hn : M'.n = M.n)
    (hm : Mounted M.n d'.cart M'.recs) (hspare : Spare M.n d'.cart)
    (hmap : ∀ q < M.n, HEADER_SIZE + (filemarksOf (M'.recs q)).length * 4 < 2 ^ 32)
    (hkept : d'.cart.mam.MediumType ≠ MEDIA_TYPE_NULL → ∀ q < M.n, ∀ r ∈ M'.recs q, r.kept) :
    InDrive M' d' where
  load_status := by
    rw [hs.load_status]
    exact h.load_status
  n_pos := hn.symm ▸ h.n_pos
  mounted := hn.symm ▸ hm
  count := hs.num.trans (h.count.trans hn.symm)
  le_max := by
    rw [hn, hs.max]
    exact h.le_max
  max := by
    rw [hs.max, hs.media]
    exact h.max
  spare := hn.symm ▸ hspare
  map := hn.symm ▸ hmap
  kept := hn.symm ▸ hkept
  versions := ⟨hs.attrs.mam.versions.1.trans h.versions.1, hs.attrs.mam.versions.2.trans h.versions.2⟩
  sized := hs.attrs.sized h.sized
  files := ⟨hs.attrs.files.1.trans h.files.1, hs.attrs.files.2.trans h.files.2⟩

/-- It is there with the same records. -/
theorem same (h : InDrive M d) (hs : SameCartridge d d') (hm : Mounted M.n d'.cart M.recs)
    (hspare : Spare M.n d'.cart) : InDrive M d' :=
  h.changed hs rfl hm hspare h.map fun hne => h.kept (hs.type hne)

/-- Records were put behind a place. -/
theorem written (h : InDrive M d) (hs : SameCartridge d d') {p i : ℕ} {rs : List Record}
    (hm : Mounted M.n d'.cart (M.write p i rs).recs) (hspare : Spare M.n d'.cart)
    (hmap : HEADER_SIZE + (filemarksOf ((M.recs p).take i ++ rs)).length * 4 < 2 ^ 32)
    (hkept : d.cart.mam.MediumType ≠ MEDIA_TYPE_NULL → ∀ r ∈ rs, r.kept) :
    InDrive (M.write p i rs) d' := by
  refine h.changed hs rfl hm hspare (fun q hq => ?_) fun hne q hq r hr => ?_
  · by_cases hqp : q = p
    · subst hqp
      simpa [Medium.write] using hmap
    · simpa [Medium.write, hqp] using h.map q hq
  · have hold := h.kept (hs.type hne)
    by_cases hqp : q = p
    · subst hqp
      simp only [Medium.write, Function.update_self, List.mem_append] at hr
      rcases hr with hfront | hnew
      · exact hold q hq r (List.mem_of_mem_take hfront)
      · exact hkept (hs.type hne) r hnew
    · simp only [Medium.write, Function.update_of_ne hqp] at hr
      exact hold q hq r hr

/-- The count describes the volume. -/
theorem counted (h : InDrive M d) : VolumeCounted d := by
  refine ⟨⟨M.recs, ?_⟩, ?_, ?_, ?_⟩
  · rw [h.count]
    exact h.mounted
  · rw [h.count]
    exact h.spare
  · rw [h.count]
    exact h.n_pos
  · rw [h.count]
    exact h.le_max

/-- A volume that is still counted has the partitions that it had. -/
theorem recounted (h : InDrive M d) (hv : VolumeCounted d') (hm : Mounted M.n d'.cart M.recs) :
    d'.cart.mam.num_partitions = d.cart.mam.num_partitions ∧ Spare M.n d'.cart := by
  obtain ⟨recs, hm'⟩ := hv.mounted
  have hnum : d'.cart.mam.num_partitions = M.n := mounted_count hm' hm
  exact ⟨hnum.trans h.count.symm, hnum ▸ hv.spare⟩

/-- A volume that was formatted is in the drive without records. -/
theorem emptied (h : InDrive M d) (hc : Counted 0 0 d d') (hv : VolumeCounted d') {n : ℕ}
    (hm : Mounted n d'.cart fun _ => [])
    (hkind : ∀ f ∈ kindFields, d'.cart.mam.bytes f = d.cart.mam.bytes f) :
    InDrive (Medium.blank n) d' := by
  obtain ⟨recs, hm'⟩ := hv.mounted
  obtain rfl : d'.cart.mam.num_partitions = n := mounted_count hm' hm
  have hbyte : ∀ f ∈ kindFields, d'.cart.mam.byte f = d.cart.mam.byte f :=
    fun f hf => congrArg (List.headD · 0) (hkind f hf)
  refine ⟨?_, hv.pos, hm, rfl, hv.le_max, ?_, hv.spare, fun _ _ => ?_, fun _ _ _ r hr => ?_, ?_,
    hc.attrs.sized h.sized, ?_⟩
  · rw [hc.load_status]
    exact h.load_status
  · rw [hbyte _ (by decide), hbyte _ (by decide)]
    exact h.max
  · change HEADER_SIZE + 0 * 4 < 2 ^ 32
    decide
  · cases hr
  · exact ⟨hc.attrs.mam.versions.1.trans h.versions.1, hc.attrs.mam.versions.2.trans h.versions.2⟩
  · exact ⟨hc.attrs.files.1.trans h.files.1, hc.attrs.files.2.trans h.files.2⟩

end InDrive

end Mhvtl.Ssc
