import Mhvtl.Lib.Run
import Mhvtl.Ssc.AllOrNothing
import Mhvtl.Ssc.StatisticsPage
import Mhvtl.Ssc.WriteAttribute

/-!
# The number of partitions

The attributes count the partitions of the medium, and every loop over partitions goes by that
count. A medium partition page sets it before anything is formatted, to any number.
-/

namespace Mhvtl.Ssc

open Bytes Cart

/-- The commands that set or read the number of partitions. -/
inductive LayoutCommand where
  /-- MODE SELECT. -/
  | mode_select (cdb : Cdb) (buf : ℕ → UInt8)
  /-- FORMAT MEDIUM. -/
  | format_medium (cdb : Cdb)
  /-- SET CAPACITY. -/
  | set_capacity
  /-- LOCATE. -/
  | locate (cdb : Cdb)
  /-- READ ATTRIBUTE. -/
  | read_attributes (cdb : Cdb)
  /-- WRITE ATTRIBUTE. -/
  | write_attributes (cdb : Cdb) (buf : ℕ → UInt8) (found : Bool)
  /-- LOG SENSE, for a drive with the given pages and unit of capacity. -/
  | log_sense (log_pg : List UInt8) (capacity_unit : ℕ) (cdb : Cdb)

/-- The drive after the command. -/
def LayoutCommand.run (L : Libs) (d : Drive) : LayoutCommand → Option Drive
  | mode_select cdb buf => (ssc_mode_select d cdb buf).map Selected.drive
  | format_medium cdb => ssc_format_medium L d cdb
  | set_capacity => ssc_set_capacity d
  | locate cdb => ssc_locate d cdb
  | read_attributes cdb => (ssc_read_attributes L d cdb).map Answer.drive
  | write_attributes cdb buf found => some (ssc_write_attributes d cdb buf found)
  | log_sense log_pg capacity_unit cdb => (ssc_log_sense L log_pg capacity_unit d cdb).map Prod.snd

/-- The pages that MODE SELECT takes from place `i` to place `k`, whether or not they are inside
the list. -/
inductive Comes (buf : ℕ → UInt8) (count : ℕ) : ℕ → Drive → ℕ → Drive → Prop where
  /-- No page. -/
  | refl (i : ℕ) (d : Drive) : Comes buf count i d i d
  /-- A page that is applied. -/
  | applied {i k : ℕ} {d d₁ d₂ : Drive} (h : i < count) (he : ¬EndsWalk (pageAt buf i))
      (ha : applyPage d (pageAt buf i) = some d₁)
      (ht : Comes buf count (i + pageLength (pageAt buf i)) d₁ k d₂) : Comes buf count i d k d₂
  /-- A page that is passed over. -/
  | passed {i k : ℕ} {d d₂ : Drive} (h : i < count) (hp : PassedOver (pageAt buf i))
      (ht : Comes buf count (i + pageLength (pageAt buf i)) d k d₂) : Comes buf count i d k d₂

/-- A medium partition page is for a drive that has the page, and asks for as many partitions as
there are. -/
def AsksForAsMany (d : Drive) (p : ℕ → UInt8) : Prop :=
  lookup_mode_pg d.mode_pg MODE_MEDIUM_PARTITION 0 ≠ none ∧
    askedPartitions p = d.cart.mam.num_partitions

/-- When a command is harmless: MODE SELECT comes to no medium partition page that asks for another
number of partitions, and LOCATE does not name the partition behind the arrays. -/
def LayoutCommand.Sound (d : Drive) : LayoutCommand → Prop
  | mode_select cdb buf => ¬WrongFormat cdb buf → ¬SavesPages cdb → ∀ k d',
      Comes buf (parameterLength cdb) (pagesStart cdb buf) (described d cdb buf) k d' →
      k < parameterLength cdb → pageAt buf k 0 = MODE_MEDIUM_PARTITION →
      AsksForAsMany d' (pageAt buf k)
  | locate cdb => ∀ blk, locateTarget d.declare_ssc_vars cdb ≠ some (MAX_PARTITIONS, blk)
  | _ => True

/-- The count describes the medium: there is a partition and no more than the medium may have, and
the files are those of the partitions that are counted. -/
structure CountTells (d : Drive) : Prop where
  /-- There is one. -/
  pos : 1 ≤ d.cart.mam.num_partitions
  /-- There are no more than allowed. -/
  le_max : d.cart.mam.num_partitions ≤ (d.cart.mam.byte .max_partitions).toNat
  /-- They are those on the medium. -/
  there : ∀ kind p, (d.cart.dir.file kind p).isSome ↔ p < d.cart.mam.num_partitions

/-- No array is left: the command comes to an end, but for a FORMAT MEDIUM that follows the null
pointer of its check and a READ ATTRIBUTE that clears the buffer for a length below zero. -/
def LayoutCommand.Inside (L : Libs) (d : Drive) (c : LayoutCommand) : Prop :=
  (∃ d', c.run L d = some d') ∨ (∃ cdb, c = .format_medium cdb ∧ check_restrictions d = none) ∨
    ∃ cdb, c = .read_attributes cdb ∧ 2 ^ 31 ≤ beNat (bytesAt cdb 10 4)

/-- A volume with as many partitions as are counted. -/
structure VolumeCounted (d : Drive) : Prop where
  /-- The volume. -/
  mounted : ∃ recs, Mounted d.cart.mam.num_partitions d.cart recs
  /-- The arrays behind it. -/
  spare : Spare d.cart.mam.num_partitions d.cart
  /-- There is a partition. -/
  pos : 1 ≤ d.cart.mam.num_partitions
  /-- There are no more than allowed. -/
  le_max : d.cart.mam.num_partitions ≤ (d.cart.mam.byte .max_partitions).toNat

/-- A command is run. -/
def LayoutStep (L : Libs) (d : Drive) (c : LayoutCommand) (d' : Drive) : Prop :=
  c.Sound d ∧ c.run L d = some d'

namespace VolumeCounted

variable {L : Libs} {d d' : Drive} {cdb : Cdb} {buf : ℕ → UInt8}

/-- The count is right. -/
theorem tells (h : VolumeCounted d) : CountTells d := by
  obtain ⟨recs, hm⟩ := h.mounted
  exact ⟨h.pos, h.le_max, hm.there⟩

/-- The arrays have room. -/
theorem le_arrays (h : VolumeCounted d) : d.cart.mam.num_partitions ≤ MAX_PARTITIONS := by
  obtain ⟨recs, hm⟩ := h.mounted
  exact hm.n_le

/-- Nothing that counts was touched. -/
theorem same (h : VolumeCounted d) (ht : SameTape d.cart d'.cart)
    (hnum : d'.cart.mam.bytes .num_partitions = d.cart.mam.bytes .num_partitions)
    (hmax : d'.cart.mam.bytes .max_partitions = d.cart.mam.bytes .max_partitions) : VolumeCounted d' := by
  have hcount : d'.cart.mam.num_partitions = d.cart.mam.num_partitions := by
    rw [Mam.num_partitions, Mam.num_partitions, Mam.byte, Mam.byte, hnum]
  obtain ⟨recs, hm⟩ := h.mounted
  refine ⟨⟨recs, ?_⟩, ?_, ?_, ?_⟩
  · rw [hcount]
    exact ht.mounted hm
  · rw [hcount]
    exact h.spare.of_part fun q _ => ht.part q
  · rw [hcount]
    exact h.pos
  · rw [hcount, Mam.byte, hmax]
    exact h.le_max

/-- Permission and status do not count. -/
theorem alone (h : VolumeCounted d) (ha : LeftAlone d d') : VolumeCounted d' := by
  obtain ⟨ok, st, rfl⟩ := ha
  exact h.same (SameTape.of_mam d.cart d.cart.mam ok st) rfl rfl

/-- The settings of MODE SELECT do not either, when the count is among what was kept. -/
theorem outside (h : VolumeCounted d) (hk : KeptOutside d d')
    (hnum : d'.cart.mam.bytes .num_partitions = d.cart.mam.bytes .num_partitions) : VolumeCounted d' := by
  obtain ⟨pages, bd, method, w, r, a, o, e, m, st, hm, rfl⟩ := hk
  exact h.same (SameTape.of_mam d.cart m d.cart.OK_to_write st) hnum (hm _ (by decide))

end VolumeCounted

section Pages

variable {d d' : Drive} {p : ℕ → UInt8}

/-- The write mode is kept outside the cartridge. -/
theorem setWriteMode_cart (d : Drive) (write_mode : UInt8) : (d.setWriteMode write_mode).cart = d.cart := by
  unfold Drive.setWriteMode
  dsimp only
  split
  · rfl
  · rfl

/-- So is the extension page. -/
theorem extension_page_cart (d : Drive) (p : ℕ → UInt8) :
    (set_device_configuration_extension d p).2.cart = d.cart := by
  have hwarn : ∀ n, (d.setProgEarlyWarning n).cart = d.cart := by
    intro n
    unfold Drive.setProgEarlyWarning
    split
    · rfl
    · rfl
  unfold set_device_configuration_extension
  dsimp only
  split
  · rfl
  split
  · rfl
  split
  · rfl
  split
  · exact hwarn _
  · exact (setWriteMode_cart _ _).trans (hwarn _)

/-- No page but the medium partition page is about the cartridge. -/
theorem applyPage_cart (h : applyPage d p = some d') (hp : p 0 ≠ MODE_MEDIUM_PARTITION) :
    d'.cart = d.cart := by
  unfold applyPage at h
  dsimp only at h
  split at h
  · simp only [Option.ite_none_right_eq_some, Option.some.injEq] at h
    obtain ⟨-, rfl⟩ := h
    rfl
  split at h
  · split at h
    · simp only [Option.ite_none_right_eq_some, Option.some.injEq] at h
      obtain ⟨-, rfl⟩ := h
      exact extension_page_cart d p
    · simp only [Option.ite_none_right_eq_some, Option.some.injEq] at h
      obtain ⟨-, rfl⟩ := h
      rfl
  split at h
  · split at h
    · obtain rfl := Option.some.inj h
      rfl
    · simp only [Option.ite_none_right_eq_some, Option.some.injEq] at h
      obtain ⟨-, -, rfl⟩ := h
      unfold set_lbp update_logical_block_protection
      split
      · split
        · rfl
        · rfl
      · rfl
  · cases h

/-- Nor is a page that is refused. -/
theorem refusedPage_cart (d : Drive) (p : ℕ → UInt8) : (refusedPage d p).cart = d.cart := by
  unfold refusedPage
  split
  · exact extension_page_cart d p
  · rfl

/-- A medium partition page that asks for as many partitions as there are leaves their number. -/
theorem applyPage_as_many (ha : AsksForAsMany d p) (hp : p 0 = MODE_MEDIUM_PARTITION)
    (hmax : d.cart.mam.num_partitions ≤ MAX_PARTITIONS) :
    ∃ d', applyPage d p = some d' ∧
      d'.cart.mam.bytes .num_partitions = d.cart.mam.bytes .num_partitions := by
  obtain ⟨hthere, hasked⟩ := ha
  have hroom : ¬MAX_PARTITIONS < askedPartitions p := by omega
  have hother : p 0 ≠ MODE_DATA_COMPRESSION ∧ p 0 ≠ MODE_DEVICE_CONFIGURATION ∧ p 0 ≠ MODE_CONTROL := by
    rw [hp]
    decide
  have happ : applyPage d p = set_medium_partition d p := by
    simp only [applyPage, if_neg hother.1, if_neg hother.2.1, if_neg hother.2.2, if_pos hp]
  rw [happ, set_medium_partition, if_neg hthere, if_neg hroom]
  refine ⟨_, rfl, ?_⟩
  change (d.cart.mam.putByte .num_partitions (UInt8.ofNat (askedPartitions p))).bytes .num_partitions = _
  have hold : [UInt8.ofNat (askedPartitions p)] = d.cart.mam.bytes .num_partitions := by
    rw [hasked, Mam.num_partitions, UInt8.ofNat_toNat, Mam.byte]
    cases hb : d.cart.mam.bytes .num_partitions with
    | nil =>
      have hlen := Mam.bytes_length d.cart.mam .num_partitions
      rw [hb] at hlen
      exact absurd hlen (by decide)
    | cons b l =>
      have hlen := Mam.bytes_length d.cart.mam .num_partitions
      rw [hb] at hlen
      have hl : l = [] := List.eq_nil_of_length_eq_zero (Nat.succ.inj hlen)
      rw [hl]
      rfl
  rw [Mam.putByte, Mam.bytes_put_self _ rfl, hold]

end Pages

section Parts

variable {d : Drive} {cdb : Cdb} {buf : ℕ → UInt8}

/-- A drive that is about to be formatted still says how many partitions are allowed. -/
theorem formatStart_max (d : Drive) (cdb : Cdb) :
    (formatStart d cdb).cart.mam.bytes .max_partitions = d.cart.mam.bytes .max_partitions := by
  have hstart : (writeStart d).cart.mam.bytes .max_partitions = d.cart.mam.bytes .max_partitions :=
    update_volume_change_reference_other _ (by decide)
  unfold formatStart
  split
  · exact (Mam.bytes_put_other _ _ (by decide)).trans hstart
  · exact hstart

/-- Without a change of partition LOCATE stays in the one of the head. -/
theorem locateTarget_here {partition_no blk_no : ℕ}
    (h : locateTarget d cdb = some (partition_no, blk_no)) (hcp : ¬changesPartition cdb = true) :
    partition_no = d.cart.partition_id := by
  unfold locateTarget at h
  dsimp only at h
  rw [if_neg hcp, if_neg hcp] at h
  split at h
  · exact (Prod.mk.inj (Option.some.inj h)).1.symm
  split at h
  · exact (Prod.mk.inj (Option.some.inj h)).1.symm
  · cases h

/-- Attributes that a list can set are none of those that count. -/
theorem takeAttributes_other {p alloc_len i : ℕ} {m m' : Mam} {f : MamField}
    (hf : f ∉ mamAttributes.map (·.field)) (hs : f ∉ spareRecords)
    (h : takeAttributes p alloc_len buf i m = .inl m') : m'.bytes f = m.bytes f := by
  have hone : ∀ a ∈ mamAttributes, ∀ m value len m₁, takeAttribute m p a value len = some m₁ →
      m₁.bytes f = m.bytes f := by
    intro a ha m value len m₁ htake
    have hown : a.field ≠ f := fun heq => hf (heq ▸ List.mem_map_of_mem ha)
    have htype : MamField.MediumType ∈ mamAttributes.map (·.field) := by decide
    unfold takeAttribute at htake
    split at htake
    · obtain rfl := Option.some.inj htake
      exact Mam.bytes_put_other _ _ fun heq => hf (heq ▸ htype)
    split at htake
    · cases htake
    · obtain rfl := Option.some.inj htake
      refine Mam.bytes_put_other _ _ fun heq => ?_
      rcases attrField_cases a p with hfield | ⟨-, hspare⟩
      · exact hown (hfield.symm.trans heq.symm)
      · exact hs (heq ▸ hspare)
  fun_induction takeAttributes p alloc_len buf i m with
  | case1 i m hend => exact congrArg (Mam.bytes · f) (Sum.inl.inj h).symm
  | case2 i m hgo hfind => cases h
  | case3 i m hgo a hfind len htake => cases h
  | case4 i m hgo a hfind len m₁ htake ih =>
    exact (ih h).trans (hone a (List.mem_of_find?_eq_some hfind) m _ _ m₁ htake)

end Parts

namespace VolumeCounted

variable {L : Libs} {d d' : Drive} {cdb : Cdb} {buf : ℕ → UInt8}

/-- The walk of MODE SELECT over harmless pages. -/
theorem selectPages {count rounds i reads : ℕ} (h : VolumeCounted d) (hpos : 0 < rounds)
    (hrounds : count < rounds + i)
    (hpages : ∀ k d', Comes buf count i d k d' → k < count → pageAt buf k 0 = MODE_MEDIUM_PARTITION →
      AsksForAsMany d' (pageAt buf k)) :
    ∃ r, Ssc.selectPages buf count rounds i reads d = some r ∧ VolumeCounted r.drive := by
  induction rounds generalizing i reads d with
  | zero => exact absurd hpos (Nat.lt_irrefl 0)
  | succ rounds ih =>
    have hreport : ∀ {e : Drive} (st : Status), VolumeCounted e → VolumeCounted (e.report st) :=
      fun st he => he.alone (LeftAlone.report _ st)
    have hgood : ∀ {e : Drive}, VolumeCounted e → VolumeCounted (e.returns SAM_STAT_GOOD) :=
      fun he => he.alone (LeftAlone.returns _ SAM_STAT_GOOD)
    have hstays : ∀ {e : Drive}, e.cart = d.cart → VolumeCounted e := by
      intro e he
      refine h.same ?_ (by rw [he]) (by rw [he])
      rw [he]
      exact SameTape.refl d.cart
    rw [Ssc.selectPages]
    by_cases hend : count ≤ i
    · rw [if_pos hend]
      exact ⟨_, rfl, hgood h⟩
    rw [if_neg hend]
    have hlt : i < count := Nat.lt_of_not_le hend
    have hlen := pageLength_pos (pageAt buf i)
    have hpage := hpages i d (.refl i d) hlt
    have hcase := selectPage_case d (pageAt buf i) i
    dsimp only
    generalize selectPage d (pageAt buf i) i = r at hcase ⊢
    cases hcase with
    | passed hover =>
      exact ih h (by omega) (by omega) fun k d' hk => hpages k d' (.passed hlt hover hk)
    | next e happ _ he =>
      have hcart := applyPage_cart happ fun hm => he (Or.inr hm)
      exact ih (hstays hcart) (by omega) (by omega) fun k d' hk => hpages k d' (.applied hlt he happ hk)
    | done e happ _ he =>
      refine ⟨_, rfl, hgood ?_⟩
      by_cases hm : pageAt buf i 0 = MODE_MEDIUM_PARTITION
      · obtain ⟨e', happ', hnum⟩ := applyPage_as_many (hpage hm) hm h.le_arrays
        obtain rfl := Option.some.inj (happ.symm.trans happ')
        exact h.outside (applyPage_frame happ).kept hnum
      · exact hstays (applyPage_cart happ hm)
    | refused s _ _ _ => exact ⟨_, rfl, hreport s (hstays (refusedPage_cart d _))⟩
    | lost hnone _ hm =>
      obtain ⟨e', happ', -⟩ := applyPage_as_many (hpage hm) hm h.le_arrays
      exact absurd (hnone.symm.trans happ') (Option.some_ne_none e').symm

/-- MODE SELECT of a harmless list. -/
theorem mode_select (h : VolumeCounted d) (hsound : (LayoutCommand.mode_select cdb buf).Sound d) :
    ∃ r, ssc_mode_select d cdb buf = some r ∧ VolumeCounted r.drive := by
  have hstart : VolumeCounted d.declare_ssc_vars := h.alone (LeftAlone.returns d SAM_STAT_GOOD)
  have hdescribed : VolumeCounted (described d cdb buf) :=
    h.outside (KeptOutside.describe d cdb buf) rfl
  obtain ⟨hfirst, hsecond, hthird⟩ := ssc_mode_select_cases d cdb buf
  by_cases hf : WrongFormat cdb buf
  · obtain ⟨s, hs⟩ := hfirst hf
    exact ⟨_, hs, hstart.alone (LeftAlone.report _ s)⟩
  by_cases hsp : SavesPages cdb
  · obtain ⟨s, hs⟩ := hsecond hf hsp
    exact ⟨_, hs, hdescribed.alone (LeftAlone.report _ s)⟩
  rw [hthird hf hsp]
  exact hdescribed.selectPages (Nat.succ_pos _) (by omega) (hsound hf hsp)

/-- What is formatted is counted. -/
theorem of_format {n : ℕ} {recs : ℕ → List Record} {e : Drive} (hm : Mounted n e.cart recs)
    (hs : Spare n e.cart) (hpos : 1 ≤ e.cart.mam.num_partitions)
    (hmax : e.cart.mam.num_partitions ≤ MAX_PARTITIONS)
    (hle : e.cart.mam.num_partitions ≤ (e.cart.mam.byte .max_partitions).toNat) :
    ∃ e', e.formatTape = some e' ∧ VolumeCounted e' := by
  obtain ⟨c, hrun, hattrs, -, hspare, hopen⟩ := hm.format_tape_spare hs hmax
  have hnum : c.mam.num_partitions = e.cart.mam.num_partitions := by rw [hattrs.mam]
  refine ⟨{ e with cart := c }, Option.map_eq_some_iff.mpr ⟨c, hrun, rfl⟩, ⟨fun _ => [], ?_⟩, ?_, ?_, ?_⟩
  · rw [hnum]
    exact (hopen hpos).1
  · rw [hnum]
    exact hspare
  · rw [hnum]
    exact hpos
  · rw [hnum]
    change e.cart.mam.num_partitions ≤ (c.mam.byte .max_partitions).toNat
    rw [hattrs.mam]
    exact hle

/-- FORMAT MEDIUM that is accepted. -/
theorem reformat {n : ℕ} {recs : ℕ → List Record} {e : Drive} (hm : Mounted n e.cart recs)
    (hs : Spare n e.cart) (hpos : 1 ≤ e.cart.mam.num_partitions)
    (hmax : e.cart.mam.num_partitions ≤ MAX_PARTITIONS)
    (hle : e.cart.mam.num_partitions ≤ (e.cart.mam.byte .max_partitions).toNat) :
    ∃ e', e.reformat L = some e' ∧ VolumeCounted e' := by
  obtain ⟨e₁, hrun, hcounted⟩ := of_format hm hs hpos hmax hle
  have hcount : partitionCount e₁.cart.mam ≤ MAX_PARTITIONS := by
    rw [partitionCount]
    split
    · decide
    · exact hcounted.le_arrays
  obtain ⟨size, -, hset⟩ := @set_medium_partition_capacity_spec L e₁ hcount
  have hfields : ∀ k < MAX_PARTITIONS, MamField.num_partitions ≠ partitionCapacity k ∧
      MamField.max_partitions ≠ partitionCapacity k := by decide
  let e₂ : Drive := e₁.setMam (recordCapacities (partitionCount e₁.cart.mam) size)
  have hrecorded : VolumeCounted e₂ :=
    hcounted.same (SameTape.of_mam e₁.cart _ e₁.cart.OK_to_write e₁.cart.status)
      (recordCapacities_other _ _ _ fun k hk => (hfields k hk).1)
      (recordCapacities_other _ _ _ fun k hk => (hfields k hk).2)
  have hstored : VolumeCounted (e₂.onCart fun c => c.rewriteMAM.2) :=
    hrecorded.same (SameTape.rewriteMAM e₂.cart)
      (congrArg (Mam.bytes · .num_partitions) (Store.rewriteMAM_mam e₂.cart))
      (congrArg (Mam.bytes · .max_partitions) (Store.rewriteMAM_mam e₂.cart))
  refine ⟨_, ?_, hstored.alone (LeftAlone.returns _ SAM_STAT_GOOD)⟩
  rw [Drive.reformat, hrun, Option.bind_some, hset]
  rfl

/-- FORMAT MEDIUM, but for one that follows a null pointer. -/
theorem format_medium (h : VolumeCounted d) (hcheck : check_restrictions d ≠ none) :
    ∃ d', ssc_format_medium L d cdb = some d' ∧ VolumeCounted d' := by
  obtain ⟨⟨allowed, d₁⟩, hcheck⟩ := Option.ne_none_iff_exists'.mp hcheck
  by_cases haccept : FormatAccepted d cdb allowed
  · obtain ⟨recs, hm⟩ := h.mounted
    have hprep := formatStart_prepared hm h.spare cdb
    have hnum := formatStart_num d cdb
    have hpos := h.pos
    have hle := h.le_max
    have harrays := h.le_arrays
    have hmax : (formatStart d cdb).cart.mam.byte .max_partitions = d.cart.mam.byte .max_partitions := by
      rw [Mam.byte, Mam.byte, formatStart_max]
    have hone : (1 : ℕ) ≤ MAX_PARTITIONS := by decide
    rw [ssc_format_medium_accepted hcheck haccept]
    refine reformat hprep.mounted hprep.spare ?_ ?_ ?_
    · rw [hnum]
      split
      · exact le_refl 1
      · exact hpos
    · rw [hnum]
      split
      · exact hone
      · exact harrays
    · rw [hnum, hmax]
      split
      · exact hpos.trans hle
      · exact hle
  · have h₁ : VolumeCounted d₁ := h.alone (check_restrictions_alone hcheck)
    have hcheck' : check_restrictions d.declare_ssc_vars = some (allowed, d₁) := hcheck
    have hreport : ∀ {e : Drive} (st : Status), VolumeCounted e → VolumeCounted (e.report st) :=
      fun st he => he.alone (LeftAlone.report _ st)
    cases allowed with
    | false =>
      refine ⟨d₁.returns SAM_STAT_CHECK_CONDITION, ?_, h₁.alone (LeftAlone.returns _ _)⟩
      simp only [ssc_format_medium, hcheck']
    | true =>
      have hpos : d₁.cart.c_pos.blk_number = d.cart.c_pos.blk_number := by
        rw [check_restrictions_true hcheck]
        rfl
      by_cases hblk : d.cart.c_pos.blk_number = 0
      · have hinvalid : cdb 2 &&& 0x0f ≠ 0 ∧ cdb 2 &&& 0x0f ≠ 1 ∧ cdb 2 &&& 0x0f ≠ 2 :=
          ⟨fun h0 => haccept ⟨rfl, hblk, Or.inl h0⟩, fun h1 => haccept ⟨rfl, hblk, Or.inr (Or.inl h1)⟩,
            fun h2 => haccept ⟨rfl, hblk, Or.inr (Or.inr h2)⟩⟩
        have hcounted : VolumeCounted (update_volume_change_reference d₁) :=
          h₁.same (update_volume_change_reference_beside d₁).tape
            (update_volume_change_reference_other d₁ (by decide))
            (update_volume_change_reference_other d₁ (by decide))
        refine ⟨_, ?_, hreport (sam_illegal_request E_INVALID_FIELD_IN_CDB none) hcounted⟩
        simp only [ssc_format_medium, hcheck', hpos, hblk, ne_eq, not_true_eq_false, if_false]
        rw [if_pos hinvalid]
      · refine ⟨_, ?_, hreport (sam_illegal_request E_POSITION_PAST_BOM none) h₁⟩
        simp only [ssc_format_medium, hcheck', hpos]
        rw [if_pos hblk]

/-- SET CAPACITY. -/
theorem set_capacity (h : VolumeCounted d) : ∃ d', ssc_set_capacity d = some d' ∧ VolumeCounted d' := by
  by_cases haccept : CapacityAccepted d
  · obtain ⟨recs, hm⟩ := h.mounted
    have hone : (d.declare_ssc_vars.setMam (·.putByte .num_partitions 1)).cart.mam.num_partitions = 1 :=
      num_putByte d.cart.mam (by decide : 1 < 256)
    have hmax : (d.cart.mam.putByte .num_partitions 1).byte .max_partitions =
        d.cart.mam.byte .max_partitions := Mam.byte_put_other _ _ (by decide)
    have harrays : (1 : ℕ) ≤ MAX_PARTITIONS := by decide
    obtain ⟨e, hrun, he⟩ := @of_format d.cart.mam.num_partitions recs
      (d.declare_ssc_vars.setMam (·.putByte .num_partitions 1))
      ((SameTape.of_mam d.cart _ d.cart.OK_to_write _).mounted hm) h.spare (by rw [hone])
      (by rw [hone]; exact harrays) (by
        rw [hone]
        change 1 ≤ ((d.cart.mam.putByte .num_partitions 1).byte .max_partitions).toNat
        rw [hmax]
        exact h.pos.trans h.le_max)
    rw [ssc_set_capacity_accepted haccept, hrun]
    exact ⟨_, rfl, he.alone (LeftAlone.returns _ SAM_STAT_GOOD)⟩
  · obtain ⟨d', hrun, hleft⟩ := ssc_set_capacity_rejected haccept
    exact ⟨d', hrun, h.alone hleft⟩

/-- LOCATE to a partition that the arrays have room for. -/
theorem locate (h : VolumeCounted d) (hsound : (LayoutCommand.locate cdb).Sound d) :
    ∃ d', ssc_locate d cdb = some d' ∧ VolumeCounted d' := by
  have hstart : VolumeCounted d.declare_ssc_vars := h.alone (LeftAlone.returns d SAM_STAT_GOOD)
  obtain ⟨recs, hm⟩ := hstart.mounted
  unfold ssc_locate
  dsimp only
  split
  · exact ⟨_, rfl, hstart.alone (LeftAlone.returns _ _)⟩
  cases htarget : locateTarget d.declare_ssc_vars cdb with
  | none => exact ⟨_, rfl, hstart.alone (LeftAlone.report _ _)⟩
  | some target =>
    obtain ⟨partition_no, blk_no⟩ := target
    dsimp only
    split
    · exact ⟨_, rfl, hstart.alone (LeftAlone.report _ _)⟩
    · rename_i hnum
      have hlt : partition_no < MAX_PARTITIONS := by
        by_cases hcp : changesPartition cdb = true
        · have hle : partition_no ≤ d.cart.mam.num_partitions :=
            Nat.le_of_not_lt fun hbig => hnum ⟨hcp, hbig⟩
          have hne : partition_no ≠ MAX_PARTITIONS := by
            rintro rfl
            exact hsound blk_no htarget
          exact lt_of_le_of_ne (hle.trans h.le_arrays) hne
        · rw [locateTarget_here htarget hcp]
          rcases hm.place with ⟨p, i, hp, hat⟩ | ⟨-, hplace⟩
          · rw [hat.partition_id]
            exact hp.trans_le hm.n_le
          · exact hplace
      rw [if_neg (Nat.not_le_of_lt hlt)]
      let c := (d.declare_ssc_vars.cart.change_partition partition_no).2
      have hthere : Mounted d.declare_ssc_vars.cart.mam.num_partitions c recs :=
        (hm.change_partition hlt).1
      have hblock := hthere.position_to_block (blk_no % 2 ^ 32)
      have hmam : (c.position_to_block (blk_no % 2 ^ 32)).2.mam = d.cart.mam :=
        hblock.mam.trans (SameAttrs.change_partition d.declare_ssc_vars.cart partition_no).mam
      refine ⟨_, rfl, ⟨recs, ?_⟩, ?_, ?_, ?_⟩
      · change Mounted (c.position_to_block (blk_no % 2 ^ 32)).2.mam.num_partitions _ recs
        rw [hmam]
        exact hblock.mounted
      · change Spare (c.position_to_block (blk_no % 2 ^ 32)).2.mam.num_partitions _
        rw [hmam]
        exact (hstart.spare.change_partition partition_no).elsewhere hblock
      · change 1 ≤ (c.position_to_block (blk_no % 2 ^ 32)).2.mam.num_partitions
        rw [hmam]
        exact h.pos
      · change (c.position_to_block (blk_no % 2 ^ 32)).2.mam.num_partitions ≤
          ((c.position_to_block (blk_no % 2 ^ 32)).2.mam.byte .max_partitions).toNat
        rw [hmam]
        exact h.le_max

/-- Every attribute has a value as long as the arrays have room for the partitions. -/
theorem attributeValues_some (h : VolumeCounted d) (p alloc_len : ℕ) (l : List MamAttr) (n : ℕ) :
    ∃ r, attributeValues L d p alloc_len l n = some r := by
  have hvalue : ∀ a, ∃ value, mam_attr_value L d a p = some value := by
    intro a
    obtain ⟨cap, hcap⟩ := capacity_defined (L := L) h.le_arrays p
    rw [mam_attr_value, hcap]
    split
    · exact ⟨_, rfl⟩
    split
    · exact ⟨_, rfl⟩
    · exact ⟨_, rfl⟩
  induction l generalizing n with
  | nil => exact ⟨_, rfl⟩
  | cons a l ih =>
    obtain ⟨value, hv⟩ := hvalue a
    obtain ⟨r, hr⟩ := ih (n + a.field.length + 5)
    simp only [attributeValues, hv, hr]
    split
    · exact ⟨_, rfl⟩
    · exact ⟨_, rfl⟩

/-- READ ATTRIBUTE answers whenever its length is not below zero. -/
theorem read_attributes (h : VolumeCounted d) :
    (∃ a, ssc_read_attributes L d cdb = some a ∧ VolumeCounted a.drive) ∨
      2 ^ 31 ≤ beNat (bytesAt cdb 10 4) ∧ ssc_read_attributes L d cdb = none := by
  have hstart : VolumeCounted d.declare_ssc_vars := h.alone (LeftAlone.returns d SAM_STAT_GOOD)
  have hreport : ∀ st, VolumeCounted (d.declare_ssc_vars.report st) :=
    fun st => hstart.alone (LeftAlone.report _ st)
  unfold ssc_read_attributes resp_read_attribute
  dsimp only
  split
  · exact Or.inl ⟨_, rfl, hreport _⟩
  split
  · exact Or.inl ⟨_, rfl, hreport _⟩
  split
  · exact Or.inl ⟨_, rfl, hreport _⟩
  split
  · split
    · next hneg => exact Or.inr ⟨hneg, rfl⟩
    split
    · split
      · exact Or.inl ⟨_, rfl, hreport _⟩
      · obtain ⟨r, hr⟩ := hstart.attributeValues_some (L := L) (cdb 7).toNat
          (beNat (bytesAt cdb 10 4)) (attributesFrom (beNat (bytesAt cdb 8 2))) 4
        rw [attributesFrom] at hr
        rw [hr]
        exact Or.inl ⟨_, rfl, hstart⟩
    · exact Or.inl ⟨_, rfl, hstart⟩
  split
  · exact Or.inl ⟨_, rfl, hstart⟩
  · exact Or.inl ⟨_, rfl, hreport _⟩

/-- LOG SENSE. -/
theorem log_sense (h : VolumeCounted d) (log_pg : List UInt8) (capacity_unit : ℕ) :
    ∃ r, ssc_log_sense L log_pg capacity_unit d cdb = some r ∧ VolumeCounted r.2 := by
  have hstart : VolumeCounted d.declare_ssc_vars := h.alone (LeftAlone.returns d SAM_STAT_GOOD)
  have hstatistics : ∃ pg, update_VolumeStatistics L capacity_unit d.declare_ssc_vars = some pg := by
    obtain ⟨g, hg⟩ := capacities_defined (L := L) hstart.le_arrays
    unfold update_VolumeStatistics
    dsimp only
    rw [if_neg (Nat.not_lt_of_le hstart.le_arrays), hg]
    split
    · exact ⟨_, rfl⟩
    · exact ⟨_, rfl⟩
  have hcapacity : ∃ pg, update_TapeCapacity L capacity_unit d.declare_ssc_vars = some pg := by
    obtain ⟨cap0, hcap0⟩ := capacity_defined (L := L) hstart.le_arrays 0
    obtain ⟨cap1, hcap1⟩ := capacity_defined (L := L) hstart.le_arrays 1
    unfold update_TapeCapacity
    rw [hcap0, hcap1]
    split
    · exact ⟨_, rfl⟩
    · exact ⟨_, rfl⟩
  obtain ⟨pg, hpg⟩ := hstatistics
  obtain ⟨pg', hpg'⟩ := hcapacity
  unfold ssc_log_sense
  dsimp only
  rw [hpg, hpg']
  split
  · exact ⟨_, rfl, hstart.alone (LeftAlone.report _ _)⟩
  split
  · exact ⟨_, rfl, hstart⟩
  split
  · exact ⟨_, rfl, hstart⟩
  · exact ⟨_, rfl, hstart⟩

/-- WRITE ATTRIBUTE. -/
theorem write_attributes (h : VolumeCounted d) (found : Bool) :
    VolumeCounted (ssc_write_attributes d cdb buf found) := by
  have hstart : VolumeCounted d.declare_ssc_vars := h.alone (LeftAlone.returns d SAM_STAT_GOOD)
  unfold ssc_write_attributes
  dsimp only
  split
  · exact hstart.alone (LeftAlone.report _ _)
  split
  · exact hstart.alone (LeftAlone.report _ _)
  · refine VolumeCounted.alone ?_ (LeftAlone.returns _ SAM_STAT_GOOD)
    unfold resp_write_attribute
    dsimp only
    cases htake : takeAttributes (cdb 7).toNat (beNat (bytesAt cdb 10 4)) buf 4
        d.declare_ssc_vars.cart.mam with
    | inr field => exact hstart.alone (LeftAlone.report _ _)
    | inl m =>
      have hset : VolumeCounted (d.declare_ssc_vars.setMam fun _ => m) :=
        hstart.same (SameTape.of_mam _ m _ _) (takeAttributes_other (by decide) (by decide) htake)
          (takeAttributes_other (by decide) (by decide) htake)
      dsimp only
      split
      · exact hset
      · exact hset.same (SameTape.rewriteMAM _) (congrArg (Mam.bytes · .num_partitions)
          (Store.rewriteMAM_mam _)) (congrArg (Mam.bytes · .max_partitions) (Store.rewriteMAM_mam _))

/-- A harmless command comes to an end, and the count still describes the medium behind it. -/
theorem step {c : LayoutCommand} (h : VolumeCounted d) (hsound : c.Sound d) :
    c.Inside L d ∧ ∀ d', c.run L d = some d' → VolumeCounted d' := by
  have hdone : ∀ {r : Option Drive}, (∃ d', r = some d' ∧ VolumeCounted d') →
      (∃ d', r = some d') ∧ ∀ d', r = some d' → VolumeCounted d' := by
    rintro r ⟨e, rfl, he⟩
    exact ⟨⟨e, rfl⟩, fun d' hd' => Option.some.inj hd' ▸ he⟩
  have hinside : ∀ {c : LayoutCommand}, (∃ d', c.run L d = some d' ∧ VolumeCounted d') →
      c.Inside L d ∧ ∀ d', c.run L d = some d' → VolumeCounted d' :=
    fun hc => ⟨Or.inl (hdone hc).1, (hdone hc).2⟩
  cases c with
  | mode_select cdb buf =>
    obtain ⟨r, hr, hcounted⟩ := h.mode_select hsound
    exact hinside ⟨r.drive, congrArg (Option.map Selected.drive) hr, hcounted⟩
  | format_medium cdb =>
    by_cases hcheck : check_restrictions d = none
    · refine ⟨Or.inr (Or.inl ⟨cdb, rfl, hcheck⟩), fun d' hd' => ?_⟩
      have hcheck' : check_restrictions d.declare_ssc_vars = none := hcheck
      rw [LayoutCommand.run, ssc_format_medium] at hd'
      simp only [hcheck'] at hd'
      cases hd'
    · exact hinside (h.format_medium hcheck)
  | set_capacity => exact hinside h.set_capacity
  | locate cdb => exact hinside (h.locate hsound)
  | read_attributes cdb =>
    rcases @read_attributes L d cdb h with ⟨a, ha, hcounted⟩ | ⟨hneg, hnone⟩
    · exact hinside ⟨a.drive, congrArg (Option.map Answer.drive) ha, hcounted⟩
    · refine ⟨Or.inr (Or.inr ⟨cdb, rfl, hneg⟩), fun d' hd' => ?_⟩
      rw [LayoutCommand.run, hnone] at hd'
      cases hd'
  | write_attributes cdb buf found => exact hinside ⟨_, rfl, h.write_attributes found⟩
  | log_sense log_pg capacity_unit cdb =>
    obtain ⟨r, hr, hcounted⟩ := @log_sense L d cdb h log_pg capacity_unit
    exact hinside ⟨r.2, congrArg (Option.map Prod.snd) hr, hcounted⟩

/-- So it does behind a run of them. -/
theorem run {cs : List LayoutCommand} (h : VolumeCounted d) (hrun : Run (LayoutStep L) d cs d') :
    VolumeCounted d' := by
  refine Run.invariant ?_ hrun h
  rintro a c b ha ⟨hsound, hb⟩
  exact (ha.step hsound).2 b hb

end VolumeCounted

/-- In every run of harmless commands the count describes the medium, and no harmless command leaves
the arrays. -/
theorem partition_count_kept (L : Libs) {d d' : Drive} {cs : List LayoutCommand}
    (hstart : VolumeCounted d) (hrun : Run (LayoutStep L) d cs d') :
    CountTells d' ∧ ∀ c : LayoutCommand, c.Sound d' → c.Inside L d' := by
  have hcounted := hstart.run hrun
  exact ⟨hcounted.tells, fun c hc => (hcounted.step hc).1⟩

/-- A drive with a cartridge of one partition that may have four. -/
def fourDrive : Drive :=
  { emptyDrive with
    cart := { emptyDrive.cart with
      mam := (emptyDrive.cart.mam.putByte .num_partitions 1).putByte .max_partitions 4 }
    mode_pg := [add_mode_medium_partition] }

/-- The cartridge is counted. -/
theorem fourDrive_counted : VolumeCounted fourDrive := by
  have hnum : fourDrive.cart.mam.num_partitions = 1 := by decide +kernel
  refine ⟨⟨fun _ => [], ?_⟩, ?_, by rw [hnum], by decide +kernel⟩
  · rw [hnum]
    exact (SameTape.of_mam emptyDrive.cart _ emptyDrive.cart.OK_to_write
      emptyDrive.cart.status).mounted emptyDrive_mounted
  · rw [hnum]
    exact emptyDrive_spare

/-- MODE SELECT(6) of 20 bytes in page format. -/
def selectPartitionsCdb : Cdb
  | 0 => 0x15
  | 1 => 0x10
  | 4 => 20
  | _ => 0

/-- Header, and a medium partition page with a number of additional partitions. -/
def additionalPartitions (n : UInt8) : ℕ → UInt8
  | 4 => 0x11
  | 5 => 0x0e
  | 7 => n
  | _ => 0

/-- Nothing comes behind the list. -/
theorem Comes.behind {buf : ℕ → UInt8} {count i k : ℕ} {d d' : Drive} (h : Comes buf count i d k d')
    (hi : count ≤ i) : count ≤ k := by
  cases h with
  | refl => exact hi
  | applied hlt => exact absurd hi (Nat.not_le_of_lt hlt)
  | passed hlt => exact absurd hi (Nat.not_le_of_lt hlt)

/-- The page asks for the partition that there is. -/
theorem no_additional_sound :
    (LayoutCommand.mode_select selectPartitionsCdb (additionalPartitions 0)).Sound fourDrive := by
  intro _ _ k d' hcomes hk hpage
  have hnext : 20 ≤ pagesStart selectPartitionsCdb (additionalPartitions 0) +
      pageLength (pageAt (additionalPartitions 0)
        (pagesStart selectPartitionsCdb (additionalPartitions 0))) := by decide
  have hlength : parameterLength selectPartitionsCdb = 20 := rfl
  rw [hlength] at hcomes hk
  cases hcomes with
  | refl => exact ⟨by decide +kernel, by decide +kernel⟩
  | applied h he ha ht => exact absurd (ht.behind hnext) (Nat.not_le_of_lt hk)
  | passed h hp ht => exact absurd (ht.behind hnext) (Nat.not_le_of_lt hk)

/-- FORMAT MEDIUM to the partitions that are counted. -/
def samePartitionsCdb : Cdb
  | 2 => 1
  | _ => 0

/-- LOCATE(10) to the first block of the first partition. -/
def firstBlockCdb : Cdb
  | 0 => LOCATE_10
  | 1 => 2
  | _ => 0

/-- MODE SELECT of the partition that there is, FORMAT MEDIUM to it, LOCATE to its first block, SET
CAPACITY, WRITE ATTRIBUTE of no attribute, and LOG SENSE. -/
def layoutCommands : List LayoutCommand :=
  [.mode_select selectPartitionsCdb (additionalPartitions 0),
    .format_medium samePartitionsCdb, .locate firstBlockCdb, .set_capacity,
    .write_attributes (fun _ => 0) (fun _ => 0) false, .log_sense [] 1 fun _ => 0]

/-- They are run on it. -/
theorem layoutCommands_run : ∃ d', Run (LayoutStep storedLibs) fourDrive layoutCommands d' ∧
    CountTells d' ∧ ∀ c : LayoutCommand, c.Sound d' → c.Inside storedLibs d' := by
  obtain ⟨r₁, h₁, hcounted₁⟩ := fourDrive_counted.mode_select no_additional_sound
  have hcheck : check_restrictions r₁.drive ≠ none := by
    have hseen : ((ssc_mode_select fourDrive selectPartitionsCdb (additionalPartitions 0)).map
        fun r => (check_restrictions r.drive).isNone) = some false := by decide +kernel
    rw [h₁, Option.map_some, Option.some_inj] at hseen
    exact fun hnone => Bool.noConfusion (hseen.symm.trans (Option.isNone_iff_eq_none.mpr hnone))
  obtain ⟨d₂, h₂, hcounted₂⟩ :=
    @VolumeCounted.format_medium storedLibs r₁.drive samePartitionsCdb hcounted₁ hcheck
  have hnear : (LayoutCommand.locate firstBlockCdb).Sound d₂ := by
    intro blk htarget
    have hzero : 0 = MAX_PARTITIONS := congrArg Prod.fst (Option.some.inj htarget)
    exact absurd hzero (by decide)
  obtain ⟨d₃, h₃, hcounted₃⟩ := hcounted₂.locate hnear
  obtain ⟨d₄, h₄, hcounted₄⟩ := hcounted₃.set_capacity
  let d₅ := ssc_write_attributes d₄ (fun _ => 0) (fun _ => 0) false
  have hcounted₅ : VolumeCounted d₅ := hcounted₄.write_attributes false
  obtain ⟨r₆, h₆, -⟩ := @VolumeCounted.log_sense storedLibs d₅ (fun _ => 0) hcounted₅ [] 1
  have hfirst : (LayoutCommand.mode_select selectPartitionsCdb (additionalPartitions 0)).run
      storedLibs fourDrive = some r₁.drive := congrArg (Option.map Selected.drive) h₁
  have hlast : (LayoutCommand.log_sense [] 1 fun _ => 0).run storedLibs d₅ = some r₆.2 :=
    congrArg (Option.map Prod.snd) h₆
  have hrun : Run (LayoutStep storedLibs) fourDrive layoutCommands r₆.2 :=
    .cons ⟨no_additional_sound, hfirst⟩ (.cons ⟨trivial, h₂⟩ (.cons ⟨hnear, h₃⟩
      (.cons ⟨trivial, h₄⟩ (.cons ⟨trivial, rfl⟩ (.cons ⟨trivial, hlast⟩ (.nil r₆.2))))))
  exact ⟨r₆.2, hrun, partition_count_kept storedLibs fourDrive_counted hrun⟩

/-- With 255 additional partitions none is counted, with one of them one that is not there. -/
theorem mode_select_miscounts : VolumeCounted fourDrive ∧
    ∀ n ∈ [(255 : UInt8), 1], ∃ d', (LayoutCommand.mode_select selectPartitionsCdb
      (additionalPartitions n)).run storedLibs fourDrive = some d' ∧ ¬CountTells d' := by
  have hseen : ∀ n ∈ [(255 : UInt8), 1], ∃ count, ((LayoutCommand.mode_select selectPartitionsCdb
      (additionalPartitions n)).run storedLibs fourDrive).map (fun d' =>
        (d'.cart.mam.num_partitions, (d'.cart.dir.file .data 1).isSome)) = some (count, false) ∧
      count ≠ 1 := by
    intro n hn
    rcases List.mem_pair.mp hn with rfl | rfl
    · exact ⟨0, by decide +kernel, by decide⟩
    · exact ⟨2, by decide +kernel, by decide⟩
  refine ⟨fourDrive_counted, fun n hn => ?_⟩
  obtain ⟨count, hrun, hcount⟩ := hseen n hn
  obtain ⟨d', hd', hpair⟩ := Option.map_eq_some_iff.mp hrun
  obtain ⟨hnum, hfile⟩ := Prod.mk.inj hpair
  refine ⟨d', hd', fun htells => ?_⟩
  have hpos := htells.pos
  have hthere := (htells.there .data 1).mpr (by omega)
  rw [hfile] at hthere
  exact Bool.false_ne_true hthere

end Mhvtl.Ssc
