import Mhvtl.Ssc.Blocks
import Mhvtl.Ssc.ModeSelect

/-!
# When MODE SELECT keeps its promise

MODE SELECT should apply a parameter list in full or not at all. It does exactly
when nothing in front of a refused page, the block descriptor included, sets
anything new, no page is passed over, and nothing new stands behind a control or
medium partition page.
-/

namespace Mhvtl.Ssc

open Bytes Cart

/-- The mode page that a page of the list is about. Compression is kept in two pages, and
either of them sets it. -/
def Addresses (p : ℕ → UInt8) (page subpage : UInt8) : Prop :=
  if p 0 = MODE_DEVICE_CONFIGURATION ∧ p 1 = 1 then
    page = MODE_DEVICE_CONFIGURATION ∧ subpage = 1
  else if p 0 = MODE_DATA_COMPRESSION ∨ p 0 = MODE_DEVICE_CONFIGURATION then
    (page = MODE_DATA_COMPRESSION ∨ page = MODE_DEVICE_CONFIGURATION) ∧ subpage = 0
  else if p 0 = MODE_CONTROL then page = MODE_CONTROL ∧ subpage = p 1
  else page = p 0 ∧ subpage = 0

/-- One of the pages from place `i` on is about the mode page. -/
inductive Addressed (buf : ℕ → UInt8) (count : ℕ) (page subpage : UInt8) : ℕ → Prop where
  /-- The page at this place is. -/
  | here {i : ℕ} (h : i < count) (ha : Addresses (pageAt buf i) page subpage) :
      Addressed buf count page subpage i
  /-- A later one is. -/
  | later {i : ℕ} (h : i < count)
      (ht : Addressed buf count page subpage (i + pageLength (pageAt buf i))) :
      Addressed buf count page subpage i

/-- Two drives that differ in status and in the settings of MODE SELECT only. -/
def KeptOutside (d d' : Drive) : Prop :=
  ∃ (pages : List ModePage) (bd : ℕ → UInt8) (method : ℕ) (w r a o : Bool) (e : ℕ) (m : Mam)
    (st : Status), (∀ f, f ≠ .num_partitions → m.bytes f = d.cart.mam.bytes f) ∧
    d' = { d with
      mode_pg := pages, modeBlockDescriptor := bd, LBP_method := method, LBP_W := w, LBP_R := r,
      append_only_mode := a, allow_overwrite := o, prog_early_warning_sz := e,
      cart := { d.cart with mam := m, status := st } }

/-- Nothing changed. -/
theorem KeptOutside.refl (d : Drive) : KeptOutside d d :=
  ⟨_, _, _, _, _, _, _, _, _, _, fun _ _ => rfl, rfl⟩

/-- One change after another. -/
theorem KeptOutside.trans {d₁ d₂ d₃ : Drive} (h : KeptOutside d₁ d₂) (h' : KeptOutside d₂ d₃) :
    KeptOutside d₁ d₃ := by
  obtain ⟨pages, bd, method, w, r, a, o, e, m, st, hm, rfl⟩ := h
  obtain ⟨pages', bd', method', w', r', a', o', e', m', st', hm', rfl⟩ := h'
  exact ⟨_, _, _, _, _, _, _, _, _, _, fun f hf => (hm' f hf).trans (hm f hf), rfl⟩

/-- The status does not count. -/
theorem KeptOutside.report (d : Drive) (s : Status) : KeptOutside d (d.report s) :=
  ⟨_, _, _, _, _, _, _, _, _, _, fun _ _ => rfl, rfl⟩

/-- The block descriptor is a setting. -/
theorem KeptOutside.describe (d : Drive) (cdb : Cdb) (buf : ℕ → UInt8) :
    KeptOutside d (d.declare_ssc_vars.describe cdb buf) :=
  ⟨_, _, _, _, _, _, _, _, _, _, fun _ _ => rfl, rfl⟩

/-- What applying one page keeps. -/
structure PageFrame (d d' : Drive) (p : ℕ → UInt8) : Prop where
  /-- Everything that is no setting. -/
  kept : KeptOutside d d'
  /-- The block descriptor. -/
  descriptor : d'.modeBlockDescriptor = d.modeBlockDescriptor
  /-- The mode pages the page is not about. -/
  lookup : ∀ page subpage, ¬Addresses p page subpage →
    lookup_mode_pg d'.mode_pg page subpage = lookup_mode_pg d.mode_pg page subpage

/-- Switching compression is about the two compression pages. -/
theorem compress_frame (d : Drive) (on : Bool) {p : ℕ → UInt8}
    (h1 : ¬(p 0 = MODE_DEVICE_CONFIGURATION ∧ p 1 = 1))
    (h0 : p 0 = MODE_DATA_COMPRESSION ∨ p 0 = MODE_DEVICE_CONFIGURATION) :
    PageFrame d (d.compress on) p := by
  refine ⟨⟨_, _, _, _, _, _, _, _, _, _, fun _ _ => rfl, rfl⟩, rfl, ?_⟩
  intro page subpage ha
  rw [Addresses, if_neg h1, if_pos h0] at ha
  have hc : ¬(page = MODE_DATA_COMPRESSION ∧ subpage = 0) := fun h => ha ⟨Or.inl h.1, h.2⟩
  have hd : ¬(page = MODE_DEVICE_CONFIGURATION ∧ subpage = 0) := fun h => ha ⟨Or.inr h.1, h.2⟩
  have hboth : ∀ f g, KeepsCodes f → KeepsCodes g →
      lookup_mode_pg (modify_mode_pg (modify_mode_pg d.mode_pg MODE_DATA_COMPRESSION 0 f)
        MODE_DEVICE_CONFIGURATION 0 g) page subpage = lookup_mode_pg d.mode_pg page subpage := by
    intro f g hf hg
    rw [lookup_modify_other _ hg hd, lookup_modify_other _ hf hc]
  cases on with
  | true => exact hboth _ _ (fun _ => ⟨rfl, rfl⟩) (fun _ => ⟨rfl, rfl⟩)
  | false => exact hboth _ _ (fun _ => ⟨rfl, rfl⟩) (fun _ => ⟨rfl, rfl⟩)

/-- The extension page is about itself, accepted or not. -/
theorem extension_frame (d : Drive) {p : ℕ → UInt8} (h : p 0 = MODE_DEVICE_CONFIGURATION ∧ p 1 = 1) :
    PageFrame d (set_device_configuration_extension d p).2 p := by
  have hother : ∀ (l : List ModePage) (f : ModePage → ModePage),
      KeepsCodes f → ∀ page subpage, ¬Addresses p page subpage →
      lookup_mode_pg (modify_mode_pg l MODE_DEVICE_CONFIGURATION 1 f) page subpage =
        lookup_mode_pg l page subpage := by
    intro l f hf page subpage ha
    rw [Addresses, if_pos h] at ha
    exact lookup_modify_other l hf ha
  have hself : ∀ e, PageFrame e e p := fun e => ⟨KeptOutside.refl e, rfl, fun _ _ _ => rfl⟩
  have hwarn : ∀ n, PageFrame d (d.setProgEarlyWarning n) p := by
    intro n
    unfold Drive.setProgEarlyWarning
    split
    · exact ⟨⟨_, _, _, _, _, _, _, _, _, _, fun _ _ => rfl, rfl⟩, rfl, hother _ _ fun _ => ⟨rfl, rfl⟩⟩
    · exact hself d
  have hmode : ∀ (e : Drive) (w : UInt8), PageFrame e (e.setWriteMode w) p := by
    intro e w
    unfold Drive.setWriteMode
    dsimp only
    split <;>
    · exact ⟨⟨_, _, _, _, _, _, _, _, _, _, fun _ _ => rfl, rfl⟩, rfl, hother _ _ fun _ => ⟨rfl, rfl⟩⟩
  unfold set_device_configuration_extension
  dsimp only
  split
  · exact hself d
  · split
    · exact hself d
    · split
      · exact hself d
      · split
        · exact hwarn _
        · have h₁ := hwarn (be16At p 6)
          have h₂ := hmode (d.setProgEarlyWarning (be16At p 6)) (p 5 >>> 4)
          exact ⟨h₁.kept.trans h₂.kept, h₂.descriptor.trans h₁.descriptor,
            fun page subpage ha => (h₂.lookup page subpage ha).trans (h₁.lookup page subpage ha)⟩

/-- Applying a page touches what it is about and nothing else. -/
theorem applyPage_frame {d d' : Drive} {p : ℕ → UInt8} (h : applyPage d p = some d') :
    PageFrame d d' p := by
  unfold applyPage at h
  by_cases h0f : p 0 = MODE_DATA_COMPRESSION
  · have h10 : ¬(p 0 = MODE_DEVICE_CONFIGURATION ∧ p 1 = 1) := by
      rintro ⟨hc, -⟩
      rw [h0f] at hc
      exact absurd hc (by decide)
    simp only [if_pos h0f, Option.ite_none_right_eq_some, Option.some.injEq] at h
    obtain ⟨-, rfl⟩ := h
    exact compress_frame d _ h10 (Or.inl h0f)
  simp only [if_neg h0f] at h
  by_cases h10 : p 0 = MODE_DEVICE_CONFIGURATION
  · simp only [if_pos h10] at h
    by_cases h1 : p 1 = 1
    · simp only [if_pos h1, Option.ite_none_right_eq_some, Option.some.injEq] at h
      obtain ⟨-, rfl⟩ := h
      exact extension_frame d ⟨h10, h1⟩
    · simp only [if_neg h1, Option.ite_none_right_eq_some, Option.some.injEq] at h
      obtain ⟨-, rfl⟩ := h
      exact compress_frame d _ (fun hc => h1 hc.2) (Or.inr h10)
  simp only [if_neg h10] at h
  have hn1 : ¬(p 0 = MODE_DEVICE_CONFIGURATION ∧ p 1 = 1) := fun hc => h10 hc.1
  have hn2 : ¬(p 0 = MODE_DATA_COMPRESSION ∨ p 0 = MODE_DEVICE_CONFIGURATION) := not_or.mpr ⟨h0f, h10⟩
  by_cases h0a : p 0 = MODE_CONTROL
  · simp only [if_pos h0a] at h
    split at h
    · cases h
      exact ⟨KeptOutside.refl d, rfl, fun _ _ _ => rfl⟩
    · split at h
      · rename_i hf0
        simp only [Option.ite_none_right_eq_some, Option.some.injEq] at h
        obtain ⟨hok, rfl⟩ := h
        unfold set_lbp update_logical_block_protection
        split
        · split
          · exact ⟨KeptOutside.refl d, rfl, fun _ _ _ => rfl⟩
          · refine ⟨⟨_, _, _, _, _, _, _, _, _, _, fun _ _ => rfl, rfl⟩, rfl, ?_⟩
            intro page subpage ha
            rw [Addresses, if_neg hn1, if_neg hn2, if_pos h0a, hf0] at ha
            have hput : KeepsCodes fun m =>
                ((m.setByte 4 (p 4)).setByte 5 (p 5)).setByte 6 (p 6) := fun _ => ⟨rfl, rfl⟩
            exact lookup_modify_other _ hput ha
        · exact ⟨KeptOutside.refl d, rfl, fun _ _ _ => rfl⟩
      · cases h
  simp only [if_neg h0a, Option.ite_none_right_eq_some] at h
  obtain ⟨h11, h⟩ := h
  unfold set_medium_partition at h
  split at h
  · cases h
  · dsimp only at h
    split at h
    · cases h
    · cases h
      refine ⟨⟨_, _, _, _, _, _, _, _, _, d.cart.status,
        fun f hf => Mam.bytes_put_other _ _ hf, rfl⟩, rfl, ?_⟩
      intro page subpage ha
      rw [Addresses, if_neg hn1, if_neg hn2, if_neg h0a, h11] at ha
      exact lookup_modify_other _ (takePartitions_codes p) ha

/-- Applying all pages touches what they are about and nothing else. -/
theorem AppliedAll.frame {buf : ℕ → UInt8} {count i : ℕ} {d d' : Drive}
    (h : AppliedAll buf count i d d') :
    KeptOutside d d' ∧ d'.modeBlockDescriptor = d.modeBlockDescriptor ∧
      ∀ page subpage, ¬Addressed buf count page subpage i →
        lookup_mode_pg d'.mode_pg page subpage = lookup_mode_pg d.mode_pg page subpage := by
  induction h with
  | nil d => exact ⟨KeptOutside.refl d, rfl, fun _ _ _ => rfl⟩
  | cons hlt ha ht ih =>
    have hf := applyPage_frame ha
    obtain ⟨hk, hd, hl⟩ := ih
    refine ⟨hf.kept.trans hk, hd.trans hf.descriptor, fun page subpage hn => ?_⟩
    rw [hl page subpage fun hc => hn (.later hlt hc), hf.lookup page subpage fun hc => hn (.here hlt hc)]

/-- Where the pages begin. -/
def pagesStart (cdb : Cdb) (buf : ℕ → UInt8) : ℕ :=
  mode_param_h_sz cdb + mode_block_descriptor_len cdb buf

/-- The drive with the block descriptor of the list. -/
def described (d : Drive) (cdb : Cdb) (buf : ℕ → UInt8) : Drive := d.declare_ssc_vars.describe cdb buf

/-- All or nothing: the walk stays inside the list, CHECK CONDITION means that nothing was
set, and GOOD that every page was applied and nothing else was touched. -/
structure AllOrNothing (d : Drive) (cdb : Cdb) (buf : ℕ → UInt8) (r : Selected) : Prop where
  /-- The walk looks at bytes of the list only. -/
  inside : r.reads ≤ parameterLength cdb
  /-- Nothing was set. -/
  nothing : r.good = false → SameSettings d r.drive
  /-- Every page was applied. -/
  all : r.good = true → ∃ e,
    AppliedAll buf (parameterLength cdb) (pagesStart cdb buf) (described d cdb buf) e ∧
      SameSettings e r.drive
  /-- Settings that are in no page are kept. -/
  outside : r.good = true → KeptOutside d r.drive
  /-- Memory behind the block descriptor is kept. -/
  descriptor : r.good = true → ∀ j, 8 ≤ j → r.drive.modeBlockDescriptor j = d.modeBlockDescriptor j
  /-- Pages that none in the list is about are kept. -/
  pages : r.good = true → ∀ page subpage,
    ¬Addressed buf (parameterLength cdb) page subpage (pagesStart cdb buf) →
      lookup_mode_pg r.drive.mode_pg page subpage = lookup_mode_pg d.mode_pg page subpage

/-- A MODE SELECT comes to an end, and that is all or nothing. -/
def KeepsPromise (d : Drive) (cdb : Cdb) (buf : ℕ → UInt8) : Prop :=
  ∃ r, ssc_mode_select d cdb buf = some r ∧ AllOrNothing d cdb buf r

/-- PF is clear and there is page data. -/
def WrongFormat (cdb : Cdb) (buf : ℕ → UInt8) : Prop :=
  cdb 1 &&& 0x10 = 0 ∧ pageDataLength cdb buf ≠ 0

/-- SP is set. -/
def SavesPages (cdb : Cdb) : Prop := cdb 1 &&& 0x01 ≠ 0

/-- What a list has to be like in a given drive. -/
inductive Sendable (d : Drive) (cdb : Cdb) (buf : ℕ → UInt8) : Prop where
  /-- It is refused before anything else. -/
  | wrongFormat (h : WrongFormat cdb buf)
  /-- It asks for saved pages, and brings no descriptor or the one in place. -/
  | savesPages (hf : ¬WrongFormat cdb buf) (hs : SavesPages cdb)
      (h : SameSettings d (described d cdb buf))
  /-- Its pages are applied, and what stands behind a page that ends the walk sets nothing
  new. The descriptor is no longer than eight bytes, or has behind them what is there. -/
  | applied (hf : ¬WrongFormat cdb buf) (hs : ¬SavesPages cdb)
      (hd : ∀ j, 8 ≤ j → (described d cdb buf).modeBlockDescriptor j = d.modeBlockDescriptor j)
      (k : ℕ) (d' : Drive)
      (hw : Walked buf (parameterLength cdb) true (pagesStart cdb buf) (described d cdb buf) k d')
      (he : parameterLength cdb ≤ k ∨ k < parameterLength cdb ∧
        k + pageReads d' (pageAt buf k) ≤ parameterLength cdb ∧ EndsWalk (pageAt buf k) ∧
        ∃ d₁ e, applyPage d' (pageAt buf k) = some d₁ ∧
          AppliedAll buf (parameterLength cdb) (k + pageLength (pageAt buf k)) d₁ e ∧
          SameSettings d₁ e)
  /-- A page is refused, and the descriptor and the pages in front of it set nothing new. -/
  | refused (hf : ¬WrongFormat cdb buf) (hs : ¬SavesPages cdb) (k : ℕ) (d' : Drive)
      (hw : Walked buf (parameterLength cdb) false (pagesStart cdb buf) (described d cdb buf) k d')
      (hk : k < parameterLength cdb)
      (hin : k + pageReads d' (pageAt buf k) ≤ parameterLength cdb)
      (ha : applyPage d' (pageAt buf k) = none) (hp : ¬PassedOver (pageAt buf k))
      (hm : pageAt buf k 0 ≠ MODE_MEDIUM_PARTITION)
      (h : SameSettings d (refusedPage d' (pageAt buf k)))

/-- Settings are the same when only the status differs. -/
theorem SameSettings.eq_report {d d' : Drive} (h : SameSettings d d') :
    d' = d.report d'.cart.status := by
  have hs : d' = (d'.report Status.good).report d'.cart.status := rfl
  rw [hs, h]
  rfl

/-- A strict walk over pages applies them. -/
theorem AppliedAll.of_walked {buf : ℕ → UInt8} {count i k : ℕ} {d d' e : Drive}
    (h : Walked buf count true i d k d') (hr : AppliedAll buf count k d' e) :
    AppliedAll buf count i d e := by
  induction h with
  | refl i d => exact hr
  | applied hlt hin he ha ht ih => exact .cons hlt ha (ih hr)
  | passed hs => exact absurd hs nofun

/-- When all pages can be applied, the walk is strict and the rest is applied behind it. -/
theorem Walked.strict {buf : ℕ → UInt8} {count i k : ℕ} {d d' e : Drive}
    (h : Walked buf count false i d k d') (hr : AppliedAll buf count i d e) :
    Walked buf count true i d k d' ∧ AppliedAll buf count k d' e := by
  induction h with
  | refl i d => exact ⟨.refl i d, hr⟩
  | applied hlt hin he ha ht ih =>
    cases hr with
    | nil d hle => omega
    | cons hlt' ha' hr' =>
      rw [ha] at ha'
      cases ha'
      obtain ⟨hw, hrest⟩ := ih hr'
      exact ⟨.applied hlt hin he ha hw, hrest⟩
  | passed hs hlt hin hp ht ih =>
    cases hr with
    | nil d hle => omega
    | cons hlt' ha' hr' => exact absurd hp (not_passedOver ha')

/-- The three ways into a MODE SELECT. -/
theorem ssc_mode_select_cases (d : Drive) (cdb : Cdb) (buf : ℕ → UInt8) :
    (WrongFormat cdb buf →
      ∃ s, ssc_mode_select d cdb buf = some ⟨false, d.declare_ssc_vars.report s, 0⟩) ∧
    (¬WrongFormat cdb buf → SavesPages cdb →
      ∃ s, ssc_mode_select d cdb buf = some ⟨false, (described d cdb buf).report s, 0⟩) ∧
    (¬WrongFormat cdb buf → ¬SavesPages cdb → ssc_mode_select d cdb buf =
      selectPages buf (parameterLength cdb) (parameterLength cdb + 1) (pagesStart cdb buf) 0
        (described d cdb buf)) := by
  refine ⟨fun hf => ⟨_, if_pos hf⟩, fun hf hs => ⟨_, (if_neg hf).trans (if_pos hs)⟩, fun hf hs => ?_⟩
  exact (if_neg hf).trans (if_neg hs)

/-- A list whose pages are all applied. -/
theorem allOrNothing_applied {d e d' : Drive} {cdb : Cdb} {buf : ℕ → UInt8} {reads : ℕ}
    (hin : reads ≤ parameterLength cdb)
    (hd : ∀ j, 8 ≤ j → (described d cdb buf).modeBlockDescriptor j = d.modeBlockDescriptor j)
    (hall : AppliedAll buf (parameterLength cdb) (pagesStart cdb buf) (described d cdb buf) e)
    (hsame : SameSettings e d') : AllOrNothing d cdb buf ⟨true, d', reads⟩ := by
  obtain ⟨hkept, hdesc, hpages⟩ := hall.frame
  have heq : d' = e.report d'.cart.status := hsame.eq_report
  refine ⟨hin, nofun, fun _ => ⟨e, hall, hsame⟩, fun _ => ?_, fun _ j hj => ?_,
    fun _ page subpage ha => ?_⟩
  · rw [heq]
    exact ((KeptOutside.describe d cdb buf).trans hkept).trans (KeptOutside.report e _)
  · rw [heq]
    exact (congrFun hdesc j).trans (hd j hj)
  · rw [heq]
    exact hpages page subpage ha

/-- A sendable list is applied in full or not at all. -/
theorem keepsPromise_of_sendable {d : Drive} {cdb : Cdb} {buf : ℕ → UInt8}
    (h : Sendable d cdb buf) : KeepsPromise d cdb buf := by
  obtain ⟨hfirst, hsecond, hthird⟩ := ssc_mode_select_cases d cdb buf
  -- A command that is refused has nothing to say about the pages it applied.
  have hrefused : ∀ (e : Drive) (reads : ℕ), reads ≤ parameterLength cdb → SameSettings d e →
      AllOrNothing d cdb buf ⟨false, e, reads⟩ := by
    intro e reads hin hsame
    exact ⟨hin, fun _ => hsame, fun hg => absurd hg Bool.false_ne_true,
      fun hg => absurd hg Bool.false_ne_true, fun hg => absurd hg Bool.false_ne_true,
      fun hg => absurd hg Bool.false_ne_true⟩
  cases h with
  | wrongFormat hf =>
    obtain ⟨s, hs⟩ := hfirst hf
    exact ⟨_, hs, hrefused _ _ (Nat.zero_le _) rfl⟩
  | savesPages hf hsp h =>
    obtain ⟨s, hs⟩ := hsecond hf hsp
    exact ⟨_, hs, hrefused _ _ (Nat.zero_le _) h⟩
  | applied hf hsp hd k d' hw he =>
    have hrounds : parameterLength cdb < parameterLength cdb + 1 + pagesStart cdb buf := by omega
    obtain ⟨rounds, reads, hrun, hreads⟩ := selectPages_walked hw hrounds (Nat.zero_le _)
    rw [KeepsPromise, hthird hf hsp, hrun, selectPages]
    rcases he with hend | ⟨hk, hin, hends, d₁, e, ha, hrest, hsame⟩
    · rw [if_pos hend]
      exact ⟨_, rfl, allOrNothing_applied hreads hd (.of_walked hw (.nil d' hend)) rfl⟩
    · rw [if_neg (Nat.not_le_of_lt hk)]
      simp only [selectPage_last ha hends]
      exact ⟨_, rfl, allOrNothing_applied (Nat.max_le_of_le_of_le hreads hin) hd
        (.of_walked hw (.cons hk ha hrest)) hsame.symm⟩
  | refused hf hsp k d' hw hk hin ha hp hm h =>
    have hrounds : parameterLength cdb < parameterLength cdb + 1 + pagesStart cdb buf := by omega
    obtain ⟨rounds, reads, hrun, hreads⟩ := selectPages_walked hw hrounds (Nat.zero_le _)
    obtain ⟨s, hs⟩ := selectPage_refused ha hp hm k
    rw [KeepsPromise, hthird hf hsp, hrun, selectPages, if_neg (Nat.not_le_of_lt hk)]
    simp only [hs]
    exact ⟨_, rfl, hrefused _ _ (Nat.max_le_of_le_of_le hreads hin) h⟩

/-- And no other list is. -/
theorem sendable_of_keepsPromise {d : Drive} {cdb : Cdb} {buf : ℕ → UInt8}
    (h : KeepsPromise d cdb buf) : Sendable d cdb buf := by
  obtain ⟨hfirst, hsecond, hthird⟩ := ssc_mode_select_cases d cdb buf
  obtain ⟨r, hrun, hall⟩ := h
  by_cases hf : WrongFormat cdb buf
  · exact .wrongFormat hf
  by_cases hsp : SavesPages cdb
  · obtain ⟨s, hs⟩ := hsecond hf hsp
    rw [hs] at hrun
    cases hrun
    exact .savesPages hf hsp (hall.nothing rfl)
  rw [hthird hf hsp] at hrun
  obtain ⟨k, d', hw, hend⟩ := walked_of_selectPages hrun hall.inside
  have hdesc : r.good = true →
      ∀ j, 8 ≤ j → (described d cdb buf).modeBlockDescriptor j = d.modeBlockDescriptor j := by
    intro hgood j hj
    obtain ⟨e, happ, hsame⟩ := hall.all hgood
    rw [← hall.descriptor hgood j hj, hsame.eq_report]
    exact (congrFun happ.frame.2.1 j).symm
  cases hend with
  | exhausted reads hle =>
    obtain ⟨e, happ, hsame⟩ := hall.all rfl
    exact .applied hf hsp (hdesc rfl) k d' (hw.strict happ).1 (Or.inl hle)
  | last d₁ reads hlt hin ha hends =>
    obtain ⟨e, happ, hsame⟩ := hall.all rfl
    obtain ⟨hstrict, hrest⟩ := hw.strict happ
    cases hrest with
    | nil d hle => omega
    | cons hlt' ha' hrest =>
      rw [ha] at ha'
      cases ha'
      exact .applied hf hsp (hdesc rfl) k d' hstrict
        (Or.inr ⟨hlt, hin, hends, d₁, e, ha, hrest, hsame.symm⟩)
  | refused s reads hlt hin ha hp hm =>
    exact .refused hf hsp k d' hw hlt hin ha hp hm (hall.nothing rfl)

/-- MODE SELECT is all or nothing for the sendable lists and for no others. -/
theorem mode_select_all_or_nothing (d : Drive) (cdb : Cdb) (buf : ℕ → UInt8) :
    KeepsPromise d cdb buf ↔ Sendable d cdb buf :=
  ⟨sendable_of_keepsPromise, keepsPromise_of_sendable⟩

/-- A drive with every mode page, compressing. -/
def pagesDrive : Drive :=
  { emptyDrive with
    mode_pg := allPages emptyDrive.pm 1
    configCompressionFactor := 1 }

/-- MODE SELECT(6) of 22 bytes in page format. -/
def selectPagesCdb : Cdb
  | 0 => 0x15
  | 1 => 0x10
  | 4 => 22
  | _ => 0

/-- Header, a data compression page that switches compression off, an unknown page. -/
def clearThenUnknown : ℕ → UInt8
  | 4 => 0x0f
  | 5 => 0x0e
  | 20 => 0x3e
  | _ => 0

/-- The unknown page is refused, but compression is off. -/
theorem refused_list_switches_compression_off :
    (ssc_mode_select pagesDrive selectPagesCdb clearThenUnknown).map
        (fun r => (r.good, r.drive.compressionFactor)) = some (false, 0) ∧
      pagesDrive.compressionFactor = 1 ∧
      ¬KeepsPromise pagesDrive selectPagesCdb clearThenUnknown := by
  have hrun : (ssc_mode_select pagesDrive selectPagesCdb clearThenUnknown).map
      (fun r => (r.good, r.drive.compressionFactor)) = some (false, 0) := by decide +kernel
  have hbefore : pagesDrive.compressionFactor = 1 := by decide +kernel
  refine ⟨hrun, hbefore, ?_⟩
  rintro ⟨r, hr, hall⟩
  rw [hr, Option.map_some, Option.some.injEq, Prod.mk.injEq] at hrun
  have hsame : (pagesDrive.report r.drive.cart.status).compressionFactor = 0 := by
    rw [← (hall.nothing hrun.1).eq_report]
    exact hrun.2
  rw [show (pagesDrive.report r.drive.cart.status).compressionFactor = 1 from hbefore] at hsame
  exact absurd hsame (by decide)

end Mhvtl.Ssc
