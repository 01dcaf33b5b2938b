import Mhvtl.Ssc.ModePages

/-!
# MODE SELECT

The parameter list is applied while it is walked. A list is sent all or nothing
when nothing in front of a refused page sets anything new, and no page is left
over behind one that ends the walk.
-/

namespace Mhvtl.Ssc

open Bytes Cart

/-- Operation code of MODE SELECT(10). -/
def MODE_SELECT_10 : UInt8 := 0x55

/-- What a page of the parameter list leads to. -/
inductive PageResult where
  /-- The walk goes on behind the page. -/
  | next (d : Drive) (len : ℕ)
  /-- The command ends well. -/
  | done (d : Drive)
  /-- The command ends with sense data. -/
  | refused (s : Status) (d : Drive)

/-- How many bytes of the page are looked at. -/
def pageReads (d : Drive) (p : ℕ → UInt8) : ℕ :=
  if p 0 = MODE_DATA_COMPRESSION then if p 1 = 0x0e then 3 else 2
  else if p 0 = MODE_DEVICE_CONFIGURATION then
    if p 1 = 1 then
      if lookup_mode_pg d.mode_pg MODE_DEVICE_CONFIGURATION 1 = none then 2
      else if be16At p 2 ≠ 0x1c then 4
      else if (1 : UInt8) < p 5 >>> 4 then 6
      else 8
    else if 0x0e ≤ p 1 then 15
    else 2
  else if p 0 = MODE_CONTROL then
    if p 1 = 0x0a then 2
    else if p 1 = 0xf0 ∧ d.pm.drive_supports_LBP ≠ 0 ∧
        lookup_mode_pg d.mode_pg MODE_CONTROL 0xf0 ≠ none then 7
    else 4
  else if p 0 = MODE_MEDIUM_PARTITION then max 7 (8 + 2 * askedPartitions p)
  else 2

/-- One page of the parameter list, at place `i`. -/
def selectPage (d : Drive) (p : ℕ → UInt8) (i : ℕ) : Option PageResult :=
  let refuse := fun (field_pointer : ℕ) =>
    sam_illegal_request E_INVALID_FIELD_IN_CDB (some ⟨SKSV, field_pointer⟩)
  if p 0 = MODE_DATA_COMPRESSION then
    let d := if p 1 = 0x0e then set_mode_compression d p else d
    if p 1 = 0 then some (.refused (refuse (i + 1)) d) else some (.next d ((p 1).toNat + 2))
  else if p 0 = MODE_DEVICE_CONFIGURATION then
    if p 1 = 1 then
      match set_device_configuration_extension d p with
      | (some s, d) => some (.refused s d)
      | (none, d) => some (.next d (be16At p 2 + 4))
    else if 0x0e ≤ p 1 then some (.next (set_device_configuration d p) ((p 1).toNat + 2))
    else some (.refused (refuse (i + 1)) d)
  else if p 0 = MODE_CONTROL then
    if p 1 = 0x0a then some (.done d)
    else if p 1 = 0xf0 then
      match set_lbp d p with
      | (some s, d) => some (.refused s d)
      | (none, d) => some (.done d)
    else some (.refused (refuse i) d)
  else if p 0 = MODE_MEDIUM_PARTITION then (set_medium_partition d p).map .done
  else some (.refused (refuse i) d)

/-- The page at place `i` of the list. -/
def pageAt (buf : ℕ → UInt8) (i : ℕ) : ℕ → UInt8 := fun j => buf (i + j)

/-- How a MODE SELECT ends. -/
structure Selected where
  /-- Status GOOD, else CHECK CONDITION. -/
  good : Bool
  /-- The drive after it. -/
  drive : Drive
  /-- One behind the last byte of the list that the walk looked at. -/
  reads : ℕ

/-- The walk over the pages from place `i` on. Every page but a refused one takes it
further, so that as many rounds as the list has bytes are enough. -/
def selectPages (buf : ℕ → UInt8) (count : ℕ) : ℕ → ℕ → ℕ → Drive → Option Selected
  | 0, _, _, _ => none
  | rounds + 1, i, reads, d =>
    if count ≤ i then some ⟨true, d.returns SAM_STAT_GOOD, reads⟩ else
    let p := pageAt buf i
    let reads := max reads (i + pageReads d p)
    match selectPage d p i with
    | none => none
    | some (.refused s d) => some ⟨false, d.report s, reads⟩
    | some (.done d) => some ⟨true, d.returns SAM_STAT_GOOD, reads⟩
    | some (.next d len) => selectPages buf count rounds (i + len) reads d

/-- Length of the parameter list. -/
def parameterLength (cdb : Cdb) : ℕ :=
  if cdb 0 = MODE_SELECT_10 then be16At cdb 7 else (cdb 4).toNat

/-- Size of the header of the parameter list. -/
def mode_param_h_sz (cdb : Cdb) : ℕ := if cdb 0 = MODE_SELECT_10 then 8 else 4

/-- Length of the block descriptor by the header. -/
def mode_block_descriptor_len (cdb : Cdb) (buf : ℕ → UInt8) : ℕ :=
  if cdb 0 = MODE_SELECT_10 then be16At buf 6 else (buf 3).toNat

/-- What the source takes for the length of the first page when PF is clear. -/
def pageDataLength (cdb : Cdb) (buf : ℕ → UInt8) : ℕ :=
  if cdb 0 = MODE_SELECT_10 then be16At buf 9 else (buf 5).toNat

/-- The block descriptor is copied, however long the header says it is. -/
def Drive.describe (d : Drive) (cdb : Cdb) (buf : ℕ → UInt8) : Drive :=
  { d with modeBlockDescriptor := fun j =>
      if j < mode_block_descriptor_len cdb buf then buf (mode_param_h_sz cdb + j)
      else d.modeBlockDescriptor j }

/-- MODE SELECT, the data buffer given. Bytes of the buffer behind the list are left
from earlier commands. -/
def ssc_mode_select (d : Drive) (cdb : Cdb) (buf : ℕ → UInt8) : Option Selected :=
  let d := d.declare_ssc_vars
  let refuse := fun (d : Drive) (bit : ℕ) => some ⟨false, d.report
    (sam_illegal_request E_INVALID_FIELD_IN_CDB (some ⟨SKSV ||| CD ||| BPV ||| bit, 1⟩)), 0⟩
  if cdb 1 &&& 0x10 = 0 ∧ pageDataLength cdb buf ≠ 0 then refuse d 4 else
  let d := d.describe cdb buf
  if cdb 1 &&& 0x01 ≠ 0 then refuse d 1 else
  let count := parameterLength cdb
  selectPages buf count (count + 1) (mode_param_h_sz cdb + mode_block_descriptor_len cdb buf) 0 d

/-- Drives that differ in status and sense data only. -/
def SameSettings (d d' : Drive) : Prop := d'.report Status.good = d.report Status.good

/-- Length of a page in the list: by byte 1, or by bytes 2 and 3 of a subpage. -/
def pageLength (p : ℕ → UInt8) : ℕ :=
  if (p 0 = MODE_DEVICE_CONFIGURATION ∧ p 1 = 1) ∨ (p 0 = MODE_CONTROL ∧ p 1 ≠ 0x0a) then
    be16At p 2 + 4
  else (p 1).toNat + 2

/-- A page applied to the drive; nothing when the drive cannot apply it. -/
def applyPage (d : Drive) (p : ℕ → UInt8) : Option Drive :=
  let accepted := fun r : Option Status × Drive => if r.1 = none then some r.2 else none
  if p 0 = MODE_DATA_COMPRESSION then
    if p 1 = 0x0e then some (set_mode_compression d p) else none
  else if p 0 = MODE_DEVICE_CONFIGURATION then
    if p 1 = 1 then accepted (set_device_configuration_extension d p)
    else if 0x0e ≤ p 1 then some (set_device_configuration d p)
    else none
  else if p 0 = MODE_CONTROL then
    if p 1 = 0x0a then some d else if p 1 = 0xf0 then accepted (set_lbp d p) else none
  else if p 0 = MODE_MEDIUM_PARTITION then set_medium_partition d p
  else none

/-- What a page that cannot be applied leaves: an extension page may have set the warning
size before it is refused. -/
def refusedPage (d : Drive) (p : ℕ → UInt8) : Drive :=
  if p 0 = MODE_DEVICE_CONFIGURATION ∧ p 1 = 1 then (set_device_configuration_extension d p).2
  else d

/-- The walk does not go on behind such a page. -/
def EndsWalk (p : ℕ → UInt8) : Prop := p 0 = MODE_CONTROL ∨ p 0 = MODE_MEDIUM_PARTITION

/-- A data compression page of another length is passed over. -/
def PassedOver (p : ℕ → UInt8) : Prop :=
  p 0 = MODE_DATA_COMPRESSION ∧ p 1 ≠ 0x0e ∧ p 1 ≠ 0

/-- What a page leads to, by what it is. -/
inductive PageCase (d : Drive) (p : ℕ → UInt8) : Option PageResult → Prop where
  /-- It is passed over. -/
  | passed (h : PassedOver p) : PageCase d p (some (.next d (pageLength p)))
  /-- It is applied and the walk goes on. -/
  | next (d' : Drive) (h : applyPage d p = some d') (hp : ¬PassedOver p) (he : ¬EndsWalk p) :
      PageCase d p (some (.next d' (pageLength p)))
  /-- It is applied and ends the walk. -/
  | done (d' : Drive) (h : applyPage d p = some d') (hp : ¬PassedOver p) (he : EndsWalk p) :
      PageCase d p (some (.done d'))
  /-- It is refused. -/
  | refused (s : Status) (h : applyPage d p = none) (hp : ¬PassedOver p)
      (hm : p 0 ≠ MODE_MEDIUM_PARTITION) : PageCase d p (some (.refused s (refusedPage d p)))
  /-- It is stored outside the mode page. -/
  | lost (h : applyPage d p = none) (hp : ¬PassedOver p) (hm : p 0 = MODE_MEDIUM_PARTITION) :
      PageCase d p none

/-- The data compression page. -/
theorem selectPage_compression (d : Drive) {p : ℕ → UInt8} (i : ℕ) (h0 : p 0 = MODE_DATA_COMPRESSION) :
    PageCase d p (selectPage d p i) := by
  have hne : p 0 ≠ MODE_DEVICE_CONFIGURATION ∧ p 0 ≠ MODE_CONTROL ∧ p 0 ≠ MODE_MEDIUM_PARTITION := by
    rw [h0]
    decide
  have hlen : pageLength p = (p 1).toNat + 2 := by
    rw [pageLength, if_neg]
    rintro (h | h)
    · exact hne.1 h.1
    · exact hne.2.1 h.1
  have hends : ¬EndsWalk p := by
    rintro (h | h)
    · exact hne.2.1 h
    · exact hne.2.2 h
  have hleft : refusedPage d p = d := if_neg fun h => hne.1 h.1
  by_cases h1 : p 1 = 0x0e
  · have hz : ¬p 1 = 0 := by
      rw [h1]
      decide
    have hsel : selectPage d p i = some (.next (set_mode_compression d p) (pageLength p)) := by
      simp only [selectPage, if_pos h0, if_pos h1, if_neg hz, hlen]
    rw [hsel]
    refine .next _ ?_ (fun h => h.2.1 h1) hends
    simp only [applyPage, if_pos h0, if_pos h1]
  · have happ : applyPage d p = none := by
      simp only [applyPage, if_pos h0, if_neg h1]
    by_cases hz : p 1 = 0
    · have hsel : ∃ s, selectPage d p i = some (.refused s (refusedPage d p)) := by
        refine ⟨sam_illegal_request E_INVALID_FIELD_IN_CDB (some ⟨SKSV, i + 1⟩), ?_⟩
        simp only [selectPage, if_pos h0, if_neg h1, if_pos hz, hleft]
      obtain ⟨s, hs⟩ := hsel
      rw [hs]
      exact .refused s happ (fun h => h.2.2 hz) hne.2.2
    · have hsel : selectPage d p i = some (.next d (pageLength p)) := by
        simp only [selectPage, if_pos h0, if_neg h1, if_neg hz, hlen]
      rw [hsel]
      exact .passed ⟨h0, h1, hz⟩

/-- The device configuration pages. -/
theorem selectPage_configuration (d : Drive) {p : ℕ → UInt8} (i : ℕ)
    (h0 : p 0 = MODE_DEVICE_CONFIGURATION) : PageCase d p (selectPage d p i) := by
  have hne : ¬p 0 = MODE_DATA_COMPRESSION ∧ p 0 ≠ MODE_CONTROL ∧ p 0 ≠ MODE_MEDIUM_PARTITION := by
    rw [h0]
    decide
  have hover : ¬PassedOver p := fun h => hne.1 h.1
  have hends : ¬EndsWalk p := by
    rintro (h | h)
    · exact hne.2.1 h
    · exact hne.2.2 h
  by_cases h1 : p 1 = 1
  · have hlen : pageLength p = be16At p 2 + 4 := if_pos (Or.inl ⟨h0, h1⟩)
    have hleft : refusedPage d p = (set_device_configuration_extension d p).2 := if_pos ⟨h0, h1⟩
    cases hr : set_device_configuration_extension d p with
    | mk s d' =>
      cases s with
      | none =>
        have hsel : selectPage d p i = some (.next d' (pageLength p)) := by
          simp only [selectPage, if_neg hne.1, if_pos h0, if_pos h1, hr, hlen]
        rw [hsel]
        refine .next _ ?_ hover hends
        simp only [applyPage, if_neg hne.1, if_pos h0, if_pos h1, hr, if_true]
      | some s =>
        have hsel : selectPage d p i = some (.refused s (refusedPage d p)) := by
          simp only [selectPage, if_neg hne.1, if_pos h0, if_pos h1, hr, hleft]
        rw [hsel]
        refine .refused s ?_ hover hne.2.2
        simp only [applyPage, if_neg hne.1, if_pos h0, if_pos h1, hr, reduceCtorEq, if_false]
  · have hleft : refusedPage d p = d := if_neg fun h => h1 h.2
    by_cases h2 : 0x0e ≤ p 1
    · have hlen : pageLength p = (p 1).toNat + 2 := by
        rw [pageLength, if_neg]
        rintro (h | h)
        · exact h1 h.2
        · exact hne.2.1 h.1
      have hsel : selectPage d p i = some (.next (set_device_configuration d p) (pageLength p)) := by
        simp only [selectPage, if_neg hne.1, if_pos h0, if_neg h1, if_pos h2, hlen]
      rw [hsel]
      refine .next _ ?_ hover hends
      simp only [applyPage, if_neg hne.1, if_pos h0, if_neg h1, if_pos h2]
    · have hsel : ∃ s, selectPage d p i = some (.refused s (refusedPage d p)) := by
        refine ⟨sam_illegal_request E_INVALID_FIELD_IN_CDB (some ⟨SKSV, i + 1⟩), ?_⟩
        simp only [selectPage, if_neg hne.1, if_pos h0, if_neg h1, if_neg h2, hleft]
      obtain ⟨s, hs⟩ := hsel
      rw [hs]
      refine .refused s ?_ hover hne.2.2
      simp only [applyPage, if_neg hne.1, if_pos h0, if_neg h1, if_neg h2]

/-- The control pages. -/
theorem selectPage_control (d : Drive) {p : ℕ → UInt8} (i : ℕ) (h0 : p 0 = MODE_CONTROL) :
    PageCase d p (selectPage d p i) := by
  have hne : ¬p 0 = MODE_DATA_COMPRESSION ∧ ¬p 0 = MODE_DEVICE_CONFIGURATION ∧
      p 0 ≠ MODE_MEDIUM_PARTITION := by
    rw [h0]
    decide
  have hover : ¬PassedOver p := fun h => hne.1 h.1
  have hleft : refusedPage d p = d := if_neg fun h => hne.2.1 h.1
  by_cases h1 : p 1 = 0x0a
  · have hsel : selectPage d p i = some (.done d) := by
      simp only [selectPage, if_neg hne.1, if_neg hne.2.1, if_pos h0, if_pos h1]
    rw [hsel]
    refine .done _ ?_ hover (Or.inl h0)
    simp only [applyPage, if_neg hne.1, if_neg hne.2.1, if_pos h0, if_pos h1]
  · by_cases h2 : p 1 = 0xf0
    · by_cases hl : d.pm.drive_supports_LBP ≠ 0
      · have hsel : selectPage d p i = some (.done (update_logical_block_protection d p)) := by
          simp only [selectPage, if_neg hne.1, if_neg hne.2.1, if_pos h0, if_neg h1, if_pos h2,
            set_lbp, if_pos hl]
        rw [hsel]
        refine .done _ ?_ hover (Or.inl h0)
        simp only [applyPage, if_neg hne.1, if_neg hne.2.1, if_pos h0, if_neg h1, if_pos h2, set_lbp,
          if_pos hl, if_true]
      · have hsel : ∃ s, selectPage d p i = some (.refused s (refusedPage d p)) := by
          refine ⟨sam_illegal_request E_INVALID_FIELD_IN_CDB (some ⟨SKSV ||| CD, 1⟩), ?_⟩
          simp only [selectPage, if_neg hne.1, if_neg hne.2.1, if_pos h0, if_neg h1, if_pos h2,
            set_lbp, if_neg hl, hleft]
        obtain ⟨s, hs⟩ := hsel
        rw [hs]
        refine .refused s ?_ hover hne.2.2
        simp only [applyPage, if_neg hne.1, if_neg hne.2.1, if_pos h0, if_neg h1, if_pos h2, set_lbp,
          if_neg hl, reduceCtorEq, if_false]
    · have hsel : ∃ s, selectPage d p i = some (.refused s (refusedPage d p)) := by
        refine ⟨sam_illegal_request E_INVALID_FIELD_IN_CDB (some ⟨SKSV, i⟩), ?_⟩
        simp only [selectPage, if_neg hne.1, if_neg hne.2.1, if_pos h0, if_neg h1, if_neg h2, hleft]
      obtain ⟨s, hs⟩ := hsel
      rw [hs]
      refine .refused s ?_ hover hne.2.2
      simp only [applyPage, if_neg hne.1, if_neg hne.2.1, if_pos h0, if_neg h1, if_neg h2]

/-- The cases of `selectPage`. -/
theorem selectPage_case (d : Drive) (p : ℕ → UInt8) (i : ℕ) : PageCase d p (selectPage d p i) := by
  by_cases h0f : p 0 = MODE_DATA_COMPRESSION
  · exact selectPage_compression d i h0f
  by_cases h10 : p 0 = MODE_DEVICE_CONFIGURATION
  · exact selectPage_configuration d i h10
  by_cases h0a : p 0 = MODE_CONTROL
  · exact selectPage_control d i h0a
  have hover : ¬PassedOver p := fun h => h0f h.1
  by_cases h11 : p 0 = MODE_MEDIUM_PARTITION
  · have hsel : selectPage d p i = (set_medium_partition d p).map .done := by
      simp only [selectPage, if_neg h0f, if_neg h10, if_neg h0a, if_pos h11]
    have happ : applyPage d p = set_medium_partition d p := by
      simp only [applyPage, if_neg h0f, if_neg h10, if_neg h0a, if_pos h11]
    rw [hsel]
    cases hm : set_medium_partition d p with
    | none => exact .lost (happ.trans hm) hover h11
    | some d' => exact .done d' (happ.trans hm) hover (Or.inr h11)
  · have hleft : refusedPage d p = d := if_neg fun h => h10 h.1
    have hsel : ∃ s, selectPage d p i = some (.refused s (refusedPage d p)) := by
      refine ⟨sam_illegal_request E_INVALID_FIELD_IN_CDB (some ⟨SKSV, i⟩), ?_⟩
      simp only [selectPage, if_neg h0f, if_neg h10, if_neg h0a, if_neg h11, hleft]
    obtain ⟨s, hs⟩ := hsel
    rw [hs]
    refine .refused s ?_ hover h11
    simp only [applyPage, if_neg h0f, if_neg h10, if_neg h0a, if_neg h11]

/-- A page takes at least two bytes. -/
theorem pageLength_pos (p : ℕ → UInt8) : 2 ≤ pageLength p := by
  unfold pageLength
  split <;> omega

/-- A page that can be applied is not passed over. -/
theorem not_passedOver {d d' : Drive} {p : ℕ → UInt8} (h : applyPage d p = some d') :
    ¬PassedOver p := by
  rintro ⟨h0, h1, -⟩
  simp only [applyPage, if_pos h0, if_neg h1] at h
  exact absurd h nofun

/-- A page that is applied takes the walk on. -/
theorem selectPage_applied {d d' : Drive} {p : ℕ → UInt8} (h : applyPage d p = some d')
    (he : ¬EndsWalk p) (i : ℕ) : selectPage d p i = some (.next d' (pageLength p)) := by
  have hcase := selectPage_case d p i
  generalize selectPage d p i = r at hcase ⊢
  cases hcase with
  | passed hp => exact absurd hp (not_passedOver h)
  | next d'' h' =>
    rw [h] at h'
    cases h'
    rfl
  | done d'' h' hp he' => exact absurd he' he
  | refused s h' => exact absurd (h.symm.trans h') nofun
  | lost h' => exact absurd (h.symm.trans h') nofun

/-- Or it ends it. -/
theorem selectPage_last {d d' : Drive} {p : ℕ → UInt8} (h : applyPage d p = some d')
    (he : EndsWalk p) (i : ℕ) : selectPage d p i = some (.done d') := by
  have hcase := selectPage_case d p i
  generalize selectPage d p i = r at hcase ⊢
  cases hcase with
  | passed hp => exact absurd hp (not_passedOver h)
  | next d'' h' hp he' => exact absurd he he'
  | done d'' h' =>
    rw [h] at h'
    cases h'
    rfl
  | refused s h' => exact absurd (h.symm.trans h') nofun
  | lost h' => exact absurd (h.symm.trans h') nofun

/-- A page that is passed over takes the walk on. -/
theorem selectPage_over {d : Drive} {p : ℕ → UInt8} (h : PassedOver p) (i : ℕ) :
    selectPage d p i = some (.next d (pageLength p)) := by
  have hcase := selectPage_case d p i
  generalize selectPage d p i = r at hcase ⊢
  cases hcase with
  | passed => rfl
  | next d' h' hp => exact absurd h hp
  | done d' h' hp => exact absurd h hp
  | refused s h' hp => exact absurd h hp
  | lost h' hp => exact absurd h hp

/-- A page that cannot be applied is refused. -/
theorem selectPage_refused {d : Drive} {p : ℕ → UInt8} (h : applyPage d p = none)
    (hp : ¬PassedOver p) (hm : p 0 ≠ MODE_MEDIUM_PARTITION) (i : ℕ) :
    ∃ s, selectPage d p i = some (.refused s (refusedPage d p)) := by
  have hcase := selectPage_case d p i
  generalize selectPage d p i = r at hcase ⊢
  cases hcase with
  | passed hp' => exact absurd hp' hp
  | next d' h' => exact absurd (h.symm.trans h') nofun
  | done d' h' => exact absurd (h.symm.trans h') nofun
  | refused s => exact ⟨s, rfl⟩
  | lost h' hp hm' => exact absurd hm' hm

/-- All pages from place `i` on, applied one after another. -/
inductive AppliedAll (buf : ℕ → UInt8) (count : ℕ) : ℕ → Drive → Drive → Prop where
  /-- No page is left. -/
  | nil {i : ℕ} (d : Drive) (h : count ≤ i) : AppliedAll buf count i d d
  /-- One page and the others. -/
  | cons {i : ℕ} {d d₁ d₂ : Drive} (h : i < count) (ha : applyPage d (pageAt buf i) = some d₁)
      (ht : AppliedAll buf count (i + pageLength (pageAt buf i)) d₁ d₂) : AppliedAll buf count i d d₂

/-- The pages that the walk takes from place `i` to place `k`, looking at bytes of the list
only. A strict walk passes over none. -/
inductive Walked (buf : ℕ → UInt8) (count : ℕ) (strict : Bool) : ℕ → Drive → ℕ → Drive → Prop where
  /-- No page. -/
  | refl (i : ℕ) (d : Drive) : Walked buf count strict i d i d
  /-- A page that is applied. -/
  | applied {i k : ℕ} {d d₁ d₂ : Drive} (h : i < count) (hin : i + pageReads d (pageAt buf i) ≤ count)
      (he : ¬EndsWalk (pageAt buf i)) (ha : applyPage d (pageAt buf i) = some d₁)
      (ht : Walked buf count strict (i + pageLength (pageAt buf i)) d₁ k d₂) :
      Walked buf count strict i d k d₂
  /-- A page that is passed over. -/
  | passed {i k : ℕ} {d d₂ : Drive} (hs : strict = false) (h : i < count)
      (hin : i + pageReads d (pageAt buf i) ≤ count) (hp : PassedOver (pageAt buf i))
      (ht : Walked buf count strict (i + pageLength (pageAt buf i)) d k d₂) :
      Walked buf count strict i d k d₂

/-- The walk does as described. -/
theorem selectPages_walked {buf : ℕ → UInt8} {count i k : ℕ} {strict : Bool} {d d' : Drive}
    (h : Walked buf count strict i d k d') {rounds reads : ℕ} (hr : count < rounds + 1 + i)
    (hread : reads ≤ count) :
    ∃ rounds' reads', selectPages buf count (rounds + 1) i reads d =
      selectPages buf count (rounds' + 1) k reads' d' ∧ reads' ≤ count := by
  induction h generalizing rounds reads with
  | refl i d => exact ⟨rounds, reads, rfl, hread⟩
  | @applied i k d d₁ d₂ hlt hin he ha ht ih =>
    have hpos := pageLength_pos (pageAt buf i)
    cases rounds with
    | zero => omega
    | succ rounds =>
      rw [selectPages, if_neg (Nat.not_le_of_lt hlt)]
      simp only [selectPage_applied ha he]
      exact ih (by omega) (by omega)
  | @passed i k d d₂ hs hlt hin hp ht ih =>
    have hpos := pageLength_pos (pageAt buf i)
    cases rounds with
    | zero => omega
    | succ rounds =>
      rw [selectPages, if_neg (Nat.not_le_of_lt hlt)]
      simp only [selectPage_over hp]
      exact ih (by omega) (by omega)

/-- How a walk that looked at bytes of the list only came to its end. -/
inductive WalkEnd (buf : ℕ → UInt8) (count : ℕ) (k : ℕ) (d : Drive) : Selected → Prop where
  /-- The list is at its end. -/
  | exhausted (reads : ℕ) (h : count ≤ k) :
      WalkEnd buf count k d ⟨true, d.returns SAM_STAT_GOOD, reads⟩
  /-- A page ended the walk. -/
  | last (d' : Drive) (reads : ℕ) (h : k < count) (hin : k + pageReads d (pageAt buf k) ≤ count)
      (ha : applyPage d (pageAt buf k) = some d') (he : EndsWalk (pageAt buf k)) :
      WalkEnd buf count k d ⟨true, d'.returns SAM_STAT_GOOD, reads⟩
  /-- A page was refused. -/
  | refused (s : Status) (reads : ℕ) (h : k < count)
      (hin : k + pageReads d (pageAt buf k) ≤ count) (ha : applyPage d (pageAt buf k) = none)
      (hp : ¬PassedOver (pageAt buf k)) (hm : pageAt buf k 0 ≠ MODE_MEDIUM_PARTITION) :
      WalkEnd buf count k d ⟨false, (refusedPage d (pageAt buf k)).report s, reads⟩

/-- Bytes that were looked at stay so. -/
theorem selectPages_reads {buf : ℕ → UInt8} {count rounds i reads : ℕ} {d : Drive} {r : Selected}
    (h : selectPages buf count rounds i reads d = some r) : reads ≤ r.reads := by
  induction rounds generalizing i reads d with
  | zero => exact absurd h nofun
  | succ rounds ih =>
    simp only [selectPages] at h
    split at h
    · cases h
      exact Nat.le_refl _
    · split at h
      · exact absurd h nofun
      · cases h
        exact Nat.le_max_left ..
      · cases h
        exact Nat.le_max_left ..
      · exact Nat.le_trans (Nat.le_max_left ..) (ih h)

/-- Every walk inside the list takes some pages and ends. -/
theorem walked_of_selectPages {buf : ℕ → UInt8} {count rounds i reads : ℕ} {d : Drive} {r : Selected}
    (h : selectPages buf count rounds i reads d = some r) (hin : r.reads ≤ count) :
    ∃ k d', Walked buf count false i d k d' ∧ WalkEnd buf count k d' r := by
  induction rounds generalizing i reads d with
  | zero => exact absurd h nofun
  | succ rounds ih =>
    simp only [selectPages] at h
    split at h
    · rename_i hend
      cases h
      exact ⟨i, d, .refl i d, .exhausted _ hend⟩
    · rename_i hlt
      have hlt : i < count := Nat.lt_of_not_le hlt
      have hcase := selectPage_case d (pageAt buf i) i
      cases hs : selectPage d (pageAt buf i) i with
      | none =>
        rw [hs] at h
        exact absurd h nofun
      | some res =>
        rw [hs] at h hcase
        have hreads : i + pageReads d (pageAt buf i) ≤ r.reads := by
          cases res with
          | refused s d' =>
            cases h
            exact Nat.le_max_right ..
          | done d' =>
            cases h
            exact Nat.le_max_right ..
          | next d' len => exact Nat.le_trans (Nat.le_max_right ..) (selectPages_reads h)
        have hpage := Nat.le_trans hreads hin
        cases hcase with
        | passed hp =>
          obtain ⟨k, d', hw, hend⟩ := ih h
          exact ⟨k, d', .passed rfl hlt hpage hp hw, hend⟩
        | next d₁ ha hp he =>
          obtain ⟨k, d', hw, hend⟩ := ih h
          exact ⟨k, d', .applied hlt hpage he ha hw, hend⟩
        | done d₁ ha hp he =>
          cases h
          exact ⟨i, d, .refl i d, .last d₁ _ hlt hpage ha he⟩
        | refused s ha hp hm =>
          cases h
          exact ⟨i, d, .refl i d, .refused s _ hlt hpage ha hp hm⟩

end Mhvtl.Ssc
