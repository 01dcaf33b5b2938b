import Mhvtl.Smc.LibraryLife
import Mhvtl.Smc.SavedLines

/-!
# Restarting a library

The library that is read from the file that another one saved at its end, and from the same
device file, has the same elements, with the same bar codes in them, and empty drives.
-/

namespace Mhvtl

open Interact

namespace Smc

variable {smc r r' : Smc} {done : List Slot} {sp : Slot}

/-- Address, type and bar code of an element. -/
def shown (smc : Smc) (sp : Slot) : ℕ × ElementType × Option Text :=
  (sp.slot_location, sp.element_type, smc.barcodeOf sp)

/-- What is saved of an element. -/
def savedShown (smc : Smc) (sp : Slot) : ℕ × ElementType × Option Text :=
  (sp.slot_location, sp.element_type, smc.saved sp)

/-- A library with some of the elements of another, as they were saved. -/
structure Rebuilt (smc : Smc) (done : List Slot) (r : Smc) : Prop where
  /-- Start addresses. -/
  pm : r.pm = smc.pm
  /-- The elements. -/
  elements : r.slots.map r.shown = done.map smc.savedShown
  /-- Elements point to records there are. -/
  known : ∀ sp ∈ r.slots, ∀ m, sp.media = some m → m < r.media_list.length
  /-- Records are of cartridges that were saved. -/
  records : ∀ mp ∈ r.media_list, ∃ sp ∈ done, smc.saved sp = some mp.barcode

/-- One more element. -/
theorem Rebuilt.append (h : Rebuilt smc done r) {new : Slot} {records : List MediaInfo}
    (hpm : r'.pm = r.pm) (hslots : r'.slots = r.slots ++ [new])
    (hrecords : r'.media_list = r.media_list ++ records)
    (hplace : new.slot_location = sp.slot_location ∧ new.element_type = sp.element_type)
    (hnew : new.media = none ∧ smc.saved sp = none ∧ records = [] ∨
      ∃ mp, new.media = some r.media_list.length ∧ smc.saved sp = some mp.barcode ∧
        records = [mp]) :
    Rebuilt smc (done ++ [sp]) r' := by
  have hold : ∀ sq ∈ r.slots, r'.shown sq = r.shown sq := by
    intro sq hsq
    rw [shown, shown, barcodeOf, barcodeOf, hrecords]
    cases hm : sq.media with
    | none => rfl
    | some m => rw [Option.bind_some, Option.bind_some,
        List.getElem?_append_left (h.known sq hsq m hm)]
  have hshown : r'.shown new = smc.savedShown sp := by
    rw [shown, savedShown, hplace.1, hplace.2, barcodeOf, hrecords]
    rcases hnew with ⟨hm, hs, -⟩ | ⟨mp, hm, hs, rfl⟩
    · rw [hm, hs]
      rfl
    · rw [hm, hs, Option.bind_some, List.getElem?_append_right (Nat.le_refl _), Nat.sub_self]
      rfl
  refine ⟨hpm.trans h.pm, ?_, ?_, ?_⟩
  · rw [hslots, List.map_append, List.map_append, List.map_singleton, List.map_singleton, hshown,
      ← h.elements, List.map_congr_left hold]
  · intro sq hsq m hm
    rw [hrecords, List.length_append]
    rw [hslots] at hsq
    rcases List.mem_append.mp hsq with hsq | hsq
    · have hlt := h.known sq hsq m hm
      omega
    · rw [List.mem_singleton.mp hsq] at hm
      rcases hnew with ⟨hnone, -, -⟩ | ⟨mp, hsome, -, rfl⟩
      · rw [hnone] at hm
        cases hm
      · rw [hsome] at hm
        rw [← Option.some.inj hm, List.length_singleton]
        exact Nat.lt_succ_self _
  · intro mp hmp
    rw [hrecords] at hmp
    rcases List.mem_append.mp hmp with hmp | hmp
    · obtain ⟨sq, hsq, hsaved⟩ := h.records mp hmp
      exact ⟨sq, List.mem_append_left _ hsq, hsaved⟩
    · rcases hnew with ⟨-, -, rfl⟩ | ⟨mq, -, hs, rfl⟩
      · cases hmp
      · rw [List.mem_singleton.mp hmp]
        exact ⟨sp, List.mem_append_right _ (List.mem_singleton_self sp), hs⟩

/-- There is room for an element at the place it was. -/
theorem LaidOut.room (hl : smc.LaidOut) (hsp : sp ∈ smc.slots) (hpm : r.pm = smc.pm) :
    r.check_overflow (smc.slotNumber sp) sp.element_type = false ∧
      r.location (smc.slotNumber sp) sp.element_type = sp.slot_location := by
  have hrange := hl.inRange sp hsp
  have hfits := hl.fits sp.element_type
  constructor
  · by_contra hover
    obtain ⟨u, hlt, hend⟩ := (r.check_overflow_iff _ _).mp (Bool.not_eq_false _ ▸ hover)
    rw [hpm] at hlt hend
    have hapart := hl.apart _ _ hlt
    rw [slotNumber] at hend
    omega
  · rw [location, slotNumber, hpm]
    omega

/-- Cartridges with the same bar code are in the same element. -/
theorem Labelled.same (hlab : smc.Labelled) (hc : Conserved smc) {sq : Slot} {b : Text}
    (hsp : sp ∈ smc.slots) (hsq : sq ∈ smc.slots) (hb : smc.saved sp = some b)
    (hb' : smc.saved sq = some b) : sp = sq := by
  have hrecord : ∀ {sr : Slot}, sr ∈ smc.slots → smc.saved sr = some b →
      ∃ m mp, sr.media = some m ∧ smc.media_list[m]? = some mp ∧ mp.barcode = b := by
    intro sr _ hsr
    rw [saved] at hsr
    split at hsr
    · cases hsr
    obtain ⟨m, hm, hbar⟩ := Option.bind_eq_some_iff.mp hsr
    obtain ⟨mp, hmp, hmpb⟩ := Option.map_eq_some_iff.mp hbar
    exact ⟨m, mp, hm, hmp, hmpb⟩
  obtain ⟨m, mp, hm, hmp, hmpb⟩ := hrecord hsp hb
  obtain ⟨n, np, hn, hnp, hnpb⟩ := hrecord hsq hb'
  have hmn := hlab.different m n mp np ⟨sp, hsp, hm⟩ ⟨sq, hsq, hn⟩ hmp hnp (hmpb.trans hnpb.symm)
  subst hmn
  obtain ⟨i, hi⟩ := List.mem_iff_getElem?.mp hsp
  obtain ⟨j, hj⟩ := List.mem_iff_getElem?.mp hsq
  have hij := hc.alone i j sp sq m hi hj hm hn
  subst hij
  exact Option.some.inj (hi.symm.trans hj)

/-- The bar code that is saved of an element is a label. -/
theorem Labelled.saved_label (hlab : smc.Labelled) {b : Text} (hsp : sp ∈ smc.slots)
    (hb : smc.saved sp = some b) :
    Label b ∧ b.length = MAX_BARCODE_LEN ∧ sp.element_type ≠ .DATA_TRANSFER := by
  rw [saved] at hb
  split at hb
  · cases hb
  next hdrive =>
  obtain ⟨m, hm, hbar⟩ := Option.bind_eq_some_iff.mp hb
  obtain ⟨mp, hmp, rfl⟩ := Option.map_eq_some_iff.mp hbar
  exact ⟨hlab.label m mp ⟨sp, hsp, hm⟩ hmp, mp.barcode_length, hdrive⟩

/-- Elements of a library other than one. -/
def Others (smc : Smc) (done : List Slot) (sp : Slot) : Prop :=
  ∀ sq ∈ done, sq ∈ smc.slots ∧ sq.slot_location ≠ sp.slot_location

/-- The field of a word that was cut off a label is the label. -/
theorem barcodeField_truncate {b : Text} (hb : Label b) (hlen : b.length = MAX_BARCODE_LEN) :
    b.truncate_spaces.length ≤ MAX_BARCODE_LEN ∧ barcodeField b.truncate_spaces = b := by
  obtain ⟨k, hk⟩ := hb.eq
  have hsum := congrArg List.length hk
  rw [List.length_append, List.length_replicate, hlen] at hsum
  have hle : b.truncate_spaces.length ≤ MAX_BARCODE_LEN := by omega
  refine ⟨hle, ?_⟩
  rw [barcodeField, List.take_of_length_le hle, Text.leftJust]
  have hblanks : MAX_BARCODE_LEN - b.truncate_spaces.length = k := by omega
  rw [hblanks]
  exact hk.symm

/-- The bar code of an element is new, and its record has it whole. -/
theorem Rebuilt.add_barcode (h : Rebuilt smc done r) (hc : Conserved smc) (hlab : smc.Labelled)
    (hsp : sp ∈ smc.slots) (hothers : smc.Others done sp) {b : Text}
    (hb : smc.saved sp = some b) :
    ∃ mp : MediaInfo, r.add_barcode b.truncate_spaces =
      some ({ r with media_list := r.media_list ++ [mp] }, r.media_list.length) ∧
        mp.barcode = b := by
  obtain ⟨hlabel, hlen, -⟩ := hlab.saved_label hsp hb
  obtain ⟨hle, hfield⟩ := barcodeField_truncate hlabel hlen
  have hlookup : r.lookup_barcode b.truncate_spaces = none := by
    cases hfound : r.lookup_barcode b.truncate_spaces with
    | none => rfl
    | some m =>
      -- a bar code that is found fills its field, so an element had it before
      obtain ⟨mp, hmp, hbar⟩ := lookup_barcode_some hle hfound
      have hfull := mp.barcode_length
      rw [barcodeField, List.take_of_length_le hle,
        Text.leftJust_full (by rw [← hbar, hfull])] at hfield
      obtain ⟨sq, hsq, hsaved⟩ := h.records mp (List.mem_of_getElem? hmp)
      rw [hbar, hfield] at hsaved
      obtain ⟨hmem, hne⟩ := hothers sq hsq
      exact absurd (congrArg Slot.slot_location (hlab.same hc hmem hsp hsaved hb)) hne
  rw [Smc.add_barcode, if_neg (not_lt.mpr hle), hlookup, Option.isSome_none,
    if_neg Bool.false_ne_true]
  exact ⟨_, rfl, hfield⟩

/-- The next element that is no drive. -/
theorem Rebuilt.init_slot (h : Rebuilt smc done r) (hl : smc.LaidOut) (hc : Conserved smc)
    (hlab : smc.Labelled) (hsp : sp ∈ smc.slots) (hothers : smc.Others done sp)
    (ht : sp.element_type ≠ .DATA_TRANSFER) (status : BitVec 8) :
    ∃ r', Smc.init_slot sp.element_type ht status r (smc.slotNumber sp) (smc.savedText sp) =
      some r' ∧ Rebuilt smc (done ++ [sp]) r' := by
  obtain ⟨hroom, hlocation⟩ := hl.room hsp h.pm
  rw [Smc.init_slot, hroom, if_neg Bool.false_ne_true, savedText]
  cases hs : smc.saved sp with
  | none =>
    refine ⟨_, rfl, h.append (count_pm _ _) (count_slots _ _)
      ((count_media_list _ _).trans (List.append_nil _).symm) ⟨hlocation, rfl⟩
      (Or.inl ⟨rfl, hs, rfl⟩)⟩
  | some b =>
    obtain ⟨hlabel, -, -⟩ := hlab.saved_label hsp hs
    obtain ⟨mp, hadd, hbar⟩ := h.add_barcode hc hlab hsp hothers hs
    rw [Option.map_some, Option.getD_some, if_neg hlabel.2, hadd, Option.map_some]
    refine ⟨_, rfl, h.append (count_pm _ _) (count_slots _ _) (count_media_list _ _)
      ⟨hlocation, rfl⟩ (Or.inr ⟨mp, rfl, by rw [hbar, hs], rfl⟩)⟩

/-- The next drive. -/
theorem Rebuilt.init_drive_slot (h : Rebuilt smc done r) (hl : smc.LaidOut)
    (hsp : sp ∈ smc.slots) (hothers : smc.Others done sp)
    (ht : sp.element_type = .DATA_TRANSFER) :
    Rebuilt smc (done ++ [sp]) (r.init_drive_slot (smc.slotNumber sp)) := by
  obtain ⟨hroom, hlocation⟩ := hl.room hsp h.pm
  rw [ht] at hroom hlocation
  have hlookup : r.lookup_drive (smc.slotNumber sp) = none := by
    rw [Smc.lookup_drive, List.findIdx?_eq_none_iff]
    intro sq hsq
    have hmem := List.mem_map_of_mem (f := r.shown) hsq
    rw [h.elements] at hmem
    obtain ⟨sr, hsr, heq⟩ := List.mem_map.mp hmem
    have hne := (hothers sr hsr).2
    have hloc : sr.slot_location = sq.slot_location := congrArg Prod.fst heq
    rw [hlocation, Bool.and_eq_false_iff]
    right
    rw [← hloc]
    exact beq_false_of_ne hne
  rw [Smc.init_drive_slot, hroom, if_neg Bool.false_ne_true, hlookup]
  exact h.append (count_pm _ _) (count_slots _ _)
    ((count_media_list _ _).trans (List.append_nil _).symm) ⟨hlocation, ht.symm⟩
    (Or.inl ⟨rfl, if_pos ht, rfl⟩)

/-- The next element. -/
theorem Rebuilt.init_element (h : Rebuilt smc done r) (hl : smc.LaidOut) (hc : Conserved smc)
    (hlab : smc.Labelled) (hsp : sp ∈ smc.slots) (hothers : smc.Others done sp) :
    ∃ r', r.init_element sp.element_type (smc.slotNumber sp) (smc.savedText sp) = some r' ∧
      Rebuilt smc (done ++ [sp]) r' := by
  have hslot := h.init_slot hl hc hlab hsp hothers
  generalize ht : sp.element_type = t at hslot
  cases t with
  | DATA_TRANSFER => exact ⟨_, rfl, h.init_drive_slot hl hsp hothers ht⟩
  | MAP_ELEMENT => exact hslot (by decide) _
  | MEDIUM_TRANSPORT => exact hslot (by decide) _
  | STORAGE_ELEMENT => exact hslot (by decide) _

/-- The next elements of a type. -/
theorem Rebuilt.init_elements {t : ElementType} {slots : List Slot} (h : Rebuilt smc done r)
    (hl : smc.LaidOut) (hc : Conserved smc) (hlab : smc.Labelled)
    (htype : ∀ sp ∈ slots, sp.element_type = t)
    (hsub : ∀ sp ∈ done ++ slots, sp ∈ smc.slots)
    (hasc : (done ++ slots).Pairwise fun sp sq => sp.slot_location < sq.slot_location) :
    ∃ r', Smc.init_elements t r (slots.map fun sp => (smc.slotNumber sp, smc.savedText sp)) =
      some r' ∧ Rebuilt smc (done ++ slots) r' := by
  induction slots generalizing r done with
  | nil => exact ⟨r, rfl, (List.append_nil done).symm ▸ h⟩
  | cons sp slots ih =>
    have hothers : smc.Others done sp := fun sq hsq =>
      ⟨hsub sq (List.mem_append_left _ hsq),
        ((List.pairwise_append.mp hasc).2.2 sq hsq sp (List.mem_cons_self ..)).ne⟩
    obtain ⟨r₁, hone, h₁⟩ := h.init_element hl hc hlab
      (hsub sp (List.mem_append_right _ (List.mem_cons_self ..))) hothers
    rw [htype sp (List.mem_cons_self ..)] at hone
    rw [List.append_cons] at hsub hasc
    obtain ⟨r₂, hrest, h₂⟩ := ih h₁ (fun sq hsq => htype sq (List.mem_cons_of_mem _ hsq)) hsub hasc
    refine ⟨r₂, ?_, (List.append_cons done sp slots).symm ▸ h₂⟩
    rw [Smc.init_elements, List.map_cons, List.foldlM_cons, hone]
    exact hrest

/-- The elements by type. -/
def byTypes (smc : Smc) (types : List TypeSlot) : List Slot :=
  types.flatMap fun x => ofType smc.slots x.type

/-- The elements of some types, gone through by start address, go by address. -/
theorem LaidOut.byTypes_ascending (hl : smc.LaidOut) {types : List TypeSlot}
    (hown : ∀ x ∈ types, x.start = smc.pm.start x.type)
    (hasc : types.Pairwise fun x y => x.start < y.start) :
    (smc.byTypes types).Pairwise fun sp sq => sp.slot_location < sq.slot_location := by
  induction types with
  | nil => exact List.Pairwise.nil
  | cons x types ih =>
    obtain ⟨hfirst, htail⟩ := List.pairwise_cons.mp hasc
    rw [byTypes, List.flatMap_cons]
    refine List.pairwise_append.mpr ⟨hl.ascending.sublist List.filter_sublist,
      ih (fun y hy => hown y (List.mem_cons_of_mem _ hy)) htail, fun sp hsp sq hsq => ?_⟩
    obtain ⟨y, hy, hsqy⟩ := List.mem_flatMap.mp hsq
    obtain ⟨hspmem, hsptype⟩ := List.mem_filter.mp hsp
    obtain ⟨hsqmem, hsqtype⟩ := List.mem_filter.mp hsqy
    have hlt := hfirst y hy
    rw [hown x (List.mem_cons_self ..), hown y (List.mem_cons_of_mem _ hy),
      ← eq_of_beq hsptype, ← eq_of_beq hsqtype] at hlt
    have hapart := hl.apart _ _ hlt
    have hsprange := (hl.inRange sp hspmem).2
    have hsqrange := (hl.inRange sq hsqmem).1
    omega

/-- The elements by type are the elements. -/
theorem LaidOut.byTypes_all (hl : smc.LaidOut) :
    smc.byTypes (sort_library_slot_type smc.pm) = smc.slots := by
  apply eq_of_ascending Slot.slot_location (hl.byTypes_ascending
    (fun x hx => sort_library_slot_type_start hl.starts hx)
    (sort_library_slot_type_ascending hl.starts)) hl.ascending
  intro sp
  constructor
  · intro hsp
    obtain ⟨x, -, hmem⟩ := List.mem_flatMap.mp hsp
    exact List.mem_of_mem_filter hmem
  · intro hsp
    refine List.mem_flatMap.mpr ⟨_, mem_sort_library_slot_type hl.starts sp.element_type, ?_⟩
    exact List.mem_filter.mpr ⟨hsp, beq_self_eq_true _⟩

/-- Reading the lines on some types. -/
theorem Rebuilt.types {types : List TypeSlot} {lines : List Text} {stack : ElementType → ℤ}
    (h : Rebuilt smc done r) (hl : smc.LaidOut) (hc : Conserved smc) (hlab : smc.Labelled)
    (hfile : FileOn smc smc.slots lines) (hsub : ∀ sp ∈ done, sp ∈ smc.slots)
    (hasc : (done ++ smc.byTypes types).Pairwise fun sp sq => sp.slot_location < sq.slot_location) :
    ∃ r', types.foldlM (fun smc x => smc.init_slot_info_type lines stack x.type) r = some r' ∧
      Rebuilt smc (done ++ smc.byTypes types) r' := by
  induction types generalizing r done with
  | nil => exact ⟨r, rfl, (List.append_nil done).symm ▸ h⟩
  | cons x types ih =>
    rw [byTypes, List.flatMap_cons, ← List.append_assoc] at hasc ⊢
    have hall : ∀ sp ∈ done ++ ofType smc.slots x.type, sp ∈ smc.slots := by
      intro sp hsp
      rcases List.mem_append.mp hsp with hsp | hsp
      · exact hsub sp hsp
      · exact List.mem_of_mem_filter hsp
    have htype : ∀ sp ∈ ofType smc.slots x.type, sp.element_type = x.type := fun sp hsp =>
      eq_of_beq (List.mem_filter.mp hsp).2
    obtain ⟨r₁, hone, h₁⟩ := h.init_elements hl hc hlab htype hall (List.pairwise_append.mp hasc).1
    obtain ⟨r₂, hrest, h₂⟩ := ih h₁ hall hasc
    refine ⟨r₂, ?_, h₂⟩
    have hentries := hfile.entries x.type (fun _ => hl.slotNumbers x.type) (stack x.type)
    rw [List.foldlM_cons, Smc.init_slot_info_type, readLines_eq, ← Nat.cast_one, hentries, hone]
    exact hrest

/-- Reading the file that was saved. -/
theorem FileOn.read (hl : smc.LaidOut) (hc : Conserved smc) (hlab : smc.Labelled)
    {lines : List Text} (hfile : FileOn smc smc.slots lines) (stack : ElementType → ℤ)
    (movecommand : Option Text) :
    ∃ r, init_slot_info lines stack (blank smc.pm movecommand) = some r ∧ r.pm = smc.pm ∧
      r.slots.map r.shown = smc.slots.map smc.savedShown := by
  have hempty : Rebuilt smc [] (blank smc.pm movecommand) :=
    ⟨rfl, rfl, fun sp hsp => absurd hsp List.not_mem_nil, fun mp hmp => absurd hmp List.not_mem_nil⟩
  obtain ⟨r, hread, hr⟩ := @Rebuilt.types smc (blank smc.pm movecommand) []
    (sort_library_slot_type smc.pm) lines stack hempty hl hc hlab hfile
    (fun sp hsp => absurd hsp List.not_mem_nil)
    (by rw [hl.byTypes_all]; exact hl.ascending)
  rw [hl.byTypes_all] at hr
  exact ⟨r, hread, hr.pm, hr.elements⟩

/-- Records with different labels. -/
theorem Labelled.of_records (hlabel : ∀ mp ∈ smc.media_list, Label mp.barcode)
    (hnodup : (smc.media_list.map MediaInfo.barcode).Nodup) : smc.Labelled where
  label _ mp _ hmp := hlabel mp (List.mem_of_getElem? hmp)
  different m n mp np _ _ hmp hnp heq := by
    have hlt : m < (smc.media_list.map MediaInfo.barcode).length := by
      rw [List.length_map]
      exact (List.getElem?_eq_some_iff.mp hmp).1
    apply (List.getElem?_inj hlt hnodup).mp
    rw [List.getElem?_map, List.getElem?_map, hmp, hnp, Option.map_some, Option.map_some, heq]

/-- Taking cartridges out of drives changes no bar code. -/
theorem Labelled.takenOut {smc' : Smc} (hlab : smc.Labelled) (h : TakenOut smc smc') :
    smc'.Labelled := by
  have hrecord : ∀ {m : ℕ} {mp : MediaInfo}, smc'.media_list[m]? = some mp →
      ∃ mq, smc.media_list[m]? = some mq ∧ mq.barcode = mp.barcode := by
    intro m mp hmp
    have hmap := congrArg (fun l => l[m]?) h.barcodes
    simp only [List.getElem?_map, hmp, Option.map_some] at hmap
    exact Option.map_eq_some_iff.mp hmap.symm
  constructor
  · intro m mp hm hmp
    obtain ⟨mq, hmq, heq⟩ := hrecord hmp
    exact heq ▸ hlab.label m mq ((h.held m).mp hm) hmq
  · intro m n mp np hm hn hmp hnp heq
    obtain ⟨mq, hmq, hmeq⟩ := hrecord hmp
    obtain ⟨nq, hnq, hneq⟩ := hrecord hnp
    exact hlab.different m n mq nq ((h.held m).mp hm) ((h.held n).mp hn) hmq hnq
      (hmeq.trans (heq.trans hneq.symm))

/-- Bar codes in the elements. -/
def Has (smc : Smc) (barcode : Text) : Prop := ∃ sp ∈ smc.slots, smc.barcodeOf sp = some barcode

/-- Taking cartridges out of drives loses none. -/
theorem Has.takenOut {smc' : Smc} (h : TakenOut smc smc') (barcode : Text) :
    smc'.Has barcode ↔ smc.Has barcode := by
  have hkey : ∀ s : Smc, s.Has barcode ↔
      ∃ m, s.Holds m ∧ (s.media_list.map MediaInfo.barcode)[m]? = some barcode := by
    intro s
    constructor
    · rintro ⟨sp, hsp, hbar⟩
      obtain ⟨m, hm, hrecord⟩ := Option.bind_eq_some_iff.mp hbar
      exact ⟨m, ⟨sp, hsp, hm⟩, by rw [List.getElem?_map]; exact hrecord⟩
    · rintro ⟨m, ⟨sp, hsp, hm⟩, hrecord⟩
      rw [List.getElem?_map] at hrecord
      exact ⟨sp, hsp, by rw [barcodeOf, hm]; exact hrecord⟩
  rw [hkey, hkey, h.barcodes]
  simp only [h.held]

/-- Elements that were read back are at their places. -/
theorem placesKept_of_shown {r : Smc} (hpm : r.pm = smc.pm)
    (hshown : r.slots.map r.shown = smc.slots.map smc.savedShown) : PlacesKept smc r := by
  have hplaces := congrArg
    (List.map fun a : ℕ × ElementType × Option Text => (a.1, a.2.1)) hshown
  rw [List.map_map, List.map_map] at hplaces
  refine ⟨hpm, ?_⟩
  exact hplaces ▸ List.prefix_rfl

end Smc

/-- The device file changes neither places nor bar codes. -/
theorem Redriven.shown {smc smc' : Smc} (h : Redriven smc smc') :
    smc'.slots.map smc'.shown = smc.slots.map smc.shown := by
  apply List.ext_getElem?
  intro i
  have hplace := congrArg (fun l : List (ℕ × ElementType) => l[i]?) h.layout.places
  simp only [List.getElem?_map] at hplace ⊢
  cases hi : smc'.slots[i]? with
  | none =>
    rw [hi, Option.map_none] at hplace
    rw [Option.map_eq_none_iff.mp hplace.symm]
    rfl
  | some sp =>
    obtain ⟨sq, hsq, -, hmedia⟩ := h.before hi
    rw [hi, hsq, Option.map_some, Option.map_some, Option.some_inj] at hplace
    obtain ⟨hloc, htype⟩ := Prod.mk.inj hplace
    rw [hsq, Option.map_some, Option.map_some, Smc.shown, Smc.shown, Smc.barcodeOf, Smc.barcodeOf,
      hloc, htype, hmedia, h.media_list]

section Restart

variable {pm : Personality} {lines : List Text} {stack : ElementType → ℤ}
  {movecommand : Option Text} {my_id : ℤ} {conf : List Text} {smc : Smc} {es : List LifeEvent}

/-- At the end of its life a library saves its contents, and the library that is read from that
file and the same device file has the same elements with the same bar codes. Drives are empty in
it. A cartridge that was in a drive is in a storage slot, as long as there is an empty one. -/
theorem restart_keeps_cartridges (h : pm.Sound) (hfile : WellNumbered pm lines)
    (hread : Smc.init_slot_info lines stack (Smc.blank pm movecommand) = some smc)
    (hconf : smc.NamesDrives my_id conf) {last : Smc}
    (hrun : Run SafeLifeStep (some (smc.update_drive_details my_id conf)) es (some last))
    (hlab : last.Labelled) (stack' : ElementType → ℤ) (movecommand' : Option Text) :
    ∃ saved lines' read next, last.save_config = some (saved, lines') ∧
      Smc.init_slot_info lines' stack' (Smc.blank last.pm movecommand') = some read ∧
      WellNumbered last.pm lines' ∧ read.NamesDrives my_id conf ∧
      read.update_drive_details my_id conf = next ∧
      next.slots.map next.shown = saved.slots.map saved.savedShown ∧
      (∀ barcode, saved.Has barcode ↔ last.Has barcode) ∧
      (saved.StorageFull ∨ ∀ barcode, next.Has barcode ↔ last.Has barcode) := by
  obtain ⟨_, heq, hl, hc⟩ := hrun.invariant (fun _ _ _ hst hstep => hstep.inOrder hst)
    (Smc.update_drive_details_inOrder h hfile hread hconf)
  cases Option.some.inj heq
  obtain ⟨saved, hunload, htaken, hend⟩ := Smc.unloadDrives_takenOut hc
  have hl' := htaken.layout.laidOut hl
  have hlab' := hlab.takenOut htaken
  obtain ⟨lines', hlines, hfile'⟩ := Smc.saveLines_fileOn htaken.conserved hlab'
    (fun sp hsp => hl'.slotNumber_eq hsp) (fun sp hsp => hsp) none
  obtain ⟨read, hread', hreadpm, hreadShown⟩ :=
    hfile'.read hl' htaken.conserved hlab' stack' movecommand'
  have hpm := htaken.layout.pm
  have hwell := hfile'.wellNumbered hl'
  rw [hpm] at hread' hwell
  have hhas := Smc.Has.takenOut htaken
  -- the drives are where they were, so the device file names them again
  have hstarted := PlacesKept.of_same (Smc.update_drive_details_redriven hconf).layout
  have hlived := hstarted.trans (life_placesKept (SafeLifeStep.life hrun))
  have hsavedPlaces := hlived.trans (PlacesKept.of_same htaken.layout)
  have hnamed := hconf.kept
    (hsavedPlaces.trans (Smc.placesKept_of_shown hreadpm hreadShown))
  have hshown := (Smc.update_drive_details_redriven hnamed).shown.trans hreadShown
  refine ⟨saved, lines', read, _, ?_, hread', hwell, hnamed, rfl, hshown, hhas,
    hend.imp_right fun hempty barcode => ?_⟩
  · rw [Smc.save_config, hunload, Option.bind_some, hlines]
    rfl
  have hsaved : ∀ sp ∈ saved.slots, saved.saved sp = saved.barcodeOf sp := by
    intro sp hsp
    rw [Smc.saved]
    split
    · next hdrive =>
      have hvacant := hempty sp hsp hdrive
      rw [htaken.conserved.full_iff sp hsp] at hvacant
      rw [Smc.barcodeOf, Option.isSome_eq_false_iff.mp hvacant |> Option.isNone_iff_eq_none.mp]
      rfl
    · rfl
  rw [← hhas barcode]
  generalize read.update_drive_details my_id conf = next at hshown ⊢
  have hcodes : next.slots.map next.barcodeOf = saved.slots.map saved.barcodeOf := by
    have hthird := congrArg (List.map fun a : ℕ × ElementType × Option Text => a.2.2) hshown
    rw [List.map_map, List.map_map] at hthird
    exact hthird.trans (List.map_congr_left hsaved)
  have hmem : ∀ s : Smc, s.Has barcode ↔ some barcode ∈ s.slots.map s.barcodeOf := fun s => by
    rw [List.mem_map]
    rfl
  rw [hmem, hmem, hcodes]

/-- A word with blanks behind it is a label. -/
theorem label_word {w : Text} (hall : (w.all fun c => !Text.isspace c) = true) (hne : w ≠ [])
    (n : ℕ) : Smc.Label (w ++ List.replicate n ' ') := by
  have hw : ∀ c ∈ w, Text.isspace c = false := fun c hc => by
    simpa using List.all_eq_true.mp hall c hc
  refine ⟨⟨w, n, rfl, hw⟩, ?_⟩
  cases w with
  | nil => exact absurd rfl hne
  | cons c w =>
    have hblank : c ≠ ' ' := by
      rintro rfl
      exact absurd (hw ' ' (List.mem_cons_self ..)) (by decide)
    rw [Text.truncate_spaces, List.cons_append, List.takeWhile_cons_of_pos (by simpa using hblank)]
    exact List.cons_ne_nil _ _

/-- The cartridges of the library with its port open have labels. -/
theorem openLibrary_labelled : openLibrary.Labelled := by
  have hcodes : openLibrary.media_list.map MediaInfo.barcode =
      [['A', '1'] ++ List.replicate 14 ' ', ['A', '3'] ++ List.replicate 14 ' '] := by
    decide +kernel
  apply Smc.Labelled.of_records
  · intro mp hmp
    have hmem := List.mem_map_of_mem (f := MediaInfo.barcode) hmp
    rw [hcodes] at hmem
    rcases List.mem_cons.mp hmem with heq | hmem
    · rw [heq]
      exact label_word rfl (List.cons_ne_nil _ _) 14
    · rw [List.mem_singleton.mp hmem]
      exact label_word rfl (List.cons_ne_nil _ _) 14
  · rw [hcodes]
    decide

/-- Saving the library with its port open, and reading the file. -/
theorem restart_keeps_cartridges_open :
    ∃ saved lines' read next, openLibrary.save_config = some (saved, lines') ∧
      Smc.init_slot_info lines' (fun _ => 0) (Smc.blank openLibrary.pm none) = some read ∧
      WellNumbered openLibrary.pm lines' ∧ read.NamesDrives 10 shortDevices ∧
      read.update_drive_details 10 shortDevices = next ∧
      next.slots.map next.shown = saved.slots.map saved.savedShown ∧
      (∀ barcode, saved.Has barcode ↔ openLibrary.Has barcode) ∧
      (saved.StorageFull ∨ ∀ barcode, next.Has barcode ↔ openLibrary.Has barcode) :=
  @restart_keeps_cartridges _ _ (fun _ => 0) none 10 shortDevices shortLibrary _
    defaultPersonality_sound shortContents_wellNumbered (by decide +kernel) shortDevices_named
    openLibrary openLibrary_run openLibrary_labelled (fun _ => 0) none

end Restart

end Mhvtl
