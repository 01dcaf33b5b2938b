import Mathlib.Data.List.Perm.Basic
import Mathlib.Data.List.Perm.Lattice
import Mhvtl.Smc.Conservation
import Mhvtl.Smc.ElementStatus

/-!
# The elements in a report

In a library that is laid out as its personality says, the walks of READ ELEMENT STATUS
agree: the report has exactly the elements that were asked for, up to the greatest number,
by address, page by page, and every length in it is the length of what it is about.
-/

namespace Mhvtl

open Bytes

section Rations

variable {τ α : Type}

/-- Lists under headings, of which only the first `n` entries altogether are taken. -/
def rations : ℕ → List (τ × List α) → List (τ × List α)
  | _, [] => []
  | n, g :: gs => (g.1, g.2.take n) :: rations (n - g.2.length) gs

/-- What is taken is the front of all. -/
theorem rations_flatMap (n : ℕ) (gs : List (τ × List α)) :
    (rations n gs).flatMap Prod.snd = (gs.flatMap Prod.snd).take n := by
  induction gs generalizing n with
  | nil => rw [rations, List.flatMap_nil, List.take_nil]
  | cons g gs ih => rw [rations, List.flatMap_cons, List.flatMap_cons, ih, List.take_append]

/-- The headings stay. -/
theorem rations_headings (n : ℕ) (gs : List (τ × List α)) :
    (rations n gs).map Prod.fst = gs.map Prod.fst := by
  induction gs generalizing n with
  | nil => rfl
  | cons g gs ih => rw [rations, List.map_cons, List.map_cons, ih]

/-- What is taken under a heading was there under it. -/
theorem mem_rations {n : ℕ} {gs : List (τ × List α)} {g : τ × List α} (h : g ∈ rations n gs) :
    ∃ g' ∈ gs, g'.1 = g.1 ∧ g.2 <+: g'.2 := by
  induction gs generalizing n with
  | nil => exact absurd h List.not_mem_nil
  | cons x gs ih =>
    rw [rations] at h
    rcases List.mem_cons.mp h with rfl | h
    · exact ⟨x, List.mem_cons_self .., rfl, List.take_prefix _ _⟩
    · obtain ⟨g', hg', hrest⟩ := ih h
      exact ⟨g', List.mem_cons_of_mem _ hg', hrest⟩

/-- Headings without entries do not matter. -/
theorem flatMap_filled {β : Type} (gs : List (τ × List α)) (f : τ × List α → List β)
    (hf : ∀ t, f (t, []) = []) :
    (gs.filter fun g => !g.2.isEmpty).flatMap f = gs.flatMap f := by
  induction gs with
  | nil => rfl
  | cons g gs ih =>
    obtain ⟨t, es⟩ := g
    cases es with
    | nil => rw [List.filter_cons_of_neg (by simp), List.flatMap_cons, hf, List.nil_append, ih]
    | cons e es =>
      rw [List.filter_cons_of_pos (by simp), List.flatMap_cons, List.flatMap_cons, ih]

end Rations

/-- A list of ascending numbers is no longer than the room they are in. -/
theorem length_le_of_ascending {l : List ℕ} {lo hi : ℕ} (h : l.Pairwise (· < ·))
    (hroom : ∀ a ∈ l, lo ≤ a ∧ a < hi) : l.length ≤ hi - lo := by
  induction l generalizing lo with
  | nil => exact Nat.zero_le _
  | cons a l ih =>
    obtain ⟨hfirst, htail⟩ := List.pairwise_cons.mp h
    have ha := hroom a (List.mem_cons_self ..)
    have hlen := @ih (a + 1) htail fun b hb =>
      ⟨hfirst b hb, (hroom b (List.mem_cons_of_mem _ hb)).2⟩
    rw [List.length_cons]
    omega

/-- Lists in the order of a number are the same when they have the same entries. -/
theorem eq_of_ascending {α : Type} (f : α → ℕ) {l l' : List α}
    (h : l.Pairwise fun a b => f a < f b) (h' : l'.Pairwise fun a b => f a < f b)
    (hmem : ∀ a, a ∈ l ↔ a ∈ l') : l = l' := by
  have hnodup : ∀ {k : List α}, k.Pairwise (fun a b => f a < f b) → k.Nodup := fun hk =>
    hk.imp fun hlt heq => absurd (heq ▸ hlt) (Nat.lt_irrefl _)
  have hperm : l.Perm l' := (List.perm_ext_iff_of_nodup (hnodup h) (hnodup h')).mpr hmem
  exact hperm.eq_of_pairwise (fun a b _ _ hlt hgt => absurd (hlt.trans hgt) (Nat.lt_irrefl _)) h h'

/-- Two bytes of a command block are less than 65536. -/
theorem Cdb.get_unaligned_be16_le (cdb : Cdb) (i : ℕ) : cdb.get_unaligned_be16 i ≤ 65535 := by
  have hhigh : (cdb i).toNat < 256 := (cdb i).toNat_lt
  have hlow : (cdb (i + 1)).toNat < 256 := (cdb (i + 1)).toNat_lt
  rw [Cdb.get_unaligned_be16]
  omega

namespace Library

variable (lib : Library)

/-- Elements that a command asks for. -/
def wanted (cdb : Cdb) : List Element :=
  lib.elements.filter (requested (cdbType cdb) (cdb.get_unaligned_be16 2))

/-- Elements that the report on them has. -/
def reported (cdb : Cdb) : List Element := (lib.wanted cdb).take (maxCount cdb)

/-- The page on some elements of a type. There is none on no elements. -/
def page (cdb : Cdb) (g : ElementType × List Element) : List UInt8 :=
  if g.2.isEmpty then []
  else lib.fill_element_status_page_hdr cdb g.2.length g.1 ++ g.2.flatMap (lib.descriptor cdb)

/-- The identifiers of drives are as long as is told. -/
def Sized (cdb : Cdb) : Prop :=
  lib.dvcid cdb = true → lib.dvcid_serial_only = false → lib.dvcid_len = 34

variable {lib} {cdb : Cdb}

/-- A report is on less than 65536 elements. -/
theorem maxCount_le (cdb : Cdb) : maxCount cdb ≤ 65535 := by
  rw [maxCount]
  split
  · exact Nat.le_refl _
  · exact cdb.get_unaligned_be16_le 4

section Elements

/-- The elements are those of the list. -/
theorem elements_toSlot : lib.elements.map Element.toSlot = lib.smc.slots := by
  apply List.ext_getElem
  · rw [elements, List.length_map, List.length_mapIdx]
  · intro i _ _
    simp only [elements, List.getElem_map, List.getElem_mapIdx]

/-- An element is in the list. -/
theorem toSlot_mem {e : Element} (he : e ∈ lib.elements) : e.toSlot ∈ lib.smc.slots := by
  rw [← elements_toSlot]
  exact List.mem_map_of_mem he

/-- The elements go by address. -/
theorem elements_ascending (h : lib.smc.LaidOut) :
    lib.elements.Pairwise fun e f => e.slot_location < f.slot_location := by
  have hasc := h.ascending
  rw [← elements_toSlot, List.pairwise_map] at hasc
  exact hasc

/-- Address of an element. -/
theorem element_inRange (h : lib.smc.LaidOut) {e : Element} (he : e ∈ lib.elements) :
    lib.smc.pm.start e.element_type ≤ e.slot_location ∧
      e.slot_location < lib.smc.pm.start e.element_type + lib.smc.num e.element_type :=
  h.inRange _ (toSlot_mem he)

/-- Addresses are positive and have two bytes. -/
theorem element_address (h : lib.smc.LaidOut) {e : Element} (he : e ∈ lib.elements) :
    0 < e.slot_location ∧ e.slot_location < 65536 := by
  have hrange := element_inRange h he
  have hpos := h.positive e.element_type
  have hfits := h.fits e.element_type
  omega

/-- A full element has its cartridge. -/
theorem fill_ed_some (hc : Conserved lib.smc) {e : Element} (he : e ∈ lib.elements) :
    lib.fill_ed cdb e = some (lib.descriptor cdb e) := by
  rw [fill_ed, if_neg]
  intro hnone
  simp only [Bool.and_eq_true] at hnone
  obtain ⟨⟨-, hfull⟩, hheld⟩ := hnone
  have hmem := toSlot_mem he
  rw [hc.full_iff _ hmem] at hfull
  obtain ⟨m, hm⟩ := Option.isSome_iff_exists.mp hfull
  have hlt := hc.known _ hmem m hm
  rw [heldBy, hm, Option.bind_some, List.getElem?_eq_getElem hlt] at hheld
  cases hheld

end Elements

section Lengths

/-- A blank-filled field is as long as it is to be. -/
@[simp] theorem length_blank_fill (src : List UInt8) (len : ℕ) :
    (blank_fill src len).length = len := by
  rw [blank_fill, List.length_append, List.length_take, List.length_replicate]
  omega

/-- The bar code field has one length. -/
theorem length_voltagField (e : Element) : (lib.voltagField e).length = VOLTAG_LEN := by
  rw [voltagField]
  split
  · split
    · split
      · exact length_blank_fill _ _
      · exact List.length_replicate
    · exact List.length_replicate
  · exact List.length_replicate

/-- The bar code field takes no room when it is not asked for. -/
theorem length_tag (e : Element) : (if voltag cdb then lib.voltagField e else []).length =
    if voltag cdb then VOLTAG_LEN else 0 := by
  split
  · exact length_voltagField e
  · rfl

/-- The identifier field of a drive has the length that is told. -/
theorem length_dvcidField (hs : lib.Sized cdb) (e : Element) :
    (lib.dvcidField cdb e).length =
      4 + if lib.dvcid cdb && e.element_type == .DATA_TRANSFER then lib.dvcid_len else 0 := by
  rw [dvcidField]
  split
  · next hd =>
    have hasked : lib.dvcid cdb = true := (Bool.and_eq_true _ _ ▸ hd).1
    cases hserial : lib.dvcid_serial_only with
    | true =>
      simp
      omega
    | false => simp [hs hasked hserial]
  · rfl

/-- A descriptor has the length that its page's header tells. -/
theorem length_descriptor (hs : lib.Sized cdb) (e : Element) :
    (lib.descriptor cdb e).length = lib.sizeof_element cdb e.element_type := by
  simp only [descriptor, List.length_append, beBytes_length, List.length_cons, List.length_nil,
    length_tag, length_dvcidField hs, sizeof_element]
  omega

/-- Descriptors of some elements of one type. -/
theorem length_descriptors (hs : lib.Sized cdb) {t : ElementType} {es : List Element}
    (ht : ∀ e ∈ es, e.element_type = t) :
    (es.flatMap (lib.descriptor cdb)).length = lib.sizeof_element cdb t * es.length := by
  induction es with
  | nil => rfl
  | cons e es ih =>
    rw [List.flatMap_cons, List.length_append, length_descriptor hs,
      ht e (List.mem_cons_self ..), ih fun f hf => ht f (List.mem_cons_of_mem _ hf),
      List.length_cons, Nat.mul_succ, Nat.add_comm]

/-- Length of a page's header. -/
theorem length_page_hdr (n : ℕ) (t : ElementType) :
    (lib.fill_element_status_page_hdr cdb n t).length = 8 := by
  simp [fill_element_status_page_hdr]

/-- Bounds of a descriptor's length. -/
theorem sizeof_element_bounds (cdb : Cdb) (t : ElementType) :
    16 ≤ lib.sizeof_element cdb t ∧ lib.sizeof_element cdb t ≤ 86 := by
  have hlen := lib.dvcid_len_le
  simp only [sizeof_element, VOLTAG_LEN]
  split <;> split <;> omega

/-- There is no page on no elements. -/
theorem page_nil (t : ElementType) : lib.page cdb (t, []) = [] := rfl

/-- A page is a header and descriptors. -/
theorem page_eq {t : ElementType} {es : List Element} (h : es ≠ []) :
    lib.page cdb (t, es) = lib.fill_element_status_page_hdr cdb es.length t ++
      es.flatMap (lib.descriptor cdb) :=
  if_neg (by simpa using h)

/-- A page tells how many elements it is on. -/
theorem page_elements (hs : lib.Sized cdb) {t : ElementType} {es : List Element}
    (ht : ∀ e ∈ es, e.element_type = t) :
    (lib.page cdb (t, es)).length / lib.sizeof_element cdb t = es.length := by
  have hsize := @sizeof_element_bounds lib cdb t
  cases es with
  | nil =>
    rw [page_nil]
    exact Nat.zero_div _
  | cons e es =>
    rw [page_eq (List.cons_ne_nil e es), List.length_append, length_page_hdr,
      length_descriptors hs ht, Nat.add_comm, Nat.mul_add_div (by omega)]
    rw [Nat.div_eq_of_lt (by omega), Nat.add_zero]

end Lengths

section Walks

/-- The count of what is asked for, up to a greatest number. -/
theorem num_available_elements_eq (type start max : ℕ) :
    lib.num_available_elements type start max =
      ((lib.elements.filter (requested type start)).take max).length := by
  have hfold : ∀ (l : List Element) (c : ℕ), c ≤ max →
      l.foldl (fun counted sp => if requested type start sp && decide (counted < max) then
        counted + 1 else counted) c = min max (c + (l.filter (requested type start)).length) := by
    intro l
    induction l with
    | nil => intro c hc; rw [List.foldl_nil, List.filter_nil, List.length_nil, Nat.add_zero,
        Nat.min_eq_right hc]
    | cons sp l ih =>
      intro c hc
      rw [List.foldl_cons]
      by_cases hreq : requested type start sp = true
      · rw [List.filter_cons_of_pos hreq, List.length_cons]
        by_cases hlt : c < max
        · rw [if_pos (by simp [hreq, hlt]), ih (c + 1) hlt]
          omega
        · rw [if_neg (by simp [hlt]), ih c hc]
          omega
      · rw [List.filter_cons_of_neg hreq, if_neg (by simp [hreq]), ih c hc]
  rw [num_available_elements, hfold _ 0 (Nat.zero_le _), List.length_take, Nat.zero_add]

/-- The descriptors are those of the first elements that are asked for. -/
theorem fillDescriptors_eq {start max_count : ℕ} {type : ElementType} {l : List Element}
    (hfill : ∀ e ∈ l, lib.fill_ed cdb e = some (lib.descriptor cdb e)) {j : ℕ}
    (hj : j ≤ max_count) :
    lib.fillDescriptors cdb start type max_count j l =
      some (((l.filter (requested type.code start)).take (max_count + 1 - j)).flatMap
        (lib.descriptor cdb)) := by
  induction l generalizing j with
  | nil => rw [fillDescriptors, List.filter_nil, List.take_nil, List.flatMap_nil]
  | cons sp l ih =>
    have hrest := fun {k} => @ih (fun e he => hfill e (List.mem_cons_of_mem _ he)) k
    have hcode : type.code ≠ 0 := by cases type <;> decide
    rw [fillDescriptors]
    split
    · next hlow =>
      rw [List.filter_cons_of_neg (by simp [requested, hlow]), hrest hj]
    · next hhigh =>
      split
      · next htype =>
        have hne : sp.element_type.code ≠ type.code := fun h => htype (ElementType.code_inj h)
        rw [List.filter_cons_of_neg (by simp [requested, hcode, hne]), hrest hj]
      · next htype =>
        have htype := not_not.mp htype
        rw [List.filter_cons_of_pos (by simp [requested, htype, not_lt.mp hhigh]),
          hfill sp (List.mem_cons_self ..), Nat.succ_sub hj, List.take_succ_cons,
          List.flatMap_cons, Option.bind_eq_bind, Option.bind_some]
        split
        · next hlast =>
          have hzero : max_count - j = 0 := by omega
          rw [hzero, List.take_zero, List.flatMap_nil, List.append_nil]
        · next hmore =>
          rw [hrest (by omega), Option.bind_some, Nat.add_sub_add_right]

/-- An element that is asked for is found, and with addresses of two positive bytes none
is found only when there is none. -/
theorem find_first_eq_zero_iff (h : lib.smc.LaidOut) (start type : ℕ) :
    lib.find_first_matching_element start type % 65536 = 0 ↔
      lib.elements.filter (requested type start) = [] := by
  rw [find_first_matching_element]
  cases hfind : lib.elements.find? (requested type start) with
  | none =>
    exact iff_of_true rfl (List.filter_eq_nil_iff.mpr (List.find?_eq_none.mp hfind))
  | some e =>
    have haddr := element_address h (List.mem_of_find?_eq_some hfind)
    have hmem : e ∈ lib.elements.filter (requested type start) :=
      List.mem_filter.mpr ⟨List.mem_of_find?_eq_some hfind, List.find?_some hfind⟩
    simp only [Option.map_some, Option.getD_some, Nat.mod_eq_of_lt haddr.2]
    exact iff_of_false (Nat.pos_iff_ne_zero.mp haddr.1) (List.ne_nil_of_mem hmem)

/-- A page is on the elements of its type that there is still room for. -/
theorem fill_element_page_eq (h : lib.smc.LaidOut) (hc : Conserved lib.smc) (start : ℕ)
    (t : ElementType) (residual : ℕ) :
    lib.fill_element_page cdb start t residual =
      some (lib.page cdb (t, (lib.elements.filter (requested t.code start)).take
        (maxCount cdb - residual))) := by
  rw [fill_element_page]
  split
  · next hfull =>
    rw [Nat.sub_eq_zero_of_le hfull, List.take_zero]
    rfl
  · next hroom =>
    split
    · next hzero =>
      rw [(find_first_eq_zero_iff h start t.code).mp hzero, List.take_nil]
      rfl
    · next hsome =>
      have hne := mt (find_first_eq_zero_iff h start t.code).mpr hsome
      have hfront : (lib.elements.filter (requested t.code start)).take
          (maxCount cdb - residual) ≠ [] := by
        rw [ne_eq, List.take_eq_nil_iff]
        rintro (hzero | hnil)
        · omega
        · exact hne hnil
      have hfill : ∀ e ∈ lib.elements, lib.fill_ed cdb e = some (lib.descriptor cdb e) :=
        fun e he => fill_ed_some hc he
      rw [fillDescriptors_eq hfill (by omega), Nat.add_sub_cancel, Option.map_some,
        num_available_elements_eq, page_eq hfront]

/-- Elements of the types from one that is up next: of the first type those from an
address on, of each later type all. -/
def sections (lib : Library) : List TypeSlot → ℕ → List (ElementType × List Element)
  | [], _ => []
  | x :: types, start_any =>
    (x.type, lib.elements.filter (requested x.type.code start_any)) ::
      sections lib types (nextStart types start_any)

/-- Elements under a heading are of its type. -/
theorem sections_type {types : List TypeSlot} {start_any : ℕ} {g : ElementType × List Element}
    (hg : g ∈ sections lib types start_any) : ∀ e ∈ g.2, e.element_type = g.1 := by
  induction types generalizing start_any with
  | nil => exact absurd hg List.not_mem_nil
  | cons x types ih =>
    rw [sections] at hg
    rcases List.mem_cons.mp hg with rfl | hg
    · intro e he
      have hreq := (List.mem_filter.mp he).2
      have hcode : x.type.code ≠ 0 := by cases x.type <;> decide
      simp only [requested, Bool.and_eq_true, Bool.or_eq_true, beq_iff_eq, hcode, false_or] at hreq
      exact ElementType.code_inj hreq.1
    · exact ih hg

/-- The headings are the types. -/
theorem sections_headings (types : List TypeSlot) (start_any : ℕ) :
    (sections lib types start_any).map Prod.fst = types.map TypeSlot.type := by
  induction types generalizing start_any with
  | nil => rfl
  | cons x types ih => rw [sections, List.map_cons, List.map_cons, ih]

/-- The loop over the types makes a page of each with what there is still room for. -/
theorem fill_element_pages_eq (h : lib.smc.LaidOut) (hc : Conserved lib.smc) (hs : lib.Sized cdb)
    {types : List TypeSlot} {start_any sum : ℕ} (hsum : sum ≤ maxCount cdb) :
    lib.fill_element_pages cdb types start_any sum =
      some ((rations (maxCount cdb - sum) (sections lib types start_any)).flatMap
        (lib.page cdb)) := by
  induction types generalizing start_any sum with
  | nil => rfl
  | cons x types ih =>
    have htype : ∀ e ∈ lib.elements.filter (requested x.type.code start_any),
        e.element_type = x.type :=
      @sections_type lib (x :: types) start_any _ (List.mem_cons_self ..)
    have hmax := maxCount_le cdb
    have hcount : ((lib.elements.filter (requested x.type.code start_any)).take
        (maxCount cdb - sum)).length ≤ maxCount cdb - sum := List.length_take_le _ _
    rw [fill_element_pages, fill_element_page_eq h hc, Option.bind_eq_bind, Option.bind_some,
      page_elements hs fun e he => htype e (List.mem_of_mem_take he), Nat.mod_eq_of_lt (by omega),
      ih (by omega), Option.bind_some, sections, rations, List.flatMap_cons]
    congr 4
    rw [List.length_take]
    dsimp only
    omega

end Walks

section Selection

/-- What is asked for goes by address. -/
theorem wanted_ascending (h : lib.smc.LaidOut) :
    (lib.wanted cdb).Pairwise fun e f => e.slot_location < f.slot_location :=
  (elements_ascending h).sublist List.filter_sublist

/-- The first element that is asked for is not below the address asked for, and none of
the others is below it. -/
theorem wanted_first (h : lib.smc.LaidOut) {e : Element} {rest : List Element}
    (hw : lib.wanted cdb = e :: rest) :
    e ∈ lib.elements ∧ cdb.get_unaligned_be16 2 ≤ e.slot_location ∧
      ∀ f ∈ lib.wanted cdb, e.slot_location ≤ f.slot_location := by
  have hmem : e ∈ lib.wanted cdb := hw ▸ List.mem_cons_self ..
  have hreq := (List.mem_filter.mp hmem).2
  simp only [requested, Bool.and_eq_true, decide_eq_true_eq] at hreq
  refine ⟨List.mem_of_mem_filter hmem, hreq.2, fun f hf => ?_⟩
  have hasc := @wanted_ascending lib cdb h
  rw [hw] at hf hasc
  rcases List.mem_cons.mp hf with rfl | hf
  · exact Nat.le_refl _
  · exact ((List.pairwise_cons.mp hasc).1 f hf).le

/-- Asking again from the first element that is asked for on changes nothing. -/
theorem wanted_from_first (h : lib.smc.LaidOut) {e : Element} {rest : List Element}
    (hw : lib.wanted cdb = e :: rest) :
    lib.elements.filter (requested (cdbType cdb) e.slot_location) = lib.wanted cdb := by
  obtain ⟨-, hlow, hfirst⟩ := wanted_first h hw
  apply List.filter_congr
  intro f hf
  rw [Bool.eq_iff_iff]
  constructor
  · intro hreq
    simp only [requested, Bool.and_eq_true, decide_eq_true_eq] at hreq ⊢
    exact ⟨hreq.1, hlow.trans hreq.2⟩
  · intro hreq
    have hle := hfirst f (List.mem_filter.mpr ⟨hf, hreq⟩)
    simp only [requested, Bool.and_eq_true, decide_eq_true_eq] at hreq ⊢
    exact ⟨hreq.1, hle⟩

/-- Types with the start addresses they have in the personality. -/
def OwnStarts (lib : Library) (types : List TypeSlot) : Prop :=
  ∀ x ∈ types, x.start = lib.smc.pm.start x.type

/-- With the types' own start addresses, what comes behind the first type is all elements of
the other types. -/
theorem mem_sections_next (h : lib.smc.LaidOut) {types : List TypeSlot} (ho : OwnStarts lib types)
    (start_any : ℕ) (f : Element) :
    f ∈ (sections lib types (nextStart types start_any)).flatMap Prod.snd ↔
      f ∈ lib.elements ∧ ∃ x ∈ types, f.element_type = x.type := by
  induction types generalizing start_any with
  | nil => simp [sections]
  | cons x types ih =>
    have hx := ho x (List.mem_cons_self ..)
    have hfits := h.fits x.type
    have hcode : x.type.code ≠ 0 := by cases x.type <;> decide
    rw [sections, List.flatMap_cons, List.mem_append, ih fun y hy => ho y (List.mem_cons_of_mem _ hy),
      nextStart, List.mem_filter]
    constructor
    · rintro (⟨hf, hreq⟩ | ⟨hf, y, hy, hytype⟩)
      · simp only [requested, Bool.and_eq_true, Bool.or_eq_true, beq_iff_eq, hcode, false_or] at hreq
        exact ⟨hf, x, List.mem_cons_self .., ElementType.code_inj hreq.1⟩
      · exact ⟨hf, y, List.mem_cons_of_mem _ hy, hytype⟩
    · rintro ⟨hf, y, hy, hytype⟩
      rcases List.mem_cons.mp hy with rfl | hy
      · left
        refine ⟨hf, ?_⟩
        have hrange := (element_inRange h hf).1
        rw [hytype, ← hx] at hrange
        have hmod := Nat.mod_le y.start 65536
        simp only [requested, hytype, beq_self_eq_true, Bool.or_true, Bool.true_and,
          decide_eq_true_eq]
        exact hmod.trans hrange
      · exact Or.inr ⟨hf, y, hy, hytype⟩

/-- The sections go by address. -/
theorem sections_ascending (h : lib.smc.LaidOut) {types : List TypeSlot}
    (ho : OwnStarts lib types) (hasc : types.Pairwise fun x y => x.start < y.start)
    (start_any : ℕ) :
    ((sections lib types start_any).flatMap Prod.snd).Pairwise
      fun e f => e.slot_location < f.slot_location := by
  induction types generalizing start_any with
  | nil => exact List.Pairwise.nil
  | cons x types ih =>
    have hotail : OwnStarts lib types := fun y hy => ho y (List.mem_cons_of_mem _ hy)
    obtain ⟨hfirst, htail⟩ := List.pairwise_cons.mp hasc
    rw [sections, List.flatMap_cons]
    refine List.pairwise_append.mpr ⟨(elements_ascending h).sublist List.filter_sublist,
      ih hotail htail _, fun e he f hf => ?_⟩
    obtain ⟨hfmem, y, hy, hytype⟩ := (mem_sections_next h hotail start_any f).mp hf
    have hetype := @sections_type lib (x :: types) start_any _ (List.mem_cons_self ..) e he
    have herange := (element_inRange h (List.mem_of_mem_filter he)).2
    have hfrange := (element_inRange h hfmem).1
    have hlt := hfirst y hy
    rw [ho x (List.mem_cons_self ..), ho y (List.mem_cons_of_mem _ hy)] at hlt
    have hapart := h.apart _ _ hlt
    dsimp only at hetype
    rw [hetype] at herange
    rw [hytype] at hfrange
    omega

/-- With all types asked for, an element that is not below the address is asked for. -/
theorem mem_wanted_any (hany : cdbType cdb = 0) {f : Element} (hf : f ∈ lib.elements)
    (hle : cdb.get_unaligned_be16 2 ≤ f.slot_location) : f ∈ lib.wanted cdb :=
  List.mem_filter.mpr ⟨hf, by simp [requested, hany, hle]⟩

/-- The types from that of the first element that is asked for on, with all types asked for. -/
theorem sections_wanted (h : lib.smc.LaidOut) (hany : cdbType cdb = 0) {e : Element}
    {rest : List Element} (hw : lib.wanted cdb = e :: rest) :
    ∃ x types, (sort_library_slot_type lib.smc.pm).dropWhile
        (fun x => some x.type != lib.smc.slot_type e.slot_location) = x :: types ∧
      OwnStarts lib (x :: types) ∧
      (x :: types).Pairwise (fun x y => x.start < y.start) ∧
      (sections lib (x :: types) e.slot_location).flatMap Prod.snd = lib.wanted cdb := by
  obtain ⟨he, hlow, hfirst⟩ := wanted_first h hw
  have herange := element_inRange h he
  rw [h.slot_type_eq herange.1 herange.2]
  have hsplit := List.takeWhile_append_dropWhile (p := fun x : TypeSlot =>
    some x.type != some e.element_type) (l := sort_library_slot_type lib.smc.pm)
  cases hdrop : (sort_library_slot_type lib.smc.pm).dropWhile
      (fun x => some x.type != some e.element_type) with
  | nil =>
    have hall := List.dropWhile_eq_nil_iff.mp hdrop _
      (mem_sort_library_slot_type h.starts e.element_type)
    simp at hall
  | cons x types =>
    have hx : x.type = e.element_type := by
      have hnot := List.head_dropWhile_not (fun x : TypeSlot => some x.type != some e.element_type)
        (hdrop ▸ List.cons_ne_nil x types)
      simpa [hdrop] using hnot
    rw [hdrop] at hsplit
    have hown : OwnStarts lib (sort_library_slot_type lib.smc.pm) :=
      fun y hy => sort_library_slot_type_start h.starts hy
    have hasc := sort_library_slot_type_ascending h.starts
    rw [← hsplit] at hown hasc
    obtain ⟨-, hback, hcross⟩ := List.pairwise_append.mp hasc
    have hownback : OwnStarts lib (x :: types) := fun y hy => hown y (List.mem_append_right _ hy)
    refine ⟨x, types, rfl, hownback, hback, ?_⟩
    apply eq_of_ascending (fun e : Element => e.slot_location)
      (sections_ascending h hownback hback _) (wanted_ascending h)
    intro f
    have hotail : OwnStarts lib types := fun y hy => hownback y (List.mem_cons_of_mem _ hy)
    have hxstart : x.start = lib.smc.pm.start e.element_type := by
      rw [hownback x (List.mem_cons_self ..), hx]
    rw [sections, List.flatMap_cons, List.mem_append, mem_sections_next h hotail, List.mem_filter]
    constructor
    · rintro (⟨hf, hreq⟩ | ⟨hf, y, hy, hytype⟩)
      · simp only [requested, Bool.and_eq_true, decide_eq_true_eq] at hreq
        exact mem_wanted_any hany hf (hlow.trans hreq.2)
      · -- a later type lies behind the type of the first element
        have hlt := (List.pairwise_cons.mp hback).1 y hy
        rw [hxstart, hotail y hy, ← hytype] at hlt
        have hapart := h.apart _ _ hlt
        have hfrange := (element_inRange h hf).1
        exact mem_wanted_any hany hf (by omega)
    · intro hf
      have hle := hfirst f hf
      have hfmem := List.mem_of_mem_filter hf
      have hentry := mem_sort_library_slot_type h.starts f.element_type
      rw [← hsplit] at hentry
      rcases List.mem_append.mp hentry with hfront | hentry
      · -- an earlier type ends in front of the first element
        have hlt := hcross _ hfront x (List.mem_cons_self ..)
        rw [hxstart] at hlt
        have hapart := h.apart _ _ hlt
        have hfrange := (element_inRange h hfmem).2
        omega
      · rcases List.mem_cons.mp hentry with hfx | hentry
        · left
          refine ⟨hfmem, ?_⟩
          have htype : f.element_type = x.type := congrArg TypeSlot.type hfx
          simp [requested, htype, hle]
        · exact Or.inr ⟨hfmem, _, hentry, rfl⟩

end Selection

/-- Elements in pages: each page is on elements of one type, none is empty, and the types go
by address. -/
structure Paged (lib : Library) (es : List Element) (pages : List (ElementType × List Element)) :
    Prop where
  /-- The elements one page after the other. -/
  all : pages.flatMap Prod.snd = es
  /-- A page is on elements of one type. -/
  type : ∀ g ∈ pages, ∀ e ∈ g.2, e.element_type = g.1
  /-- A page is on some elements. -/
  filled : ∀ g ∈ pages, g.2 ≠ []
  /-- The types go by address. -/
  order : pages.Pairwise fun g k => lib.smc.pm.start g.1 < lib.smc.pm.start k.1

/-- Number of elements in the header of a report. It is none when all are asked for. -/
def countField (lib : Library) (cdb : Cdb) : ℕ :=
  if cdb.get_unaligned_be16 4 = 0 then 0 else (lib.reported cdb).length

/-- The bytes of a report that starts at an address. -/
def reportBytes (lib : Library) (cdb : Cdb) (start : ℕ)
    (pages : List (ElementType × List Element)) : List UInt8 :=
  fill_element_status_data_hdr start (lib.countField cdb) (pages.flatMap (lib.page cdb)).length ++
    pages.flatMap (lib.page cdb)

section Reports

/-- The types are the four there are. -/
theorem typeOf_some {n : ℕ} {t : ElementType} (h : typeOf n = some t) : t.code = n := by
  rw [typeOf.eq_def] at h
  split at h <;> cases h <;> rfl

/-- A number that is no type's. -/
theorem typeOf_none {n : ℕ} (h : typeOf n = none) (t : ElementType) : t.code ≠ n := by
  rintro rfl
  cases t <;> cases h

/-- The number of elements in the header. -/
theorem count_eq (h : lib.smc.LaidOut) {e : Element} {rest : List Element}
    (hw : lib.wanted cdb = e :: rest) :
    lib.num_available_elements (cdbType cdb) e.slot_location (cdb.get_unaligned_be16 4) =
      lib.countField cdb := by
  rw [num_available_elements_eq, wanted_from_first h hw, countField, reported, maxCount]
  split
  · next hzero =>
    rw [hzero, List.take_zero]
    rfl
  · rfl

/-- The data buffer after a command that asks for some element. -/
theorem element_status_data_eq (h : lib.smc.LaidOut) (hc : Conserved lib.smc)
    (hs : lib.Sized cdb) (hport : cdb 11 = 0) (stack : SenseField) {e : Element}
    {rest : List Element} (hw : lib.wanted cdb = e :: rest) :
    ∃ pages, lib.Paged (lib.reported cdb) pages ∧
      lib.element_status_data cdb stack =
        some (.inr (lib.reportBytes cdb e.slot_location pages)) := by
  obtain ⟨he, -, -⟩ := wanted_first h hw
  have haddr := element_address h he
  have hstart : lib.find_first_matching_element (cdb.get_unaligned_be16 2) (cdbType cdb) % 65536 =
      e.slot_location := by
    rw [find_first_matching_element, ← List.head?_filter]
    rw [wanted] at hw
    rw [hw]
    exact Nat.mod_eq_of_lt haddr.2
  have hreq : requested (cdbType cdb) (cdb.get_unaligned_be16 2) e = true :=
    (List.mem_filter.mp (hw ▸ List.mem_cons_self .. : e ∈ lib.wanted cdb)).2
  have hdata : ∀ {pages : List (ElementType × List Element)},
      lib.element_status_pages cdb e.slot_location = some (.inr (pages.flatMap (lib.page cdb))) →
      lib.element_status_data cdb stack =
        some (.inr (lib.reportBytes cdb e.slot_location pages)) := by
    intro pages hpages
    rw [element_status_data, if_neg (not_not.mpr hport), hstart]
    dsimp only
    rw [if_neg (Nat.pos_iff_ne_zero.mp haddr.1), hpages, count_eq h hw]
    rfl
  have hmax : 0 < maxCount cdb := by
    rw [maxCount]
    split <;> omega
  cases htype : typeOf (cdbType cdb) with
  | some t =>
    have hcode := typeOf_some htype
    have hne : lib.reported cdb ≠ [] := by
      rw [reported, hw, ne_eq, List.take_eq_nil_iff]
      rintro (hzero | hnil)
      · omega
      · cases hnil
    refine ⟨[(t, lib.reported cdb)], ⟨List.flatMap_singleton .., ?_, ?_, List.pairwise_singleton _ _⟩,
      hdata ?_⟩
    · intro g hg f hf
      rw [List.mem_singleton.mp hg] at hf ⊢
      have hfreq := (List.mem_filter.mp (List.mem_of_mem_take hf)).2
      have hzero : t.code ≠ 0 := by cases t <;> decide
      simp only [requested, ← hcode, Bool.and_eq_true, Bool.or_eq_true, beq_iff_eq, hzero,
        false_or] at hfreq
      exact ElementType.code_inj hfreq.1
    · intro g hg
      rw [List.mem_singleton.mp hg]
      exact hne
    · rw [element_status_pages, htype]
      dsimp only
      rw [fill_element_page_eq h hc, hcode, wanted_from_first h hw, Nat.sub_zero,
        List.flatMap_singleton]
      rfl
  | none =>
    have hany : cdbType cdb = 0 := by
      simp only [requested, Bool.and_eq_true, Bool.or_eq_true, beq_iff_eq] at hreq
      exact hreq.1.resolve_right (typeOf_none htype _)
    obtain ⟨x, types, hdrop, hown, hasc, hall⟩ := sections_wanted h hany hw
    have hfilled : ∀ g ∈ (rations (maxCount cdb) (sections lib (x :: types) e.slot_location)).filter
        (fun g => !g.2.isEmpty), g.2 ≠ [] := by
      intro g hg
      simpa using (List.mem_filter.mp hg).2
    refine ⟨(rations (maxCount cdb) (sections lib (x :: types) e.slot_location)).filter
      (fun g => !g.2.isEmpty), ⟨?_, ?_, hfilled, ?_⟩, hdata ?_⟩
    · rw [flatMap_filled _ _ fun _ => rfl, rations_flatMap, hall, reported]
    · intro g hg f hf
      obtain ⟨g', hg', hhead, hfront⟩ := mem_rations (List.mem_of_mem_filter hg)
      rw [← hhead]
      exact sections_type hg' f (hfront.subset hf)
    · apply List.Pairwise.sublist List.filter_sublist
      have hheads : ((rations (maxCount cdb) (sections lib (x :: types) e.slot_location)).map
          Prod.fst).Pairwise fun t u => lib.smc.pm.start t < lib.smc.pm.start u := by
        rw [rations_headings, sections_headings, List.pairwise_map]
        exact hasc.imp_of_mem fun ha hb hlt => by rwa [hown _ ha, hown _ hb] at hlt
      rw [List.pairwise_map] at hheads
      exact hheads
    · rw [element_status_pages, htype]
      dsimp only
      rw [if_pos hany, hdrop, if_neg (List.cons_ne_nil x types),
        fill_element_pages_eq h hc hs (Nat.zero_le _), Nat.sub_zero,
        flatMap_filled _ _ page_nil]
      rfl

/-- A command that asks for no element there is. -/
theorem element_status_data_none (h : lib.smc.LaidOut) (hport : cdb 11 = 0) (stack : SenseField)
    (hw : lib.wanted cdb = []) : lib.element_status_data cdb stack = some (.inl stack) := by
  rw [element_status_data, if_neg (not_not.mpr hport)]
  exact if_pos ((find_first_eq_zero_iff h _ _).mpr hw)

end Reports

end Library

end Mhvtl
