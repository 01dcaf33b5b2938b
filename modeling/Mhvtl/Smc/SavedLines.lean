import Mhvtl.Smc.Configured
import Mhvtl.Smc.ElementReport
import Mhvtl.Smc.Shutdown

/-!
# The file a library saves

The lines that a library saves at its end are a contents file as it is to be. Reading them
gives back, type by type, the numbers and the bar codes of the elements.
-/

namespace Mhvtl

open Scanf

/-- A list of ascending numbers that fills the room they are in has them all. -/
theorem eq_range'_of_ascending {l : List ℕ} {a : ℕ} (h : l.Pairwise (· < ·))
    (hroom : ∀ x ∈ l, a ≤ x ∧ x < a + l.length) : l = List.range' a l.length := by
  induction l generalizing a with
  | nil => rfl
  | cons x l ih =>
    obtain ⟨hfirst, htail⟩ := List.pairwise_cons.mp h
    have hx := hroom x (List.mem_cons_self ..)
    rw [List.length_cons] at hroom hx
    have hlen := @length_le_of_ascending l (x + 1) (a + (l.length + 1)) htail fun y hy =>
      ⟨hfirst y hy, (hroom y (List.mem_cons_of_mem _ hy)).2⟩
    have heq : x = a := by omega
    subst heq
    rw [List.length_cons, List.range'_succ, ← @ih (x + 1) htail fun y hy => ?_]
    have hy' := hroom y (List.mem_cons_of_mem _ hy)
    exact ⟨hfirst y hy, by omega⟩

section Lines

variable {t u : ElementType} {n : ℕ} {tail : Text}

/-- A number is printed by its digits. -/
theorem decimal_natCast (n : ℕ) : Smc.decimal (n : ℤ) = (Nat.repr n).toList := rfl

/-- A line on another type. -/
theorem scanEntry_other (h : t ≠ u) (rest : Text) :
    scanEntry (keyword t) (keyword u ++ rest) = ⟨0, none, []⟩ := by
  cases t <;> cases u <;> first | exact absurd rfl h | rfl

/-- An empty line. -/
theorem scanEntry_newline (t : ElementType) : scanEntry (keyword t) ['\n'] = ⟨0, none, []⟩ := by
  cases t <;> rfl

/-- The number behind its blank. -/
theorem number_decimal (n : ℕ) (tail : Text) :
    number (skipSpace (' ' :: (Smc.decimal n ++ ':' :: tail))) = .ok (n : ℤ) (':' :: tail) := by
  rw [skipSpace_blank Text.isspace_blank, number_skipSpace, decimal_natCast]
  apply number_repr
  intro c hc
  rw [List.head?_cons, Option.some.injEq] at hc
  rw [← hc]
  rfl

/-- A line without a text. -/
theorem scanEntry_empty (t : ElementType) (n : ℕ) (htail : ∀ c ∈ tail, Text.isspace c = true) :
    scanEntry (keyword t) (keyword t ++ ' ' :: (Smc.decimal n ++ ':' :: tail)) =
      ⟨1, some (n : ℤ), []⟩ := by
  rw [scanEntry, literal_append]
  dsimp only
  rw [number_decimal]
  dsimp only
  rw [show literal [':'] (':' :: tail) = .ok () tail from rfl]
  dsimp only
  rw [word_skipSpace, word_blank htail]

/-- A line with a text, and blanks behind it. -/
theorem scanEntry_text (t : ElementType) (n : ℕ) {w : Text}
    (hw : ∀ c ∈ w, Text.isspace c = false) (hne : w ≠ [])
    (htail : ∀ c ∈ tail, Text.isspace c = true) :
    scanEntry (keyword t) (keyword t ++ ' ' :: (Smc.decimal n ++ ':' :: ' ' :: (w ++ tail))) =
      ⟨2, some (n : ℤ), w⟩ := by
  rw [scanEntry, literal_append]
  dsimp only
  rw [number_decimal]
  dsimp only
  rw [show literal [':'] (':' :: ' ' :: (w ++ tail)) = .ok () (' ' :: (w ++ tail)) from rfl]
  dsimp only
  rw [skipSpace_blank Text.isspace_blank, word_skipSpace, word_append hw hne htail]

end Lines

namespace Smc

variable {smc : Smc}

/-- Bar codes that can be saved: a word, with blanks behind it. -/
def Label (barcode : Text) : Prop := barcode.Plain ∧ barcode.truncate_spaces ≠ []

/-- The cartridges in the elements can be told from one another by their bar codes, and
the bar codes can be saved. -/
structure Labelled (smc : Smc) : Prop where
  /-- They can be saved. -/
  label : ∀ m mp, smc.Holds m → smc.media_list[m]? = some mp → Label mp.barcode
  /-- They are different. -/
  different : ∀ m n mp np, smc.Holds m → smc.Holds n → smc.media_list[m]? = some mp →
    smc.media_list[n]? = some np → mp.barcode = np.barcode → m = n

/-- The bar code that is saved of an element. -/
def saved (smc : Smc) (sp : Slot) : Option Text :=
  if sp.element_type = .DATA_TRANSFER then none else smc.barcodeOf sp

/-- The text that is read of an element. -/
def savedText (smc : Smc) (sp : Slot) : Text := ((smc.saved sp).map Text.truncate_spaces).getD []

/-- A line on an element: any other type passes it over, and its own type reads the number
and the text of the element. -/
structure LineOn (smc : Smc) (sp : Slot) (line : Text) : Prop where
  /-- It is not empty. -/
  filled : readline line = line
  /-- It is no comment. -/
  entry : line.head? ≠ some '#'
  /-- Other types pass it over. -/
  other : ∀ t, t ≠ sp.element_type → scanEntry (keyword t) line = ⟨0, none, []⟩
  /-- It is read. -/
  own : ∃ result : ℤ, 0 < result ∧ scanEntry (keyword sp.element_type) line =
    ⟨result, some (smc.slotNumber sp), smc.savedText sp⟩

/-- The beginning of a line is not empty and no comment. -/
theorem lineFront_head (smc : Smc) (sp : Slot) (tail : Text) :
    readline (smc.lineFront sp ++ tail) = smc.lineFront sp ++ tail ∧
      (smc.lineFront sp ++ tail).head? ≠ some '#' := by
  rw [lineFront, readline]
  cases sp.element_type <;> exact ⟨rfl, by simp [keyword]⟩

/-- The beginning of a line in front of the rest. -/
theorem lineFront_append {sp : Slot} {n : ℕ} (hn : smc.slotNumber sp = (n : ℤ)) (tail : Text) :
    smc.lineFront sp ++ tail =
      keyword sp.element_type ++ ' ' :: (decimal (n : ℤ) ++ ':' :: tail) := by
  rw [lineFront, hn, List.append_assoc, List.cons_append, List.append_assoc, List.singleton_append]

/-- A bar code that is saved is its word and blanks. -/
theorem Label.eq {barcode : Text} (h : Label barcode) : ∃ n, barcode =
    barcode.truncate_spaces ++ List.replicate n ' ' := h.1.eq_truncate

/-- The line on an element. -/
theorem saveLine_some (hc : Conserved smc) (hlab : smc.Labelled) {sp : Slot} (hsp : sp ∈ smc.slots)
    {n : ℕ} (hn : smc.slotNumber sp = (n : ℤ)) :
    ∃ line, smc.saveLine sp = some line ∧ LineOn smc sp line := by
  have hother : ∀ tail t, t ≠ sp.element_type →
      scanEntry (keyword t) (smc.lineFront sp ++ tail) = ⟨0, none, []⟩ := by
    intro tail t ht
    rw [lineFront_append hn]
    exact scanEntry_other ht _
  have hline : ∀ tail : Text, (∃ result : ℤ, 0 < result ∧
      scanEntry (keyword sp.element_type) (smc.lineFront sp ++ tail) =
        ⟨result, some (smc.slotNumber sp), smc.savedText sp⟩) →
      LineOn smc sp (smc.lineFront sp ++ tail) := fun tail hown =>
    ⟨(lineFront_head smc sp tail).1, (lineFront_head smc sp tail).2, hother tail, hown⟩
  have hblank : ∀ tail : Text, (∀ c ∈ tail, Text.isspace c = true) → smc.saved sp = none →
      LineOn smc sp (smc.lineFront sp ++ tail) := by
    intro tail htail hnone
    refine hline tail ⟨1, by decide, ?_⟩
    rw [lineFront_append hn, scanEntry_empty _ _ htail, savedText, hnone, hn]
    rfl
  rw [saveLine]
  by_cases hdrive : sp.element_type = .DATA_TRANSFER
  · rw [if_pos hdrive]
    refine ⟨_, rfl, ?_⟩
    have hnil := hblank [] (fun c hc => absurd hc List.not_mem_nil) (if_pos hdrive)
    rwa [List.append_nil] at hnil
  rw [if_neg hdrive]
  have hfull := hc.full_iff sp hsp
  cases hmedia : sp.media with
  | none =>
    rw [hmedia] at hfull
    rw [hfull, Option.isSome_none, if_neg Bool.false_ne_true]
    refine ⟨_, rfl, hblank [' '] ?_ ?_⟩
    · intro c hc
      rw [List.mem_singleton.mp hc]
      exact Text.isspace_blank
    · rw [saved, if_neg hdrive, barcodeOf, hmedia]
      rfl
  | some m =>
    have hlt := hc.known sp hsp m hmedia
    have hget := List.getElem?_eq_getElem hlt
    have hbar : smc.barcodeOf sp = some smc.media_list[m].barcode := by
      rw [barcodeOf, hmedia, Option.bind_some, hget]
      rfl
    have hlabel := hlab.label m _ ⟨sp, hsp, hmedia⟩ hget
    obtain ⟨k, hk⟩ := hlabel.eq
    rw [hmedia] at hfull
    rw [hfull, Option.isSome_some, if_pos rfl, hbar]
    refine ⟨_, rfl, hline _ ⟨2, by decide, ?_⟩⟩
    have htext : smc.savedText sp = smc.media_list[m].barcode.truncate_spaces := by
      rw [savedText, saved, if_neg hdrive, hbar]
      rfl
    have hread := scanEntry_text sp.element_type n hlabel.1.isspace_truncate hlabel.2
      (fun c (hc : c ∈ List.replicate k ' ') => by
        rw [List.eq_of_mem_replicate hc]
        exact Text.isspace_blank)
    rw [← hk] at hread
    rw [lineFront_append hn, hread, hn, htext]

/-- Lines on elements, with empty lines between them. -/
inductive FileOn (smc : Smc) : List Slot → List Text → Prop where
  /-- No element. -/
  | nil : FileOn smc [] []
  /-- A line on an element. -/
  | line {sp : Slot} {slots : List Slot} {l : Text} {lines : List Text} (h : LineOn smc sp l)
      (rest : FileOn smc slots lines) : FileOn smc (sp :: slots) (l :: lines)
  /-- An empty line. -/
  | gap {slots : List Slot} {lines : List Text} (rest : FileOn smc slots lines) :
      FileOn smc slots ([] :: lines)

/-- The lines that are saved. -/
theorem saveLines_fileOn (hc : Conserved smc) (hlab : smc.Labelled)
    (hnum : ∀ sp ∈ smc.slots, ∃ n : ℕ, smc.slotNumber sp = (n : ℤ)) {slots : List Slot}
    (hsub : ∀ sp ∈ slots, sp ∈ smc.slots) (last : Option ElementType) :
    ∃ lines, smc.saveLines last slots = some lines ∧ FileOn smc slots lines := by
  induction slots generalizing last with
  | nil => exact ⟨[], rfl, .nil⟩
  | cons sp slots ih =>
    have hsp := hsub sp (List.mem_cons_self ..)
    obtain ⟨n, hn⟩ := hnum sp hsp
    obtain ⟨l, hl, hline⟩ := saveLine_some hc hlab hsp hn
    obtain ⟨lines, hlines, hfile⟩ := ih (fun sq hsq => hsub sq (List.mem_cons_of_mem _ hsq))
      (some sp.element_type)
    rw [saveLines, hl, Option.bind_some, hlines, Option.map_some]
    refine ⟨_, rfl, ?_⟩
    split
    · exact .line hline hfile
    · exact .gap (.line hline hfile)

/-- Elements of a type. -/
def ofType (slots : List Slot) (t : ElementType) : List Slot :=
  slots.filter fun sp => sp.element_type == t

/-- Reading the lines makes the elements of the type, if their numbers leave none out. -/
theorem FileOn.entries {slots : List Slot} {lines : List Text} (h : FileOn smc slots lines)
    (t : ElementType) {k : ℕ} (hcons : fillsHoles t = true →
      (ofType slots t).map smc.slotNumber =
        (List.range' k (ofType slots t).length).map Int.ofNat) (slt : ℤ) :
    entries t lines k slt = (ofType slots t).map fun sp => (smc.slotNumber sp, smc.savedText sp) := by
  induction h generalizing k slt with
  | nil => rfl
  | gap rest ih =>
    rw [Mhvtl.entries]
    have hhead : (readline []).head? ≠ some '#' := by decide
    have hscan : scanEntry (keyword t) (readline []) = ⟨0, none, []⟩ := scanEntry_newline t
    rw [if_neg hhead, hscan, if_pos rfl]
    exact ih hcons slt
  | @line sp slots l lines hline rest ih =>
    rw [Mhvtl.entries, hline.filled, if_neg hline.entry]
    by_cases ht : t = sp.element_type
    · subst ht
      obtain ⟨result, hpos, hscan⟩ := hline.own
      have hfront : ofType (sp :: slots) sp.element_type = sp :: ofType slots sp.element_type :=
        List.filter_cons_of_pos (beq_self_eq_true _)
      rw [hfront] at hcons ⊢
      rw [hscan, if_neg (show result ≠ 0 by omega)]
      dsimp only
      rw [Option.getD_some, List.map_cons]
      cases hfill : fillsHoles sp.element_type with
      | false =>
        rw [if_neg Bool.false_ne_true, ih (fun hholes => absurd (hfill.symm.trans hholes) (by decide))]
      | true =>
        have hnumbers := hcons hfill
        rw [List.map_cons, List.length_cons, List.range'_succ, List.map_cons] at hnumbers
        obtain ⟨hfirst, hothers⟩ := List.cons.inj hnumbers
        have hfirst : smc.slotNumber sp = (k : ℤ) := hfirst
        rw [if_pos rfl, hfirst, sub_self, Int.toNat_zero, List.range_zero, List.map_nil,
          List.nil_append, ← Nat.cast_succ, ih fun _ => hothers]
    · have hfront : ofType (sp :: slots) t = ofType slots t :=
        List.filter_cons_of_neg (by simpa using Ne.symm ht)
      rw [hfront] at hcons ⊢
      rw [hline.other t ht, if_pos rfl]
      exact ih hcons slt

/-- The numbers on the lines on a type. -/
theorem FileOn.numbers {slots : List Slot} {lines : List Text} (h : FileOn smc slots lines)
    (t : ElementType) : numbers t lines = (ofType slots t).map smc.slotNumber := by
  induction h with
  | nil => rfl
  | gap rest ih =>
    have hhead : (readline []).head? ≠ some '#' := by decide
    have hscan : scanEntry (keyword t) (readline []) = ⟨0, none, []⟩ := scanEntry_newline t
    rw [Mhvtl.numbers, List.filterMap_cons, lineNumber, if_neg hhead, hscan]
    exact ih
  | @line sp slots l lines hline rest ih =>
    rw [Mhvtl.numbers, List.filterMap_cons, lineNumber, hline.filled, if_neg hline.entry]
    by_cases ht : t = sp.element_type
    · subst ht
      obtain ⟨result, -, hscan⟩ := hline.own
      have hfront : ofType (sp :: slots) sp.element_type = sp :: ofType slots sp.element_type :=
        List.filter_cons_of_pos (beq_self_eq_true _)
      rw [hscan, hfront, List.map_cons, ← ih]
      rfl
    · have hfront : ofType (sp :: slots) t = ofType slots t :=
        List.filter_cons_of_neg (by simpa using Ne.symm ht)
      rw [hline.other t ht, hfront]
      exact ih

/-- No line ends in front of its number. -/
theorem FileOn.whole {slots : List Slot} {lines : List Text} (h : FileOn smc slots lines)
    (t : ElementType) : ∀ line ∈ lines, (scanEntry (keyword t) (readline line)).result ≠ -1 := by
  induction h with
  | nil => exact fun line hline => absurd hline List.not_mem_nil
  | gap rest ih =>
    intro line hmem
    rcases List.mem_cons.mp hmem with rfl | hmem
    · have hscan : scanEntry (keyword t) (readline []) = ⟨0, none, []⟩ := scanEntry_newline t
      rw [hscan]
      decide
    · exact ih line hmem
  | @line sp slots l lines hline rest ih =>
    intro line hmem
    rcases List.mem_cons.mp hmem with rfl | hmem
    · rw [hline.filled]
      by_cases ht : t = sp.element_type
      · obtain ⟨result, hpos, hscan⟩ := hline.own
        rw [ht, hscan]
        dsimp only
        omega
      · rw [hline.other t ht]
        decide
    · exact ih line hmem

/-- Addresses of the elements of a type leave none out. -/
theorem LaidOut.locations (h : smc.LaidOut) (t : ElementType) :
    (ofType smc.slots t).map Slot.slot_location = List.range' (smc.pm.start t) (smc.num t) := by
  have hlen : ((ofType smc.slots t).map Slot.slot_location).length = smc.num t := by
    rw [List.length_map, ofType, ← List.countP_eq_length_filter, h.counted]
  have hasc : ((ofType smc.slots t).map Slot.slot_location).Pairwise (· < ·) :=
    List.pairwise_map.mpr (h.ascending.sublist List.filter_sublist)
  rw [← hlen]
  apply eq_range'_of_ascending hasc
  intro a ha
  obtain ⟨sp, hsp, rfl⟩ := List.mem_map.mp ha
  obtain ⟨hmem, htype⟩ := List.mem_filter.mp hsp
  have hrange := h.inRange sp hmem
  rw [eq_of_beq htype] at hrange
  rwa [hlen]

/-- Numbers of the elements of a type leave none out. -/
theorem LaidOut.slotNumbers (h : smc.LaidOut) (t : ElementType) :
    (ofType smc.slots t).map smc.slotNumber =
      (List.range' 1 (ofType smc.slots t).length).map Int.ofNat := by
  have hlen : (ofType smc.slots t).length = smc.num t := by
    rw [ofType, ← List.countP_eq_length_filter, h.counted]
  have hnumber : (ofType smc.slots t).map smc.slotNumber =
      ((ofType smc.slots t).map Slot.slot_location).map
        fun a : ℕ => (a : ℤ) - smc.pm.start t + 1 := by
    rw [List.map_map]
    apply List.map_congr_left
    intro sp hsp
    have htype := eq_of_beq (List.mem_filter.mp hsp).2
    rw [slotNumber, htype]
    rfl
  rw [hnumber, h.locations, hlen, List.range'_eq_map_range, List.range'_eq_map_range, List.map_map,
    List.map_map]
  apply List.map_congr_left
  intro i _
  simp only [Function.comp_apply, Int.ofNat_eq_natCast]
  push_cast
  ring

/-- The number of an element counts from one. -/
theorem LaidOut.slotNumber_eq (h : smc.LaidOut) {sp : Slot} (hsp : sp ∈ smc.slots) :
    ∃ n : ℕ, smc.slotNumber sp = (n : ℤ) := by
  have hrange := (h.inRange sp hsp).1
  refine ⟨sp.slot_location - smc.pm.start sp.element_type + 1, ?_⟩
  rw [slotNumber]
  push_cast [hrange]
  rfl

/-- What is saved is a contents file as it is to be. -/
theorem FileOn.wellNumbered (h : smc.LaidOut) {lines : List Text}
    (hfile : FileOn smc smc.slots lines) : WellNumbered smc.pm lines := by
  have hnumbers : ∀ t, Mhvtl.numbers t lines =
      (List.range' 1 (Mhvtl.numbers t lines).length).map Int.ofNat := by
    intro t
    rw [hfile.numbers, List.length_map, h.slotNumbers]
  have hlen : ∀ t, (Mhvtl.numbers t lines).length = smc.num t := by
    intro t
    rw [hfile.numbers, List.length_map, ofType, ← List.countP_eq_length_filter, h.counted]
  have hmem : ∀ t, ∀ n ∈ Mhvtl.numbers t lines, ∃ i : ℕ, n = (i : ℤ) ∧ 1 ≤ i ∧ i ≤ smc.num t := by
    intro t n hn
    rw [hnumbers, hlen] at hn
    obtain ⟨i, hi, rfl⟩ := List.mem_map.mp hn
    rw [List.mem_range'_1] at hi
    exact ⟨i, rfl, hi.1, by omega⟩
  constructor
  · intro t line hline _
    exact hfile.whole t line hline
  · intro t _
    constructor
    · rw [hnumbers, List.pairwise_map]
      exact (List.pairwise_lt_range' 1).imp fun hlt => by simpa using hlt
    · intro n hn
      obtain ⟨i, rfl, hpos, -⟩ := hmem t n hn
      omega
  · exact fun t _ => hnumbers t
  · intro t n hn
    obtain ⟨i, rfl, -, hle⟩ := hmem t n hn
    have hfits := h.fits t
    omega

end Smc

end Mhvtl
