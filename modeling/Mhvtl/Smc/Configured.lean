import Mathlib.Tactic.Ring
import Mhvtl.Smc.Configuration
import Mhvtl.Smc.Conservation
import Mhvtl.Smc.Inventories

/-!
# A library that was read

A contents file that numbers its elements from one gives a library in order: it is laid
out as its personality says, and its full elements and its cartridges belong together.
-/

namespace Mhvtl

open Scanf

section Cartridges

variable {smc smc' : Smc}

/-- A new record is the last one. -/
theorem add_barcode_eq {barcode : Text} {r : Smc × ℕ} (h : smc.add_barcode barcode = some r) :
    ∃ m, r = ({ smc with media_list := smc.media_list ++ [m] }, smc.media_list.length) := by
  simp only [Smc.add_barcode] at h
  split at h
  · cases h
  split at h
  · cases h
  cases h
  exact ⟨_, rfl⟩

/-- One more element, with a cartridge of its own or without one. -/
theorem Conserved.append (hc : Conserved smc) {sp : Slot} {records : List MediaInfo}
    (hslots : smc'.slots = smc.slots ++ [sp]) (hrecords : smc'.media_list = smc.media_list ++ records)
    (hfull : sp.slotOccupied = sp.media.isSome)
    (hnew : ∀ m, sp.media = some m → m = smc.media_list.length ∧ records ≠ []) :
    Conserved smc' := by
  have hlen : smc.media_list.length ≤ smc'.media_list.length := by
    rw [hrecords, List.length_append]
    exact Nat.le_add_right _ _
  have hold : ∀ (i : ℕ) (sq : Slot) (m : ℕ), smc'.slots[i]? = some sq → sq.media = some m →
      smc.slots[i]? = some sq ∧ m < smc.media_list.length ∨
        i = smc.slots.length ∧ m = smc.media_list.length := by
    intro i sq m hi hm
    rw [hslots] at hi
    by_cases hlt : i < smc.slots.length
    · rw [List.getElem?_append_left hlt] at hi
      exact Or.inl ⟨hi, hc.known sq (List.mem_of_getElem? hi) m hm⟩
    · rw [List.getElem?_append_right (by omega)] at hi
      have hzero : i - smc.slots.length = 0 := by
        by_contra hpos
        rw [List.getElem?_eq_none (by rw [List.length_singleton]; omega)] at hi
        cases hi
      rw [hzero] at hi
      cases hi
      exact Or.inr ⟨by omega, (hnew m hm).1⟩
  constructor
  · intro sq hsq
    rw [hslots] at hsq
    rcases List.mem_append.mp hsq with hsq | hsq
    · exact hc.full_iff sq hsq
    · rw [List.mem_singleton.mp hsq]
      exact hfull
  · intro sq hsq m hm
    rw [hslots] at hsq
    rcases List.mem_append.mp hsq with hsq | hsq
    · exact (hc.known sq hsq m hm).trans_le hlen
    · rw [List.mem_singleton.mp hsq] at hm
      obtain ⟨hm, hne⟩ := hnew m hm
      have hpos := List.length_pos_iff.mpr hne
      rw [hm, hrecords, List.length_append]
      omega
  · intro i j si sj m hi hj hmi hmj
    rcases hold i si m hi hmi with ⟨hi, hlt⟩ | ⟨hi, heq⟩
    · rcases hold j sj m hj hmj with ⟨hj, -⟩ | ⟨-, heq⟩
      · exact hc.alone i j si sj m hi hj hmi hmj
      · omega
    · rcases hold j sj m hj hmj with ⟨-, hlt⟩ | ⟨hj, -⟩
      · omega
      · omega

end Cartridges

namespace Smc

variable {smc smc' : Smc} {t : ElementType} {k : ℕ} {s : Text}

/-- Counting an element counts it under its type. -/
theorem num_count (smc : Smc) (t u : ElementType) :
    (smc.count t).num u = smc.num u + if u = t then 1 else 0 := by
  cases t <;> cases u <;> rfl

@[simp] theorem count_pm (smc : Smc) (t : ElementType) : (smc.count t).pm = smc.pm := by
  cases t <;> rfl

@[simp] theorem count_slots (smc : Smc) (t : ElementType) : (smc.count t).slots = smc.slots := by
  cases t <;> rfl

@[simp] theorem count_media_list (smc : Smc) (t : ElementType) :
    (smc.count t).media_list = smc.media_list := by
  cases t <;> rfl

/-- An element has no room exactly when another type starts in front of its address. -/
theorem check_overflow_iff (smc : Smc) (slot : ℤ) (t : ElementType) :
    smc.check_overflow slot t = true ↔
      ∃ u, smc.pm.start t < smc.pm.start u ∧ (smc.pm.start u : ℤ) < slot + smc.pm.start t := by
  simp only [check_overflow, List.any_eq_true, Bool.and_eq_true, decide_eq_true_eq]
  constructor
  · rintro ⟨u, -, h⟩
    exact ⟨u, h⟩
  · rintro ⟨u, h⟩
    refine ⟨u, ?_, h⟩
    cases u <;> decide

/-- Elements are read up to the number `k` of a type, the last type so far. Those that had
no room were left out. -/
structure ReadUpTo (smc : Smc) (t : ElementType) (k : ℕ) : Prop where
  /-- The elements are laid out. -/
  laid : smc.LaidOut
  /-- Full elements and cartridges belong together. -/
  conserved : Conserved smc
  /-- No element of a later type is there. -/
  last : ∀ sp ∈ smc.slots, smc.pm.start sp.element_type ≤ smc.pm.start t
  /-- Nothing is counted of a later type. -/
  later : ∀ u, smc.pm.start t < smc.pm.start u → smc.num u = 0
  /-- All elements are there, or the next one had no room. -/
  upto : smc.num t = k ∨ smc.num t < k ∧ smc.check_overflow (smc.num t + 1 : ℕ) t = true

/-- Without room for the next element nothing changes. -/
theorem ReadUpTo.overflow (h : smc.ReadUpTo t k)
    (hfull : smc.check_overflow (k + 1 : ℕ) t = true) : smc.ReadUpTo t (k + 1) := by
  refine ⟨h.laid, h.conserved, h.last, h.later, Or.inr ?_⟩
  rcases h.upto with heq | ⟨hlt, hover⟩
  · rw [heq]
    exact ⟨Nat.lt_succ_self k, hfull⟩
  · exact ⟨hlt.trans (Nat.lt_succ_self k), hover⟩

/-- With room for the next element all before it are there. -/
theorem ReadUpTo.all (h : smc.ReadUpTo t k) (hroom : smc.check_overflow (k + 1 : ℕ) t = false) :
    smc.num t = k := by
  rcases h.upto with heq | ⟨hlt, hover⟩
  · exact heq
  · obtain ⟨u, hstart, hend⟩ := (smc.check_overflow_iff _ t).mp hover
    have hfull : smc.check_overflow (k + 1 : ℕ) t = true :=
      (smc.check_overflow_iff _ t).mpr ⟨u, hstart, by push_cast at hend ⊢; omega⟩
    rw [hfull] at hroom
    cases hroom

/-- Address of an element with room for it. -/
theorem location_eq (smc : Smc) (t : ElementType) (hfits : smc.pm.start t + (k + 1) ≤ 65536) :
    smc.location (k + 1 : ℕ) t = smc.pm.start t + k := by
  rw [location, Int.emod_eq_of_lt (by push_cast; omega) (by push_cast; omega)]
  push_cast
  omega

/-- The next element, where there is room for it. -/
theorem ReadUpTo.append (h : smc.ReadUpTo t k) (hroom : smc.check_overflow (k + 1 : ℕ) t = false)
    (hfits : smc.pm.start t + (k + 1) ≤ 65536) {sp : Slot} {records : List MediaInfo}
    (hpm : smc'.pm = smc.pm) (hslots : smc'.slots = smc.slots ++ [sp])
    (hrecords : smc'.media_list = smc.media_list ++ records)
    (hnum : ∀ u, smc'.num u = smc.num u + if u = t then 1 else 0)
    (htype : sp.element_type = t) (hloc : sp.slot_location = smc.location (k + 1 : ℕ) t)
    (hfull : sp.slotOccupied = sp.media.isSome)
    (hnew : ∀ m, sp.media = some m → m = smc.media_list.length ∧ records ≠ []) :
    smc'.ReadUpTo t (k + 1) := by
  have hall := h.all hroom
  rw [location_eq smc t hfits] at hloc
  refine ⟨h.laid.append hpm hslots (htype ▸ hnum) ?_ (htype ▸ h.last) ?_ ?_,
    h.conserved.append hslots hrecords hfull hnew, ?_, ?_, Or.inl ?_⟩
  · rw [htype, hall]
    exact hloc
  · rw [htype, hloc]
    intro u hlt
    by_contra hover
    have hfull : smc.check_overflow (k + 1 : ℕ) t = true :=
      (smc.check_overflow_iff _ t).mpr ⟨u, hlt, by push_cast; omega⟩
    rw [hfull] at hroom
    cases hroom
  · rw [hloc]
    omega
  · intro sq hsq
    rw [hslots] at hsq
    rw [hpm]
    rcases List.mem_append.mp hsq with hsq | hsq
    · exact h.last sq hsq
    · rw [List.mem_singleton.mp hsq, htype]
  · intro u hlt
    rw [hpm] at hlt
    have hne : u ≠ t := by
      rintro rfl
      exact absurd hlt (Nat.lt_irrefl _)
    rw [hnum, if_neg hne, h.later u hlt]
  · rw [hnum, if_pos rfl, hall]

/-- A drive with the next number is a new one. -/
theorem ReadUpTo.lookup_drive (h : smc.ReadUpTo .DATA_TRANSFER k)
    (hroom : smc.check_overflow (k + 1 : ℕ) .DATA_TRANSFER = false)
    (hfits : smc.pm.start .DATA_TRANSFER + (k + 1) ≤ 65536) :
    smc.lookup_drive (k + 1 : ℕ) = none := by
  rw [Smc.lookup_drive, List.findIdx?_eq_none_iff]
  intro sp hsp
  have hall := h.all hroom
  have hrange := (h.laid.inRange sp hsp).2
  rw [location_eq smc _ hfits]
  by_cases htype : sp.element_type = .DATA_TRANSFER
  · rw [htype, hall] at hrange
    have hne : sp.slot_location ≠ smc.pm.start .DATA_TRANSFER + k := by omega
    simp [htype, hne]
  · simp [htype]

/-- The full bit is set. -/
theorem full_or (b : BitVec 8) : ((b ||| STATUS_Full) &&& STATUS_Full != 0) = true := by
  have hbits : ∀ b : BitVec 8, ((b ||| STATUS_Full) &&& STATUS_Full != 0) = true := by
    decide +kernel
  exact hbits b

/-- Making the next element that is no drive. -/
theorem ReadUpTo.init_slot (h : smc.ReadUpTo t k) (hfits : smc.pm.start t + (k + 1) ≤ 65536)
    (ht : t ≠ .DATA_TRANSFER) {status : BitVec 8} (hempty : (status &&& STATUS_Full != 0) = false)
    (hrun : Smc.init_slot t ht status smc (k + 1 : ℕ) s = some smc') :
    smc'.ReadUpTo t (k + 1) ∧ smc'.pm = smc.pm := by
  rw [Smc.init_slot] at hrun
  split at hrun
  · next hover =>
    cases hrun
    exact ⟨h.overflow hover, rfl⟩
  next hroom =>
  have hroom := Bool.not_eq_true _ ▸ hroom
  split at hrun
  · cases hrun
    refine ⟨h.append hroom hfits (count_pm _ t) (count_slots _ t)
      ((count_media_list _ t).trans (List.append_nil _).symm) (num_count _ t) rfl rfl hempty ?_,
      count_pm _ t⟩
    intro m hm
    cases hm
  · obtain ⟨r, hadd, rfl⟩ := Option.map_eq_some_iff.mp hrun
    obtain ⟨m, rfl⟩ := add_barcode_eq hadd
    refine ⟨h.append hroom hfits (count_pm _ t) (count_slots _ t) (count_media_list _ t)
      (fun u => (num_count _ t u).trans (by cases u <;> rfl)) rfl rfl (full_or status) ?_,
      count_pm _ t⟩
    intro n hn
    exact ⟨(Option.some.inj hn).symm, List.cons_ne_nil m []⟩

/-- A new drive has no cartridge. -/
theorem newDrive_empty (smc : Smc) (slt : ℤ) : (smc.newDrive slt).slotOccupied = false :=
  show (STATUS_Access &&& STATUS_Full != 0) = false by decide

/-- Making the next drive. -/
theorem ReadUpTo.init_drive_slot (h : smc.ReadUpTo .DATA_TRANSFER k)
    (hfits : smc.pm.start .DATA_TRANSFER + (k + 1) ≤ 65536) :
    (smc.init_drive_slot (k + 1 : ℕ)).ReadUpTo .DATA_TRANSFER (k + 1) ∧
      (smc.init_drive_slot (k + 1 : ℕ)).pm = smc.pm := by
  rw [Smc.init_drive_slot]
  split
  · next hover => exact ⟨h.overflow hover, rfl⟩
  next hroom =>
  have hroom := Bool.not_eq_true _ ▸ hroom
  rw [h.lookup_drive hroom hfits]
  refine ⟨h.append hroom hfits (count_pm _ _) (count_slots _ _)
    ((count_media_list _ _).trans (List.append_nil _).symm) (num_count _ _) rfl rfl
    (newDrive_empty smc _) ?_,
    count_pm _ _⟩
  intro m hm
  cases hm

/-- Making the next element. -/
theorem ReadUpTo.init_element (h : smc.ReadUpTo t k) (hfits : smc.pm.start t + (k + 1) ≤ 65536)
    (hrun : smc.init_element t (k + 1 : ℕ) s = some smc') :
    smc'.ReadUpTo t (k + 1) ∧ smc'.pm = smc.pm := by
  cases t with
  | DATA_TRANSFER =>
    cases hrun
    exact h.init_drive_slot hfits
  | MAP_ELEMENT => exact h.init_slot hfits (by decide) (by decide) hrun
  | MEDIUM_TRANSPORT => exact h.init_slot hfits (by decide) (by decide) hrun
  | STORAGE_ELEMENT => exact h.init_slot hfits (by decide) (by decide) hrun

/-- Making elements one after the other. -/
def init_elements (type : ElementType) (smc : Smc) (cs : List (ℤ × Text)) : Option Smc :=
  cs.foldlM (fun smc c => smc.init_element type c.1 c.2) smc

/-- Making the next elements. -/
theorem ReadUpTo.init_elements {cs : List (ℤ × Text)} (h : smc.ReadUpTo t k)
    (hnumbers : cs.map Prod.fst = (List.range' (k + 1) cs.length).map Int.ofNat)
    (hfits : smc.pm.start t + (k + cs.length) ≤ 65536)
    (hrun : Smc.init_elements t smc cs = some smc') :
    smc'.ReadUpTo t (k + cs.length) ∧ smc'.pm = smc.pm := by
  induction cs generalizing smc k with
  | nil =>
    cases hrun
    exact ⟨h, rfl⟩
  | cons c cs ih =>
    rw [List.length_cons] at hfits hnumbers ⊢
    rw [List.map_cons, List.range'_succ, List.map_cons] at hnumbers
    obtain ⟨hfirst, hrest⟩ := List.cons.inj hnumbers
    rw [Smc.init_elements, List.foldlM_cons] at hrun
    obtain ⟨smc₁, hone, htail⟩ := Option.bind_eq_some_iff.mp hrun
    have hfirst : c.1 = ((k + 1 : ℕ) : ℤ) := hfirst
    rw [hfirst] at hone
    obtain ⟨h₁, hpm⟩ := h.init_element (by omega) hone
    obtain ⟨h₂, hpm'⟩ := ih h₁ hrest (by rw [hpm]; omega) htail
    refine ⟨?_, hpm'.trans hpm⟩
    rw [show k + (cs.length + 1) = k + 1 + cs.length from by omega]
    exact h₂

end Smc

/-- The elements that the lines on a type make, with their texts. -/
def entries (type : ElementType) : List Text → ℤ → ℤ → List (ℤ × Text)
  | [], _, _ => []
  | line :: lines, start_slot, slt =>
    if (readline line).head? = some '#' then entries type lines start_slot slt
    else if (scanEntry (keyword type) (readline line)).result = 0 then
      entries type lines start_slot slt
    else
      let scan := scanEntry (keyword type) (readline line)
      let slt := scan.slt.getD slt
      if fillsHoles type then
        (List.range (slt - start_slot).toNat).map (fun (i : ℕ) => (start_slot + i, ([] : Text))) ++
          (slt, scan.s) :: entries type lines (slt + 1) slt
      else (slt, scan.s) :: entries type lines start_slot slt

namespace Smc

/-- Empty elements are made one after the other. -/
theorem init_holes_eq (type : ElementType) (n : ℕ) (z : ℤ) (smc : Smc) :
    init_holes type n z smc =
      init_elements type smc ((List.range n).map fun (i : ℕ) => (z + i, ([] : Text))) := by
  induction n generalizing z smc with
  | zero => rfl
  | succ n ih =>
    rw [init_holes, List.range_succ_eq_map, List.map_cons, List.map_map, init_elements,
      List.foldlM_cons]
    simp only [Nat.cast_zero, add_zero, Option.bind_eq_bind]
    congr 1
    funext smc₁
    rw [ih, init_elements]
    congr 1
    apply List.map_congr_left
    intro i _
    simp only [Function.comp_apply, Prod.mk.injEq, and_true]
    push_cast
    omega

/-- Lines are read by making their elements one after the other. -/
theorem readLines_eq (type : ElementType) (lines : List Text) (start_slot slt : ℤ) (smc : Smc) :
    readLines type lines start_slot slt smc =
      init_elements type smc (entries type lines start_slot slt) := by
  induction lines generalizing start_slot slt smc with
  | nil => rfl
  | cons line lines ih =>
    rw [readLines, entries]
    split
    · exact ih ..
    dsimp only
    split
    · exact ih ..
    split
    · rw [init_elements, List.foldlM_append, init_holes_eq, init_elements, Option.bind_assoc,
        Option.bind_eq_bind]
      congr 1
      funext smc₁
      rw [List.foldlM_cons, Option.bind_eq_bind]
      congr 1
      funext smc₂
      exact ih ..
    · rw [init_elements, List.foldlM_cons, Option.bind_eq_bind]
      congr 1
      funext smc₁
      exact ih ..

end Smc

/-- Start addresses as they are to be: different, not zero, and of two bytes. -/
structure Personality.Sound (pm : Personality) : Prop where
  /-- Types start at different addresses. -/
  starts : pm.starts.Nodup
  /-- Address zero is not in use. -/
  positive : ∀ t, 0 < pm.start t
  /-- Addresses have two bytes. -/
  fits : ∀ t, pm.start t ≤ 65536

section Numbers

variable {type : ElementType} {lines : List Text}

/-- The number on a line on a type, comments having none. -/
def lineNumber (type : ElementType) (line : Text) : Option ℤ :=
  if (readline line).head? = some '#' then none
  else (scanEntry (keyword type) (readline line)).slt

/-- The numbers on the lines on a type. -/
def numbers (type : ElementType) (lines : List Text) : List ℤ := lines.filterMap (lineNumber type)

/-- A contents file as it is to be: no line ends in front of its number; the numbers of drives
and of storage slots ascend from one on, those of the other elements leave none out; and no
address is too high. -/
structure WellNumbered (pm : Personality) (lines : List Text) : Prop where
  /-- No line ends in front of its number. -/
  whole : ∀ t, ∀ line ∈ lines, (readline line).head? ≠ some '#' →
    (scanEntry (keyword t) (readline line)).result ≠ -1
  /-- Drives and storage slots may be left out. -/
  ascending : ∀ t, fillsHoles t = true →
    (numbers t lines).Pairwise (· < ·) ∧ ∀ n ∈ numbers t lines, 1 ≤ n
  /-- No other elements may be left out. -/
  consecutive : ∀ t, fillsHoles t = false →
    numbers t lines = (List.range' 1 (numbers t lines).length).map Int.ofNat
  /-- Addresses have two bytes. -/
  fits : ∀ t, ∀ n ∈ numbers t lines, (pm.start t : ℤ) + n ≤ 65536

/-- What a scan says of the number. -/
theorem scanEntry_slt (w b : Text) :
    (scanEntry w b).result = 0 ∧ (scanEntry w b).slt = none ∨
      (scanEntry w b).result = -1 ∧ (scanEntry w b).slt = none ∨
      (scanEntry w b).result ≠ 0 ∧ (scanEntry w b).result ≠ -1 ∧
        ∃ n, (scanEntry w b).slt = some n := by
  have hone : (1 : ℤ) ≠ 0 ∧ (1 : ℤ) ≠ -1 := by decide
  have htwo : (2 : ℤ) ≠ 0 ∧ (2 : ℤ) ≠ -1 := by decide
  rw [scanEntry]
  split
  · exact Or.inr (Or.inl ⟨rfl, rfl⟩)
  · exact Or.inl ⟨rfl, rfl⟩
  split
  · exact Or.inr (Or.inl ⟨rfl, rfl⟩)
  · exact Or.inl ⟨rfl, rfl⟩
  split
  · exact Or.inr (Or.inr ⟨hone.1, hone.2, _, rfl⟩)
  · exact Or.inr (Or.inr ⟨hone.1, hone.2, _, rfl⟩)
  split
  · exact Or.inr (Or.inr ⟨hone.1, hone.2, _, rfl⟩)
  · exact Or.inr (Or.inr ⟨hone.1, hone.2, _, rfl⟩)
  · exact Or.inr (Or.inr ⟨htwo.1, htwo.2, _, rfl⟩)

/-- A line makes no element, or it has a number. -/
theorem entries_cons {line : Text} (start_slot slt : ℤ)
    (hwhole : (readline line).head? ≠ some '#' →
      (scanEntry (keyword type) (readline line)).result ≠ -1) :
    lineNumber type line = none ∧
        entries type (line :: lines) start_slot slt = entries type lines start_slot slt ∨
      ∃ n s, lineNumber type line = some n ∧
        entries type (line :: lines) start_slot slt =
          if fillsHoles type then
            (List.range (n - start_slot).toNat).map
                (fun (i : ℕ) => (start_slot + i, ([] : Text))) ++
              (n, s) :: entries type lines (n + 1) n
          else (n, s) :: entries type lines start_slot n := by
  rw [lineNumber, entries]
  split
  · exact Or.inl ⟨rfl, rfl⟩
  next hcomment =>
  rcases scanEntry_slt (keyword type) (readline line) with ⟨hres, hslt⟩ | ⟨hres, -⟩ |
    ⟨hzero, -, n, hslt⟩
  · rw [if_pos hres]
    exact Or.inl ⟨hslt, rfl⟩
  · exact absurd hres (hwhole hcomment)
  · rw [if_neg hzero]
    dsimp only
    rw [hslt]
    exact Or.inr ⟨n, _, rfl, rfl⟩

/-- With the elements that are left out filled in, the numbers leave none out. -/
theorem entries_filled (hfill : fillsHoles type = true)
    (hwhole : ∀ line ∈ lines, (readline line).head? ≠ some '#' →
      (scanEntry (keyword type) (readline line)).result ≠ -1)
    (hasc : (numbers type lines).Pairwise (· < ·)) {k : ℕ} (hlow : ∀ n ∈ numbers type lines, (k : ℤ) < n)
    {hi : ℕ} (hk : k ≤ hi) (hhigh : ∀ n ∈ numbers type lines, n ≤ hi) (slt : ℤ) :
    (entries type lines (k + 1 : ℕ) slt).map Prod.fst =
        (List.range' (k + 1) (entries type lines (k + 1 : ℕ) slt).length).map Int.ofNat ∧
      k + (entries type lines (k + 1 : ℕ) slt).length ≤ hi := by
  induction lines generalizing k slt with
  | nil => exact ⟨rfl, hk⟩
  | cons line lines ih =>
    have hrest := fun l hl => hwhole l (List.mem_cons_of_mem _ hl)
    rcases @entries_cons type lines line (k + 1 : ℕ) slt (hwhole line (List.mem_cons_self ..)) with
      ⟨hnone, heq⟩ | ⟨n, s, hsome, heq⟩
    · rw [numbers, List.filterMap_cons_none hnone] at hasc hlow hhigh
      rw [heq]
      exact ih hrest hasc hlow hk hhigh slt
    · rw [numbers, List.filterMap_cons_some hsome] at hasc hlow hhigh
      have hn := hlow n (List.mem_cons_self ..)
      have hnhi := hhigh n (List.mem_cons_self ..)
      obtain ⟨m, rfl⟩ : ∃ m : ℕ, n = (m + 1 : ℕ) := ⟨(n - 1).toNat, by omega⟩
      obtain ⟨hnumbers, hlen⟩ := @ih hrest (List.pairwise_cons.mp hasc).2 (m + 1)
        (fun a ha => (List.pairwise_cons.mp hasc).1 a ha) (by omega)
        (fun a ha => hhigh a (List.mem_cons_of_mem _ ha)) (m + 1 : ℕ)
      have hcount : (((m + 1 : ℕ) : ℤ) - (k + 1 : ℕ)).toNat = m - k := by omega
      have hsuffix : k + 1 + (m - k) = m + 1 := by omega
      have hnext : ((m + 1 : ℕ) : ℤ) + 1 = ((m + 1 + 1 : ℕ) : ℤ) := by
        push_cast
        ring
      rw [heq, if_pos hfill, hcount, List.length_append, List.length_map, List.length_range,
        List.length_cons, ← List.range'_append_1, hsuffix, List.range'_succ, List.map_append,
        List.map_append, List.map_cons, List.map_cons, List.map_map, hnext, hnumbers]
      refine ⟨?_, by omega⟩
      congr 1
      rw [List.range'_eq_map_range, List.map_map]
      apply List.map_congr_left
      intro i _
      simp only [Function.comp_apply]
      push_cast
      rfl

/-- Without filling in, the numbers are those on the lines. -/
theorem entries_plain (hfill : fillsHoles type = false)
    (hwhole : ∀ line ∈ lines, (readline line).head? ≠ some '#' →
      (scanEntry (keyword type) (readline line)).result ≠ -1) (start_slot slt : ℤ) :
    (entries type lines start_slot slt).map Prod.fst = numbers type lines := by
  induction lines generalizing slt with
  | nil => rfl
  | cons line lines ih =>
    have hrest := fun l hl => hwhole l (List.mem_cons_of_mem _ hl)
    rcases @entries_cons type lines line start_slot slt (hwhole line (List.mem_cons_self ..)) with
      ⟨hnone, heq⟩ | ⟨n, s, hsome, heq⟩
    · rw [heq, ih hrest, numbers, numbers, List.filterMap_cons_none hnone]
    · rw [heq, hfill, if_neg Bool.false_ne_true, List.map_cons, ih hrest, numbers, numbers,
        List.filterMap_cons_some hsome]

/-- The elements made of a type are numbered from one on. -/
theorem WellNumbered.entries {pm : Personality} (h : WellNumbered pm lines)
    (hpm : pm.start type ≤ 65536) (slt : ℤ) :
    (Mhvtl.entries type lines 1 slt).map Prod.fst =
        (List.range' 1 (Mhvtl.entries type lines 1 slt).length).map Int.ofNat ∧
      pm.start type + (Mhvtl.entries type lines 1 slt).length ≤ 65536 := by
  have hwhole := h.whole type
  have hfits := h.fits type
  cases hfill : fillsHoles type with
  | true =>
    obtain ⟨hasc, hlow⟩ := h.ascending type hfill
    obtain ⟨hnumbers, hlen⟩ := @entries_filled type lines hfill hwhole hasc 0
      (fun n hn => by have := hlow n hn; omega) (65536 - pm.start type) (Nat.zero_le _)
      (fun n hn => by have := hfits n hn; omega) slt
    have hone : ((0 + 1 : ℕ) : ℤ) = 1 := rfl
    rw [hone] at hnumbers hlen
    exact ⟨hnumbers, by omega⟩
  | false =>
    have hcons := h.consecutive type hfill
    have hplain := entries_plain hfill hwhole 1 slt
    have hlen : (Mhvtl.entries type lines 1 slt).length = (numbers type lines).length := by
      rw [← hplain, List.length_map]
    rw [hplain, hlen]
    refine ⟨hcons, ?_⟩
    cases hcount : (numbers type lines).length with
    | zero => exact hpm
    | succ n =>
      have hmem : ((n + 1 : ℕ) : ℤ) ∈ numbers type lines := by
        rw [hcons, hcount]
        apply List.mem_map.mpr ⟨n + 1, ?_, rfl⟩
        rw [List.mem_range'_1]
        omega
      have hlast := hfits _ hmem
      omega

end Numbers

namespace Smc

/-- Elements of the types up to a start address are read. -/
structure ReadBelow (smc : Smc) (a : ℕ) : Prop where
  /-- The elements are laid out. -/
  laid : smc.LaidOut
  /-- Full elements and cartridges belong together. -/
  conserved : Conserved smc
  /-- No element of a later type is there. -/
  last : ∀ sp ∈ smc.slots, smc.pm.start sp.element_type ≤ a
  /-- Nothing is counted of a later type. -/
  later : ∀ u, a < smc.pm.start u → smc.num u = 0

/-- Reading the elements of the next type. -/
theorem ReadBelow.init_slot_info_type {smc smc' : Smc} {a : ℕ} (h : smc.ReadBelow a)
    {lines : List Text} (hfile : WellNumbered smc.pm lines) {stack : ElementType → ℤ}
    {t : ElementType} (hnext : a < smc.pm.start t)
    (hrun : smc.init_slot_info_type lines stack t = some smc') :
    smc'.ReadBelow (smc.pm.start t) ∧ smc'.pm = smc.pm := by
  have hfits := h.laid.fits t
  obtain ⟨hnumbers, hlen⟩ := @WellNumbered.entries t lines smc.pm hfile (by omega) (stack t)
  rw [Smc.init_slot_info_type, readLines_eq] at hrun
  have hstart : smc.ReadUpTo t 0 :=
    ⟨h.laid, h.conserved, fun sp hsp => (h.last sp hsp).trans hnext.le,
      fun u hu => h.later u (hnext.trans hu), Or.inl (h.later t hnext)⟩
  obtain ⟨hread, hpm⟩ := hstart.init_elements hnumbers (by omega) hrun
  refine ⟨⟨hread.laid, hread.conserved, ?_, ?_⟩, hpm⟩
  · rw [← hpm]
    exact hread.last
  · rw [← hpm]
    exact hread.later

/-- Reading the elements of types by start address. -/
theorem ReadBelow.types {types : List TypeSlot} {smc smc' : Smc} {a : ℕ} (h : smc.ReadBelow a)
    {lines : List Text} (hfile : WellNumbered smc.pm lines) {stack : ElementType → ℤ}
    (hown : ∀ x ∈ types, x.start = smc.pm.start x.type)
    (hasc : types.Pairwise fun x y => x.start < y.start) (hlow : ∀ x ∈ types, a < x.start)
    (hrun : types.foldlM (fun smc x => smc.init_slot_info_type lines stack x.type) smc =
      some smc') : smc'.LaidOut ∧ Conserved smc' ∧ smc'.pm = smc.pm := by
  induction types generalizing smc a with
  | nil =>
    cases hrun
    exact ⟨h.laid, h.conserved, rfl⟩
  | cons x types ih =>
    have hx := hown x (List.mem_cons_self ..)
    obtain ⟨hfirst, htail⟩ := List.pairwise_cons.mp hasc
    rw [List.foldlM_cons] at hrun
    obtain ⟨smc₁, hone, hrest⟩ := Option.bind_eq_some_iff.mp hrun
    obtain ⟨h₁, hpm⟩ := h.init_slot_info_type hfile
      (hx ▸ hlow x (List.mem_cons_self ..)) hone
    obtain ⟨hlaid, hc, hpm'⟩ := ih h₁ (hpm ▸ hfile)
      (fun y hy => by rw [hpm]; exact hown y (List.mem_cons_of_mem _ hy)) htail
      (fun y hy => hx ▸ hfirst y hy) hrest
    exact ⟨hlaid, hc, hpm'.trans hpm⟩

/-- A library before anything is read is in order. -/
theorem blank_readBelow {pm : Personality} (h : pm.Sound) (movecommand : Option Text) :
    (blank pm movecommand).ReadBelow 0 := by
  have hnum : ∀ t, (blank pm movecommand).num t = 0 := fun t => by cases t <;> rfl
  have hempty : ∀ sp, sp ∉ (blank pm movecommand).slots := fun sp => List.not_mem_nil
  refine ⟨⟨h.starts, ?_, h.positive, ?_, ?_, List.Pairwise.nil, fun t => (hnum t).symm⟩,
    ⟨?_, ?_, ?_⟩, ?_, ?_⟩
  · intro t u hlt
    rw [hnum]
    exact hlt.le
  · intro t
    rw [hnum]
    exact h.fits t
  · exact fun sp hsp => absurd hsp (hempty sp)
  · exact fun sp hsp => absurd hsp (hempty sp)
  · exact fun sp hsp => absurd hsp (hempty sp)
  · intro i j si sj m hi
    cases hi
  · exact fun sp hsp => absurd hsp (hempty sp)
  · exact fun u _ => hnum u

/-- A library that was read from a well-numbered file is in order. -/
theorem init_slot_info_inOrder {pm : Personality} (h : pm.Sound) {lines : List Text}
    (hfile : WellNumbered pm lines) {stack : ElementType → ℤ} {movecommand : Option Text}
    {smc : Smc} (hrun : init_slot_info lines stack (blank pm movecommand) = some smc) :
    smc.LaidOut ∧ Conserved smc ∧ smc.pm = pm :=
  (blank_readBelow h movecommand).types hfile
    (fun _ hx => sort_library_slot_type_start h.starts hx)
    (sort_library_slot_type_ascending h.starts)
    (fun x hx => by rw [sort_library_slot_type_start h.starts hx]; exact h.positive x.type) hrun

end Smc

end Mhvtl
