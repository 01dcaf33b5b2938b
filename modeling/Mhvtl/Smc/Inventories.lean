import Mhvtl.Smc.Outcomes

/-!
# Inventories in every run

Commands and messages in any order, with any answers of the drives and any exit
codes of the move script, keep full elements and cartridges together.
-/

namespace Mhvtl

open Interact

namespace Conserved

variable {smc smc' : Smc}

/-- Status bits other than the full bit do not matter. -/
theorem mapSlots {f : Slot → Slot} (hc : Conserved smc) (hslots : smc'.slots = smc.slots.map f)
    (hmedia : ∀ sp ∈ smc.slots, (f sp).media = sp.media)
    (hfull : ∀ sp ∈ smc.slots, (f sp).slotOccupied = sp.slotOccupied)
    (hrecords : smc'.media_list = smc.media_list) : Conserved smc' := by
  have hback : ∀ (k : ℕ) (s : Slot), smc'.slots[k]? = some s →
      ∃ s', smc.slots[k]? = some s' ∧ s.media = s'.media := by
    intro k s hs
    rw [hslots, List.getElem?_map, Option.map_eq_some_iff] at hs
    obtain ⟨s', hs', rfl⟩ := hs
    exact ⟨s', hs', hmedia s' (List.mem_of_getElem? hs')⟩
  constructor
  · intro s hs
    rw [hslots] at hs
    obtain ⟨s', hs', rfl⟩ := List.mem_map.mp hs
    rw [hmedia s' hs', hfull s' hs', hc.full_iff s' hs']
  · intro s hs m hm
    obtain ⟨k, hk⟩ := List.mem_iff_getElem?.mp hs
    obtain ⟨s', hs', heq⟩ := hback k s hk
    rw [hrecords]
    exact hc.known s' (List.mem_of_getElem? hs') m (heq ▸ hm)
  · intro k l sk sl m hk hl hmk hml
    obtain ⟨sk', hsk', heqk⟩ := hback k sk hk
    obtain ⟨sl', hsl', heql⟩ := hback l sl hl
    exact hc.alone k l sk' sl' m hsk' hsl' (heqk ▸ hmk) (heql ▸ hml)

/-- A cartridge that is in no element may be put into one. -/
theorem place {f : Slot → Slot} {i m : ℕ} (hc : Conserved smc)
    (hslots : smc'.slots = smc.slots.modify i f) (hmedia : ∀ sp, (f sp).media = some m)
    (hfull : ∀ sp, (f sp).slotOccupied = true)
    (hrecords : smc.media_list.length ≤ smc'.media_list.length)
    (hm : m < smc'.media_list.length) (hfree : ∀ sp ∈ smc.slots, sp.media ≠ some m) :
    Conserved smc' := by
  have hcases : ∀ (k : ℕ) (s : Slot), smc'.slots[k]? = some s →
      k = i ∧ s.media = some m ∧ s.slotOccupied = true ∨
        k ≠ i ∧ smc.slots[k]? = some s := by
    intro k s hs
    rw [hslots, List.getElem?_modify] at hs
    by_cases hki : k = i
    · subst hki
      obtain ⟨s', hs', rfl⟩ := Option.map_eq_some_iff.mp hs
      simp only [if_true]
      exact Or.inl ⟨trivial, hmedia s', hfull s'⟩
    · simp only [Ne.symm hki, if_false, id_eq, Option.map_eq_map, Option.map_id_fun'] at hs
      exact Or.inr ⟨hki, hs⟩
  constructor
  · intro s hs
    obtain ⟨k, hk⟩ := List.mem_iff_getElem?.mp hs
    rcases hcases k s hk with ⟨_, hsm, hsf⟩ | ⟨_, hold⟩
    · rw [hsm, hsf]
      rfl
    · exact hc.full_iff s (List.mem_of_getElem? hold)
  · intro s hs n hn
    obtain ⟨k, hk⟩ := List.mem_iff_getElem?.mp hs
    rcases hcases k s hk with ⟨_, hsm, _⟩ | ⟨_, hold⟩
    · rw [hsm] at hn
      cases hn
      exact hm
    · exact lt_of_lt_of_le (hc.known s (List.mem_of_getElem? hold) n hn) hrecords
  · intro k l sk sl n hk hl hnk hnl
    rcases hcases k sk hk with ⟨hki, hskm, _⟩ | ⟨_, holdk⟩
    · rcases hcases l sl hl with ⟨hli, _, _⟩ | ⟨_, holdl⟩
      · rw [hki, hli]
      · rw [hskm] at hnk
        cases hnk
        exact absurd hnl (hfree sl (List.mem_of_getElem? holdl))
    · rcases hcases l sl hl with ⟨_, hslm, _⟩ | ⟨_, holdl⟩
      · rw [hslm] at hnl
        cases hnl
        exact absurd hnk (hfree sk (List.mem_of_getElem? holdk))
      · exact hc.alone k l sk sl n holdk holdl hnk hnl

/-- The cartridge of a full element has a bar code. -/
theorem barcodeOf (hc : Conserved smc) {sp : Slot} (hsp : sp ∈ smc.slots)
    (hfull : sp.slotOccupied = true) : ∃ held, smc.barcodeOf sp = some held := by
  obtain ⟨i, hi⟩ := List.mem_iff_getElem?.mp hsp
  obtain ⟨_, held, _, hb⟩ := hc.cartridge hi hfull
  simp only [Smc.barcode, hi, Option.bind_some] at hb
  exact ⟨held, hb⟩

end Conserved

/-- An import/export slot that was loaded is full. -/
theorem Slot.slotOccupied_imported (sp : Slot) (m : ℕ) : (sp.imported m).slotOccupied = true := by
  simp only [Slot.imported, Slot.slotOccupied, Slot.setImpExpStatus, Slot.setStatus, OPERATOR]
  decide

namespace Smc

variable {smc : Smc}

/-- The bar codes of full elements can be looked at. When none of them starts like
the given one, the search says so. -/
theorem already_in_slot_some (hc : Conserved smc) (barcode : Text) {slots : List Slot}
    (hsub : ∀ sp ∈ slots, sp ∈ smc.slots) :
    smc.already_in_slot barcode slots = some true ∨
      smc.already_in_slot barcode slots = some false ∧
        ∀ sp ∈ slots, sp.slotOccupied = true → ∀ held, smc.barcodeOf sp = some held →
          held.strncmp barcode barcode.length = false := by
  induction slots with
  | nil => exact Or.inr ⟨rfl, by simp⟩
  | cons sp slots ih =>
    have ih := ih fun s hs => hsub s (List.mem_cons_of_mem _ hs)
    simp only [already_in_slot, List.forall_mem_cons]
    by_cases hfull : sp.slotOccupied = true
    · obtain ⟨held, hheld⟩ := hc.barcodeOf (hsub sp List.mem_cons_self) hfull
      simp only [hfull, if_true, hheld, forall_const, Option.some.injEq, forall_eq']
      cases hcmp : held.strncmp barcode barcode.length with
      | true => exact Or.inl rfl
      | false => simpa using ih
    · simpa [hfull] using ih

/-- The bar codes in the port can be listed. -/
theorem list_map_some (hc : Conserved smc) {slots : List Slot}
    (hsub : ∀ sp ∈ slots, sp ∈ smc.slots) : ∃ text, smc.list_map slots = some text := by
  induction slots with
  | nil => exact ⟨[], rfl⟩
  | cons sp slots ih =>
    obtain ⟨rest, hrest⟩ := ih fun s hs => hsub s (List.mem_cons_of_mem _ hs)
    simp only [list_map]
    by_cases hport : (sp.slotOccupied && sp.is_map_slot) = true
    · rw [Bool.and_eq_true] at hport
      obtain ⟨held, hheld⟩ := hc.barcodeOf (hsub sp List.mem_cons_self) hport.1
      exact ⟨held ++ rest, by simp [hport.1, hport.2, hheld, hrest]⟩
    · exact ⟨rest, by simp [hport, hrest]⟩

/-- A record that is found carries the bar code asked for. -/
theorem lookup_barcode_some {barcode : Text} {m : ℕ}
    (hlen : barcode.length ≤ MAX_BARCODE_LEN) (h : smc.lookup_barcode barcode = some m) :
    ∃ mp, smc.media_list[m]? = some mp ∧ mp.barcode = barcode := by
  obtain ⟨hlt, hcmp, _⟩ := List.findIdx?_eq_some_iff_getElem.mp h
  refine ⟨smc.media_list[m], List.getElem?_eq_getElem hlt, ?_⟩
  have hfull := smc.media_list[m].barcode_length
  simp only [Text.strncmp, beq_iff_eq] at hcmp
  rwa [List.take_of_length_le (by omega), List.take_of_length_le (by omega)] at hcmp

/-- A bar code of legal length that is not known gets a record. -/
theorem add_barcode_some {barcode : Text} (hlen : barcode.length ≤ MAX_BARCODE_LEN)
    (h : smc.lookup_barcode barcode = none) : ∃ mp, smc.add_barcode barcode =
      some ({ smc with media_list := smc.media_list ++ [mp] }, smc.media_list.length) := by
  simp [add_barcode, h, not_lt.mpr hlen]

/-- The record a bar code is loaded under is that of no element. -/
theorem record_free (hc : Conserved smc) {barcode : Text} {m : ℕ}
    (hlen : barcode.length ≤ MAX_BARCODE_LEN)
    (hnew : ∀ sp ∈ smc.slots, sp.slotOccupied = true → ∀ held, smc.barcodeOf sp = some held →
      held.strncmp barcode barcode.length = false)
    (hlookup : smc.lookup_barcode barcode = some m) : ∀ sp ∈ smc.slots, sp.media ≠ some m := by
  intro sp hsp hm
  obtain ⟨mp, hmp, hbar⟩ := lookup_barcode_some hlen hlookup
  have hfull : sp.slotOccupied = true := by simp [hc.full_iff sp hsp, hm]
  have hheld : smc.barcodeOf sp = some barcode := by simp [Smc.barcodeOf, hm, hmp, hbar]
  simpa [Text.strncmp] using hnew sp hsp hfull barcode hheld

/-- Loading a cartridge into the port. -/
theorem load_map_conserved (hc : Conserved smc) (msg : QMsg) :
    ∃ smc' reply, smc.load_map msg = some (smc', reply) ∧ Conserved smc' := by
  simp only [load_map]
  split
  · exact ⟨smc, _, rfl, hc⟩
  split
  · exact ⟨smc, _, rfl, hc⟩
  generalize (msg.text.drop 9).dropWhile (fun c => !c.isAlphanum) = barcode
  rcases already_in_slot_some hc barcode (fun sp h => h) with hknown | ⟨hnew, hnone⟩
  · simp only [hknown]
    exact ⟨smc, _, rfl, hc⟩
  simp only [hnew]
  split
  · exact ⟨smc, _, rfl, hc⟩
  rename_i hlen
  have hlen : barcode.length ≤ MAX_BARCODE_LEN := not_lt.mp hlen
  cases hmap : smc.locate_empty_map with
  | none => exact ⟨smc, _, rfl, hc⟩
  | some i =>
    cases hlookup : smc.lookup_barcode barcode with
    | some m =>
      obtain ⟨mp, hmp, _⟩ := lookup_barcode_some hlen hlookup
      have hlt : m < smc.media_list.length := (List.getElem?_eq_some_iff.mp hmp).1
      refine ⟨_, _, rfl, hc.place rfl (fun _ => rfl) (·.slotOccupied_imported m) ?_ ?_
        (record_free hc hlen hnone hlookup)⟩
      · simp [updateSlot, updateMedia]
      · simpa [updateSlot, updateMedia] using hlt
    | none =>
      obtain ⟨mp, hadd⟩ := add_barcode_some hlen hlookup
      simp only [hadd, Option.map_none, Option.none_or]
      refine ⟨_, _, rfl, hc.place rfl (fun _ => rfl) (·.slotOccupied_imported _) ?_ ?_ ?_⟩
      · simp [updateSlot, updateMedia]
      · simp [updateSlot, updateMedia]
      · intro sp hsp hm
        exact lt_irrefl _ (hc.known sp hsp _ hm)

/-- Adding a storage slot. -/
theorem add_storage_slot_conserved (hc : Conserved smc) : Conserved smc.add_storage_slot.1 := by
  have hcases : ∀ (k : ℕ) (s : Slot), smc.add_storage_slot.1.slots[k]? = some s →
      smc.slots[k]? = some s ∨ s.media = none ∧ s.slotOccupied = false := by
    intro k s hs
    simp only [add_storage_slot, List.getElem?_append] at hs
    split at hs
    · exact Or.inl hs
    · right
      obtain ⟨_, rfl⟩ := List.getElem?_eq_some_iff.mp hs
      simp [Slot.setSlotEmpty]
  constructor
  · intro s hs
    obtain ⟨k, hk⟩ := List.mem_iff_getElem?.mp hs
    rcases hcases k s hk with hold | ⟨hm, hf⟩
    · exact hc.full_iff s (List.mem_of_getElem? hold)
    · rw [hm, hf]
      rfl
  · intro s hs m hm
    obtain ⟨k, hk⟩ := List.mem_iff_getElem?.mp hs
    rcases hcases k s hk with hold | ⟨hnone, _⟩
    · exact hc.known s (List.mem_of_getElem? hold) m hm
    · rw [hnone] at hm
      cases hm
  · intro k l sk sl m hk hl hmk hml
    rcases hcases k sk hk with holdk | ⟨hnone, _⟩
    · rcases hcases l sl hl with holdl | ⟨hnone, _⟩
      · exact hc.alone k l sk sl m holdk holdl hmk hml
      · rw [hnone] at hml
        cases hml
    · rw [hnone] at hmk
      cases hmk

/-- Emptying a port without cartridges. -/
theorem empty_map_conserved (hc : Conserved smc)
    (hport : smc.cap_closed = false → ∀ sp ∈ smc.slots, sp.is_map_slot = true →
      sp.slotOccupied = false) : Conserved smc.empty_map.1 := by
  simp only [empty_map]
  split
  · exact hc
  · rename_i hopen
    have hport := hport (by simpa using hopen)
    have hkeep : ∀ sp ∈ smc.slots,
        (if sp.slotOccupied && sp.is_map_slot then sp.setSlotEmpty else sp) = sp := by
      intro sp hsp
      cases hmap : sp.is_map_slot with
      | false => simp
      | true => simp [hport sp hsp hmap]
    exact hc.mapSlots rfl (fun sp hsp => by rw [hkeep sp hsp]) (fun sp hsp => by rw [hkeep sp hsp])
      rfl

/-- A notice of an ejected cartridge. -/
theorem set_access_bit_conserved (hc : Conserved smc) (msg : QMsg) :
    Conserved (smc.set_access_bit msg) := by
  apply hc.mapSlots rfl
  · intro sp _
    split <;> rfl
  · intro sp _
    split
    · exact Slot.slotOccupied_setAccessStatus sp true
    · rfl
  · rfl

/-- A message, unless it empties a port with cartridges in it. -/
theorem processMessageQ_conserved (hc : Conserved smc) {msg : QMsg}
    (hport : "empty map".toList <+: msg.text → smc.cap_closed = false →
      ∀ sp ∈ smc.slots, sp.is_map_slot = true → sp.slotOccupied = false) :
    ∃ smc' out, smc.processMessageQ msg = some (smc', out) ∧ Conserved smc' := by
  rcases processMessageQ_cases smc msg with hnone | ⟨x, hx, hstart, hrun⟩
  · exact ⟨smc, [], hnone, hc⟩
  rw [hrun]
  simp only [handlers, List.mem_cons, List.not_mem_nil, or_false] at hx
  rcases hx with rfl | rfl | rfl | rfl | rfl | rfl | rfl
  · exact ⟨_, _, rfl, add_storage_slot_conserved hc⟩
  · exact ⟨_, _, rfl, empty_map_conserved hc (hport hstart)⟩
  · exact ⟨_, _, rfl, set_access_bit_conserved hc msg⟩
  · exact ⟨_, _, rfl, hc.1, hc.2, hc.3⟩
  · exact ⟨_, _, rfl, hc.1, hc.2, hc.3⟩
  · obtain ⟨text, htext⟩ := list_map_some hc (fun sp h => h)
    simp only [htext, Option.map_some]
    exact ⟨smc, _, rfl, hc⟩
  · obtain ⟨smc', reply, hload, hc'⟩ := load_map_conserved hc msg
    simp only [hload, Option.map_some]
    exact ⟨smc', _, rfl, hc'⟩

end Smc

/-- What a library does in one go. -/
inductive LibraryEvent where
  /-- A MOVE MEDIUM command, how its surroundings answered, and its status if it got that far. -/
  | move (cdb : Cdb) (tr : List (Sigma Answer)) (status : Option Status)
  /-- A message. -/
  | message (msg : QMsg)

/-- Steps of a library. The state is `none` after the use of a cartridge that is not there. -/
inductive LibraryStep : Option Smc → LibraryEvent → Option Smc → Prop where
  /-- A MOVE MEDIUM command with any answers. -/
  | move {smc : Smc} {cdb : Cdb} {tr : List (Sigma Answer)} {r : Moved}
      (h : Exec (smc.smc_move_medium cdb) tr r) :
      LibraryStep (some smc) (.move cdb tr (r.map Prod.snd)) (r.map Prod.fst)
  /-- A message with any text. -/
  | message (smc : Smc) (msg : QMsg) :
      LibraryStep (some smc) (.message msg) ((smc.processMessageQ msg).map Prod.fst)

/-- No port with cartridges is emptied, no drive claims a cartridge its element
does not have, and no move between drives has to be undone. -/
def LibrarySafe : Option Smc → LibraryEvent → Prop
  | none, _ => True
  | some smc, .move cdb tr _ =>
    ¬ smc.Phantom (cdb.get_unaligned_be16 4) (cdb.get_unaligned_be16 6) (replies tr) ∧
      ¬ smc.UndoneLoad (cdb.get_unaligned_be16 4) (cdb.get_unaligned_be16 6) (replies tr)
  | some smc, .message msg =>
    "empty map".toList <+: msg.text → smc.cap_closed = false →
      ∀ sp ∈ smc.slots, sp.is_map_slot = true → sp.slotOccupied = false

/-- A step of a library that meets the condition. -/
def SafeLibraryStep (st : Option Smc) (l : LibraryEvent) (st' : Option Smc) : Prop :=
  LibraryStep st l st' ∧ LibrarySafe st l

/-- A command that ends well moved the cartridge of its source to its destination
and nothing else. A command that is refused changed nothing. -/
def MoveRule (smc : Smc) (l : LibraryEvent) (smc' : Smc) : Prop :=
  ∀ cdb tr status, l = .move cdb tr (some status) →
    (status.sam_stat = SAM_STAT_GOOD → cdb 11 = 0 →
      cdb.get_unaligned_be16 4 ≠ cdb.get_unaligned_be16 6 →
      ∃ i src j dest, smc.slot2struct (cdb.get_unaligned_be16 4) = some (i, src) ∧
        smc.slot2struct (cdb.get_unaligned_be16 6) = some (j, dest) ∧ Transfer smc i j smc') ∧
    (status.sam_stat = SAM_STAT_CHECK_CONDITION → smc' = smc)

/-- One step that meets the condition. -/
theorem SafeLibraryStep.conserved {smc : Smc} {l : LibraryEvent} {st' : Option Smc}
    (hc : Conserved smc) (h : SafeLibraryStep (some smc) l st') :
    ∃ smc', st' = some smc' ∧ Conserved smc' ∧ MoveRule smc l smc' := by
  obtain ⟨hstep, hsafe⟩ := h
  cases hstep with
  | @move _ cdb tr r hexec =>
    rcases Smc.smc_move_medium_cases hc hexec with ⟨hport, rfl⟩ | houtcome
    · refine ⟨smc, rfl, hc, ?_⟩
      intro cdb' tr' status' heq
      cases heq
      exact ⟨fun _ hzero _ => absurd hzero hport, fun _ => rfl⟩
    · cases houtcome with
      | @refused status hcheck =>
        refine ⟨smc, rfl, hc, ?_⟩
        intro cdb' tr' status' heq
        cases heq
        refine ⟨fun hgood _ _ => ?_, fun _ => rfl⟩
        rw [hcheck] at hgood
        cases hgood
      | @moved i j src dest smc' hsrc hdest ht =>
        refine ⟨smc', rfl, hc.transfer ht, ?_⟩
        intro cdb' tr' status' heq
        cases heq
        exact ⟨fun _ _ _ => ⟨i, src, j, dest, hsrc, hdest, ht⟩, fun hcheck => nomatch hcheck⟩
      | same heq =>
        refine ⟨smc, rfl, hc, ?_⟩
        intro cdb' tr' status' hl
        cases hl
        exact ⟨fun _ _ hne => absurd heq hne, fun _ => rfl⟩
      | phantom hphantom => exact absurd hphantom hsafe.1
      | undone hundone => exact absurd hundone hsafe.2
  | message _ msg =>
    obtain ⟨smc', out, hrun, hc'⟩ := Smc.processMessageQ_conserved hc hsafe
    refine ⟨smc', by rw [hrun]; rfl, hc', ?_⟩
    intro cdb' tr' status' heq
    cases heq

/-- In every run whose steps meet the condition, full elements and cartridges stay
together, no cartridge that is not there is used, and every command follows the
rule of moves. -/
theorem library_conserves_cartridges {smc : Smc} (hc : Conserved smc) {ls : List LibraryEvent}
    {st : Option Smc} (hrun : Run SafeLibraryStep (some smc) ls st) :
    ∃ smc', st = some smc' ∧ Conserved smc' ∧
      ∀ l st', SafeLibraryStep st l st' →
        ∃ smc'', st' = some smc'' ∧ Conserved smc'' ∧ MoveRule smc' l smc'' := by
  have hpres : ∀ (st : Option Smc) (l : LibraryEvent) (st' : Option Smc),
      (∃ smc', st = some smc' ∧ Conserved smc') → SafeLibraryStep st l st' →
        ∃ smc', st' = some smc' ∧ Conserved smc' := by
    rintro _ l st' ⟨smc', rfl, hc'⟩ hstep
    obtain ⟨smc'', hst, hc'', _⟩ := hstep.conserved hc'
    exact ⟨smc'', hst, hc''⟩
  obtain ⟨smc', rfl, hc'⟩ := Run.invariant hpres hrun ⟨smc, rfl, hc⟩
  exact ⟨smc', rfl, hc', fun l st' hstep => hstep.conserved hc'⟩

/-- Elements that can be gone through one by one. -/
theorem Conserved.of_elements {smc : Smc}
    (hfull : ∀ sp ∈ smc.slots, sp.slotOccupied = sp.media.isSome ∧
      sp.media.all (fun m => decide (m < smc.media_list.length)) = true)
    (halone : ∀ i < smc.slots.length, ∀ j < smc.slots.length,
      (smc.slots[i]?.bind Slot.media).isSome = true →
        smc.slots[i]?.bind Slot.media = smc.slots[j]?.bind Slot.media → i = j) :
    Conserved smc := by
  constructor
  · exact fun sp hsp => (hfull sp hsp).1
  · intro sp hsp m hm
    simpa [hm] using (hfull sp hsp).2
  · intro i j si sj m hi hj hmi hmj
    apply halone i (List.getElem?_eq_some_iff.mp hi).1 j (List.getElem?_eq_some_iff.mp hj).1
    · simp [hi, hmi]
    · simp [hi, hj, hmi, hmj]

/-- Command block of a move with the default picker. -/
def moveCdb (src_addr dest_addr : ℕ) : Cdb := fun i =>
  if i = 4 then UInt8.ofNat (src_addr / 256) else if i = 5 then UInt8.ofNat src_addr
  else if i = 6 then UInt8.ofNat (dest_addr / 256) else if i = 7 then UInt8.ofNat dest_addr
  else 0

/-- A request and its answer. -/
def asked (cmd : Text) (rcv_id : ℕ) (answer : Text) : List (Sigma Answer) :=
  [⟨.send_msg cmd rcv_id, ()⟩, ⟨.msgrcv, answer⟩]

/-- A library with a port, two drives and a storage slot. There is a cartridge in
the port and one in the second drive. -/
def smallLibrary : Smc where
  pm := ⟨100, 1, 10, 1000⟩
  num_drives := 2
  num_picker := 1
  num_map := 1
  num_storage := 1
  cap_closed := true
  movecommand := none
  slots :=
    [ ⟨10, 0, none, some 0, STATUS_Access ||| STATUS_Full, .MAP_ELEMENT, Slot.wired_map⟩,
      ⟨100, 0, some ⟨11⟩, none, STATUS_Access, .DATA_TRANSFER, Slot.wired_drive _⟩,
      ⟨101, 1000, some ⟨12⟩, some 1, STATUS_Full, .DATA_TRANSFER, Slot.wired_drive _⟩,
      ⟨1000, 0, none, none, STATUS_Access, .STORAGE_ELEMENT, Slot.wired_storage⟩ ]
  media_list :=
    [ ⟨"A1              ".toList, by decide, 0, 0⟩, ⟨"A2              ".toList, by decide, 1000, 0⟩ ]

/-- The small library is in order. -/
theorem smallLibrary_conserved : Conserved smallLibrary :=
  Conserved.of_elements (by decide +kernel) (by decide +kernel)

/-- Answers to a move of the cartridge of the second drive into the storage slot. -/
def fetchAnswers : List (Sigma Answer) :=
  asked msg_mount_state 12 msg_occupied ++ asked (unload "A2              ".toList) 12 msg_unload_ok
    ++ asked msg_set_empty 12 msg_unload_ok

/-- The small library after that move. -/
def fetchedLibrary : Smc :=
  { smallLibrary with
    slots :=
      [ ⟨10, 0, none, some 0, STATUS_Access ||| STATUS_Full, .MAP_ELEMENT, Slot.wired_map⟩,
        ⟨100, 0, some ⟨11⟩, none, STATUS_Access, .DATA_TRANSFER, Slot.wired_drive _⟩,
        ⟨101, 0, some ⟨12⟩, none, STATUS_Access, .DATA_TRANSFER, Slot.wired_drive _⟩,
        ⟨1000, 101, none, some 1, STATUS_Access ||| STATUS_Full, .STORAGE_ELEMENT, Slot.wired_storage⟩ ]
    media_list :=
      [ ⟨"A1              ".toList, by decide, 0, 0⟩,
        ⟨"A2              ".toList, by decide, 101, 0⟩ ] }

/-- A move out of a full element without a fifth answer meets the condition. -/
theorem LibrarySafe.move_full {smc : Smc} {cdb : Cdb} {tr : List (Sigma Answer)}
    {status : Option Status}
    (hfull : (smc.drive2struct (cdb.get_unaligned_be16 4)).all (fun d => d.2.1.slotOccupied) = true)
    (hshort : (replies tr)[4]? = none) : LibrarySafe (some smc) (.move cdb tr status) := by
  constructor
  · rintro ⟨_, i, src, drv, state, hdrive, hempty, _⟩
    simp [hdrive, hempty] at hfull
  · rintro ⟨_, _, answer, hanswer, _⟩
    rw [hshort] at hanswer
    cases hanswer

/-- The move is one of the small library. -/
theorem smallLibrary_fetch : SafeLibraryStep (some smallLibrary)
    (.move (moveCdb 101 1000) fetchAnswers (some Status.good)) (some fetchedLibrary) := by
  have hexec : Exec (smallLibrary.smc_move_medium (moveCdb 101 1000)) fetchAnswers
      (some (fetchedLibrary, Status.good)) := Exec.of_replay (by decide +kernel)
  exact ⟨LibraryStep.move hexec, LibrarySafe.move_full (by decide +kernel) (by decide +kernel)⟩

/-- A library that fetches a cartridge from its drive is in order. -/
theorem library_conserves_cartridges_fetch :
    ∃ smc', some fetchedLibrary = some smc' ∧ Conserved smc' ∧
      ∀ l st', SafeLibraryStep (some fetchedLibrary) l st' →
        ∃ smc'', st' = some smc'' ∧ Conserved smc'' ∧ MoveRule smc' l smc'' :=
  library_conserves_cartridges smallLibrary_conserved
    (Run.cons smallLibrary_fetch (Run.nil (some fetchedLibrary)))

/-- Answers to a move out of the first drive, which has no cartridge but says so. -/
def phantomAnswers : List (Sigma Answer) := asked msg_mount_state 11 msg_occupied

/-- Answers to a move from the second drive to the first, which fails to load. -/
def undoneAnswers : List (Sigma Answer) :=
  asked msg_mount_state 12 msg_occupied ++ asked msg_mount_state 11 msg_not_occupied
    ++ asked (unload "A2              ".toList) 12 msg_unload_ok
    ++ asked msg_set_empty 12 msg_unload_ok
    ++ asked (lload "A2              ".toList) 11 msg_load_failed
    ++ asked (lload "A2              ".toList) 12 msg_load_ok

/-- The small library after that move. -/
def undoneLibrary : Smc :=
  { smallLibrary with
    slots :=
      [ ⟨10, 0, none, some 0, STATUS_Access ||| STATUS_Full, .MAP_ELEMENT, Slot.wired_map⟩,
        ⟨100, 0, some ⟨11⟩, none, STATUS_Access, .DATA_TRANSFER, Slot.wired_drive _⟩,
        ⟨101, 100, some ⟨12⟩, some 1, STATUS_Access ||| STATUS_Full, .DATA_TRANSFER, Slot.wired_drive _⟩,
        ⟨1000, 0, none, none, STATUS_Access, .STORAGE_ELEMENT, Slot.wired_storage⟩ ]
    media_list :=
      [ ⟨"A1              ".toList, by decide, 0, 0⟩,
        ⟨"A2              ".toList, by decide, 100, 0⟩ ] }

/-- A message that is handled. -/
theorem LibraryStep.of_processMessageQ {smc smc' : Smc} {msg : QMsg} {out : List Text}
    (h : smc.processMessageQ msg = some (smc', out)) :
    LibraryStep (some smc) (.message msg) (some smc') := by
  have hstep := LibraryStep.message smc msg
  rwa [h] at hstep

/-- The small library with its port open. -/
def openedLibrary : Smc := { smallLibrary with cap_closed := false }

/-- The opened library after its port was emptied. -/
def emptiedLibrary : Smc := openedLibrary.empty_map.1

/-- A drive that claims a cartridge makes the library use one that is not there, a
port that is emptied keeps the cartridges it is not full of, and a move that is
undone leaves its marks. -/
theorem smallLibrary_loses_track :
    Conserved smallLibrary ∧
      LibraryStep (some smallLibrary) (.move (moveCdb 100 1000) phantomAnswers none) none ∧
      (Run LibraryStep (some smallLibrary)
          [.message ⟨32768, "open map".toList⟩, .message ⟨32768, "empty map".toList⟩]
          (some emptiedLibrary) ∧ ¬ Conserved emptiedLibrary) ∧
      LibraryStep (some smallLibrary)
          (.move (moveCdb 101 100) undoneAnswers
            (some (sam_hardware_error E_MANUAL_INTERVENTION_REQ))) (some undoneLibrary) ∧
      (smallLibrary.slots[2]?.map Slot.slotAccess = some false ∧
        undoneLibrary.slots[2]?.map Slot.slotAccess = some true) := by
  have hphantom : Exec (smallLibrary.smc_move_medium (moveCdb 100 1000)) phantomAnswers none :=
    Exec.of_replay (by decide +kernel)
  have hundone : Exec (smallLibrary.smc_move_medium (moveCdb 101 100)) undoneAnswers
      (some (undoneLibrary, sam_hardware_error E_MANUAL_INTERVENTION_REQ)) :=
    Exec.of_replay (by decide +kernel)
  have hopen : smallLibrary.processMessageQ ⟨32768, "open map".toList⟩ =
      some (openedLibrary, ["OK".toList]) := by decide +kernel
  have hempty : openedLibrary.processMessageQ ⟨32768, "empty map".toList⟩ =
      some (emptiedLibrary, ["OK".toList]) := by decide +kernel
  refine ⟨smallLibrary_conserved, LibraryStep.move hphantom, ⟨?_, ?_⟩, LibraryStep.move hundone,
    by decide +kernel⟩
  · exact Run.cons (LibraryStep.of_processMessageQ hopen)
      (Run.cons (LibraryStep.of_processMessageQ hempty) (Run.nil _))
  · intro hc
    exact absurd (hc.full_iff _ List.mem_cons_self) (by decide +kernel)

end Mhvtl
