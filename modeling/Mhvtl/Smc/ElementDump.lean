import Mhvtl.Smc.ElementReport

/-!
# Reading a report back

With debugging on, the library prints each report it has made, taking the bytes apart
again by the lengths in its headers. What it prints of a report is what the report is
about.
-/

namespace Mhvtl

open Bytes

/-- What is printed of an element. -/
structure ElementDump where
  /-- Element address. -/
  address : ℕ
  /-- Status bits. -/
  status : UInt8
  /-- Type of cartridge. -/
  medium_type : UInt8
  /-- Address its cartridge came from. -/
  source : Option ℕ
  /-- Code set of the identifier. -/
  code_set : UInt8
  /-- Kind of identifier. -/
  identifier_type : UInt8
  /-- Length of the identifier. -/
  idlen : UInt8
  /-- Texts of the identifier. -/
  ascii : List (List UInt8)

/-- What is printed of a page. -/
structure PageDump where
  /-- Element type. -/
  type : UInt8
  /-- Bar codes are there. -/
  voltag : Bool
  /-- The other bar code bit. -/
  avoltag : Bool
  /-- Length of a descriptor. -/
  elem_len : ℕ
  /-- Length of all descriptors. -/
  page_bytes : ℕ
  /-- The elements. -/
  elements : List ElementDump

/-- What is printed of a report. -/
structure ReportDump where
  /-- First element. -/
  first : ℕ
  /-- Number of elements. -/
  available : ℕ
  /-- Length of all pages. -/
  byte_count : ℕ
  /-- The pages. -/
  pages : List PageDump

/-- A text as it is printed, up to a greatest length. -/
def printed (p : List UInt8) (o n : ℕ) : List UInt8 := (slice p o n).takeWhile (· ≠ 0)

/-- Print the element at the front. -/
def dumpElement (voltag dvcid_serial_only : Bool) (p : List UInt8) : ElementDump :=
  let i := 12 + if voltag then VOLTAG_LEN else 0
  { address := beNat (slice p 0 2)
    status := p.getD 2 0
    medium_type := p.getD 9 0 &&& 0x07
    source := if p.getD 9 0 &&& 0x80 ≠ 0 then some (beNat (slice p 10 2)) else none
    code_set := p.getD i 0 &&& 0x0f
    identifier_type := p.getD (i + 1) 0 &&& 0x0f
    idlen := p.getD (i + 3) 0
    ascii :=
      if p.getD (i + 3) 0 = 0 then []
      else if dvcid_serial_only then [printed p (i + 4) (p.getD (i + 3) 0).toNat]
      else [printed p (i + 4) 8, printed p (i + 12) 16, printed p (i + 28) 10] }

/-- Print the elements of a page. -/
def dump_element_desc (p : List UInt8) (voltag : Bool) (num_elem len : ℕ)
    (dvcid_serial_only : Bool) : List ElementDump :=
  (List.range num_elem).map fun j => dumpElement voltag dvcid_serial_only (p.drop (j * len))

/-- Print pages while there are bytes left. Each takes eight bytes at least, which is what
the first argument goes down by. -/
def dumpPages (dvcid_serial_only : Bool) : ℕ → ℤ → List UInt8 → List PageDump
  | 0, _, _ => []
  | fuel + 1, total_count, p =>
    if 0 < total_count then
      let elem_len := beNat (slice p 2 2)
      let page_bytes := beNat (slice p 5 3)
      let voltag := p.getD 1 0 &&& 0x80 != 0
      { type := p.getD 0 0
        voltag := voltag
        avoltag := p.getD 1 0 &&& 0x40 != 0
        elem_len := elem_len
        page_bytes := page_bytes
        elements := dump_element_desc (p.drop 8) voltag (page_bytes / elem_len) elem_len
          dvcid_serial_only } ::
        dumpPages dvcid_serial_only fuel
          (total_count - 8 - ((page_bytes / elem_len * elem_len : ℕ) : ℤ))
          (p.drop (8 + page_bytes / elem_len * elem_len))
    else []

/-- Print a report. The header is taken off the length of the pages, too. -/
def decode_element_status (dvcid_serial_only : Bool) (p : List UInt8) : ReportDump :=
  { first := beNat (slice p 0 2)
    available := beNat (slice p 2 2)
    byte_count := beNat (slice p 5 3)
    pages := dumpPages dvcid_serial_only (beNat (slice p 5 3)) ((beNat (slice p 5 3) : ℤ) - 8)
      (p.drop 8) }

namespace Library

variable (lib : Library)

/-- A drive is identified in its descriptor. -/
def identified (cdb : Cdb) (e : Element) : Bool :=
  lib.dvcid cdb && e.element_type == .DATA_TRANSFER

/-- Texts that identify a drive. -/
def identifiers (e : Element) : List (List UInt8) :=
  if lib.dvcid_len = 0 then []
  else if lib.dvcid_serial_only then [blank_fill e.identity.inq_product_sno lib.dvcid_len]
  else [blank_fill e.identity.inq_vendor_id 8, blank_fill e.identity.inq_product_id 16,
    blank_fill e.identity.inq_product_sno 10]

/-- What a report tells of an element. -/
def told (cdb : Cdb) (e : Element) : ElementDump :=
  { address := e.slot_location
    status := lib.statusByte e
    medium_type := ((lib.heldBy e.toSlot).map fun c => c.cart_type &&& 0x07).getD 0
    source :=
      if (lib.heldBy e.toSlot).any (fun c => decide (0 < c.last_location)) then
        some (e.last_location % 65536)
      else none
    code_set := if lib.identified cdb e then 2 else 0
    identifier_type := if lib.identified cdb e && !lib.dvcid_serial_only then 1 else 0
    idlen := if lib.identified cdb e then UInt8.ofNat lib.dvcid_len else 0
    ascii := if lib.identified cdb e then lib.identifiers e else [] }

/-- What a report tells of a page. -/
def toldPage (cdb : Cdb) (g : ElementType × List Element) : PageDump :=
  { type := UInt8.ofNat g.1.code
    voltag := voltag cdb
    avoltag := lib.dvcid_serial_only && g.1 == .DATA_TRANSFER
    elem_len := lib.sizeof_element cdb g.1
    page_bytes := lib.sizeof_element cdb g.1 * g.2.length
    elements := g.2.map (lib.told cdb) }

variable {lib} {cdb : Cdb}

/-- A blank-filled C string is printed whole. -/
theorem printed_blank_fill {src front rest : List UInt8} {o len : ℕ} (ho : front.length = o)
    (hsrc : ∀ b ∈ src, b ≠ 0) : printed (front ++ (blank_fill src len ++ rest)) o len =
      blank_fill src len := by
  rw [printed, slice_append_right (by omega), ho, Nat.sub_self,
    slice_append_left (length_blank_fill src len)]
  apply List.takeWhile_eq_self_iff.mpr
  intro b hb
  rcases List.mem_append.mp hb with hb | hb
  · simpa using hsrc b (List.mem_of_mem_take hb)
  · rw [List.eq_of_mem_replicate hb]
    rfl

/-- The byte on the cartridge, taken apart. -/
theorem mediumByte_bits (e : Element) :
    lib.mediumByte e &&& 0x07 =
        ((lib.heldBy e.toSlot).map fun c => c.cart_type &&& 0x07).getD 0 ∧
      (lib.mediumByte e &&& 0x80 ≠ 0 ↔
        (lib.heldBy e.toSlot).any (fun c => decide (0 < c.last_location)) = true) := by
  rw [mediumByte]
  cases hheld : lib.heldBy e.toSlot with
  | none => exact ⟨rfl, by simp⟩
  | some c =>
    have htype : c.cart_type &&& 0x0f &&& 0x07 = c.cart_type &&& 0x07 := by
      rw [UInt8.and_assoc]
      rfl
    have hflag : c.cart_type &&& 0x0f &&& 0x80 = 0 := by
      rw [UInt8.and_assoc]
      exact UInt8.and_zero
    have hor : ∀ a b m : UInt8, (a ||| b) &&& m = a &&& m ||| b &&& m := by
      intro a b m
      apply UInt8.toBitVec_inj.mp
      exact BitVec.and_or_distrib_right
    have hzero : (0x80 : UInt8) &&& 0x07 = 0 := rfl
    by_cases hlast : 0 < c.last_location
    · simp only [if_pos hlast, hor, htype, hflag, hzero, UInt8.zero_or]
      simp [hlast]
    · simp only [if_neg hlast, UInt8.zero_or, htype, hflag]
      simp [hlast]

/-- A byte behind a front. -/
theorem getD_behind {front l : List UInt8} {i : ℕ} (h : front.length = i) (k : ℕ) :
    (front ++ l).getD (i + k) 0 = l.getD k 0 := by
  rw [List.getD_eq_getElem?_getD, List.getElem?_append_right (by omega), h, Nat.add_sub_cancel_left,
    List.getD_eq_getElem?_getD]

/-- Two bytes of a number. -/
theorem beBytes_two (n : ℕ) : beBytes 2 n = [UInt8.ofNat (n / 256), UInt8.ofNat n] := rfl

/-- Two bytes of a number tell it up to a multiple of 65536. -/
theorem beNat_two (n : ℕ) : beNat (beBytes 2 n) = n % 65536 := by
  rw [beNat, beBytes, List.reverse_reverse, leNat_leBytes]
  rfl

/-- Identifier field of an element that is not identified. -/
theorem dvcidField_none {e : Element} (hid : lib.identified cdb e = false) :
    lib.dvcidField cdb e = [0, 0, 0, 0] :=
  if_neg (by rw [identified] at hid; rw [hid]; exact Bool.false_ne_true)

/-- Texts of an identifier in the field. -/
def identifierTexts (lib : Library) (e : Element) : List UInt8 :=
  if lib.dvcid_serial_only then blank_fill e.identity.inq_product_sno lib.dvcid_len
  else blank_fill e.identity.inq_vendor_id 8 ++ blank_fill e.identity.inq_product_id 16 ++
    blank_fill e.identity.inq_product_sno 10

/-- Identifier field of a drive that is identified. -/
theorem dvcidField_some {e : Element} (hid : lib.identified cdb e = true) :
    lib.dvcidField cdb e =
      [2, if lib.dvcid_serial_only then 0 else 1, 0, UInt8.ofNat lib.dvcid_len] ++
        lib.identifierTexts e :=
  if_pos hid

/-- The texts are printed one by one. -/
theorem identifiers_printed (e : Element) {front rest : List UInt8} {i : ℕ} (h : front.length = i + 4) :
    (if UInt8.ofNat lib.dvcid_len = 0 then []
      else if lib.dvcid_serial_only then
        [printed (front ++ (lib.identifierTexts e ++ rest)) (i + 4)
          (UInt8.ofNat lib.dvcid_len).toNat]
      else [printed (front ++ (lib.identifierTexts e ++ rest)) (i + 4) 8,
        printed (front ++ (lib.identifierTexts e ++ rest)) (i + 12) 16,
        printed (front ++ (lib.identifierTexts e ++ rest)) (i + 28) 10]) = lib.identifiers e := by
  have hle := lib.dvcid_len_le
  have hlen : (UInt8.ofNat lib.dvcid_len).toNat = lib.dvcid_len := by
    rw [UInt8.toNat_ofNat', Nat.mod_eq_of_lt (by omega)]
  have hzero : UInt8.ofNat lib.dvcid_len = 0 ↔ lib.dvcid_len = 0 := by
    rw [← UInt8.toNat_inj, hlen]
    rfl
  have htexts := e.identity.texts
  rw [identifiers, hlen]
  by_cases hnone : lib.dvcid_len = 0
  · rw [if_pos (hzero.mpr hnone), if_pos hnone]
  rw [if_neg (mt hzero.mp hnone), if_neg hnone]
  cases hserial : lib.dvcid_serial_only with
  | true =>
    rw [identifierTexts, hserial, if_pos rfl, if_pos rfl, if_pos rfl,
      printed_blank_fill h fun b hb => htexts b (Or.inr (Or.inr hb))]
  | false =>
    have hvendor : (front ++ blank_fill e.identity.inq_vendor_id 8).length = i + 12 := by
      rw [List.length_append, length_blank_fill, h]
    have hproduct : (front ++ blank_fill e.identity.inq_vendor_id 8 ++
        blank_fill e.identity.inq_product_id 16).length = i + 28 := by
      rw [List.length_append, length_blank_fill, hvendor]
    rw [identifierTexts, hserial, if_neg Bool.false_ne_true, if_neg Bool.false_ne_true,
      if_neg Bool.false_ne_true]
    simp only [List.append_assoc]
    rw [printed_blank_fill h fun b hb => htexts b (Or.inl hb)]
    simp only [← List.append_assoc] at hvendor hproduct ⊢
    rw [List.append_assoc _ _ rest, printed_blank_fill hproduct fun b hb => htexts b (Or.inr (Or.inr hb))]
    rw [List.append_assoc _ (blank_fill e.identity.inq_product_id 16),
      printed_blank_fill hvendor fun b hb => htexts b (Or.inr (Or.inl hb))]

/-- The descriptor of an element is printed as what it tells. -/
theorem dumpElement_descriptor (h : lib.smc.LaidOut) {e : Element}
    (he : e ∈ lib.elements) (rest : List UInt8) :
    dumpElement (voltag cdb) lib.dvcid_serial_only (lib.descriptor cdb e ++ rest) =
      lib.told cdb e := by
  have haddr := (element_address h he).2
  obtain ⟨front, hfront⟩ : ∃ front, front = beBytes 2 e.slot_location ++ [lib.statusByte e, 0] ++
      beBytes 2 e.asc_ascq ++ [0, if e.element_type = .DATA_TRANSFER then e.identity.SCSI_ID else 0,
        0, lib.mediumByte e] ++ beBytes 2 e.last_location ++
      (if voltag cdb then lib.voltagField e else []) := ⟨_, rfl⟩
  have hlen : front.length = 12 + if voltag cdb then VOLTAG_LEN else 0 := by
    rw [hfront, List.length_append, length_tag]
    simp
  have hsplit : lib.descriptor cdb e ++ rest = front ++ (lib.dvcidField cdb e ++ rest) := by
    rw [descriptor, ← hfront, List.append_assoc]
  obtain ⟨hmedium, hsource⟩ := @mediumByte_bits lib e
  have hfixed : ∀ l : List UInt8, front ++ l = UInt8.ofNat (e.slot_location / 256) ::
      UInt8.ofNat e.slot_location :: lib.statusByte e :: 0 :: UInt8.ofNat (e.asc_ascq / 256) ::
      UInt8.ofNat e.asc_ascq :: 0 ::
      (if e.element_type = .DATA_TRANSFER then e.identity.SCSI_ID else 0) :: 0 ::
      lib.mediumByte e :: UInt8.ofNat (e.last_location / 256) :: UInt8.ofNat e.last_location ::
      ((if voltag cdb then lib.voltagField e else []) ++ l) := by
    intro l
    rw [hfront]
    simp only [beBytes_two, List.cons_append, List.nil_append]
  have haddress : beNat (slice (lib.descriptor cdb e ++ rest) 0 2) = e.slot_location := by
    rw [hsplit, hfixed]
    exact @beNat_beBytes_of_lt 2 _ haddr
  have hlast : beNat (slice (lib.descriptor cdb e ++ rest) 10 2) = e.last_location % 65536 := by
    rw [hsplit, hfixed]
    exact beNat_two _
  have hstatus : (lib.descriptor cdb e ++ rest).getD 2 0 = lib.statusByte e := by
    rw [hsplit, hfixed]
    rfl
  have hbyte : (lib.descriptor cdb e ++ rest).getD 9 0 = lib.mediumByte e := by
    rw [hsplit, hfixed]
    rfl
  rw [dumpElement, haddress, hlast, hstatus, hbyte, hmedium, told]
  simp only [hsource, ElementDump.mk.injEq, true_and]
  rw [hsplit, ← hlen]
  have hbehind := @getD_behind front (lib.dvcidField cdb e ++ rest) _ rfl
  have hcode := hbehind 0
  rw [Nat.add_zero] at hcode
  rw [hcode, hbehind 1, hbehind 3]
  cases hid : lib.identified cdb e with
  | false =>
    rw [dvcidField_none hid]
    refine ⟨?_, ?_, ?_, ?_⟩ <;> simp
  | true =>
    rw [dvcidField_some hid]
    have hone : (1 : UInt8) &&& 0x0f = 1 := rfl
    have htwo : (2 : UInt8) &&& 0x0f = 2 := rfl
    refine ⟨?_, ?_, ?_, ?_⟩
    · simp [htwo]
    · cases lib.dvcid_serial_only <;> simp [hone]
    · simp
    · have hids := @identifiers_printed lib e
        (front ++ [2, if lib.dvcid_serial_only then 0 else 1, 0, UInt8.ofNat lib.dvcid_len]) rest
        front.length (by rw [List.length_append]; rfl)
      rw [List.append_assoc, ← List.append_assoc [2, _, _, _]] at hids
      exact hids

/-- The elements of a page are printed one by one. -/
theorem dump_element_desc_eq (h : lib.smc.LaidOut) (hs : lib.Sized cdb) {t : ElementType}
    {es : List Element} (hes : ∀ e ∈ es, e ∈ lib.elements) (ht : ∀ e ∈ es, e.element_type = t)
    (rest : List UInt8) :
    dump_element_desc (es.flatMap (lib.descriptor cdb) ++ rest) (voltag cdb) es.length
      (lib.sizeof_element cdb t) lib.dvcid_serial_only = es.map (lib.told cdb) := by
  rw [dump_element_desc]
  induction es with
  | nil => rfl
  | cons e es ih =>
    have hsize : (lib.descriptor cdb e).length = lib.sizeof_element cdb t := by
      rw [length_descriptor hs, ht e (List.mem_cons_self ..)]
    rw [List.length_cons, List.range_succ_eq_map, List.map_cons, List.map_map, List.map_cons,
      List.flatMap_cons, List.append_assoc, Nat.zero_mul, List.drop_zero,
      dumpElement_descriptor h (hes e (List.mem_cons_self ..)),
      ← ih (fun f hf => hes f (List.mem_cons_of_mem _ hf)) fun f hf => ht f (List.mem_cons_of_mem _ hf)]
    congr 1
    apply List.map_congr_left
    intro j _
    simp only [Function.comp_apply]
    rw [Nat.succ_mul, Nat.add_comm, ← List.drop_drop, ← hsize, List.drop_left]

/-- The header of a page is read as it was written. -/
theorem page_hdr_read {n : ℕ} {t : ElementType} (hn : lib.sizeof_element cdb t * n < 2 ^ 24)
    (l : List UInt8) :
    let p := lib.fill_element_status_page_hdr cdb n t ++ l
    p.getD 0 0 = UInt8.ofNat t.code ∧ (p.getD 1 0 &&& 0x80 != 0) = voltag cdb ∧
      (p.getD 1 0 &&& 0x40 != 0) = (lib.dvcid_serial_only && t == .DATA_TRANSFER) ∧
      beNat (slice p 2 2) = lib.sizeof_element cdb t ∧
      beNat (slice p 5 3) = lib.sizeof_element cdb t * n ∧ p.drop 8 = l := by
  have hsize := (@sizeof_element_bounds lib cdb t).2
  have hbits : ∀ v s : Bool,
      (((if v then 0x80 else 0) ||| (if s then 0x40 else 0) : UInt8) &&& 0x80 != 0) = v ∧
        (((if v then 0x80 else 0) ||| (if s then 0x40 else 0) : UInt8) &&& 0x40 != 0) = s := by
    decide
  refine ⟨rfl, (hbits _ _).1, (hbits _ _).2, ?_, ?_, rfl⟩
  · exact @beNat_beBytes_of_lt 2 _ (by omega)
  · exact @beNat_beBytes_of_lt 3 _ (by omega)

/-- Pages in a library: elements of it, by type, and no empty page. -/
structure PagesOf (lib : Library) (pages : List (ElementType × List Element)) : Prop where
  /-- The elements are in the library. -/
  mem : ∀ g ∈ pages, ∀ e ∈ g.2, e ∈ lib.elements
  /-- A page is on elements of one type. -/
  type : ∀ g ∈ pages, ∀ e ∈ g.2, e.element_type = g.1
  /-- A page is on some elements. -/
  filled : ∀ g ∈ pages, g.2 ≠ []

/-- Length of a page in a library. -/
theorem PagesOf.length_page {g : ElementType × List Element}
    {pages : List (ElementType × List Element)} (hp : lib.PagesOf (g :: pages))
    (hs : lib.Sized cdb) :
    (lib.page cdb g).length = 8 + lib.sizeof_element cdb g.1 * g.2.length := by
  have hg := List.mem_cons_self (a := g) (l := pages)
  rw [← Prod.mk.eta (p := g), page_eq (hp.filled g hg), List.length_append, length_page_hdr,
    length_descriptors hs (hp.type g hg)]

/-- The other pages. -/
theorem PagesOf.tail {g : ElementType × List Element} {pages : List (ElementType × List Element)}
    (hp : lib.PagesOf (g :: pages)) : lib.PagesOf pages where
  mem k hk := hp.mem k (List.mem_cons_of_mem _ hk)
  type k hk := hp.type k (List.mem_cons_of_mem _ hk)
  filled k hk := hp.filled k (List.mem_cons_of_mem _ hk)

/-- A report is not longer than three bytes tell. -/
theorem PagesOf.length_le {pages : List (ElementType × List Element)} (hp : lib.PagesOf pages)
    (hs : lib.Sized cdb) :
    (pages.flatMap (lib.page cdb)).length ≤ 94 * (pages.flatMap Prod.snd).length := by
  induction pages with
  | nil => exact Nat.zero_le _
  | cons g pages ih =>
    have hpos := List.length_pos_iff.mpr (hp.filled g (List.mem_cons_self ..))
    have hsize := (@sizeof_element_bounds lib cdb g.1).2
    have hle := Nat.mul_le_mul_right g.2.length hsize
    have htail := ih hp.tail
    rw [List.flatMap_cons, List.flatMap_cons, List.length_append, List.length_append,
      hp.length_page hs]
    omega

/-- There are fewer pages than bytes in them. -/
theorem PagesOf.length_pages {pages : List (ElementType × List Element)} (hp : lib.PagesOf pages)
    (hs : lib.Sized cdb) : pages.length ≤ (pages.flatMap (lib.page cdb)).length := by
  induction pages with
  | nil => exact Nat.zero_le _
  | cons g pages ih =>
    have htail := ih hp.tail
    rw [List.flatMap_cons, List.length_append, hp.length_page hs, List.length_cons]
    omega

/-- The pages are printed one by one. -/
theorem dumpPages_eq (h : lib.smc.LaidOut) (hs : lib.Sized cdb)
    {pages : List (ElementType × List Element)} (hp : lib.PagesOf pages)
    (hcount : (pages.flatMap Prod.snd).length ≤ 65535) {fuel : ℕ} (hfuel : pages.length ≤ fuel)
    (rest : List UInt8) :
    dumpPages lib.dvcid_serial_only fuel (((pages.flatMap (lib.page cdb)).length : ℤ) - 8)
      (pages.flatMap (lib.page cdb) ++ rest) = pages.map (lib.toldPage cdb) := by
  induction pages generalizing fuel with
  | nil =>
    cases fuel with
    | zero => rfl
    | succ fuel => exact if_neg (by rw [List.flatMap_nil, List.length_nil]; decide)
  | cons g pages ih =>
    cases fuel with
    | zero => exact absurd hfuel (Nat.not_succ_le_zero _)
    | succ fuel =>
      obtain ⟨t, es⟩ := g
      have hmem := List.mem_cons_self (a := (t, es)) (l := pages)
      have hpos := List.length_pos_iff.mpr (hp.filled _ hmem)
      have hpage := @PagesOf.length_page lib cdb (t, es) pages hp hs
      have hbounds := @sizeof_element_bounds lib cdb t
      rw [List.flatMap_cons, List.length_append] at hcount
      dsimp only at hpos hpage hcount
      have hdescs : lib.sizeof_element cdb t * es.length ≤ 86 * 65535 :=
        Nat.mul_le_mul hbounds.2 (by omega)
      obtain ⟨htype, hvoltag, havoltag, hlen, hbytes, hdrop⟩ := @page_hdr_read lib cdb es.length t
        (by omega) (es.flatMap (lib.descriptor cdb) ++ (pages.flatMap (lib.page cdb) ++ rest))
      have hdiv : lib.sizeof_element cdb t * es.length / lib.sizeof_element cdb t = es.length :=
        Nat.mul_div_cancel_left _ (by omega)
      have hbuf : ((t, es) :: pages).flatMap (lib.page cdb) ++ rest =
          lib.fill_element_status_page_hdr cdb es.length t ++
            (es.flatMap (lib.descriptor cdb) ++ (pages.flatMap (lib.page cdb) ++ rest)) := by
        rw [List.flatMap_cons, page_eq (hp.filled _ hmem)]
        simp only [List.append_assoc]
      have htotal : (((((t, es) :: pages).flatMap (lib.page cdb)).length : ℕ) : ℤ) - 8 =
          ((lib.sizeof_element cdb t * es.length : ℕ) : ℤ) +
            ((pages.flatMap (lib.page cdb)).length : ℤ) := by
        rw [List.flatMap_cons, List.length_append, hpage]
        omega
      have hnext : (lib.fill_element_status_page_hdr cdb es.length t ++
          (es.flatMap (lib.descriptor cdb) ++ (pages.flatMap (lib.page cdb) ++ rest))).drop
            (8 + es.length * lib.sizeof_element cdb t) = pages.flatMap (lib.page cdb) ++ rest := by
        rw [← List.drop_drop, hdrop, Nat.mul_comm, ← length_descriptors hs (hp.type _ hmem),
          List.drop_left]
      have hpositive : 0 < lib.sizeof_element cdb t * es.length :=
        Nat.mul_pos (by omega) hpos
      rw [hbuf, htotal, dumpPages, if_pos (by omega), hlen, hbytes]
      dsimp only
      rw [hdiv, htype, hvoltag, havoltag, hdrop, hnext, dump_element_desc_eq h hs (hp.mem _ hmem) (hp.type _ hmem),
        List.map_cons, ← ih hp.tail (by omega) (Nat.le_of_succ_le_succ hfuel), toldPage]
      congr 2
      rw [Nat.mul_comm es.length]
      omega

/-- What is printed of the report on some pages. -/
def toldReport (lib : Library) (cdb : Cdb) (start : ℕ)
    (pages : List (ElementType × List Element)) : ReportDump :=
  { first := start
    available := lib.countField cdb
    byte_count := (pages.flatMap (lib.page cdb)).length
    pages := pages.map (lib.toldPage cdb) }

/-- A report is printed as what it tells. -/
theorem decode_element_status_eq (h : lib.smc.LaidOut) (hs : lib.Sized cdb)
    {pages : List (ElementType × List Element)} (hp : lib.PagesOf pages)
    (hcount : (pages.flatMap Prod.snd).length ≤ 65535) {start : ℕ} (hstart : start < 65536)
    (havailable : lib.countField cdb < 65536) (rest : List UInt8) :
    decode_element_status lib.dvcid_serial_only (lib.reportBytes cdb start pages ++ rest) =
      lib.toldReport cdb start pages := by
  have hlength := hp.length_le hs
  have hfirst : beNat (slice (lib.reportBytes cdb start pages ++ rest) 0 2) = start :=
    @beNat_beBytes_of_lt 2 _ hstart
  have hnumber : beNat (slice (lib.reportBytes cdb start pages ++ rest) 2 2) =
      lib.countField cdb :=
    @beNat_beBytes_of_lt 2 _ havailable
  have hbytes : beNat (slice (lib.reportBytes cdb start pages ++ rest) 5 3) =
      (pages.flatMap (lib.page cdb)).length :=
    @beNat_beBytes_of_lt 3 _ (by omega)
  have hdrop : (lib.reportBytes cdb start pages ++ rest).drop 8 =
      pages.flatMap (lib.page cdb) ++ rest := rfl
  rw [decode_element_status, hfirst, hnumber, hbytes, hdrop, dumpPages_eq h hs hp hcount]
  · rfl
  · exact hp.length_pages hs

end Library

end Mhvtl
