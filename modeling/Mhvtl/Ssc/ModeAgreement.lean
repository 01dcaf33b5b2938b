import Mathlib.Algebra.Order.BigOperators.Group.List
import Mathlib.Data.List.Nodup
import Mhvtl.Ssc.PageRuns

/-!
# When MODE SENSE and MODE SELECT agree

The length of an answer is right when it fits its field, and the walk over it ends
when no subpage of the control page is in it. A page sent back is taken for what
it is, except the extension page, which looks like the device configuration page,
and except where two settings are kept for one thing.
-/

namespace Mhvtl.Ssc

open Bytes Cart

/-- Bytes 0 to 3 say the length of a page. -/
theorem pageLength_congr {p q : ℕ → UInt8} (h : ∀ j < 4, p j = q j) : pageLength p = pageLength q := by
  simp only [pageLength, be16At, h 0 (by omega), h 1 (by omega), h 2 (by omega), h 3 (by omega)]

/-- The walk takes the first page and goes on. -/
theorem walksPages_cons {data page : List UInt8} {i : ℕ} {pages : List (List UInt8)} :
    WalksPages data i (page :: pages) ↔ (data.drop i).take page.length = page ∧
      pageLength (pageAt (data.getD · 0) i) = page.length ∧
      WalksPages data (i + page.length) pages := by
  constructor
  · intro h
    cases h with
    | cons h hl ht => exact ⟨h, hl, ht⟩
  · rintro ⟨h, hl, ht⟩
    exact .cons h hl ht

/-- The walk over pages behind one another. -/
theorem walksPages_iff (pre : List UInt8) {pages : List ModePage}
    (h4 : ∀ m ∈ pages, 4 ≤ m.pcodePointer.length) :
    WalksPages (pre ++ pages.flatMap ModePage.pcodePointer) pre.length (pages.map ModePage.pcodePointer) ↔
      ∀ m ∈ pages, pageLength m.byte = m.pcodePointer.length := by
  induction pages generalizing pre with
  | nil =>
    rw [List.flatMap_nil, List.append_nil, List.map_nil]
    exact iff_of_true .nil (fun m hm => absurd hm List.not_mem_nil)
  | cons m pages ih =>
    rw [List.forall_mem_cons] at h4
    have hdata : pre ++ (m :: pages).flatMap ModePage.pcodePointer =
        (pre ++ m.pcodePointer) ++ pages.flatMap ModePage.pcodePointer := by
      rw [List.flatMap_cons, List.append_assoc]
    have hlen : (pre ++ m.pcodePointer).length = pre.length + m.pcodePointer.length := List.length_append
    have hrest := ih (pre ++ m.pcodePointer) h4.2
    rw [hlen] at hrest
    have hbyte : ∀ j < 4, pageAt ((pre ++ (m :: pages).flatMap ModePage.pcodePointer).getD · 0) pre.length j =
        m.byte j := by
      intro j hj
      rw [pageAt, hdata, List.getD_append _ _ _ _ (by omega), List.getD_append_right _ _ _ _ (by omega),
        Nat.add_sub_cancel_left, ModePage.byte]
    have hpl := pageLength_congr hbyte
    have hpage : ((pre ++ (m :: pages).flatMap ModePage.pcodePointer).drop pre.length).take
        m.pcodePointer.length = m.pcodePointer := by
      rw [List.drop_left, List.flatMap_cons, List.take_left]
    rw [List.forall_mem_cons, List.map_cons, ← hrest, ← hdata, ← hpl, walksPages_cons]
    exact ⟨fun h => h.2, fun h => ⟨hpage, h⟩⟩

/-- The codes from 0 on. -/
theorem codes_nodup {n : ℕ} (h : n ≤ 256) : ((List.range n).map UInt8.ofNat).Nodup := by
  refine List.Nodup.map_on ?_ List.nodup_range
  intro i hi j hj hij
  have hi : i < 256 := Nat.lt_of_lt_of_le (List.mem_range.mp hi) h
  have hj : j < 256 := Nat.lt_of_lt_of_le (List.mem_range.mp hj) h
  have hval := congrArg UInt8.toNat hij
  rwa [UInt8.toNat_ofNat_of_lt' hi, UInt8.toNat_ofNat_of_lt' hj] at hval

/-- No code is asked for twice. -/
theorem requestedCodes_nodup (pcode subpcode : UInt8) : (requestedCodes pcode subpcode).Nodup := by
  have hpair : ∀ i : UInt8, Function.Injective fun j : UInt8 => (i, j) := fun i j k h => (Prod.mk.inj h).2
  unfold requestedCodes
  dsimp only
  split
  · exact List.nodup_nil
  · split
    · have hpages : ((List.range 0x3f).map UInt8.ofNat).tail.Nodup := (codes_nodup (by omega)).tail
      have hpage : Function.Injective fun i : UInt8 => (i, (0 : UInt8)) := fun i j h => (Prod.mk.inj h).1
      split
      · exact hpages.map hpage
      · refine List.nodup_flatMap.mpr ⟨fun i _ => (codes_nodup (by omega)).map (hpair i), ?_⟩
        refine hpages.imp fun {i j} hij => ?_
        intro c hc hc'
        obtain ⟨a, -, rfl⟩ := List.mem_map.mp hc
        obtain ⟨b, -, hb⟩ := List.mem_map.mp hc'
        exact hij (Prod.mk.inj hb).1.symm
    · split
      · exact (codes_nodup (by omega)).map (hpair pcode)
      · exact List.nodup_singleton _

/-- Every page found is one of the drive. -/
theorem requestedPages_mem {l : List ModePage} {pcode subpcode : UInt8} {m : ModePage}
    (h : m ∈ requestedPages l pcode subpcode) :
    m ∈ l ∧ (m.pcode, m.subpcode) ∈ requestedCodes pcode subpcode := by
  obtain ⟨c, hc, hm⟩ := List.mem_filterMap.mp h
  obtain ⟨hmem, hp, hs⟩ := lookup_shape hm
  rw [hp, hs]
  exact ⟨hmem, hc⟩

/-- No page is found twice. -/
theorem requestedPages_nodup (l : List ModePage) (pcode subpcode : UInt8) :
    (requestedPages l pcode subpcode).Nodup := by
  refine (requestedCodes_nodup pcode subpcode).filterMap ?_
  intro c c' m hc hc'
  obtain ⟨-, hp, hs⟩ := lookup_shape hc
  obtain ⟨-, hp', hs'⟩ := lookup_shape hc'
  exact Prod.ext (hp.symm.trans hp') (hs.symm.trans hs')

/-- Bytes of the pages that a request finds. -/
def requestedSize (l : List ModePage) (pcode subpcode : UInt8) : ℕ :=
  ((requestedPages l pcode subpcode).map fun m => m.pcodePointer.length).sum

/-- All pages of a drive together are small. -/
theorem requestedSize_le {l : List ModePage} (h : Shaped l) (pcode subpcode : UInt8) :
    requestedSize l pcode subpcode ≤ 17 * 38 := by
  have hsub : (requestedPages l pcode subpcode).Subperm l :=
    List.subperm_of_subset (requestedPages_nodup l pcode subpcode) fun m hm => (requestedPages_mem hm).1
  have hlen : l.length ≤ 17 := by
    have hle := List.Subperm.length_le h
    rwa [List.length_map] at hle
  have hsize : ∀ s ∈ pageShapes, s.size ≤ 38 := by decide
  have hsum : requestedSize l pcode subpcode ≤ (requestedPages l pcode subpcode).length * 38 := by
    refine (List.sum_le_card_nsmul _ 38 ?_).trans_eq (by rw [List.length_map]; rfl)
    intro n hn
    obtain ⟨m, hm, rfl⟩ := List.mem_map.mp hn
    exact hsize m.shape (h.mem (requestedPages_mem hm).1)
  exact hsum.trans (Nat.mul_le_mul_right 38 (hsub.length_le.trans hlen))

/-- A request for current values. -/
def AsksCurrent (scb : Cdb) : Prop := (mode_sense_page scb).1 = 0

/-- The pages that a request finds in a drive. -/
def foundPages (d : Drive) (scb : Cdb) : List ModePage :=
  requestedPages d.mode_pg (mode_sense_page scb).2.1 (mode_sense_page scb).2.2

/-- Where the pages begin in an answer. -/
def answerStart (scb : Cdb) : ℕ := mode_sense_h_sz scb + blockDescriptorLen scb

/-- An answer says its length, and the walk of MODE SELECT goes from page to page to its end. -/
structure Readable (d : Drive) (scb : Cdb) (data : List UInt8) : Prop where
  /-- The length. -/
  length : modeDataLength scb data = data.length - lengthFieldSize scb
  /-- The walk. -/
  walks : WalksPages data (answerStart scb) ((foundPages d scb).map ModePage.pcodePointer)

/-- What must be asked for: no subpage of the control page, and in the short form no more
than its length field holds. -/
structure Plain (d : Drive) (scb : Cdb) : Prop where
  /-- No subpage of the control page. -/
  control : ∀ subpage, subpage ≠ 0 →
    (MODE_CONTROL, subpage) ∈ requestedCodes (mode_sense_page scb).2.1 (mode_sense_page scb).2.2 →
      lookup_mode_pg d.mode_pg MODE_CONTROL subpage = none
  /-- At most 256 bytes in the short form. -/
  short : scb 0 = MODE_SENSE → answerStart scb +
    requestedSize d.mode_pg (mode_sense_page scb).2.1 (mode_sense_page scb).2.2 ≤ 256

/-- The length rule fits a page unless it is a subpage of the control page. -/
theorem pageLength_shape {l : List ModePage} (h : Shaped l) {m : ModePage} (hm : m ∈ l) :
    pageLength m.byte = m.pcodePointer.length ↔ ¬(m.pcode = MODE_CONTROL ∧ m.subpcode ≠ 0) := by
  have hall : ∀ s ∈ pageShapes, s.length = s.size ↔ ¬(s.pcode = MODE_CONTROL ∧ s.subpcode ≠ 0) := by
    decide
  exact hall m.shape (h.mem hm)

/-- Bytes of the pages found, behind one another. -/
theorem foundPages_length (d : Drive) (scb : Cdb) :
    ((foundPages d scb).flatMap ModePage.pcodePointer).length =
      requestedSize d.mode_pg (mode_sense_page scb).2.1 (mode_sense_page scb).2.2 :=
  List.length_flatMap

/-- Two bytes of a number, read back. -/
theorem be16At_beBytes (n : ℕ) (rest : List UInt8) :
    be16At ((beBytes 2 n ++ rest).getD · 0) 0 = n % 65536 := by
  have hbytes : beBytes 2 n = [UInt8.ofNat (n / 256), UInt8.ofNat n] := rfl
  have hhigh : (UInt8.ofNat (n / 256)).toNat = n / 256 % 256 := UInt8.toNat_ofNat'
  have hlow : (UInt8.ofNat n).toNat = n % 256 := UInt8.toNat_ofNat'
  rw [hbytes, be16At]
  change (UInt8.ofNat (n / 256)).toNat * 256 + (UInt8.ofNat n).toNat = n % 65536
  rw [hhigh, hlow]
  omega

/-- An answer with current values: a header that begins with the length, and the pages. -/
theorem mode_sense_answer {d : Drive} {scb : Cdb} {buf : ℕ → UInt8} {data : List UInt8}
    (hpc : AsksCurrent scb) (h : spc_mode_sense d scb buf = .ok data) :
    ∃ header : List UInt8, header.length = answerStart scb ∧
      data = header ++ (foundPages d scb).flatMap ModePage.pcodePointer ∧
      modeDataLength scb data =
        if scb 0 = MODE_SENSE then (data.length - 1) % 256 else (data.length - 2) % 65536 := by
  have hpages : (requestedPages d.mode_pg (mode_sense_page scb).2.1 (mode_sense_page scb).2.2).flatMap
      (add_pcode · (mode_sense_page scb).1) = (foundPages d scb).flatMap ModePage.pcodePointer := by
    rw [hpc]
    rfl
  simp only [spc_mode_sense, hpages] at h
  rw [AsksCurrent] at hpc
  rw [if_neg (by rw [hpc]; decide)] at h
  split at h
  · cases h
  split at h
  · cases h
  injection h with h
  refine ⟨_, ?_, h.symm, ?_⟩
  · rw [List.length_append, List.length_map, List.length_range, answerStart, mode_sense_h_sz]
    split <;> simp only [List.length_append, beBytes_length, List.length_cons, List.length_nil]
  · have hlen : data.length = mode_sense_h_sz scb + blockDescriptorLen scb +
        ((foundPages d scb).flatMap ModePage.pcodePointer).length := by
      rw [← h, List.length_append, List.length_append, List.length_map, List.length_range,
        mode_sense_h_sz]
      split <;> simp only [List.length_append, beBytes_length, List.length_cons, List.length_nil]
    rw [hlen, modeDataLength, ← h]
    by_cases h6 : scb 0 = MODE_SENSE
    · simp only [if_pos h6, List.cons_append, List.getD_cons_zero]
      exact UInt8.toNat_ofNat'
    · simp only [if_neg h6, List.append_assoc]
      exact be16At_beBytes _ _

/-- An answer with current values is readable exactly when it was asked for plainly. -/
theorem readable_iff_plain {d : Drive} (hd : Shaped d.mode_pg) {scb : Cdb} {buf : ℕ → UInt8}
    {data : List UInt8} (hpc : AsksCurrent scb) (h : spc_mode_sense d scb buf = .ok data) :
    Readable d scb data ↔ Plain d scb := by
  obtain ⟨header, hheader, hdata, hlength⟩ := mode_sense_answer hpc h
  have hsize := foundPages_length d scb
  have hbound := requestedSize_le hd (mode_sense_page scb).2.1 (mode_sense_page scb).2.2
  have htotal : data.length = answerStart scb +
      requestedSize d.mode_pg (mode_sense_page scb).2.1 (mode_sense_page scb).2.2 := by
    rw [hdata, List.length_append, hheader, hsize]
  have hstart : lengthFieldSize scb ≤ answerStart scb ∧ answerStart scb ≤ 16 := by
    rw [answerStart, lengthFieldSize, mode_sense_h_sz, blockDescriptorLen]
    constructor <;> split <;> split <;> omega
  have hfour : ∀ m ∈ foundPages d scb, 4 ≤ m.pcodePointer.length := by
    intro m hm
    have hall : ∀ s ∈ pageShapes, 4 ≤ s.size := by decide
    exact hall m.shape (hd.mem (requestedPages_mem hm).1)
  have hwalk : WalksPages data (answerStart scb) ((foundPages d scb).map ModePage.pcodePointer) ↔
      ∀ m ∈ foundPages d scb, ¬(m.pcode = MODE_CONTROL ∧ m.subpcode ≠ 0) := by
    rw [hdata, ← hheader, walksPages_iff header hfour]
    exact forall₂_congr fun m hm => pageLength_shape hd (requestedPages_mem hm).1
  have hfield : modeDataLength scb data = data.length - lengthFieldSize scb ↔
      (scb 0 = MODE_SENSE → data.length ≤ 256) := by
    rw [hlength, lengthFieldSize]
    rw [lengthFieldSize] at hstart
    split
    · rename_i h6
      rw [if_pos h6] at hstart
      simp only [h6, forall_const]
      omega
    · rename_i h6
      rw [if_neg h6] at hstart
      refine iff_of_true ?_ (fun hc => absurd hc h6)
      omega
  have hcontrol : (∀ m ∈ foundPages d scb, ¬(m.pcode = MODE_CONTROL ∧ m.subpcode ≠ 0)) ↔
      ∀ subpage, subpage ≠ 0 →
        (MODE_CONTROL, subpage) ∈ requestedCodes (mode_sense_page scb).2.1 (mode_sense_page scb).2.2 →
          lookup_mode_pg d.mode_pg MODE_CONTROL subpage = none := by
    constructor
    · intro hall subpage hne hasked
      cases hl : lookup_mode_pg d.mode_pg MODE_CONTROL subpage with
      | none => rfl
      | some m =>
        obtain ⟨-, hp, hs⟩ := lookup_shape hl
        refine absurd ⟨hp, hs.trans_ne hne⟩ (hall m ?_)
        exact List.mem_filterMap.mpr ⟨_, hasked, hl⟩
    · rintro hall m hm ⟨hp, hs⟩
      obtain ⟨c, hc, hl⟩ := List.mem_filterMap.mp hm
      obtain ⟨-, hp', hs'⟩ := lookup_shape hl
      have hcode : c = (MODE_CONTROL, m.subpcode) := Prod.ext (hp'.symm.trans hp) hs'.symm
      subst hcode
      exact absurd (hl.symm.trans (hall m.subpcode hs hc)) nofun
  constructor
  · intro hr
    exact ⟨hcontrol.mp (hwalk.mp hr.walks), htotal ▸ hfield.mp hr.length⟩
  · intro hp
    exact ⟨hfield.mpr (htotal ▸ hp.short), hwalk.mpr (hcontrol.mpr hp.control)⟩

/-- A page that MODE SELECT handles. -/
def Handled (page subpage : UInt8) : Prop :=
  (page, subpage) ∈ [(MODE_DATA_COMPRESSION, 0), (MODE_DEVICE_CONFIGURATION, 0),
    (MODE_DEVICE_CONFIGURATION, 1), (MODE_CONTROL, 0), (MODE_CONTROL, 0xf0), (MODE_MEDIUM_PARTITION, 0)]

/-- A MODE SELECT that sends a page back as it is, and nothing but it. The block descriptor
is left out or is the one in place. -/
structure SendsBack (d : Drive) (m : ModePage) (cdb : Cdb) (buf : ℕ → UInt8) : Prop where
  /-- PF is set. -/
  format : cdb 1 &&& 0x10 ≠ 0
  /-- SP is clear. -/
  current : ¬SavesPages cdb
  /-- The block descriptor. -/
  descriptor : (described d cdb buf).modeBlockDescriptor = d.modeBlockDescriptor
  /-- The page ends the list. -/
  length : parameterLength cdb = pagesStart cdb buf + m.pcodePointer.length
  /-- The page. -/
  page : ∀ j < m.pcodePointer.length, pageAt buf (pagesStart cdb buf) j = m.byte j

/-- It returns GOOD, and the settings are as before. -/
def Unchanged (d : Drive) (cdb : Cdb) (buf : ℕ → UInt8) : Prop :=
  ∃ r, ssc_mode_select d cdb buf = some r ∧ r.good = true ∧ SameSettings d r.drive

/-- Either compression page says that compression is on. -/
def Compresses (d : Drive) : Prop :=
  (∃ m, lookup_mode_pg d.mode_pg MODE_DATA_COMPRESSION 0 = some m ∧ m.byte 2 &&& 0x80 ≠ 0) ∨
    ∃ m, lookup_mode_pg d.mode_pg MODE_DEVICE_CONFIGURATION 0 = some m ∧ m.byte 14 ≠ 0

/-- What must hold of a page and the drive: a device configuration page with a zero for the
compression does not switch it off, and a medium partition page has the number of partitions
of the medium, no more than the page has room for. -/
structure StaysPut (d : Drive) (m : ModePage) : Prop where
  /-- Compression. -/
  configuration : m.pcode = MODE_DEVICE_CONFIGURATION → m.byte 14 = 0 → ¬Compresses d
  /-- Partitions. -/
  partitions : m.pcode = MODE_MEDIUM_PARTITION → askedPartitions m.byte ≤ MAX_PARTITIONS ∧
    d.cart.mam.num_partitions = askedPartitions m.byte

/-- Switching compression to what it is. -/
theorem compress_self {d : Drive} (h : PagesSound d) {on : Bool} (hon : CompressionIs d on) :
    d.compress on = d := by
  have hfirst : modify_mode_pg d.mode_pg MODE_DATA_COMPRESSION 0 (fun m =>
      m.setByte 2 ((compressEdit d on).1 (m.byte 2))) = d.mode_pg := by
    refine modify_self fun m hm => ?_
    have hsize := h.shaped.compression_size (Or.inl rfl) hm
    have hbit := hon.compression m hm
    have hbyte : (compressEdit d on).1 (m.byte 2) = m.byte 2 := by
      cases on with
      | true => exact or_high_bit_self _ (hbit.mpr rfl)
      | false => exact and_low_bits_self _ (not_not.mp fun hc => absurd (hbit.mp hc) nofun)
    rw [hbyte]
    exact m.setByte_self (by omega)
  have hpages : (d.compress on).mode_pg = d.mode_pg := by
    rw [compress_mode_pg, hfirst]
    refine modify_self fun m hm => ?_
    have hsize := h.shaped.compression_size (Or.inr rfl) hm
    have hbyte : (compressEdit d on).2 = m.byte 14 := by
      rw [hon.configuration m hm]
      cases on <;> rfl
    rw [hbyte]
    exact m.setByte_self (by omega)
  have heta : d.compress on = { d with mode_pg := (d.compress on).mode_pg } := rfl
  rw [heta, hpages]

/-- Switching compression off is noticed when it is on. -/
theorem compress_off_iff {d : Drive} (h : PagesSound d) :
    SameSettings d (d.compress false) ↔ ¬Compresses d := by
  constructor
  · intro hs hc
    have hpages : ((d.compress false).report Status.good).mode_pg = (d.report Status.good).mode_pg :=
      congrArg Drive.mode_pg hs
    change (d.compress false).mode_pg = d.mode_pg at hpages
    have hoff := compress_is h.shaped false
    rcases hc with ⟨m, hm, hne⟩ | ⟨m, hm, hne⟩
    · exact absurd ((hoff.compression m (hpages ▸ hm)).mp hne) nofun
    · exact hne (hoff.configuration m (hpages ▸ hm))
  · intro hn
    have hoff : CompressionIs d false := by
      refine ⟨fun m hm => ?_, fun m hm => ?_⟩
      · exact iff_of_false (fun hc => hn (Or.inl ⟨m, hm, hc⟩)) nofun
      · exact not_not.mp fun hc => hn (Or.inr ⟨m, hm, hc⟩)
    rw [compress_self h hoff]
    rfl

/-- A page that is applied and leaves the settings as they are. -/
def AppliedSame (d : Drive) (p : ℕ → UInt8) : Prop := ∃ d', applyPage d p = some d' ∧ SameSettings d d'

/-- Nothing is said of other pages. -/
theorem staysPut_other {d : Drive} {m : ModePage} {page subpage : UInt8}
    (hm : lookup_mode_pg d.mode_pg page subpage = some m)
    (h : page ≠ MODE_DEVICE_CONFIGURATION ∧ page ≠ MODE_MEDIUM_PARTITION) : StaysPut d m := by
  obtain ⟨-, hp, -⟩ := lookup_shape hm
  exact ⟨fun hc => absurd (hp.symm.trans hc) h.1, fun hc => absurd (hp.symm.trans hc) h.2⟩

/-- The data compression page. -/
theorem appliedSame_compression {d : Drive} (h : PagesSound d) {m : ModePage} {p : ℕ → UInt8}
    (hm : lookup_mode_pg d.mode_pg MODE_DATA_COMPRESSION 0 = some m)
    (hp : ∀ j < m.pcodePointer.length, p j = m.byte j) : AppliedSame d p := by
  have hshape : m.shape = ⟨MODE_DATA_COMPRESSION, 0, 16, 16, 0x0f, 0x0e⟩ := h.shaped.found hm (by decide)
  have hsize : m.pcodePointer.length = 16 := congrArg PageShape.size hshape
  have h0 : p 0 = MODE_DATA_COMPRESSION :=
    (hp 0 (by omega)).trans (congrArg PageShape.byte0 hshape)
  have h1 : p 1 = 0x0e := (hp 1 (by omega)).trans (congrArg PageShape.byte1 hshape)
  obtain ⟨on, hon⟩ := h.compression
  have hbit : decide (p 2 &&& 0x80 ≠ 0) = on := by
    have hbit := hon.compression m hm
    rw [hp 2 (by omega)]
    cases on with
    | true => exact decide_eq_true (hbit.mpr rfl)
    | false => exact decide_eq_false fun hc => absurd (hbit.mp hc) nofun
  refine ⟨d, ?_, rfl⟩
  simp only [applyPage, if_pos h0, if_pos h1, set_mode_compression, hbit, compress_self h hon]

/-- The device configuration pages. -/
theorem appliedSame_configuration {d : Drive} (h : PagesSound d) {m : ModePage} {p : ℕ → UInt8}
    {subpage : UInt8} (hsub : subpage = 0 ∨ subpage = 1)
    (hm : lookup_mode_pg d.mode_pg MODE_DEVICE_CONFIGURATION subpage = some m)
    (hp : ∀ j < m.pcodePointer.length, p j = m.byte j) : AppliedSame d p ↔ StaysPut d m := by
  obtain ⟨hmem, hpc, hsp⟩ := lookup_shape hm
  have hall : ∀ s ∈ pageShapes, s.pcode = MODE_DEVICE_CONFIGURATION → 16 ≤ s.size ∧
      s.byte0 = MODE_DEVICE_CONFIGURATION ∧ s.byte1 ≠ 1 ∧ 0x0e ≤ s.byte1 := by decide
  obtain ⟨hsize, hb0, hb1, hle⟩ := hall m.shape (h.shaped.mem hmem) hpc
  have hsize : 16 ≤ m.pcodePointer.length := hsize
  have h0 : p 0 = MODE_DEVICE_CONFIGURATION := (hp 0 (by omega)).trans hb0
  have hne0 : ¬p 0 = MODE_DATA_COMPRESSION := by
    rw [h0]
    decide
  have h1 : p 1 = m.shape.byte1 := hp 1 (by omega)
  have happ : applyPage d p = some (d.compress (decide (m.byte 14 ≠ 0))) := by
    simp only [applyPage, if_neg hne0, if_pos h0, if_neg (h1 ▸ hb1), if_pos (h1 ▸ hle),
      set_device_configuration, hp 14 (by omega)]
  have hput : StaysPut d m ↔ (m.byte 14 = 0 → ¬Compresses d) := by
    constructor
    · exact fun hs => hs.configuration hpc
    · refine fun hc => ⟨fun _ => hc, fun hx => ?_⟩
      rw [hpc] at hx
      exact absurd hx (by decide)
  have hsame : AppliedSame d p ↔ SameSettings d (d.compress (decide (m.byte 14 ≠ 0))) := by
    constructor
    · rintro ⟨d', ha, hs⟩
      rw [happ] at ha
      cases ha
      exact hs
    · exact fun hs => ⟨_, happ, hs⟩
  rw [hput, hsame]
  by_cases hz : m.byte 14 = 0
  · rw [hz, decide_eq_false (not_not.mpr rfl), compress_off_iff h]
    exact ⟨fun hn _ => hn, fun hn => hn rfl⟩
  · refine iff_of_true ?_ (fun hc => absurd hc hz)
    have hzero : subpage = 0 := by
      rcases hsub with hs | hs
      · exact hs
      · subst hs
        exact absurd (h.extension m hm) hz
    subst hzero
    obtain ⟨on, hon⟩ := h.compression
    have hval := hon.configuration m hm
    cases on with
    | false => exact absurd hval hz
    | true =>
      rw [decide_eq_true hz, compress_self h hon]
      rfl

/-- The control page. -/
theorem appliedSame_control {d : Drive} (h : PagesSound d) {m : ModePage} {p : ℕ → UInt8}
    (hm : lookup_mode_pg d.mode_pg MODE_CONTROL 0 = some m)
    (hp : ∀ j < m.pcodePointer.length, p j = m.byte j) : AppliedSame d p := by
  have hshape : m.shape = ⟨MODE_CONTROL, 0, 12, 12, 0x0a, 0x0a⟩ := h.shaped.found hm (by decide)
  have hsize : m.pcodePointer.length = 12 := congrArg PageShape.size hshape
  have h0 : p 0 = MODE_CONTROL := (hp 0 (by omega)).trans (congrArg PageShape.byte0 hshape)
  have h1 : p 1 = 0x0a := (hp 1 (by omega)).trans (congrArg PageShape.byte1 hshape)
  have hne : ¬p 0 = MODE_DATA_COMPRESSION ∧ ¬p 0 = MODE_DEVICE_CONFIGURATION := by
    rw [h0]
    decide
  refine ⟨d, ?_, rfl⟩
  simp only [applyPage, if_neg hne.1, if_neg hne.2, if_pos h0, if_pos h1]

/-- The data protection page. -/
theorem appliedSame_protection {d : Drive} (h : PagesSound d) {m : ModePage} {p : ℕ → UInt8}
    (hm : lookup_mode_pg d.mode_pg MODE_CONTROL 0xf0 = some m)
    (hp : ∀ j < m.pcodePointer.length, p j = m.byte j) : AppliedSame d p := by
  have hshape : m.shape = ⟨MODE_CONTROL, 0xf0, 30, 32, 0x0a, 0xf0⟩ := h.shaped.found hm (by decide)
  have hsize : m.pcodePointer.length = 30 := congrArg PageShape.size hshape
  have h0 : p 0 = MODE_CONTROL := (hp 0 (by omega)).trans (congrArg PageShape.byte0 hshape)
  have h1 : p 1 = 0xf0 := (hp 1 (by omega)).trans (congrArg PageShape.byte1 hshape)
  have hne : ¬p 0 = MODE_DATA_COMPRESSION ∧ ¬p 0 = MODE_DEVICE_CONFIGURATION := by
    rw [h0]
    decide
  have hne1 : ¬p 1 = 0x0a := by
    rw [h1]
    decide
  have hprot := h.protection m hm
  have hpages : modify_mode_pg d.mode_pg MODE_CONTROL 0xf0
      (fun m' => ((m'.setByte 4 (m.byte 4)).setByte 5 (m.byte 5)).setByte 6 (m.byte 6)) = d.mode_pg := by
    refine modify_self fun m' hm' => ?_
    rw [hm, Option.some.injEq] at hm'
    subst hm'
    rw [m.setByte_self (by omega), m.setByte_self (by omega), m.setByte_self (by omega)]
  have hupdate : update_logical_block_protection d p = d := by
    simp only [update_logical_block_protection, hm, hp 4 (by omega), hp 5 (by omega), hp 6 (by omega),
      hpages, ← hprot.method, ← hprot.read, ← hprot.write]
  refine ⟨d, ?_, rfl⟩
  simp only [applyPage, if_neg hne.1, if_neg hne.2, if_pos h0, if_neg hne1, if_pos h1, set_lbp,
    if_pos hprot.supported, hupdate, if_true]

/-- A byte pair put together and taken apart. -/
theorem setBe16_self (m : ModePage) {i : ℕ} (h : i + 1 < m.pcodePointer.length) :
    m.setBe16 i (m.be16 i) = m := by
  have hlow := (m.byte (i + 1)).toNat_lt
  have hdiv : m.be16 i / 256 = (m.byte i).toNat := by
    rw [ModePage.be16]
    omega
  have hhigh : UInt8.ofNat (m.be16 i / 256) = m.byte i := by
    rw [hdiv]
    exact UInt8.ofNat_toNat
  have hsecond : UInt8.ofNat (m.be16 i) = m.byte (i + 1) := by
    apply UInt8.toNat_inj.mp
    rw [UInt8.toNat_ofNat', ModePage.be16]
    omega
  rw [ModePage.setBe16, hhigh, hsecond, m.setByte_self (by omega), m.setByte_self h]

/-- A page that takes over its own bytes. -/
theorem takePartitions_self {m : ModePage} {p : ℕ → UInt8} (hsize : m.pcodePointer.length = 16)
    (hp : ∀ j < 16, p j = m.byte j) (hn : askedPartitions p ≤ MAX_PARTITIONS) :
    m.takePartitions p = m := by
  have hflags : (((m.setByte 3 (p 3)).setByte 4 (p 4)).setByte 5 (p 5)).setByte 6 (p 6) = m := by
    rw [hp 3 (by omega), hp 4 (by omega), hp 5 (by omega), hp 6 (by omega), m.setByte_self (by omega),
      m.setByte_self (by omega), m.setByte_self (by omega), m.setByte_self (by omega)]
  have hfold : ∀ l : List ℕ, (∀ k ∈ l, k < MAX_PARTITIONS) →
      l.foldl (fun m k => m.setBe16 (8 + 2 * k) (be16At p (8 + 2 * k))) m = m := by
    intro l hl
    induction l with
    | nil => rfl
    | cons k l ih =>
      rw [List.forall_mem_cons] at hl
      have hk : k < 4 := hl.1
      have hbe : be16At p (8 + 2 * k) = m.be16 (8 + 2 * k) := by
        rw [be16At, ModePage.be16, hp _ (by omega), hp _ (by omega)]
      rw [List.foldl_cons, hbe, setBe16_self m (by omega), ih hl.2]
  dsimp only [ModePage.takePartitions]
  rw [hflags]
  exact hfold _ fun k hk => Nat.lt_of_lt_of_le (List.mem_range.mp hk) hn

/-- Storing the number of partitions that is there. -/
theorem putByte_num_partitions (m : Mam) :
    m.putByte .num_partitions (m.byte .num_partitions) = m := by
  have hval : (m.putByte .num_partitions (m.byte .num_partitions)).val = m.val := by
    funext f i
    by_cases hf : f = .num_partitions
    · subst hf
      obtain ⟨i, hi⟩ := i
      have hzero : i = 0 := Nat.lt_one_iff.mp hi
      subst hzero
      rfl
    · exact if_neg hf
  have heta : m.putByte .num_partitions (m.byte .num_partitions) =
      { m with val := (m.putByte .num_partitions (m.byte .num_partitions)).val } := rfl
  rw [heta, hval]

/-- The medium partition page. -/
theorem appliedSame_partition {d : Drive} (h : PagesSound d) {m : ModePage} {p : ℕ → UInt8}
    (hm : lookup_mode_pg d.mode_pg MODE_MEDIUM_PARTITION 0 = some m)
    (hp : ∀ j < m.pcodePointer.length, p j = m.byte j) : AppliedSame d p ↔ StaysPut d m := by
  obtain ⟨-, hpc, -⟩ := lookup_shape hm
  have hshape : m.shape = ⟨MODE_MEDIUM_PARTITION, 0, 16, 16, 0x11, 0x0e⟩ := h.shaped.found hm (by decide)
  have hsize : m.pcodePointer.length = 16 := congrArg PageShape.size hshape
  rw [hsize] at hp
  have h0 : p 0 = MODE_MEDIUM_PARTITION := (hp 0 (by omega)).trans (congrArg PageShape.byte0 hshape)
  have hne : ¬p 0 = MODE_DATA_COMPRESSION ∧ ¬p 0 = MODE_DEVICE_CONFIGURATION ∧ ¬p 0 = MODE_CONTROL := by
    rw [h0]
    decide
  have hasked : askedPartitions p = askedPartitions m.byte := by
    rw [askedPartitions, askedPartitions, hp 3 (by omega)]
  have happ : applyPage d p = set_medium_partition d p := by
    simp only [applyPage, if_neg hne.1, if_neg hne.2.1, if_neg hne.2.2, if_pos h0]
  have hput : StaysPut d m ↔ askedPartitions m.byte ≤ MAX_PARTITIONS ∧
      d.cart.mam.num_partitions = askedPartitions m.byte := by
    constructor
    · exact fun hs => hs.partitions hpc
    · refine fun hc => ⟨fun hx => ?_, fun _ => hc⟩
      rw [hpc] at hx
      exact absurd hx (by decide)
  have hfound : ¬lookup_mode_pg d.mode_pg MODE_MEDIUM_PARTITION 0 = none := by
    rw [hm]
    exact Option.some_ne_none m
  rw [hput, AppliedSame, happ, set_medium_partition, if_neg hfound]
  by_cases hmany : MAX_PARTITIONS < askedPartitions p
  · rw [if_pos hmany]
    rw [hasked] at hmany
    refine iff_of_false ?_ fun hc => absurd hc.1 (Nat.not_le_of_lt hmany)
    rintro ⟨d', hd', -⟩
    cases hd'
  · have hle : askedPartitions p ≤ MAX_PARTITIONS := Nat.le_of_not_lt hmany
    have hpages : modify_mode_pg d.mode_pg MODE_MEDIUM_PARTITION 0 (·.takePartitions p) = d.mode_pg := by
      refine modify_self fun m' hm' => ?_
      rw [hm, Option.some.injEq] at hm'
      subst hm'
      exact takePartitions_self hsize hp hle
    have hlt : askedPartitions p < 256 := Nat.mod_lt _ (by decide)
    rw [if_neg hmany]
    constructor
    · rintro ⟨d', hd', hs⟩
      cases hd'
      have hmam : (d.cart.mam.putByte .num_partitions (UInt8.ofNat (askedPartitions p))) = d.cart.mam :=
        congrArg (fun e => e.cart.mam) hs
      refine ⟨hasked ▸ hle, ?_⟩
      rw [← hasked, ← hmam, Mam.num_partitions, Mam.byte_putByte _ _ rfl, UInt8.toNat_ofNat_of_lt' hlt]
    · rintro ⟨-, hnum⟩
      refine ⟨_, rfl, ?_⟩
      have hbyte : UInt8.ofNat (askedPartitions p) = d.cart.mam.byte .num_partitions := by
        rw [hasked, ← hnum]
        exact UInt8.ofNat_toNat
      dsimp only [Drive.setMam]
      rw [hpages, hbyte, putByte_num_partitions]
      rfl

/-- A page that MODE SELECT handles is applied and changes nothing exactly when it stays put. -/
theorem appliedSame_iff {d : Drive} (h : PagesSound d) {page subpage : UInt8}
    (hh : Handled page subpage) {m : ModePage} {p : ℕ → UInt8}
    (hm : lookup_mode_pg d.mode_pg page subpage = some m)
    (hp : ∀ j < m.pcodePointer.length, p j = m.byte j) : AppliedSame d p ↔ StaysPut d m := by
  simp only [Handled, List.mem_cons, Prod.mk.injEq, List.not_mem_nil, or_false] at hh
  rcases hh with ⟨rfl, rfl⟩ | ⟨rfl, rfl⟩ | ⟨rfl, rfl⟩ | ⟨rfl, rfl⟩ | ⟨rfl, rfl⟩ | ⟨rfl, rfl⟩
  · exact iff_of_true (appliedSame_compression h hm hp) (staysPut_other hm (by decide))
  · exact appliedSame_configuration h (Or.inl rfl) hm hp
  · exact appliedSame_configuration h (Or.inr rfl) hm hp
  · exact iff_of_true (appliedSame_control h hm hp) (staysPut_other hm (by decide))
  · exact iff_of_true (appliedSame_protection h hm hp) (staysPut_other hm (by decide))
  · exact appliedSame_partition h hm hp

/-- The walk of MODE SELECT over one page. -/
theorem selectPages_single {d : Drive} {buf : ℕ → UInt8} {count i rounds : ℕ} (hi : i < count)
    (hl : ¬EndsWalk (pageAt buf i) → count ≤ i + pageLength (pageAt buf i))
    (hover : ¬PassedOver (pageAt buf i)) (e : Drive) :
    (∃ r, selectPages buf count (rounds + 2) i 0 d = some r ∧ r.good = true ∧ SameSettings e r.drive) ↔
      ∃ d', applyPage d (pageAt buf i) = some d' ∧ SameSettings e d' := by
  rw [selectPages, if_neg (Nat.not_le_of_lt hi)]
  have hcase := selectPage_case d (pageAt buf i) i
  dsimp only
  generalize selectPage d (pageAt buf i) i = res at hcase ⊢
  cases hcase with
  | passed hp => exact absurd hp hover
  | next d' ha hp he =>
    simp only [selectPages, if_pos (hl he), ha, Option.some.injEq, exists_eq_left', true_and]
    rfl
  | done d' ha hp he =>
    simp only [ha, Option.some.injEq, exists_eq_left', true_and]
    rfl
  | refused s ha hp hm =>
    simp only [ha, Option.some.injEq, exists_eq_left', Bool.false_eq_true, false_and, reduceCtorEq,
      exists_false]
  | lost ha hp hm =>
    simp only [ha, reduceCtorEq, false_and, exists_false]

/-- A page sent back is taken for what it is exactly when it stays put. -/
theorem unchanged_iff_staysPut {d : Drive} (h : PagesSound d) {page subpage : UInt8}
    (hh : Handled page subpage) {m : ModePage} (hm : lookup_mode_pg d.mode_pg page subpage = some m)
    {cdb : Cdb} {buf : ℕ → UInt8} (hs : SendsBack d m cdb buf) :
    Unchanged d cdb buf ↔ StaysPut d m := by
  obtain ⟨hmem, hpc, hsp⟩ := lookup_shape hm
  have hfour : ∀ s ∈ pageShapes, 4 ≤ s.size := by decide
  have hsize : 4 ≤ m.pcodePointer.length := hfour m.shape (h.shaped.mem hmem)
  have hbyte : ∀ j < 4, pageAt buf (pagesStart cdb buf) j = m.byte j := fun j hj => hs.page j (by omega)
  have hwrong : ¬WrongFormat cdb buf := fun hc => hs.format hc.1
  have hstart : PagesSound (described d cdb buf) := h.same rfl ⟨rfl, rfl, rfl, rfl, rfl⟩
  have hsame : SameSettings d (described d cdb buf) := by
    have heta : described d cdb buf =
        { d.declare_ssc_vars with modeBlockDescriptor := (described d cdb buf).modeBlockDescriptor } := rfl
    rw [heta, hs.descriptor]
    rfl
  have hover : ¬PassedOver (pageAt buf (pagesStart cdb buf)) := by
    rintro ⟨h0, h1, -⟩
    have hall : ∀ s ∈ pageShapes, s.byte0 = MODE_DATA_COMPRESSION → s.byte1 = 0x0e := by decide
    rw [hbyte 0 (by omega)] at h0
    rw [hbyte 1 (by omega)] at h1
    exact h1 (hall m.shape (h.shaped.mem hmem) h0)
  have hends : ¬EndsWalk (pageAt buf (pagesStart cdb buf)) →
      parameterLength cdb ≤ pagesStart cdb buf + pageLength (pageAt buf (pagesStart cdb buf)) := by
    intro hne
    rw [pageLength_congr hbyte, hs.length]
    have hctl : ¬(m.pcode = MODE_CONTROL ∧ m.subpcode ≠ 0) := by
      rintro ⟨hc, -⟩
      refine hne (Or.inl ?_)
      rw [hbyte 0 (by omega), h.shaped.byte0 hmem, hc]
    rw [(pageLength_shape h.shaped hmem).mpr hctl]
  have hlen := hs.length
  have hrounds : parameterLength cdb + 1 = parameterLength cdb - 1 + 2 := by omega
  rw [Unchanged, (ssc_mode_select_cases d cdb buf).2.2 hwrong hs.current, hrounds,
    selectPages_single (by omega) hends hover, ← show StaysPut (described d cdb buf) m ↔ StaysPut d m from
      ⟨fun hp => ⟨hp.configuration, hp.partitions⟩, fun hp => ⟨hp.configuration, hp.partitions⟩⟩,
    ← appliedSame_iff hstart hh hm hs.page, AppliedSame]
  refine exists_congr fun d' => and_congr_right fun _ => ?_
  exact ⟨fun hx => hx.trans hsame.symm, fun hx => hx.trans hsame⟩

/-- Of every answer with current values in every state of every run: it is readable exactly
when it was asked for plainly. And of every page that MODE SELECT handles: it can be sent
back exactly when it stays put. -/
theorem mode_pages_agree {L : Libs} {d : Drive} (hd : Reachable L d) :
    (∀ scb buf data, AsksCurrent scb → spc_mode_sense d scb buf = .ok data →
      (Readable d scb data ↔ Plain d scb)) ∧
    ∀ page subpage m cdb buf, Handled page subpage →
      lookup_mode_pg d.mode_pg page subpage = some m → SendsBack d m cdb buf →
        (Unchanged d cdb buf ↔ StaysPut d m) :=
  ⟨fun _ _ _ hpc h => readable_iff_plain hd.sound.shaped hpc h,
    fun _ _ _ _ _ hh hm hs => unchanged_iff_staysPut hd.sound hh hm hs⟩

/-- The drive with every mode page, as it is started. -/
def startedDrive : Drive := pagesDrive.compress true

/-- It is the state of a run of no step. -/
theorem startedDrive_reachable (L : Libs) : Reachable L startedDrive :=
  ⟨startedDrive, [], .intro pagesDrive 1 true (List.Subperm.refl _) rfl rfl rfl fun _ => by decide, .nil _⟩

/-- What is said of every state holds there. -/
theorem startedDrive_pages_agree : Reachable storedLibs startedDrive ∧
    (∀ scb buf data, AsksCurrent scb → spc_mode_sense startedDrive scb buf = .ok data →
      (Readable startedDrive scb data ↔ Plain startedDrive scb)) ∧
    ∀ page subpage m cdb buf, Handled page subpage →
      lookup_mode_pg startedDrive.mode_pg page subpage = some m → SendsBack startedDrive m cdb buf →
        (Unchanged startedDrive cdb buf ↔ StaysPut startedDrive m) :=
  ⟨startedDrive_reachable storedLibs, mode_pages_agree (startedDrive_reachable storedLibs)⟩

/-- MODE SENSE(6) for the control extension page. -/
def senseControlExtension : Cdb
  | 0 => 0x1a
  | 1 => 0x08
  | 2 => 0x0a
  | 3 => 0x01
  | 4 => 0xff
  | _ => 0

/-- MODE SELECT(6) of 36 bytes in page format. -/
def selectExtensionCdb : Cdb
  | 0 => 0x15
  | 1 => 0x10
  | 4 => 36
  | _ => 0

/-- Header, and the device configuration extension page as it is. -/
def extensionBack : ℕ → UInt8
  | 4 => 0x10
  | 5 => 0x1e
  | 9 => 0x02
  | _ => 0

/-- The walk over the control extension page does not end at its end, and the extension page,
sent back as it is, switches compression off. -/
theorem extension_pages_disagree :
    (∃ data, spc_mode_sense startedDrive senseControlExtension (fun _ => 0) = .ok data ∧
      AsksCurrent senseControlExtension ∧ ¬Readable startedDrive senseControlExtension data) ∧
    ∃ m, lookup_mode_pg startedDrive.mode_pg MODE_DEVICE_CONFIGURATION 1 = some m ∧
      SendsBack startedDrive m selectExtensionCdb extensionBack ∧
      (ssc_mode_select startedDrive selectExtensionCdb extensionBack).map
        (fun r => (r.good, r.drive.compressionFactor)) = some (true, 0) ∧
      startedDrive.compressionFactor = 1 ∧
      ¬Unchanged startedDrive selectExtensionCdb extensionBack := by
  constructor
  · refine ⟨_, rfl, rfl, fun hr => ?_⟩
    obtain ⟨-, hl, -⟩ := walksPages_cons.mp hr.walks
    exact absurd hl (by decide +kernel)
  · have hrun : (ssc_mode_select startedDrive selectExtensionCdb extensionBack).map
        (fun r => (r.good, r.drive.compressionFactor)) = some (true, 0) := by decide +kernel
    have hbefore : startedDrive.compressionFactor = 1 := by decide +kernel
    refine ⟨_, rfl, ⟨by decide, fun hc => hc (by decide), ?_, by decide +kernel, by decide +kernel⟩, hrun,
      hbefore, ?_⟩
    · have hnone : mode_block_descriptor_len selectExtensionCdb extensionBack = 0 := by decide
      refine funext fun j => ?_
      simp only [described, Drive.describe, hnone, Nat.not_lt_zero, if_false]
      rfl
    · rintro ⟨r, hr, -, hsame⟩
      rw [hr, Option.map_some, Option.some.injEq, Prod.mk.injEq] at hrun
      have hafter : (startedDrive.report r.drive.cart.status).compressionFactor = 0 := by
        rw [← hsame.eq_report]
        exact hrun.2
      rw [show (startedDrive.report r.drive.cart.status).compressionFactor = 1 from hbefore] at hafter
      exact absurd hafter (by decide)

end Mhvtl.Ssc
