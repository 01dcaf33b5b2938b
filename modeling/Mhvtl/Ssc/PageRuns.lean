import Mhvtl.Lib.Run
import Mhvtl.Ssc.ModeSense

/-!
# Mode pages over whole runs

The length of a page and the bytes that say it never change. Compression is set
in two pages that agree, and the protection settings are those of their page.
-/

namespace Mhvtl.Ssc

open Bytes Cart

/-- What of a page never changes. -/
structure PageShape where
  /-- Page code. -/
  pcode : UInt8
  /-- Subpage code. -/
  subpcode : UInt8
  /-- Number of bytes. -/
  size : ℕ
  /-- Number of bytes by the length rule of MODE SELECT. -/
  length : ℕ
  /-- First byte. -/
  byte0 : UInt8
  /-- Second byte, a length or a subpage code. -/
  byte1 : UInt8
deriving DecidableEq

/-- The shape of a page. -/
def ModePage.shape (m : ModePage) : PageShape :=
  ⟨m.pcode, m.subpcode, m.pcodePointer.length, pageLength m.byte, m.byte 0, m.byte 1⟩

/-- The shapes of all pages. -/
def pageShapes : List PageShape :=
  [⟨MODE_RW_ERROR_RECOVER, 0, 12, 12, 0x01, 0x0a⟩, ⟨MODE_DISCONNECT_RECONNECT, 0, 16, 16, 0x02, 0x0e⟩,
    ⟨MODE_CONTROL, 0, 12, 12, 0x0a, 0x0a⟩, ⟨MODE_CONTROL, 1, 30, 32, 0x0a, 1⟩,
    ⟨MODE_CONTROL, 0xf0, 30, 32, 0x0a, 0xf0⟩, ⟨MODE_DATA_COMPRESSION, 0, 16, 16, 0x0f, 0x0e⟩,
    ⟨MODE_DEVICE_CONFIGURATION, 0, 16, 16, 0x10, 0x0e⟩,
    ⟨MODE_DEVICE_CONFIGURATION, 1, 32, 32, 0x10, 0x1e⟩, ⟨MODE_MEDIUM_PARTITION, 0, 16, 16, 0x11, 0x0e⟩,
    ⟨MODE_POWER_CONDITION, 0, 38, 38, 0x1a, 0x24⟩, ⟨MODE_INFORMATION_EXCEPTION, 0, 12, 12, 0x1c, 0x0a⟩,
    ⟨MODE_MEDIUM_CONFIGURATION, 0, 32, 32, 0x1d, 0x1e⟩, ⟨MODE_VENDOR_SPECIFIC_24H, 0, 8, 8, 0x24, 6⟩,
    ⟨MODE_VENDOR_SPECIFIC_25H, 0, 32, 32, 0x25, 0x1e⟩, ⟨MODE_ENCRYPTION_MODE, 0x20, 9, 9, 0x30, 7⟩,
    ⟨MODE_AIT_DEVICE_CONFIGURATION, 0, 8, 8, 0x31, 6⟩,
    ⟨MODE_BEHAVIOR_CONFIGURATION, 0, 10, 10, 0x2f, 8⟩]

/-- The pages a drive is built with have these shapes. -/
theorem allPages_shapes (pm : Personality) (configCompressionFactor : UInt8) :
    (allPages pm configCompressionFactor).map ModePage.shape = pageShapes := by
  have hext : (add_mode_device_configuration_extension pm).shape =
      ⟨MODE_DEVICE_CONFIGURATION, 1, 32, 32, 0x10, 0x1e⟩ := by
    unfold add_mode_device_configuration_extension
    dsimp only
    split <;> split <;> decide +kernel
  have hfactor : (add_mode_device_configuration configCompressionFactor).shape =
      ⟨MODE_DEVICE_CONFIGURATION, 0, 16, 16, 0x10, 0x0e⟩ := rfl
  rw [allPages]
  simp only [List.map_cons, List.map_nil, hext, hfactor]
  decide +kernel

/-- Bytes that do not belong to the shape of a page. -/
def FreeByte (m : ModePage) (i : ℕ) : Prop :=
  4 ≤ i ∨ 2 ≤ i ∧ m.byte 0 ≠ MODE_CONTROL ∧ m.byte 0 ≠ MODE_DEVICE_CONFIGURATION

/-- Replacing such a byte keeps the shape. -/
theorem setByte_shape {m : ModePage} {i : ℕ} (h : FreeByte m i) (b : UInt8) :
    (m.setByte i b).shape = m.shape := by
  have h0 : (m.setByte i b).byte 0 = m.byte 0 := m.setByte_byte_other (by rcases h with h | h <;> omega) b
  have h1 : (m.setByte i b).byte 1 = m.byte 1 := m.setByte_byte_other (by rcases h with h | h <;> omega) b
  have hlen : pageLength (m.setByte i b).byte = pageLength m.byte := by
    rcases h with h | ⟨h, hc, hd⟩
    · have h2 : (m.setByte i b).byte 2 = m.byte 2 := m.setByte_byte_other (by omega) b
      have h3 : (m.setByte i b).byte 3 = m.byte 3 := m.setByte_byte_other (by omega) b
      simp only [pageLength, be16At, h0, h1, h2, h3]
    · have hn : ¬(m.byte 0 = MODE_DEVICE_CONFIGURATION ∧ m.byte 1 = 1 ∨
          m.byte 0 = MODE_CONTROL ∧ m.byte 1 ≠ 0x0a) := by
        rintro (hx | hx)
        · exact hd hx.1
        · exact hc hx.1
      simp only [pageLength, h0, h1, if_neg hn]
  rw [ModePage.shape, ModePage.shape, h0, h1, hlen, ModePage.setByte_length, ModePage.setByte_pcode,
    ModePage.setByte_subpcode]

/-- A change that keeps the shape of the page it finds keeps all shapes. -/
theorem modify_shapes {l : List ModePage} {page subpage : UInt8} {f : ModePage → ModePage}
    (hf : ∀ m ∈ l, m.pcode = page → m.subpcode = subpage → (f m).shape = m.shape) :
    (modify_mode_pg l page subpage f).map ModePage.shape = l.map ModePage.shape := by
  induction l with
  | nil => rfl
  | cons m l ih =>
    rw [modify_mode_pg]
    by_cases h : m.pcode = page ∧ m.subpcode = subpage
    · rw [if_pos h, List.map_cons, List.map_cons, hf m List.mem_cons_self h.1 h.2]
    · rw [if_neg h, List.map_cons, List.map_cons, ih fun m' hm' => hf m' (List.mem_cons_of_mem _ hm')]

/-- A change that leaves the page it finds as it is. -/
theorem modify_self {l : List ModePage} {page subpage : UInt8} {f : ModePage → ModePage}
    (hf : ∀ m, lookup_mode_pg l page subpage = some m → f m = m) :
    modify_mode_pg l page subpage f = l := by
  induction l with
  | nil => rfl
  | cons m l ih =>
    rw [modify_mode_pg]
    by_cases h : m.pcode = page ∧ m.subpcode = subpage
    · rw [if_pos h, hf m (by rw [lookup_cons, if_pos h])]
    · rw [if_neg h, ih fun m' hm' => hf m' (by rw [lookup_cons, if_neg h, hm'])]

/-- Nothing is found under codes that no page has. -/
theorem lookup_shape {l : List ModePage} {page subpage : UInt8} {m : ModePage}
    (h : lookup_mode_pg l page subpage = some m) : m ∈ l ∧ m.pcode = page ∧ m.subpcode = subpage := by
  have hp := List.find?_some h
  exact ⟨List.mem_of_find?_eq_some h, of_decide_eq_true hp⟩

/-- Shapes that the pages of a drive may have. -/
def Shaped (l : List ModePage) : Prop := (l.map ModePage.shape).Subperm pageShapes

/-- Every page has one of the shapes. -/
theorem Shaped.mem {l : List ModePage} (h : Shaped l) {m : ModePage} (hm : m ∈ l) :
    m.shape ∈ pageShapes := h.subset (List.mem_map_of_mem hm)

/-- The first byte of a page is its code. -/
theorem Shaped.byte0 {l : List ModePage} (h : Shaped l) {m : ModePage} (hm : m ∈ l) :
    m.byte 0 = m.pcode := by
  have hall : ∀ s ∈ pageShapes, s.byte0 = s.pcode := by decide
  exact hall m.shape (h.mem hm)

/-- The page under given codes has their shape. -/
theorem Shaped.found {l : List ModePage} (h : Shaped l) {m : ModePage} {page subpage : UInt8}
    (hm : lookup_mode_pg l page subpage = some m) {s : PageShape}
    (hs : ∀ t ∈ pageShapes, t.pcode = page → t.subpcode = subpage → t = s) : m.shape = s := by
  obtain ⟨hmem, hp, hsp⟩ := lookup_shape hm
  exact hs m.shape (h.mem hmem) hp hsp

/-- A change that keeps the shape of a page with the given code. -/
def KeepsShape (page : UInt8) (f : ModePage → ModePage) : Prop :=
  ∀ m, m.pcode = page → m.byte 0 = m.pcode → (f m).shape = m.shape

/-- Replacing a byte behind the length. -/
theorem keepsShape_setByte {page : UInt8} {i : ℕ}
    (h : 4 ≤ i ∨ 2 ≤ i ∧ page ≠ MODE_CONTROL ∧ page ≠ MODE_DEVICE_CONFIGURATION)
    (b : ModePage → UInt8) : KeepsShape page fun m => m.setByte i (b m) := by
  intro m hp h0
  refine setByte_shape ?_ _
  rw [FreeByte, h0, hp]
  exact h

/-- One change after another. -/
theorem KeepsShape.comp {page : UInt8} {f g : ModePage → ModePage} (hf : KeepsShape page f)
    (hg : KeepsShape page g) : KeepsShape page fun m => g (f m) := by
  intro m hp h0
  have hs := hf m hp h0
  have hp' : (f m).pcode = page := (congrArg PageShape.pcode hs).trans hp
  have h0' : (f m).byte 0 = (f m).pcode :=
    (congrArg PageShape.byte0 hs).trans (h0.trans (congrArg PageShape.pcode hs).symm)
  exact (hg (f m) hp' h0').trans hs

/-- Such a change keeps the shapes of the drive. -/
theorem KeepsShape.shapes {l : List ModePage} {page subpage : UInt8} {f : ModePage → ModePage}
    (hf : KeepsShape page f) (h : Shaped l) :
    (modify_mode_pg l page subpage f).map ModePage.shape = l.map ModePage.shape :=
  modify_shapes fun m hm hp _ => hf m hp (h.byte0 hm)

/-- Replacing two bytes behind the length. -/
theorem keepsShape_setBe16 {page : UInt8} {i : ℕ} (h : 4 ≤ i) (n : ℕ) :
    KeepsShape page fun m => m.setBe16 i n :=
  (keepsShape_setByte (Or.inl h) fun _ => UInt8.ofNat (n / 256)).comp
    (keepsShape_setByte (Or.inl (by omega)) fun _ => UInt8.ofNat n)

/-- Taking over partitions keeps the shape. -/
theorem keepsShape_takePartitions (p : ℕ → UInt8) :
    KeepsShape MODE_MEDIUM_PARTITION (·.takePartitions p) := by
  have hflags : KeepsShape MODE_MEDIUM_PARTITION fun m =>
      (((m.setByte 3 (p 3)).setByte 4 (p 4)).setByte 5 (p 5)).setByte 6 (p 6) := by
    refine KeepsShape.comp ?_ (keepsShape_setByte (Or.inl (by omega)) fun _ => p 6)
    refine KeepsShape.comp ?_ (keepsShape_setByte (Or.inl (by omega)) fun _ => p 5)
    refine KeepsShape.comp ?_ (keepsShape_setByte (Or.inl (by omega)) fun _ => p 4)
    exact keepsShape_setByte (Or.inr ⟨by omega, by decide, by decide⟩) fun _ => p 3
  have hsizes : ∀ l : List ℕ, KeepsShape MODE_MEDIUM_PARTITION fun m =>
      l.foldl (fun m k => m.setBe16 (8 + 2 * k) (be16At p (8 + 2 * k))) m := by
    intro l
    induction l with
    | nil => exact fun _ _ _ => rfl
    | cons k l ih => exact (keepsShape_setBe16 (by omega) _).comp ih
  exact hflags.comp (hsizes _)

/-- A change of pages that hold no setting of MODE SELECT. -/
structure KeepsSettings (l l' : List ModePage) : Prop where
  /-- The shapes are kept. -/
  shapes : l'.map ModePage.shape = l.map ModePage.shape
  /-- The pages that hold settings are kept. -/
  lookup : ∀ page subpage,
    page = MODE_DATA_COMPRESSION ∨ page = MODE_DEVICE_CONFIGURATION ∨ page = MODE_CONTROL →
      lookup_mode_pg l' page subpage = lookup_mode_pg l page subpage

/-- Nothing is changed. -/
theorem KeepsSettings.refl (l : List ModePage) : KeepsSettings l l := ⟨rfl, fun _ _ _ => rfl⟩

/-- One change after another. -/
theorem KeepsSettings.trans {l₁ l₂ l₃ : List ModePage} (h : KeepsSettings l₁ l₂)
    (h' : KeepsSettings l₂ l₃) : KeepsSettings l₁ l₃ :=
  ⟨h'.shapes.trans h.shapes,
    fun page subpage hp => (h'.lookup page subpage hp).trans (h.lookup page subpage hp)⟩

/-- A change that keeps settings keeps the drive well shaped. -/
theorem KeepsSettings.shaped {l l' : List ModePage} (h : KeepsSettings l l') (hl : Shaped l) :
    Shaped l' := by
  rw [Shaped, h.shapes]
  exact hl

/-- A page that holds no setting is changed. -/
theorem keepsSettings_modify {l : List ModePage} {page subpage : UInt8} {f : ModePage → ModePage}
    (hl : Shaped l) (hf : KeepsShape page f) (hc : KeepsCodes f)
    (hp : page ≠ MODE_DATA_COMPRESSION ∧ page ≠ MODE_DEVICE_CONFIGURATION ∧ page ≠ MODE_CONTROL) :
    KeepsSettings l (modify_mode_pg l page subpage f) := by
  refine ⟨hf.shapes hl, fun a b ha => lookup_modify_other l hc ?_⟩
  rintro ⟨rfl, -⟩
  rcases ha with ha | ha | ha
  · exact hp.1 ha
  · exact hp.2.1 ha
  · exact hp.2.2 ha

/-- Compression is on, or off, in both pages that say so. -/
structure CompressionIs (d : Drive) (on : Bool) : Prop where
  /-- The data compression page. -/
  compression : ∀ m, lookup_mode_pg d.mode_pg MODE_DATA_COMPRESSION 0 = some m →
    (m.byte 2 &&& 0x80 ≠ 0 ↔ on = true)
  /-- The device configuration page. -/
  configuration : ∀ m, lookup_mode_pg d.mode_pg MODE_DEVICE_CONFIGURATION 0 = some m →
    m.byte 14 = if on then d.configCompressionFactor else MHVTL_NO_COMPRESSION

/-- The protection settings are those of their page, which drives with protection have. -/
structure ProtectionIs (d : Drive) (m : ModePage) : Prop where
  /-- The drive has logical block protection. -/
  supported : d.pm.drive_supports_LBP ≠ 0
  /-- Method. -/
  method : d.LBP_method = (m.byte 4 &&& 0x03).toNat
  /-- Reads. -/
  read : d.LBP_R = decide (m.byte 6 &&& 0x40 ≠ 0)
  /-- Writes. -/
  write : d.LBP_W = decide (m.byte 6 &&& 0x80 ≠ 0)

/-- What holds of the mode pages of a drive at any time. -/
structure PagesSound (d : Drive) : Prop where
  /-- The pages are well shaped. -/
  shaped : Shaped d.mode_pg
  /-- Compression is on or off. -/
  compression : ∃ on, CompressionIs d on
  /-- The extension page has a zero where the configuration page has the compression. -/
  extension : ∀ m, lookup_mode_pg d.mode_pg MODE_DEVICE_CONFIGURATION 1 = some m → m.byte 14 = 0
  /-- Protection is what its page says. -/
  protection : ∀ m, lookup_mode_pg d.mode_pg MODE_CONTROL 0xf0 = some m → ProtectionIs d m

/-- Settings beside the mode pages that are kept. -/
structure KeptBeside (d d' : Drive) : Prop where
  /-- The kind of drive. -/
  pm : d'.pm = d.pm
  /-- The configured factor. -/
  configCompressionFactor : d'.configCompressionFactor = d.configCompressionFactor
  /-- The protection method. -/
  LBP_method : d'.LBP_method = d.LBP_method
  /-- Protection of reads. -/
  LBP_R : d'.LBP_R = d.LBP_R
  /-- Protection of writes. -/
  LBP_W : d'.LBP_W = d.LBP_W

/-- Protection stays what its page says. -/
theorem ProtectionIs.kept {d d' : Drive} {m : ModePage} (h : ProtectionIs d m) (hk : KeptBeside d d') :
    ProtectionIs d' m :=
  ⟨by rw [hk.pm]; exact h.supported, hk.LBP_method.trans h.method, hk.LBP_R.trans h.read,
    hk.LBP_W.trans h.write⟩

/-- Changes of other pages keep all of it. -/
theorem PagesSound.kept {d d' : Drive} (h : PagesSound d) (hp : KeepsSettings d.mode_pg d'.mode_pg)
    (hk : KeptBeside d d') : PagesSound d' := by
  obtain ⟨on, hon⟩ := h.compression
  refine ⟨hp.shaped h.shaped, ⟨on, fun m hm => ?_, fun m hm => ?_⟩, fun m hm => ?_, fun m hm => ?_⟩
  · rw [hp.lookup _ _ (Or.inl rfl)] at hm
    exact hon.compression m hm
  · rw [hp.lookup _ _ (Or.inr (Or.inl rfl))] at hm
    rw [hk.configCompressionFactor]
    exact hon.configuration m hm
  · rw [hp.lookup _ _ (Or.inr (Or.inl rfl))] at hm
    exact h.extension m hm
  · rw [hp.lookup _ _ (Or.inr (Or.inr rfl))] at hm
    exact (h.protection m hm).kept hk

/-- What holds of the numbers below 256 holds of every byte. -/
theorem forall_byte {P : UInt8 → Prop} (h : ∀ n : Fin 256, P (UInt8.ofNat n)) (b : UInt8) : P b := by
  have hb := h ⟨b.toNat, b.toNat_lt⟩
  rwa [UInt8.ofNat_toNat] at hb

/-- Switching the compression bit on. -/
theorem or_high_bit (b : UInt8) : (b ||| 0x80) &&& 0x80 ≠ 0 :=
  @forall_byte (fun b => (b ||| 0x80) &&& 0x80 ≠ 0) (by decide +kernel) b

/-- Switching the compression bit off. -/
theorem and_low_bits (b : UInt8) : (b &&& 0x7f) &&& 0x80 = 0 := by
  rw [UInt8.and_assoc]
  exact UInt8.and_zero

/-- The bit is on already. -/
theorem or_high_bit_self (b : UInt8) : b &&& 0x80 ≠ 0 → b ||| 0x80 = b :=
  @forall_byte (fun b => b &&& 0x80 ≠ 0 → b ||| 0x80 = b) (by decide +kernel) b

/-- The bit is off already. -/
theorem and_low_bits_self (b : UInt8) : b &&& 0x80 = 0 → b &&& 0x7f = b :=
  @forall_byte (fun b => b &&& 0x80 = 0 → b &&& 0x7f = b) (by decide +kernel) b

/-- Sizes of the two compression pages. -/
theorem Shaped.compression_size {l : List ModePage} (h : Shaped l) {page : UInt8} {m : ModePage}
    (hp : page = MODE_DATA_COMPRESSION ∨ page = MODE_DEVICE_CONFIGURATION)
    (hm : lookup_mode_pg l page 0 = some m) : m.pcodePointer.length = 16 := by
  obtain ⟨hmem, hpc, hsp⟩ := lookup_shape hm
  have hall : ∀ s ∈ pageShapes, s.pcode = MODE_DATA_COMPRESSION ∨ s.pcode = MODE_DEVICE_CONFIGURATION →
      s.subpcode = 0 → s.size = 16 := by decide
  refine hall m.shape (h.mem hmem) ?_ hsp
  change m.pcode = _ ∨ m.pcode = _
  rw [hpc]
  exact hp

/-- The pages after compression was switched: byte 2 of the one and byte 14 of the other. -/
def compressEdit (d : Drive) (on : Bool) : (UInt8 → UInt8) × UInt8 :=
  if on then ((· ||| 0x80), d.configCompressionFactor) else ((· &&& 0x7f), MHVTL_NO_COMPRESSION)

/-- Switching compression in terms of it. -/
theorem compress_mode_pg (d : Drive) (on : Bool) : (d.compress on).mode_pg =
    modify_mode_pg (modify_mode_pg d.mode_pg MODE_DATA_COMPRESSION 0 fun m =>
        m.setByte 2 ((compressEdit d on).1 (m.byte 2)))
      MODE_DEVICE_CONFIGURATION 0 fun m => m.setByte 14 (compressEdit d on).2 := by
  cases on <;> rfl

/-- The change of the data compression page keeps its shape. -/
theorem compressEdit_shapes {d : Drive} (hs : Shaped d.mode_pg) (on : Bool) :
    Shaped (modify_mode_pg d.mode_pg MODE_DATA_COMPRESSION 0 fun m =>
      m.setByte 2 ((compressEdit d on).1 (m.byte 2))) := by
  have hf : KeepsShape MODE_DATA_COMPRESSION fun m =>
      m.setByte 2 ((compressEdit d on).1 (m.byte 2)) :=
    keepsShape_setByte (Or.inr ⟨Nat.le_refl 2, by decide, by decide⟩) _
  rw [Shaped, hf.shapes hs]
  exact hs

/-- Switching compression sets both pages. -/
theorem compress_is {d : Drive} (hs : Shaped d.mode_pg) (on : Bool) :
    CompressionIs (d.compress on) on := by
  have hfc : KeepsCodes fun m => m.setByte 2 ((compressEdit d on).1 (m.byte 2)) := fun _ => ⟨rfl, rfl⟩
  have hgc : KeepsCodes fun m => m.setByte 14 (compressEdit d on).2 := fun _ => ⟨rfl, rfl⟩
  refine ⟨fun m hm => ?_, fun m hm => ?_⟩
  · rw [compress_mode_pg, lookup_modify_other _ hgc (by decide), lookup_modify_same _ _ _ hfc] at hm
    obtain ⟨m₀, hm₀, rfl⟩ := Option.map_eq_some_iff.mp hm
    have hsize := hs.compression_size (Or.inl rfl) hm₀
    rw [m₀.setByte_byte_same (by omega)]
    cases on with
    | true => exact iff_of_true (or_high_bit _) rfl
    | false => exact iff_of_false (fun h => h (and_low_bits _)) nofun
  · rw [compress_mode_pg, lookup_modify_same _ _ _ hgc] at hm
    obtain ⟨m₀, hm₀, rfl⟩ := Option.map_eq_some_iff.mp hm
    have hsize := (compressEdit_shapes hs on).compression_size (Or.inr rfl) hm₀
    rw [m₀.setByte_byte_same (by omega)]
    cases on <;> rfl

/-- Switching compression keeps the other pages. -/
theorem compress_sound {d : Drive} (hs : Shaped d.mode_pg)
    (he : ∀ m, lookup_mode_pg d.mode_pg MODE_DEVICE_CONFIGURATION 1 = some m → m.byte 14 = 0)
    (hp : ∀ m, lookup_mode_pg d.mode_pg MODE_CONTROL 0xf0 = some m → ProtectionIs d m) (on : Bool) :
    PagesSound (d.compress on) := by
  have hg : KeepsShape MODE_DEVICE_CONFIGURATION fun m => m.setByte 14 (compressEdit d on).2 :=
    keepsShape_setByte (Or.inl (by omega)) _
  have hfc : KeepsCodes fun m => m.setByte 2 ((compressEdit d on).1 (m.byte 2)) := fun _ => ⟨rfl, rfl⟩
  have hgc : KeepsCodes fun m => m.setByte 14 (compressEdit d on).2 := fun _ => ⟨rfl, rfl⟩
  have hother : ∀ page subpage, ¬(page = MODE_DATA_COMPRESSION ∧ subpage = 0) →
      ¬(page = MODE_DEVICE_CONFIGURATION ∧ subpage = 0) →
      lookup_mode_pg (d.compress on).mode_pg page subpage = lookup_mode_pg d.mode_pg page subpage := by
    intro page subpage hc hd
    rw [compress_mode_pg, lookup_modify_other _ hgc hd, lookup_modify_other _ hfc hc]
  refine ⟨?_, ⟨on, compress_is hs on⟩, fun m hm => ?_, fun m hm => ?_⟩
  · rw [Shaped, compress_mode_pg, hg.shapes (compressEdit_shapes hs on)]
    exact compressEdit_shapes hs on
  · rw [hother _ _ (by decide) (by decide)] at hm
    exact he m hm
  · rw [hother _ _ (by decide) (by decide)] at hm
    exact (hp m hm).kept ⟨rfl, rfl, rfl, rfl, rfl⟩

/-- Switching compression. -/
theorem PagesSound.compress {d : Drive} (h : PagesSound d) (on : Bool) : PagesSound (d.compress on) :=
  compress_sound h.shaped h.extension h.protection on

/-- A change of the extension page that leaves byte 14 alone. -/
theorem PagesSound.extended {d d' : Drive} {f : ModePage → ModePage} (h : PagesSound d)
    (hp : d'.mode_pg = modify_mode_pg d.mode_pg MODE_DEVICE_CONFIGURATION 1 f) (hc : KeepsCodes f)
    (hf : KeepsShape MODE_DEVICE_CONFIGURATION f) (hb : ∀ m, (f m).byte 14 = m.byte 14)
    (hk : KeptBeside d d') : PagesSound d' := by
  have hother : ∀ page subpage, ¬(page = MODE_DEVICE_CONFIGURATION ∧ subpage = 1) →
      lookup_mode_pg d'.mode_pg page subpage = lookup_mode_pg d.mode_pg page subpage := by
    intro page subpage hne
    rw [hp, lookup_modify_other _ hc hne]
  obtain ⟨on, hon⟩ := h.compression
  refine ⟨?_, ⟨on, fun m hm => ?_, fun m hm => ?_⟩, fun m hm => ?_, fun m hm => ?_⟩
  · rw [Shaped, hp, hf.shapes h.shaped]
    exact h.shaped
  · rw [hother _ _ (by decide)] at hm
    exact hon.compression m hm
  · rw [hother _ _ (by decide)] at hm
    rw [hk.configCompressionFactor]
    exact hon.configuration m hm
  · rw [hp, lookup_modify_same _ _ _ hc] at hm
    obtain ⟨m₀, hm₀, rfl⟩ := Option.map_eq_some_iff.mp hm
    rw [hb]
    exact h.extension m₀ hm₀
  · rw [hother _ _ (by decide)] at hm
    exact (h.protection m hm).kept hk

/-- The warning size. -/
theorem PagesSound.setProgEarlyWarning {d : Drive} (h : PagesSound d) (pews : ℕ) :
    PagesSound (d.setProgEarlyWarning pews) := by
  unfold Drive.setProgEarlyWarning
  split
  · refine h.extended rfl (fun _ => ⟨rfl, rfl⟩) (keepsShape_setBe16 (by omega) pews) (fun m => ?_)
      ⟨rfl, rfl, rfl, rfl, rfl⟩
    rw [ModePage.setBe16, ModePage.setByte_byte_other _ (by omega), ModePage.setByte_byte_other _ (by omega)]
  · exact h

/-- What setting the write mode does to the pages and beside them. -/
theorem setWriteMode_frame (d : Drive) (write_mode : UInt8) :
    (d.setWriteMode write_mode).mode_pg = modify_mode_pg d.mode_pg MODE_DEVICE_CONFIGURATION 1
        (fun m => m.setByte 5 ((m.byte 5 &&& (0x0f : UInt8)) ||| (write_mode <<< 4))) ∧
      KeptBeside d (d.setWriteMode write_mode) := by
  by_cases h : d.pm.drive_supports_append_only_mode ∧ write_mode ≠ 0
  · simp only [Drive.setWriteMode, if_pos h]
    exact ⟨trivial, rfl, rfl, rfl, rfl, rfl⟩
  · simp only [Drive.setWriteMode, if_neg h]
    exact ⟨trivial, rfl, rfl, rfl, rfl, rfl⟩

/-- The write mode. -/
theorem PagesSound.setWriteMode {d : Drive} (h : PagesSound d) (write_mode : UInt8) :
    PagesSound (d.setWriteMode write_mode) := by
  obtain ⟨hpages, hkept⟩ := setWriteMode_frame d write_mode
  exact h.extended hpages (fun _ => ⟨rfl, rfl⟩) (keepsShape_setByte (Or.inl (by omega)) _)
    (fun m => m.setByte_byte_other (by omega) _) hkept

/-- The extension page, accepted or not. -/
theorem PagesSound.extension_page {d : Drive} (h : PagesSound d) (p : ℕ → UInt8) :
    PagesSound (set_device_configuration_extension d p).2 := by
  unfold set_device_configuration_extension
  dsimp only
  split
  · exact h
  · split
    · exact h
    · split
      · exact h
      · split
        · exact h.setProgEarlyWarning _
        · exact (h.setProgEarlyWarning _).setWriteMode _

/-- Size of the data protection page. -/
theorem Shaped.protection_size {l : List ModePage} (h : Shaped l) {m : ModePage}
    (hm : lookup_mode_pg l MODE_CONTROL 0xf0 = some m) : m.pcodePointer.length = 30 := by
  obtain ⟨hmem, hpc, hsp⟩ := lookup_shape hm
  have hall : ∀ s ∈ pageShapes, s.pcode = MODE_CONTROL → s.subpcode = 0xf0 → s.size = 30 := by decide
  exact hall m.shape (h.mem hmem) hpc hsp

/-- The data protection page sets what it says. -/
theorem PagesSound.protection_page {d : Drive} (h : PagesSound d) (buf : ℕ → UInt8) :
    PagesSound (update_logical_block_protection d buf) := by
  unfold update_logical_block_protection
  split
  · exact h
  · have hc : KeepsCodes fun m => ((m.setByte 4 (buf 4)).setByte 5 (buf 5)).setByte 6 (buf 6) :=
      fun _ => ⟨rfl, rfl⟩
    have hf : KeepsShape MODE_CONTROL fun m =>
        ((m.setByte 4 (buf 4)).setByte 5 (buf 5)).setByte 6 (buf 6) :=
      ((keepsShape_setByte (Or.inl (by omega)) fun _ => buf 4).comp
        (keepsShape_setByte (Or.inl (by omega)) fun _ => buf 5)).comp
        (keepsShape_setByte (Or.inl (by omega)) fun _ => buf 6)
    obtain ⟨on, hon⟩ := h.compression
    refine ⟨?_, ⟨on, fun m hm => ?_, fun m hm => ?_⟩, fun m hm => ?_, fun m hm => ?_⟩
    · rw [Shaped, hf.shapes h.shaped]
      exact h.shaped
    · rw [lookup_modify_other _ hc (by decide)] at hm
      exact hon.compression m hm
    · rw [lookup_modify_other _ hc (by decide)] at hm
      exact hon.configuration m hm
    · rw [lookup_modify_other _ hc (by decide)] at hm
      exact h.extension m hm
    · rw [lookup_modify_same _ _ _ hc] at hm
      obtain ⟨m₀, hm₀, rfl⟩ := Option.map_eq_some_iff.mp hm
      have hsize := h.shaped.protection_size hm₀
      have h4 : (((m₀.setByte 4 (buf 4)).setByte 5 (buf 5)).setByte 6 (buf 6)).byte 4 = buf 4 := by
        rw [ModePage.setByte_byte_other _ (by omega), ModePage.setByte_byte_other _ (by omega),
          ModePage.setByte_byte_same _ (by omega)]
      have h6 : (((m₀.setByte 4 (buf 4)).setByte 5 (buf 5)).setByte 6 (buf 6)).byte 6 = buf 6 :=
        ModePage.setByte_byte_same _ (by simp only [ModePage.setByte_length]; omega) _
      exact ⟨(h.protection m₀ hm₀).supported, by rw [h4], by rw [h6], by rw [h6]⟩

/-- The medium partition page takes over what was sent. -/
theorem PagesSound.partition_page {d d' : Drive} {p : ℕ → UInt8} (h : PagesSound d)
    (hm : set_medium_partition d p = some d') : PagesSound d' := by
  unfold set_medium_partition at hm
  split at hm
  · cases hm
  · dsimp only at hm
    split at hm
    · cases hm
    · cases hm
      exact h.kept (keepsSettings_modify h.shaped (keepsShape_takePartitions p) (takePartitions_codes p)
        (by decide)) ⟨rfl, rfl, rfl, rfl, rfl⟩

/-- A page of MODE SELECT is applied. -/
theorem PagesSound.applyPage {d d' : Drive} {p : ℕ → UInt8} (h : PagesSound d)
    (ha : applyPage d p = some d') : PagesSound d' := by
  unfold Ssc.applyPage at ha
  dsimp only at ha
  split at ha
  · simp only [Option.ite_none_right_eq_some, Option.some.injEq] at ha
    obtain ⟨-, rfl⟩ := ha
    exact h.compress _
  split at ha
  · split at ha
    · simp only [Option.ite_none_right_eq_some, Option.some.injEq] at ha
      obtain ⟨-, rfl⟩ := ha
      exact h.extension_page p
    · simp only [Option.ite_none_right_eq_some, Option.some.injEq] at ha
      obtain ⟨-, rfl⟩ := ha
      exact h.compress _
  split at ha
  · split at ha
    · cases ha
      exact h
    · simp only [Option.ite_none_right_eq_some, Option.some.injEq] at ha
      obtain ⟨-, -, rfl⟩ := ha
      unfold set_lbp
      split
      · exact h.protection_page p
      · exact h
  simp only [Option.ite_none_right_eq_some] at ha
  exact h.partition_page ha.2

/-- A page of MODE SELECT is refused. -/
theorem PagesSound.refusedPage {d : Drive} (h : PagesSound d) (p : ℕ → UInt8) :
    PagesSound (refusedPage d p) := by
  unfold Ssc.refusedPage
  split
  · exact h.extension_page p
  · exact h

/-- Status and block descriptor hold nothing of the pages. -/
theorem PagesSound.same {d d' : Drive} (h : PagesSound d) (hp : d'.mode_pg = d.mode_pg)
    (hk : KeptBeside d d') : PagesSound d' :=
  h.kept (by rw [hp]; exact .refl _) hk

/-- The walk of MODE SELECT. -/
theorem PagesSound.selectPages {buf : ℕ → UInt8} {count rounds i reads : ℕ} {d : Drive} {r : Selected}
    (h : PagesSound d) (hr : selectPages buf count rounds i reads d = some r) : PagesSound r.drive := by
  induction rounds generalizing i reads d with
  | zero => cases hr
  | succ rounds ih =>
    simp only [Ssc.selectPages] at hr
    split at hr
    · cases hr
      exact h.same rfl ⟨rfl, rfl, rfl, rfl, rfl⟩
    · have hcase := selectPage_case d (pageAt buf i) i
      cases hs : selectPage d (pageAt buf i) i with
      | none =>
        rw [hs] at hr
        cases hr
      | some res =>
        rw [hs] at hr hcase
        cases hcase with
        | passed hp => exact ih h hr
        | next d₁ ha => exact ih (h.applyPage ha) hr
        | done d₁ ha =>
          cases hr
          exact (h.applyPage ha).same rfl ⟨rfl, rfl, rfl, rfl, rfl⟩
        | refused s ha =>
          cases hr
          exact (h.refusedPage _).same rfl ⟨rfl, rfl, rfl, rfl, rfl⟩

/-- MODE SELECT, whatever it is sent. -/
theorem PagesSound.mode_select {cdb : Cdb} {buf : ℕ → UInt8} {d : Drive} {r : Selected}
    (h : PagesSound d) (hr : ssc_mode_select d cdb buf = some r) : PagesSound r.drive := by
  obtain ⟨hfirst, hsecond, hthird⟩ := ssc_mode_select_cases d cdb buf
  have hstart : PagesSound (described d cdb buf) := h.same rfl ⟨rfl, rfl, rfl, rfl, rfl⟩
  by_cases hf : WrongFormat cdb buf
  · obtain ⟨s, hs⟩ := hfirst hf
    rw [hs] at hr
    cases hr
    exact h.same rfl ⟨rfl, rfl, rfl, rfl, rfl⟩
  · by_cases hsp : SavesPages cdb
    · obtain ⟨s, hs⟩ := hsecond hf hsp
      rw [hs] at hr
      cases hr
      exact hstart.same rfl ⟨rfl, rfl, rfl, rfl, rfl⟩
    · rw [hthird hf hsp] at hr
      exact hstart.selectPages hr

/-- What a personality does to its own pages. -/
inductive PersonalityEdit where
  | set_WORM | clear_WORM | set_ult_WORM | set_ait_WORM | clear_ait_WORM
  | ait_media_load (load : Bool)
  | update_ult_encryption_mode (value : ℕ)

/-- The pages after it. -/
def PersonalityEdit.apply (l : List ModePage) : PersonalityEdit → List ModePage
  | .set_WORM => Ssc.set_WORM l
  | .clear_WORM => Ssc.clear_WORM l
  | .set_ult_WORM => Ssc.set_ult_WORM l
  | .set_ait_WORM => Ssc.set_ait_WORM l
  | .clear_ait_WORM => Ssc.clear_ait_WORM l
  | .ait_media_load load => Ssc.ait_media_load l load
  | .update_ult_encryption_mode value => Ssc.update_ult_encryption_mode l value

/-- The medium configuration page says write-once. -/
theorem set_WORM_keepsSettings {l : List ModePage} (hl : Shaped l) : KeepsSettings l (set_WORM l) := by
  have hf : KeepsShape MODE_MEDIUM_CONFIGURATION fun m => (m.setByte 2 0x10).setByte 4 0x01 :=
    (keepsShape_setByte (Or.inr ⟨Nat.le_refl 2, by decide, by decide⟩) fun _ => 0x10).comp
      (keepsShape_setByte (Or.inl (Nat.le_refl 4)) fun _ => 0x01)
  exact keepsSettings_modify hl hf (fun _ => ⟨rfl, rfl⟩) (by decide)

/-- No personality touches the settings of MODE SELECT. -/
theorem PersonalityEdit.keepsSettings {l : List ModePage} (hl : Shaped l) (e : PersonalityEdit) :
    KeepsSettings l (e.apply l) := by
  cases e with
  | set_WORM => exact set_WORM_keepsSettings hl
  | clear_WORM =>
    exact keepsSettings_modify hl (keepsShape_setByte (Or.inr ⟨Nat.le_refl 2, by decide, by decide⟩) _)
      (fun _ => ⟨rfl, rfl⟩) (by decide)
  | set_ult_WORM =>
    have hworm := set_WORM_keepsSettings hl
    exact hworm.trans (keepsSettings_modify (hworm.shaped hl)
      (keepsShape_setByte (Or.inl (Nat.le_refl 4)) _) (fun _ => ⟨rfl, rfl⟩) (by decide))
  | set_ait_WORM =>
    exact keepsSettings_modify hl (keepsShape_setByte (Or.inl (Nat.le_refl 4)) _) (fun _ => ⟨rfl, rfl⟩)
      (by decide)
  | clear_ait_WORM =>
    exact keepsSettings_modify hl (keepsShape_setByte (Or.inl (Nat.le_refl 4)) _) (fun _ => ⟨rfl, rfl⟩)
      (by decide)
  | ait_media_load load =>
    exact keepsSettings_modify hl (keepsShape_setByte (Or.inr ⟨by omega, by decide, by decide⟩) _)
      (fun _ => ⟨rfl, rfl⟩) (by decide)
  | update_ult_encryption_mode value =>
    exact keepsSettings_modify hl (keepsShape_setByte (Or.inl (by omega)) _) (fun _ => ⟨rfl, rfl⟩)
      (by decide)

/-- A size descriptor is stored. -/
theorem storeDescriptor_sound {L : Libs} {num unit k : ℕ} {d d' : Drive} (h : PagesSound d)
    (hd : storeDescriptor L num unit d k = some d') : PagesSound d' := by
  unfold storeDescriptor at hd
  split at hd
  · cases hd
  · cases hd
    exact h.kept (keepsSettings_modify h.shaped (keepsShape_setBe16 (by omega) _) (fun _ => ⟨rfl, rfl⟩)
      (by decide)) ⟨rfl, rfl, rfl, rfl, rfl⟩

/-- All of them are. -/
theorem storeDescriptors_sound {L : Libs} {num unit : ℕ} (ks : List ℕ) {d d' : Drive}
    (h : PagesSound d) (hd : ks.foldlM (storeDescriptor L num unit) d = some d') : PagesSound d' := by
  induction ks generalizing d with
  | nil =>
    cases hd
    exact h
  | cons k ks ih =>
    rw [List.foldlM_cons, Option.bind_eq_bind, Option.bind_eq_some_iff] at hd
    obtain ⟨d₁, hd₁, hd⟩ := hd
    exact ih (storeDescriptor_sound h hd₁) hd

/-- The medium partition page is made to describe the volume. -/
theorem PagesSound.loaded {L : Libs} {d d' : Drive} (h : PagesSound d)
    (hd : update_medium_partition_page L d = some d') : PagesSound d' := by
  unfold update_medium_partition_page at hd
  split at hd
  · cases hd
    exact h
  · dsimp only at hd
    split at hd
    · cases hd
    · refine storeDescriptors_sound _ ?_ hd
      refine h.kept (keepsSettings_modify h.shaped ?_ (fun _ => ⟨rfl, rfl⟩) ?_) ⟨rfl, rfl, rfl, rfl, rfl⟩
      swap
      · decide
      have hplain : ∀ i, 2 ≤ i → ∀ b : ModePage → UInt8,
          KeepsShape MODE_MEDIUM_PARTITION fun m => m.setByte i (b m) := by
        intro i hi b
        exact keepsShape_setByte (Or.inr ⟨hi, by decide, by decide⟩) b
      intro m hp h0
      exact (((hplain 2 (by omega) fun _ => _).comp (hplain 3 (by omega) fun _ => _)).comp
        (hplain 6 (by omega) fun _ => _)) m hp h0

/-- Something that happens to the mode pages. -/
inductive PageEvent where
  /-- MODE SELECT, with any parameter list. -/
  | mode_select (cdb : Cdb) (buf : ℕ → UInt8)
  /-- An edit by the personality. -/
  | personality (e : PersonalityEdit)
  /-- A volume is loaded. -/
  | loaded
  /-- Anything else. -/
  | other

/-- How the drive changes by it. -/
inductive PageStep (L : Libs) : Drive → PageEvent → Drive → Prop where
  | mode_select {d : Drive} {cdb : Cdb} {buf : ℕ → UInt8} {r : Selected}
      (h : ssc_mode_select d cdb buf = some r) : PageStep L d (.mode_select cdb buf) r.drive
  | personality (d : Drive) (e : PersonalityEdit) :
      PageStep L d (.personality e) { d with mode_pg := e.apply d.mode_pg }
  | loaded {d d' : Drive} (h : update_medium_partition_page L d = some d') : PageStep L d .loaded d'
  | other {d d' : Drive} (hp : d'.mode_pg = d.mode_pg) (hk : KeptBeside d d') : PageStep L d .other d'

/-- Every step keeps the pages sound. -/
theorem PagesSound.step {L : Libs} {d d' : Drive} {e : PageEvent} (h : PagesSound d)
    (hs : PageStep L d e d') : PagesSound d' := by
  cases hs with
  | mode_select hr => exact h.mode_select hr
  | personality e => exact h.kept (e.keepsSettings h.shaped) ⟨rfl, rfl, rfl, rfl, rfl⟩
  | loaded hd => exact h.loaded hd
  | other hp hk => exact h.same hp hk

/-- A drive as it is started: some of the pages, compression switched on or off as configured,
no protection. -/
inductive Started : Drive → Prop where
  | intro (d : Drive) (configCompressionFactor : UInt8) (configCompressionEnabled : Bool)
      (hp : d.mode_pg.Subperm (allPages d.pm configCompressionFactor))
      (hm : d.LBP_method = 0) (hr : d.LBP_R = false) (hw : d.LBP_W = false)
      (hs : lookup_mode_pg d.mode_pg MODE_CONTROL 0xf0 ≠ none → d.pm.drive_supports_LBP ≠ 0) :
      Started (d.compress configCompressionEnabled)

/-- Byte 14 of an extension page and the settings of a protection page are zero. -/
def ModePage.unset (m : ModePage) : Bool :=
  (m.pcode = MODE_DEVICE_CONFIGURATION ∧ m.subpcode = 1 → m.byte 14 = 0) ∧
    (m.pcode = MODE_CONTROL ∧ m.subpcode = 0xf0 → m.byte 4 = 0 ∧ m.byte 6 = 0)

/-- All pages are built so. -/
theorem allPages_unset (pm : Personality) (configCompressionFactor : UInt8) :
    ∀ m ∈ allPages pm configCompressionFactor, m.unset = true := by
  have hext : (add_mode_device_configuration_extension pm).unset = true := by
    unfold add_mode_device_configuration_extension
    dsimp only
    split <;> split <;> decide +kernel
  have hfactor : (add_mode_device_configuration configCompressionFactor).unset = true := rfl
  simp only [allPages, List.forall_mem_cons, hext, hfactor]
  decide +kernel

/-- The pages of a drive are sound at the start. -/
theorem Started.sound {d : Drive} (h : Started d) : PagesSound d := by
  cases h with
  | intro d factor on hp hm hr hw hs =>
    have hmem : ∀ page subpage m, lookup_mode_pg d.mode_pg page subpage = some m →
        m ∈ allPages d.pm factor ∧ m.pcode = page ∧ m.subpcode = subpage := by
      intro page subpage m h
      obtain ⟨hin, hcodes⟩ := lookup_shape h
      exact ⟨hp.subset hin, hcodes⟩
    refine compress_sound ?_ (fun m h => ?_) (fun m h => ?_) on
    · rw [Shaped, ← allPages_shapes d.pm factor]
      obtain ⟨l, hperm, hsub⟩ := hp
      exact ⟨l.map ModePage.shape, hperm.map _, hsub.map _⟩
    · obtain ⟨hin, hcodes⟩ := hmem _ _ m h
      exact (of_decide_eq_true (allPages_unset d.pm factor m hin)).1 hcodes
    · obtain ⟨hin, hcodes⟩ := hmem _ _ m h
      obtain ⟨h4, h6⟩ := (of_decide_eq_true (allPages_unset d.pm factor m hin)).2 hcodes
      refine ⟨hs (by rw [h]; exact Option.some_ne_none m), ?_, ?_, ?_⟩
      · rw [hm, h4]
        rfl
      · rw [hr, h6]
        rfl
      · rw [hw, h6]
        rfl

/-- A drive in some state of some run. -/
def Reachable (L : Libs) (d : Drive) : Prop :=
  ∃ d₀ events, Started d₀ ∧ Run (PageStep L) d₀ events d

/-- The pages of a drive are sound at any time. -/
theorem Reachable.sound {L : Libs} {d : Drive} (h : Reachable L d) : PagesSound d := by
  obtain ⟨d₀, events, hstart, hrun⟩ := h
  exact hrun.invariant (fun _ _ _ h hs => h.step hs) hstart.sound

end Mhvtl.Ssc
