import Mhvtl.Ssc.Encryption
import Mhvtl.Ssc.Protection

/-!
# What READ(6) accounts for

A tape shows its blocks and filemarks to the initiator. READ(6) is to send what lies
behind the position and to say where and why it stopped. A FIXED read goes on behind
a block of another length, and a short block is reported even when it is not to be.
-/

namespace Mhvtl.Ssc

open Bytes Cart Store Records

/-- What an initiator finds on a tape. -/
inductive Item where
  /-- A block with its bytes. -/
  | block (bs : List UInt8)
  /-- A filemark. -/
  | filemark
deriving DecidableEq

/-- A record is seen as the item; blocks are recorded in the clear. -/
def Shows (L : Libs) (r : Record) : Item → Prop
  | .block bs => ∃ b, r = .data b ∧ Recorded L b bs ∧ ¬Encrypted b.info
  | .filemark => r = .filemark

/-- The status at a filemark, with the number of blocks that are missing. -/
def markMet (missing : ℕ) : Status := (sam_no_sense SD_FILEMARK E_MARK).withInformation missing

/-- The status at the end of the data. -/
def endMet (missing : ℕ) : Status := (sam_blank_check E_END_OF_DATA).withInformation missing

/-- The status behind a block of another length. -/
def lengthMet (missing : ℕ) : Status :=
  (sam_no_sense SD_ILI NO_ADDITIONAL_SENSE).withInformation missing

/-- A FIXED read of at most so many blocks of `s` bytes in front of some items: the bytes it
sends, how many items it passes, and the status that it stops with. -/
inductive FixedRead (s : ℕ) : ℕ → List Item → List UInt8 → ℕ → Option Status → Prop where
  /-- Every block was sent. -/
  | done (items : List Item) : FixedRead s 0 items [] 0 none
  /-- A block of that length is sent. -/
  | block {n k : ℕ} {bs out : List UInt8} {items : List Item} {stop : Option Status}
    (hlen : bs.length = s) (rest : FixedRead s n items out k stop) :
    FixedRead s (n + 1) (.block bs :: items) (bs ++ out) (k + 1) stop
  /-- A filemark stops the read behind it. -/
  | filemark (n : ℕ) (items : List Item) :
    FixedRead s (n + 1) (.filemark :: items) [] 1 (some (markMet (n + 1)))
  /-- So does the end of the data, where it is. -/
  | eod (n : ℕ) : FixedRead s (n + 1) [] [] 0 (some (endMet (n + 1)))
  /-- A block of another length stops the read behind it; some of it may be sent. -/
  | other (n m : ℕ) {bs : List UInt8} (items : List Item) (hlen : bs.length ≠ s) (hm : m ≤ s) :
    FixedRead s (n + 1) (.block bs :: items) (bs.take m) 1 (some (lengthMet (n + 1)))

/-- The status of a drive is good, or the one named. -/
def Ends (d : Drive) : Option Status → Prop
  | none => d.sam_stat = SAM_STAT_GOOD
  | some st => d.cart.status = st

/-- A block that a FIXED read meets is as long as asked, or empty, or it is the last one and one
byte short. -/
def LengthsAgree (s : ℕ) : ℕ → List Item → Prop
  | n + 1, .block bs :: items =>
    if bs.length = s then LengthsAgree s n items else bs = [] ∨ (n = 0 ∧ bs.length + 1 = s)
  | _, _ => True

/-- The drive may read what lies behind its position, without check words. -/
structure ReadReady (L : Libs) (d : Drive) (p i : ℕ) (l : List Record) (items : List Item) :
    Prop where
  /-- Where the drive stands. -/
  at_pos : At d.cart p l i
  /-- Block numbers fit their field. -/
  length : l.length < 2 ^ 32
  /-- What lies behind the position. -/
  items : List.Forall₂ (Shows L) (l.drop i) items
  /-- A cartridge is mounted. -/
  loaded : d.load_status = TAPE_LOADED
  /-- It is not one to clean with. -/
  type : d.cart.mam.MediumType ≠ MEDIA_TYPE_CLEAN
  /-- No check words are sent. -/
  plain : d.LBP_R = false
  /-- Encryption is not demanded. -/
  clear : d.DECRYPT_MODE ≠ 2

/-- What READ(6) of `count` blocks of `sz` bytes is to do in front of some items. -/
structure Accounts (cdb : Cdb) (sz count : ℕ) (p i : ℕ) (l : List Record) (items : List Item)
    (out : List UInt8) (d' : Drive) : Prop where
  /-- A FIXED read sends the run of blocks of that length, and says what ended it. -/
  fixed : fixedBlock cdb = true → 0 < sz →
    ∃ k stop, FixedRead sz count items out k stop ∧ At d'.cart p l (i + k) ∧ Ends d' stop
  /-- A variable read sends the front of the block, and reports another length unless told not
  to. -/
  unfixed : fixedBlock cdb = false → 0 < sz → ∀ bs rest, items = .block bs :: rest →
    out = bs.take sz ∧ At d'.cart p l (i + 1) ∧
      Ends d' (if bs.length ≠ sz ∧ sili cdb = false then
        some (mk_sense_short_block sz bs.length) else none)

/-- When it does so. -/
def LengthsReported (cdb : Cdb) (sz count : ℕ) (items : List Item) : Prop :=
  0 < sz →
    if fixedBlock cdb then LengthsAgree sz count items
    else ∀ bs rest, items = .block bs :: rest → sili cdb = true → sz ≤ bs.length

section Places

variable {L : Libs} {d : Drive} {p i : ℕ} {l : List Record} {items : List Item}

/-- The item behind the position is that of the record there. -/
theorem items_cons {x : Item} {rest : List Item}
    (h : List.Forall₂ (Shows L) (l.drop i) (x :: rest)) :
    ∃ r, l[i]? = some r ∧ Shows L r x ∧ List.Forall₂ (Shows L) (l.drop (i + 1)) rest := by
  cases hd : l.drop i with
  | nil =>
    rw [hd] at h
    cases h
  | cons r rs =>
    rw [hd] at h
    cases h with
    | cons hr hrs =>
      refine ⟨r, ?_, hr, ?_⟩
      · rw [← List.head?_drop, hd, List.head?_cons]
      · rwa [← List.tail_drop, hd, List.tail_cons]

/-- Where nothing lies behind the position, it is the end of the data. -/
theorem items_nil (h : List.Forall₂ (Shows L) (l.drop i) []) : l.length ≤ i := by
  cases hd : l.drop i with
  | nil => exact List.drop_eq_nil_iff.mp hd
  | cons r rs =>
    rw [hd] at h
    cases h

/-- Spacing over one block in front of a filemark ends behind the filemark. -/
theorem behind_filemark {c : Store} (h : At c p l i) (hl : l.length < 2 ^ 32)
    (hb : l[i]? = some .filemark) : ∃ ok st, (c.position_blocks_forw 1).2 =
      { c with raw_pos := headerAt p l (i + 1), OK_to_write := ok, status := st } := by
  obtain ⟨hi, hli⟩ := List.getElem?_eq_some_iff.mp hb
  have hc := h.clearWormWrite
  have hsucc : l.take (i + 1) = l.take i ++ [.filemark] := by
    rw [List.take_add_one, hb]
    rfl
  -- the filemarks in front, this one, and those behind
  obtain ⟨m, hm, -⟩ := marks_split Record.isFilemark l (i + 1)
  have hfront := marks_concat Record.isFilemark (l.take i) .filemark
  have hmark : Record.filemark.isFilemark = true := rfl
  rw [if_pos hmark, List.length_take_of_le (Nat.le_of_lt hi), ← hsucc] at hfront
  rw [hfront, List.append_assoc] at hm
  have hmap : c.clearWormWrite.filemarkMap p = filemarksOf l := hc.rep.marks
  have hlow : ∀ x ∈ marks Record.isFilemark (l.take i), ¬i ≤ x := by
    intro x hx
    have hlt := marks_lt Record.isFilemark hx
    rw [List.length_take] at hlt
    omega
  have hfind : (filemarksOf l).findIdx? (i ≤ ·) =
      some (marks Record.isFilemark (l.take i)).length := by
    rw [filemarksOf, hm, List.findIdx?_append, List.findIdx?_eq_none_iff.mpr fun x hx =>
      decide_eq_false (hlow x hx)]
    simp only [Option.none_or, List.singleton_append, List.findIdx?_cons, Nat.le_refl,
      decide_true, if_true, Option.map_some, Nat.zero_add]
  have hentry : c.clearWormWrite.filemarks p (marks Record.isFilemark (l.take i)).length = i := by
    have hget := congrArg (fun x => x[(marks Record.isFilemark (l.take i)).length]?) hmap
    have hlen : (marks Record.isFilemark (l.take i)).length <
        (c.clearWormWrite.filemarkMap p).length := by
      rw [hmap, filemarksOf, hm, List.length_append]
      simp only [List.length_append, List.length_singleton]
      omega
    have hright : (filemarksOf l)[(marks Record.isFilemark (l.take i)).length]? = some i := by
      rw [filemarksOf, hm, List.getElem?_append_right (Nat.le_refl _), Nat.sub_self]
      rfl
    rw [hright, List.getElem?_eq_getElem hlen, Option.some.injEq] at hget
    have hmem : (c.clearWormWrite.filemarkMap p)[(marks Record.isFilemark (l.take i)).length] =
        c.clearWormWrite.filemarks p (marks Record.isFilemark (l.take i)).length := by
      simp only [filemarkMap, List.getElem_map, List.getElem_range]
    exact hmem.symm.trans hget
  have hmod : (i + 1) % 2 ^ 32 = i + 1 := Nat.mod_eq_of_lt (by omega)
  have hover : ¬i + 1 ≤ i := by omega
  have hread := hc.read_header_eq hl (Nat.succ_le_of_lt hi)
  simp only [position_blocks_forw, h.tape_loaded, Bool.not_true, Bool.false_eq_true, if_false,
    hc.partition_id, hmap, hc.blk_number, hfind, hentry, hmod, if_neg hover, hread, ne_eq,
    not_true_eq_false, stopShort]
  unfold Store.clearWormWrite
  split
  · exact ⟨_, _, rfl⟩
  · exact ⟨_, _, rfl⟩

/-- Where the drive may read, the check of the key passes. -/
theorem ReadReady.check (h : ReadReady L d p i l items) :
    d.valid_encryption_blk = some (true, d.checked) := by
  have hopen : ∀ info, blockHere l d = some info → ¬Encrypted info := by
    intro info hinfo
    rw [blockHere_at h.at_pos] at hinfo
    cases items with
    | nil =>
      rw [List.getElem?_eq_none (items_nil h.items)] at hinfo
      cases hinfo
    | cons x rest =>
      obtain ⟨r, hr, hx, -⟩ := items_cons h.items
      rw [hr, Option.bind_some] at hinfo
      cases x with
      | filemark =>
        rw [show r = .filemark from hx] at hinfo
        cases hinfo
      | block bs =>
        obtain ⟨b, rfl, -, hclear⟩ := hx
        rw [recordInfo, Option.some.injEq] at hinfo
        rwa [← hinfo]
  apply check_unlocked h.at_pos
  · unfold Judges
    cases hb : blockHere l d with
    | none => exact h.clear
    | some info => exact fun henc => absurd henc (hopen info hb)
  · rintro info hb (⟨henc, -⟩ | ⟨-, hmode⟩)
    · exact hopen info hb henc
    · exact h.clear hmode

/-- One item further the drive may read on. -/
theorem ReadReady.next {x : Item} (h : ReadReady L d p i l (x :: items)) {d' : Drive}
    (hat : At d'.cart p l (i + 1)) (hkept : SettingsKept d d') :
    ReadReady L d' p (i + 1) l items := by
  obtain ⟨-, -, -, hrest⟩ := items_cons h.items
  have htype : d'.cart.mam.MediumType ≠ MEDIA_TYPE_CLEAN := by
    rw [hkept.type]
    exact h.type
  have hclear : d'.DECRYPT_MODE ≠ 2 := by
    rw [hkept.keys.2.1]
    exact h.clear
  obtain ⟨c, v, e, m, r, s, w, x, rfl⟩ := hkept.eq
  exact ⟨hat, h.length, hrest, h.loaded, htype, h.plain, hclear⟩

/-- What reading one block leaves: the bytes, where the drive stands, and the status. -/
structure ReadLeft (d : Drive) (r : List UInt8 × Drive) (p : ℕ) (l : List Record) (j : ℕ)
    (out : List UInt8) (stop : Option Status) : Prop where
  /-- The bytes. -/
  out : r.1 = out
  /-- The position. -/
  at_pos : At r.2.cart p l j
  /-- The settings are kept. -/
  kept : SettingsKept d r.2
  /-- The status, that of the check when there is none. -/
  ends : r.2.cart.status = stop.getD d.checked.cart.status

/-- What stays good. -/
theorem ReadLeft.good {r : List UInt8 × Drive} {j : ℕ} {out : List UInt8}
    (h : ReadLeft d r p l j out none) (hgood : d.sam_stat = SAM_STAT_GOOD) : Ends r.2 none := by
  obtain ⟨st, heq, hst⟩ := d.checked_report
  have hends := h.ends
  rw [heq] at hends
  exact (congrArg Status.sam_stat hends).trans (hst hgood)

section One

variable {cdb : Cdb} {sz : ℕ}

/-- Without check words a block is read as it is. -/
theorem ReadReady.readOne (h : ReadReady L d p i l items) :
    readOne L cdb sz d = readBlock L d.checked sz (sili cdb) 0 := by
  obtain ⟨st, heq, -⟩ := d.checked_report
  have hplain : ¬(d.report st).LBP_R = true := by
    rw [show (d.report st).LBP_R = false from h.plain]
    exact Bool.false_ne_true
  rw [Ssc.readOne, heq, if_neg hplain]

/-- A filemark is passed and reported. -/
theorem readOne_filemark (h : ReadReady L d p i l (.filemark :: items)) (hsz : 0 < sz) :
    ReadLeft d (Ssc.readOne L cdb sz d) p l (i + 1) [] (some (markMet sz)) := by
  obtain ⟨r, hr, hx, -⟩ := items_cons h.items
  rw [show r = .filemark from hx] at hr
  obtain ⟨st₀, heq, -⟩ := d.checked_report
  have hat : At (d.report st₀).cart p l i := At.congr h.at_pos rfl rfl rfl
  obtain ⟨hi, hli⟩ := List.getElem?_eq_some_iff.mp hr
  have htype : (d.report st₀).cart.c_pos.blk_type = B_FILEMARK := by
    rw [c_pos, hat.pos, headerAt_of_lt p hi, hli]
    rfl
  obtain ⟨ok, st, hbehind⟩ := behind_filemark hat h.length hr
  rw [h.readOne, heq]
  simp only [readBlock, if_neg (Nat.ne_of_gt hsz), htype, if_true, ne_eq, not_true_eq_false,
    if_false, Drive.onCart, hbehind]
  exact ⟨rfl, ⟨h.at_pos.rep, rfl, hi, h.at_pos.fd, h.at_pos.part_lt⟩, SettingsKept.of_cart d rfl, rfl⟩

/-- The end of the data is reported. -/
theorem readOne_eod (h : ReadReady L d p i l []) (hsz : 0 < sz) :
    ReadLeft d (Ssc.readOne L cdb sz d) p l i [] (some (endMet sz)) := by
  obtain ⟨st₀, heq, -⟩ := d.checked_report
  have hat : At (d.report st₀).cart p l i := At.congr h.at_pos rfl rfl rfl
  have htype : (d.report st₀).cart.c_pos.blk_type = B_EOD := hat.eod_iff.mpr (items_nil h.items)
  have hne : ¬B_EOD = B_FILEMARK := by decide
  rw [h.readOne, heq]
  simp only [readBlock, if_neg (Nat.ne_of_gt hsz), htype, if_neg hne, if_true, ne_eq,
    not_true_eq_false, if_false]
  exact ⟨rfl, At.congr h.at_pos rfl rfl rfl, SettingsKept.of_cart d rfl, rfl⟩

/-- Behind a block of `n` bytes that was cut to the request a shorter length is always reported,
a longer one unless told not to. -/
theorem reportLength_cut (e : Drive) (sz n : ℕ) (sili : Bool) :
    reportLength e sz sz (min sz n) n sili =
      if n < sz ∨ (sz < n ∧ sili = false) then e.report (mk_sense_short_block sz n) else e := by
  unfold reportLength
  rcases Nat.lt_trichotomy n sz with hlt | rfl | hgt
  · rw [Nat.min_eq_right (Nat.le_of_lt hlt), if_pos (Nat.ne_of_lt hlt), if_pos (Or.inl hlt)]
  · rw [Nat.min_self, if_neg (fun hne => hne rfl), if_neg, if_neg]
    · omega
    · rintro ⟨-, hlt⟩
      exact Nat.lt_irrefl _ hlt
  · rw [Nat.min_eq_left (Nat.le_of_lt hgt), if_neg (fun hne => hne rfl)]
    cases sili with
    | false => rw [if_pos ⟨rfl, hgt⟩, if_pos (Or.inr ⟨hgt, rfl⟩)]
    | true =>
      rw [if_neg (fun hn => absurd hn.1 (by decide)), if_neg]
      rintro (hlt | ⟨-, hfalse⟩)
      · omega
      · exact absurd hfalse (by decide)

/-- A block is sent as far as it was asked for. -/
theorem readOne_block (cdb : Cdb) {bs : List UInt8}
    (h : ReadReady L d p i l (.block bs :: items)) (hsz : 0 < sz) :
    ReadLeft d (Ssc.readOne L cdb sz d) p l (i + 1) (bs.take sz)
      (if bs.length < sz ∨ (sz < bs.length ∧ sili cdb = false) then
        some (mk_sense_short_block sz bs.length) else none) := by
  obtain ⟨r, hr, ⟨b, rfl, hrec, -⟩, -⟩ := items_cons h.items
  obtain ⟨st₀, heq, -⟩ := d.checked_report
  have hat : At (d.report st₀).cart p l i := At.congr h.at_pos rfl rfl rfl
  obtain ⟨hi, -⟩ := List.getElem?_eq_some_iff.mp hr
  have hzero : (0 : ℕ) ≠ 3 := by decide
  obtain ⟨stored, -, hread⟩ := readBlock_data hat h.length hr hrec (Nat.ne_of_gt hsz) (sili cdb) hzero
  let e := readDone (d.report st₀) p l i bs.length b.bytes.length
  have hate : At e.cart p l (i + 1) := At.moved hat hi
  have hkept : SettingsKept d e := ⟨⟨_, _, _, _, _, _, _, _, rfl⟩, fun _ _ => rfl, rfl⟩
  have hprot : protectBlock L (d.report st₀) 0 stored bs = bs := rfl
  have hsent : (if sz < bs.length then takePad sz bs else bs) = bs.take sz := by
    split
    · rename_i hgt
      rw [takePad, Nat.sub_eq_zero_of_le (Nat.le_of_lt hgt), List.replicate_zero, List.append_nil]
    · rename_i hle
      exact (List.take_of_length_le (Nat.le_of_not_lt hle)).symm
  rw [h.readOne, heq, hread]
  simp only [hprot, hsent, ne_eq, not_true_eq_false, if_false, List.length_take, reportLength_cut]
  split
  · exact ⟨rfl, At.congr hate rfl rfl rfl, hkept.trans (SettingsKept.of_cart e rfl), rfl⟩
  · exact ⟨rfl, hate, hkept, by rw [heq]; rfl⟩

/-- Two places of one store are the same. -/
theorem At.unique {c : Store} {j : ℕ} (h : At c p l i) (h' : At c p l j) : i = j :=
  h.blk_number.symm.trans h'.blk_number

/-- In front of a block a FIXED read sends it, or stops behind it. -/
theorem FixedRead.block_inv {n k s : ℕ} {bs out : List UInt8} {stop : Option Status}
    (h : FixedRead s (n + 1) (.block bs :: items) out k stop) :
    (bs.length = s ∧ ∃ out' k', out = bs ++ out' ∧ k = k' + 1 ∧
      FixedRead s n items out' k' stop) ∨
    (bs.length ≠ s ∧ k = 1 ∧ stop = some (lengthMet (n + 1))) := by
  cases h with
  | block hlen rest => exact Or.inl ⟨hlen, _, _, rfl, rfl, rest⟩
  | other n m items hlen hm => exact Or.inr ⟨hlen, rfl, rfl⟩

/-- Where no bytes come, a FIXED read stops and counts what is missing. -/
theorem readBlocks_stops {n j : ℕ} {stop : Status} (hfixed : fixedBlock cdb = true)
    (h : ReadReady L d p i l items)
    (hone : ReadLeft d (Ssc.readOne L cdb sz d) p l j [] (some stop)) :
    ∃ d', readBlocks L cdb sz (n + 1) d = some ([], d') ∧ At d'.cart p l j ∧
      d'.cart.status = stop.withInformation (n + 1) := by
  have hlen : (Ssc.readOne L cdb sz d).1.length = 0 := by rw [hone.out, List.length_nil]
  have hstop : (Ssc.readOne L cdb sz d).2.cart.status = stop := hone.ends
  refine ⟨(Ssc.readOne L cdb sz d).2.report ((Ssc.readOne L cdb sz d).2.cart.status.withInformation
    (n + 1)), ?_, At.congr hone.at_pos rfl rfl rfl, ?_⟩
  · rw [readBlocks_passed h.check, if_pos ⟨hlen, hfixed⟩, hone.out]
  · rw [← hstop]
    rfl

/-- Where bytes come, it goes on behind them, whatever was reported. -/
theorem readBlocks_goes_on (cdb : Cdb) {n : ℕ} {bs : List UInt8} (hsz : 0 < sz)
    (hbs : bs ≠ []) (h : ReadReady L d p i l (.block bs :: items)) :
    readBlocks L cdb sz (n + 1) d = (readBlocks L cdb sz n (Ssc.readOne L cdb sz d).2).map
        (fun r => (bs.take sz ++ r.1, r.2)) ∧
      ReadReady L (Ssc.readOne L cdb sz d).2 p (i + 1) l items := by
  have hone := readOne_block cdb h hsz
  have hne : (Ssc.readOne L cdb sz d).1.length ≠ 0 := by
    have hpos := List.length_pos_of_ne_nil hbs
    rw [hone.out, List.length_take]
    omega
  constructor
  · rw [readBlocks_passed h.check, if_neg (fun hz => hne hz.1), hone.out]
  · exact h.next hone.at_pos hone.kept

/-- The number of missing blocks replaces the difference of the lengths. -/
theorem short_withInformation (a b m : ℕ) :
    (mk_sense_short_block a b).withInformation m = lengthMet m := by
  have htwice : ∀ (s : Status) (k : ℕ),
      (s.withInformation k).withInformation m = s.withInformation m := fun _ _ => rfl
  rw [mk_sense_short_block, htwice, lengthMet]

/-- An empty block stops a FIXED read, which counts it as missing. -/
theorem readBlocks_empty {n : ℕ} (hfixed : fixedBlock cdb = true) (hsz : 0 < sz)
    (h : ReadReady L d p i l (.block [] :: items)) :
    ∃ d', readBlocks L cdb sz (n + 1) d = some ([], d') ∧ At d'.cart p l (i + 1) ∧
      d'.cart.status = lengthMet (n + 1) := by
  have hone := readOne_block cdb h hsz
  have hshort : ([] : List UInt8).length < sz := hsz
  rw [if_pos (Or.inl hshort), List.take_nil] at hone
  obtain ⟨d', hrun, hat, hst⟩ := readBlocks_stops (n := n) hfixed h hone
  rw [short_withInformation] at hst
  exact ⟨d', hrun, hat, hst⟩

/-- A FIXED read of some blocks gets further, or ends at the end of the data. -/
theorem readBlocks_progress {n : ℕ} (hfixed : fixedBlock cdb = true) (hsz : 0 < sz)
    (h : ReadReady L d p i l items) :
    ∃ r j, readBlocks L cdb sz n d = some r ∧ At r.2.cart p l j ∧
      (i + min n 1 ≤ j ∨ (j = i ∧ ∃ m, r.2.cart.status = endMet m)) := by
  induction n generalizing d i items with
  | zero => exact ⟨([], d), i, rfl, h.at_pos, Or.inl (Nat.le_refl i)⟩
  | succ n ih =>
    have hone : i + min (n + 1) 1 = i + 1 := by omega
    rw [hone]
    cases items with
    | nil =>
      obtain ⟨d', hrun, hat, hst⟩ := readBlocks_stops (n := n) hfixed h (readOne_eod h hsz)
      exact ⟨([], d'), i, hrun, hat, Or.inr ⟨rfl, n + 1, hst⟩⟩
    | cons x rest =>
      cases x with
      | filemark =>
        obtain ⟨d', hrun, hat, -⟩ := readBlocks_stops (n := n) hfixed h (readOne_filemark h hsz)
        exact ⟨([], d'), i + 1, hrun, hat, Or.inl (Nat.le_refl _)⟩
      | block bs =>
        by_cases hbs : bs = []
        · subst hbs
          obtain ⟨d', hrun, hat, -⟩ := readBlocks_empty (n := n) hfixed hsz h
          exact ⟨([], d'), i + 1, hrun, hat, Or.inl (Nat.le_refl _)⟩
        · obtain ⟨hrun, hnext⟩ := readBlocks_goes_on cdb (n := n) hsz hbs h
          obtain ⟨r, j, hr, hat, hj⟩ := ih hnext
          rw [hr, Option.map_some] at hrun
          refine ⟨_, j, hrun, hat, Or.inl ?_⟩
          rcases hj with hle | ⟨rfl, -⟩
          · omega
          · exact Nat.le_refl _

/-- What a FIXED read leaves is accounted for. -/
def Accounted (p i : ℕ) (l : List Record) (s n : ℕ) (items : List Item)
    (r : List UInt8 × Drive) : Prop :=
  ∃ k stop, FixedRead s n items r.1 k stop ∧ At r.2.cart p l (i + k) ∧ Ends r.2 stop

/-- The difference of the lengths is the number of missing blocks, one, when the block is one byte
short. -/
theorem lengthMet_one_iff {n : ℕ} (hsz : 0 < sz) (hlt : sz < 2 ^ 32) (hn : n < 2 ^ 32) :
    mk_sense_short_block sz n = lengthMet 1 ↔ n + 1 = sz := by
  have hinfo : mk_sense_short_block sz n = lengthMet 1 ↔ (sz + 2 ^ 32 - n) % 2 ^ 32 = 1 := by
    constructor
    · intro h
      exact congrArg (fun st => st.sense.information) h
    · intro h
      rw [mk_sense_short_block, h, lengthMet]
  rw [hinfo]
  omega

/-- The end of the data is not mistaken for a block of another length. -/
theorem endMet_ne_lengthMet (m n : ℕ) : endMet m ≠ lengthMet n := by
  intro h
  have hkey : BLANK_CHECK = NO_SENSE ||| SD_ILI := congrArg (fun st => st.sense.key) h
  exact absurd hkey (by decide)

/-- In front of a block of another length the read accounts for itself when the block is empty,
or the last one and one byte short. -/
theorem readBlocks_other_iff {n : ℕ} {bs : List UInt8} (hfixed : fixedBlock cdb = true)
    (hsili : sili cdb = false) (hsz : 0 < sz) (hlt : sz < 2 ^ 32)
    (h : ReadReady L d p i l (.block bs :: items)) (hlen : bs.length ≠ sz) :
    ∃ r, readBlocks L cdb sz (n + 1) d = some r ∧
      (Accounted p i l sz (n + 1) (.block bs :: items) r ↔
        bs = [] ∨ (n = 0 ∧ bs.length + 1 = sz)) := by
  by_cases hbs : bs = []
  · subst hbs
    obtain ⟨d', hrun, hat, hst⟩ := readBlocks_empty (n := n) hfixed hsz h
    have hother := FixedRead.other (s := sz) n 0 items hlen (Nat.zero_le _)
    exact ⟨_, hrun, iff_of_true ⟨1, _, hother, hat, hst⟩ (Or.inl rfl)⟩
  · have hone := readOne_block cdb h hsz
    have hreported : bs.length < sz ∨ (sz < bs.length ∧ sili cdb = false) := by
      rcases Nat.lt_or_gt_of_ne hlen with hlt' | hgt
      · exact Or.inl hlt'
      · exact Or.inr ⟨hgt, hsili⟩
    rw [if_pos hreported] at hone
    obtain ⟨hrun, hnext⟩ := readBlocks_goes_on cdb (n := n) hsz hbs h
    obtain ⟨r, -, ⟨b, rfl, hrec, -⟩, -⟩ := items_cons h.items
    have hbound : bs.length < 2 ^ 32 := by
      rw [← hrec.size]
      exact b.info.blk_size.toNat_lt
    cases n with
    | zero =>
      refine ⟨(bs.take sz ++ [], (Ssc.readOne L cdb sz d).2), hrun, ?_⟩
      have hiff := lengthMet_one_iff hsz hlt hbound
      have hst : (Ssc.readOne L cdb sz d).2.cart.status = mk_sense_short_block sz bs.length :=
        hone.ends
      constructor
      · rintro ⟨k, stop, hread, -, hends⟩
        rcases hread.block_inv with ⟨heq, -⟩ | ⟨-, -, rfl⟩
        · exact absurd heq hlen
        · exact Or.inr ⟨rfl, hiff.mp (hst.symm.trans hends)⟩
      · rintro (hnil | ⟨-, hshort⟩)
        · exact absurd hnil hbs
        · refine ⟨1, some (lengthMet 1), ?_, hone.at_pos, hst.trans (hiff.mpr hshort)⟩
          rw [List.append_nil]
          exact .other 0 sz items hlen (Nat.le_refl _)
    | succ n =>
      obtain ⟨r, j, hr, hat, hj⟩ := readBlocks_progress (n := n + 1) hfixed hsz hnext
      rw [hr, Option.map_some] at hrun
      refine ⟨_, hrun, iff_of_false ?_ ?_⟩
      · rintro ⟨k, stop, hread, hat', hends⟩
        rcases hread.block_inv with ⟨heq, -⟩ | ⟨-, rfl, rfl⟩
        · exact hlen heq
        · have hplace : j = i + 1 := At.unique hat hat'
          rcases hj with hle | ⟨-, m, hm⟩
          · omega
          · exact endMet_ne_lengthMet m _ (hm.symm.trans hends)
      · rintro (hnil | ⟨hzero, -⟩)
        · exact hbs hnil
        · omega

/-- A FIXED read accounts for what it sends exactly when the lengths agree. -/
theorem readBlocks_fixed_iff {n : ℕ} (hfixed : fixedBlock cdb = true) (hsili : sili cdb = false)
    (hsz : 0 < sz) (hlt : sz < 2 ^ 32) (h : ReadReady L d p i l items)
    (hgood : d.sam_stat = SAM_STAT_GOOD) :
    ∃ r, readBlocks L cdb sz n d = some r ∧
      (Accounted p i l sz n items r ↔ LengthsAgree sz n items) := by
  induction n generalizing d i items with
  | zero =>
    refine ⟨([], d), rfl, iff_of_true ⟨0, none, .done items, h.at_pos, hgood⟩ ?_⟩
    unfold LengthsAgree
    trivial
  | succ n ih =>
    cases items with
    | nil =>
      obtain ⟨d', hrun, hat, hst⟩ := readBlocks_stops (n := n) hfixed h (readOne_eod h hsz)
      exact ⟨_, hrun, iff_of_true ⟨0, _, .eod n, hat, hst⟩ trivial⟩
    | cons x rest =>
      cases x with
      | filemark =>
        obtain ⟨d', hrun, hat, hst⟩ := readBlocks_stops (n := n) hfixed h (readOne_filemark h hsz)
        exact ⟨_, hrun, iff_of_true ⟨1, _, .filemark n rest, hat, hst⟩ trivial⟩
      | block bs =>
        by_cases hlen : bs.length = sz
        · have hone := readOne_block cdb h hsz
          have hquiet : ¬(bs.length < sz ∨ (sz < bs.length ∧ sili cdb = false)) := by omega
          rw [if_neg hquiet] at hone
          have hbs : bs ≠ [] := by
            rintro rfl
            exact absurd hlen (Nat.ne_of_lt hsz)
          obtain ⟨hrun, hnext⟩ := readBlocks_goes_on cdb (n := n) hsz hbs h
          obtain ⟨r, hr, hiff⟩ := ih hnext (hone.good hgood)
          rw [hr, Option.map_some, List.take_of_length_le (Nat.le_of_eq hlen)] at hrun
          refine ⟨_, hrun, ?_⟩
          rw [LengthsAgree, if_pos hlen, ← hiff]
          constructor
          · rintro ⟨k, stop, hread, hat, hends⟩
            rcases hread.block_inv with ⟨-, out', k', hout, rfl, hrest⟩ | ⟨hne, -⟩
            · have hsame : r.1 = out' := List.append_cancel_left hout
              rw [← hsame] at hrest
              exact ⟨k', stop, hrest, by rwa [Nat.add_assoc, Nat.add_comm 1], hends⟩
            · exact absurd hlen hne
          · rintro ⟨k, stop, hread, hat, hends⟩
            refine ⟨k + 1, stop, .block hlen hread, ?_, hends⟩
            rwa [Nat.add_assoc, Nat.add_comm 1] at hat
        · obtain ⟨r, hr, hiff⟩ := readBlocks_other_iff (n := n) hfixed hsili hsz hlt h hlen
          rw [LengthsAgree, if_neg hlen]
          exact ⟨r, hr, hiff⟩

/-- A FIXED read of blocks without length reads nothing. -/
theorem readBlocks_nothing {n : ℕ} (hfixed : fixedBlock cdb = true)
    (h : ReadReady L d p i l items) (hsz : sz = 0) : ∃ r, readBlocks L cdb sz n d = some r := by
  cases n with
  | zero => exact ⟨_, rfl⟩
  | succ n =>
    have hnil : (Ssc.readOne L cdb sz d).1.length = 0 := by
      rw [h.readOne, readBlock, if_pos hsz, List.length_nil]
    rw [readBlocks_passed h.check, if_pos ⟨hnil, hfixed⟩]
    exact ⟨_, rfl⟩

/-- A READ of one block that is not FIXED reads it. -/
theorem readBlocks_one (hfixed : fixedBlock cdb = false) (h : ReadReady L d p i l items) :
    readBlocks L cdb sz 1 d =
      some ((Ssc.readOne L cdb sz d).1, (Ssc.readOne L cdb sz d).2) := by
  have hnot : ¬((Ssc.readOne L cdb sz d).1.length = 0 ∧ fixedBlock cdb = true) := by
    rw [hfixed]
    exact fun hz => Bool.false_ne_true hz.2
  rw [readBlocks_passed h.check, if_neg hnot]
  simp only [readBlocks, Option.map_some, List.append_nil]

/-- What is said behind a block is right unless it is a short one that is not to be reported. -/
theorem readOne_variable_iff {bs : List UInt8} (hsz : 0 < sz)
    (h : ReadReady L d p i l (.block bs :: items)) (hgood : d.sam_stat = SAM_STAT_GOOD) :
    ((Ssc.readOne L cdb sz d).1 = bs.take sz ∧ At (Ssc.readOne L cdb sz d).2.cart p l (i + 1) ∧
      Ends (Ssc.readOne L cdb sz d).2 (if bs.length ≠ sz ∧ sili cdb = false then
        some (mk_sense_short_block sz bs.length) else none)) ↔
      (sili cdb = true → sz ≤ bs.length) := by
  have hone := readOne_block cdb h hsz
  constructor
  · rintro ⟨-, -, hends⟩ hsili
    by_contra hshort
    have hquiet : ¬(bs.length ≠ sz ∧ sili cdb = false) := fun hq => by
      rw [hsili] at hq
      exact absurd hq.2 (by decide)
    have hst := hone.ends
    rw [if_pos (Or.inl (Nat.lt_of_not_le hshort))] at hst
    rw [if_neg hquiet] at hends
    have hcheck : SAM_STAT_CHECK_CONDITION = SAM_STAT_GOOD :=
      (congrArg Status.sam_stat hst).symm.trans hends
    exact absurd hcheck (by decide)
  · intro hreach
    have hsame : (bs.length < sz ∨ (sz < bs.length ∧ sili cdb = false)) ↔
        (bs.length ≠ sz ∧ sili cdb = false) := by
      cases hs : sili cdb with
      | false =>
        simp only [and_true]
        omega
      | true =>
        have hle := hreach hs
        constructor
        · rintro (hlt | ⟨-, hf⟩)
          · omega
          · exact absurd hf (by decide)
        · rintro ⟨-, hf⟩
          exact absurd hf (by decide)
    refine ⟨hone.out, hone.at_pos, ?_⟩
    simp only [hsame] at hone
    by_cases hother : bs.length ≠ sz ∧ sili cdb = false
    · rw [if_pos hother] at hone ⊢
      exact hone.ends
    · rw [if_neg hother] at hone ⊢
      exact hone.good hgood

end One

end Places

/-- A READ that is not refused reads blocks. -/
theorem ReadReady.run {L : Libs} {d : Drive} {p i : ℕ} {l : List Record} {items : List Item}
    (h : ReadReady L d p i l items) {cdb : Cdb} (hc : ¬(sili cdb = true ∧ fixedBlock cdb = true)) :
    ssc_read_6 L d cdb = readBlocks L cdb (opcode_6_params d cdb).2 (opcode_6_params d cdb).1
      d.declare_ssc_vars := by
  have hl : ¬TAPE_LOADED = TAPE_LOADING := by decide
  have hidem : d.declare_ssc_vars.declare_ssc_vars = d.declare_ssc_vars := rfl
  have hload : d.declare_ssc_vars.load_status = TAPE_LOADED := h.loaded
  have htype : ¬d.declare_ssc_vars.cart.mam.MediumType = MEDIA_TYPE_CLEAN := h.type
  have hparams : opcode_6_params d.declare_ssc_vars cdb = opcode_6_params d cdb := rfl
  simp only [ssc_read_6, hparams, if_neg hc]
  simp only [complete_read_6, hidem, hload, if_neg hl, if_true, if_neg htype]

/-- READ(6) with FIXED and SILI is refused. Any other READ(6) sends what lies behind the position
and accounts for it exactly when the lengths that it meets are reported. -/
theorem read_accounts {L : Libs} {d : Drive} {p i : ℕ} {l : List Record} {items : List Item}
    (h : ReadReady L d p i l items) (cdb : Cdb) :
    ∃ r, ssc_read_6 L d cdb = some r ∧
      if sili cdb = true ∧ fixedBlock cdb = true then
        r.1 = [] ∧ At r.2.cart p l i ∧ r.2.cart.status =
          sam_illegal_request E_INVALID_FIELD_IN_CDB (some ⟨SKSV ||| CD, 1⟩)
      else
        Accounts cdb (opcode_6_params d cdb).2 (opcode_6_params d cdb).1 p i l items r.1 r.2 ↔
          LengthsReported cdb (opcode_6_params d cdb).2 (opcode_6_params d cdb).1 items := by
  by_cases hc : sili cdb = true ∧ fixedBlock cdb = true
  · let st := sam_illegal_request E_INVALID_FIELD_IN_CDB (some ⟨SKSV ||| CD, 1⟩)
    refine ⟨([], d.declare_ssc_vars.report st), ?_, ?_⟩
    · simp only [ssc_read_6, if_pos hc]
      rfl
    · rw [if_pos hc]
      exact ⟨rfl, At.congr h.at_pos rfl rfl rfl, rfl⟩
  have hstart : ReadReady L d.declare_ssc_vars p i l items :=
    ⟨At.congr h.at_pos rfl rfl rfl, h.length, h.items, h.loaded, h.type, h.plain, h.clear⟩
  rw [h.run hc]
  simp only [if_neg hc]
  have hlt : (opcode_6_params d cdb).2 < 2 ^ 32 := by
    have hlt := opcode_6_params_lt d cdb
    omega
  cases hfixed : fixedBlock cdb with
  | true =>
    have hsili : sili cdb = false := by
      cases hs : sili cdb with
      | false => rfl
      | true => exact absurd ⟨hs, hfixed⟩ hc
    by_cases hsz : 0 < (opcode_6_params d cdb).2
    · obtain ⟨r, hr, hiff⟩ := readBlocks_fixed_iff (n := (opcode_6_params d cdb).1) hfixed hsili hsz
        hlt hstart rfl
      refine ⟨r, hr, ?_⟩
      rw [LengthsReported, if_pos hfixed, ← hiff]
      constructor
      · intro hacc _
        exact hacc.fixed hfixed hsz
      · intro hacc
        refine ⟨fun _ _ => hacc hsz, fun hf => ?_⟩
        exact absurd (hfixed.symm.trans hf) (by decide)
    · obtain ⟨r, hr⟩ := readBlocks_nothing (n := (opcode_6_params d cdb).1) hfixed hstart
        (Nat.eq_zero_of_not_pos hsz)
      exact ⟨r, hr, iff_of_true ⟨fun _ hpos => absurd hpos hsz, fun _ hpos => absurd hpos hsz⟩
        fun hpos => absurd hpos hsz⟩
  | false =>
    have hcount : (opcode_6_params d cdb).1 = 1 := by
      have hnot : ¬fixedBlock cdb = true := by
        rw [hfixed]
        exact Bool.false_ne_true
      rw [opcode_6_params, if_neg hnot]
    rw [hcount]
    refine ⟨_, readBlocks_one hfixed hstart, ?_⟩
    rw [LengthsReported, if_neg (by rw [hfixed]; exact Bool.false_ne_true)]
    constructor
    · intro hacc hsz bs rest hitems
      subst hitems
      exact (readOne_variable_iff hsz hstart rfl).mp (hacc.unfixed hfixed hsz bs rest rfl)
    · intro hreach
      refine ⟨fun hf => absurd (hfixed.symm.trans hf) Bool.false_ne_true, ?_⟩
      intro _ hsz bs rest hitems
      subst hitems
      exact (readOne_variable_iff hsz hstart rfl).mpr (hreach hsz bs rest rfl)

/-- A block of one byte in the clear. -/
def plainBlock : BlockArgs :=
  nocompArgs storedLibs { emptyDrive with app_encr_info := false } (fun _ => 7) 1 false

/-- A drive with blocks of one byte, whose tape has this block, at the start of the tape. -/
def plainDrive : Drive :=
  { emptyDrive with
    cart := (emptyDrive.cart.write_tape_block plainBlock).2.rewind_tape.2
    app_encr_info := false
    modeBlockDescriptor := fun k => if k = 7 then 1 else 0 }

/-- The head is in front of the block. -/
theorem plainDrive_at : At plainDrive.cart 0 [.data (dataBlock plainBlock)] 0 := by
  obtain ⟨c', hrun, hw⟩ := write_tape_block_ok emptyDrive_at plainBlock (Nat.zero_le _) (okFor_nil _)
  have hat : At c' 0 [.data (dataBlock plainBlock)] 1 := hw.at_end
  obtain ⟨c₀, hrewind, hsought⟩ := rewind_tape_ok hat (by decide)
  have hcart : plainDrive.cart = c₀ := by
    rw [plainDrive, hrun]
    exact congrArg Prod.snd hrewind
  rw [hcart]
  exact hsought.at_pos hat

/-- READ(6) with some flags and transfer length. -/
def readCdb (flags n : UInt8) : Cdb
  | 1 => flags
  | 4 => n
  | _ => 0

/-- A FIXED read of three blocks sends the one there is and reports the end of the data. -/
theorem read_accounts_plainDrive : ∃ r, ssc_read_6 storedLibs plainDrive (readCdb 1 3) = some r ∧
    Accounts (readCdb 1 3) 1 3 0 0 [.data (dataBlock plainBlock)] [.block [7]] r.1 r.2 := by
  have hrec : Recorded storedLibs (dataBlock plainBlock) [7] := nocomp_recorded (by decide) false
  have hready : ReadReady storedLibs plainDrive 0 0 [.data (dataBlock plainBlock)] [.block [7]] := by
    refine ⟨plainDrive_at, by decide, ?_, rfl, ?_, rfl, by decide⟩
    · have hclear : (dataBlock plainBlock).info.blk_flags &&& BLKHDR_FLG_ENCRYPTED = 0 := by decide
      exact .cons ⟨_, rfl, hrec, fun henc => henc hclear⟩ .nil
    · decide +kernel
  obtain ⟨r, hr, hiff⟩ := read_accounts hready (readCdb 1 3)
  have hparams : opcode_6_params plainDrive (readCdb 1 3) = (3, 1) := by decide +kernel
  have hc : ¬(sili (readCdb 1 3) = true ∧ fixedBlock (readCdb 1 3) = true) := by decide
  rw [if_neg hc, hparams] at hiff
  refine ⟨r, hr, hiff.mpr fun _ => ?_⟩
  have hfixed : fixedBlock (readCdb 1 3) = true := by decide
  rw [if_pos hfixed]
  exact trivial

/-- WRITE(6) of a block of so many bytes. -/
def writeCdb (n : UInt8) : Cdb
  | 4 => n
  | _ => 0

/-- A tape of blocks of one, two and one bytes, rewound, on a drive with blocks of one byte. -/
def mixedDrive : Drive :=
  afterCommands [.write_6 (writeCdb 1) fun _ => 7, .write_6 (writeCdb 2) fun _ => 7,
    .write_6 (writeCdb 1) fun _ => 7, .rewind]

/-- The drive with blocks of one byte. -/
def oneByteBlocks (d : Drive) : Drive :=
  { d with modeBlockDescriptor := fun k => if k = 7 then 1 else 0 }

/-- A FIXED read of three blocks of one byte meets one of two bytes. It goes on behind it and is
good. A read of two bytes that is not to report lengths reports the block of one byte. -/
theorem mixed_lengths_not_reported :
    ((ssc_read_6 storedLibs (oneByteBlocks mixedDrive) (readCdb 1 3)).map fun r =>
      (r.1, r.2.sam_stat, r.2.cart.c_pos.blk_number)) = some ([7, 7, 7], SAM_STAT_GOOD, 3) ∧
    ((ssc_read_6 storedLibs mixedDrive (readCdb 2 2)).map fun r =>
      (r.1, r.2.cart.status)) = some ([7], mk_sense_short_block 2 1) := by
  decide +kernel

end Mhvtl.Ssc
