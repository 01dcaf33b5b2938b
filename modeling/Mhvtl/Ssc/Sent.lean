import Mhvtl.Ssc.Residuals

/-!
# What a WRITE(6) records of the data sent

Every block of a FIXED write is taken from the start of the data, so the medium
holds what was sent when the blocks are equal. A variable write of no bytes
records an empty block.
-/

namespace Mhvtl.Ssc

open Bytes Cart Store

/-- The blocks that the initiator sent with the command. -/
def sentBlocks (d : Drive) (cdb : Cdb) (data : ℕ → UInt8) : List (List UInt8) :=
  let count := (opcode_6_params d cdb).1
  let sz := (opcode_6_params d cdb).2
  if fixedBlock cdb then (List.range count).map fun k => bytesAt data (k * sz) sz
  else if sz = 0 then [] else [bytesAt data 0 sz]

/-- Block `j` reads back as the bytes: after a LOCATE, every request that has room gets
exactly them. -/
def ReadsBack (L : Libs) (d : Drive) (j : ℕ) (bs : List UInt8) : Prop :=
  ∀ sz sili, bs.length ≤ sz → sz ≠ 0 →
    (readBlock L (d.onCart fun c => (c.position_to_block j).2) sz sili 0).1 = bs

/-- The records behind some new ones at index `i`; with none of them nothing is cut. -/
def appended (l : List Record) (i : ℕ) (rs : List Record) : List Record :=
  if rs = [] then l else l.take i ++ rs

/-- Exactly the given blocks were appended at index `i` of the records `l`. -/
structure RecordsSent (L : Libs) (d' : Drive) (p i : ℕ) (l : List Record)
    (sent : List (List UInt8)) : Prop where
  /-- So many records were appended, and the drive stands behind them. -/
  at_end : ∃ rs, rs.length = sent.length ∧ At d'.cart p (appended l i rs) (i + sent.length)
  /-- They read back as what was sent. -/
  reads : ∀ k bs, sent[k]? = some bs → ReadsBack L d' (i + k) bs

/-- A WRITE(6) that is let through on a medium that keeps data, with room for its blocks, no
check words and no host call that fails. -/
structure WriteHere (L : Libs) (d : Drive) (cdb : Cdb) (data : ℕ → UInt8) (p i : ℕ)
    (l : List Record) : Prop where
  /-- Where the drive stands. -/
  at_pos : At d.cart p l i
  /-- The attribute files can be written. -/
  attrs : AttrsOpen d.cart
  /-- Every host call succeeds. -/
  io : d.cart.io = []
  /-- The write is let through. -/
  admitted : Admitted d
  /-- The medium keeps data. -/
  keeps : d.cart.mam.MediumType ≠ MEDIA_TYPE_NULL
  /-- The compression level exists. -/
  level : d.CompressionValid
  /-- Check words are off. -/
  unguarded : writeLbpMethod d = 0
  /-- The blocks fit in front of the end of the partition and of its warnings, and can be
  numbered. -/
  room : 0 < (opcode_6_params d cdb).1 → ∃ cap stored,
    medium_partition_capacity L d p = some cap ∧
    storedSize L d data (opcode_6_params d cdb).2 = some stored ∧
    offsetOf l i + ((opcode_6_params d cdb).1 - 1) * stored < cap ∧
    (1 < (opcode_6_params d cdb).1 →
      ¬Warns d cap (offsetOf l i + ((opcode_6_params d cdb).1 - 1) * stored)) ∧
    i + ((opcode_6_params d cdb).1 - 1) ≤ MAX_BLK_NUMBER

/-- When the medium holds what was sent: the blocks of a FIXED write are equal, and the format
lets the drive go on behind the first one; a variable write sends something. -/
def SentWhen (d : Drive) (cdb : Cdb) (data : ℕ → UInt8) : Prop :=
  let count := (opcode_6_params d cdb).1
  let sz := (opcode_6_params d cdb).2
  let e := setup_crypto (writeStart d)
  if fixedBlock cdb then (∀ k, k < count → bytesAt data (k * sz) sz = bytesAt data 0 sz) ∧
    (1 < count → e.sam_stat = SAM_STAT_GOOD) ∧ (2 < count → FormatAccepts e)
  else sz ≠ 0

section Recorded

variable {L : Libs} {d : Drive} {data : ℕ → UInt8} {sz p i : ℕ} {l : List Record}

/-- A block that is added records the start of the data. -/
theorem writeBlock_records (hL : L.Lossless) (h : At d.cart p l i) (hio : d.cart.io = [])
    (hnull : d.cart.mam.MediumType ≠ MEDIA_TYPE_NULL) (hlevel : d.CompressionValid)
    (hplain : writeLbpMethod d = 0) (hsz : sz < 2 ^ 24) (hadds : addsBlock L d data sz = true) :
    ∃ k d' b, writeBlock L d data sz = some (k, d') ∧ Recorded L b (bytesAt data 0 sz) ∧
      At d'.cart p (l.take i ++ [.data b]) (i + 1) ∧ d'.cart.io = [] := by
  obtain ⟨cap, a, hr, hrec⟩ := (addsBlock_iff hnull).mp hadds
  have hb := (setup_crypto_beside d).1
  have hat := hb.tape.at_pos h
  have hio' : (setup_crypto d).cart.io = [] := hb.tape.io hio
  have hi : i ≤ MAX_BLK_NUMBER := by
    rw [← hat.blk_number]
    exact hrec.2.2.2.1
  have hguard : ∀ c, guardFails { setup_crypto d with cart := c } data sz 0
      (L.crc32c 0 (bytesAt data 0 sz)) = false := by
    intro c
    exact decide_eq_false fun hf => hf.2.1 rfl
  obtain ⟨e, b, hrun, hw⟩ := writeChosen_ok hL hat hi (by rw [hio']; exact okFor_nil _) hsz hnull
    hlevel hguard
  have hbelow : ¬cap ≤ d.cart.current_tape_offset := by
    have hroom := hr.room
    omega
  have hword : ¬(writeLbpMethod d ≠ 0 ∧ sz < 4) := fun hf => hf.1 hplain
  have hend : At e.cart p (l.take i ++ [.data b]) (i + 1) := by
    have hlen : (l.take i ++ [Record.data b]).length = i + 1 := by
      rw [List.length_append, List.length_take_of_le h.le, List.length_singleton]
    have hat' := hw.written.at_end
    rwa [hlen] at hat'
  have hioe : e.cart.io = [] := by
    rw [hw.written.io, hio', List.drop_nil]
  have hsize : (if writeLbpMethod d ≠ 0 then sz - 4 else sz) = sz := if_neg (not_not_intro hplain)
  have hform : writeBlock L d data sz =
      if sz = 0 then some (0, e) else some (sz, warnAndCount e cap) := by
    have hrun' : writeChosen L d data sz (writeLbpMethod d) = (sz, e) := by
      rw [hplain]
      exact hrun
    simp only [writeBlock, hr.capacity, if_neg hbelow, if_neg hword, hsize, hrun']
  by_cases hz : sz = 0
  · rw [if_pos hz] at hform
    exact ⟨0, e, b, hform, hw.recorded, hend, hioe⟩
  · rw [if_neg hz] at hform
    refine ⟨sz, _, b, hform, hw.recorded, warnAndCount_at hend cap, ?_⟩
    exact (warnAndCount_beside e cap).tape.io hioe

/-- Records put behind a new one. -/
theorem appended_cons (hi : i ≤ l.length) (r : Record) (rs : List Record) :
    appended (l.take i ++ [r]) (i + 1) rs = appended l i (r :: rs) := by
  have hlen : (l.take i ++ [r]).length = i + 1 := by
    rw [List.length_append, List.length_take_of_le hi, List.length_singleton]
  unfold appended
  rw [if_neg (List.cons_ne_nil r rs)]
  cases rs with
  | nil => exact if_pos rfl
  | cons r' rs =>
    rw [if_neg (List.cons_ne_nil r' rs), ← hlen, List.take_length, List.append_assoc]
    rfl

/-- The compression level is a setting. -/
theorem Drive.CompressionValid.kept {d' : Drive} (hlevel : d.CompressionValid)
    (hk : SettingsKept d d') : d'.CompressionValid := by
  obtain ⟨c, v, m, n, r, s, w, x, rfl⟩ := hk.eq
  exact hlevel

/-- A row of blocks that are all added: each of them records the start of the data. -/
theorem writeBlocks_records {n : ℕ} (hL : L.Lossless) (h : At d.cart p l i) (hio : d.cart.io = [])
    (hnull : d.cart.mam.MediumType ≠ MEDIA_TYPE_NULL) (hlevel : d.CompressionValid)
    (hplain : writeLbpMethod d = 0) (hsz : sz < 2 ^ 24) (hall : blocksAdded L data sz n d = n) :
    ∃ (d' : Drive) (bs : List DataBlock), writeBlocks L data sz n d = some d' ∧ bs.length = n ∧
      (∀ b ∈ bs, Recorded L b (bytesAt data 0 sz)) ∧
      At d'.cart p (appended l i (bs.map .data)) (i + n) := by
  induction n generalizing d i l with
  | zero =>
    refine ⟨_, [], rfl, rfl, fun b hb => absurd hb List.not_mem_nil, ?_⟩
    exact At.congr h rfl rfl rfl
  | succ n ih =>
    have hbool := Bool.toNat_le (addsBlock L d data sz)
    have hadds : addsBlock L d data sz = true := by
      by_contra hno
      rw [Bool.not_eq_true] at hno
      unfold blocksAdded at hall
      rw [hno] at hall
      cases hblk : writeBlock L d data sz with
      | none =>
        rw [hblk] at hall
        exact absurd hall (Nat.succ_ne_zero n).symm
      | some r =>
        rw [hblk] at hall
        have hle := blocksAdded_le L data sz n r.2
        dsimp only [Bool.toNat_false] at hall
        split at hall
        · omega
        · omega
    obtain ⟨k, d₁, b, hrun, hrec, hat, hio₁⟩ :=
      writeBlock_records hL h hio hnull hlevel hplain hsz hadds
    have hkept := (writeBlock_moves hnull hrun).1
    have hlen : (l.take i ++ [Record.data b]).length = i + 1 := by
      rw [List.length_append, List.length_take_of_le h.le, List.length_singleton]
    have hone : ∀ d₂ : Drive, At d₂.cart p (l.take i ++ [.data b]) (i + 1) →
        At d₂.cart p (appended l i ([b].map .data)) (i + 1) := fun _ h₂ => h₂
    have hsingle : ∀ b' ∈ [b], Recorded L b' (bytesAt data 0 sz) := by
      intro b' hb'
      rw [List.mem_singleton.mp hb']
      exact hrec
    unfold blocksAdded at hall
    rw [hadds, hrun] at hall
    dsimp only [Bool.toNat_true] at hall
    unfold writeBlocks
    rw [hrun]
    dsimp only
    by_cases hgood : d₁.sam_stat = SAM_STAT_GOOD
    · rw [if_neg (not_not_intro hgood)] at hall ⊢
      obtain ⟨d', bs, hrun', hbs, hrecs, hat'⟩ := ih hat hio₁ (by rw [hkept.type]; exact hnull)
        (hlevel.kept hkept) ((payload_kept L data sz hkept).1.trans hplain)
        (by omega)
      refine ⟨d', b :: bs, hrun', by rw [List.length_cons, hbs], ?_, ?_⟩
      · intro b' hb'
        rcases List.mem_cons.mp hb' with rfl | hmem
        · exact hrec
        · exact hrecs b' hmem
      · rw [appended_cons h.le, Nat.add_assoc, Nat.add_comm 1 n] at hat'
        exact hat'
    · rw [if_pos hgood] at hall ⊢
      have hn : n = 0 := by omega
      subst hn
      exact ⟨d₁, [b], rfl, rfl, hsingle, hone d₁ hat⟩

/-- A recorded block reads back. -/
theorem readsBack {i' : ℕ} {b : DataBlock} {bs : List UInt8} (h : At d.cart p l i')
    (hl : l.length < 2 ^ 32) (hb : l[i]? = some (.data b)) (hr : Recorded L b bs) :
    ReadsBack L d i bs := by
  intro sz sili hle hsz
  obtain ⟨hi, -⟩ := List.getElem?_eq_some_iff.mp hb
  obtain ⟨c', hseek, hsought⟩ := position_to_block_ok h hl i
  rw [Nat.min_eq_left (Nat.le_of_lt hi)] at hsought
  have hat : At (d.onCart fun c => (c.position_to_block i).2).cart p l i := by
    rw [Drive.onCart_cart, hseek]
    exact hsought.at_pos h
  obtain ⟨stored, -, hread⟩ := readBlock_data hat hl hb hr hsz sili (by decide : (0 : ℕ) ≠ 3)
  have hnot : ¬sz < bs.length := by omega
  rw [hread]
  exact if_neg hnot

/-- It reads back as one thing only. -/
theorem ReadsBack.unique {bs bs' : List UInt8} (h : ReadsBack L d i bs) (h' : ReadsBack L d i bs') :
    bs = bs' := by
  have hsz : bs.length + bs'.length + 1 ≠ 0 := Nat.succ_ne_zero _
  rw [← h _ false (by omega) hsz]
  exact h' _ false (by omega) hsz

end Recorded

section Here

variable {L : Libs} {d : Drive} {cdb : Cdb} {data : ℕ → UInt8} {p i : ℕ} {l : List Record}

/-- In front of the first block the drive stands where it stood, with a good status. -/
theorem WriteHere.start (h : WriteHere L d cdb data p i l) :
    At (writeStart d).cart p l i ∧ (writeStart d).cart.io = [] ∧
      (writeStart d).sam_stat = SAM_STAT_GOOD := by
  have hb := (writeStart_left d).1
  have hat : At (d.declare_ssc_vars.onCart fun c => { c with OK_to_write := true }).cart p l i :=
    At.congr h.at_pos rfl rfl rfl
  have hio : OkFor 1 d.cart.io := by
    rw [h.io]
    exact okFor_nil 1
  have href := update_volume_change_reference_ok hat
    ⟨h.attrs.mamfile, h.attrs.mam, h.attrs.mhvtlfile, h.attrs.mhvtl_data⟩ hio
  exact ⟨href.at_pos, hb.tape.io h.io, congrArg Status.sam_stat href.status⟩

/-- Its files can be used, and its host calls succeed. -/
theorem At.usable {c : Store} (h : At c p l i) (k : FileKind) : Usable c k p := by
  refine ⟨h.opened k, ?_⟩
  obtain ⟨fi, hfi, -⟩ := h.rep.indx
  obtain ⟨fd, hfd, -⟩ := h.rep.data
  obtain ⟨fm, hfm, -⟩ := h.rep.metaf
  cases k with
  | indx => exact Option.isSome_iff_exists.mpr ⟨fi, hfi⟩
  | data => exact Option.isSome_iff_exists.mpr ⟨fd, hfd⟩
  | metaf => exact Option.isSome_iff_exists.mpr ⟨fm, hfm⟩

/-- There only the format can stand against a row of blocks. -/
theorem WriteHere.row (h : WriteHere L d cdb data p i l) (hn : 0 < (opcode_6_params d cdb).1) :
    (∃ cap stored, Uninterrupted L (writeStart d) data (opcode_6_params d cdb).2
      (opcode_6_params d cdb).1 cap stored) ↔
    (1 < (opcode_6_params d cdb).1 →
      (setup_crypto (writeStart d)).sam_stat = SAM_STAT_GOOD) ∧
    (2 < (opcode_6_params d cdb).1 → FormatAccepts (setup_crypto (writeStart d))) := by
  constructor
  · rintro ⟨cap, stored, hu⟩
    exact ⟨hu.status, hu.format⟩
  · rintro ⟨hstatus, hformat⟩
    obtain ⟨cap, stored, hcap, hsize, hroom, hwarn, hmax⟩ := h.room hn
    obtain ⟨hat, hio, -⟩ := h.start
    have hkept := (writeStart_left d).1.toSettingsKept
    obtain ⟨hmethod, hpay, hwarns, -⟩ := payload_kept L data 0 hkept
    have hplain : writeLbpMethod (writeStart d) = 0 := hmethod.trans h.unguarded
    have hb := (setup_crypto_beside (writeStart d)).1
    have hat' := hb.tape.at_pos hat
    have hpay₀ : payload (writeStart d) (opcode_6_params d cdb).2 = (opcode_6_params d cdb).2 :=
      if_neg (not_not_intro hplain)
    refine ⟨cap, stored, ?_, fun hf => hf.1 hplain, ?_, ⟨?_, ?_⟩, fun _ => ?_, ?_, ?_, ?_, hstatus,
      fun _ => ?_, fun hmany _ => ?_, hformat⟩
    · rw [hkept.capacity, hat.partition_id]
      exact hcap
    · rw [hpay₀, storedSize_kept hkept]
      exact hsize
    · rw [hat.partition_id]
      exact At.usable hat' .data
    · rw [hat.partition_id]
      exact At.usable hat' .indx
    · rw [hat'.partition_id]
      exact ⟨At.usable hat' .indx, At.usable hat' .data, fun _ => At.usable hat' .metaf⟩
    · rw [hat.data_offset]
      exact hroom
    · rw [hat.blk_number]
      exact hmax
    · rw [hb.tape.io hio]
      exact okFor_nil _
    · unfold WordWrong
      rw [hplain, Bool.not_eq_true]
      exact decide_eq_false fun hf => hf.2.1 rfl
    · rw [hwarns, hat.data_offset]
      exact hwarn hmany

/-- How the write runs. -/
theorem WriteHere.run (h : WriteHere L d cdb data p i l) : ssc_write_6 L d cdb data =
    writeBlocks L data (opcode_6_params d cdb).2 (opcode_6_params d cdb).1 (writeStart d) := by
  rcases ssc_write_6_cases (L := L) (d := d) cdb data with ⟨-, hno, -⟩ | ⟨hno, -⟩ | ⟨-, -, hrun, -⟩
  · exact absurd h.admitted hno
  · exact absurd h.admitted hno
  · exact hrun

/-- The medium keeps data when the first block is written. -/
theorem WriteHere.start_keeps (h : WriteHere L d cdb data p i l) :
    (writeStart d).cart.mam.MediumType ≠ MEDIA_TYPE_NULL := by
  rw [(writeStart_left d).1.type]
  exact h.keeps

/-- When every block is added, each of them holds the start of the data and reads back so. -/
theorem WriteHere.recorded (hL : L.Lossless) (h : WriteHere L d cdb data p i l)
    (hall : blocksAdded L data (opcode_6_params d cdb).2 (opcode_6_params d cdb).1 (writeStart d) =
      (opcode_6_params d cdb).1) :
    ∃ (d' : Drive) (rs : List Record), ssc_write_6 L d cdb data = some d' ∧
      rs.length = (opcode_6_params d cdb).1 ∧
      At d'.cart p (appended l i rs) (i + (opcode_6_params d cdb).1) ∧
      ∀ k, k < (opcode_6_params d cdb).1 →
        ReadsBack L d' (i + k) (bytesAt data 0 (opcode_6_params d cdb).2) := by
  obtain ⟨hat, hio, -⟩ := h.start
  have hkept := (writeStart_left d).1.toSettingsKept
  have hplain : writeLbpMethod (writeStart d) = 0 :=
    (payload_kept L data 0 hkept).1.trans h.unguarded
  obtain ⟨d', bs, hrun, hlen, hrec, hend⟩ := writeBlocks_records hL hat hio h.start_keeps
    (h.level.kept hkept) hplain (opcode_6_params_lt d cdb) hall
  have hmap : (bs.map Record.data).length = (opcode_6_params d cdb).1 := by
    rw [List.length_map, hlen]
  refine ⟨d', bs.map .data, h.run.trans hrun, hmap, hend, fun k hk => ?_⟩
  obtain ⟨cap, stored, -, -, -, -, hmax⟩ := h.room (Nat.zero_lt_of_lt hk)
  have hne : bs.map Record.data ≠ [] := by
    intro hnil
    rw [hnil, List.length_nil] at hmap
    omega
  have hk' : k < bs.length := by omega
  rw [appended, if_neg hne] at hend
  have hnew : (l.take i ++ bs.map Record.data)[i + k]? = some (.data bs[k]) := by
    have htake : (l.take i).length = i := List.length_take_of_le h.at_pos.le
    rw [List.getElem?_append_right (by omega), htake, Nat.add_sub_cancel_left, List.getElem?_map,
      List.getElem?_eq_getElem hk']
    rfl
  have hshort : (l.take i ++ bs.map Record.data).length < 2 ^ 32 := by
    have hM : MAX_BLK_NUMBER = 4294967280 := rfl
    rw [List.length_append, List.length_take_of_le h.at_pos.le, hmap]
    omega
  exact readsBack hend hshort hnew (hrec _ (List.getElem_mem hk'))

/-- Blocks that were all appended were all added. -/
theorem WriteHere.all_added (h : WriteHere L d cdb data p i l) {d' : Drive} {l' : List Record}
    {n : ℕ} (hrun : ssc_write_6 L d cdb data = some d') (hat : At d'.cart p l' (i + n)) :
    blocksAdded L data (opcode_6_params d cdb).2 (opcode_6_params d cdb).1 (writeStart d) = n := by
  rw [h.run] at hrun
  have hmove := (writeBlocks_moves h.start_keeps (writeStart_left d).2 hrun).1
  rw [hat.blk_number, h.start.1.blk_number] at hmove
  omega

/-- Every block is added unless the format stands against it. -/
theorem WriteHere.all_iff (h : WriteHere L d cdb data p i l) :
    blocksAdded L data (opcode_6_params d cdb).2 (opcode_6_params d cdb).1 (writeStart d) =
      (opcode_6_params d cdb).1 ↔
    (1 < (opcode_6_params d cdb).1 →
      (setup_crypto (writeStart d)).sam_stat = SAM_STAT_GOOD) ∧
    (2 < (opcode_6_params d cdb).1 → FormatAccepts (setup_crypto (writeStart d))) := by
  have hrow := h.row
  generalize (opcode_6_params d cdb).1 = n at hrow ⊢
  cases n with
  | zero => exact iff_of_true rfl ⟨fun h1 => by omega, fun h2 => by omega⟩
  | succ n => rw [blocksAdded_eq_iff h.start_keeps, hrow (Nat.succ_pos n)]

/-- A FIXED write. -/
theorem WriteHere.fixed_iff (hL : L.Lossless) (h : WriteHere L d cdb data p i l)
    (hfixed : fixedBlock cdb = true) :
    (∃ d', ssc_write_6 L d cdb data = some d' ∧ RecordsSent L d' p i l (sentBlocks d cdb data)) ↔
      SentWhen d cdb data := by
  have hall := h.all_iff
  have hrec := h.recorded hL
  have hadded := fun n => @WriteHere.all_added L d cdb data p i l h (n := n)
  unfold SentWhen sentBlocks
  rw [if_pos hfixed, if_pos hfixed]
  generalize (opcode_6_params d cdb).1 = n at *
  generalize (opcode_6_params d cdb).2 = sz at *
  have hget : ∀ k, k < n → ((List.range n).map fun k => bytesAt data (k * sz) sz)[k]? =
      some (bytesAt data (k * sz) sz) := by
    intro k hk
    rw [List.getElem?_map, List.getElem?_range hk]
    rfl
  have hlen : ((List.range n).map fun k => bytesAt data (k * sz) sz).length = n := by
    rw [List.length_map, List.length_range]
  constructor
  · rintro ⟨d', hrun, ⟨rs, hrs, hat⟩, hreads⟩
    rw [hlen] at hat
    have hn := hadded n _ _ hrun hat
    obtain ⟨d'', rs', hrun', -, -, hread'⟩ := hrec hn
    cases hrun'.symm.trans hrun
    exact ⟨fun k hk => (hreads k _ (hget k hk)).unique (hread' k hk), hall.mp hn⟩
  · rintro ⟨heq, hformat⟩
    obtain ⟨d', rs, hrun, hrs, hat, hread⟩ := hrec (hall.mpr hformat)
    refine ⟨d', hrun, ⟨rs, hrs.trans hlen.symm, by rwa [hlen]⟩, fun k bs hk => ?_⟩
    have hkn : k < n := by
      rw [← hlen]
      exact (List.getElem?_eq_some_iff.mp hk).1
    rw [hget k hkn, Option.some.injEq] at hk
    rw [← hk, heq k hkn]
    exact hread k hkn

/-- A variable write. -/
theorem WriteHere.variable_iff (hL : L.Lossless) (h : WriteHere L d cdb data p i l)
    (hfixed : ¬fixedBlock cdb = true) :
    (∃ d', ssc_write_6 L d cdb data = some d' ∧ RecordsSent L d' p i l (sentBlocks d cdb data)) ↔
      SentWhen d cdb data := by
  have hone : (opcode_6_params d cdb).1 = 1 := by rw [opcode_6_params, if_neg hfixed]
  have hall := h.all_iff
  have hrec := h.recorded hL
  have hadded := fun n => @WriteHere.all_added L d cdb data p i l h (n := n)
  unfold SentWhen sentBlocks
  rw [if_neg hfixed, if_neg hfixed]
  rw [hone] at hall hrec hadded
  generalize (opcode_6_params d cdb).2 = sz at *
  have hn : blocksAdded L data sz 1 (writeStart d) = 1 :=
    hall.mpr ⟨fun h1 => by omega, fun h2 => by omega⟩
  by_cases hz : sz = 0
  · rw [if_pos hz]
    refine iff_of_false ?_ (not_not_intro hz)
    rintro ⟨d', hrun, ⟨rs, hrs, hat⟩, -⟩
    have hzero := hadded 0 _ _ hrun hat
    omega
  · rw [if_neg hz]
    refine iff_of_true ?_ hz
    obtain ⟨d', rs, hrun, hrs, hat, hread⟩ := hrec hn
    refine ⟨d', hrun, ⟨rs, hrs, hat⟩, fun k bs hk => ?_⟩
    cases k with
    | zero =>
      cases hk
      exact hread 0 Nat.one_pos
    | succ k => cases hk

/-- WRITE(6) records what was sent in exactly these cases. -/
theorem write_records_iff (hL : L.Lossless) (h : WriteHere L d cdb data p i l) :
    (∃ d', ssc_write_6 L d cdb data = some d' ∧ RecordsSent L d' p i l (sentBlocks d cdb data)) ↔
      SentWhen d cdb data := by
  by_cases hfixed : fixedBlock cdb = true
  · exact h.fixed_iff hL hfixed
  · exact h.variable_iff hL hfixed

end Here

/-- Two equal blocks are recorded. -/
theorem write_records_equal : ∃ d', ssc_write_6 storedLibs (oneByteBlocks emptyDrive) (fixedCdb 2)
      (fun _ => 7) = some d' ∧ RecordsSent storedLibs d' 0 0 []
        (sentBlocks (oneByteBlocks emptyDrive) (fixedCdb 2) fun _ => 7) := by
  have hparams : opcode_6_params (oneByteBlocks emptyDrive) (fixedCdb 2) = (2, 1) := by decide +kernel
  have hfixed : fixedBlock (fixedCdb 2) = true := by decide
  have hlevel : (oneByteBlocks emptyDrive).compressionType ≠ ZLIB := by decide
  have htwo : ¬2 < 2 := by decide
  have hat : At (oneByteBlocks emptyDrive).cart 0 [] 0 := At.congr emptyDrive_at rfl rfl rfl
  have hopen : AttrsOpen (oneByteBlocks emptyDrive).cart := ⟨rfl, rfl, rfl, rfl⟩
  have hadmitted : Admitted (oneByteBlocks emptyDrive) := ⟨_, rfl⟩
  have hhere : WriteHere storedLibs (oneByteBlocks emptyDrive) (fixedCdb 2) (fun _ => 7) 0 0 [] := by
    refine ⟨hat, hopen, rfl, hadmitted, by decide, fun h => absurd h hlevel, by decide, fun _ => ?_⟩
    rw [hparams]
    refine ⟨2 ^ 20, 1, by decide +kernel, by decide +kernel, by decide +kernel, fun _ => ?_, by decide⟩
    unfold Warns
    decide +kernel
  refine (write_records_iff storedLibs_lossless hhere).mpr ?_
  unfold SentWhen
  rw [hparams, if_pos hfixed]
  exact ⟨fun _ _ => rfl, fun _ => rfl, fun h => absurd h htwo⟩

/-- The bytes 0, 1 and so on. -/
def counting (k : ℕ) : UInt8 := UInt8.ofNat k

/-- Of the blocks `[0]` and `[1]` the second one reads back as the first. A variable write of no
bytes moves the position. -/
theorem second_block_is_the_first :
    (ssc_write_6 storedLibs (oneByteBlocks emptyDrive) (fixedCdb 2) counting).map (fun d' =>
        (readBlock storedLibs (d'.onCart fun c => (c.position_to_block 1).2) 1 false 0).1) =
      some [0] ∧
    (¬∃ d', ssc_write_6 storedLibs (oneByteBlocks emptyDrive) (fixedCdb 2) counting = some d' ∧
      RecordsSent storedLibs d' 0 0 []
        (sentBlocks (oneByteBlocks emptyDrive) (fixedCdb 2) counting)) ∧
    (ssc_write_6 storedLibs emptyDrive (writeCdb 0) counting).map (fun d' =>
      d'.cart.c_pos.blk_number) = some 1 := by
  have hread : (ssc_write_6 storedLibs (oneByteBlocks emptyDrive) (fixedCdb 2) counting).map
      (fun d' => (readBlock storedLibs (d'.onCart fun c => (c.position_to_block 1).2) 1 false 0).1) =
        some [0] := by
    decide +kernel
  refine ⟨hread, ?_, by decide +kernel⟩
  rintro ⟨d', hrun, hsent⟩
  have hsecond : (sentBlocks (oneByteBlocks emptyDrive) (fixedCdb 2) counting)[1]? = some [1] := by
    decide +kernel
  have hback := hsent.reads 1 [1] hsecond 1 false (Nat.le_refl 1) Nat.one_ne_zero
  rw [hrun, Option.map_some, Option.some.injEq] at hread
  exact absurd (hread.symm.trans hback) (by decide)

end Mhvtl.Ssc
