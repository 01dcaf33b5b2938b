import Mhvtl.Ssc.Refusals

/-!
# The last check word of a WRITE(6)

A command of several blocks takes every one of them from the start of the data buffer. So the
check words of the others are never looked at, and the one at the end of the transfer need not
be that of what is recorded.
-/

namespace Mhvtl.Ssc

open Bytes Cart Store

/-- The last four bytes that the initiator sends. -/
def transferEnd (d : Drive) (cdb : Cdb) (data : ℕ → UInt8) : List UInt8 :=
  bytesAt data ((opcode_6_params d cdb).1 * (opcode_6_params d cdb).2 - 4) 4

/-- Every block that was recorded reads back as a block whose check word is at the end of the
transfer. -/
def EndGuards (L : Libs) (m : LbpMethod) (d : Drive) (cdb : Cdb) (data : ℕ → UInt8)
    (d' : Drive) : Prop :=
  ∀ j, d.cart.c_pos.blk_number ≤ j → j < d'.cart.c_pos.blk_number → ∃ block,
    ReadsBack L d' j block ∧ (m.checkWord L.crc32c).Matches block (transferEnd d cdb data)

/-- The transfer ends as its first block does, or its blocks have no number. -/
def EndFits (d : Drive) (cdb : Cdb) (data : ℕ → UInt8) : Prop :=
  transferEnd d cdb data = bytesAt data ((opcode_6_params d cdb).2 - 4) 4 ∨
    MAX_BLK_NUMBER < d.cart.c_pos.blk_number

/-- What an accepted WRITE of `count` blocks with their words leaves: no more than so many blocks,
all of them the first one of the buffer. -/
structure RecordsFront (L : Libs) (data : ℕ → UInt8) (n count p i : ℕ) (l : List Record)
    (d' : Drive) (bs : List DataBlock) : Prop where
  /-- No more than were sent. -/
  length_le : bs.length ≤ count
  /-- At least one, if it can be numbered. -/
  ne_nil : 0 < count → i ≤ MAX_BLK_NUMBER → bs ≠ []
  /-- Else none. -/
  unnumbered : MAX_BLK_NUMBER < i → bs = []
  /-- All of them have numbers. -/
  bound : i + bs.length ≤ MAX_BLK_NUMBER + 1
  /-- They hold the front of the buffer. -/
  recorded : ∀ b ∈ bs, Recorded L b (bytesAt data 0 n)
  /-- They are behind the records in front of the position. -/
  at_end : At d'.cart p (appended l i (bs.map .data)) (i + bs.length)

/-- An accepted WRITE to a data medium on which the head stands records the first block of the
transfer, and its end guards that just when it fits. -/
def EndsByFront (L : Libs) (m : LbpMethod) : Prop :=
  ∀ (d d' : Drive) (cdb : Cdb) (data : ℕ → UInt8) (n p i : ℕ) (recs : ℕ → List Record),
    Standing n d recs p i → d.cart.mam.MediumType = MEDIA_TYPE_DATA → d.CompressionValid →
    d.LBP_W = true → UsesMethod d m → 0 < (opcode_6_params d cdb).1 →
    4 < (opcode_6_params d cdb).2 → ssc_write_6 L d cdb data = some d' → Accepted d' →
    (∃ bs, RecordsFront L data ((opcode_6_params d cdb).2 - 4) (opcode_6_params d cdb).1 p i
      (recs p) d' bs) ∧ (EndGuards L m d cdb data d' ↔ EndFits d cdb data)

section Blocks

variable {L : Libs} {d d' : Drive} {m : LbpMethod} {data : ℕ → UInt8} {k n p i size : ℕ}
variable {recs : ℕ → List Record}

/-- The settings of a protected write. -/
structure Guards (d : Drive) (m : LbpMethod) : Prop where
  /-- The medium keeps data. -/
  keeps : d.cart.mam.MediumType ≠ MEDIA_TYPE_NULL
  /-- The compression level exists. -/
  level : d.CompressionValid
  /-- Check words are looked at. -/
  guarded : d.LBP_W = true
  /-- By the method. -/
  method : UsesMethod d m

/-- Blocks leave them alone. -/
theorem Guards.kept (h : Guards d m) (hk : SettingsKept d d') : Guards d' m := by
  have hkeeps := h.keeps
  rw [← hk.type] at hkeeps
  obtain ⟨c, v, x, mb, r, s, w, y, rfl⟩ := hk.eq
  exact ⟨hkeeps, h.level, h.guarded, ⟨h.method.method, h.method.order, h.method.supported⟩⟩

/-- An accepted block was in front of the end of its partition. -/
theorem room_of_accepted {sz : ℕ} (hrun : writeBlock L d data sz = some (k, d'))
    (hacc : Accepted d') : ∃ cap, medium_partition_capacity L d d.cart.partition_id = some cap ∧
      d.cart.current_tape_offset < cap := by
  have hkey : VOLUME_OVERFLOW ||| SD_EOM ≠ NO_SENSE ||| SD_EOM := by decide
  cases hcap : medium_partition_capacity L d d.cart.partition_id with
  | none =>
    simp only [writeBlock, hcap] at hrun
    cases hrun
  | some cap =>
    refine ⟨cap, rfl, ?_⟩
    by_contra hfull
    rw [writeBlock_full hcap (Nat.le_of_not_lt hfull)] at hrun
    cases hrun
    exact not_accepted rfl hkey hacc

/-- An accepted block with a number is recorded. -/
theorem writeBlock_recorded (hL : L.Lossless) (hs : Standing n d recs p i) (hg : Guards d m)
    (hi : i ≤ MAX_BLK_NUMBER) (hpos : 0 < size) (hlt : size < 2 ^ 24)
    (hrun : writeBlock L d data (size + 4) = some (k, d')) (hacc : Accepted d') :
    ∃ b, Recorded L b (bytesAt data 0 size) ∧
      Standing n d' (Function.update recs p ((recs p).take i ++ [.data b])) p (i + 1) := by
  obtain ⟨hm, hp, hat⟩ := hs
  obtain ⟨n', hsize, hv⟩ := guarded_of_writeBlock hg.keeps hg.guarded hg.method hrun hacc
  obtain rfl : n' = size := by omega
  obtain ⟨cap, hcap, hroom⟩ := room_of_accepted hrun hacc
  have hoff : d.cart.current_tape_offset = offsetOf (recs p) i := by
    rw [current_tape_offset, hat.partition_id, if_pos (hat.opened .data), hat.data_offset]
  rw [hat.partition_id] at hcap
  rw [hoff] at hroom
  have hb := (setup_crypto_beside d).1
  have hcrypto := setup_crypto_plain hg.method.supported
  have hguard : ∀ c, guardFails { setup_crypto d with cart := c } data n' (writeLbpMethod d)
      (L.crc32c 0 (bytesAt data 0 n')) = false := by
    intro c
    rw [hcrypto, hg.method.writeLbpMethod hg.guarded, guardFails, hv]
    exact decide_eq_false fun hn => Bool.noConfusion hn.2.2
  have hio : OkFor (overwriteCalls (recs p) i + 2) (setup_crypto d).cart.io := by
    rw [(hb.mounted hm).io]
    exact okFor_nil _
  obtain ⟨e, b, hwrote, hw⟩ := writeBlock_ok hL hat (hb.tape.at_pos hat) hi hio hpos hlt hg.keeps
    hg.level hcap hroom hguard
  have hsize' : transferSize d n' = n' + 4 := by
    have hnum := m.number_cases
    rw [transferSize, hg.method.writeLbpMethod hg.guarded, if_pos (by omega)]
  rw [hsize', hrun] at hwrote
  obtain rfl := (Prod.mk.inj (Option.some.inj hwrote)).2
  have hlen : ((recs p).take i ++ [Record.data b]).length = i + 1 := by
    rw [List.length_append, List.length_take_of_le hat.le, List.length_singleton]
  have hmounted := (hb.mounted hm).of_written hp hw.written (by omega)
  have hend := hw.written.at_end
  rw [hlen] at hend
  refine ⟨b, hw.recorded, (warnAndCount_beside e cap).mounted hmounted, hp, ?_⟩
  rw [Function.update_self]
  exact warnAndCount_at hend cap

/-- One without a number leaves everything as it was. -/
theorem writeBlock_unnumbered {sz : ℕ} (hs : Standing n d recs p i) (hi : MAX_BLK_NUMBER < i)
    (hrun : writeBlock L d data sz = some (k, d')) : Standing n d' recs p i := by
  obtain ⟨hm, hp, hat⟩ := hs
  rcases writeBlock_paths hrun with ⟨cap, a, hr⟩ | ⟨-, -, hb, -⟩
  · have htape := ((writeBlock_tried hr hrun).behind hm hp hat hi).1
    exact ⟨htape.mounted hm, hp, htape.at_pos hat⟩
  · exact ⟨hb.mounted hm, hp, hb.tape.at_pos hat⟩

/-- The position is at most one behind the largest block number. -/
theorem Standing.le_max (hs : Standing n d recs p i) : i ≤ MAX_BLK_NUMBER + 1 :=
  hs.2.2.le.trans (hs.1.bound p hs.2.1)

/-- A row of blocks that is accepted at its end. -/
theorem writeBlocks_recorded {count : ℕ} (hL : L.Lossless) (hs : Standing n d recs p i)
    (hg : Guards d m) (hpos : 0 < size) (hlt : size < 2 ^ 24)
    (hrun : writeBlocks L data (size + 4) count d = some d') (hacc : Accepted d') :
    ∃ bs, RecordsFront L data size count p i (recs p) d' bs := by
  induction count generalizing d recs i with
  | zero =>
    obtain rfl := Option.some.inj hrun
    exact ⟨[], le_rfl, fun h => absurd h (lt_irrefl 0), fun _ => rfl, hs.le_max,
      fun b hb => absurd hb List.not_mem_nil, At.congr hs.2.2 rfl rfl rfl⟩
  | succ count ih =>
    rw [writeBlocks] at hrun
    cases hblk : writeBlock L d data (size + 4) with
    | none =>
      rw [hblk] at hrun
      cases hrun
    | some r =>
      obtain ⟨k, e⟩ := r
      rw [hblk] at hrun
      dsimp only at hrun
      have hg' := hg.kept (writeBlock_moves hg.keeps hblk).1
      have hacc₁ : Accepted e := by
        by_cases hgood : e.sam_stat = SAM_STAT_GOOD
        · exact Or.inl hgood
        · rw [if_pos hgood] at hrun
          obtain rfl := Option.some.inj hrun
          exact hacc
      rcases Nat.lt_or_ge MAX_BLK_NUMBER i with hbig | hi
      · -- no block behind the largest number is recorded, nor any that follows
        have hs' := writeBlock_unnumbered hs hbig hblk
        by_cases hgood : e.sam_stat = SAM_STAT_GOOD
        · rw [if_neg (not_not_intro hgood)] at hrun
          obtain ⟨bs, hbs⟩ := ih hs' hg' hrun
          exact ⟨bs, hbs.length_le.trans (Nat.le_succ count), fun _ hle => by omega, hbs.unnumbered,
            hbs.bound, hbs.recorded, hbs.at_end⟩
        · rw [if_pos hgood] at hrun
          obtain rfl := Option.some.inj hrun
          exact ⟨[], Nat.zero_le _, fun _ hle => by omega, fun _ => rfl, hs'.le_max,
            fun b hb => absurd hb List.not_mem_nil, hs'.2.2⟩
      · obtain ⟨b, hb, hs'⟩ := writeBlock_recorded hL hs hg hi hpos hlt hblk hacc₁
        by_cases hgood : e.sam_stat = SAM_STAT_GOOD
        · rw [if_neg (not_not_intro hgood)] at hrun
          obtain ⟨bs, hbs⟩ := ih hs' hg' hrun
          have hat := hbs.at_end
          have hbound := hbs.bound
          rw [Function.update_self, appended_cons hs.2.2.le] at hat
          rw [Nat.add_assoc, Nat.add_comm 1] at hat hbound
          refine ⟨b :: bs, Nat.succ_le_succ hbs.length_le, fun _ _ => List.cons_ne_nil b bs,
            fun hbig => by omega, hbound, ?_, hat⟩
          intro b' hb'
          rcases List.mem_cons.mp hb' with rfl | hmem
          · exact hb
          · exact hbs.recorded b' hmem
        · rw [if_pos hgood] at hrun
          obtain rfl := Option.some.inj hrun
          have hat := hs'.2.2
          rw [Function.update_self] at hat
          refine ⟨[b], Nat.succ_le_succ (Nat.zero_le count), fun _ _ => List.cons_ne_nil b [],
            fun hbig => by omega, hs'.le_max, ?_, hat⟩
          intro b' hb'
          rw [List.mem_singleton.mp hb']
          exact hb

/-- The blocks read back as the front of the buffer. -/
theorem RecordsFront.readsBack {count j : ℕ} {l : List Record} {bs : List DataBlock}
    (h : RecordsFront L data size count p i l d' bs) (hi : i ≤ l.length) (hij : i ≤ j)
    (hj : j < i + bs.length) : ReadsBack L d' j (bytesAt data 0 size) := by
  have hat := h.at_end
  have hne : bs.map Record.data ≠ [] := by
    intro hnil
    rw [List.map_eq_nil_iff.mp hnil, List.length_nil] at hj
    omega
  rw [appended, if_neg hne] at hat
  have htake : (l.take i).length = i := List.length_take_of_le hi
  have hk : j - i < bs.length := by omega
  have hrecord : (l.take i ++ bs.map Record.data)[j]? = some (.data bs[j - i]) := by
    rw [List.getElem?_append_right (by omega), htake, List.getElem?_map, List.getElem?_eq_getElem hk]
    rfl
  have hshort : (l.take i ++ bs.map Record.data).length < 2 ^ 32 := by
    have hbound := h.bound
    have hmax : MAX_BLK_NUMBER = 4294967280 := rfl
    rw [List.length_append, htake, List.length_map]
    omega
  exact Ssc.readsBack hat hshort hrecord (h.recorded _ (List.getElem_mem hk))

end Blocks

/-- The end of the transfer decides, since nothing else of it is looked at. -/
theorem ends_by_front {L : Libs} (hL : L.Lossless) (m : LbpMethod) : EndsByFront L m := by
  intro d d' cdb data n p i recs hs hdata hlevel hlbp hm hcount hlong hrun hacc
  obtain ⟨hmount, hp, hat⟩ := hs
  have hb := (writeStart_left d).1
  have hkept := hb.toSettingsKept
  have hblocks := writeBlocks_of_accepted hdata hrun hacc
  have hkeeps : d.cart.mam.MediumType ≠ MEDIA_TYPE_NULL := by
    rw [hdata]
    decide
  have hguards : Guards (writeStart d) m := (Guards.mk hkeeps hlevel hlbp hm).kept hkept
  have hsize := opcode_6_params_lt d cdb
  obtain ⟨size, hsz⟩ : ∃ size, (opcode_6_params d cdb).2 = size + 4 :=
    ⟨_, (Nat.sub_add_cancel hlong.le).symm⟩
  rw [EndFits, hsz, Nat.add_sub_cancel]
  rw [hsz] at hblocks hsize hlong
  obtain ⟨bs, hbs⟩ := writeBlocks_recorded hL ⟨hb.mounted hmount, hp, hb.tape.at_pos hat⟩ hguards
    (by omega) (by omega) hblocks hacc
  refine ⟨⟨bs, hbs⟩, ?_⟩
  have hfirst : (m.checkWord L.crc32c).Matches (bytesAt data 0 size) (bytesAt data size 4) := by
    obtain ⟨k, e, hblk, hacc₁⟩ := writeBlocks_accepted hcount hblocks hacc
    obtain ⟨size', hsame, hv⟩ := guarded_of_writeBlock hguards.keeps hguards.guarded hguards.method
      hblk hacc₁
    obtain rfl : size' = size := by omega
    exact matches_of_verify m hguards.method.order hv
  have hback : ∀ j, i ≤ j → j < i + bs.length → ReadsBack L d' j (bytesAt data 0 size) :=
    fun j => hbs.readsBack hat.le
  rw [EndGuards, hat.blk_number, hbs.at_end.blk_number]
  constructor
  · intro hall
    rcases Nat.lt_or_ge MAX_BLK_NUMBER i with hbig | hi
    · exact Or.inr hbig
    · have hne := List.length_pos_of_ne_nil (hbs.ne_nil hcount hi)
      obtain ⟨block, hread, hmatch⟩ := hall i le_rfl (by omega)
      rw [hread.unique (hback i le_rfl (by omega))] at hmatch
      exact Or.inl (hmatch.trans hfirst.symm)
  · rintro (hend | hbig) j hij hj
    · refine ⟨_, hback j hij hj, ?_⟩
      rw [hend]
      exact hfirst
    · rw [hbs.unnumbered hbig, List.length_nil] at hj
      omega

/-- With lossless compression, either method guards blocks on their way: reading sends block and
word, writing accepts just that and records the block. But the word at the end of a transfer guards
what is recorded just when the transfer ends as its first block. -/
theorem lbp_round_trip {L : Libs} (hL : L.Lossless) (m : LbpMethod) :
    ReadsProtected L m ∧ WritesProtected L m ∧ AcceptsOnlyProtected L m ∧ EndsByFront L m :=
  ⟨reads_protected L m, writes_protected hL m, accepts_only_protected L m, ends_by_front hL m⟩

/-- The drive after the byte was written, rewound. -/
def writtenDrive : Drive :=
  ((ssc_write_6 storedLibs guardedDrive fiveBytes guardedByte).getD guardedDrive).onCart
    fun c => c.rewind_tape.2

/-- The guarding drive with blocks of a byte and its word. -/
def guardedBlocks : Drive :=
  { guardedDrive with modeBlockDescriptor := fun k => if k = 7 then 5 else 0 }

/-- It guards by the Reed-Solomon CRC. -/
theorem guardedBlocks_method : UsesMethod guardedBlocks (.rscrc true) := by
  refine ⟨rfl, fun e he => ?_, by decide⟩
  cases he
  rfl

/-- It stands on an empty volume. -/
theorem guardedBlocks_standing : Standing 1 guardedBlocks (fun _ => []) 0 0 :=
  ⟨emptyDrive_mounted, Nat.one_pos, emptyDrive_at⟩

/-- The byte is written, and read back with its word. Of two such blocks the word at the end
guards what is recorded, unless only the first one is sent with its word. -/
theorem lbp_round_trip_byte :
    (∃ d', ssc_read_6 storedLibs writtenDrive fiveBytes = some (bytesAt guardedByte 0 5, d') ∧
      d'.sam_stat = SAM_STAT_GOOD) ∧
    (∃ d', ssc_write_6 storedLibs guardedBlocks (fixedCdb 2) (fun k => guardedByte (k % 5)) = some d' ∧
      EndGuards storedLibs (.rscrc true) guardedBlocks (fixedCdb 2) (fun k => guardedByte (k % 5)) d') ∧
    ∃ d', ssc_write_6 storedLibs guardedBlocks (fixedCdb 2) guardedByte = some d' ∧
      ¬EndGuards storedLibs (.rscrc true) guardedBlocks (fixedCdb 2) guardedByte d' := by
  obtain ⟨hread, hwrite, -, hends⟩ := lbp_round_trip storedLibs_lossless (.rscrc true)
  have hblocks : ∀ data d', ssc_write_6 storedLibs guardedBlocks (fixedCdb 2) data = some d' →
      Accepted d' → (EndGuards storedLibs (.rscrc true) guardedBlocks (fixedCdb 2) data d' ↔
        EndFits guardedBlocks (fixedCdb 2) data) := fun data d' hrun hacc =>
    (hends guardedBlocks d' (fixedCdb 2) data 1 0 0 _ guardedBlocks_standing (by decide)
      (fun h => absurd h (by decide)) rfl guardedBlocks_method (by decide) (by decide) hrun hacc).2
  have hready : WriteReady storedLibs guardedDrive 0 0 [] :=
    ⟨emptyDrive_at, ⟨rfl, rfl, by decide +kernel, rfl, fun h => absurd h (by decide)⟩,
      ⟨rfl, rfl, rfl, rfl⟩, fun r hr => absurd hr List.not_mem_nil, by decide,
      fun h => absurd h (by decide), 2 ^ 20, by decide +kernel,
      by decide⟩
  have hbytes : bytesAt guardedByte 0 5 =
      ((LbpMethod.rscrc true).checkWord crc32cBitwise).append [65] := by decide +kernel
  have hmethod : ∀ {d : Drive}, d.LBP_method = 1 → d.lbp_rscrc_be = true →
      d.pm.drive_supports_LBP = 2 → UsesMethod d (.rscrc true) := by
    intro d hm hbe hsup
    refine ⟨hm, fun e he => ?_, by omega⟩
    cases he
    exact hbe.symm
  obtain ⟨d₁, b, hrun, -, hrec, hat⟩ := hwrite guardedDrive fiveBytes guardedByte 0 0 [] [65]
    hready Nat.one_pos rfl (hmethod rfl rfl rfl) (by decide +kernel) hbytes
  have hone : ([] ++ [Record.data b]).length < 2 ^ 32 := Nat.one_lt_two_pow (by decide)
  obtain ⟨c, hrew, hs⟩ := rewind_tape_ok hat hone
  have hcart : writtenDrive.cart = c := by
    rw [writtenDrive, Drive.onCart_cart, hrun, Option.getD_some, hrew]
  have hpos : At writtenDrive.cart 0 [.data b] 0 := by
    rw [hcart]
    exact hs.at_pos hat
  obtain ⟨d', hsent, hgood, -⟩ := hread writtenDrive fiveBytes 0 0 [.data b] b [65] hpos hone rfl
    hrec Nat.one_pos (by decide +kernel) (by decide +kernel) (by decide +kernel)
    (by decide +kernel) (hmethod (by decide +kernel) (by decide +kernel) (by decide +kernel))
    (by decide +kernel) (by decide +kernel)
  refine ⟨⟨d', by rw [hbytes]; exact hsent, hgood⟩, ?_, ?_⟩
  · obtain ⟨e, hrun, hstat⟩ := Option.map_eq_some_iff.mp (show (ssc_write_6 storedLibs guardedBlocks
      (fixedCdb 2) fun k => guardedByte (k % 5)).map Drive.sam_stat = some SAM_STAT_GOOD by
        decide +kernel)
    exact ⟨e, hrun, (hblocks _ e hrun (Or.inl hstat)).mpr (Or.inl (by decide +kernel))⟩
  · obtain ⟨e, hrun, hstat⟩ := Option.map_eq_some_iff.mp (show (ssc_write_6 storedLibs guardedBlocks
      (fixedCdb 2) guardedByte).map Drive.sam_stat = some SAM_STAT_GOOD by decide +kernel)
    refine ⟨e, hrun, fun hguards => ?_⟩
    rcases (hblocks _ e hrun (Or.inl hstat)).mp hguards with hend | hbig
    · revert hend
      decide +kernel
    · exact absurd hbig (by decide +kernel)

/-- Two blocks are accepted and recorded though the last four bytes sent are zeros, which no word of
theirs is. -/
theorem zeros_end_accepted :
    ((ssc_write_6 storedLibs guardedBlocks (fixedCdb 2) guardedByte).map fun d' =>
      (d'.sam_stat, d'.cart.c_pos.blk_number)) = some (SAM_STAT_GOOD, 2) ∧
    transferEnd guardedBlocks (fixedCdb 2) guardedByte = [0, 0, 0, 0] ∧
    ¬∀ (L : Libs) (m : LbpMethod) (d d' : Drive) (cdb : Cdb) (data : ℕ → UInt8), L.Lossless →
      Standing 1 d (fun _ => []) 0 0 → d.LBP_W = true → UsesMethod d m →
      ssc_write_6 L d cdb data = some d' → Accepted d' → EndGuards L m d cdb data d' := by
  have hseen : ((ssc_write_6 storedLibs guardedBlocks (fixedCdb 2) guardedByte).map fun d' =>
      (d'.sam_stat, d'.cart.c_pos.blk_number)) = some (SAM_STAT_GOOD, 2) := by decide +kernel
  have hzeros : transferEnd guardedBlocks (fixedCdb 2) guardedByte = [0, 0, 0, 0] := by decide +kernel
  refine ⟨hseen, hzeros, fun hall => ?_⟩
  obtain ⟨d', hrun, hpair⟩ := Option.map_eq_some_iff.mp hseen
  have hacc : Accepted d' := Or.inl (congrArg Prod.fst hpair)
  have hguards := hall storedLibs (.rscrc true) guardedBlocks d' (fixedCdb 2) guardedByte
    storedLibs_lossless guardedBlocks_standing rfl guardedBlocks_method hrun hacc
  have hfits := (ends_by_front storedLibs_lossless (.rscrc true) guardedBlocks d' (fixedCdb 2)
    guardedByte 1 0 0 _ guardedBlocks_standing (by decide) (fun h => absurd h (by decide)) rfl
    guardedBlocks_method (by decide)
    (by decide) hrun hacc).2.mp hguards
  rcases hfits with hend | hbig
  · revert hend
    decide +kernel
  · exact absurd hbig (by decide +kernel)

end Mhvtl.Ssc
