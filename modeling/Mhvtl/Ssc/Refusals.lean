import Mhvtl.Ssc.Sent

/-!
# What a refused WRITE(6) leaves

A block may be refused for the room, for the compression, for the rules about the
format or for its check word. What each of these leaves on a mounted volume decides
whether a refusal is one: the first two come in front of the write, the rules and the
word are looked at around it.
-/

namespace Mhvtl.Ssc

open Bytes Cart Store

/-- The blocks of a WRITE: in front of `e` there are `c` blocks still to come. -/
inductive Stage (L : Libs) (data : ℕ → UInt8) (sz count : ℕ) (d : Drive) : ℕ → Drive → Prop where
  /-- All of them. -/
  | start : Stage L data sz count d count d
  /-- A block that leaves no status is followed by the next one. -/
  | next {c k : ℕ} {e e' : Drive} (h : Stage L data sz count d (c + 1) e)
    (hrun : writeBlock L e data sz = some (k, e')) (hgood : e'.sam_stat = SAM_STAT_GOOD) :
    Stage L data sz count d c e'

/-- Why the block in front of which the drive stands is refused, host calls apart. -/
inductive RefusedFor (L : Libs) (d : Drive) (data : ℕ → UInt8) (sz : ℕ) : Prop where
  /-- The partition is full. -/
  | overflow {cap : ℕ} (hcap : medium_partition_capacity L d d.cart.partition_id = some cap)
    (hfull : cap ≤ d.cart.current_tape_offset)
  /-- The block cannot be compressed. -/
  | compression {cap : ℕ} (hcap : medium_partition_capacity L d d.cart.partition_id = some cap)
    (hroom : d.cart.current_tape_offset < cap) (hword : ¬(writeLbpMethod d ≠ 0 ∧ sz < 4))
    (hnone : chosenArgs L d data (payload d sz) = none)
  /-- The rules about the format of the medium refuse it. -/
  | protect {cap : ℕ} {a : BlockArgs} (hr : Reaches L d data sz cap a)
    (hlater : d.cart.c_pos.blk_number ≠ 0) (hrules : ¬FormatAccepts d)
  /-- Its check word is found wrong, on a medium where it is looked at. -/
  | guard {cap : ℕ} {a : BlockArgs} (hr : Reaches L d data sz cap a)
    (hnull : a.null_media_type = false) (hwrong : WordWrong L d data sz)

section Blocks

variable {L : Libs} {d d' : Drive} {data : ℕ → UInt8} {sz : ℕ}

/-- The blocks up to a stage are behind. -/
theorem Stage.run {count c : ℕ} {e : Drive} (h : Stage L data sz count d c e) :
    writeBlocks L data sz count d = writeBlocks L data sz c e := by
  induction h with
  | start => rfl
  | next h hrun hgood ih =>
    rw [ih, writeBlocks, hrun]
    dsimp only
    rw [if_neg (not_not.mpr hgood)]

/-- There are no more blocks to come than were asked for. -/
theorem Stage.le {count c : ℕ} {e : Drive} (h : Stage L data sz count d c e) : c ≤ count := by
  induction h with
  | start => exact Nat.le_refl count
  | next _ _ _ ih => omega

/-- In front of all of them nothing has happened. -/
theorem Stage.first {count : ℕ} {e : Drive} (h : Stage L data sz count d count e) : e = d := by
  generalize hc : count = c at h
  cases h with
  | start => rfl
  | next h' =>
    have hle := h'.le
    omega

/-- A block that leaves a status is the last one. -/
theorem Stage.last {count c k : ℕ} {e e' : Drive} (h : Stage L data sz count d (c + 1) e)
    (hrun : writeBlock L e data sz = some (k, e')) (hbad : e'.sam_stat ≠ SAM_STAT_GOOD) :
    writeBlocks L data sz count d = some e' := by
  rw [h.run, writeBlocks, hrun]
  exact if_pos hbad

/-- The arguments know a medium that keeps no data. -/
theorem chosenArgs_null {n : ℕ} {a : BlockArgs} (h : chosenArgs L d data n = some a) :
    a.null_media_type = true ↔ d.cart.mam.MediumType = MEDIA_TYPE_NULL := by
  by_cases hnull : d.cart.mam.MediumType = MEDIA_TYPE_NULL
  · refine iff_of_true ?_ hnull
    unfold chosenArgs at h
    dsimp only at h
    rw [if_pos hnull] at h
    cases h
    rfl
  · refine iff_of_false ?_ hnull
    rw [(writeChosen_some hnull h 0).null]
    exact Bool.false_ne_true

/-- What a block that came to `write_tape_block` leaves. -/
structure Tried (L : Libs) (d : Drive) (data : ℕ → UInt8) (sz : ℕ) (a : BlockArgs) (d' : Drive) :
    Prop where
  /-- Behind it only the status and the remaining capacity change. -/
  noted : ∃ m j, Noted (afterBlock (setup_crypto d) a m j) d'
  /-- A status that is not good stays so. -/
  bad : ((setup_crypto d).cart.write_tape_block a).2.status.sam_stat ≠ SAM_STAT_GOOD →
    d'.sam_stat ≠ SAM_STAT_GOOD
  /-- A wrong check word is reported, on a medium where it is looked at. -/
  wrong : a.null_media_type = false → WordWrong L d data sz → d'.sam_stat ≠ SAM_STAT_GOOD

/-- Every attempt to write a block. -/
theorem writeBlock_tried {cap k : ℕ} {a : BlockArgs} (hr : Reaches L d data sz cap a)
    (hrun : writeBlock L d data sz = some (k, d')) : Tried L d data sz a d' := by
  by_cases hnull : d.cart.mam.MediumType = MEDIA_TYPE_NULL
  · have ha : a = nocompArgs L (setup_crypto d) data (payload d sz) true := by
      have hargs := hr.args
      unfold chosenArgs at hargs
      dsimp only at hargs
      rw [if_pos hnull] at hargs
      exact (Option.some.inj hargs).symm
    have hbelow : ¬cap ≤ d.cart.current_tape_offset := by
      have := hr.room
      omega
    have hchosen : writeChosen L d data (payload d sz) (writeLbpMethod d) =
        (if ((setup_crypto d).cart.write_tape_block a).1 < 0 then 0 else payload d sz,
          afterBlock (setup_crypto d) a (payload d sz) (payload d sz)) := by
      unfold writeChosen
      rw [if_pos hnull, ha]
      unfold writeBlock_nocomp
      dsimp only
      rw [if_neg]
      · rfl
      · intro hfails
        exact absurd rfl (of_decide_eq_true hfails).2.1
    have hsize : (if writeLbpMethod d ≠ 0 then sz - 4 else sz) = payload d sz := rfl
    simp only [writeBlock, hr.capacity, if_neg hbelow, if_neg hr.word] at hrun
    rw [hsize, hchosen] at hrun
    generalize hf : afterBlock (setup_crypto d) a (payload d sz) (payload d sz) = f at hrun
    have hst : f.sam_stat = ((setup_crypto d).cart.write_tape_block a).2.status.sam_stat := by
      rw [← hf]
      rfl
    have hnot : a.null_media_type = false → ¬WordWrong L d data sz := by
      intro hno
      rw [(chosenArgs_null hr.args).mpr hnull] at hno
      cases hno
    have hnoted : Noted (afterBlock (setup_crypto d) a (payload d sz) (payload d sz)) f := by
      rw [← hf]
      exact Noted.refl _
    dsimp only at hrun
    generalize (if ((setup_crypto d).cart.write_tape_block a).1 < 0 then 0 else payload d sz) = src
      at hrun
    by_cases hz : src = 0
    · rw [if_pos hz] at hrun
      cases hrun
      exact ⟨⟨_, _, hnoted⟩, fun hbad => hst ▸ hbad, fun hno hw => absurd hw (hnot hno)⟩
    · rw [if_neg hz] at hrun
      cases hrun
      refine ⟨⟨_, _, hnoted.trans (Noted.warnAndCount _ cap)⟩, fun hbad hgood => ?_,
        fun hno hw => absurd hw (hnot hno)⟩
      rw [← hst] at hbad
      exact hbad ((warnAndCount_sam_stat f cap).1.mp hgood).1
  · obtain ⟨k', e, hwrote, hatt⟩ := writeBlock_attempted hnull hr.capacity hr.room hr.word hr.args
    rw [hwrote] at hrun
    cases hrun
    exact ⟨hatt.noted, fun hbad hgood => hbad (hatt.good.mp hgood).1,
      fun _ hw hgood => (hatt.good.mp hgood).2.1 hw⟩

/-- A block comes to `write_tape_block`, or it is refused in front of it. -/
theorem writeBlock_paths {k : ℕ} (hrun : writeBlock L d data sz = some (k, d')) :
    (∃ cap a, Reaches L d data sz cap a) ∨
      (∀ cap a, ¬Reaches L d data sz cap a) ∧ RefusedFor L d data sz ∧ Beside d d' ∧
        d'.sam_stat ≠ SAM_STAT_GOOD := by
  have hbad : SAM_STAT_CHECK_CONDITION ≠ SAM_STAT_GOOD := by decide
  cases hcap : medium_partition_capacity L d d.cart.partition_id with
  | none =>
    simp only [writeBlock, hcap] at hrun
    cases hrun
  | some cap =>
    by_cases hfull : cap ≤ d.cart.current_tape_offset
    · rw [writeBlock_full hcap hfull] at hrun
      cases hrun
      refine Or.inr ⟨fun cap' a hr => ?_, .overflow hcap hfull,
        (Noted.remaining d 0).beside.trans (Beside.report _ _), hbad⟩
      have hroom := hr.room
      rw [Option.some.inj (hr.capacity.symm.trans hcap)] at hroom
      omega
    · have hroom : d.cart.current_tape_offset < cap := by omega
      by_cases hword : writeLbpMethod d ≠ 0 ∧ sz < 4
      · simp only [writeBlock, hcap, if_neg hfull, if_pos hword] at hrun
        cases hrun
      · cases ha : chosenArgs L d data (payload d sz) with
        | none =>
          rw [writeBlock_unpacked hcap hroom hword ha] at hrun
          cases hrun
          refine Or.inr ⟨fun cap' a hr => ?_, .compression hcap hroom hword ha,
            (setup_crypto_beside d).1.trans (Beside.report _ _), hbad⟩
          have hargs := hr.args
          rw [ha] at hargs
          cases hargs
        | some a => exact Or.inl ⟨cap, a, hcap, hroom, hword, ha⟩

section Mounted

variable {n p i : ℕ} {recs : ℕ → List Record}

/-- A block that comes to `write_tape_block` is recorded, and the position moves over it. -/
theorem Tried.recorded {a : BlockArgs} (ht : Tried L d data sz a d') (h : Mounted n d.cart recs)
    (hp : p < n) (hat : At d.cart p (recs p) i) (hi : i ≤ MAX_BLK_NUMBER) :
    ∃ recs', Mounted n d'.cart recs' ∧ At d'.cart p (recs' p) (i + 1) := by
  have hb := (setup_crypto_beside d).1
  have hm : Mounted n (setup_crypto d).cart recs := hb.mounted h
  have hat' : At (setup_crypto d).cart p (recs p) i := hb.tape.at_pos hat
  have hio : OkFor (overwriteCalls (recs p) i + blockCalls a) (setup_crypto d).cart.io := by
    rw [hm.io]
    exact okFor_nil _
  obtain ⟨c', hrun, hw⟩ := write_tape_block_ok hat' a hi hio
  have hlen : ((recs p).take i ++ [BlockArgs.record a]).length = i + 1 := by
    rw [List.length_append, List.length_singleton, List.length_take_of_le hat.le]
  have hafter := hm.of_written hp hw (by omega)
  obtain ⟨m, j, hnoted⟩ := ht.noted
  have hcart : (afterBlock (setup_crypto d) a m j).cart = c' := by
    change ((setup_crypto d).cart.write_tape_block a).2 = c'
    rw [hrun]
  have htape := hnoted.beside.tape
  rw [hcart] at htape
  refine ⟨_, htape.mounted hafter, ?_⟩
  rw [Function.update_self]
  have hend := htape.at_pos hw.at_end
  rwa [hlen] at hend

/-- Behind the largest block number nothing is touched. -/
theorem Tried.behind {a : BlockArgs} (ht : Tried L d data sz a d') (h : Mounted n d.cart recs)
    (hp : p < n) (hat : At d.cart p (recs p) i) (hi : MAX_BLK_NUMBER < i) :
    SameTape d.cart d'.cart ∧
      ((setup_crypto d).sam_stat ≠ SAM_STAT_GOOD → d'.sam_stat ≠ SAM_STAT_GOOD) := by
  have hb := (setup_crypto_beside d).1
  have hat' : At (setup_crypto d).cart p (recs p) i := hb.tape.at_pos hat
  have hend : (recs p).length ≤ i := by
    have := h.bound p hp
    omega
  have hnot : (setup_crypto d).cart.check_for_overwrite = (0, (setup_crypto d).cart) := by
    simp only [check_for_overwrite, hat'.eod_iff.mpr hend, if_true]
  have hrun : (setup_crypto d).cart.write_tape_block a = (-1, (setup_crypto d).cart) := by
    simp only [Store.write_tape_block, hat'.tape_loaded, Bool.not_true, Bool.false_eq_true, if_false,
      hnot, ne_eq, not_true_eq_false, hat'.blk_number, if_pos hi]
  obtain ⟨m, j, hnoted⟩ := ht.noted
  have hcart : (afterBlock (setup_crypto d) a m j).cart = (setup_crypto d).cart := by
    change ((setup_crypto d).cart.write_tape_block a).2 = _
    rw [hrun]
  have htape := hnoted.beside.tape
  rw [hcart] at htape
  refine ⟨hb.tape.trans htape, fun hbad => ht.bad ?_⟩
  rw [hrun]
  exact hbad

end Mounted

end Blocks

/-- A volume is mounted, and the head stands on one of its partitions. -/
def Standing (n : ℕ) (d : Drive) (recs : ℕ → List Record) (p i : ℕ) : Prop :=
  Mounted n d.cart recs ∧ p < n ∧ At d.cart p (recs p) i

end Mhvtl.Ssc
