import Mhvtl.Ssc.Medium

/-!
# What commands do to the records

A WRITE puts blocks behind the head, WRITE FILEMARKS puts filemarks there, ERASE and the reformats
take records away, and every other command leaves all of them alone.
-/

namespace Mhvtl.Ssc

open Bytes Cart Store

/-- The drive lets a command write. -/
def MayWrite (d : Drive) : Prop := ∃ d₁, check_restrictions d = some (true, d₁)

/-- What a command may make of the medium in a drive. -/
inductive Alters (d : Drive) (M : Medium) : MediumCommand → Medium → Prop where
  /-- Nothing. -/
  | keeps (c : MediumCommand) : Alters d M c M
  /-- WRITE puts blocks behind the head. -/
  | write_6 {cdb : Cdb} {data : ℕ → UInt8} {p i : ℕ} {rs : List Record} (allowed : MayWrite d)
    (part : p < M.n) (here : At d.cart p (M.recs p) i) (any : rs ≠ [])
    (blocks : ∀ r ∈ rs, r.isFilemark = false) : Alters d M (.write_6 cdb data) (M.write p i rs)
  /-- WRITE FILEMARKS puts filemarks there. -/
  | write_filemarks {cdb : Cdb} {p i : ℕ}
    (allowed : MayWrite d ∨ d.cart.mam.MediumType = MEDIA_TYPE_WORM ∧ i = 0) (part : p < M.n)
    (here : At d.cart p (M.recs p) i) (any : be24 cdb 2 ≠ 0) :
    Alters d M (.write_filemarks cdb) (M.write p i (List.replicate (be24 cdb 2) .filemark))
  /-- ERASE empties the partition. -/
  | erase {p : ℕ} (allowed : MayWrite d) (part : p < M.n) (here : At d.cart p (M.recs p) 0) :
    Alters d M .erase (M.write p 0 [])
  /-- FORMAT MEDIUM empties all. -/
  | format_medium {cdb : Cdb} {n : ℕ} (allowed : MayWrite d) (front : d.cart.c_pos.blk_number = 0) :
    Alters d M (.format_medium cdb) (Medium.blank n)
  /-- SET CAPACITY does, and nobody asks whether it may. -/
  | set_capacity (front : d.cart.c_pos.blk_number = 0) : Alters d M .set_capacity (Medium.blank 1)

/-- What a command that writes leaves: the tape alone, or records behind the head, and the head
behind them. -/
inductive Wrote (M : Medium) (d : Drive) : Medium → Drive → Prop where
  /-- Nothing was written. -/
  | nothing {d' : Drive} (tape : SameTape d.cart d'.cart) : Wrote M d M d'
  /-- Blocks were. -/
  | blocks {d' : Drive} {p i : ℕ} {rs : List Record} (part : p < M.n)
    (here : At d.cart p (M.recs p) i) (any : rs ≠ []) (blocks : ∀ r ∈ rs, r.isFilemark = false)
    (behind : At d'.cart p ((M.write p i rs).recs p) (i + rs.length)) : Wrote M d (M.write p i rs) d'

section Writing

variable {L : Libs} {M M₁ M₂ : Medium} {d d₁ d₂ : Drive} {data : ℕ → UInt8}

/-- Records behind records. -/
theorem Medium.write_write (M : Medium) {p i : ℕ} (hi : i ≤ (M.recs p).length) (rs rs' : List Record) :
    (M.write p i rs).write p (i + rs.length) rs' = M.write p i (rs ++ rs') := by
  have hlen : ((M.recs p).take i ++ rs).length = i + rs.length := by
    rw [List.length_append, List.length_take_of_le hi]
  simp only [Medium.write, Function.update_self, Function.update_idem]
  rw [← hlen, List.take_length, List.append_assoc]

/-- A position on a tape that was left alone. -/
theorem at_same_iff {c c' : Store} (h : SameTape c c') {p i : ℕ} {l : List Record} :
    At c' p l i ↔ At c p l i :=
  ⟨fun hat => At.congr hat (h.part p).symm h.raw_pos.symm h.fd.symm, h.at_pos⟩

/-- One write after another. -/
theorem Wrote.trans (h : Wrote M d M₁ d₁) (h' : Wrote M₁ d₁ M₂ d₂) : Wrote M d M₂ d₂ := by
  cases h with
  | nothing tape =>
    cases h' with
    | nothing tape' => exact .nothing (tape.trans tape')
    | blocks part here any blocks behind =>
      exact .blocks part ((at_same_iff tape).mp here) any blocks behind
  | blocks part here any blocks behind =>
    rename_i p i rs
    cases h' with
    | nothing tape' => exact .blocks part here any blocks (tape'.at_pos behind)
    | blocks part' here' any' blocks' behind' =>
      rename_i p' i' rs'
      obtain rfl : p' = p := here'.partition_id.symm.trans behind.partition_id
      obtain rfl : i' = i + rs.length := here'.blk_number.symm.trans behind.blk_number
      rw [Medium.write_write M here.le, Nat.add_assoc, ← List.length_append] at behind'
      rw [Medium.write_write M here.le]
      refine .blocks part here (List.append_ne_nil_of_left_ne_nil any _) (fun r hr => ?_) behind'
      exact (List.mem_append.mp hr).elim (blocks r) (blocks' r)

/-- Filemarks that have room in the filemark map, in memory and in the meta file. -/
structure FitsMap (d : Drive) (count : ℕ) : Prop where
  /-- Their numbers fit. -/
  number : d.cart.c_pos.blk_number + count ≤ MAX_FILEMARKS
  /-- The file can be read back. -/
  file : HEADER_SIZE + (d.cart.count_filemarks d.cart.c_pos.blk_number + count) * 4 < 2 ^ 32

/-- A block is no filemark. -/
theorem BlockArgs.isFilemark_record (a : BlockArgs) : (BlockArgs.record a).isFilemark = false := by
  unfold BlockArgs.record
  split <;> rfl

/-- A block behind a position adds no filemark to those in front of it. -/
theorem filemarks_concat_le (l : List Record) (i : ℕ) {r : Record} (h : r.isFilemark = false) :
    (filemarksOf (l.take i ++ [r])).length ≤ (filemarksOf l).length := by
  obtain ⟨m, hm, -⟩ := Records.marks_split Record.isFilemark l i
  rw [filemarksOf, filemarksOf, Records.marks_concat, h, if_neg Bool.false_ne_true, List.append_nil, hm,
    List.length_append]
  exact Nat.le_add_right _ _

/-- Filemarks are counted. -/
theorem filemarks_replicate (l : List Record) (count : ℕ) :
    (filemarksOf (l ++ List.replicate count .filemark)).length = (filemarksOf l).length + count := by
  rw [filemarksOf, filemarksOf, Records.marks, Records.marks, List.length_findIdxs, List.length_findIdxs,
    List.countP_append, List.countP_replicate]
  rfl

/-- Without a cartridge at the head no block is written. -/
theorem write_tape_block_closed {c : Store} (h : ∀ k q, c.fd k q = false) (a : BlockArgs) :
    SameTape c (c.write_tape_block a).2 := by
  have hnone : c.tape_loaded = (false, { c with status := sam_not_ready E_MEDIUM_NOT_PRESENT }) := by
    simp only [Store.tape_loaded, h, Bool.false_eq_true, if_false]
  simp only [Store.write_tape_block, hnone, Bool.not_false, if_true]
  exact SameTape.of_mam c c.mam c.OK_to_write _

/-- One block of a WRITE. -/
theorem writeBlock_wrote {sz k : ℕ} (h : InDrive M d) (hrun : writeBlock L d data sz = some (k, d₁)) :
    ∃ M₁, InDrive M₁ d₁ ∧ Wrote M d M₁ d₁ := by
  have hs := SameCartridge.writeBlock hrun
  have halone : SameTape d.cart d₁.cart → Spare M.n d₁.cart → ∃ M₁, InDrive M₁ d₁ ∧ Wrote M d M₁ d₁ :=
    fun ht hspare => ⟨M, h.same hs (ht.mounted h.mounted) hspare, .nothing ht⟩
  have hpart : SameTape d.cart d₁.cart → Spare M.n d₁.cart := fun ht =>
    h.spare.of_part fun q _ => ht.part q
  rcases writeBlock_paths hrun with ⟨cap, a, hr⟩ | ⟨-, -, hb, -⟩
  · have ht := writeBlock_tried hr hrun
    have hb := (setup_crypto_beside d).1
    obtain ⟨m, j, hnoted⟩ := ht.noted
    have hafter : SameTape ((setup_crypto d).cart.write_tape_block a).2 d₁.cart := hnoted.beside.tape
    rcases h.mounted.place with ⟨p, i, hp, hat⟩ | ⟨hclosed, -⟩
    · by_cases hi : i ≤ MAX_BLK_NUMBER
      · have hat' : At (setup_crypto d).cart p (M.recs p) i := hb.tape.at_pos hat
        have hm : Mounted M.n (setup_crypto d).cart M.recs := hb.mounted h.mounted
        have hio : OkFor (overwriteCalls (M.recs p) i + blockCalls a) (setup_crypto d).cart.io := by
          rw [hm.io]
          exact okFor_nil _
        obtain ⟨c', hwrite, hw⟩ := write_tape_block_ok hat' a hi hio
        rw [hwrite] at hafter
        have hlen : ((M.recs p).take i ++ [BlockArgs.record a]).length = i + 1 := by
          rw [List.length_append, List.length_singleton, List.length_take_of_le hat.le]
        have hbehind : At d₁.cart p ((M.write p i [BlockArgs.record a]).recs p) (i + 1) := by
          have hend := hafter.at_pos hw.at_end
          rw [hlen] at hend
          rwa [show (M.write p i [BlockArgs.record a]).recs p = (M.recs p).take i ++ [BlockArgs.record a]
            from Function.update_self ..]
        have hspare : Spare M.n d₁.cart :=
          (h.spare.of_part fun q _ => hb.tape.part q).of_frame hp hw.frame |>.of_part
            fun q _ => hafter.part q
        have hmarks := filemarks_concat_le (M.recs p) i (BlockArgs.isFilemark_record a)
        have hmap := h.map p hp
        have hkept : d.cart.mam.MediumType ≠ MEDIA_TYPE_NULL → ∀ r ∈ [BlockArgs.record a], r.kept := by
          intro hne r hmem
          have hdata : a.null_media_type = false :=
            Bool.eq_false_iff.mpr fun ht => hne ((chosenArgs_null hr.args).mp ht)
          rw [List.mem_singleton.mp hmem, record_data hdata]
          rfl
        refine ⟨_, h.written hs (hafter.mounted (hm.of_written hp hw (by omega))) hspare (by omega) hkept,
          .blocks hp hat (List.cons_ne_nil _ _) (fun r hmem => ?_) hbehind⟩
        rw [List.mem_singleton.mp hmem]
        exact BlockArgs.isFilemark_record a
      · have htape := (ht.behind h.mounted hp hat (by omega)).1
        exact halone htape (hpart htape)
    · have hclosed' : ∀ k q, (setup_crypto d).cart.fd k q = false := by
        rw [hb.tape.fd]
        exact hclosed
      have htape := (hb.tape.trans (write_tape_block_closed hclosed' a)).trans hafter
      exact halone htape (hpart htape)
  · exact halone hb.tape (hpart hb.tape)

/-- The blocks of a WRITE. -/
theorem writeBlocks_wrote {sz count : ℕ} (h : InDrive M d)
    (hrun : writeBlocks L data sz count d = some d₁) : ∃ M₁, InDrive M₁ d₁ ∧ Wrote M d M₁ d₁ := by
  induction count generalizing M d with
  | zero =>
    cases hrun
    have ht := (Beside.returns d SAM_STAT_GOOD).tape
    exact ⟨M, h.same (.returns d _) (ht.mounted h.mounted) h.spare, .nothing ht⟩
  | succ count ih =>
    unfold writeBlocks at hrun
    cases hblk : writeBlock L d data sz with
    | none =>
      rw [hblk] at hrun
      cases hrun
    | some res =>
      obtain ⟨k, e⟩ := res
      rw [hblk] at hrun
      obtain ⟨M₂, h₂, hw⟩ := writeBlock_wrote h hblk
      dsimp only at hrun
      split at hrun
      · cases hrun
        exact ⟨M₂, h₂, hw⟩
      · obtain ⟨M₃, h₃, hw'⟩ := ih h₂ hrun
        exact ⟨M₃, h₃, hw.trans hw'⟩

/-- A drive beside the tape of a medium. -/
theorem InDrive.beside (h : InDrive M d) (hs : SameCartridge d d₁) (ht : SameTape d.cart d₁.cart) :
    InDrive M d₁ :=
  h.same hs (ht.mounted h.mounted) (h.spare.of_part fun q _ => ht.part q)

/-- The check does not look at the status. -/
theorem check_restrictions_declared (d : Drive) :
    check_restrictions d.declare_ssc_vars = check_restrictions d := rfl

/-- WRITE(6) puts blocks behind the head, if the medium may be written. -/
theorem InDrive.write_6 {cdb : Cdb} (h : InDrive M d) (hrun : ssc_write_6 L d cdb data = some d₁) :
    ∃ M₁, InDrive M₁ d₁ ∧ Alters d M (.write_6 cdb data) M₁ := by
  unfold ssc_write_6 at hrun
  dsimp only at hrun
  rw [check_restrictions_declared] at hrun
  cases hcheck : check_restrictions d with
  | none =>
    rw [hcheck] at hrun
    cases hrun
  | some res =>
    obtain ⟨allowed, e⟩ := res
    rw [hcheck] at hrun
    have he := h.beside (.check_restrictions hcheck) (check_restrictions_beside hcheck).tape
    cases allowed with
    | false =>
      cases hrun
      exact ⟨M, he.beside (.returns e _) (Beside.returns e _).tape, .keeps _⟩
    | true =>
      dsimp only at hrun
      split at hrun
      · have hv := (update_volume_change_reference_beside e).tape
        have hbefore := (check_restrictions_beside hcheck).tape.trans hv
        obtain ⟨M₁, h₁, hw⟩ :=
          writeBlocks_wrote (he.beside (.update_volume_change_reference e) hv) hrun
        refine ⟨M₁, h₁, ?_⟩
        cases hw with
        | nothing tape => exact .keeps _
        | blocks part here any blocks behind =>
          exact .write_6 ⟨e, hcheck⟩ part ((at_same_iff hbefore).mp here) any blocks
      · cases hrun
        exact ⟨M, he.beside (.returns e _) (Beside.returns e _).tape, .keeps _⟩

/-- WRITE FILEMARKS puts filemarks there, as many as it is asked for. -/
theorem InDrive.write_filemarks {cdb : Cdb} (h : InDrive M d) (hfit : FitsMap d (be24 cdb 2))
    (hrun : ssc_write_filemarks L d cdb = some d₁) :
    ∃ M₁, InDrive M₁ d₁ ∧ Alters d M (.write_filemarks cdb) M₁ := by
  unfold ssc_write_filemarks at hrun
  dsimp only at hrun
  rw [check_restrictions_declared] at hrun
  cases hcheck : check_restrictions d with
  | none =>
    rw [hcheck] at hrun
    cases hrun
  | some res =>
    obtain ⟨allowed, e⟩ := res
    rw [hcheck] at hrun
    have hb := check_restrictions_beside hcheck
    have he := h.beside (.check_restrictions hcheck) hb.tape
    dsimp only at hrun
    split at hrun
    · cases hrun
      exact ⟨M, he.beside (.returns e _) (Beside.returns e _).tape, .keeps _⟩
    rename_i hmay
    generalize hvcr : (if be24 cdb 2 ≠ 0 then update_volume_change_reference e else e) = v at hrun
    generalize hwrite : (v.onCart fun c => (c.write_filemarks (be24 cdb 2)).2) = w at hrun
    have hv : SameCartridge e v ∧ SameTape e.cart v.cart := by
      rw [← hvcr]
      split
      · exact ⟨.update_volume_change_reference e, (update_volume_change_reference_beside e).tape⟩
      · exact ⟨.refl e, SameTape.refl _⟩
    have hin : InDrive M v := he.beside hv.1 hv.2
    have htape := hb.tape.trans hv.2
    have hw : ∃ M₁, InDrive M₁ w ∧ Alters d M (.write_filemarks cdb) M₁ := by
      have hs : SameCartridge v w := by
        rw [← hwrite]
        exact .onCart v (SameAttrs.write_filemarks v.cart _)
      have hcart : w.cart = (v.cart.write_filemarks (be24 cdb 2)).2 := by
        rw [← hwrite]
        rfl
      have hfront : v.cart.c_pos.blk_number = d.cart.c_pos.blk_number := by
        rw [c_pos, c_pos, htape.raw_pos]
      have hnumber : v.cart.c_pos.blk_number + be24 cdb 2 ≤ MAX_FILEMARKS := by
        rw [hfront]
        exact hfit.number
      have hdone := hin.mounted.write_filemarks hnumber
      rw [← hcart] at hdone
      rcases hdone with hel | ⟨p, i, calls, hp, hat, hany, hlast, hw⟩
      · exact ⟨M, hin.same hs hel.mounted (hin.spare.elsewhere hel), .keeps _⟩
      · have hhere : At d.cart p (M.recs p) i := (at_same_iff htape).mp hat
        have hmax : MAX_FILEMARKS ≤ MAX_BLK_NUMBER := by decide
        have hlen : ((M.recs p).take i ++ List.replicate (be24 cdb 2) Record.filemark).length ≤
            MAX_BLK_NUMBER + 1 := by
          rw [List.length_append, List.length_replicate, List.length_take_of_le hhere.le]
          omega
        have hm := hin.mounted.of_written hp hw hlen
        have hcount : d.cart.count_filemarks d.cart.c_pos.blk_number =
            (filemarksOf ((M.recs p).take i)).length := by
          have hmap : d.cart.filemarkMap p = filemarksOf (M.recs p) := hhere.rep.marks
          rw [hhere.blk_number, Store.count_filemarks, hhere.partition_id, hmap, filemarksOf,
            filemarksOf, Records.marks_take, List.length_take, Nat.min_eq_left List.findIdx_le_length]
        refine ⟨M.write p i (List.replicate (be24 cdb 2) .filemark),
          hin.written hs hm (hin.spare.of_frame hp hw.frame) ?_ ?_, .write_filemarks ?_ hp hhere hany⟩
        · have hfile := hfit.file
          rw [hcount] at hfile
          rwa [filemarks_replicate]
        · intro _ r hr
          rw [List.eq_of_mem_replicate hr]
          rfl
        · by_cases hyes : allowed = true
          · subst hyes
            exact Or.inl ⟨e, hcheck⟩
          · have hworm : e.cart.mam.MediumType = MEDIA_TYPE_WORM ∧ e.cart.c_pos.blk_number = 0 := by
              by_contra hno
              exact hmay ⟨by simpa using hyes, hno⟩
            refine Or.inr ⟨hb.type.symm.trans hworm.1, ?_⟩
            rw [← hhere.blk_number, ← hworm.2, c_pos, c_pos, hb.tape.raw_pos]
    obtain ⟨M₁, h₁, halters⟩ := hw
    split at hrun
    · cases hrun
      exact ⟨M₁, h₁, halters⟩
    split at hrun
    · cases hrun
    · split at hrun
      · cases hrun
        refine ⟨M₁, h₁.beside (((SameCartridge.refl w).put _ (by decide)).trans (.report _ _)) ?_, halters⟩
        exact ((Noted.remaining w 0).beside.trans (Beside.report _ _)).tape
      · cases hrun
        exact ⟨M₁, h₁, halters⟩

/-- ERASE empties the partition. -/
theorem InDrive.erase (h : InDrive M d) (hrun : ssc_erase d = some d₁) :
    ∃ M₁, InDrive M₁ d₁ ∧ Alters d M .erase M₁ := by
  unfold ssc_erase at hrun
  dsimp only at hrun
  rw [check_restrictions_declared] at hrun
  cases hcheck : check_restrictions d with
  | none =>
    rw [hcheck] at hrun
    cases hrun
  | some res =>
    obtain ⟨allowed, e⟩ := res
    rw [hcheck] at hrun
    have he := h.beside (.check_restrictions hcheck) (check_restrictions_beside hcheck).tape
    cases allowed with
    | false =>
      cases hrun
      exact ⟨M, he.beside (.returns e _) (Beside.returns e _).tape, .keeps _⟩
    | true =>
      dsimp only at hrun
      split at hrun
      · cases hrun
        exact ⟨M, he.beside (.report e _) (Beside.report e _).tape, .keeps _⟩
      · rename_i hfront
        split at hrun
        · cases hrun
          let v := update_volume_change_reference e
          have hv := (update_volume_change_reference_beside e).tape
          have hin : InDrive M v := he.beside (.update_volume_change_reference e) hv
          have hfront' : v.cart.c_pos.blk_number = 0 := by
            rw [c_pos, hv.raw_pos]
            exact not_not.mp hfront
          have hs : SameCartridge v (v.onCart fun c => c.format_partition.2) :=
            .onCart v (SameAttrs.format_partition v.cart)
          rcases hin.mounted.format_partition hfront' with hel | ⟨p, calls, hp, hat, hw⟩
          · exact ⟨M, hin.same hs hel.mounted (hin.spare.elsewhere hel), .keeps _⟩
          · have hhere : At d.cart p (M.recs p) 0 :=
              (at_same_iff ((check_restrictions_beside hcheck).tape.trans hv)).mp hat
            have hm := hin.mounted.of_written hp hw (Nat.zero_le _)
            refine ⟨M.write p 0 [], hin.written hs hm (hin.spare.of_frame hp hw.frame) ?_ ?_,
              .erase ⟨e, hcheck⟩ hp hhere⟩
            · have hmap := hin.map p hp
              change HEADER_SIZE + 0 < _
              omega
            · intro _ r hr
              cases hr
        · cases hrun
          exact ⟨M, he.beside (.report e _) (Beside.report e _).tape, .keeps _⟩

/-- Formatting leaves empty partitions. -/
theorem formatTape_blank {n : ℕ} {recs : ℕ → List Record} (hm : Mounted n d.cart recs)
    (hs : Spare n d.cart) (hpos : 1 ≤ d.cart.mam.num_partitions)
    (hmax : d.cart.mam.num_partitions ≤ MAX_PARTITIONS) (hrun : d.formatTape = some d₁) :
    d₁.cart.mam = d.cart.mam ∧ Mounted d.cart.mam.num_partitions d₁.cart fun _ => [] := by
  obtain ⟨c, hformat, hattrs, -, -, hopen⟩ := hm.format_tape_spare hs hmax
  obtain ⟨c', hc', rfl⟩ := Option.map_eq_some_iff.mp hrun
  obtain rfl := Option.some.inj (hc'.symm.trans hformat)
  exact ⟨hattrs.mam, (hopen hpos).1⟩

/-- A drive that is about to format knows the kind of medium. -/
theorem formatStart_kind (d : Drive) (cdb : Cdb) {f : MamField} (hf : f ∈ kindFields) :
    (formatStart d cdb).cart.mam.bytes f = d.cart.mam.bytes f := by
  have hne : f ≠ .VolumeChangeReference ∧ f ≠ .num_partitions := by
    revert f
    decide
  have hstart : (writeStart d).cart.mam.bytes f = d.cart.mam.bytes f :=
    update_volume_change_reference_other _ hne.1
  unfold formatStart
  split
  · exact (Mam.bytes_put_other _ _ hne.2).trans hstart
  · exact hstart

/-- FORMAT MEDIUM empties the medium when it is accepted. -/
theorem InDrive.format_medium {cdb : Cdb} (h : InDrive M d) (hrun : ssc_format_medium L d cdb = some d₁) :
    ∃ M₁, InDrive M₁ d₁ ∧ Alters d M (.format_medium cdb) M₁ := by
  cases hcheck : check_restrictions d with
  | none =>
    have hcheck' : check_restrictions d.declare_ssc_vars = none := hcheck
    simp only [ssc_format_medium, hcheck'] at hrun
    cases hrun
  | some res =>
    obtain ⟨allowed, e⟩ := res
    have hcheck' : check_restrictions d.declare_ssc_vars = some (allowed, e) := hcheck
    have hb := check_restrictions_beside hcheck
    have he := h.beside (.check_restrictions hcheck) hb.tape
    by_cases haccept : FormatAccepted d cdb allowed
    · have hcounted := h.counted
      have hprep := formatStart_prepared h.mounted h.spare cdb
      have hnum := formatStart_num d cdb
      have hv : VolumeCounted d₁ := by
        obtain ⟨d', hd', hv⟩ := @VolumeCounted.format_medium L d cdb hcounted
          (by rw [hcheck]; exact Option.some_ne_none _)
        exact Option.some.inj (hd'.symm.trans hrun) ▸ hv
      have hpos : 1 ≤ (formatStart d cdb).cart.mam.num_partitions := by
        rw [hnum]
        split
        · exact le_refl 1
        · exact hcounted.pos
      have hmax : (formatStart d cdb).cart.mam.num_partitions ≤ MAX_PARTITIONS := by
        rw [hnum]
        split
        · decide
        · exact hcounted.le_arrays
      have hc := counted_ssc_format_medium hrun
      rw [ssc_format_medium_accepted hcheck haccept, Drive.reformat] at hrun
      obtain ⟨e₁, hformat, hrest⟩ := Option.bind_eq_some_iff.mp hrun
      obtain ⟨e₂, hset, rfl⟩ := Option.map_eq_some_iff.mp hrest
      obtain ⟨hmam, hm⟩ := formatTape_blank hprep.mounted hprep.spare hpos hmax hformat
      have hparts : partitionCount e₁.cart.mam ≤ MAX_PARTITIONS := by
        rw [partitionCount, hmam]
        split
        · decide
        · exact hmax
      obtain ⟨size, -, hset'⟩ := @set_medium_partition_capacity_spec L e₁ hparts
      obtain rfl := Option.some.inj (hset'.symm.trans hset)
      let e₂ : Drive := e₁.setMam (recordCapacities (partitionCount e₁.cart.mam) size)
      have hset₂ : SameTape e₁.cart e₂.cart :=
        SameTape.of_mam e₁.cart e₂.cart.mam e₁.cart.OK_to_write e₁.cart.status
      have htape := (hset₂.trans (SameTape.rewriteMAM e₂.cart)).trans
        (Beside.returns (e₂.onCart fun c => c.rewriteMAM.2) SAM_STAT_GOOD).tape
      obtain ⟨rfl, hblk, -⟩ := haccept
      refine ⟨_, h.emptied hc hv (htape.mounted hm) fun f hf => ?_, .format_medium ⟨e, hcheck⟩ hblk⟩
      have hcap : ∀ k < MAX_PARTITIONS, f ≠ partitionCapacity k := by
        revert f
        decide
      have hkind := formatStart_kind d cdb hf
      rw [← hmam] at hkind
      change (Store.rewriteMAM _).2.mam.bytes f = _
      rw [Store.rewriteMAM_mam]
      exact (recordCapacities_other _ _ _ hcap).trans hkind
    · cases allowed with
      | false =>
        simp only [ssc_format_medium, hcheck'] at hrun
        cases hrun
        exact ⟨M, he.beside (.returns e _) (Beside.returns e _).tape, .keeps _⟩
      | true =>
        have hpos : e.cart.c_pos.blk_number = d.cart.c_pos.blk_number := by
          rw [c_pos, c_pos, hb.tape.raw_pos]
        simp only [ssc_format_medium, hcheck', hpos] at hrun
        split at hrun
        · cases hrun
          exact ⟨M, he.beside (.report e _) (Beside.report e _).tape, .keeps _⟩
        split at hrun
        · cases hrun
          have hin := he.beside (.update_volume_change_reference e)
            (update_volume_change_reference_beside e).tape
          exact ⟨M, hin.beside (.report _ _) (Beside.report _ _).tape, .keeps _⟩
        · rename_i hfront hcode
          refine absurd ⟨rfl, not_not.mp hfront, ?_⟩ haccept
          unfold formatCode
          tauto

/-- SET CAPACITY empties the medium when it is accepted. -/
theorem InDrive.set_capacity (h : InDrive M d) (hrun : ssc_set_capacity d = some d₁) :
    ∃ M₁, InDrive M₁ d₁ ∧ Alters d M .set_capacity M₁ := by
  by_cases haccept : CapacityAccepted d
  · have hone : (d.declare_ssc_vars.setMam (·.putByte .num_partitions 1)).cart.mam.num_partitions = 1 :=
      num_putByte d.cart.mam (by decide : 1 < 256)
    have hv : VolumeCounted d₁ := by
      obtain ⟨d', hd', hv⟩ := h.counted.set_capacity
      exact Option.some.inj (hd'.symm.trans hrun) ▸ hv
    have hc := counted_ssc_set_capacity hrun
    rw [ssc_set_capacity_accepted haccept] at hrun
    obtain ⟨e, hformat, rfl⟩ := Option.map_eq_some_iff.mp hrun
    have hstart : SameTape d.cart (d.declare_ssc_vars.setMam (·.putByte .num_partitions 1)).cart :=
      SameTape.of_mam d.cart _ d.cart.OK_to_write _
    have hmax : (d.declare_ssc_vars.setMam (·.putByte .num_partitions 1)).cart.mam.num_partitions ≤
        MAX_PARTITIONS := by
      rw [hone]
      decide
    obtain ⟨hmam, hm⟩ := formatTape_blank (hstart.mounted h.mounted)
      (h.spare.of_part fun q _ => hstart.part q) (Nat.le_of_eq hone.symm) hmax hformat
    rw [hone] at hm
    refine ⟨_, h.emptied hc hv ((Beside.returns e SAM_STAT_GOOD).tape.mounted hm) fun f hf => ?_,
      .set_capacity haccept.1⟩
    have hne : f ≠ .num_partitions := by
      revert f
      decide
    exact (congrArg (Mam.bytes · f) hmam).trans (Mam.bytes_put_other _ _ hne)
  · obtain ⟨d', hd', ok, st, rfl⟩ := ssc_set_capacity_rejected haccept
    obtain rfl := Option.some.inj (hd'.symm.trans hrun)
    exact ⟨M, h.beside (.onCart d ⟨rfl, rfl, rfl, rfl, rfl⟩) (SameTape.of_mam d.cart d.cart.mam ok st),
      .keeps _⟩

end Writing

section Settings

variable {M : Medium} {d d₁ : Drive} {cdb : Cdb} {buf : ℕ → UInt8}

/-- What MODE SELECT may set of the cartridge: the status and the number of partitions. -/
theorem KeptOutside.cart (h : KeptOutside d d₁) : ∃ m st,
    d₁.cart = { d.cart with mam := m, status := st } ∧
      ∀ f, f ≠ .num_partitions → m.bytes f = d.cart.mam.bytes f := by
  obtain ⟨pages, bd, method, w, r, a, o, e, m, st, hm, rfl⟩ := h
  exact ⟨m, st, rfl, hm⟩

/-- A page that is refused may have set the distance of the warning. -/
theorem refusedPage_outside (d : Drive) (p : ℕ → UInt8) : KeptOutside d (refusedPage d p) := by
  unfold refusedPage
  split
  · unfold set_device_configuration_extension
    dsimp only
    split
    · exact .refl d
    split
    · exact .refl d
    split
    · exact .refl d
    have hwarn : KeptOutside d (d.setProgEarlyWarning (be16At p 6)) := by
      unfold Drive.setProgEarlyWarning
      split
      · exact ⟨_, _, _, _, _, _, _, _, _, _, fun _ _ => rfl, rfl⟩
      · exact .refl d
    split
    · exact hwarn
    · refine hwarn.trans ?_
      unfold Drive.setWriteMode
      dsimp only
      split <;> exact ⟨_, _, _, _, _, _, _, _, _, _, fun _ _ => rfl, rfl⟩
  · exact .refl d

/-- What the walk of MODE SELECT may set. -/
theorem selectPages_outside {count rounds i reads : ℕ} {r : Selected}
    (hrun : selectPages buf count rounds i reads d = some r) : KeptOutside d r.drive := by
  induction rounds generalizing i reads d with
  | zero => cases hrun
  | succ rounds ih =>
    rw [selectPages] at hrun
    by_cases hend : count ≤ i
    · rw [if_pos hend] at hrun
      cases hrun
      exact .report _ _
    rw [if_neg hend] at hrun
    have hcase := selectPage_case d (pageAt buf i) i
    dsimp only at hrun
    generalize selectPage d (pageAt buf i) i = page at hcase hrun
    cases hcase with
    | passed hover => exact ih hrun
    | next e happ _ he => exact (applyPage_frame happ).kept.trans (ih hrun)
    | done e happ _ he =>
      cases hrun
      exact (applyPage_frame happ).kept.trans (.report _ _)
    | refused s _ _ _ =>
      cases hrun
      exact (refusedPage_outside d _).trans (.report _ _)
    | lost hnone _ hm => cases hrun

/-- What MODE SELECT may set. -/
theorem mode_select_outside {r : Selected} (hrun : ssc_mode_select d cdb buf = some r) :
    KeptOutside d r.drive := by
  have hdescribed : KeptOutside d (described d cdb buf) := .describe d cdb buf
  obtain ⟨hfirst, hsecond, hthird⟩ := ssc_mode_select_cases d cdb buf
  by_cases hf : WrongFormat cdb buf
  · obtain ⟨s, hs⟩ := hfirst hf
    obtain rfl := Option.some.inj (hs.symm.trans hrun)
    exact .report d s
  by_cases hsp : SavesPages cdb
  · obtain ⟨s, hs⟩ := hsecond hf hsp
    obtain rfl := Option.some.inj (hs.symm.trans hrun)
    exact hdescribed.trans (.report _ _)
  · rw [hthird hf hsp] at hrun
    exact hdescribed.trans (selectPages_outside hrun)

/-- MODE SELECT leaves the medium in the drive, if it asks for as many partitions as there are. -/
theorem InDrive.mode_select {r : Selected} (h : InDrive M d)
    (hsound : (LayoutCommand.mode_select cdb buf).Sound d) (hrun : ssc_mode_select d cdb buf = some r) :
    InDrive M r.drive := by
  have hv : VolumeCounted r.drive := by
    obtain ⟨r', hr', hv⟩ := h.counted.mode_select hsound
    exact Option.some.inj (hr'.symm.trans hrun) ▸ hv
  have hc := counted_ssc_mode_select hrun
  obtain ⟨m, st, hcart, hm⟩ := (mode_select_outside hrun).cart
  have hmam : r.drive.cart.mam = m := by rw [hcart]
  have htape : SameTape d.cart r.drive.cart := by
    rw [hcart]
    exact SameTape.of_mam d.cart m d.cart.OK_to_write st
  obtain ⟨hnum, hspare⟩ := h.recounted hv (htape.mounted h.mounted)
  refine h.same (.of_counted hc hnum ?_ ?_ ?_) (htape.mounted h.mounted) hspare
  · rw [Mam.byte, Mam.byte, hmam, hm _ (by decide)]
  · rw [Mam.byte, Mam.byte, hmam, hm _ (by decide)]
  · rw [Mam.MediumType, Mam.MediumType, Mam.byte, Mam.byte, hmam, hm _ (by decide)]

/-- WRITE ATTRIBUTE leaves the tape alone, and the kind of medium. -/
theorem write_attributes_tape (d : Drive) (cdb : Cdb) (buf : ℕ → UInt8) (found : Bool) :
    SameTape d.cart (ssc_write_attributes d cdb buf found).cart ∧
      ∀ f ∈ kindFields, (ssc_write_attributes d cdb buf found).cart.mam.byte f = d.cart.mam.byte f := by
  have hstart : SameTape d.cart d.declare_ssc_vars.cart := (Beside.returns d SAM_STAT_GOOD).tape
  unfold ssc_write_attributes
  dsimp only
  split
  · exact ⟨hstart.trans (Beside.report _ _).tape, fun _ _ => rfl⟩
  split
  · exact ⟨hstart.trans (Beside.report _ _).tape, fun _ _ => rfl⟩
  · unfold resp_write_attribute
    dsimp only
    split
    · exact ⟨(hstart.trans (Beside.report _ _).tape).trans (Beside.returns _ _).tape, fun _ _ => rfl⟩
    · rename_i m htake
      have hkind : ∀ f ∈ kindFields, m.byte f = d.cart.mam.byte f := by
        intro f hf
        have hfield : f ∉ mamAttributes.map (·.field) ∧ f ∉ spareRecords := by
          revert f
          decide
        exact congrArg (List.headD · 0) (takeAttributes_other hfield.1 hfield.2 htake)
      have hset : SameTape d.cart (d.declare_ssc_vars.setMam fun _ => m).cart :=
        hstart.trans (SameTape.of_mam _ m d.declare_ssc_vars.cart.OK_to_write _)
      split
      · exact ⟨hset.trans (Beside.returns _ _).tape, hkind⟩
      · let e : Drive := (d.declare_ssc_vars.setMam fun _ => m).onCart fun c => c.rewriteMAM.2
        refine ⟨(hset.trans (SameTape.rewriteMAM _)).trans (Beside.returns e _).tape, ?_⟩
        intro f hf
        change (Store.rewriteMAM _).2.mam.byte f = _
        rw [Store.rewriteMAM_mam]
        exact hkind f hf

/-- It leaves the medium in the drive, if that keeps data as before. -/
theorem InDrive.write_attributes {found : Bool} (h : InDrive M d)
    (hkeeps : (ssc_write_attributes d cdb buf found).cart.mam.MediumType ≠ MEDIA_TYPE_NULL →
      d.cart.mam.MediumType ≠ MEDIA_TYPE_NULL) :
    InDrive M (ssc_write_attributes d cdb buf found) := by
  have hc := counted_ssc_write_attributes d cdb buf found
  obtain ⟨htape, hkind⟩ := write_attributes_tape d cdb buf found
  have hv : VolumeCounted (ssc_write_attributes d cdb buf found) := h.counted.write_attributes found
  obtain ⟨hnum, -⟩ := h.recounted hv (htape.mounted h.mounted)
  exact h.beside ⟨hc.load_status, hc.attrs, hnum, hkind _ (by decide), hkind _ (by decide), hkeeps⟩ htape

end Settings

section Moving

variable {L : Libs} {M : Medium} {d d' : Drive} {cdb : Cdb}

/-- A head that moves leaves the cartridge alone. -/
theorem HeadMoved.sameCartridge {n : ℕ} {recs : ℕ → List Record} (h : HeadMoved n recs d d') :
    SameCartridge d d' := by
  obtain ⟨c, vcr, info, mbd, rm, ri, wm, wi, hd⟩ := h.eq
  obtain ⟨raw, ok, st, hc⟩ := h.tape.eq
  have hcart := SameCartridge.onCart d (c := d'.cart) (by rw [hc]; exact ⟨rfl, rfl, rfl, rfl, rfl⟩)
  refine ⟨?_, hcart.attrs, hcart.num, hcart.max, hcart.media, hcart.type⟩
  rw [hd]

/-- It leaves the medium in the drive. -/
theorem InDrive.moved (h : InDrive M d) (hm : HeadMoved M.n M.recs d d') : InDrive M d' :=
  h.same hm.sameCartridge hm.tape.mounted (h.spare.elsewhere hm.tape)

/-- Permission and status do as well. -/
theorem InDrive.alone (h : InDrive M d) (ha : LeftAlone d d') : InDrive M d' := by
  obtain ⟨ok, st, rfl⟩ := ha
  exact h.same (SameCartridge.onCart d ⟨rfl, rfl, rfl, rfl, rfl⟩)
    ((SameTape.of_mam d.cart d.cart.mam ok st).mounted h.mounted) h.spare

/-- So does what changes settings of the drive and the status only. -/
theorem InDrive.settings (h : InDrive M d) (st : Status) (hcart : d'.cart = { d.cart with status := st })
    (hload : d'.load_status = d.load_status) : InDrive M d' := by
  have hattrs := SameCartridge.onCart d (c := d'.cart) (by rw [hcart]; exact ⟨rfl, rfl, rfl, rfl, rfl⟩)
  have hs : SameCartridge d d' :=
    ⟨hload, hattrs.attrs, hattrs.num, hattrs.max, hattrs.media, hattrs.type⟩
  have htape := SameTape.of_mam d.cart d.cart.mam d.cart.OK_to_write st
  refine h.same hs ?_ ?_
  · rw [hcart]
    exact htape.mounted h.mounted
  · rw [hcart]
    exact h.spare

/-- The work of READ and VERIFY. -/
theorem complete_read_6_moves {n sz count : ℕ} {recs : ℕ → List Record} {bs : List UInt8}
    (h : Mounted n d.cart recs) (hrun : complete_read_6 L d cdb sz count = some (bs, d')) :
    HeadMoved n recs d d' := by
  have hstart : HeadMoved n recs d d.declare_ssc_vars := .returns h SAM_STAT_GOOD
  have hreport : ∀ st, HeadMoved n recs d (d.declare_ssc_vars.report st) :=
    fun st => hstart.trans (.report hstart.tape.mounted st)
  unfold complete_read_6 at hrun
  dsimp only at hrun
  split at hrun
  · cases hrun
    exact hreport _
  split at hrun
  · split at hrun
    · cases hrun
      exact hreport _
    · exact hstart.trans (readBlocks_moves hstart.tape.mounted hrun)
  split at hrun
  · cases hrun
    exact hreport _
  · cases hrun
    exact hreport _

/-- The work of SPACE. -/
theorem resp_space_moves {n : ℕ} {recs : ℕ → List Record} (h : Mounted n d.cart recs) (count : ℤ)
    (code : ℕ) : HeadMoved n recs d (resp_space d count code) := by
  unfold resp_space
  split
  · split
    · exact .of_cart (h.position_blocks_forw _)
    · exact .of_cart (h.position_blocks_back _)
  split
  · split
    · exact .of_cart (h.position_filemarks_forw _)
    · exact .of_cart (h.position_filemarks_back _)
  split
  · exact .of_cart h.position_to_eod
  · exact .report h _

/-- VERIFY(6) leaves the volume alone. -/
theorem ssc_verify_6_moves {n : ℕ} {recs : ℕ → List Record} (h : Mounted n d.cart recs)
    (hrun : ssc_verify_6 L d cdb = some d') : HeadMoved n recs d d' := by
  have hstart : HeadMoved n recs d d.declare_ssc_vars := .returns h SAM_STAT_GOOD
  unfold ssc_verify_6 at hrun
  dsimp only at hrun
  split at hrun
  · cases hrun
    exact hstart.trans (.report hstart.tape.mounted _)
  split at hrun
  · cases hrun
    exact hstart.trans (resp_space_moves hstart.tape.mounted _ _)
  · obtain ⟨⟨bs, e⟩, hread, rfl⟩ := Option.map_eq_some_iff.mp hrun
    exact hstart.trans (complete_read_6_moves hstart.tape.mounted hread)

/-- LOCATE leaves the medium in the drive. -/
theorem InDrive.locate (h : InDrive M d) (hrun : ssc_locate d cdb = some d') : InDrive M d' := by
  have hstart : InDrive M d.declare_ssc_vars := h.alone (LeftAlone.returns d SAM_STAT_GOOD)
  unfold ssc_locate at hrun
  dsimp only at hrun
  split at hrun
  · cases hrun
    exact hstart.alone (LeftAlone.returns _ _)
  split at hrun
  · cases hrun
    exact hstart.alone (LeftAlone.report _ _)
  · rename_i partition_no blk_no htarget
    split at hrun
    · cases hrun
      exact hstart.alone (LeftAlone.report _ _)
    split at hrun
    · cases hrun
    · rename_i hmax
      cases hrun
      let c := d.declare_ssc_vars.cart
      have hthere := (hstart.mounted.change_partition (Nat.lt_of_not_le hmax)).1
      have hblock := hthere.position_to_block (blk_no % 2 ^ 32)
      exact hstart.same
        (SameCartridge.onCart _ ((SameAttrs.change_partition c partition_no).trans
          (SameAttrs.position_to_block _ _)))
        hblock.mounted ((hstart.spare.change_partition partition_no).elsewhere hblock)

/-- ALLOW OVERWRITE sets the authorised block and the status. -/
theorem allow_overwrite_cart (d : Drive) (cdb : Cdb) :
    ∃ st, (ssc_allow_overwrite d cdb).cart = { d.cart with status := st } := by
  unfold ssc_allow_overwrite
  dsimp only
  split_ifs <;> exact ⟨_, rfl⟩

/-- LOG SELECT sets counters and the status. -/
theorem log_select_cart (d : Drive) (cdb : Cdb) :
    ∃ st, (ssc_log_select d cdb).cart = { d.cart with status := st } := by
  unfold ssc_log_select
  dsimp only
  cases spc_log_select cdb with
  | some st => exact ⟨st, rfl⟩
  | none =>
    dsimp only
    split_ifs <;> exact ⟨_, rfl⟩

/-- SECURITY PROTOCOL OUT sets the encryption state, a mode page and the status. -/
theorem spout_cart {upd : List ModePage → ℕ → List ModePage} {buf : ℕ → UInt8}
    (hrun : ssc_spout upd d cdb buf = some d') : ∃ st, d'.cart = { d.cart with status := st } := by
  unfold ssc_spout resp_spout at hrun
  dsimp only at hrun
  split at hrun
  · cases hrun
    exact ⟨_, rfl⟩
  split at hrun
  · cases hrun
    exact ⟨_, rfl⟩
  split at hrun
  · cases hrun
  split at hrun
  · cases hrun
    exact ⟨_, rfl⟩
  · cases hrun
    exact ⟨_, rfl⟩

end Moving

/-- What a command needs, so that the medium it leaves can be told: filemarks fit the map, MODE
SELECT asks for as many partitions as there are, and WRITE ATTRIBUTE does not turn a medium that
keeps no data into one that does. -/
def MediumCommand.Clean (d : Drive) : MediumCommand → Prop
  | .write_filemarks cdb => FitsMap d (be24 cdb 2)
  | .mode_select cdb buf => (LayoutCommand.mode_select cdb buf).Sound d
  | .write_attributes cdb buf found =>
    (ssc_write_attributes d cdb buf found).cart.mam.MediumType ≠ MEDIA_TYPE_NULL →
      d.cart.mam.MediumType ≠ MEDIA_TYPE_NULL
  | _ => True

/-- Every command leaves a medium in the drive, and makes of the one before what it may. -/
theorem InDrive.command {L : Libs} {M : Medium} {d d' : Drive} {c : MediumCommand} (h : InDrive M d)
    (hclean : c.Clean d) (hrun : c.run L d = some d') : ∃ M', InDrive M' d' ∧ Alters d M c M' := by
  have hkept : InDrive M d' → ∃ M', InDrive M' d' ∧ Alters d M c M' := fun h' => ⟨M, h', .keeps c⟩
  cases c with
  | read_6 cdb =>
    obtain ⟨⟨bs, e⟩, hr, rfl⟩ := Option.map_eq_some_iff.mp hrun
    exact hkept (h.moved (ssc_read_6_moves h.mounted hr))
  | verify_6 cdb => exact hkept (h.moved (ssc_verify_6_moves h.mounted hrun))
  | write_6 cdb data => exact h.write_6 hrun
  | rewind =>
    obtain rfl := Option.some.inj hrun
    exact hkept (h.moved (ssc_rewind_moves h.mounted))
  | space_6 cdb =>
    obtain rfl := Option.some.inj hrun
    exact hkept (h.moved (space_moves h.mounted _ _))
  | space_16 cdb =>
    obtain rfl := Option.some.inj hrun
    exact hkept (h.moved (space_moves h.mounted _ _))
  | locate cdb => exact hkept (h.locate hrun)
  | allow_overwrite cdb =>
    obtain rfl := Option.some.inj hrun
    obtain ⟨st, hst⟩ := allow_overwrite_cart d cdb
    exact hkept (h.settings st hst (counted_ssc_allow_overwrite d cdb).load_status)
  | write_filemarks cdb => exact h.write_filemarks hclean hrun
  | erase => exact h.erase hrun
  | format_medium cdb => exact h.format_medium hrun
  | set_capacity => exact h.set_capacity hrun
  | mode_select cdb buf =>
    obtain ⟨r, hr, rfl⟩ := Option.map_eq_some_iff.mp hrun
    exact hkept (h.mode_select hclean hr)
  | log_select cdb =>
    obtain rfl := Option.some.inj hrun
    obtain ⟨st, hst⟩ := log_select_cart d cdb
    exact hkept (h.settings st hst (ssc_log_select_kept d cdb).2.1)
  | write_attributes cdb buf found =>
    obtain rfl := Option.some.inj hrun
    exact hkept (h.write_attributes hclean)
  | security_protocol_out upd cdb buf =>
    obtain ⟨st, hst⟩ := spout_cart hrun
    exact hkept (h.settings st hst (counted_ssc_spout hrun).load_status)
  | other st =>
    obtain rfl := Option.some.inj hrun
    exact hkept (h.beside (.report d st) (Beside.report d st).tape)

end Mhvtl.Ssc
