import Mhvtl.Ssc.Locating

/-!
# READ POSITION

The three forms in which the drive tells where the head is, and the way back there by
LOCATE. The early warning that the forms go by is one for the whole medium.
-/

namespace Mhvtl.Ssc

open Bytes Cart Records Store

/-- The warning positions that `loadTape` works out, as unsigned numbers. -/
structure Warnings where
  /-- Early warning. -/
  early_warning_position : ℕ
  /-- Programmable early warning. -/
  prog_early_warning_position : ℕ

/-- The warning positions behind a load. They stay when the medium has no capacity. -/
def loadWarnings (d : Drive) (w : Warnings) : Warnings :=
  let max_capacity := d.cart.mam.be .max_capacity
  if max_capacity ≠ 0 then
    let early := (max_capacity + 2 ^ 64 - d.early_warning_sz % 2 ^ 64) % 2 ^ 64
    ⟨early, (early + 2 ^ 64 - d.prog_early_warning_sz % 2 ^ 64) % 2 ^ 64⟩
  else w

/-- The early warning of a partition, in front of its end. -/
def partitionWarning (L : Libs) (d : Drive) (p : ℕ) : ℕ :=
  (medium_partition_capacity L d p).getD 0 - d.early_warning_sz

/-- A bit of the position data. -/
def flag (set : Bool) (bit : UInt8) : UInt8 := if set then bit else 0

/-- READ POSITION. The extended form runs on into the refusal of other forms. -/
def ssc_read_position (w : Warnings) (d : Drive) (cdb : Cdb) : List UInt8 × Drive :=
  let d := d.declare_ssc_vars
  let service_action := cdb 1 &&& 0x3f
  let blk_number := d.cart.c_pos.blk_number
  let offset := d.cart.current_tape_offset
  let partition_id := UInt8.ofNat d.cart.partition_id
  let BOP := flag (blk_number < 2) 0x80
  let EOP := flag (w.early_warning_position < offset) 0x40
  let BYCU := flag true 0x10
  let PERR := flag (0xffffffff < blk_number) 0x02
  let BPEW := flag (d.pm.drive_supports_prog_early_warning ∧
    w.prog_early_warning_position ≤ offset) 0x01
  let refused := d.report (sam_illegal_request E_INVALID_FIELD_IN_CDB (some ⟨SKSV ||| CD, 1⟩))
  if d.load_status = TAPE_LOADED then
    if service_action = 0 ∨ service_action = 1 then
      ([BOP ||| EOP ||| BYCU ||| PERR ||| BPEW, partition_id, 0, 0] ++
        (beBytes 4 blk_number ++ (beBytes 4 blk_number ++ List.replicate 8 0)), d)
    else if service_action = 6 then
      ([BOP ||| EOP ||| BPEW, 0, 0, 0] ++ (beBytes 4 d.cart.partition_id ++ (beBytes 8 blk_number ++
        (beBytes 8 (d.cart.count_filemarks blk_number) ++ List.replicate 8 0))), d)
    else if service_action = 8 then
      ([BOP ||| EOP ||| BYCU ||| BPEW, partition_id, 0, 0x1c, 0, 0, 0, 0] ++
        (beBytes 8 blk_number ++ (beBytes 8 blk_number ++ List.replicate 8 0)), refused)
    else ([], refused)
  else if d.load_status = TAPE_UNLOADED then ([], d.report (sam_not_ready E_MEDIUM_NOT_PRESENT))
  else ([], d.report (sam_not_ready E_MEDIUM_FMT_CORRUPT))

/-- The forms of READ POSITION. -/
inductive Form where
  /-- Short form. -/
  | short
  /-- Long form. -/
  | long
  /-- Extended form. -/
  | extended
deriving DecidableEq

/-- The form that a command block asks for. -/
def Form.asked (cdb : Cdb) : Form → Prop
  | .short => cdb 1 &&& 0x3f = 0 ∨ cdb 1 &&& 0x3f = 1
  | .long => cdb 1 &&& 0x3f = 6
  | .extended => cdb 1 &&& 0x3f = 8

/-- The partition in the data of a form. -/
def Form.partition (data : List UInt8) : Form → ℕ
  | .long => beNat (slice data 4 4)
  | _ => beNat (slice data 1 1)

/-- The block number in the data of a form. -/
def Form.block (data : List UInt8) : Form → ℕ
  | .short => beNat (slice data 4 4)
  | _ => beNat (slice data 8 8)

/-- The data tell that the head is at index `i` of the partition, whose early warning is at
`warning`. -/
structure TellsPosition (f : Form) (p i warning : ℕ) (l : List Record) (data : List UInt8) : Prop where
  /-- The partition. -/
  partition : f.partition data = p
  /-- The block. -/
  block : f.block data = i
  /-- Beginning of partition. -/
  bop : data.headD 0 &&& 0x80 ≠ 0 ↔ i = 0
  /-- End of partition. -/
  eop : data.headD 0 &&& 0x40 ≠ 0 ↔ warning < offsetOf l i
  /-- The filemarks in front of the head. -/
  filemarks : f = .long → beNat (slice data 16 8) = ((filemarksOf l).filter (· < i)).length

section Told

variable {w : Warnings} {d : Drive} {p i warning : ℕ} {l : List Record} {cdb : Cdb}

/-- The flags are told apart. -/
theorem flags_told (bop eop perr bpew : Bool) :
    ((flag bop 0x80 ||| flag eop 0x40 ||| flag true 0x10 ||| flag perr 0x02 ||| flag bpew 0x01) &&&
      0x80 ≠ 0 ↔ bop = true) ∧
    ((flag bop 0x80 ||| flag eop 0x40 ||| flag true 0x10 ||| flag perr 0x02 ||| flag bpew 0x01) &&&
      0x40 ≠ 0 ↔ eop = true) ∧
    ((flag bop 0x80 ||| flag eop 0x40 ||| flag bpew 0x01) &&& 0x80 ≠ 0 ↔ bop = true) ∧
    ((flag bop 0x80 ||| flag eop 0x40 ||| flag bpew 0x01) &&& 0x40 ≠ 0 ↔ eop = true) := by
  revert bop eop perr bpew
  decide

/-- The filemarks in front of the head are counted. -/
theorem count_filemarks_eq (h : At d.cart p l i) :
    d.cart.count_filemarks i = ((filemarksOf l).filter (· < i)).length := by
  have hmap : d.cart.filemarkMap p = filemarksOf l := h.rep.marks
  rw [count_filemarks, h.partition_id, hmap]
  exact (findIdx_marks Record.isFilemark l i).1

/-- A number in the data, behind a prefix. -/
theorem field_told {xs ys : List UInt8} {o w n : ℕ} (ho : xs.length = o) (hn : n < 256 ^ w) :
    beNat (slice (xs ++ (beBytes w n ++ ys)) o w) = n := by
  rw [slice_append_right (Nat.le_of_eq ho), ho, Nat.sub_self,
    slice_append_left (beBytes_length w n), beNat_beBytes_of_lt hn]

/-- Data with the right numbers tell where the head is just when the flags are right. -/
theorem tells_iff {f : Form} {data : List UInt8} {early : ℕ} (hpart : f.partition data = p)
    (hblock : f.block data = i) (hbop : data.headD 0 &&& 0x80 ≠ 0 ↔ i < 2)
    (heop : data.headD 0 &&& 0x40 ≠ 0 ↔ early < offsetOf l i)
    (hmarks : f = .long → beNat (slice data 16 8) = ((filemarksOf l).filter (· < i)).length) :
    TellsPosition f p i warning l data ↔
      i ≠ 1 ∧ (early < offsetOf l i ↔ warning < offsetOf l i) := by
  constructor
  · intro h
    have hi : i < 2 ↔ i = 0 := hbop.symm.trans h.bop
    exact ⟨by omega, heop.symm.trans h.eop⟩
  · rintro ⟨hi, hwarn⟩
    have hzero : i < 2 ↔ i = 0 := by omega
    exact ⟨hpart, hblock, hbop.trans hzero, heop.trans hwarn, hmarks⟩

/-- The answer of a loaded drive is good and tells where the head is just when it is not the
extended form, the head is not at block 1, and the early warning of the medium and that of the
partition are on the same side of the head. -/
theorem read_position_iff (h : At d.cart p l i) (hl : l.length < 2 ^ 32) (hp : p < 256)
    (hload : d.load_status = TAPE_LOADED) {f : Form} (hform : f.asked cdb) :
    ((ssc_read_position w d cdb).2.sam_stat = SAM_STAT_GOOD ∧
      TellsPosition f p i warning l (ssc_read_position w d cdb).1) ↔
    f ≠ .extended ∧ i ≠ 1 ∧
      (w.early_warning_position < offsetOf l i ↔ warning < offsetOf l i) := by
  have hle := h.le
  have hi : i < 256 ^ 4 := by omega
  have hi8 : i < 256 ^ 8 := by omega
  have hp4 : p < 256 ^ 4 := by omega
  have hat := at_declared h
  have hblk := hat.blk_number
  have hpid := hat.partition_id
  have hoff := current_tape_offset_at hat
  have hcount := count_filemarks_eq hat
  have hgood : d.declare_ssc_vars.sam_stat = SAM_STAT_GOOD := rfl
  have hload' : d.declare_ssc_vars.load_status = TAPE_LOADED := hload
  have hbyte : beNat [UInt8.ofNat p] = p := by
    simp [beNat, leNat, Nat.mod_eq_of_lt hp]
  cases f with
  | short =>
    have hform' : cdb 1 &&& 0x3f = 0 ∨ cdb 1 &&& 0x3f = 1 := hform
    simp only [ssc_read_position, if_pos hload', if_pos hform', hblk, hpid, hoff]
    obtain ⟨hbop, heop, -, -⟩ := flags_told (i < 2) (w.early_warning_position < offsetOf l i)
      (0xffffffff < i) (d.pm.drive_supports_prog_early_warning ∧
        w.prog_early_warning_position ≤ offsetOf l i)
    rw [and_iff_right hgood, and_iff_right (by decide : Form.short ≠ .extended)]
    exact tells_iff hbyte (field_told rfl hi) (hbop.trans decide_eq_true_iff)
      (heop.trans decide_eq_true_iff) fun hlong => absurd hlong (by decide)
  | long =>
    have hform' : cdb 1 &&& 0x3f = 6 := hform
    have hnot : ¬(cdb 1 &&& 0x3f = 0 ∨ cdb 1 &&& 0x3f = 1) := by
      rw [hform']
      decide
    have hmarks : ((filemarksOf l).filter (· < i)).length < 256 ^ 8 := by
      have hfew := List.length_filter_le (· < i) (filemarksOf l)
      have hall := marks_length_le Record.isFilemark l
      change (filemarksOf l).length ≤ l.length at hall
      omega
    simp only [ssc_read_position, if_pos hload', if_neg hnot, if_pos hform', hblk, hpid, hoff,
      hcount]
    obtain ⟨-, -, hbop, heop⟩ := flags_told (i < 2) (w.early_warning_position < offsetOf l i)
      false (d.pm.drive_supports_prog_early_warning ∧
        w.prog_early_warning_position ≤ offsetOf l i)
    rw [and_iff_right hgood, and_iff_right (by decide : Form.long ≠ .extended)]
    refine tells_iff (field_told rfl hp4) ?_ (hbop.trans decide_eq_true_iff)
      (heop.trans decide_eq_true_iff) fun _ => ?_
    · rw [← List.append_assoc]
      exact field_told (by simp) hi8
    · rw [← List.append_assoc, ← List.append_assoc]
      exact field_told (by simp) hmarks
  | extended =>
    have hform' : cdb 1 &&& 0x3f = 8 := hform
    have hnot : ¬(cdb 1 &&& 0x3f = 0 ∨ cdb 1 &&& 0x3f = 1) ∧ ¬cdb 1 &&& 0x3f = 6 := by
      rw [hform']
      decide
    simp only [ssc_read_position, if_pos hload', if_neg hnot.1, if_neg hnot.2, if_pos hform', ne_eq,
      not_true_eq_false, false_and, iff_false]
    rintro ⟨hstat, -⟩
    exact absurd hstat (by decide : ¬SAM_STAT_CHECK_CONDITION = SAM_STAT_GOOD)

end Told

section Return

variable {d : Drive} {n p i : ℕ} {recs : ℕ → List Record}

/-- LOCATE comes back to a record of a volume just when its partition is not above the
recorded number. -/
theorem locate_returns_iff (h : Mounted n d.cart recs) (hp : p < n) (hi : i ≤ (recs p).length)
    (haway : ¬At d.cart p (recs p) i) {cdb : Cdb} (hobj : NamesObject cdb)
    (hcp : changesPartition cdb = true) (hpart : namedPartition cdb = p)
    (hblock : namedObject cdb = i) :
    (∃ d', ssc_locate d cdb = some d' ∧ d'.sam_stat = SAM_STAT_GOOD ∧ At d'.cart p (recs p) i) ↔
      p ≤ d.cart.mam.num_partitions := by
  have hlen := h.length_lt hp
  have hwanted : wantedPartition d cdb = p := by rw [wantedPartition, if_pos hcp, hpart]
  constructor
  · rintro ⟨d', hrun, -, hat⟩
    by_contra habove
    have hop : IsLocate cdb := hobj.imp id And.left
    rw [ssc_locate_refused hop hcp (by omega), Option.some.injEq] at hrun
    subst hrun
    exact haway ⟨hat.rep, hat.pos, hat.le, hat.fd, hat.part_lt⟩
  · intro hknown
    obtain ⟨d', hrun, hthere⟩ := ssc_locate_taken h hobj (by omega) fun _ => by omega
    rw [hwanted, hblock, Nat.mod_eq_of_lt (by omega)] at hthere
    have hends := hthere.ends
    have hat := hthere.at_pos
    rw [if_pos hi] at hends
    rw [Nat.min_eq_left hi] at hat
    exact ⟨d', hrun, hends, hat⟩

/-- READ POSITION tells where the head is, and LOCATE comes back there, each just when the
flags of the form and the recorded number of partitions allow it. -/
theorem read_position_locate_iff (h : Mounted n d.cart recs) (hp : p < n)
    (hat : At d.cart p (recs p) i) (hload : d.load_status = TAPE_LOADED) (L : Libs) (w : Warnings) :
    (∀ (f : Form) (cdb : Cdb), f.asked cdb →
      ((ssc_read_position w d cdb).2.sam_stat = SAM_STAT_GOOD ∧
        TellsPosition f p i (partitionWarning L d p) (recs p) (ssc_read_position w d cdb).1 ↔
      f ≠ .extended ∧ i ≠ 1 ∧ (w.early_warning_position < offsetOf (recs p) i ↔
        partitionWarning L d p < offsetOf (recs p) i))) ∧
    (∀ (d' : Drive) (cdb : Cdb), Mounted n d'.cart recs → ¬At d'.cart p (recs p) i →
      NamesObject cdb → changesPartition cdb = true → namedPartition cdb = p →
      namedObject cdb = i →
      ((∃ d'', ssc_locate d' cdb = some d'' ∧ d''.sam_stat = SAM_STAT_GOOD ∧
        At d''.cart p (recs p) i) ↔ p ≤ d'.cart.mam.num_partitions)) := by
  have hsmall : p < 256 := (hp.trans_le h.n_le).trans (by decide)
  constructor
  · intro f cdb hform
    exact read_position_iff hat (h.length_lt hp) hsmall hload hform
  · intro d' cdb h' haway hobj hcp hpart hblock
    exact locate_returns_iff h' hp hat.le haway hobj hcp hpart hblock

/-- READ POSITION of a form, by its service action. -/
def positionCdb (service_action : UInt8) : Cdb
  | 1 => service_action
  | _ => 0

/-- The same records with the head at the start of the first partition. -/
def rewoundPair : Drive := { emptyDrive with cart := (recordedPair.change_partition 0).2 }

/-- It holds them. -/
theorem rewoundPair_holds :
    Mounted 2 rewoundPair.cart pairTape.recs ∧ rewoundPair.cart.partition_id = 0 := by
  obtain ⟨h, hio⟩ := recordedPair_holds.1.switch recordedPair_holds.2 (q := 0) (by decide)
  have hrecs : (pairTape.switch 0).recs = pairTape.recs := by dsimp only [Tape.switch]
  have hm := h.mounted hio
  rw [hrecs] at hm
  dsimp only [rewoundPair]
  exact ⟨hm, h.here.partition_id⟩

/-- Behind the three records of the second partition, the short and the long form tell where the
head is and that there are two filemarks in front of it. A LOCATE brings it back from the first. -/
theorem read_position_pairDrive :
    (∀ (f : Form) (cdb : Cdb), f.asked cdb → f ≠ .extended →
      (ssc_read_position (loadWarnings pairDrive ⟨0, 0⟩) pairDrive cdb).2.sam_stat = SAM_STAT_GOOD ∧
      TellsPosition f 1 3 (partitionWarning storedLibs pairDrive 1) (pairTape.recs 1)
        (ssc_read_position (loadWarnings pairDrive ⟨0, 0⟩) pairDrive cdb).1) ∧
    beNat (slice (ssc_read_position (loadWarnings pairDrive ⟨0, 0⟩) pairDrive
      (positionCdb 6)).1 16 8) = 2 ∧
    ∃ d', ssc_locate rewoundPair (partitionCdb 1 3) = some d' ∧ d'.sam_stat = SAM_STAT_GOOD ∧
      At d'.cart 1 (pairTape.recs 1) 3 := by
  have hmarks : ((filemarksOf (pairTape.recs 1)).filter (· < 3)).length = 2 := by decide +kernel
  have hwarnings : (loadWarnings pairDrive ⟨0, 0⟩).early_warning_position <
      offsetOf (pairTape.recs 1) 3 ↔
        partitionWarning storedLibs pairDrive 1 < offsetOf (pairTape.recs 1) 3 :=
    iff_of_false (by decide +kernel) (by decide +kernel)
  obtain ⟨htells, hback⟩ := read_position_locate_iff pairDrive_mounted (by decide) pairDrive_at
    rfl storedLibs (loadWarnings pairDrive ⟨0, 0⟩)
  have hforms := fun (f : Form) (cdb : Cdb) (hasked : f.asked cdb) (hform : f ≠ .extended) =>
    (htells f cdb hasked).mpr ⟨hform, by decide, hwarnings⟩
  obtain ⟨hm, haway⟩ := rewoundPair_holds
  have hnum : rewoundPair.cart.mam.num_partitions = 2 := by decide +kernel
  refine ⟨hforms, ?_, ?_⟩
  · rw [← hmarks]
    exact (hforms .long (positionCdb 6) rfl Form.noConfusion).2.filemarks rfl
  · refine (hback rewoundPair (partitionCdb 1 3) hm ?_ (Or.inl rfl) rfl rfl (by decide)).mpr ?_
    · intro hat
      exact absurd (haway.symm.trans hat.partition_id) zero_ne_one
    · rw [hnum]
      decide

/-- Behind the first record of a tape, the short form tells that the head is at the beginning.
The extended form is refused. -/
theorem block_one_at_beginning :
    let d : Drive := { emptyDrive with cart := (emptyDrive.cart.write_filemarks 1).2 }
    let w := loadWarnings emptyDrive ⟨0, 0⟩
    d.cart.c_pos.blk_number = 1 ∧
    (ssc_read_position w d (positionCdb 0)).1.headD 0 &&& 0x80 ≠ 0 ∧
    (∀ warning, ¬TellsPosition .short 0 1 warning [.filemark] (ssc_read_position w d (positionCdb 0)).1) ∧
    (ssc_read_position w emptyDrive (positionCdb 8)).2.sam_stat = SAM_STAT_CHECK_CONDITION := by
  intro d w
  have hset : (ssc_read_position w d (positionCdb 0)).1.headD 0 &&& 0x80 ≠ 0 := by
    decide +kernel
  refine ⟨by decide +kernel, hset, fun warning htells => ?_, by decide +kernel⟩
  exact absurd (htells.bop.mp hset) Nat.one_ne_zero

end Return

end Mhvtl.Ssc
