import Mhvtl.Ssc.Mounting
import Mhvtl.Ssc.Lifetime

/-!
# Unloading and loading by the host

`rewind_tape` returns 1 or -1, while LOAD UNLOAD looks for 0 before it mounts the cartridge in the
mouth of the drive. A host that unloads its cartridge cannot load it again.
-/

namespace Mhvtl.Ssc

open Cart Store

/-- A cartridge with `n` partitions is in the drive. -/
structure Held (n : ℕ) (recs : ℕ → List Record) (d : Drive) : Prop where
  /-- It says so. -/
  load_status : d.load_status ≠ TAPE_UNLOADED
  /-- There is a partition. -/
  n_pos : 0 < n
  /-- What is on them. -/
  mounted : Mounted n d.cart recs

/-- No cartridge is in the drive, as an unload leaves it. -/
structure Idle (d : Drive) : Prop where
  /-- It says so. -/
  load_status : d.load_status = TAPE_UNLOADED
  /-- No file of a partition is open. -/
  closed : ∀ k q, d.cart.fd k q = false
  /-- The arrays are clear. -/
  clear : Spare 0 d.cart

/-- What a host asks of the drive. -/
inductive HostAsk where
  /-- To unload the cartridge, and to load it again. -/
  | reload
  /-- To load a cartridge. -/
  | load
  /-- To unload it. -/
  | unload
deriving DecidableEq

/-- The commands of the host, and what they find. -/
structure HostSetting where
  /-- A command to unload. -/
  unload : Cdb
  /-- A command to load. -/
  load : Cdb
  /-- The LOAD bits. -/
  load_bits : unload 4 &&& 0x01 = 0 ∧ load 4 &&& 0x01 ≠ 0
  /-- The EOT bits, which the drive does not support. -/
  eot_bits : unload 4 &&& 0x04 = 0 ∧ load 4 &&& 0x04 = 0
  /-- The cartridge in the mouth of the drive. -/
  barcode : Option LoadRequest
  /-- The name of the directory that was freed is still there. -/
  stale : Bool

/-- LOAD UNLOAD in a setting. -/
def HostSetting.run (s : HostSetting) (P : LoadRules) (L : Libs) (d : Drive) (load : Bool) : Option Drive :=
  ssc_load_unload P L d (if load then s.load else s.unload) s.barcode s.stale

/-- The cartridge is mounted and rewound, with good status or a unit attention. -/
structure Remounted (n : ℕ) (recs : ℕ → List Record) (d : Drive) : Prop where
  /-- It is in the drive. -/
  load_status : d.load_status = TAPE_LOADED
  /-- With the same records. -/
  mounted : Mounted n d.cart recs
  /-- The head stands at the start of the first partition. -/
  start : At d.cart 0 (recs 0) 0
  /-- The status. -/
  status : d.cart.status.sam_stat = SAM_STAT_GOOD ∨ ∃ ascq, d.cart.status = sam_unit_attention ascq

/-- The cartridge stays mounted and is rewound. -/
structure Rewound (n : ℕ) (recs : ℕ → List Record) (d d' : Drive) : Prop where
  /-- It stays where it is. -/
  load_status : d'.load_status = d.load_status
  /-- With the same records. -/
  mounted : Mounted n d'.cart recs
  /-- The head stands at the start of the first partition. -/
  start : At d'.cart 0 (recs 0) 0
  /-- Its files. -/
  files : d'.cart.dir = d.cart.dir

/-- The states in which something is expected of the drive. -/
def HostAsk.Posed (n : ℕ) (recs : ℕ → List Record) (d : Drive) : HostAsk → Prop
  | .reload => Held n recs d
  | .load => Held n recs d ∨ Idle d
  | .unload => Idle d

/-- The drive does what it is expected to. The second command of a reload comes in a setting of its
own. -/
def HostAsk.Answered (n : ℕ) (recs : ℕ → List Record) (P : LoadRules) (L : Libs) (s s' : HostSetting)
    (d : Drive) : HostAsk → Prop
  | .reload => ∃ d₁ d₂, s.run P L d false = some d₁ ∧ s'.run P L d₁ true = some d₂ ∧ Remounted n recs d₂
  | .load => ∃ d', s.run P L d true = some d' ∧
      if d.load_status = TAPE_UNLOADED then d' = d.report (sam_not_ready E_MEDIUM_NOT_PRESENT)
      else Rewound n recs d d'
  | .unload => s.run P L d false = some (d.report (sam_not_ready E_MEDIUM_NOT_PRESENT))

/-- When it does. -/
def HostAsk.Fine (s : HostSetting) (d : Drive) : HostAsk → Prop
  | .reload => False
  | .load => d.load_status ≠ TAPE_UNLOADED
  | .unload => (s.stale = true → ∀ k, d.cart.dir.file k 0 = none) ∧
      d.cart.raw_pos = eodHeader 0 0 0 ∧ d.cart.OK_to_write = true

section Runs

variable {n : ℕ} {recs : ℕ → List Record} {P : LoadRules} {L : Libs} {s s' : HostSetting}
  {d d' : Drive}

/-- What is under the head once the drive has gone back to the first partition. -/
def HostSetting.front (s : HostSetting) (d : Drive) : ℤ × Drive :=
  let e := firstPartition d.declare_ssc_vars s.stale
  (e.cart.rewind_tape.1, { e with cart := e.cart.rewind_tape.2 })

/-- Rewinding leaves the drive as it is. -/
theorem front_load_status : (s.front d).2.load_status = d.load_status := by
  unfold HostSetting.front firstPartition
  dsimp only
  split <;> rfl

/-- LOAD UNLOAD looks at the load status and at what the head has found. It never mounts a
cartridge. -/
theorem run_eq (load : Bool) : s.run P L d load = if d.load_status = TAPE_UNLOADED then
      some (if load = true ∧ (s.front d).1 = 1 then (s.front d).2
        else (s.front d).2.report
          (sam_not_ready (if load then E_MEDIUM_FMT_CORRUPT else E_MEDIUM_NOT_PRESENT)))
    else if d.load_status = TAPE_LOADED then
      if load then some (s.front d).2 else unloadTape P (s.front d).2
    else some ((s.front d).2.report (sam_not_ready E_MEDIUM_FMT_CORRUPT)) := by
  have heot : (if load then s.load else s.unload) 4 &&& 0x04 = 0 := by
    cases load
    · exact s.eot_bits.1
    · exact s.eot_bits.2
  have hbit : ((if load then s.load else s.unload) 4 &&& 0x01 ≠ 0) = (load = true) := by
    cases load
    · exact propext ⟨fun h => absurd s.load_bits.1 h, fun h => absurd h Bool.false_ne_true⟩
    · exact propext ⟨fun _ => rfl, fun _ => s.load_bits.2⟩
  have hne : (s.front d).1 ≠ 0 := rewind_tape_ne_zero _
  have hst := front_load_status (s := s) (d := d)
  unfold HostSetting.run ssc_load_unload
  dsimp only
  rw [if_neg (not_not_intro heot)]
  rcases hrewind : (firstPartition d.declare_ssc_vars s.stale).cart.rewind_tape with ⟨media_state, c⟩
  have hfront : s.front d = (media_state, { firstPartition d.declare_ssc_vars s.stale with cart := c }) := by
    unfold HostSetting.front
    dsimp only
    rw [hrewind]
  rw [hfront] at hne hst ⊢
  dsimp only at hne hst ⊢
  rw [hst]
  simp only [hbit]
  cases load with
  | false =>
    simp only [Bool.false_eq_true, decide_false, Bool.not_false, if_true, if_false, false_and]
  | true =>
    simp only [decide_true, Bool.not_true, Bool.false_eq_true, if_true, if_false, true_and, hne]
    by_cases hout : d.load_status = TAPE_UNLOADED
    · rw [if_pos hout, if_pos hout]
      split <;> rfl
    · rw [if_neg hout, if_neg hout]

/-- Nothing is in the drive behind an unload. -/
theorem unloadTape_out (hrun : unloadTape P d = some d') : d'.load_status = TAPE_UNLOADED := by
  unfold unloadTape at hrun
  extract_lets emptied d₁ at hrun
  split at hrun
  · obtain ⟨c, -, rfl⟩ := Option.map_eq_some_iff.mp hrun
    rfl
  · obtain rfl := Option.some.inj hrun
    rfl

/-- A command to unload leaves no cartridge loaded. -/
theorem run_unload_out (hrun : s.run P L d false = some d') : d'.load_status ≠ TAPE_LOADED := by
  have hst := front_load_status (s := s) (d := d)
  have hne : TAPE_UNLOADED ≠ TAPE_LOADED := by decide
  rw [run_eq] at hrun
  split at hrun
  · rename_i hout
    obtain rfl := Option.some.inj hrun
    rw [if_neg (fun h => Bool.false_ne_true h.1)]
    change (s.front d).2.load_status ≠ TAPE_LOADED
    rwa [hst, hout]
  split at hrun
  · rw [if_neg Bool.false_ne_true] at hrun
    rw [unloadTape_out hrun]
    exact hne
  · rename_i hloaded
    obtain rfl := Option.some.inj hrun
    change (s.front d).2.load_status ≠ TAPE_LOADED
    rwa [hst]

/-- A command to load leaves the cartridge where it is. -/
theorem run_load_status (hrun : s.run P L d true = some d') : d'.load_status = d.load_status := by
  rw [← front_load_status (s := s) (d := d)]
  rw [run_eq] at hrun
  split at hrun
  · obtain rfl := Option.some.inj hrun
    split <;> rfl
  split at hrun
  · obtain rfl := Option.some.inj hrun
    rfl
  · obtain rfl := Option.some.inj hrun
    rfl

/-- With a cartridge in the drive the first partition is opened at its start. -/
theorem front_held (h : Held n recs d) : Rewound n recs d (s.front d).2 := by
  let c := d.declare_ssc_vars.cart
  have hmounted : Mounted n c recs := (h.mounted.report { d.cart.status with sam_stat := SAM_STAT_GOOD }).mounted
  obtain ⟨hfirst, hat⟩ := hmounted.change_partition (q := 0) (by decide)
  obtain ⟨c', hrewind, hsought⟩ := rewind_tape_ok (hat h.n_pos) (hmounted.length_lt h.n_pos)
  have hfront : s.front d = (1, { d.declare_ssc_vars with cart := c' }) := by
    unfold HostSetting.front firstPartition
    dsimp only
    rw [if_neg (fun hno => h.load_status hno.1)]
    dsimp only [Drive.onCart]
    rw [hrewind]
  rw [hfront]
  have hback := hfirst.rewind_tape
  rw [hrewind] at hback
  obtain ⟨_, _, _, _, honly⟩ := change_partition_only c 0
  refine ⟨rfl, hback.mounted, hsought.at_pos (hat h.n_pos), ?_⟩
  obtain ⟨_, _, heq⟩ := hsought.eq
  rw [heq, honly]
  rfl

/-- The files that are opened without a cartridge: those of the one that was there before. -/
def HostSetting.opened (s : HostSetting) (d : Drive) (k : FileKind) (q : ℕ) : Bool :=
  q = 0 ∧ s.stale = true ∧ (d.cart.dir.file k 0).isSome = true

/-- The header at the start of a partition that the arrays do not know. -/
theorem read_header_clear {c : Store} (hp : c.partition_id = 0) (hclear : Spare 0 c) :
    c.read_header 0 = (0, { c with raw_pos := eodHeader 0 0 0, OK_to_write := true }) := by
  obtain ⟨hblk, hoff⟩ := hclear 0 (Nat.le_refl 0)
  have hsame : Function.update c.eod_blk_number 0 0 = c.eod_blk_number ∧
      Function.update c.eod_data_offset 0 0 = c.eod_data_offset := by
    constructor
    · nth_rewrite 2 [← hblk]
      exact Function.update_eq_self ..
    · nth_rewrite 2 [← hoff]
      exact Function.update_eq_self ..
  simp only [Store.read_header, hp, hblk, hoff, lt_irrefl, if_false, if_true, mkEODHeader, hsame]

/-- Clear arrays make the start of the first partition the end of its data. -/
theorem change_partition_clear {c : Store} (hclosed : ∀ k q, c.fd k q = false) (hclear : Spare 0 c) :
    (c.change_partition 0).2 = { c with
      raw_pos := eodHeader 0 0 0, OK_to_write := true
      fd := fun k q => decide (q = 0 ∧ (c.dir.file k 0).isSome = true) } := by
  let c₁ : Store := (((c.close_partition c.partition_id).setPartition 0).open_partition 0).2
  have hread : c₁.read_header 0 = (0, { c₁ with raw_pos := eodHeader 0 0 0, OK_to_write := true }) :=
    read_header_clear rfl hclear
  have hfd : c₁.fd = fun k q => decide (q = 0 ∧ (c.dir.file k 0).isSome = true) := by
    funext k q
    change (if q = 0 then (c.dir.file k 0).isSome else if q = c.partition_id then false else c.fd k q) = _
    rw [hclosed, ite_self]
    split
    · rename_i hq
      simp only [hq, true_and, Bool.decide_eq_true]
    · rename_i hq
      simp only [hq, false_and, decide_false]
  unfold Store.change_partition
  dsimp only
  rw [show (((c.close_partition c.partition_id).setPartition 0).open_partition 0).2 = c₁ from rfl, hread,
    ← hfd]
  rfl

/-- Without a cartridge the head is put at the start of an empty partition. -/
theorem firstPartition_idle (h : Idle d) : firstPartition d.declare_ssc_vars s.stale =
    { d.declare_ssc_vars with cart := { d.declare_ssc_vars.cart with
      raw_pos := eodHeader 0 0 0, OK_to_write := true, fd := s.opened d } } := by
  let c := d.declare_ssc_vars.cart
  unfold firstPartition
  split
  · rename_i hno
    have hnone := change_partition_clear (c := { c with dir := ⟨fun _ _ => none, none, none⟩ })
      h.closed h.clear
    have hstale : s.stale = false := by
      simpa only [Bool.not_eq_true'] using hno.2
    have hfd : s.opened d = fun _ _ => false := by
      funext k q
      simp only [HostSetting.opened, hstale, Bool.false_eq_true, false_and, and_false, decide_false]
    simp only [Option.isSome_none, Bool.false_eq_true, and_false, decide_false] at hnone
    dsimp only [Drive.onCart]
    rw [hnone, hfd]
  · rename_i hno
    have hopen := change_partition_clear (c := c) h.closed h.clear
    have hstale : s.stale = true := by
      by_contra hne
      exact hno ⟨h.load_status, by rw [Bool.eq_false_iff.mpr hne]; rfl⟩
    have hfd : s.opened d = fun k q => decide (q = 0 ∧ (c.dir.file k 0).isSome = true) := by
      funext k q
      simp only [HostSetting.opened, hstale, true_and]
      rfl
    dsimp only [Drive.onCart]
    rw [hopen, hfd]

/-- Without a cartridge the head finds one exactly when the data file of the one that was there is
opened; its status apart, nothing else changes. -/
theorem front_idle (h : Idle d) : ∃ st ok,
    (s.front d).2 = { d with cart := { d.cart with
      raw_pos := eodHeader 0 0 0, OK_to_write := ok, fd := s.opened d, status := st } } ∧
    (s.front d).1 = (if s.opened d .data 0 = true then 1 else -1) ∧
    (s.opened d .data 0 = false → ok = true) := by
  unfold HostSetting.front
  rw [firstPartition_idle h]
  dsimp only
  let c : Store := { d.declare_ssc_vars.cart with
    raw_pos := eodHeader 0 0 0, OK_to_write := true, fd := s.opened d }
  have hread : c.read_header 0 = (0, { c with raw_pos := eodHeader 0 0 0, OK_to_write := true }) :=
    read_header_clear rfl h.clear
  have hfd : c.fd .data c.partition_id = s.opened d .data 0 := rfl
  change ∃ st ok, { d.declare_ssc_vars with cart := c.rewind_tape.2 } = _ ∧ c.rewind_tape.1 = _ ∧ _
  cases hopen : s.opened d .data 0 with
  | false =>
    have hrewind : c.rewind_tape = (-1, { c with status := sam_not_ready E_MEDIUM_NOT_PRESENT }) := by
      simp only [Store.rewind_tape, Store.tape_loaded, hfd, hopen, Bool.false_eq_true, if_false,
        Bool.not_false, if_true]
    rw [hrewind]
    exact ⟨_, _, rfl, rfl, fun _ => rfl⟩
  | true =>
    have hrewind : ∃ ok, c.rewind_tape = (1, { c with OK_to_write := ok }) := by
      simp only [Store.rewind_tape, Store.tape_loaded, hfd, hopen, if_true, Bool.not_true,
        Bool.false_eq_true, if_false, hread, ne_eq, not_true_eq_false]
      exact ⟨_, rfl⟩
    obtain ⟨ok, hrewind⟩ := hrewind
    rw [hrewind]
    exact ⟨_, _, rfl, rfl, fun hno => absurd hno.symm Bool.false_ne_true⟩

/-- A command to load is not answered as it should be without a cartridge. -/
theorem run_load_idle (h : Idle d) :
    s.run P L d true ≠ some (d.report (sam_not_ready E_MEDIUM_NOT_PRESENT)) := by
  obtain ⟨st, ok, hfront, hstate, -⟩ := front_idle (s := s) h
  rw [run_eq, if_pos h.load_status, hstate, hfront]
  intro heq
  have hcart := congrArg Drive.cart (Option.some.inj heq)
  cases hopen : s.opened d .data 0 with
  | false =>
    rw [hopen, if_neg Bool.false_ne_true, if_neg (fun hno => absurd hno.2 (by decide))] at hcart
    have hst := congrArg Store.status hcart
    have hne : sam_not_ready E_MEDIUM_FMT_CORRUPT ≠ sam_not_ready E_MEDIUM_NOT_PRESENT := by decide
    exact hne hst
  | true =>
    rw [hopen, if_pos rfl, if_pos ⟨rfl, rfl⟩] at hcart
    have hfd : s.opened d .data 0 = d.cart.fd .data 0 :=
      congrFun (congrFun (congrArg Store.fd hcart) .data) 0
    rw [hopen, h.closed] at hfd
    cases hfd

/-- A command to unload is, when nothing of the cartridge that was there before can be opened and the
head stands where it is put. -/
theorem run_unload_idle_iff (h : Idle d) :
    s.run P L d false = some (d.report (sam_not_ready E_MEDIUM_NOT_PRESENT)) ↔ HostAsk.unload.Fine s d := by
  obtain ⟨st, ok, hfront, -, hok⟩ := front_idle (s := s) h
  rw [run_eq, if_pos h.load_status, if_neg (fun hno => Bool.false_ne_true hno.1),
    if_neg Bool.false_ne_true, hfront]
  constructor
  · intro heq
    have hcart := congrArg Drive.cart (Option.some.inj heq)
    have hfd : ∀ k, s.opened d k 0 = false := fun k =>
      (congrFun (congrFun (congrArg Store.fd hcart) k) 0).trans (h.closed k 0)
    have hperm : ok = d.cart.OK_to_write := congrArg Store.OK_to_write hcart
    refine ⟨fun hstale k => ?_, (congrArg Store.raw_pos hcart).symm, hperm.symm.trans (hok (hfd _))⟩
    have hno := of_decide_eq_false (hfd k)
    rw [← Option.not_isSome_iff_eq_none]
    exact fun hthere => hno ⟨rfl, hstale, hthere⟩
  · rintro ⟨hfiles, hpos, hperm⟩
    have hfd : s.opened d = d.cart.fd := by
      funext k q
      rw [h.closed]
      refine decide_eq_false ?_
      rintro ⟨-, hstale, hthere⟩
      rw [hfiles hstale] at hthere
      cases hthere
    have hset : ok = true := hok (by rw [hfd, h.closed])
    rw [hfd, hset, ← hpos, ← hperm]
    rfl

/-- The drive does what the host asks if and only if it is to load a cartridge that is mounted, or
to unload none with nothing left to open and the head where it is put. -/
theorem load_unload_answered_iff {a : HostAsk} (h : a.Posed n recs d) :
    a.Answered n recs P L s s' d ↔ a.Fine s d := by
  cases a with
  | reload =>
    refine ⟨?_, False.elim⟩
    rintro ⟨d₁, d₂, hunload, hload, hback⟩
    have hst := hback.load_status
    rw [run_load_status hload] at hst
    exact absurd hst (run_unload_out hunload)
  | load =>
    rcases h with hheld | hidle
    · refine ⟨fun _ => hheld.load_status, fun hin => ?_⟩
      have hback := front_held (s := s) hheld
      unfold HostAsk.Answered
      simp only [run_eq, if_neg hheld.load_status, if_true]
      split
      · exact ⟨_, rfl, hback⟩
      · exact ⟨_, rfl, hback.load_status, (hback.mounted.report _).mounted,
          ⟨hback.start.rep, hback.start.pos, hback.start.le, hback.start.fd, hback.start.part_lt⟩, hback.files⟩
    · refine ⟨?_, fun hin => absurd hidle.load_status hin⟩
      rintro ⟨d', hrun, hd'⟩
      rw [if_pos hidle.load_status] at hd'
      rw [hd'] at hrun
      exact absurd hrun (run_load_idle hidle)
  | unload => exact run_unload_idle_iff h

end Runs

section Examples

/-- LOAD UNLOAD with byte 4 of the command. -/
def loadCdb (bits : UInt8) : Cdb
  | 4 => bits
  | _ => 0

/-- A host in front of a drive in whose mouth the cartridge `r` stays. -/
def hostSetting (r : Option LoadRequest) : HostSetting where
  unload := loadCdb 0
  load := loadCdb 1
  load_bits := by decide
  eot_bits := by decide
  barcode := r
  stale := false

/-- A cartridge with one partition is in the drive. -/
def heldDrive : Drive := { emptyDrive with
  cart := { emptyDrive.cart with mam := emptyDrive.cart.mam.putByte .num_partitions 1 } }

/-- It is empty. -/
theorem heldDrive_held : Held 1 (fun _ => []) heldDrive := by
  have h := emptyDrive_mounted
  refine ⟨by decide, Nat.one_pos, h.n_le, h.rep, h.absent, h.bound, Or.inl ⟨0, 0, Nat.one_pos, ?_⟩, h.io⟩
  exact ⟨emptyDrive_at.rep, emptyDrive_at.pos, emptyDrive_at.le, emptyDrive_at.fd, emptyDrive_at.part_lt⟩

/-- A host that loads what is mounted finds it rewound, with the records of both partitions. -/
theorem load_unload_answered_held : HostAsk.load.Answered 2 pairTape.recs anyRules storedLibs
    (hostSetting none) (hostSetting none) pairDrive := by
  have hheld : Held 2 pairTape.recs pairDrive := ⟨by decide, by decide, pairDrive_mounted⟩
  have hposed : HostAsk.load.Posed 2 pairTape.recs pairDrive := Or.inl hheld
  exact (load_unload_answered_iff hposed).mpr hheld.load_status

/-- A host that unloads the cartridge cannot load it again, although it is in the mouth of the
drive. -/
theorem reload_refused : HostAsk.reload.Posed 1 (fun _ => []) heldDrive ∧
    ¬HostAsk.reload.Answered 1 (fun _ => []) anyRules storedLibs
      (hostSetting none) (hostSetting (some ⟨heldDrive.cart.dir, true, 0⟩)) heldDrive ∧
    (((hostSetting none).run anyRules storedLibs heldDrive false).bind fun d =>
      (hostSetting (some ⟨heldDrive.cart.dir, true, 0⟩)).run anyRules storedLibs d true).map
        (fun d => (d.load_status, d.cart.status)) =
      some (TAPE_UNLOADED, sam_not_ready E_MEDIUM_FMT_CORRUPT) := by
  have hrun : (((hostSetting none).run anyRules storedLibs heldDrive false).bind fun d =>
      (hostSetting (some ⟨heldDrive.cart.dir, true, 0⟩)).run anyRules storedLibs d true).map
        (fun d => (d.load_status, d.cart.status)) =
      some (TAPE_UNLOADED, sam_not_ready E_MEDIUM_FMT_CORRUPT) := by decide +kernel
  refine ⟨heldDrive_held, ?_, hrun⟩
  rintro ⟨d₁, d₂, hunload, hload, hback⟩
  rw [hunload, Option.bind_some, hload, Option.map_some] at hrun
  have hst : d₂.load_status = TAPE_UNLOADED := congrArg Prod.fst (Option.some.inj hrun)
  rw [hback.load_status] at hst
  exact absurd hst (by decide)

end Examples

end Mhvtl.Ssc
