import Mathlib.Data.List.Basic
import Mhvtl.Kernel.Driver
import Mhvtl.Lib.Desk

/-!
# No command is lost

The queue of every logical unit is a desk: commands come to it, are handed out to
the daemon in their order, and leave. What each entry point does to the queues is
said once; over a run every command that was queued has left its queue once or is
still there, and the daemon saw the commands once at most, in their order.
-/

namespace Mhvtl.Kernel

/-- A queued command as it was when it came. -/
def QueuedCmd.job (sqcp : QueuedCmd) : QueuedCmd := { sqcp with state := .CMD_STATE_QUEUED }

/-- A queue as a desk. -/
def deskOf (cmds : List QueuedCmd) : Desk QueuedCmd where
  handed := (cmds.filter fun q => q.state = .CMD_STATE_IN_USE).map QueuedCmd.job
  waiting := (cmds.filter fun q => q.state = .CMD_STATE_QUEUED).map QueuedCmd.job

/-- The queue of a unit, empty without the unit. -/
def Driver.cmds (d : Driver) (minor : ℕ) : List QueuedCmd :=
  ((d.devp minor).map Lu.cmd_list).getD []

/-- The desk of a unit. -/
def Driver.desk (d : Driver) (minor : ℕ) : Desk QueuedCmd := deskOf (d.cmds minor)

/-- A command with its unit, when the unit is this one. -/
def onUnit (minor : ℕ) (x : Option (ℕ × QueuedCmd)) : List QueuedCmd :=
  (x.toList.filter fun y => y.1 = minor).map fun y => y.2.job

/-- The commands that left the queue of a unit. -/
def settledOn (minor : ℕ) (xs : List Settled) : List QueuedCmd :=
  (xs.filter fun x => x.minor = minor).map fun x => x.sqcp.job

/-- What an entry point did to the queue of a unit. -/
def Effect.turn (e : Effect) (minor : ℕ) : Desk.Turn QueuedCmd :=
  ⟨onUnit minor e.queued, onUnit minor e.sent, settledOn minor e.settled⟩

/-- What holds of the driver between two calls. -/
structure Sound (d : Driver) : Prop where
  /-- No queue has a command that is not in use. -/
  states : ∀ minor, ∀ q ∈ d.cmds minor, q.state ≠ .CMD_STATE_FREE
  /-- No unit is listed twice. -/
  nodup : d.lu_list.Nodup
  /-- The units are those listed. -/
  listed : ∀ minor, minor ∈ d.lu_list ↔ (d.devp minor).isSome
  /-- There is room for them. -/
  room : ∀ minor, (d.devp minor).isSome → minor < DEF_MAX_MINOR_NO

/-- What a call can do to the queues. -/
inductive Change (d : Driver) : Driver → Effect → Prop where
  /-- Nothing. -/
  | quiet {d' : Driver} {e : Effect} (cmds : d'.cmds = d.cmds)
      (serial : d'.serial_number = d.serial_number) (queued : e.queued = none)
      (sent : e.sent = none) (settled : e.settled = []) : Change d d' e
  /-- A command is queued. -/
  | queues {d' : Driver} (minor : ℕ) (sqcp : QueuedCmd)
      (cmds : d'.cmds = Function.update d.cmds minor (d.cmds minor ++ [sqcp]))
      (state : sqcp.state = .CMD_STATE_QUEUED) (number : sqcp.serial_number = d.serial_number)
      (header : sqcp.op_header = ⟨sqcp.serial_number, sqcp.a_cmnd.cmnd⟩)
      (result : sqcp.scsi_result = 0) (serial : d'.serial_number = nextSerial d.serial_number) :
      Change d d' { queued := some (minor, sqcp) }
  /-- The first command that waits is handed out. -/
  | hands {d' : Driver} (minor : ℕ) (sqcp : QueuedCmd) (pre post : List QueuedCmd)
      (here : d.cmds minor = pre ++ sqcp :: post) (first : ∀ q ∈ pre, q.state ≠ .CMD_STATE_QUEUED)
      (state : sqcp.state = .CMD_STATE_QUEUED)
      (cmds : d'.cmds = Function.update d.cmds minor
        (pre ++ { sqcp with state := .CMD_STATE_IN_USE } :: post))
      (serial : d'.serial_number = d.serial_number) :
      Change d d' { ret := VTL_QUEUE_CMD, sent := some (minor, sqcp) }
  /-- A command leaves its queue. -/
  | settles {d' : Driver} (minor : ℕ) (sqcp : QueuedCmd) (back : Option ScsiCmnd)
      (pre post : List QueuedCmd) (here : d.cmds minor = pre ++ sqcp :: post)
      (cmds : d'.cmds = Function.update d.cmds minor (pre ++ post))
      (serial : d'.serial_number = d.serial_number) :
      Change d d' { settled := [⟨minor, sqcp, back⟩] }
  /-- The queues of some units are emptied. -/
  | clears {d' : Driver} (minors : List ℕ) (nodup : minors.Nodup)
      (cleared : ∀ m ∈ minors, d'.cmds m = []) (others : ∀ m, m ∉ minors → d'.cmds m = d.cmds m)
      (serial : d'.serial_number = d.serial_number) :
      Change d d' { settled := minors.flatMap fun m => (d.cmds m).map fun q => ⟨m, q, none⟩ }

/-- What a call can do to the units. -/
inductive Units (d : Driver) : Call → Driver → Prop where
  /-- They are the same. -/
  | same {c : Call} {d' : Driver} (listed : d'.lu_list = d.lu_list)
      (there : ∀ m, (d'.devp m).isSome = (d.devp m).isSome) : Units d c d'
  /-- There is one more. -/
  | adds {d' : Driver} (minor : ℕ) (ctl : Ctl) (memory found : Bool)
      (room : minor < DEF_MAX_MINOR_NO) (new : ¬ (d.devp minor).isSome)
      (listed : d'.lu_list = d.lu_list ++ [minor]) (there : (d'.devp minor).isSome)
      (others : ∀ m, m ≠ minor → d'.devp m = d.devp m) :
      Units d (.add_device minor ctl memory found) d'
  /-- One is gone. -/
  | removes {d' : Driver} (minor : ℕ) (ctl : Ctl) (listed : d'.lu_list = d.lu_list.erase minor)
      (gone : d'.devp minor = none) (others : ∀ m, m ≠ minor → d'.devp m = d.devp m) :
      Units d (.remove_lu ctl) d'

/-- The command that the mid level gives in a call. -/
def Call.presents : Call → Option ScsiCmnd
  | .queuecommand scp _ => some scp
  | _ => none

/-- All that a call does. -/
structure CallDone (d : Driver) (c : Call) (d' : Driver) (e : Effect) : Prop where
  /-- What it does to the queues. -/
  change : Change d d' e
  /-- What it does to the units. -/
  units : Units d c d'
  /-- The command it is given is queued or handed straight back. -/
  takes : (c.presents.map ScsiCmnd.tag).toList.Perm ((e.rejected.map ScsiCmnd.tag).toList ++
    (e.queued.map Prod.snd).toList.map fun q => q.a_cmnd.tag)

section

variable {d d' : Driver} {e : Effect} {lu : Lu} {minor : ℕ}

/-- What is found first is what is erased first. -/
theorem find_erase {α : Type} {p : α → Bool} {l : List α} {a : α} (h : l.find? p = some a) :
    ∃ l₁ l₂, l = l₁ ++ a :: l₂ ∧ l.eraseP p = l₁ ++ l₂ ∧ p a = true := by
  obtain ⟨ha, l₁, l₂, rfl, hl₁⟩ := List.find?_eq_some_iff_append.mp h
  refine ⟨l₁, l₂, rfl, ?_, ha⟩
  have hnone : ∀ b ∈ l₁, ¬ p b = true := by
    intro b hb
    simpa using hl₁ b hb
  rw [List.eraseP_append_right _ hnone, List.eraseP_cons_of_pos ha]

/-- The queue of a unit that is there. -/
theorem Driver.cmds_of (h : d.devp minor = some lu) : d.cmds minor = lu.cmd_list := by
  simp [Driver.cmds, h]

/-- Another unit in the place of one changes one queue. -/
theorem Driver.cmds_setLu :
    (d.setLu minor lu).cmds = Function.update d.cmds minor lu.cmd_list := by
  funext m
  by_cases hm : m = minor
  · subst hm
    simp [Driver.cmds, Driver.setLu]
  · simp [Driver.cmds, Driver.setLu, hm]

/-- A unit with the same queue changes no queue. -/
theorem Driver.cmds_setLu_same (h : d.devp minor = some lu) {lu' : Lu}
    (hcmds : lu'.cmd_list = lu.cmd_list) : (d.setLu minor lu').cmds = d.cmds := by
  rw [Driver.cmds_setLu, hcmds, ← Driver.cmds_of h, Function.update_eq_self]

/-- A unit that was looked up by its address. -/
theorem Driver.unitOf_some {ctl : Ctl} (h : d.unitOf ctl = some (minor, lu)) :
    d.devp minor = some lu ∧ minor ∈ d.lu_list ∧ lu.ctl = ctl := by
  obtain ⟨m, hm, hlu⟩ := Option.bind_eq_some_iff.mp h
  obtain ⟨lu', hdev, heq⟩ := Option.map_eq_some_iff.mp hlu
  obtain ⟨rfl, rfl⟩ := Prod.mk.inj heq
  refine ⟨hdev, List.mem_of_find?_eq_some hm, ?_⟩
  have hctl := List.find?_some hm
  rw [hdev] at hctl
  simpa using hctl

/-- A command that was looked up in all units. -/
theorem Driver.lookupAll_some {indx : ℕ} {q : QueuedCmd}
    (h : d.lookupAll indx = some (minor, lu, q)) :
    d.devp minor = some lu ∧ lookup_sqcp lu indx = some q := by
  obtain ⟨m, _, hm⟩ := List.exists_of_findSome?_eq_some h
  obtain ⟨lu', hdev, hlu⟩ := Option.bind_eq_some_iff.mp hm
  obtain ⟨q', hq, heq⟩ := Option.map_eq_some_iff.mp hlu
  simp only [Prod.mk.injEq] at heq
  obtain ⟨rfl, rfl, rfl⟩ := heq
  exact ⟨hdev, hq⟩

/-- The first command that waits. -/
theorem send_mhvtl_header_some {cmds rest : List QueuedCmd} {q : QueuedCmd}
    (h : send_mhvtl_header cmds = some (q, rest)) :
    ∃ pre post, cmds = pre ++ q :: post ∧ (∀ x ∈ pre, x.state ≠ .CMD_STATE_QUEUED) ∧
      q.state = .CMD_STATE_QUEUED ∧
      rest = pre ++ { q with state := .CMD_STATE_IN_USE } :: post := by
  induction cmds generalizing rest with
  | nil => cases h
  | cons x cmds ih =>
    rw [send_mhvtl_header] at h
    split_ifs at h with hx
    · obtain ⟨rfl, rfl⟩ := Prod.mk.inj (Option.some.inj h)
      exact ⟨[], cmds, rfl, fun y hy => (List.not_mem_nil hy).elim, hx, rfl⟩
    · obtain ⟨r, hr, heq⟩ := Option.map_eq_some_iff.mp h
      obtain ⟨rfl, rfl⟩ := Prod.mk.inj heq
      obtain ⟨pre, post, hcmds, hfirst, hstate, hrest⟩ := ih hr
      refine ⟨x :: pre, post, by rw [hcmds]; rfl, ?_, hstate, by rw [hrest]; rfl⟩
      intro y hy
      rcases List.mem_cons.mp hy with rfl | hy
      · exact hx
      · exact hfirst y hy

/-- A unit in the place of one leaves the units as they were. -/
theorem Units.of_setLu {c : Call} (h : d.devp minor = some lu) (lu' : Lu) :
    Units d c (d.setLu minor lu') := by
  refine Units.same rfl fun m => ?_
  by_cases hm : m = minor
  · subst hm
    simp [Driver.setLu, h]
  · simp [Driver.setLu, hm]

/-- The driver did not change. -/
theorem Units.rests {c : Call} : Units d c d := Units.same rfl fun _ => rfl

/-- A command that is found by its number leaves its queue. -/
theorem Change.of_lookup {serialNo : ℕ} {q : QueuedCmd} (hlu : d.devp minor = some lu)
    (hq : lookup_sqcp lu serialNo = some q) (back : Option ScsiCmnd) :
    Change d (d.setLu minor (mhvtl_remove_sqcp lu serialNo)) { settled := [⟨minor, q, back⟩] } := by
  obtain ⟨pre, post, hcmds, herase, _⟩ := find_erase hq
  refine Change.settles minor q back pre post ?_ ?_ rfl
  · rw [Driver.cmds_of hlu, hcmds]
  · rw [Driver.cmds_setLu, mhvtl_remove_sqcp, herase]

/-- REPORT LUNS leaves the queue. -/
theorem report_luns_cmds (scp : ScsiCmnd) (lu : Lu) :
    (mhvtl_resp_report_luns scp lu).2.cmd_list = lu.cmd_list := by
  unfold mhvtl_resp_report_luns
  dsimp only
  split_ifs <;> rfl

/-- A call of the mid level queues the command or hands it straight back. -/
theorem queuecommand_done (d : Driver) (scp : ScsiCmnd) (memory : Bool) :
    CallDone d (.queuecommand scp memory) (d.mhvtl_queuecommand scp memory).1
      (d.mhvtl_queuecommand scp memory).2 := by
  unfold Driver.mhvtl_queuecommand
  by_cases hno : scp.device.id = this_id ∨ DEF_MAX_LUNS ≤ scp.device.lun
  · simp only [if_pos hno]
    exact ⟨Change.quiet rfl rfl rfl rfl rfl, Units.rests, List.Perm.refl _⟩
  · simp only [if_neg hno]
    cases hunit : d.unitOf scp.device with
    | none => exact ⟨Change.quiet rfl rfl rfl rfl rfl, Units.rests, List.Perm.refl _⟩
    | some unit =>
      obtain ⟨minor, lu⟩ := unit
      have hlu := (Driver.unitOf_some hunit).1
      dsimp only
      split_ifs with hluns hmemory
      · exact ⟨Change.quiet (Driver.cmds_setLu_same hlu (report_luns_cmds scp lu)) rfl rfl rfl rfl,
          Units.of_setLu hlu _, List.Perm.refl _⟩
      · refine ⟨Change.queues _ _ ?_ rfl rfl rfl rfl rfl,
          Units.same rfl fun m => ?_, List.Perm.refl _⟩
        · rw [Driver.cmds_of hlu]
          exact Driver.cmds_setLu
        · by_cases hm : m = minor
          · subst hm
            simp [Driver.mhvtl_q_cmd, Driver.setLu, hlu]
          · simp [Driver.mhvtl_q_cmd, Driver.setLu, hm]
      · exact ⟨Change.quiet rfl rfl rfl rfl rfl, Units.rests, List.Perm.refl _⟩

/-- A timer that runs out hands one command back at most. -/
theorem timer_done (d : Driver) (indx : ℕ) : CallDone d (.timer_intr_handler indx)
    (d.mhvtl_timer_intr_handler indx).1 (d.mhvtl_timer_intr_handler indx).2 := by
  unfold Driver.mhvtl_timer_intr_handler
  cases hfound : d.lookupAll indx with
  | none => exact ⟨Change.quiet rfl rfl rfl rfl rfl, Units.rests, List.Perm.refl _⟩
  | some found =>
    obtain ⟨minor, lu, q⟩ := found
    obtain ⟨hlu, hq⟩ := Driver.lookupAll_some hfound
    exact ⟨Change.of_lookup hlu hq _, Units.of_setLu hlu _, List.Perm.refl _⟩

/-- Giving a command up takes one command from its queue at most. -/
theorem abort_done (d : Driver) (scp : ScsiCmnd) :
    CallDone d (.abort scp) (d.mhvtl_abort scp).1 (d.mhvtl_abort scp).2 := by
  unfold Driver.mhvtl_abort
  cases hunit : d.unitOf scp.device with
  | none => exact ⟨Change.quiet rfl rfl rfl rfl rfl, Units.rests, List.Perm.refl _⟩
  | some unit =>
    obtain ⟨minor, lu⟩ := unit
    have hlu := (Driver.unitOf_some hunit).1
    refine ⟨?_, Units.of_setLu hlu _, List.Perm.refl _⟩
    dsimp only
    cases hq : lu.cmd_list.find? fun q =>
        q.state ≠ .CMD_STATE_FREE && q.a_cmnd.tag == scp.tag with
    | none =>
      refine Change.quiet (Driver.cmds_setLu_same hlu ?_) rfl rfl rfl rfl
      exact List.eraseP_of_forall_not fun q hmem => List.find?_eq_none.mp hq q hmem
    | some q =>
      obtain ⟨pre, post, hcmds, herase, _⟩ := find_erase hq
      refine Change.settles minor q none pre post ?_ ?_ rfl
      · rw [Driver.cmds_of hlu, hcmds]
      · rw [Driver.cmds_setLu, herase]

/-- A reset of one unit leaves the queues. -/
theorem device_reset_done (d : Driver) (ctl : Ctl) :
    CallDone d (.device_reset ctl) (d.mhvtl_device_reset ctl) {} := by
  unfold Driver.mhvtl_device_reset
  cases hunit : d.unitOf ctl with
  | none => exact ⟨Change.quiet rfl rfl rfl rfl rfl, Units.rests, List.Perm.refl _⟩
  | some unit =>
    have hlu := (Driver.unitOf_some hunit).1
    exact ⟨Change.quiet (Driver.cmds_setLu_same hlu rfl) rfl rfl rfl rfl, Units.of_setLu hlu _,
      List.Perm.refl _⟩

/-- A reset of the bus leaves the queues. -/
theorem bus_reset_done (d : Driver) : CallDone d .bus_reset d.mhvtl_bus_reset {} := by
  refine ⟨Change.quiet ?_ rfl rfl rfl rfl, Units.same rfl fun m => Option.isSome_map,
    List.Perm.refl _⟩
  funext m
  simp only [Driver.cmds, Driver.mhvtl_bus_reset, Option.map_map]
  rfl

/-- A reset of the host empties the queues. -/
theorem host_reset_done (hd : Sound d) :
    CallDone d .host_reset d.mhvtl_host_reset.1 d.mhvtl_host_reset.2 := by
  refine ⟨?_, Units.same rfl fun m => Option.isSome_map, List.Perm.refl _⟩
  have hcmds : ∀ m, d.mhvtl_host_reset.1.cmds m = [] := by
    intro m
    have hfree : (d.cmds m).filter (fun q => q.state = .CMD_STATE_FREE) = [] := by
      rw [List.filter_eq_nil_iff]
      intro q hq
      simpa using hd.states m q hq
    unfold Driver.cmds at hfree
    cases hlu : d.devp m with
    | none => simp [Driver.cmds, Driver.mhvtl_host_reset, hlu]
    | some lu =>
      rw [hlu] at hfree
      simpa [Driver.cmds, Driver.mhvtl_host_reset, hlu] using hfree
  have hsettled : d.mhvtl_host_reset.2 =
      { settled := d.lu_list.flatMap fun m => (d.cmds m).map fun q => ⟨m, q, none⟩ } := by
    refine congrArg (fun l => ({ settled := l } : Effect)) (List.flatMap_congr fun m _ => ?_)
    have hall : (d.devp m).toList.flatMap Lu.cmd_list = d.cmds m := by
      cases hlu : d.devp m <;> simp [Driver.cmds, hlu]
    rw [hall, ← List.filterMap_eq_map]
    refine List.filterMap_congr fun q hq => ?_
    rw [if_neg (hd.states m q hq)]
    rfl
  rw [hsettled]
  refine Change.clears d.lu_list hd.nodup (fun m _ => hcmds m) ?_ rfl
  intro m hm
  have hnone : d.devp m = none := by
    simpa using mt (hd.listed m).mpr hm
  rw [hcmds m]
  simp [Driver.cmds, hnone]

/-- A unit that is added has an empty queue. -/
theorem add_device_done (d : Driver) (ctl : Ctl) (memory found : Bool)
    (hroom : minor < DEF_MAX_MINOR_NO) :
    CallDone d (.add_device minor ctl memory found) (d.mhvtl_add_device minor ctl memory found).1
      (d.mhvtl_add_device minor ctl memory found).2 := by
  unfold Driver.mhvtl_add_device
  split
  · exact ⟨Change.quiet rfl rfl rfl rfl rfl, Units.rests, List.Perm.refl _⟩
  rename_i hthere
  split
  · exact ⟨Change.quiet rfl rfl rfl rfl rfl, Units.rests, List.Perm.refl _⟩
  · refine ⟨Change.quiet ?_ rfl rfl rfl rfl, Units.adds minor ctl memory found hroom hthere rfl ?_ ?_,
      List.Perm.refl _⟩
    · have hempty : d.cmds minor = [] := by
        simp [Driver.cmds, Option.not_isSome_iff_eq_none.mp hthere]
      refine (Driver.cmds_setLu).trans ?_
      rw [← hempty, Function.update_eq_self]
    · simp [Driver.setLu]
    · intro m hm
      simp [Driver.setLu, hm]

/-- A unit that is removed takes its queue with it. -/
theorem remove_lu_done (d : Driver) (ctl : Ctl) :
    CallDone d (.remove_lu ctl) (d.mhvtl_remove_lu ctl).1 (d.mhvtl_remove_lu ctl).2 := by
  unfold Driver.mhvtl_remove_lu
  cases hunit : d.unitOf ctl with
  | none => exact ⟨Change.quiet rfl rfl rfl rfl rfl, Units.rests, List.Perm.refl _⟩
  | some unit =>
    obtain ⟨minor, lu⟩ := unit
    have hlu := (Driver.unitOf_some hunit).1
    have hsettled : (lu.cmd_list.map fun q => (⟨minor, q, none⟩ : Settled)) =
        [minor].flatMap fun m => (d.cmds m).map fun q => ⟨m, q, none⟩ := by
      simp [Driver.cmds_of hlu]
    refine ⟨?_, Units.removes minor ctl rfl ?_ ?_, List.Perm.refl _⟩
    · dsimp only
      rw [hsettled]
      refine Change.clears [minor] (List.nodup_singleton minor) ?_ ?_ rfl
      · intro m hm
        obtain rfl := List.mem_singleton.mp hm
        simp [Driver.cmds]
      · intro m hm
        have hne : m ≠ minor := fun h => hm (List.mem_singleton.mpr h)
        simp [Driver.cmds, hne]
    · simp
    · intro m hm
      simp [hm]

/-- A poll hands out the first command that waits. -/
theorem poll_done (d : Driver) (minor : ℕ) :
    CallDone d (.poll minor) (d.poll_and_get_header minor).1 (d.poll_and_get_header minor).2 := by
  unfold Driver.poll_and_get_header
  cases hlu : d.devp minor with
  | none => exact ⟨Change.quiet rfl rfl rfl rfl rfl, Units.rests, List.Perm.refl _⟩
  | some lu =>
    dsimp only
    cases hsend : send_mhvtl_header lu.cmd_list with
    | none => exact ⟨Change.quiet rfl rfl rfl rfl rfl, Units.rests, List.Perm.refl _⟩
    | some r =>
      obtain ⟨q, rest⟩ := r
      obtain ⟨pre, post, hcmds, hfirst, hstate, hrest⟩ := send_mhvtl_header_some hsend
      refine ⟨Change.hands minor q pre post ?_ hfirst hstate ?_ rfl, Units.of_setLu hlu _,
        List.Perm.refl _⟩
      · rw [Driver.cmds_of hlu, hcmds]
      · rw [Driver.cmds_setLu, hrest]

/-- A call of a daemon is refused for its minor number, or it is made. -/
theorem ioctl_cases {r : Option (Driver × Effect)} (h : d.mhvtl_c_ioctl_bkl minor r = some (d', e)) :
    DEF_MAX_MINOR_NO ≤ minor ∧ d' = d ∧ e = { ret := -ENODEV } ∨ r = some (d', e) := by
  unfold Driver.mhvtl_c_ioctl_bkl at h
  split at h
  · rename_i hbehind
    obtain ⟨rfl, rfl⟩ := Prod.mk.inj (Option.some.inj h)
    exact Or.inl ⟨hbehind, rfl, rfl⟩
  · exact Or.inr h

/-- What a daemon gets when it fetches data. -/
theorem get_data_cases {serialNo sz : ℕ}
    (h : d.mhvtl_get_user_data minor serialNo sz = some (d', e)) :
    d' = d ∧ ∃ ret data, e = { ret := ret, data := data } := by
  obtain ⟨lu, hlu, hrun⟩ := Option.map_eq_some_iff.mp h
  cases hq : lookup_sqcp lu serialNo with
  | none =>
    simp only [hq] at hrun
    obtain ⟨rfl, rfl⟩ := Prod.mk.inj hrun
    exact ⟨rfl, _, _, rfl⟩
  | some q =>
    simp only [hq] at hrun
    obtain ⟨rfl, rfl⟩ := Prod.mk.inj hrun
    exact ⟨rfl, _, _, rfl⟩

/-- What an answer does. -/
theorem put_data_cases {ds : Ds} (h : d.mhvtl_put_user_data minor ds = some (d', e)) :
    d' = d ∧ e = { ret := 1 } ∧ (∀ q ∈ d.cmds minor, q.state ≠ .CMD_STATE_FREE →
        q.serial_number ≠ ds.serialNo) ∨
      ∃ lu q, d.devp minor = some lu ∧ lookup_sqcp lu ds.serialNo = some q ∧
        d' = d.setLu minor (mhvtl_remove_sqcp lu ds.serialNo) ∧
        e = { settled := [⟨minor, q, some (Driver.answered q.a_cmnd ds)⟩] } := by
  obtain ⟨lu, hlu, hrun⟩ := Option.map_eq_some_iff.mp h
  cases hq : lookup_sqcp lu ds.serialNo with
  | none =>
    simp only [hq] at hrun
    obtain ⟨rfl, rfl⟩ := Prod.mk.inj hrun
    refine Or.inl ⟨rfl, rfl, fun q hmem hstate hserial => ?_⟩
    rw [Driver.cmds_of hlu] at hmem
    have hnot := List.find?_eq_none.mp hq q hmem
    simp [hstate, hserial] at hnot
  | some q =>
    simp only [hq] at hrun
    obtain ⟨rfl, rfl⟩ := Prod.mk.inj hrun
    exact Or.inr ⟨lu, q, hlu, hq, rfl, rfl⟩

/-- Fetching data changes nothing. -/
theorem get_data_done {serialNo sz : ℕ}
    (h : d.mhvtl_get_user_data minor serialNo sz = some (d', e)) :
    CallDone d (.get_data minor serialNo sz) d' e := by
  obtain ⟨rfl, ret, data, rfl⟩ := get_data_cases h
  exact ⟨Change.quiet rfl rfl rfl rfl rfl, Units.rests, List.Perm.refl _⟩

/-- An answer hands one command back at most. -/
theorem put_data_done {ds : Ds} (h : d.mhvtl_put_user_data minor ds = some (d', e)) :
    CallDone d (.put_data minor ds) d' e := by
  rcases put_data_cases h with ⟨rfl, rfl, _⟩ | ⟨lu, q, hlu, hq, rfl, rfl⟩
  · exact ⟨Change.quiet rfl rfl rfl rfl rfl, Units.rests, List.Perm.refl _⟩
  · exact ⟨Change.of_lookup hlu hq _, Units.of_setLu hlu _, List.Perm.refl _⟩

/-- What a call does, told of its result as a whole. -/
theorem CallDone.of_eq {c : Call} {r : Driver × Effect} (heq : r = (d', e))
    (h : CallDone d c r.1 r.2) : CallDone d c d' e := by
  subst heq
  exact h

/-- What each call does. -/
theorem Driver.run_done {c : Call} (hd : Sound d) (h : d.run c = some (d', e)) :
    CallDone d c d' e := by
  cases c with
  | queuecommand scp memory => exact CallDone.of_eq (Option.some.inj h) (queuecommand_done d scp memory)
  | timer_intr_handler indx => exact CallDone.of_eq (Option.some.inj h) (timer_done d indx)
  | abort scp => exact CallDone.of_eq (Option.some.inj h) (abort_done d scp)
  | device_reset ctl => exact CallDone.of_eq (Option.some.inj h) (device_reset_done d ctl)
  | bus_reset => exact CallDone.of_eq (Option.some.inj h) (bus_reset_done d)
  | host_reset => exact CallDone.of_eq (Option.some.inj h) (host_reset_done hd)
  | poll minor =>
    rcases ioctl_cases h with ⟨-, rfl, rfl⟩ | hrun
    · exact ⟨Change.quiet rfl rfl rfl rfl rfl, Units.rests, List.Perm.refl _⟩
    · exact CallDone.of_eq (Option.some.inj hrun) (poll_done d minor)
  | get_data minor serialNo sz =>
    rcases ioctl_cases h with ⟨-, rfl, rfl⟩ | hrun
    · exact ⟨Change.quiet rfl rfl rfl rfl rfl, Units.rests, List.Perm.refl _⟩
    · exact get_data_done hrun
  | put_data minor ds =>
    rcases ioctl_cases h with ⟨-, rfl, rfl⟩ | hrun
    · exact ⟨Change.quiet rfl rfl rfl rfl rfl, Units.rests, List.Perm.refl _⟩
    · exact put_data_done hrun
  | add_device minor ctl memory found =>
    by_cases hroom : minor < DEF_MAX_MINOR_NO
    · have hrun : d.mhvtl_add_device minor ctl memory found = (d', e) :=
        Option.some.inj ((if_pos hroom).symm.trans h)
      exact CallDone.of_eq hrun (add_device_done d ctl memory found hroom)
    · exact absurd ((if_neg hroom).symm.trans h).symm (Option.some_ne_none _)
  | remove_lu ctl => exact CallDone.of_eq (Option.some.inj h) (remove_lu_done d ctl)

end

end Mhvtl.Kernel
