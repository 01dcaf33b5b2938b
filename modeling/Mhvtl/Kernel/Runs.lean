import Mathlib.Data.List.Range
import Mathlib.Tactic.Common
import Mhvtl.Kernel.Accounting

/-!
# Runs of the driver

In every run from the start of the driver, whatever the order of its calls, each
queue is a desk: every command that came has left once or is still there, and the
daemon was handed the commands in their order and once at most. The numbers of the
commands are all different as long as the counter does not wrap.
-/

namespace Mhvtl.Kernel

/-- A call of the driver, with what it did. -/
def DriverStep (d : Driver) (l : Call × Effect) (d' : Driver) : Prop := d.run l.1 = some (d', l.2)

section

variable {d d' : Driver} {e : Effect} {c : Call} {lu : Lu} {minor : ℕ}

/-- After a change every queued command was queued before it, was just queued or was just
handed out. -/
theorem Change.states (h : Change d d' e)
    (hd : ∀ m, ∀ q ∈ d.cmds m, q.state ≠ .CMD_STATE_FREE) (m : ℕ) :
    ∀ q ∈ d'.cmds m, q.state ≠ .CMD_STATE_FREE := by
  cases h with
  | quiet cmds => rw [cmds]; exact hd m
  | queues minor sqcp cmds state =>
    rw [cmds]
    by_cases hm : m = minor
    · subst hm
      rw [Function.update_self]
      intro q hq
      rcases List.mem_append.mp hq with hold | hnew
      · exact hd m q hold
      · rw [List.mem_singleton.mp hnew, state]
        exact CmdState.noConfusion
    · rw [Function.update_of_ne hm]
      exact hd m
  | hands minor sqcp pre post here first state cmds =>
    rw [cmds]
    by_cases hm : m = minor
    · subst hm
      rw [Function.update_self]
      have hbefore := hd m
      rw [here] at hbefore
      intro q hq
      rcases List.mem_append.mp hq with hpre | hpost
      · exact hbefore q (List.mem_append_left _ hpre)
      · rcases List.mem_cons.mp hpost with rfl | hpost
        · exact CmdState.noConfusion
        · exact hbefore q (List.mem_append_right _ (List.mem_cons_of_mem _ hpost))
    · rw [Function.update_of_ne hm]
      exact hd m
  | settles minor sqcp back pre post here cmds =>
    rw [cmds]
    by_cases hm : m = minor
    · subst hm
      rw [Function.update_self]
      have hbefore := hd m
      rw [here] at hbefore
      intro q hq
      rcases List.mem_append.mp hq with hpre | hpost
      · exact hbefore q (List.mem_append_left _ hpre)
      · exact hbefore q (List.mem_append_right _ (List.mem_cons_of_mem _ hpost))
    · rw [Function.update_of_ne hm]
      exact hd m
  | clears minors nodup cleared others =>
    by_cases hm : m ∈ minors
    · rw [cleared m hm]
      exact fun q hq => (List.not_mem_nil hq).elim
    · rw [others m hm]
      exact hd m

/-- Every call keeps the driver sound. -/
theorem Sound.run (hd : Sound d) (h : d.run c = some (d', e)) : Sound d' := by
  have hdone := Driver.run_done hd h
  have hstates := hdone.change.states hd.states
  cases hdone.units with
  | same listed there =>
    exact ⟨hstates, listed ▸ hd.nodup, fun m => by rw [listed, there, hd.listed],
      fun m hm => hd.room m ((there m).symm ▸ hm)⟩
  | adds minor ctl memory found room new listed there others =>
    have hnew : minor ∉ d.lu_list := mt (hd.listed minor).mp new
    refine ⟨hstates, ?_, fun m => ?_, fun m hthere => ?_⟩
    · rw [listed]
      refine List.nodup_append.mpr ⟨hd.nodup, List.nodup_singleton minor, ?_⟩
      rintro a ha b hb rfl
      exact hnew (List.mem_singleton.mp hb ▸ ha)
    · by_cases hm : m = minor
      · subst hm
        simp [listed, there]
      · simp [listed, others m hm, hm, hd.listed m]
    · by_cases hm : m = minor
      · exact hm ▸ room
      · exact hd.room m (others m hm ▸ hthere)
  | removes minor ctl listed gone others =>
    refine ⟨hstates, listed ▸ hd.nodup.erase minor, fun m => ?_, fun m hthere => ?_⟩
    · by_cases hm : m = minor
      · subst hm
        simp [listed, gone, hd.nodup.mem_erase_iff]
      · simp [listed, others m hm, hm, hd.nodup.mem_erase_iff, hd.listed m]
    · by_cases hm : m = minor
      · subst hm
        rw [gone] at hthere
        cases hthere
      · exact hd.room m (others m hm ▸ hthere)

/-- The driver is sound when it was just started. -/
theorem mhvtl_init_sound : Sound Driver.mhvtl_init where
  states _ q hq := (List.not_mem_nil hq).elim
  nodup := List.nodup_nil
  listed _ := by simp [Driver.mhvtl_init]
  room _ h := absurd h Bool.false_ne_true

/-- All commands of a queue are jobs of its desk. -/
theorem deskOf_jobs {cmds : List QueuedCmd} (h : ∀ q ∈ cmds, q.state ≠ .CMD_STATE_FREE) :
    (deskOf cmds).jobs.Perm (cmds.map QueuedCmd.job) := by
  rw [Desk.jobs, deskOf, ← List.map_append]
  refine List.Perm.map _ ?_
  have hrest : (cmds.filter fun q => q.state = .CMD_STATE_QUEUED) =
      cmds.filter fun q => !decide (q.state = .CMD_STATE_IN_USE) := by
    refine List.filter_congr fun q hq => ?_
    have hfree := h q hq
    cases hs : q.state with
    | CMD_STATE_FREE => exact (hfree hs).elim
    | CMD_STATE_QUEUED => rfl
    | CMD_STATE_IN_USE => rfl
  rw [hrest]
  exact List.filter_append_perm _ _

/-- A desk without some commands has no other jobs. -/
theorem deskOf_subset {cmds cmds' : List QueuedCmd} (h : cmds'.Sublist cmds) :
    (deskOf cmds').handed.Subset (deskOf cmds).handed :=
  ((h.filter _).map _).subset

/-- A desk without some commands has the others wait in the same order. -/
theorem deskOf_waiting_sublist {cmds cmds' : List QueuedCmd} (h : cmds'.Sublist cmds) :
    (deskOf cmds').waiting.Sublist (deskOf cmds).waiting :=
  (h.filter _).map _

/-- Some commands leave a desk. -/
theorem deskOf_leaves (gone : List QueuedCmd) {cmds cmds' : List QueuedCmd}
    (hstates : ∀ q ∈ cmds, q.state ≠ .CMD_STATE_FREE) (h : cmds'.Sublist cmds)
    (hgone : (gone ++ cmds').Perm cmds) :
    Desk.Step (deskOf cmds) ⟨[], [], gone.map QueuedCmd.job⟩ (deskOf cmds') := by
  refine Desk.Step.leaves (deskOf_subset h) (deskOf_waiting_sublist h) ?_
  have hrest := deskOf_jobs fun q hq => hstates q (h.subset hq)
  have hall := hgone.map QueuedCmd.job
  rw [List.map_append] at hall
  exact ((hrest.append_left _).trans hall).trans (deskOf_jobs hstates).symm

/-- The commands that left one queue when the queues of some units were emptied. -/
theorem settledOn_clears (cmds : ℕ → List QueuedCmd) {minors : List ℕ} (h : minors.Nodup) (m : ℕ) :
    settledOn m (minors.flatMap fun n => (cmds n).map fun q => ⟨n, q, none⟩) =
      if m ∈ minors then (cmds m).map QueuedCmd.job else [] := by
  induction minors with
  | nil => rfl
  | cons n minors ih =>
    obtain ⟨hn, hrest⟩ := List.nodup_cons.mp h
    have happend : ∀ a b : List Settled, settledOn m (a ++ b) = settledOn m a ++ settledOn m b := by
      intro a b
      simp [settledOn]
    rw [List.flatMap_cons, happend, ih hrest]
    by_cases hm : m = n
    · subst hm
      simp [settledOn, hn, List.filter_map, Function.comp_def]
    · simp [settledOn, hm, Ne.symm hm, List.filter_map, Function.comp_def]

/-- A change of the driver is a step of every desk. -/
theorem Change.desk (h : Change d d' e) (hd : Sound d) (m : ℕ) :
    Desk.Step (d.desk m) (e.turn m) (d'.desk m) := by
  cases h with
  | quiet cmds serial queued sent settled =>
    rw [Driver.desk, Driver.desk, Effect.turn, cmds, queued, sent, settled]
    exact Desk.Step.rests _
  | queues minor sqcp cmds state =>
    rw [Driver.desk, Driver.desk, Effect.turn, cmds]
    by_cases hm : m = minor
    · subst hm
      have hnew : deskOf (d.cmds m ++ [sqcp]) =
          ⟨(deskOf (d.cmds m)).handed, (deskOf (d.cmds m)).waiting ++ [sqcp.job]⟩ := by
        simp [deskOf, state]
      rw [Function.update_self, hnew]
      simpa [onUnit, settledOn] using Desk.Step.takes (deskOf (d.cmds m)) sqcp.job
    · rw [Function.update_of_ne hm]
      simpa [onUnit, settledOn, Ne.symm hm] using Desk.Step.rests (deskOf (d.cmds m))
  | hands minor sqcp pre post here first state cmds =>
    rw [Driver.desk, Driver.desk, Effect.turn, cmds]
    by_cases hm : m = minor
    · subst hm
      rw [Function.update_self, here]
      have hpre : pre.filter (fun q => q.state = .CMD_STATE_QUEUED) = [] := by
        rw [List.filter_eq_nil_iff]
        intro q hq
        simpa using first q hq
      have hjob : ({ sqcp with state := .CMD_STATE_IN_USE } : QueuedCmd).job = sqcp.job := rfl
      have hstep : Desk.Step (deskOf (pre ++ sqcp :: post)) ⟨[], [sqcp.job], []⟩
          (deskOf (pre ++ { sqcp with state := .CMD_STATE_IN_USE } :: post)) := by
        refine Desk.Step.hands ?_ ?_
        · simp [deskOf, hpre, state]
        · simp [deskOf, state, hjob, List.perm_middle]
      simpa [onUnit, settledOn] using hstep
    · rw [Function.update_of_ne hm]
      simpa [onUnit, settledOn, Ne.symm hm] using Desk.Step.rests (deskOf (d.cmds m))
  | settles minor sqcp back pre post here cmds =>
    rw [Driver.desk, Driver.desk, Effect.turn, cmds]
    by_cases hm : m = minor
    · subst hm
      have hstates := hd.states m
      rw [here] at hstates
      rw [Function.update_self, here]
      have hsub : (pre ++ post).Sublist (pre ++ sqcp :: post) :=
        (List.Sublist.refl pre).append (List.sublist_cons_self sqcp post)
      have hperm : ([sqcp] ++ (pre ++ post)).Perm (pre ++ sqcp :: post) := by
        rw [List.singleton_append]
        exact List.perm_middle.symm
      have hstep := deskOf_leaves [sqcp] hstates hsub hperm
      simpa [onUnit, settledOn] using hstep
    · rw [Function.update_of_ne hm]
      simpa [onUnit, settledOn, Ne.symm hm] using Desk.Step.rests (deskOf (d.cmds m))
  | clears minors nodup cleared others =>
    rw [Driver.desk, Driver.desk, Effect.turn, settledOn_clears d.cmds nodup m]
    by_cases hm : m ∈ minors
    · rw [if_pos hm, cleared m hm]
      have hstep := deskOf_leaves (d.cmds m) (hd.states m) (List.nil_sublist _)
        (by rw [List.append_nil])
      simpa [onUnit] using hstep
    · rw [if_neg hm, others m hm]
      exact Desk.Step.rests _

end

/-- The tags of the commands that the mid level gave to the driver. -/
def presented (ls : List (Call × Effect)) : List ℕ :=
  ls.flatMap fun l => (l.1.presents.map ScsiCmnd.tag).toList

/-- The tags of the commands that were handed straight back. -/
def returned (ls : List (Call × Effect)) : List ℕ :=
  ls.flatMap fun l => (l.2.rejected.map ScsiCmnd.tag).toList

/-- The commands that were queued. -/
def queuedIn (ls : List (Call × Effect)) : List QueuedCmd :=
  ls.flatMap fun l => (l.2.queued.map Prod.snd).toList

/-- The turns of a unit's desk. -/
def turns (minor : ℕ) (ls : List (Call × Effect)) : List (Desk.Turn QueuedCmd) :=
  ls.map fun l => l.2.turn minor

/-- The commands that were queued on a unit. -/
def queuedOn (minor : ℕ) (ls : List (Call × Effect)) : List QueuedCmd := Desk.taken (turns minor ls)

/-- The commands that were handed out to the daemon of a unit. -/
def sentTo (minor : ℕ) (ls : List (Call × Effect)) : List QueuedCmd := Desk.out (turns minor ls)

/-- The commands that left the queue of a unit. -/
def leftOn (minor : ℕ) (ls : List (Call × Effect)) : List QueuedCmd := Desk.gone (turns minor ls)

section

variable {d d' : Driver} {ls : List (Call × Effect)}

/-- A run of the driver is a run of every desk. -/
theorem run_desk (hd : Sound d) (h : Run DriverStep d ls d') (m : ℕ) :
    Run Desk.Step (d.desk m) (turns m ls) (d'.desk m) := by
  induction h with
  | nil d => exact Run.nil _
  | cons head tail ih =>
    exact Run.cons ((Driver.run_done hd head).change.desk hd m) (ih (hd.run head))

/-- Every command that the mid level gives is queued or handed straight back. -/
theorem run_presented (hd : Sound d) (h : Run DriverStep d ls d') :
    (presented ls).Perm (returned ls ++ (queuedIn ls).map fun q => q.a_cmnd.tag) := by
  induction h with
  | nil d => exact List.Perm.refl _
  | @cons d d₁ d' l ls head tail ih =>
    have hall := (Driver.run_done hd head).takes.append (ih (hd.run head))
    simp only [presented, returned, queuedIn, List.flatMap_cons, List.map_append] at hall ⊢
    refine hall.trans ?_
    simp only [List.append_assoc]
    refine List.Perm.append_left _ ?_
    simp only [← List.append_assoc]
    exact List.perm_append_comm.append_right _

/-- What the counter of the driver was used for. -/
structure Counted (d : Driver) (ls : List (Call × Effect)) : Prop where
  /-- The commands are numbered in their order. -/
  numbers : (queuedIn ls).map QueuedCmd.serial_number = List.range' 2 (queuedIn ls).length
  /-- The next number. -/
  next : d.serial_number = 2 + (queuedIn ls).length

/-- The counter does not wrap. -/
theorem nextSerial_of_lt {n : ℕ} (h2 : 2 ≤ n) (h : n + 1 < 2 ^ 64) : nextSerial n = n + 1 := by
  rw [nextSerial, if_neg (by omega), Nat.mod_eq_of_lt h]

/-- A call uses the counter for the command that it queues. -/
theorem run_serial (hd : Sound d) {l : Call × Effect} (h : DriverStep d l d') :
    (queuedIn [l] = [] ∧ d'.serial_number = d.serial_number) ∨
      ∃ q, queuedIn [l] = [q] ∧ q.serial_number = d.serial_number ∧
        q.op_header = ⟨q.serial_number, q.a_cmnd.cmnd⟩ ∧ q.scsi_result = 0 ∧
        d'.serial_number = nextSerial d.serial_number := by
  have hchange := (Driver.run_done hd h).change
  obtain ⟨c, e⟩ := l
  cases hchange with
  | quiet cmds serial queued =>
    have hnone : e.queued = none := queued
    exact Or.inl ⟨by simp [queuedIn, hnone], serial⟩
  | queues minor sqcp cmds state number header result serial =>
    exact Or.inr ⟨sqcp, rfl, number, header, result, serial⟩
  | hands minor sqcp pre post here first state cmds serial => exact Or.inl ⟨rfl, serial⟩
  | settles minor sqcp back pre post here cmds serial => exact Or.inl ⟨rfl, serial⟩
  | clears minors nodup cleared others serial => exact Or.inl ⟨rfl, serial⟩

/-- The commands that more calls queued. -/
theorem queuedIn_append (ls ls' : List (Call × Effect)) :
    queuedIn (ls ++ ls') = queuedIn ls ++ queuedIn ls' :=
  List.flatMap_append

/-- The commands are numbered from 2 on, as long as the counter does not wrap. -/
theorem run_counted (h : Run DriverStep Driver.mhvtl_init ls d)
    (hfew : (queuedIn ls).length < 2 ^ 64 - 2) : Counted d ls := by
  have hall : Sound d ∧ ((queuedIn ls).length < 2 ^ 64 - 2 → Counted d ls) := by
    have hinit : Sound Driver.mhvtl_init ∧
        ((queuedIn []).length < 2 ^ 64 - 2 → Counted Driver.mhvtl_init []) :=
      ⟨mhvtl_init_sound, fun _ => ⟨rfl, rfl⟩⟩
    refine Run.history (I := fun d ls => Sound d ∧
      ((queuedIn ls).length < 2 ^ 64 - 2 → Counted d ls)) ?_ h hinit
    · rintro d ls l d' ⟨hsound, hcounted⟩ hstep
      refine ⟨hsound.run hstep, fun hlen => ?_⟩
      rw [queuedIn_append, List.length_append] at hlen
      have hold := hcounted (by omega)
      rcases run_serial hsound hstep with ⟨hnone, hserial⟩ | ⟨q, hq, hnumber, _, _, hserial⟩
      · constructor
        · rw [queuedIn_append, hnone, List.append_nil, hold.numbers]
        · rw [queuedIn_append, hnone, List.append_nil, hserial, hold.next]
      · rw [hq, List.length_singleton] at hlen
        constructor
        · rw [queuedIn_append, hq, List.map_append, hold.numbers, List.length_append,
            List.length_singleton, List.range'_1_concat, List.map_singleton, hnumber, hold.next]
        · rw [queuedIn_append, hq, hserial, hold.next, List.length_append, List.length_singleton]
          exact nextSerial_of_lt (by omega) (by omega)
  exact hall.2 hfew

/-- The commands queued on one unit are some of all those queued. -/
theorem queuedOn_sublist (m : ℕ) (ls : List (Call × Effect)) :
    (queuedOn m ls).Sublist ((queuedIn ls).map QueuedCmd.job) := by
  induction ls with
  | nil => exact List.Sublist.refl _
  | cons l ls ih =>
    have hhead : (onUnit m l.2.queued).Sublist
        ((l.2.queued.map Prod.snd).toList.map QueuedCmd.job) := by
      cases hq : l.2.queued with
      | none => exact List.Sublist.refl _
      | some x =>
        by_cases hm : x.1 = m
        · simp [onUnit, hm]
        · simp [onUnit, hm]
    have happend := hhead.append ih
    simpa [queuedOn, turns, Desk.taken, queuedIn, Effect.turn] using happend

/-- The commands queued on one unit have different numbers. -/
theorem queuedOn_nodup (h : Run DriverStep Driver.mhvtl_init ls d)
    (hfew : (queuedIn ls).length < 2 ^ 64 - 2) (m : ℕ) :
    ((queuedOn m ls).map QueuedCmd.serial_number).Nodup := by
  have hnumbers : (((queuedIn ls).map QueuedCmd.job).map QueuedCmd.serial_number).Nodup := by
    rw [List.map_map]
    change ((queuedIn ls).map QueuedCmd.serial_number).Nodup
    rw [(run_counted h hfew).numbers]
    exact List.nodup_range'
  exact hnumbers.sublist ((queuedOn_sublist m ls).map _)

/-- What a run made of the commands of a unit. -/
structure Accounted (d : Driver) (ls : List (Call × Effect)) (m : ℕ) : Prop where
  /-- Every command that was queued has left the queue or is still there. -/
  all : (queuedOn m ls).Perm (leftOn m ls ++ (d.desk m).jobs)
  /-- It is not there when it has left, and left once. -/
  once : ((leftOn m ls ++ (d.desk m).jobs).map QueuedCmd.serial_number).Nodup
  /-- The daemon is handed the commands in their order. -/
  in_order : (sentTo m ls ++ (d.desk m).waiting).Sublist (queuedOn m ls)
  /-- It is handed none twice. -/
  sent_once : ((sentTo m ls ++ (d.desk m).waiting).map QueuedCmd.serial_number).Nodup

/-- The driver starts with empty desks. -/
theorem mhvtl_init_desk (m : ℕ) : Driver.mhvtl_init.desk m = Desk.empty := rfl

/-- What a run makes of the commands of every unit. -/
theorem run_accounted (h : Run DriverStep Driver.mhvtl_init ls d)
    (hfew : (queuedIn ls).length < 2 ^ 64 - 2) (m : ℕ) : Accounted d ls m := by
  have hdesk : Run Desk.Step Desk.empty (turns m ls) (d.desk m) :=
    mhvtl_init_desk m ▸ run_desk mhvtl_init_sound h m
  have hnodup := queuedOn_nodup h hfew m
  exact ⟨Desk.empty_accounts hdesk, Desk.empty_gone_once hdesk _ hnodup,
    Desk.empty_in_order hdesk, Desk.empty_out_once hdesk _ hnodup⟩

/-- No command is lost, none is handed back twice, and the daemons see each once at most and
in their order, in every run of the driver. -/
theorem commands_accounted (h : Run DriverStep Driver.mhvtl_init ls d)
    (hfew : (queuedIn ls).length < 2 ^ 64 - 2) :
    (presented ls).Perm (returned ls ++ (queuedIn ls).map fun q => q.a_cmnd.tag) ∧
      ∀ m, Accounted d ls m :=
  ⟨run_presented mhvtl_init_sound h, run_accounted h hfew⟩

end

/-- The address of a logical unit. -/
def firstUnit : Ctl := ⟨0, 1, 0⟩

/-- TEST UNIT READY for it. -/
def testReady : ScsiCmnd := ⟨7, firstUnit, [0, 0, 0, 0, 0, 0], .DMA_NONE, [], 0, 0, []⟩

/-- The driver with one unit. -/
def unitDriver : Driver := (Driver.mhvtl_init.mhvtl_add_device 3 firstUnit true true).1

/-- The driver with one command queued. -/
def queuedDriver : Driver := (unitDriver.mhvtl_queuecommand testReady true).1

/-- The calls of a command that was queued and handed out. -/
def servedCalls : List (Call × Effect) :=
  [(.add_device 3 firstUnit true true, {}),
    (.queuecommand testReady true, (unitDriver.mhvtl_queuecommand testReady true).2),
    (.poll 3, (queuedDriver.poll_and_get_header 3).2)]

/-- They are a run. -/
theorem servedCalls_run :
    Run DriverStep Driver.mhvtl_init servedCalls (queuedDriver.poll_and_get_header 3).1 :=
  Run.cons rfl (Run.cons rfl (Run.cons rfl (Run.nil _)))

/-- The command of this run is accounted for. -/
theorem served_accounted :
    (presented servedCalls).Perm
        (returned servedCalls ++ (queuedIn servedCalls).map fun q => q.a_cmnd.tag) ∧
      ∀ m, Accounted (queuedDriver.poll_and_get_header 3).1 servedCalls m :=
  commands_accounted servedCalls_run (by decide)

end Mhvtl.Kernel
