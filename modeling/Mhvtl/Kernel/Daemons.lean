import Mhvtl.Kernel.Runs

/-!
# The driver and its daemons

Each logical unit has a daemon. It polls when it is idle, fetches data of the
command it was handed, and answers it; it may be ended and started again at any
time. The mid level and the timers call the driver in between, in any order. An
answer reaches the command it is for and no other, and no call of a daemon finds
its unit gone.
-/

namespace Mhvtl.Kernel

/-- What a daemon is at. -/
inductive DaemonPhase where
  /-- It polls. -/
  | idle
  /-- It works on the command that it was told of. -/
  | working (header : Header)
  deriving DecidableEq, Repr

/-- The driver and the daemons of the units. -/
structure System where
  /-- The driver. -/
  driver : Driver
  /-- The daemons, by minor number. -/
  daemons : ℕ → DaemonPhase

/-- The calls that come from the mid level, the timers and those who add units. -/
def Call.FromHost : Call → Prop
  | .poll _ => False
  | .get_data _ _ _ => False
  | .put_data _ _ => False
  | .remove_lu _ => False
  | _ => True

/-- What happened in a step, with what it did. -/
inductive SystemEvent where
  /-- The mid level called the driver, or a timer ran out. -/
  | host (c : Call) (e : Effect)
  /-- The idle daemon of a unit polled. -/
  | polls (minor : ℕ) (e : Effect)
  /-- The daemon of a unit fetched data of its command. -/
  | fetches (minor : ℕ) (header : Header) (sz : ℕ) (e : Effect)
  /-- The daemon of a unit answered its command. -/
  | answers (minor : ℕ) (header : Header) (ds : Ds) (e : Effect)
  /-- The daemon of a unit was ended and started again. -/
  | restarts (minor : ℕ)
  /-- The idle daemon of a unit removed the unit. -/
  | leaves (minor : ℕ) (ctl : Ctl) (e : Effect)

/-- The call of the driver in a step, with what it did. -/
def SystemEvent.call : SystemEvent → List (Call × Effect)
  | .host c e => [(c, e)]
  | .polls minor e => [(.poll minor, e)]
  | .fetches minor header sz e => [(.get_data minor header.serialNo sz, e)]
  | .answers minor _ ds e => [(.put_data minor ds, e)]
  | .restarts _ => []
  | .leaves _ ctl e => [(.remove_lu ctl, e)]

/-- The calls of the driver in a run. -/
def callsOf (ls : List SystemEvent) : List (Call × Effect) := ls.flatMap SystemEvent.call

/-- Steps of the driver and the daemons, in any order. -/
inductive SystemStep : System → SystemEvent → System → Prop where
  /-- The mid level calls the driver, or a timer runs out. -/
  | host {s : System} {d' : Driver} {c : Call} {e : Effect} (from_host : c.FromHost)
      (run : s.driver.run c = some (d', e)) : SystemStep s (.host c e) ⟨d', s.daemons⟩
  /-- An idle daemon polls, and works on the command that it is handed. -/
  | polls {s : System} {d' : Driver} {minor : ℕ} {e : Effect} (idle : s.daemons minor = .idle)
      (run : s.driver.run (.poll minor) = some (d', e)) :
      SystemStep s (.polls minor e) ⟨d', Function.update s.daemons minor
        (e.sent.elim .idle fun x => .working x.2.op_header)⟩
  /-- A daemon fetches data of its command. -/
  | fetches {s : System} {d' : Driver} {minor : ℕ} {header : Header} {e : Effect} (sz : ℕ)
      (working : s.daemons minor = .working header)
      (run : s.driver.run (.get_data minor header.serialNo sz) = some (d', e)) :
      SystemStep s (.fetches minor header sz e) ⟨d', s.daemons⟩
  /-- A daemon answers its command. -/
  | answers {s : System} {d' : Driver} {minor : ℕ} {header : Header} {e : Effect} (ds : Ds)
      (working : s.daemons minor = .working header) (serial : ds.serialNo = header.serialNo)
      (run : s.driver.run (.put_data minor ds) = some (d', e)) :
      SystemStep s (.answers minor header ds e) ⟨d', Function.update s.daemons minor .idle⟩
  /-- A daemon is ended and started again. -/
  | restarts (s : System) (minor : ℕ) :
      SystemStep s (.restarts minor) ⟨s.driver, Function.update s.daemons minor .idle⟩
  /-- An idle daemon removes its unit. -/
  | leaves {s : System} {d' : Driver} {minor : ℕ} {lu : Lu} {ctl : Ctl} {e : Effect}
      (idle : s.daemons minor = .idle) (own : s.driver.unitOf ctl = some (minor, lu))
      (run : s.driver.run (.remove_lu ctl) = some (d', e)) :
      SystemStep s (.leaves minor ctl e) ⟨d', s.daemons⟩

/-- The driver was just started, and no daemon has a command. -/
def System.start : System := ⟨Driver.mhvtl_init, fun _ => .idle⟩

section

variable {d d' : Driver} {s s' : System} {l : SystemEvent} {ls : List SystemEvent}

/-- A step of the system is one call of the driver at most. -/
theorem SystemStep.calls (h : SystemStep s l s') : Run DriverStep s.driver l.call s'.driver := by
  cases h with
  | host from_host run => exact Run.cons run (Run.nil _)
  | polls idle run => exact Run.cons run (Run.nil _)
  | fetches sz working run => exact Run.cons run (Run.nil _)
  | answers ds working serial run => exact Run.cons run (Run.nil _)
  | restarts minor => exact Run.nil _
  | leaves idle own run => exact Run.cons run (Run.nil _)

/-- What was handed out to a unit in more calls. -/
theorem sentTo_append (m : ℕ) (ls ls' : List (Call × Effect)) :
    sentTo m (ls ++ ls') = sentTo m ls ++ sentTo m ls' := by
  simp [sentTo, turns, Desk.out]

/-- A unit stays when it is not removed. -/
theorem Units.keeps {c : Call} (h : Units d c d') (hc : ∀ ctl, c ≠ .remove_lu ctl) {m : ℕ}
    (hm : (d.devp m).isSome) : (d'.devp m).isSome := by
  cases h with
  | same listed there => rwa [there]
  | adds minor ctl memory found room new listed there others =>
    by_cases hne : m = minor
    · exact hne ▸ there
    · rwa [others m hne]
  | removes minor ctl listed gone others => exact (hc ctl rfl).elim

/-- A call of the mid level removes no unit. -/
theorem Call.FromHost.keeps {c : Call} (hc : c.FromHost) (ctl : Ctl) : c ≠ .remove_lu ctl := by
  rintro rfl
  exact hc

/-- What holds of the system after some steps. -/
structure Attending (s : System) (ls : List SystemEvent) : Prop where
  /-- The driver is sound. -/
  sound : Sound s.driver
  /-- The unit of a daemon that has a command is there. -/
  there : ∀ m header, s.daemons m = .working header → (s.driver.devp m).isSome
  /-- The command was handed out to it. -/
  told : ∀ m header, s.daemons m = .working header →
    ∃ q ∈ sentTo m (callsOf ls), q.op_header = header

/-- The calls of more steps. -/
theorem callsOf_concat (ls : List SystemEvent) (l : SystemEvent) :
    callsOf (ls ++ [l]) = callsOf ls ++ l.call := by
  simp [callsOf]

/-- A command that was handed out stays so. -/
theorem told_mono {m : ℕ} {header : Header}
    (h : ∃ q ∈ sentTo m (callsOf ls), q.op_header = header) (l : SystemEvent) :
    ∃ q ∈ sentTo m (callsOf (ls ++ [l])), q.op_header = header := by
  obtain ⟨q, hq, hheader⟩ := h
  refine ⟨q, ?_, hheader⟩
  rw [callsOf_concat, sentTo_append]
  exact List.mem_append_left _ hq

/-- A daemon that is busy after it turned idle is another one. -/
theorem ne_of_busy {phases : ℕ → DaemonPhase} {m minor : ℕ} {header : Header}
    (h : Function.update phases minor .idle m = .working header) :
    m ≠ minor ∧ phases m = .working header := by
  by_cases hm : m = minor
  · subst hm
    rw [Function.update_self] at h
    cases h
  · rw [Function.update_of_ne hm] at h
    exact ⟨hm, h⟩

/-- A command that a poll hands out is one of the unit that polled. -/
theorem poll_sent {minor : ℕ} {e : Effect} (h : d.poll_and_get_header minor = (d', e))
    {x : ℕ × QueuedCmd} (hsent : e.sent = some x) : x.1 = minor ∧ (d.devp minor).isSome := by
  rw [Driver.poll_and_get_header] at h
  cases hlu : d.devp minor with
  | none =>
    rw [hlu] at h
    obtain rfl := (Prod.mk.inj h).2
    cases hsent
  | some lu =>
    rw [hlu] at h
    dsimp only at h
    cases hsend : send_mhvtl_header lu.cmd_list with
    | none =>
      rw [hsend] at h
      obtain rfl := (Prod.mk.inj h).2
      cases hsent
    | some r =>
      rw [hsend] at h
      obtain rfl := (Prod.mk.inj h).2
      exact ⟨(congrArg Prod.fst (Option.some.inj hsent)).symm, rfl⟩

/-- Every step keeps the daemons at the commands they were handed. -/
theorem Attending.step (hs : Attending s ls) (h : SystemStep s l s') :
    Attending s' (ls ++ [l]) := by
  cases h with
  | host from_host run =>
    have hdone := Driver.run_done hs.sound run
    exact ⟨hs.sound.run run, fun m header hm => hdone.units.keeps from_host.keeps (hs.there m header hm),
      fun m header hm => told_mono (hs.told m header hm) _⟩
  | @polls d' minor e idle run =>
    have hdone := Driver.run_done hs.sound run
    have hkeeps : ∀ ctl, Call.poll minor ≠ Call.remove_lu ctl := fun ctl h => Call.noConfusion h
    have hbusy : ∀ m header, Function.update s.daemons minor
        (e.sent.elim .idle fun x => .working x.2.op_header) m = .working header →
        (s.driver.devp m).isSome ∧
          ∃ q ∈ sentTo m (callsOf (ls ++ [.polls minor e])), q.op_header = header := by
      intro m header hm
      by_cases hne : m = minor
      · subst hne
        rw [Function.update_self] at hm
        cases hsent : e.sent with
        | none =>
          rw [hsent] at hm
          cases hm
        | some x =>
          rw [hsent] at hm
          have hpoll : s.driver.poll_and_get_header m = (d', e) := by
            rcases ioctl_cases run with ⟨-, -, rfl⟩ | hrun
            · cases hsent
            · exact Option.some.inj hrun
          have hx := poll_sent hpoll hsent
          refine ⟨hx.2, x.2.job, ?_, DaemonPhase.working.inj hm⟩
          rw [callsOf_concat, sentTo_append]
          refine List.mem_append_right _ ?_
          simp [sentTo, turns, Desk.out, SystemEvent.call, Effect.turn, onUnit, hsent, hx.1]
      · rw [Function.update_of_ne hne] at hm
        exact ⟨hs.there m header hm, told_mono (hs.told m header hm) _⟩
    exact ⟨hs.sound.run run, fun m header hm => hdone.units.keeps hkeeps (hbusy m header hm).1,
      fun m header hm => (hbusy m header hm).2⟩
  | fetches sz working run =>
    have hdone := Driver.run_done hs.sound run
    exact ⟨hs.sound.run run,
      fun m header hm => hdone.units.keeps (fun ctl h => Call.noConfusion h) (hs.there m header hm),
      fun m header hm => told_mono (hs.told m header hm) _⟩
  | answers ds working serial run =>
    have hdone := Driver.run_done hs.sound run
    exact ⟨hs.sound.run run,
      fun m header hm => hdone.units.keeps (fun ctl h => Call.noConfusion h)
        (hs.there m header (ne_of_busy hm).2),
      fun m header hm => told_mono (hs.told m header (ne_of_busy hm).2) _⟩
  | restarts minor =>
    exact ⟨hs.sound, fun m header hm => hs.there m header (ne_of_busy hm).2,
      fun m header hm => told_mono (hs.told m header (ne_of_busy hm).2) _⟩
  | @leaves d' minor lu ctl e idle own run =>
    refine ⟨hs.sound.run run, fun m header hm => ?_, fun m header hm => told_mono (hs.told m header hm) _⟩
    have hne : m ≠ minor := by
      rintro rfl
      rw [idle] at hm
      cases hm
    have hremoved : s.driver.mhvtl_remove_lu ctl = (d', e) := Option.some.inj run
    rw [Driver.mhvtl_remove_lu, own] at hremoved
    rw [← (Prod.mk.inj hremoved).1]
    simpa [hne] using hs.there m header hm

end

section

variable {sgl : List (List UInt8)}

/-- Copying out of a buffer in pieces that are not too large gives its first bytes. -/
theorem copy_to_user_take (h : ∀ page ∈ sgl, page.length ≤ SG_SEGMENT_SZ) (n : ℕ) :
    mhvtl_copy_to_user sgl n = sgl.flatten.take n := by
  induction sgl generalizing n with
  | nil => simp [mhvtl_copy_to_user]
  | cons page rest ih =>
    have hpage := h page List.mem_cons_self
    have hlen : ¬ SG_SEGMENT_SZ < min page.length n := by omega
    rw [mhvtl_copy_to_user]
    by_cases hn : n = 0
    · simp [hn]
    · simp only [hn, hlen, or_self, if_false]
      rw [ih fun p hp => h p (List.mem_cons_of_mem _ hp), List.flatten_cons, List.take_append]
      rcases Nat.le_total page.length n with hle | hle
      · rw [Nat.min_eq_left hle, List.take_of_length_le (le_refl _), List.take_of_length_le hle]
      · rw [Nat.min_eq_right hle, Nat.sub_self, Nat.sub_eq_zero_of_le hle, List.take_zero]

/-- Copying into a buffer in pieces that are not too large puts the data at its start, as far as
there is room, and leaves the rest. -/
theorem copy_from_user_flatten (h : ∀ page ∈ sgl, page.length ≤ SG_SEGMENT_SZ) (data : List UInt8) :
    (mhvtl_copy_from_user sgl data).1.flatten =
        data.take sgl.flatten.length ++ sgl.flatten.drop data.length ∧
      (mhvtl_copy_from_user sgl data).2 = min data.length sgl.flatten.length := by
  induction sgl generalizing data with
  | nil => simp [mhvtl_copy_from_user]
  | cons page rest ih =>
    have hpage := h page List.mem_cons_self
    have hlen : ¬ SG_SEGMENT_SZ < min page.length data.length := by omega
    rw [mhvtl_copy_from_user]
    by_cases hdata : data = []
    · simp [hdata]
    · simp only [hdata, hlen, or_self, if_false, List.flatten_cons]
      obtain ⟨hrest, hcount⟩ := ih (fun p hp => h p (List.mem_cons_of_mem _ hp))
        (data.drop (min page.length data.length))
      rw [hrest, hcount]
      rcases Nat.le_total page.length data.length with hle | hle
      · rw [Nat.min_eq_left hle]
        constructor
        · rw [List.drop_eq_nil_of_le (le_refl page.length), List.append_nil, List.length_append,
            List.take_add, List.length_drop, List.drop_append, List.drop_eq_nil_of_le hle,
            List.nil_append, List.append_assoc]
        · rw [List.length_drop, List.length_append]
          omega
      · rw [Nat.min_eq_right hle]
        constructor
        · rw [List.drop_eq_nil_of_le (le_refl data.length), List.take_nil, List.nil_append,
            List.length_nil, List.drop_zero, List.take_of_length_le (le_refl _),
            List.take_of_length_le (by rw [List.length_append]; omega),
            List.drop_append_of_le_length hle, List.append_assoc]
        · rw [List.length_drop, List.length_append]
          omega

/-- The length of a buffer is that of all that is in it. -/
theorem scsi_bufflen_eq (scp : ScsiCmnd) : scp.scsi_bufflen = scp.sgl.flatten.length :=
  (List.length_flatten).symm

/-- What a daemon fetches of a command with data from the initiator are their first bytes, and
it is an error to ask for more than there are, up to what an `int` holds. -/
theorem fetched_data {scp : ScsiCmnd} (h : ∀ page ∈ scp.sgl, page.length ≤ SG_SEGMENT_SZ)
    (hdir : scp.sc_data_direction = .DMA_TO_DEVICE) {n : ℕ} (hn : n < 2 ^ 31) :
    mhvtl_resp_write_to_user scp (Int.bmod n (2 ^ 32)) =
      (if n ≤ scp.scsi_bufflen then 0 else - EIO, scp.sgl.flatten.take n) := by
  have hint : Int.bmod n (2 ^ 32) = n := by
    rw [Int.bmod]
    omega
  have hsize : ((n : ℤ) % 2 ^ 64).toNat = n := by omega
  rw [hint]
  unfold mhvtl_resp_write_to_user mhvtl_fetch_to_dev_buffer
  rw [hsize]
  by_cases hempty : scp.scsi_bufflen = 0
  · have hnil : scp.sgl.flatten = [] := by
      rw [scsi_bufflen_eq] at hempty
      exact List.eq_nil_of_length_eq_zero hempty
    simp only [hempty, if_true, hnil, List.take_nil]
    by_cases hn : n = 0
    · simp [hn]
    · simp [hn]
  · simp only [hempty, if_false, hdir, ne_eq, not_true_eq_false, copy_to_user_take h,
      List.length_take, ← scsi_bufflen_eq]
    by_cases hn : n ≤ scp.scsi_bufflen
    · simp [hn]
    · have hlt : ((min n scp.scsi_bufflen : ℕ) : ℤ) < n := by omega
      rw [if_pos hlt, if_neg hn]

/-- What an initiator gets that asked for data are those of the answer, at the start of its buffer
and as far as there is room; the rest of the buffer stays, and is told. -/
theorem answered_data {scp : ScsiCmnd} (h : ∀ page ∈ scp.sgl, page.length ≤ SG_SEGMENT_SZ)
    (hdir : scp.sc_data_direction = .DMA_FROM_DEVICE) (hbuf : scp.scsi_bufflen ≠ 0) (ds : Ds) :
    (Driver.answered scp ds).sgl.flatten =
        ds.data.take scp.scsi_bufflen ++ scp.sgl.flatten.drop ds.data.length ∧
      (Driver.answered scp ds).resid = scp.scsi_bufflen - ds.data.length ∧
      (Driver.answered scp ds).result = ds.sam_stat.toNat := by
  obtain ⟨hdata, hcount⟩ := copy_from_user_flatten h ds.data
  have hfill : mhvtl_fill_from_user_buffer scp ds.data =
      { scp with
        sgl := (mhvtl_copy_from_user scp.sgl ds.data).1
        resid := scp.scsi_bufflen - (mhvtl_copy_from_user scp.sgl ds.data).2 } := by
    simp [mhvtl_fill_from_user_buffer, hbuf, hdir]
  rw [← scsi_bufflen_eq] at hdata hcount
  have hresid : scp.scsi_bufflen - (mhvtl_copy_from_user scp.sgl ds.data).2 =
      scp.scsi_bufflen - ds.data.length := by omega
  rw [Driver.answered, hfill]
  by_cases hstat : ds.sam_stat ≠ 0
  · rw [if_pos hstat]
    exact ⟨hdata, hresid, rfl⟩
  · rw [if_neg hstat]
    refine ⟨hdata, hresid, ?_⟩
    rw [not_not.mp hstat]
    rfl

/-- The data of a command reach the other side: the daemon fetches the first of those that the
initiator sends, and the initiator gets the first of those that the daemon puts. -/
theorem transfers_exact {scp : ScsiCmnd} (h : ∀ page ∈ scp.sgl, page.length ≤ SG_SEGMENT_SZ) :
    (scp.sc_data_direction = .DMA_TO_DEVICE → ∀ n : ℕ, n < 2 ^ 31 →
      mhvtl_resp_write_to_user scp (Int.bmod n (2 ^ 32)) =
        (if n ≤ scp.scsi_bufflen then 0 else - EIO, scp.sgl.flatten.take n)) ∧
    (scp.sc_data_direction = .DMA_FROM_DEVICE → scp.scsi_bufflen ≠ 0 → ∀ ds : Ds,
      ds.data.length < 2 ^ 31 →
      (Driver.answered scp ds).sgl.flatten =
          ds.data.take scp.scsi_bufflen ++ scp.sgl.flatten.drop ds.data.length ∧
        (Driver.answered scp ds).resid = scp.scsi_bufflen - ds.data.length ∧
        (Driver.answered scp ds).result = ds.sam_stat.toNat) :=
  ⟨fun hdir _ hn => fetched_data h hdir hn, fun hdir hbuf ds _ => answered_data h hdir hbuf ds⟩

/-- A command that asks for seven bytes in two pieces. -/
def inquiry : ScsiCmnd :=
  ⟨8, firstUnit, [0x12, 0, 0, 0, 7, 0], .DMA_FROM_DEVICE, [[0, 0, 0, 0], [0, 0, 0]], 0, 0, []⟩

/-- A command that sends five bytes in two pieces. -/
def modeSelect : ScsiCmnd :=
  ⟨9, firstUnit, [0x15, 0x10, 0, 0, 5, 0], .DMA_TO_DEVICE, [[1, 2, 3], [4, 5]], 0, 0, []⟩

/-- Four bytes of it are fetched, six are too many, and an answer of three bytes leaves the rest of
the other buffer. -/
theorem inquiry_transferred :
    mhvtl_resp_write_to_user modeSelect 4 = (0, [1, 2, 3, 4]) ∧
    mhvtl_resp_write_to_user modeSelect 6 = (- EIO, [1, 2, 3, 4, 5]) ∧
    (Driver.answered inquiry ⟨[7, 8, 9], 2, 0, []⟩).sgl.flatten = [7, 8, 9, 0, 0, 0, 0] ∧
    (Driver.answered inquiry ⟨[7, 8, 9], 2, 0, []⟩).resid = 4 := by
  have hfetch := (@transfers_exact modeSelect (by decide)).1 rfl
  have hanswer := (@transfers_exact inquiry (by decide)).2 rfl (by decide)
    ⟨[7, 8, 9], 2, 0, []⟩ (by decide)
  exact ⟨hfetch 4 (by decide), hfetch 6 (by decide), hanswer.1, hanswer.2.1⟩

end

end Mhvtl.Kernel
