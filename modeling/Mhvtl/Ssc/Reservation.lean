import Mhvtl.Sense
import Mhvtl.Ssc.BlockProtection

/-!
# Reservations of a drive

PERSISTENT RESERVE OUT with its one registered key, and the older RESERVE and
RELEASE. A preemption is the command that leaves the state machine: it takes over
any type, and says nothing when it names another key.
-/

namespace Mhvtl.Ssc

open Bytes

/-- The command met a reservation. -/
def SAM_STAT_RESERVATION_CONFLICT : ℕ := 0x18
/-- The parameter list has another length. -/
def E_PARAMETER_LIST_LENGTH_ERR : ℕ := 0x1a00
/-- The one type of reservation that RESERVE accepts. -/
def SPR_EXCLUSIVE_ACCESS : UInt8 := 3

/-- What is held of reservations, and the status of the last command. -/
structure Reservations where
  /-- The registered key, 0 for none. -/
  SPR_Reservation_Key : ℕ
  /-- Counts the changes of the key. -/
  SPR_Reservation_Generation : UInt32
  /-- Type of the reservation, 0 for none. -/
  SPR_Reservation_Type : UInt8
  /-- The older reservation is held. -/
  I_am_SPC_2_Reserved : Bool
  /-- Status and sense data. -/
  status : Status
deriving DecidableEq

namespace Reservations

/-- Set status and sense data. -/
def report (r : Reservations) (s : Status) : Reservations := { r with status := s }

/-- The status a command returns, with the sense data there was. -/
def returns (r : Reservations) (sam_stat : ℕ) : Reservations :=
  { r with status := { r.status with sam_stat := sam_stat } }

/-- The status of the command. -/
def sam_stat (r : Reservations) : ℕ := r.status.sam_stat

/-- The generation counted up. -/
def next (r : Reservations) : Reservations :=
  { r with SPR_Reservation_Generation := r.SPR_Reservation_Generation + 1 }

/-- Another key and another type. -/
def hold (r : Reservations) (key : ℕ) (type : UInt8) : Reservations :=
  { r with SPR_Reservation_Key := key, SPR_Reservation_Type := type }

@[simp] theorem returns_returns (r : Reservations) (a b : ℕ) :
    (r.returns a).returns b = r.returns b := rfl

@[simp] theorem returns_report (r : Reservations) (a : ℕ) (s : Status) :
    (r.returns a).report s = r.report s := rfl

@[simp] theorem returns_key (r : Reservations) (a : ℕ) :
    (r.returns a).SPR_Reservation_Key = r.SPR_Reservation_Key := rfl

@[simp] theorem returns_type (r : Reservations) (a : ℕ) :
    (r.returns a).SPR_Reservation_Type = r.SPR_Reservation_Type := rfl

@[simp] theorem returns_reserved (r : Reservations) (a : ℕ) :
    (r.returns a).I_am_SPC_2_Reserved = r.I_am_SPC_2_Reserved := rfl

/-- A drive that was just started. -/
def reset : Reservations := ⟨0, 0, 0, false, Status.good⟩

end Reservations

/-- Service action of a command block. -/
def serviceAction (cdb : Cdb) : UInt8 := cdb 1 &&& 0x1f
/-- Type of a command block. -/
def reservationType (cdb : Cdb) : UInt8 := cdb 2 &&& 0x0f
/-- Reservation key of the parameter list. -/
def reservationKey (buf : ℕ → UInt8) : ℕ := beNat (bytesAt buf 0 8)
/-- Service action reservation key of the parameter list. -/
def serviceActionKey (buf : ℕ → UInt8) : ℕ := beNat (bytesAt buf 8 8)

/-- The service actions of PERSISTENT RESERVE OUT. -/
def resp_spc_pro (r : Reservations) (cdb : Cdb) (buf : ℕ → UInt8) (sz : ℕ) : Reservations :=
  if sz ≠ 24 then
    r.report (sam_illegal_request E_PARAMETER_LIST_LENGTH_ERR (some ⟨SKSV ||| CD, 5⟩))
  else
  let r := r.returns SAM_STAT_GOOD
  let conflict := r.returns SAM_STAT_RESERVATION_CONFLICT
  let SA := serviceAction cdb
  let TYPE := reservationType cdb
  let RK := reservationKey buf
  let SARK := serviceActionKey buf
  let key := r.SPR_Reservation_Key
  let type := r.SPR_Reservation_Type
  if SA = 0 then
    if key ≠ 0 then
      if RK = key then (r.hold SARK (if SARK ≠ 0 then type else 0)).next else conflict
    else if RK ≠ 0 then conflict
    else (r.hold SARK type).next
  else if SA = 1 then
    if key ≠ 0 ∧ RK = key ∧ TYPE = SPR_EXCLUSIVE_ACCESS then r.hold key TYPE else conflict
  else if SA = 2 then
    if key ≠ 0 ∧ RK = key ∧ TYPE = SPR_EXCLUSIVE_ACCESS then r.hold key 0 else conflict
  else if SA = 3 then
    if key = 0 then conflict
    else if RK = key then (r.hold 0 0).next
    else conflict
  else if SA = 4 ∨ SA = 5 then
    if key = 0 ∧ RK = 0 ∧ SARK = 0 then conflict
    else if type ≠ 0 then if SARK = key then (r.hold RK TYPE).next else r
    else if SARK = key then (r.hold 0 type).next
    else r
  else if SA = 6 then
    if key ≠ 0 then (r.hold SARK (if SARK ≠ 0 then type else 0)).next
    else (r.hold SARK type).next
  else r.report (sam_illegal_request E_INVALID_FIELD_IN_CDB none)

/-- PERSISTENT RESERVE OUT. -/
def ssc_pr_out (r : Reservations) (cdb : Cdb) (buf : ℕ → UInt8) : Reservations :=
  let r := r.returns SAM_STAT_GOOD
  if r.I_am_SPC_2_Reserved then r.returns SAM_STAT_RESERVATION_CONFLICT
  else resp_spc_pro r cdb buf (beNat (bytesAt cdb 5 4))

/-- RELEASE. -/
def ssc_release (r : Reservations) : Reservations :=
  let r := r.returns SAM_STAT_GOOD
  if r.SPR_Reservation_Type = 0 ∧ r.SPR_Reservation_Key ≠ 0 then
    r.returns SAM_STAT_RESERVATION_CONFLICT
  else { r with I_am_SPC_2_Reserved := false }

/-- RESERVE. -/
def ssc_reserve (r : Reservations) : Reservations :=
  let r := r.returns SAM_STAT_GOOD
  let r :=
    if r.SPR_Reservation_Type = 0 ∧ r.SPR_Reservation_Key = 0 then
      { r with I_am_SPC_2_Reserved := true }
    else r
  if r.SPR_Reservation_Type = 0 ∧ r.SPR_Reservation_Key ≠ 0 then
    r.returns SAM_STAT_RESERVATION_CONFLICT
  else r

/-- The commands that deal with reservations. -/
inductive ReserveCommand where
  | persistent_reserve_out (cdb : Cdb) (buf : ℕ → UInt8)
  | reserve
  | release

/-- A command on a drive. -/
def ReserveCommand.run (r : Reservations) : ReserveCommand → Reservations
  | persistent_reserve_out cdb buf => ssc_pr_out r cdb buf
  | reserve => ssc_reserve r
  | release => ssc_release r

/-- A register, clear or preempt, by its service action. -/
def CountsUp (SA : UInt8) : Prop := SA = 0 ∨ SA = 3 ∨ SA = 4 ∨ SA = 5 ∨ SA = 6

/-- The command is one that the generation counts when it succeeds. -/
def ReserveCommand.Counted : ReserveCommand → Prop
  | persistent_reserve_out cdb _ => CountsUp (serviceAction cdb)
  | reserve => False
  | release => False

/-- Nothing but the status differs. -/
def SameReservations (r r' : Reservations) : Prop := r'.report r.status = r

/-- What is held together. -/
structure Lawful (r : Reservations) : Prop where
  /-- A reservation has a key and is the exclusive one. -/
  type : r.SPR_Reservation_Type ≠ 0 →
    r.SPR_Reservation_Key ≠ 0 ∧ r.SPR_Reservation_Type = SPR_EXCLUSIVE_ACCESS
  /-- The older reservation and a key exclude each other. -/
  one : r.I_am_SPC_2_Reserved = true → r.SPR_Reservation_Key = 0

/-- What a command is to do. -/
structure LawfulStep (r : Reservations) (c : ReserveCommand) : Prop where
  /-- A refused command changes nothing. -/
  refused : (c.run r).sam_stat ≠ SAM_STAT_GOOD → SameReservations r (c.run r)
  /-- A counted command that succeeds takes the generation on. -/
  counted : c.Counted → (c.run r).sam_stat = SAM_STAT_GOOD →
    (c.run r).SPR_Reservation_Generation = r.SPR_Reservation_Generation + 1
  /-- No other command does. -/
  uncounted : ¬c.Counted → (c.run r).SPR_Reservation_Generation = r.SPR_Reservation_Generation
  /-- RESERVE succeeds with the older reservation only. -/
  reserved : c = .reserve → (c.run r).sam_stat = SAM_STAT_GOOD →
    (c.run r).I_am_SPC_2_Reserved = true
  /-- What is held afterwards. -/
  lawful : Lawful (c.run r)

/-- Every command of a sequence does so. -/
def LawfulRun : Reservations → List ReserveCommand → Prop
  | _, [] => True
  | r, c :: cs => LawfulStep r c ∧ LawfulRun (c.run r) cs

/-- The preemption names the registered key, and takes over an exclusive reservation for a
key of its own, or none. -/
structure SoundPreempt (r : Reservations) (cdb : Cdb) (buf : ℕ → UInt8) : Prop where
  /-- The key that is named. -/
  named : serviceActionKey buf = r.SPR_Reservation_Key
  /-- The key and type that are taken over. -/
  taken : r.SPR_Reservation_Type ≠ 0 → reservationType cdb ≠ 0 →
    reservationKey buf ≠ 0 ∧ reservationType cdb = SPR_EXCLUSIVE_ACCESS

/-- The preemption is carried out: the drive is not reserved the older way, the list is of
the right length, and there is a key. -/
def Preempts (r : Reservations) (cdb : Cdb) (buf : ℕ → UInt8) : Prop :=
  (serviceAction cdb = 4 ∨ serviceAction cdb = 5) ∧ r.I_am_SPC_2_Reserved = false ∧
    beNat (bytesAt cdb 5 4) = 24 ∧
    ¬(r.SPR_Reservation_Key = 0 ∧ reservationKey buf = 0 ∧ serviceActionKey buf = 0)

/-- When a command does what it is to do. -/
def Meets (r : Reservations) : ReserveCommand → Prop
  | .persistent_reserve_out cdb buf => Preempts r cdb buf → SoundPreempt r cdb buf
  | .reserve => r.SPR_Reservation_Type = 0
  | .release => True

/-- Every command of a sequence meets its condition. -/
def MeetsAll : Reservations → List ReserveCommand → Prop
  | _, [] => True
  | r, c :: cs => Meets r c ∧ MeetsAll (c.run r) cs

section Steps

variable {r : Reservations} {c : ReserveCommand}

/-- The generation moves when it counts. -/
theorem generation_next (g : UInt32) : g + 1 ≠ g := by
  intro h
  have hz : (1 : UInt32) = 0 := by
    rw [← UInt32.add_right_inj g, h, UInt32.add_zero]
  exact absurd hz (by decide)

/-- Lawfulness does not depend on the status. -/
theorem Lawful.report (h : Lawful r) (st : Status) : Lawful (r.report st) := ⟨h.type, h.one⟩

/-- A command that is refused. -/
theorem lawfulStep_of_refused (h : Lawful r) {st : Status} (hrun : c.run r = r.report st)
    (hst : st.sam_stat ≠ SAM_STAT_GOOD) : LawfulStep r c := by
  have hstat : (c.run r).sam_stat = st.sam_stat := by
    rw [hrun]
    rfl
  constructor
  · intro _
    rw [hrun]
    rfl
  · intro _ hgood
    exact absurd (hstat.symm.trans hgood) hst
  · intro _
    rw [hrun]
    rfl
  · intro _ hgood
    exact absurd (hstat.symm.trans hgood) hst
  · rw [hrun]
    exact h.report st

/-- A conflict is a refusal. -/
theorem lawfulStep_of_conflict (h : Lawful r)
    (hrun : c.run r = r.returns SAM_STAT_RESERVATION_CONFLICT) : LawfulStep r c := by
  have hst : (r.returns SAM_STAT_RESERVATION_CONFLICT).status.sam_stat ≠ SAM_STAT_GOOD :=
    show SAM_STAT_RESERVATION_CONFLICT ≠ SAM_STAT_GOOD by decide
  exact lawfulStep_of_refused h hrun hst

/-- A counted command that succeeds. -/
theorem lawfulStep_of_counted {key : ℕ} {type : UInt8} (hc : c.Counted)
    (hrun : c.run r = ((r.returns SAM_STAT_GOOD).hold key type).next)
    (htype : type ≠ 0 → key ≠ 0 ∧ type = SPR_EXCLUSIVE_ACCESS)
    (hone : r.I_am_SPC_2_Reserved = false) : LawfulStep r c := by
  constructor
  · intro hbad
    rw [hrun] at hbad
    exact absurd rfl hbad
  · intro _ _
    rw [hrun]
    rfl
  · intro hn
    exact absurd hc hn
  · rintro rfl
    exact absurd hc id
  · rw [hrun]
    refine ⟨htype, fun hres => ?_⟩
    exact absurd (hone.symm.trans hres) Bool.false_ne_true

/-- A reservation is taken or given up. -/
theorem lawfulStep_of_held {key : ℕ} {type : UInt8} (hc : ¬c.Counted) (hne : c ≠ .reserve)
    (hrun : c.run r = (r.returns SAM_STAT_GOOD).hold key type)
    (htype : type ≠ 0 → key ≠ 0 ∧ type = SPR_EXCLUSIVE_ACCESS)
    (hone : r.I_am_SPC_2_Reserved = false) : LawfulStep r c := by
  constructor
  · intro hbad
    rw [hrun] at hbad
    exact absurd rfl hbad
  · intro hc'
    exact absurd hc' hc
  · intro _
    rw [hrun]
    rfl
  · intro hres
    exact absurd hres hne
  · rw [hrun]
    refine ⟨htype, fun hres => ?_⟩
    exact absurd (hone.symm.trans hres) Bool.false_ne_true

end Steps

section PersistentReserve

variable {r : Reservations} {cdb : Cdb} {buf : ℕ → UInt8}

/-- The older reservation refuses the command. -/
theorem pr_out_reserved (h : Lawful r) (hres : r.I_am_SPC_2_Reserved = true) :
    LawfulStep r (.persistent_reserve_out cdb buf) := by
  apply lawfulStep_of_conflict h
  simp only [ReserveCommand.run, ssc_pr_out, Reservations.returns_reserved, hres, if_true,
    Reservations.returns_returns]

/-- A list of another length is refused. -/
theorem pr_out_length (h : Lawful r) (hres : r.I_am_SPC_2_Reserved = false)
    (hsz : beNat (bytesAt cdb 5 4) ≠ 24) : LawfulStep r (.persistent_reserve_out cdb buf) := by
  have hrun : ReserveCommand.run r (.persistent_reserve_out cdb buf) = r.report
      (sam_illegal_request E_PARAMETER_LIST_LENGTH_ERR (some ⟨SKSV ||| CD, 5⟩)) := by
    simp only [ReserveCommand.run, ssc_pr_out, Reservations.returns_reserved, hres,
      Bool.false_eq_true, if_false, resp_spc_pro, ne_eq, hsz, not_false_eq_true, if_true,
      Reservations.returns_report]
  exact lawfulStep_of_refused h hrun (show SAM_STAT_CHECK_CONDITION ≠ SAM_STAT_GOOD by decide)

/-- The command is looked at. -/
structure Unreserved (r : Reservations) (cdb : Cdb) : Prop where
  /-- The drive is not reserved the older way. -/
  free : r.I_am_SPC_2_Reserved = false
  /-- The list is as long as it is to be. -/
  length : beNat (bytesAt cdb 5 4) = 24

/-- Such a command does what its service action says. -/
theorem Unreserved.run (h : Unreserved r cdb) (buf : ℕ → UInt8) :
    ReserveCommand.run r (.persistent_reserve_out cdb buf) =
      resp_spc_pro (r.returns SAM_STAT_GOOD) cdb buf 24 := by
  simp only [ReserveCommand.run, ssc_pr_out, Reservations.returns_reserved, h.free, h.length,
    Bool.false_eq_true, if_false]

/-- The type is kept with another key, and goes with the key. -/
theorem type_kept (h : Lawful r) {SARK : ℕ}
    (hne : (if ¬SARK = 0 then r.SPR_Reservation_Type else 0) ≠ 0) :
    SARK ≠ 0 ∧ (if ¬SARK = 0 then r.SPR_Reservation_Type else 0) = SPR_EXCLUSIVE_ACCESS := by
  by_cases hS : SARK = 0
  · rw [if_neg (not_not.mpr hS)] at hne
    exact absurd rfl hne
  · rw [if_pos hS] at hne ⊢
    exact ⟨hS, (h.type hne).2⟩

/-- REGISTER, which keeps the type unless the key goes. -/
theorem pr_out_register (h : Lawful r) (hacc : Unreserved r cdb) (hSA : serviceAction cdb = 0) :
    LawfulStep r (.persistent_reserve_out cdb buf) := by
  have hc : (ReserveCommand.persistent_reserve_out cdb buf).Counted := Or.inl hSA
  have hrun := hacc.run buf
  simp only [resp_spc_pro, ne_eq, not_true_eq_false, if_false, hSA, if_true,
    Reservations.returns_returns, Reservations.returns_key, Reservations.returns_type] at hrun
  by_cases hkey : r.SPR_Reservation_Key = 0
  · have htype : r.SPR_Reservation_Type = 0 := by
      by_contra hne
      exact (h.type hne).1 hkey
    by_cases hRK : reservationKey buf = 0
    · simp only [hkey, hRK, not_true_eq_false, if_false] at hrun
      exact lawfulStep_of_counted hc hrun (fun hne => absurd htype hne) hacc.free
    · simp only [hkey, hRK, not_true_eq_false, not_false_eq_true, if_true, if_false] at hrun
      exact lawfulStep_of_conflict h hrun
  · by_cases hRK : reservationKey buf = r.SPR_Reservation_Key
    · simp only [hkey, hRK, not_false_eq_true, if_true] at hrun
      exact lawfulStep_of_counted hc hrun (type_kept h) hacc.free
    · simp only [hkey, hRK, not_false_eq_true, if_true, if_false] at hrun
      exact lawfulStep_of_conflict h hrun

/-- REGISTER AND IGNORE EXISTING KEY. -/
theorem pr_out_register_ignore (h : Lawful r) (hacc : Unreserved r cdb)
    (hSA : serviceAction cdb = 6) :
    LawfulStep r (.persistent_reserve_out cdb buf) := by
  have hc : (ReserveCommand.persistent_reserve_out cdb buf).Counted :=
    Or.inr (Or.inr (Or.inr (Or.inr hSA)))
  have hrun := hacc.run buf
  have hne : ¬(6 : UInt8) = 0 ∧ ¬(6 : UInt8) = 1 ∧ ¬(6 : UInt8) = 2 ∧ ¬(6 : UInt8) = 3 ∧
      ¬(6 : UInt8) = 4 ∧ ¬(6 : UInt8) = 5 := by decide
  simp only [resp_spc_pro, ne_eq, not_true_eq_false, if_false, hSA, hne, or_self,
    if_true, Reservations.returns_returns, Reservations.returns_key, Reservations.returns_type] at hrun
  by_cases hkey : r.SPR_Reservation_Key = 0
  · have htype : r.SPR_Reservation_Type = 0 := by
      by_contra hne
      exact (h.type hne).1 hkey
    simp only [hkey, not_true_eq_false, if_false] at hrun
    exact lawfulStep_of_counted hc hrun (fun hne => absurd htype hne) hacc.free
  · simp only [hkey, not_false_eq_true, if_true] at hrun
    exact lawfulStep_of_counted hc hrun (type_kept h) hacc.free

/-- RESERVE and RELEASE of the exclusive type, by the owner of the key. -/
theorem pr_out_reserve (h : Lawful r) (hacc : Unreserved r cdb)
    (hSA : serviceAction cdb = 1 ∨ serviceAction cdb = 2) :
    LawfulStep r (.persistent_reserve_out cdb buf) := by
  have hc : ¬(ReserveCommand.persistent_reserve_out cdb buf).Counted := by
    intro hc
    simp only [ReserveCommand.Counted, CountsUp] at hc
    rcases hSA with hSA | hSA
    · rw [hSA] at hc
      exact absurd hc (by decide)
    · rw [hSA] at hc
      exact absurd hc (by decide)
  have hne : ReserveCommand.persistent_reserve_out cdb buf ≠ .reserve := by
    intro he
    cases he
  have h12 : ¬(1 : UInt8) = 0 ∧ ¬(2 : UInt8) = 0 ∧ ¬(2 : UInt8) = 1 := by decide
  have hrun := hacc.run buf
  by_cases hown : r.SPR_Reservation_Key ≠ 0 ∧ reservationKey buf = r.SPR_Reservation_Key ∧
      reservationType cdb = SPR_EXCLUSIVE_ACCESS
  · rcases hSA with hSA | hSA
    · simp only [resp_spc_pro, ne_eq, not_true_eq_false, if_false, hSA, h12,
        if_true, Reservations.returns_returns, Reservations.returns_key] at hrun
      exact lawfulStep_of_held hc hne (hrun.trans (if_pos hown)) (fun _ => ⟨hown.1, hown.2.2⟩)
        hacc.free
    · simp only [resp_spc_pro, ne_eq, not_true_eq_false, if_false, hSA, h12,
        if_true, Reservations.returns_returns, Reservations.returns_key] at hrun
      exact lawfulStep_of_held hc hne (hrun.trans (if_pos hown)) (fun hz => absurd rfl hz) hacc.free
  · apply lawfulStep_of_conflict h
    rcases hSA with hSA | hSA
    · simp only [resp_spc_pro, ne_eq, not_true_eq_false, if_false, hSA, h12,
        if_true, Reservations.returns_returns, Reservations.returns_key] at hrun
      exact hrun.trans (if_neg hown)
    · simp only [resp_spc_pro, ne_eq, not_true_eq_false, if_false, hSA, h12,
        if_true, Reservations.returns_returns, Reservations.returns_key] at hrun
      exact hrun.trans (if_neg hown)

/-- CLEAR. -/
theorem pr_out_clear (h : Lawful r) (hacc : Unreserved r cdb) (hSA : serviceAction cdb = 3) :
    LawfulStep r (.persistent_reserve_out cdb buf) := by
  have hne : ¬(3 : UInt8) = 0 ∧ ¬(3 : UInt8) = 1 ∧ ¬(3 : UInt8) = 2 := by decide
  have hrun := hacc.run buf
  simp only [resp_spc_pro, ne_eq, not_true_eq_false, if_false, hSA, hne,
    if_true, Reservations.returns_returns, Reservations.returns_key] at hrun
  by_cases hkey : r.SPR_Reservation_Key = 0
  · exact lawfulStep_of_conflict h (hrun.trans (if_pos hkey))
  · by_cases hRK : reservationKey buf = r.SPR_Reservation_Key
    · simp only [hkey, hRK, if_true, if_false] at hrun
      exact lawfulStep_of_counted (Or.inr (Or.inl hSA)) hrun (fun hz => absurd rfl hz) hacc.free
    · simp only [hkey, hRK, if_false] at hrun
      exact lawfulStep_of_conflict h hrun

/-- REGISTER AND MOVE and what has no meaning are refused. -/
theorem pr_out_unknown (h : Lawful r) (hacc : Unreserved r cdb) (hSA : ∀ n : UInt8, n ≤ 6 →
    serviceAction cdb ≠ n) : LawfulStep r (.persistent_reserve_out cdb buf) := by
  have hrun : ReserveCommand.run r (.persistent_reserve_out cdb buf) =
      r.report (sam_illegal_request E_INVALID_FIELD_IN_CDB none) := by
    rw [hacc.run buf]
    simp only [resp_spc_pro, ne_eq, not_true_eq_false, if_false, hSA 0 (by decide),
      hSA 1 (by decide), hSA 2 (by decide), hSA 3 (by decide), hSA 4 (by decide),
      hSA 5 (by decide), hSA 6 (by decide), or_self, Reservations.returns_report]
  exact lawfulStep_of_refused h hrun (show SAM_STAT_CHECK_CONDITION ≠ SAM_STAT_GOOD by decide)

/-- A preemption is lawful when it is sound, and only then. -/
theorem pr_out_preempt (h : Lawful r) (hacc : Unreserved r cdb)
    (hSA : serviceAction cdb = 4 ∨ serviceAction cdb = 5) :
    LawfulStep r (.persistent_reserve_out cdb buf) ↔
      (Preempts r cdb buf → SoundPreempt r cdb buf) := by
  have hc : (ReserveCommand.persistent_reserve_out cdb buf).Counted :=
    Or.inr (Or.inr (hSA.imp_right Or.inl))
  have h0 : serviceAction cdb ≠ 0 ∧ serviceAction cdb ≠ 1 ∧ serviceAction cdb ≠ 2 ∧
      serviceAction cdb ≠ 3 := by
    rcases hSA with hSA | hSA <;> rw [hSA] <;> decide
  have hrun := hacc.run buf
  simp only [resp_spc_pro, ne_eq, not_true_eq_false, if_false, if_neg h0.1, if_neg h0.2.1,
    if_neg h0.2.2.1, if_neg h0.2.2.2, if_pos hSA, Reservations.returns_returns,
    Reservations.returns_key, Reservations.returns_type] at hrun
  by_cases hnone : r.SPR_Reservation_Key = 0 ∧ reservationKey buf = 0 ∧ serviceActionKey buf = 0
  · refine iff_of_true (lawfulStep_of_conflict h (hrun.trans (if_pos hnone))) fun hp => ?_
    exact absurd hnone hp.2.2.2
  have hpre : Preempts r cdb buf := ⟨hSA, hacc.free, hacc.length, hnone⟩
  replace hrun := hrun.trans (if_neg hnone)
  by_cases hnamed : serviceActionKey buf = r.SPR_Reservation_Key
  · by_cases htype : r.SPR_Reservation_Type = 0
    · simp only [htype, hnamed, not_true_eq_false, if_true, if_false] at hrun
      refine iff_of_true ?_ fun _ => ⟨hnamed, fun hne => absurd htype hne⟩
      exact lawfulStep_of_counted hc hrun (fun hne => absurd rfl hne) hacc.free
    · simp only [htype, hnamed, not_false_eq_true, if_true] at hrun
      constructor
      · intro hstep _
        have hlaw := hstep.lawful
        rw [hrun] at hlaw
        exact ⟨hnamed, fun _ hT => hlaw.type hT⟩
      · intro hsound
        exact lawfulStep_of_counted hc hrun ((hsound hpre).taken htype) hacc.free
  · -- the command succeeds and does nothing
    have hkept : ReserveCommand.run r (.persistent_reserve_out cdb buf) =
        r.returns SAM_STAT_GOOD := by
      by_cases htype : r.SPR_Reservation_Type = 0
      · simp only [htype, hnamed, not_true_eq_false, if_false] at hrun
        exact hrun
      · simp only [htype, hnamed, not_false_eq_true, if_true, if_false] at hrun
        exact hrun
    refine iff_of_false (fun hstep => ?_) fun hsound => hnamed (hsound hpre).named
    have hgen := hstep.counted hc (by rw [hkept]; rfl)
    rw [hkept] at hgen
    exact generation_next _ hgen.symm

/-- PERSISTENT RESERVE OUT is lawful exactly when it meets its condition. -/
theorem pr_out_lawful_iff (h : Lawful r) :
    LawfulStep r (.persistent_reserve_out cdb buf) ↔ Meets r (.persistent_reserve_out cdb buf) := by
  by_cases hres : r.I_am_SPC_2_Reserved = true
  · refine iff_of_true (pr_out_reserved h hres) fun hp => ?_
    exact absurd (hp.2.1.symm.trans hres) Bool.false_ne_true
  have hfree : r.I_am_SPC_2_Reserved = false := Bool.eq_false_iff.mpr hres
  by_cases hsz : beNat (bytesAt cdb 5 4) = 24
  · have hacc : Unreserved r cdb := ⟨hfree, hsz⟩
    by_cases hpre : serviceAction cdb = 4 ∨ serviceAction cdb = 5
    · exact pr_out_preempt h hacc hpre
    · refine iff_of_true ?_ fun hp => absurd hp.1 hpre
      by_cases h0 : serviceAction cdb = 0
      · exact pr_out_register h hacc h0
      by_cases h12 : serviceAction cdb = 1 ∨ serviceAction cdb = 2
      · exact pr_out_reserve h hacc h12
      by_cases h3 : serviceAction cdb = 3
      · exact pr_out_clear h hacc h3
      by_cases h6 : serviceAction cdb = 6
      · exact pr_out_register_ignore h hacc h6
      apply pr_out_unknown h hacc
      rintro n hn rfl
      simp only [not_or] at hpre h12
      have hcases : ∀ b : UInt8, b ≤ 6 →
          b = 0 ∨ b = 1 ∨ b = 2 ∨ b = 3 ∨ b = 4 ∨ b = 5 ∨ b = 6 := by
        intro b hb
        rw [UInt8.le_iff_toNat_le] at hb
        have hsix : (6 : UInt8).toNat = 6 := rfl
        simp only [← UInt8.toNat_inj, UInt8.toNat_ofNat]
        omega
      rcases hcases _ hn with hb | hb | hb | hb | hb | hb | hb
      · exact h0 hb
      · exact h12.1 hb
      · exact h12.2 hb
      · exact h3 hb
      · exact hpre.1 hb
      · exact hpre.2 hb
      · exact h6 hb
  · exact iff_of_true (pr_out_length h hfree hsz) fun hp => absurd hp.2.2.1 hsz

end PersistentReserve

/-- The older commands. RESERVE is unlawful while a persistent reservation is held: it
succeeds without reserving anything. -/
theorem lawfulStep_iff {r : Reservations} (h : Lawful r) (c : ReserveCommand) :
    LawfulStep r c ↔ Meets r c := by
  cases c with
  | persistent_reserve_out cdb buf => exact pr_out_lawful_iff h
  | reserve =>
    by_cases htype : r.SPR_Reservation_Type = 0
    · refine iff_of_true ?_ htype
      by_cases hkey : r.SPR_Reservation_Key = 0
      · have hrun : ReserveCommand.run r .reserve =
            { r.returns SAM_STAT_GOOD with I_am_SPC_2_Reserved := true } := by
          simp only [ReserveCommand.run, ssc_reserve, Reservations.returns_type,
            Reservations.returns_key, htype, hkey, true_and, if_true, ne_eq, not_true_eq_false,
            if_false]
        constructor
        · intro hbad
          rw [hrun] at hbad
          exact absurd rfl hbad
        · intro hc
          exact absurd hc id
        · intro _
          rw [hrun]
          rfl
        · intro _ _
          rw [hrun]
        · rw [hrun]
          exact ⟨h.type, fun _ => hkey⟩
      · have hrun : ReserveCommand.run r .reserve =
            r.returns SAM_STAT_RESERVATION_CONFLICT := by
          simp only [ReserveCommand.run, ssc_reserve, Reservations.returns_type,
            Reservations.returns_key, htype, hkey, true_and, if_true, ne_eq, not_false_eq_true,
            if_false, Reservations.returns_returns]
        exact lawfulStep_of_conflict h hrun
    · have hrun : ReserveCommand.run r .reserve = r.returns SAM_STAT_GOOD := by
        simp only [ReserveCommand.run, ssc_reserve, Reservations.returns, htype, false_and,
          if_false]
      refine iff_of_false (fun hstep => ?_) htype
      have hres := hstep.reserved rfl (by rw [hrun]; rfl)
      rw [hrun] at hres
      exact (h.type htype).1 (h.one hres)
  | release =>
    refine iff_of_true ?_ trivial
    by_cases hheld : r.SPR_Reservation_Type = 0 ∧ r.SPR_Reservation_Key ≠ 0
    · have hrun : ReserveCommand.run r .release =
          r.returns SAM_STAT_RESERVATION_CONFLICT := if_pos hheld
      exact lawfulStep_of_conflict h hrun
    · have hrun : ReserveCommand.run r .release =
          { r.returns SAM_STAT_GOOD with I_am_SPC_2_Reserved := false } := if_neg hheld
      constructor
      · intro hbad
        rw [hrun] at hbad
        exact absurd rfl hbad
      · intro hc
        exact absurd hc id
      · intro _
        rw [hrun]
        rfl
      · intro he
        cases he
      · rw [hrun]
        exact ⟨h.type, fun hfalse => absurd hfalse Bool.false_ne_true⟩

/-- A sequence of commands does what it is to do, from a lawful state on, exactly when each
command meets its condition in the state it finds. -/
theorem reservations_lawful {r : Reservations} (h : Lawful r) (cs : List ReserveCommand) :
    LawfulRun r cs ↔ MeetsAll r cs := by
  induction cs generalizing r with
  | nil => exact Iff.rfl
  | cons c cs ih =>
    constructor
    · rintro ⟨hstep, hrest⟩
      exact ⟨(lawfulStep_iff h c).mp hstep, (ih hstep.lawful).mp hrest⟩
    · rintro ⟨hmeets, hrest⟩
      have hstep := (lawfulStep_iff h c).mpr hmeets
      exact ⟨hstep, (ih hstep.lawful).mpr hrest⟩

/-- A command block of PERSISTENT RESERVE OUT. -/
def proCdb (SA TYPE : UInt8) : Cdb
  | 1 => SA
  | 2 => TYPE
  | 8 => 24
  | _ => 0

/-- A parameter list with two small keys. -/
def proKeys (RK SARK : UInt8) : ℕ → UInt8
  | 7 => RK
  | 15 => SARK
  | _ => 0

/-- A key is registered, the drive reserved, the reservation taken over for another key, and
given up. -/
def orderlyCommands : List ReserveCommand :=
  [.persistent_reserve_out (proCdb 0 0) (proKeys 0 7),
    .persistent_reserve_out (proCdb 1 SPR_EXCLUSIVE_ACCESS) (proKeys 7 0),
    .persistent_reserve_out (proCdb 4 SPR_EXCLUSIVE_ACCESS) (proKeys 5 7),
    .persistent_reserve_out (proCdb 3 0) (proKeys 5 0), .reserve, .release]

/-- They do what they are to do. -/
theorem reservations_lawful_orderly : LawfulRun .reset orderlyCommands := by
  have h : Lawful .reset := ⟨fun hne => absurd rfl hne, fun _ => rfl⟩
  refine (reservations_lawful h orderlyCommands).mpr ⟨?_, ?_, ?_, ?_, ?_, trivial, trivial⟩
  · exact fun hp => absurd hp.1 (by decide)
  · exact fun hp => absurd hp.1 (by decide)
  · refine fun _ => ⟨?_, fun _ _ => ⟨by decide, rfl⟩⟩
    decide +kernel
  · exact fun hp => absurd hp.1 (by decide)
  · change Reservations.SPR_Reservation_Type _ = 0
    decide +kernel

/-- The owner of the key reserves the drive, and a preemption that names the key takes the
reservation over for key 0 with a type that does not exist. RESERVE then succeeds and reserves
nothing. A preemption that names another key succeeds and is not counted. -/
theorem preempt_leaves_law :
    let reserved := (orderlyCommands.take 2).foldl ReserveCommand.run .reset
    let taken := ReserveCommand.run reserved (.persistent_reserve_out (proCdb 4 5) (proKeys 0 7))
    let missed := ReserveCommand.run reserved (.persistent_reserve_out (proCdb 4 3) (proKeys 9 8))
    taken.sam_stat = SAM_STAT_GOOD ∧ taken.SPR_Reservation_Type = 5 ∧
      taken.SPR_Reservation_Key = 0 ∧
      (ReserveCommand.run taken .reserve).sam_stat = SAM_STAT_GOOD ∧
      (ReserveCommand.run taken .reserve).I_am_SPC_2_Reserved = false ∧
      missed.sam_stat = SAM_STAT_GOOD ∧
      missed.SPR_Reservation_Generation = reserved.SPR_Reservation_Generation := by
  decide +kernel

end Mhvtl.Ssc
