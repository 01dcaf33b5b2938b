import Mhvtl.Smc.Mailboxes

/-!
# Requests and their answers

Drives that know their library answer every request once when they handle it. Over a
run, every request to a drive waits in the drive's queue without an
answer, or was taken and has exactly one.
-/

namespace Mhvtl

open TapeDrive

variable {P : Parties} {s s' : System} {l : Event} {ls : List Event}

/-- No drive is told to load by a library that it does not know. -/
def Event.Known (s : System) (l : Event) : Prop :=
  ∀ d e sent, l = .driveHandles d e sent → "lload".toList <+: e.msg.text →
    (s.drives d).inLibrary = true

/-- The drive answered a request. -/
def Event.Answering (l : Event) : Prop :=
  ∃ d e a, l = .driveHandles d e [a] ∧ Request e.msg.text ∧ a.answers = some e.serial ∧
    a.rcv_id = e.msg.snd_id ∧ a.msg.snd_id = d

/-- Letters that answer nothing. -/
theorem letters_answer_nothing {snd_id rcv_id n : ℕ} {texts : List Text} :
    ∀ a ∈ System.letters snd_id rcv_id none n texts, a.answers = none :=
  fun _ ha => (System.letters_mem ha).2.2.2.1

/-- Drives answer requests once, and nothing else is an answer. -/
theorem ProtocolStep.answering (h : ProtocolStep P s l s') (hknown : l.Known s) :
    l.Answering ∨ (∀ a ∈ l.sent, a.answers = none) ∧
      ∀ d ∈ P.drive_ids, ∀ e, l.took P = some (d, e) → ¬ Request e.msg.text := by
  cases h with
  | libraryHandles hphase hnext hrun hes =>
    subst hes
    refine Or.inr ⟨letters_answer_nothing, fun d hd e he => ?_⟩
    cases he
    exact absurd hd P.apart
  | libraryFails hphase hnext hrun =>
    refine Or.inr ⟨fun a ha => (nomatch ha), fun d hd e he => ?_⟩
    cases he
    exact absurd hd P.apart
  | moveBegins cdb hphase => exact Or.inr ⟨fun a ha => (nomatch ha), fun d hd e he => nomatch he⟩
  | libraryAsks hphase hes =>
    subst hes
    exact Or.inr ⟨letters_answer_nothing, fun d hd e he => nomatch he⟩
  | libraryRuns code hphase => exact Or.inr ⟨fun a ha => (nomatch ha), fun d hd e he => nomatch he⟩
  | libraryHears hphase hnext =>
    refine Or.inr ⟨fun a ha => (nomatch ha), fun d hd e he => ?_⟩
    cases he
    exact absurd hd P.apart
  | moveEnds hphase => exact Or.inr ⟨fun a ha => (nomatch ha), fun d hd e he => nomatch he⟩
  | @driveHandles d e rest drive out es result hd hnext hrun hes =>
    subst hes
    obtain ⟨drive', out', hrun', hhandled⟩ := processMessageQ_handled (s.drives d) e.msg result
    cases hrun.symm.trans hrun'
    by_cases hreq : Request e.msg.text
    · obtain ⟨t, rfl, hlen⟩ := hhandled.answers hreq (hknown d e _ rfl)
      rw [System.letters_singleton hlen]
      exact Or.inl ⟨d, e, _, rfl, hreq, rfl, rfl, rfl⟩
    · cases hhandled.silent hreq
      refine Or.inr ⟨fun a ha => (nomatch ha), fun d' _ e' he => ?_⟩
      cases he
      exact hreq
  | driveObeys command hd hes =>
    subst hes
    exact Or.inr ⟨letters_answer_nothing, fun d hd e he => nomatch he⟩
  | driveRestarts hd => exact Or.inr ⟨fun a ha => (nomatch ha), fun d hd e he => nomatch he⟩
  | userSends user rcv_id text hlibrary hdrive hes =>
    subst hes
    exact Or.inr ⟨letters_answer_nothing, fun d hd e he => nomatch he⟩
  | userReads hlibrary hdrive hnext =>
    refine Or.inr ⟨fun a ha => (nomatch ha), fun d hd e he => ?_⟩
    cases he
    exact absurd hd hdrive

/-- Every drive with an empty mouth has nothing loaded. -/
def SoundDrives (P : Parties) (s : System) : Prop := ∀ d ∈ P.drive_ids, (s.drives d).Sound

/-- Drives stay sound. -/
theorem SoundDrives.step (hs : SoundDrives P s) (h : ProtocolStep P s l s') :
    SoundDrives P s' := by
  have hupdate : ∀ (d : ℕ) (drive : TapeDrive), drive.Sound →
      SoundDrives P (s.setDrive d drive) := by
    intro d drive hdrive d' hd'
    by_cases hsame : d' = d
    · subst hsame
      simpa [System.setDrive] using hdrive
    · simpa [System.setDrive, hsame] using hs d' hd'
  cases h with
  | libraryHandles hphase hnext hrun hes => exact hs
  | libraryFails hphase hnext hrun => exact hs
  | moveBegins cdb hphase => exact hs
  | libraryAsks hphase hes => exact hs
  | libraryRuns code hphase => exact hs
  | libraryHears hphase hnext => exact hs
  | moveEnds hphase => exact hs
  | @driveHandles d e rest drive out es result hd hnext hrun hes =>
    obtain ⟨drive', out', hrun', hhandled⟩ := processMessageQ_handled (s.drives d) e.msg result
    cases hrun.symm.trans hrun'
    exact hupdate d drive (hhandled.sound (hs d hd))
  | @driveObeys d es command hd hes => exact hupdate d _ ((hs d hd).host command)
  | @driveRestarts d hd => exact hupdate d _ fun _ => rfl
  | userSends user rcv_id text hlibrary hdrive hes => exact hs
  | userReads hlib hdrive hnext => exact hs

/-- The messages sent in a run. -/
def sentIn (ls : List Event) : List Envelope := ls.flatMap Event.sent

/-- How many answers a request got in a run. -/
def answersTo (n : ℕ) (ls : List Event) : ℕ :=
  (sentIn ls).countP fun a => decide (a.answers = some n)

/-- The request has an answer from the drive to the sender. -/
def AnswerSent (x : Envelope) (ls : List Event) : Prop :=
  ∃ a ∈ sentIn ls, a.answers = some x.serial ∧ a.rcv_id = x.msg.snd_id ∧ a.msg.snd_id = x.rcv_id

/-- The record of a run agrees with its last state. -/
structure Recorded (P : Parties) (s : System) (ls : List Event) : Prop where
  /-- Numbers were given out in order. -/
  old : ∀ x ∈ sentIn ls, x.serial < s.posted ∧ ∀ n, x.answers = some n → n < s.posted
  /-- A number belongs to one message. -/
  distinct : ∀ x ∈ sentIn ls, ∀ y ∈ sentIn ls, x.serial = y.serial → x = y
  /-- Requests that wait were sent in the run. -/
  requests : ∀ d ∈ P.drive_ids, ∀ x ∈ s.inbox d, Request x.msg.text → x ∈ sentIn ls ∧ x.rcv_id = d
  /-- Requests wait without an answer, or have one. -/
  once : ∀ x ∈ sentIn ls, x.rcv_id ∈ P.drive_ids → Request x.msg.text →
    x ∈ s.inbox x.rcv_id ∧ answersTo x.serial ls = 0 ∨
      x ∉ s.inbox x.rcv_id ∧ answersTo x.serial ls = 1 ∧ AnswerSent x ls

/-- The messages of one more step. -/
theorem sentIn_append (ls : List Event) (l : Event) : sentIn (ls ++ [l]) = sentIn ls ++ l.sent := by
  simp [sentIn]

/-- The answers of one more step. -/
theorem answersTo_append (n : ℕ) (ls : List Event) (l : Event) :
    answersTo n (ls ++ [l]) =
      answersTo n ls + l.sent.countP fun a => decide (a.answers = some n) := by
  simp [answersTo, sentIn_append]

/-- Messages without the answer do not count. -/
theorem countP_eq_zero {es : List Envelope} {n : ℕ} (h : ∀ a ∈ es, a.answers ≠ some n) :
    (es.countP fun a => decide (a.answers = some n)) = 0 := by
  rw [List.countP_eq_zero]
  intro a ha
  simpa using h a ha

/-- Every step keeps the record, when the drives know their library. -/
theorem Recorded.step (hs : Numbered s) (hrec : Recorded P s ls) (h : ProtocolStep P s l s')
    (hknown : l.Known s) : Recorded P s' (ls ++ [l]) := by
  have hq := h.queues
  have hposted := hq.posted
  have hnum' := hs.step hq
  -- an answer is one to a message that was taken from a drive's queue
  have hanswer : ∀ a ∈ l.sent, ∀ n, a.answers = some n → ∃ d e, d ∈ P.drive_ids ∧
      l.took P = some (d, e) ∧ e ∈ s.inbox d ∧ Request e.msg.text ∧ e.serial = n := by
    intro a ha n hn
    rcases h.answering hknown with ⟨d, e, a', rfl, hreq, hans, _⟩ | ⟨hnone, _⟩
    · cases h with
      | driveHandles result hd hnext hrun hes =>
        have hmem : e ∈ s.inbox d := hnext ▸ List.mem_cons_self
        cases List.mem_singleton.mp ha
        rw [hans, Option.some.injEq] at hn
        exact ⟨d, e, hd, rfl, hmem, hreq, hn⟩
    · rw [hnone a ha] at hn
      cases hn
  -- no step answers a message that it sends, or one that was answered
  have hquiet : ∀ x, x ∈ sentIn ls → x.rcv_id ∈ P.drive_ids →
      l.took P ≠ some (x.rcv_id, x) → ∀ a ∈ l.sent, a.answers ≠ some x.serial := by
    intro x hx hd hne a ha hans
    obtain ⟨d, e, hde, htook, hmem, hreq, hserial⟩ := hanswer a ha x.serial hans
    obtain ⟨hsent, hrcv⟩ := hrec.requests d hde e hmem hreq
    cases hrec.distinct e hsent x hx hserial
    rw [hrcv] at hne
    exact hne htook
  constructor
  · intro x hx
    rw [sentIn_append, List.mem_append] at hx
    rcases hx with hx | hx
    · obtain ⟨hold, hans⟩ := hrec.old x hx
      refine ⟨by omega, fun n hn => ?_⟩
      have := hans n hn
      omega
    · refine ⟨(hq.fresh x hx).2, fun n hn => ?_⟩
      obtain ⟨d, e, _, _, hmem, _, rfl⟩ := hanswer x hx n hn
      have := hs.old d e hmem
      omega
  · intro x hx y hy heq
    rw [sentIn_append, List.mem_append] at hx hy
    rcases hx with hx | hx
    · rcases hy with hy | hy
      · exact hrec.distinct x hx y hy heq
      · have := (hrec.old x hx).1
        have := (hq.fresh y hy).1
        omega
    · rcases hy with hy | hy
      · have := (hrec.old y hy).1
        have := (hq.fresh x hx).1
        omega
      · exact List.inj_on_of_nodup_map hq.distinct hx hy heq
  · intro d hd x hx hreq
    rw [sentIn_append, List.mem_append]
    rcases hq.mem_cases hx with hx | ⟨hx, hrcv⟩
    · obtain ⟨hsent, hrcv⟩ := hrec.requests d hd x hx hreq
      exact ⟨Or.inl hsent, hrcv⟩
    · exact ⟨Or.inr hx, hrcv⟩
  · intro x hx hd hreq
    rw [sentIn_append, List.mem_append] at hx
    rw [answersTo_append]
    rcases hx with hx | hx
    · have hold := (hrec.old x hx).1
      have hgone : x ∉ s.inbox x.rcv_id → x ∉ s'.inbox x.rcv_id := by
        intro hnot hin
        rcases hq.mem_cases hin with hin | ⟨hin, _⟩
        · exact hnot hin
        · have := (hq.fresh x hin).1
          omega
      by_cases htook : l.took P = some (x.rcv_id, x)
      · obtain ⟨rest, hnew, ⟨_, hnone⟩ | ⟨e, htook', hold'⟩⟩ := hq.inbox x.rcv_id
        · exact absurd htook (hnone x)
        cases htook.symm.trans htook'
        have hin : x ∈ s.inbox x.rcv_id := hold' ▸ List.mem_cons_self
        have hnodup := hs.nodup x.rcv_id
        rw [hold', List.nodup_cons] at hnodup
        have hzero : answersTo x.serial ls = 0 := by
          rcases hrec.once x hx hd hreq with ⟨_, hzero⟩ | ⟨hnot, _⟩
          · exact hzero
          · exact absurd hin hnot
        right
        constructor
        · intro hin'
          rw [hnew, List.mem_append, List.mem_filter] at hin'
          rcases hin' with hin' | ⟨hin', _⟩
          · exact hnodup.1 hin'
          · have := (hq.fresh x hin').1
            omega
        · rcases h.answering hknown with ⟨d, e, a, rfl, _, hans, hto, hfrom⟩ | ⟨_, hsilent⟩
          · cases htook
            refine ⟨by simp [Event.sent, hans, hzero], a, ?_, hans, hto, hfrom⟩
            rw [sentIn_append]
            exact List.mem_append_right _ List.mem_cons_self
          · exact absurd hreq (hsilent _ hd x htook)
      · rw [countP_eq_zero (hquiet x hx hd htook)]
        rcases hrec.once x hx hd hreq with ⟨hin, hzero⟩ | ⟨hnot, hone, a, ha, hsent⟩
        · rcases hq.stays_or_taken hin with hstays | htaken
          · exact Or.inl ⟨hstays, hzero⟩
          · exact absurd htaken htook
        · refine Or.inr ⟨hgone hnot, hone, a, ?_, hsent⟩
          rw [sentIn_append]
          exact List.mem_append_left _ ha
    · have hnew := (hq.fresh x hx).1
      left
      refine ⟨hq.arrives hx, ?_⟩
      rw [countP_eq_zero, Nat.add_zero]
      · apply countP_eq_zero
        intro a ha hans
        have := (hrec.old a ha).2 _ hans
        omega
      · intro a ha hans
        obtain ⟨d, e, _, _, hmem, _, hserial⟩ := hanswer a ha _ hans
        have := hs.old d e hmem
        omega

end Mhvtl
