import Mhvtl.Smc.Protocol

/-!
# Queues in every run

A step takes one message at most from the front of one queue, and puts new messages
at the ends. So no message is lost, and a drive that answers each request once
when it handles it answers it once in the whole run.
-/

namespace Mhvtl

namespace System

variable {snd_id rcv_id n : ℕ} {answers : Option ℕ} {texts : List Text}

/-- Letters are as their sender made them. -/
theorem letters_mem {e : Envelope} (h : e ∈ letters snd_id rcv_id answers n texts) :
    e.rcv_id = rcv_id ∧ e.msg.snd_id = snd_id ∧ e.msg.text ∈ texts ∧ e.answers = answers ∧
      n ≤ e.serial ∧ e.serial < n + (letters snd_id rcv_id answers n texts).length := by
  induction texts generalizing n with
  | nil => cases h
  | cons text texts ih =>
    simp only [letters] at h ⊢
    split at h
    · rename_i hlen
      simp only [hlen, if_true, List.length_cons]
      rcases List.mem_cons.mp h with rfl | h
      · exact ⟨rfl, rfl, List.mem_cons_self, rfl, le_refl n, Nat.lt_add_of_pos_right (Nat.succ_pos _)⟩
      · obtain ⟨hrcv, hsnd, htext, hans, hge, hlt⟩ := ih h
        refine ⟨hrcv, hsnd, List.mem_cons_of_mem _ htext, hans, ?_, ?_⟩
        · omega
        · omega
    · rename_i hlen
      simp only [hlen, if_false]
      obtain ⟨hrcv, hsnd, htext, hrest⟩ := ih h
      exact ⟨hrcv, hsnd, List.mem_cons_of_mem _ htext, hrest⟩

/-- Letters have different numbers. -/
theorem letters_nodup :
    ((letters snd_id rcv_id answers n texts).map Envelope.serial).Nodup := by
  induction texts generalizing n with
  | nil => exact List.nodup_nil
  | cons text texts ih =>
    simp only [letters]
    split
    · rw [List.map_cons, List.nodup_cons]
      refine ⟨?_, ih⟩
      intro hmem
      obtain ⟨e, he, hserial⟩ := List.mem_map.mp hmem
      have hge := (letters_mem he).2.2.2.2.1
      rw [hserial] at hge
      exact Nat.not_succ_le_self n hge
    · exact ih

/-- A text that fits makes a letter. -/
theorem letters_singleton {text : Text} (h : text.length ≤ MAXTEXTLEN) :
    letters snd_id rcv_id answers n [text] = [⟨rcv_id, ⟨snd_id, text⟩, n, answers⟩] := by
  simp [letters, h]

end System

/-- The queue a step takes a message from, and the message. -/
def Event.took (P : Parties) : Event → Option (ℕ × Envelope)
  | .libraryHandles e _ => some (P.library_id, e)
  | .libraryHears e _ => some (P.library_id, e)
  | .driveHandles d e _ => some (d, e)
  | .userReads user e => some (user, e)
  | _ => none

/-- What a step does to the queues. -/
structure QueueStep (P : Parties) (s : System) (l : Event) (s' : System) : Prop where
  /-- Messages are counted. -/
  posted : s'.posted = s.posted + l.sent.length
  /-- New messages have new numbers. -/
  fresh : ∀ e ∈ l.sent, s.posted ≤ e.serial ∧ e.serial < s'.posted
  /-- No two new messages have the same number. -/
  distinct : (l.sent.map Envelope.serial).Nodup
  /-- A queue loses its first message or none, and gets the new ones. -/
  inbox : ∀ id, ∃ rest, s'.inbox id = rest ++ l.sent.filter (fun e => e.rcv_id == id) ∧
    (s.inbox id = rest ∧ (∀ e, l.took P ≠ some (id, e)) ∨
      ∃ e, l.took P = some (id, e) ∧ s.inbox id = e :: rest)

section

variable {P : Parties} {s s' : System} {l : Event}

/-- Letters are new messages. -/
theorem QueueStep.of_letters {snd_id rcv_id : ℕ} {answers : Option ℕ} {texts : List Text}
    {base : System} {took : Option (ℕ × Envelope)}
    (hsent : l.sent = System.letters snd_id rcv_id answers s.posted texts)
    (htook : l.took P = took) (hposted : base.posted = s.posted)
    (hbase : ∀ id, s.inbox id = base.inbox id ∧ (∀ e, took ≠ some (id, e)) ∨
      ∃ e, took = some (id, e) ∧ s.inbox id = e :: base.inbox id) :
    QueueStep P s l (base.deliver (System.letters snd_id rcv_id answers s.posted texts)) := by
  constructor
  · rw [hsent, ← hposted]
    rfl
  · intro e he
    rw [hsent] at he
    have hmem := System.letters_mem he
    refine ⟨hmem.2.2.2.2.1, ?_⟩
    rw [System.deliver, hposted]
    exact hmem.2.2.2.2.2
  · rw [hsent]
    exact System.letters_nodup
  · intro id
    refine ⟨base.inbox id, ?_, ?_⟩
    · rw [hsent]
      rfl
    · rw [htook]
      exact hbase id

/-- Taking the first message of a queue. -/
theorem taken_cases {id : ℕ} {e : Envelope} {rest : List Envelope} (hnext : s.inbox id = e :: rest)
    (id' : ℕ) : s.inbox id' = (s.taken id rest).inbox id' ∧ (∀ x, some (id, e) ≠ some (id', x)) ∨
      ∃ x, some (id, e) = some (id', x) ∧ s.inbox id' = x :: (s.taken id rest).inbox id' := by
  by_cases h : id' = id
  · subst h
    exact Or.inr ⟨e, rfl, by simp [System.taken, hnext]⟩
  · left
    constructor
    · simp [System.taken, h]
    · intro x hx
      cases hx
      exact h rfl

/-- A step that only takes a message. -/
theorem QueueStep.of_taken {id : ℕ} {e : Envelope} {rest : List Envelope}
    (hsent : l.sent = []) (htook : l.took P = some (id, e)) (hnext : s.inbox id = e :: rest)
    (hinbox : s'.inbox = (s.taken id rest).inbox) (hposted : s'.posted = s.posted) :
    QueueStep P s l s' := by
  constructor
  · rw [hsent, hposted]
    rfl
  · intro x hx
    rw [hsent] at hx
    cases hx
  · rw [hsent]
    exact List.nodup_nil
  · intro id'
    refine ⟨(s.taken id rest).inbox id', ?_, ?_⟩
    · rw [hsent, hinbox, List.filter_nil, List.append_nil]
    · rw [htook]
      exact taken_cases hnext id'

/-- A step that leaves the queues alone. -/
theorem QueueStep.of_quiet (hsent : l.sent = []) (htook : l.took P = none)
    (hinbox : s'.inbox = s.inbox) (hposted : s'.posted = s.posted) : QueueStep P s l s' := by
  constructor
  · rw [hsent, hposted]
    rfl
  · intro x hx
    rw [hsent] at hx
    cases hx
  · rw [hsent]
    exact List.nodup_nil
  · intro id
    refine ⟨s.inbox id, ?_, Or.inl ⟨rfl, ?_⟩⟩
    · rw [hsent, hinbox, List.filter_nil, List.append_nil]
    · intro e he
      rw [htook] at he
      cases he

/-- Steps of the parties are steps of the queues. -/
theorem ProtocolStep.queues (h : ProtocolStep P s l s') : QueueStep P s l s' := by
  cases h with
  | libraryHandles hphase hnext hrun hes =>
    subst hes
    exact QueueStep.of_letters rfl rfl rfl (taken_cases hnext)
  | libraryFails hphase hnext hrun => exact QueueStep.of_taken rfl rfl hnext rfl rfl
  | moveBegins cdb hphase => exact QueueStep.of_quiet rfl rfl rfl rfl
  | libraryAsks hphase hes =>
    subst hes
    exact QueueStep.of_letters rfl rfl rfl fun id => Or.inl ⟨rfl, fun e he => nomatch he⟩
  | libraryRuns code hphase => exact QueueStep.of_quiet rfl rfl rfl rfl
  | libraryHears hphase hnext => exact QueueStep.of_taken rfl rfl hnext rfl rfl
  | moveEnds hphase => exact QueueStep.of_quiet rfl rfl rfl rfl
  | driveHandles result hd hnext hrun hes =>
    subst hes
    exact QueueStep.of_letters rfl rfl rfl (taken_cases hnext)
  | driveObeys command hd hes =>
    subst hes
    exact QueueStep.of_letters rfl rfl rfl fun id => Or.inl ⟨rfl, fun e he => nomatch he⟩
  | driveRestarts hd => exact QueueStep.of_quiet rfl rfl rfl rfl
  | userSends user rcv_id text hlibrary hdrive hes =>
    subst hes
    exact QueueStep.of_letters rfl rfl rfl fun id => Or.inl ⟨rfl, fun e he => nomatch he⟩
  | userReads hlibrary hdrive hnext => exact QueueStep.of_taken rfl rfl hnext rfl rfl

/-- The messages under way are numbered and all different. -/
structure Numbered (s : System) : Prop where
  /-- Their numbers were used. -/
  old : ∀ id, ∀ e ∈ s.inbox id, e.serial < s.posted
  /-- No queue has a message twice. -/
  nodup : ∀ id, (s.inbox id).Nodup

/-- Every step keeps the messages numbered. -/
theorem Numbered.step (hs : Numbered s) (h : QueueStep P s l s') : Numbered s' := by
  have hrest : ∀ id, ∃ rest, s'.inbox id = rest ++ l.sent.filter (fun e => e.rcv_id == id) ∧
      rest.Nodup ∧ ∀ e ∈ rest, e.serial < s.posted := by
    intro id
    obtain ⟨rest, hnew, ⟨hold, _⟩ | ⟨e, _, hold⟩⟩ := h.inbox id
    · exact ⟨rest, hnew, hold ▸ hs.nodup id, fun x hx => hs.old id x (hold ▸ hx)⟩
    · have hnodup := hs.nodup id
      rw [hold, List.nodup_cons] at hnodup
      refine ⟨rest, hnew, hnodup.2, fun x hx => hs.old id x ?_⟩
      rw [hold]
      exact List.mem_cons_of_mem _ hx
  constructor
  · intro id e he
    obtain ⟨rest, hnew, _, hlt⟩ := hrest id
    rw [hnew, List.mem_append, List.mem_filter] at he
    rcases he with he | he
    · have := h.posted
      have := hlt e he
      omega
    · exact (h.fresh e he.1).2
  · intro id
    obtain ⟨rest, hnew, hnodup, hlt⟩ := hrest id
    rw [hnew, List.nodup_append]
    refine ⟨hnodup, (h.distinct.of_map _).filter _, ?_⟩
    rintro a ha b hb rfl
    have hold := hlt a ha
    have hfresh := (h.fresh a (List.mem_of_mem_filter hb)).1
    omega

/-- A message that leaves a queue was taken from it. -/
theorem QueueStep.stays_or_taken (h : QueueStep P s l s') {id : ℕ} {e : Envelope}
    (he : e ∈ s.inbox id) : e ∈ s'.inbox id ∨ l.took P = some (id, e) := by
  obtain ⟨rest, hnew, ⟨hold, _⟩ | ⟨x, htook, hold⟩⟩ := h.inbox id
  · rw [hold] at he
    rw [hnew]
    exact Or.inl (List.mem_append_left _ he)
  · rw [hold] at he
    rcases List.mem_cons.mp he with rfl | he
    · exact Or.inr htook
    · rw [hnew]
      exact Or.inl (List.mem_append_left _ he)

/-- A message that is sent is put into the queue of its receiver. -/
theorem QueueStep.arrives (h : QueueStep P s l s') {e : Envelope} (he : e ∈ l.sent) :
    e ∈ s'.inbox e.rcv_id := by
  obtain ⟨rest, hnew, _⟩ := h.inbox e.rcv_id
  rw [hnew]
  refine List.mem_append_right _ (List.mem_filter.mpr ⟨he, ?_⟩)
  simp

/-- A message in a queue was there before or is new. -/
theorem QueueStep.mem_cases (h : QueueStep P s l s') {id : ℕ} {e : Envelope}
    (he : e ∈ s'.inbox id) : e ∈ s.inbox id ∨ e ∈ l.sent ∧ e.rcv_id = id := by
  obtain ⟨rest, hnew, hrest⟩ := h.inbox id
  rw [hnew, List.mem_append, List.mem_filter] at he
  rcases he with he | he
  · left
    rcases hrest with ⟨hold, _⟩ | ⟨x, _, hold⟩
    · rwa [hold]
    · rw [hold]
      exact List.mem_cons_of_mem _ he
  · right
    refine ⟨he.1, ?_⟩
    simpa using he.2

/-- A queue from which nothing is taken and to which nothing is sent stays as it is. -/
theorem QueueStep.inbox_eq (h : QueueStep P s l s') {id : ℕ} (htook : ∀ e, l.took P ≠ some (id, e))
    (hsent : ∀ e ∈ l.sent, e.rcv_id ≠ id) : s'.inbox id = s.inbox id := by
  have hnone : l.sent.filter (fun e => e.rcv_id == id) = [] := by
    rw [List.filter_eq_nil_iff]
    intro e he
    simpa using hsent e he
  obtain ⟨rest, hnew, ⟨hold, _⟩ | ⟨e, htaken, _⟩⟩ := h.inbox id
  · rw [hnew, hnone, List.append_nil, hold]
  · exact absurd htaken (htook e)

/-- No message to the library is lost: it waits, or it was handled, or it was heard in a move. -/
theorem nothing_lost {ls : List Event} (hrun : Run (ProtocolStep P) s ls s') {e : Envelope}
    (he : e ∈ s.inbox P.library_id) :
    e ∈ s'.inbox P.library_id ∨ ∃ l ∈ ls, l.took P = some (P.library_id, e) := by
  induction hrun with
  | nil s => exact Or.inl he
  | cons head tail ih =>
    rcases head.queues.stays_or_taken he with hstays | htaken
    · rcases ih hstays with hin | ⟨l, hl, htook⟩
      · exact Or.inl hin
      · exact Or.inr ⟨l, List.mem_cons_of_mem _ hl, htook⟩
    · exact Or.inr ⟨_, List.mem_cons_self, htaken⟩

end

end Mhvtl
