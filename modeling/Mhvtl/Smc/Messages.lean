import Mhvtl.Lib.CString

/-!
# Messages and their handlers

A daemon tries its handlers one after the other on the start of a message's text.
When no handler's text starts another's, at most one of them runs.
-/

namespace Mhvtl

/-- Longest text of a message. -/
def MAXTEXTLEN : ℕ := 1024

/-- `struct q_msg`, a message with its sender. -/
structure QMsg where
  /-- Queue of the sender. -/
  snd_id : ℕ
  /-- The text. -/
  text : Text
deriving DecidableEq

/-- How the texts start that a handler is for, and what it makes of the daemon's
state. It may answer the sender, and may be the end of the daemon. -/
abbrev Handler (S : Type) : Type := Text × (S → QMsg → Option (S × Option Text))

variable {S : Type} {msg : QMsg} {hs : List (Handler S)}

/-- Handle a message by all the handlers whose text it starts with. The answers
all go to the sender. -/
def runHandlers (msg : QMsg) : List (Handler S) → S → Option (S × List Text)
  | [], s => some (s, [])
  | (start, handler) :: rest, s =>
    if msg.text.strncmp start start.length then
      match handler s msg with
      | none => none
      | some (s, reply) => (runHandlers msg rest s).map fun r => (r.1, reply.toList ++ r.2)
    else
      runHandlers msg rest s

/-- No handler runs on a message that starts like none of them. -/
theorem runHandlers_none (h : ∀ x ∈ hs, ¬ x.1 <+: msg.text) (s : S) :
    runHandlers msg hs s = some (s, []) := by
  induction hs with
  | nil => rfl
  | cons x hs ih =>
    have hskip : ¬ msg.text.strncmp x.1 x.1.length = true := by
      rw [Text.strncmp_iff_prefix]
      exact h x List.mem_cons_self
    simp only [runHandlers, hskip]
    exact ih fun y hy => h y (List.mem_cons_of_mem _ hy)

/-- No handler's text starts another's. -/
def Unambiguous (hs : List (Handler S)) : Prop :=
  (hs.map Prod.fst).Pairwise fun a b => ¬ a <+: b ∧ ¬ b <+: a

instance : Decidable (Unambiguous hs) :=
  inferInstanceAs (Decidable (List.Pairwise (fun a b => ¬ a <+: b ∧ ¬ b <+: a) (hs.map Prod.fst)))

/-- The handler whose text a message starts with is the one that runs. -/
theorem runHandlers_of_mem (hs_starts : Unambiguous hs) {x : Handler S} (hx : x ∈ hs)
    (hpre : x.1 <+: msg.text) (s : S) :
    runHandlers msg hs s = (x.2 s msg).map fun r => (r.1, r.2.toList) := by
  induction hs with
  | nil => cases hx
  | cons y hs ih =>
    rw [Unambiguous, List.map_cons, List.pairwise_cons] at hs_starts
    rcases List.mem_cons.mp hx with rfl | hx
    · have hrest : ∀ z ∈ hs, ¬ z.1 <+: msg.text := by
        intro z hz hzpre
        have hne := hs_starts.1 z.1 (List.mem_map_of_mem hz)
        rcases List.prefix_or_prefix_of_prefix hpre hzpre with hxz | hzx
        · exact hne.1 hxz
        · exact hne.2 hzx
      have hrun : msg.text.strncmp x.1 x.1.length = true := Text.strncmp_iff_prefix.mpr hpre
      simp only [runHandlers, hrun, if_true]
      cases hres : x.2 s msg with
      | none => rfl
      | some r => simp [runHandlers_none hrest]
    · have hskip : ¬ msg.text.strncmp y.1 y.1.length = true := by
        rw [Text.strncmp_iff_prefix]
        intro hypre
        have hne := hs_starts.1 x.1 (List.mem_map_of_mem hx)
        rcases List.prefix_or_prefix_of_prefix hypre hpre with hyx | hxy
        · exact hne.1 hyx
        · exact hne.2 hxy
      simp only [runHandlers, hskip]
      exact ih hs_starts.2 hx

/-- One handler runs or none does. -/
theorem runHandlers_cases (hs_starts : Unambiguous hs) (s : S) :
    (∀ x ∈ hs, ¬ x.1 <+: msg.text) ∧ runHandlers msg hs s = some (s, []) ∨
      ∃ x ∈ hs, x.1 <+: msg.text ∧
        runHandlers msg hs s = (x.2 s msg).map fun r => (r.1, r.2.toList) := by
  by_cases h : ∃ x ∈ hs, x.1 <+: msg.text
  · obtain ⟨x, hx, hpre⟩ := h
    exact Or.inr ⟨x, hx, hpre, runHandlers_of_mem hs_starts hx hpre s⟩
  · have hnone : ∀ x ∈ hs, ¬ x.1 <+: msg.text := fun x hx hpre => h ⟨x, hx, hpre⟩
    exact Or.inl ⟨hnone, runHandlers_none hnone s⟩

end Mhvtl
