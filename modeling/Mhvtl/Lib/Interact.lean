import Mathlib.Logic.Basic

/-!
# Programs that talk to their surroundings

A program is a tree of actions, each answered before the next one is chosen.
Executions record the answers met on the way. A weakest precondition follows a
program through surroundings that keep a state of their own, say which actions
they put up with, and how they may answer.
-/

namespace Mhvtl

/-- A program of actions `A` answered in `B`, with a result in `R`. -/
inductive Interact (A : Type) (B : A → Type) (R : Type) : Type where
  /-- The program is over. -/
  | done (r : R) : Interact A B R
  /-- One action, and how to go on after its answer. -/
  | act (a : A) (k : B a → Interact A B R) : Interact A B R

namespace Interact

variable {A : Type} {B : A → Type} {R R' St : Type}

/-- Go on with the result of the first program. -/
def bind : Interact A B R → (R → Interact A B R') → Interact A B R'
  | done r, f => f r
  | act a k, f => act a fun b => (k b).bind f

instance : Monad (Interact A B) where
  pure := done
  bind := bind

/-- A single action. -/
def perform (a : A) : Interact A B (B a) := act a done

/-- An execution with the actions it took and their answers. -/
inductive Exec : Interact A B R → List (Sigma B) → R → Prop where
  /-- Nothing left to do. -/
  | done (r : R) : Exec (done r) [] r
  /-- One answered action and the rest. -/
  | act {a : A} {k : B a → Interact A B R} {b : B a} {tr : List (Sigma B)} {r : R}
      (rest : Exec (k b) tr r) : Exec (act a k) (⟨a, b⟩ :: tr) r

/-- Follow an execution to its result. -/
def replay [DecidableEq A] : Interact A B R → List (Sigma B) → Option R
  | done r, [] => some r
  | done _, _ :: _ => none
  | act _ _, [] => none
  | act a k, ⟨a', b⟩ :: tr => if h : a' = a then (k (h ▸ b)).replay tr else none

/-- What can be followed is an execution. -/
theorem Exec.of_replay [DecidableEq A] {p : Interact A B R} {tr : List (Sigma B)} {r : R}
    (h : p.replay tr = some r) : Exec p tr r := by
  induction p generalizing tr with
  | done r' =>
    cases tr with
    | nil =>
      cases h
      exact Exec.done r
    | cons e tr => cases h
  | act a k ih =>
    cases tr with
    | nil => cases h
    | cons e tr =>
      obtain ⟨a', b⟩ := e
      simp only [replay] at h
      split at h
      · rename_i heq
        subst heq
        exact Exec.act (ih b h)
      · cases h

/-- What surrounds a program: which actions are in order, and which answers an
action may get. -/
structure Surroundings (A : Type) (B : A → Type) (St : Type) where
  /-- The action is in order in this state. -/
  allows : St → A → Prop
  /-- The action may be answered so, which leaves the surroundings in the last state. -/
  answers : St → (a : A) → B a → St → Prop

/-- Every action of the program is in order, and every execution ends in `Q`. -/
def wp (Γ : Surroundings A B St) (Q : St → R → Prop) : Interact A B R → St → Prop
  | done r, s => Q s r
  | act a k, s => Γ.allows s a ∧ ∀ b s', Γ.answers s a b s' → wp Γ Q (k b) s'

section Rules

variable {Γ : Surroundings A B St}

/-- The rule of sequencing. -/
theorem wp_bind {Q : St → R' → Prop} {p : Interact A B R} {f : R → Interact A B R'} {s : St}
    (h : wp Γ (fun s' r => wp Γ Q (f r) s') p s) : wp Γ Q (p >>= f) s := by
  induction p generalizing s with
  | done r => exact h
  | act a k ih => exact ⟨h.1, fun b s' hb => ih b (h.2 b s' hb)⟩

/-- A weaker postcondition is easier to reach. -/
theorem wp_mono {Q Q' : St → R → Prop} {p : Interact A B R} {s : St} (h : wp Γ Q p s)
    (hQ : ∀ s r, Q s r → Q' s r) : wp Γ Q' p s := by
  induction p generalizing s with
  | done r => exact hQ s r h
  | act a k ih => exact ⟨h.1, fun b s' hb => ih b (h.2 b s' hb)⟩

end Rules

/-- The surroundings may answer an execution in this way. -/
inductive Surroundings.Admits (Γ : Surroundings A B St) : St → List (Sigma B) → St → Prop where
  /-- Nothing to answer. -/
  | nil (s : St) : Admits Γ s [] s
  /-- One answer and the rest. -/
  | cons {s s' s'' : St} {a : A} {b : B a} {tr : List (Sigma B)} (head : Γ.answers s a b s')
      (tail : Admits Γ s' tr s'') : Admits Γ s (⟨a, b⟩ :: tr) s''

/-- A weakest precondition is one of all executions the surroundings admit. -/
theorem Exec.of_wp {Γ : Surroundings A B St} {Q : St → R → Prop} {p : Interact A B R}
    {tr : List (Sigma B)} {r : R} (h : Exec p tr r) {s s' : St} (hadm : Γ.Admits s tr s')
    (hwp : wp Γ Q p s) : Q s' r := by
  induction h generalizing s with
  | done r =>
    cases hadm
    exact hwp
  | act rest ih =>
    cases hadm with
    | cons head tail => exact ih tail (hwp.2 _ _ head)

end Interact

end Mhvtl
