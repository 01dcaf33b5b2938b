import Mathlib.Data.List.Basic

/-!
# Runs of a labelled step relation

Finite runs with the labels met on the way. An invariant of the steps is one of
the runs, and a step-wise simulation carries whole runs over, label by label.
-/

namespace Mhvtl

variable {S T L : Type}

/-- A run from one state to another with the labels of its steps. -/
inductive Run (step : S → L → S → Prop) : S → List L → S → Prop where
  /-- No step. -/
  | nil (s : S) : Run step s [] s
  /-- One step and the rest of the run. -/
  | cons {s s' s'' : S} {l : L} {ls : List L} (head : step s l s') (tail : Run step s' ls s'') :
      Run step s (l :: ls) s''

namespace Run

variable {step : S → L → S → Prop} {astep : T → L → T → Prop}

/-- A run and one more step. -/
theorem concat {s s' s'' : S} {l : L} {ls : List L} (hrun : Run step s ls s') (h : step s' l s'') :
    Run step s (ls ++ [l]) s'' := by
  induction hrun with
  | nil s => exact cons h (nil s'')
  | cons head tail ih => exact cons head (ih h)

/-- Steps that can be computed, one after another. -/
theorem of_foldlM {f : S → L → Option S} {s s' : S} {ls : List L} (h : ls.foldlM f s = some s') :
    Run (fun s l s' => f s l = some s') s ls s' := by
  induction ls generalizing s with
  | nil =>
    obtain rfl := Option.some.inj (List.foldlM_nil.symm.trans h)
    exact nil _
  | cons l ls ih =>
    rw [List.foldlM_cons] at h
    obtain ⟨s₁, hs, hrest⟩ := Option.bind_eq_some_iff.mp h
    exact cons hs (ih hrest)

/-- What every step preserves, every run preserves. -/
theorem invariant {I : S → Prop} (h : ∀ s l s', I s → step s l s' → I s') {s s' : S} {ls : List L}
    (hrun : Run step s ls s') (hs : I s) : I s' := by
  induction hrun with
  | nil s => exact hs
  | cons head tail ih => exact ih (h _ _ _ hs head)

/-- A run of some steps is one of more steps. -/
theorem mono {step' : S → L → S → Prop} (h : ∀ s l s', step s l s' → step' s l s') {s s' : S}
    {ls : List L} (hrun : Run step s ls s') : Run step' s ls s' := by
  induction hrun with
  | nil s => exact nil s
  | cons head tail ih => exact cons (h _ _ _ head) ih

/-- A property of the state and of the labels so far, kept by every step. -/
theorem history {I : S → List L → Prop}
    (h : ∀ s ls l s', I s ls → step s l s' → I s' (ls ++ [l])) {s s' : S} {ls : List L}
    (hrun : Run step s ls s') {pre : List L} (hs : I s pre) : I s' (pre ++ ls) := by
  induction hrun generalizing pre with
  | nil s =>
    rw [List.append_nil]
    exact hs
  | cons head tail ih =>
    have htail := ih (h _ _ _ _ hs head)
    rwa [List.append_assoc] at htail

/-- A run up to a label, its step, and the run behind it. -/
theorem split {pre post : List L} {l : L} {s s' : S} (hrun : Run step s (pre ++ l :: post) s') :
    ∃ s₁ s₂, Run step s pre s₁ ∧ step s₁ l s₂ ∧ Run step s₂ post s' := by
  induction pre generalizing s with
  | nil =>
    cases hrun with
    | cons head tail => exact ⟨_, _, Run.nil s, head, tail⟩
  | cons p pre ih =>
    cases hrun with
    | cons head tail =>
      obtain ⟨s₁, s₂, hpre, hl, hpost⟩ := ih tail
      exact ⟨s₁, s₂, Run.cons head hpre, hl, hpost⟩

/-- A simulation of single steps is one of runs, with the same labels. -/
theorem simulate {R : S → T → Prop}
    (h : ∀ s t l s', R s t → step s l s' → ∃ t', astep t l t' ∧ R s' t')
    {s s' : S} {ls : List L} (hrun : Run step s ls s') {t : T} (ht : R s t) :
    ∃ t', Run astep t ls t' ∧ R s' t' := by
  induction hrun generalizing t with
  | nil s => exact ⟨t, Run.nil t, ht⟩
  | cons head tail ih =>
    obtain ⟨t₁, ha, hR⟩ := h _ _ _ _ ht head
    obtain ⟨t₂, hrest, hR₂⟩ := ih hR
    exact ⟨t₂, Run.cons ha hrest, hR₂⟩

end Run

end Mhvtl
