import Mathlib.Tactic.Common

/-!
# Runs of a transition system

A labelled step relation `step s o s'` over any states and labels, its runs, and the induction that turns what
one step preserves into what every run preserves (`Run.invariant`).  `Run.of_foldlM` makes a run of an execution.
-/

namespace Transition

variable {S O : Type*}

/-- A run from the first state to the last one, with the labels of its steps in order. -/
inductive Run (step : S → O → S → Prop) : S → List O → S → Prop
  | refl (s : S) : Run step s [] s
  | snoc {s s' s'' : S} {ops : List O} {o : O} :
      Run step s ops s' → step s' o s'' → Run step s (ops ++ [o]) s''

variable {step : S → O → S → Prop} {s s' : S} {ops : List O}

/-- What holds at the start and is preserved by every step with an allowed label holds at the end of every run
with allowed labels. -/
theorem Run.invariant_of_labels {I : S → Prop} {P : O → Prop}
    (hstep : ∀ s o s', P o → I s → step s o s' → I s') (h : Run step s ops s') (hops : ∀ o ∈ ops, P o)
    (h0 : I s) : I s' := by
  induction h with
  | refl => exact h0
  | snoc _ hlast ih =>
    exact hstep _ _ _ (hops _ (by simp)) (ih fun o ho => hops o (by simp [ho])) hlast

/-- What holds at the start and is preserved by every step holds at the end of every run. -/
theorem Run.invariant {I : S → Prop} (hstep : ∀ s o s', I s → step s o s' → I s') (h : Run step s ops s')
    (h0 : I s) : I s' :=
  h.invariant_of_labels (P := fun _ => True) (fun s o s' _ => hstep s o s') (fun _ _ => trivial) h0

theorem Run.cons {s'' : S} {o : O} (hstep : step s o s') (h : Run step s' ops s'') : Run step s (o :: ops) s'' := by
  induction h with
  | refl => exact .snoc (.refl s) hstep
  | snoc _ hlast ih => exact .snoc ih hlast

/-- Where the steps are those of a partial function, it can be run. -/
theorem Run.of_foldlM {exec : S → O → Option S} (h : ops.foldlM exec s = some s') :
    Run (fun s o s' => exec s o = some s') s ops s' := by
  induction ops generalizing s with
  | nil =>
    cases h
    exact .refl _
  | cons o ops ih =>
    rw [List.foldlM_cons] at h
    obtain ⟨s₁, hstep, hrest⟩ := Option.bind_eq_some_iff.1 h
    exact .cons hstep (ih hrest)

theorem Run.mono {step' : S → O → S → Prop} (hstep : ∀ s o s', step s o s' → step' s o s') (h : Run step s ops s') :
    Run step' s ops s' := by
  induction h with
  | refl => exact .refl _
  | snoc _ hlast ih => exact .snoc ih (hstep _ _ _ hlast)

/-- The same for a function that is run under a condition on each step. -/
theorem Run.of_foldlM_guarded {exec : S → O → Option S} {P : S → O → Prop} [∀ s o, Decidable (P s o)]
    (h : ops.foldlM (fun s o => if P s o then exec s o else none) s = some s') :
    Run (fun s o s' => P s o ∧ exec s o = some s') s ops s' := by
  refine (Run.of_foldlM h).mono fun s o s' hstep => ?_
  split at hstep
  · next hP => exact ⟨hP, hstep⟩
  · cases hstep

end Transition
