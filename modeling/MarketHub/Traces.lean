import Mathlib.Data.List.Basic
import Mathlib.Tactic

/-!
Runs of a partial step function.

* `trace step s events`: the steps of a run, each with the state before it and the state after it.
  The run ends at the first event that the step function refuses.
* `along_iff`: two properties of steps that agree as long as the run keeps an invariant hold along
  the same runs.
-/

namespace Traces

variable {σ ε : Type*}

/-- The steps of a run. -/
def trace (step : σ → ε → Option σ) : σ → List ε → List (σ × ε × σ)
  | _, [] => []
  | s, event :: events =>
      match step s event with
      | none => []
      | some s' => (s, event, s') :: trace step s' events

/-- The property holds of every step of the run. -/
def Along (step : σ → ε → Option σ) (P : σ → ε → σ → Prop) (s : σ) (events : List ε) : Prop :=
  ∀ x ∈ trace step s events, P x.1 x.2.1 x.2.2

variable {step : σ → ε → Option σ} {P Q : σ → ε → σ → Prop} {Inv : σ → Prop} {s s' : σ}
  {event : ε} {events : List ε}

@[simp] lemma along_nil : Along step P s [] := fun _ hx => absurd hx List.not_mem_nil

/-- A refused event ends the run. -/
lemma along_cons_of_none (h : step s event = none) : Along step P s (event :: events) := by
  intro x hx
  rw [trace, h] at hx
  cases hx

/-- One step, and those after it. -/
lemma along_cons_of_some (h : step s event = some s') :
    Along step P s (event :: events) ↔ P s event s' ∧ Along step P s' events := by
  rw [Along, trace, h]
  simp only [List.forall_mem_cons]
  exact Iff.rfl

/-- **Two properties of steps** that agree under an invariant, which the second one keeps, hold
along the same runs. -/
theorem along_iff
    (hiff : ∀ s event s', Inv s → step s event = some s' → (P s event s' ↔ Q s event s'))
    (hinv : ∀ s event s', Inv s → step s event = some s' → Q s event s' → Inv s')
    (hs : Inv s) : Along step P s events ↔ Along step Q s events := by
  induction events generalizing s with
  | nil => exact iff_of_true along_nil along_nil
  | cons event events ih =>
      cases h : step s event with
      | none => exact iff_of_true (along_cons_of_none h) (along_cons_of_none h)
      | some s' =>
          rw [along_cons_of_some h, along_cons_of_some h, hiff s event s' hs h]
          exact and_congr_right fun hQ => ih (hinv s event s' hs h hQ)

end Traces
