import HsmSimulator.Library.Traces

/-!
# Inputs that leave no trace

A view of the state hides what some inputs change.  If the other inputs are answered in the
view as they are in the state, and lead to the view of the next state, then a run without the
hidden inputs gives the other inputs the answers they got, and ends in the same view.
-/

universe u v w x

namespace Runs

variable {σ : Type u} {ι : Type v} {ο : Type w}

/-- The view hides what the hidden inputs change, and nothing that the other inputs use. -/
structure Conceals (step : σ → ι → σ × ο) (Invariant : σ → Prop) (view : σ → σ)
    (hidden : ι → Bool) : Prop where
  keeps : ∀ state input, Invariant state → Invariant (step state input).1
  unseen : ∀ state input, Invariant state → hidden input = true →
    view (step state input).1 = view state
  seen : ∀ state input, Invariant state → hidden input = false →
    step (view state) input = (view (step state input).1, (step state input).2)

namespace Conceals

variable {step : σ → ι → σ × ο} {Invariant : σ → Prop} {view : σ → σ} {hidden : ι → Bool}

/-- Two states with one view answer an input that is not hidden alike. -/
theorem alike (conceals : Conceals step Invariant view hidden) {left right : σ} {input : ι}
    (leftHolds : Invariant left) (rightHolds : Invariant right) (same : view left = view right)
    (shown : hidden input = false) :
    (step left input).2 = (step right input).2 ∧
      view (step left input).1 = view (step right input).1 := by
  have fromLeft := conceals.seen left input leftHolds shown
  have fromRight := conceals.seen right input rightHolds shown
  rw [same, fromRight, Prod.mk.injEq] at fromLeft
  exact ⟨fromLeft.2.symm, fromLeft.1.symm⟩

/-- The hidden inputs of a run can be left out. -/
theorem erased_run (conceals : Conceals step Invariant view hidden) {left right : σ}
    (leftHolds : Invariant left) (rightHolds : Invariant right) (same : view left = view right)
    (inputs : List ι) :
    (trace step left inputs).filter (fun event => !hidden event.1) =
        trace step right (inputs.filter fun input => !hidden input) ∧
      view (final step left inputs) =
        view (final step right (inputs.filter fun input => !hidden input)) := by
  induction inputs generalizing left right with
  | nil => exact ⟨rfl, same⟩
  | cons input rest ih =>
      have leftNext := conceals.keeps left input leftHolds
      cases isHidden : hidden input with
      | true =>
          have unchanged := conceals.unseen left input leftHolds isHidden
          simpa [isHidden] using ih leftNext rightHolds (unchanged.trans same)
      | false =>
          obtain ⟨outputs, views⟩ := conceals.alike leftHolds rightHolds same isHidden
          obtain ⟨traces, ends⟩ := ih leftNext (conceals.keeps right input rightHolds) views
          simp [isHidden, traces, outputs, ends]

end Conceals

end Runs
