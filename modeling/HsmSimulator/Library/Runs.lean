import Mathlib

/-!
# Runs of a deterministic reactive system

A system answers every input with an output and a next state.  A run is a list of
inputs.  The file supplies the induction principles that the proofs about runs
use: an invariant of one step is an invariant of every run, also when each step
is taken under a side condition, and a relation that one input preserves with
equal outputs gives two runs with the same outputs.

A history variable is a value that each step updates from the state before it and
its input; it is carried along a run without influencing it.
-/

universe u v w x

namespace Runs

variable {σ : Type u} {ι : Type v} {ο : Type w} {γ : Type x}

/-- State after a run. -/
def final (step : σ → ι → σ × ο) : σ → List ι → σ
  | state, [] => state
  | state, input :: rest => final step (step state input).1 rest

/-- Outputs of a run, in order. -/
def outputs (step : σ → ι → σ × ο) : σ → List ι → List ο
  | _, [] => []
  | state, input :: rest => (step state input).2 :: outputs step (step state input).1 rest

/-- Every step of the run is taken under the side condition. -/
def Along (step : σ → ι → σ × ο) (condition : σ → ι → Prop) : σ → List ι → Prop
  | _, [] => True
  | state, input :: rest => condition state input ∧ Along step condition (step state input).1 rest

@[simp]
theorem final_nil (step : σ → ι → σ × ο) (state : σ) : final step state [] = state :=
  rfl

@[simp]
theorem final_cons (step : σ → ι → σ × ο) (state : σ) (input : ι) (rest : List ι) :
    final step state (input :: rest) = final step (step state input).1 rest :=
  rfl

theorem final_append (step : σ → ι → σ × ο) (state : σ) (first second : List ι) :
    final step state (first ++ second) = final step (final step state first) second := by
  induction first generalizing state with
  | nil => rfl
  | cons input rest ih => exact ih _

theorem outputs_append (step : σ → ι → σ × ο) (state : σ) (first second : List ι) :
    outputs step state (first ++ second) =
      outputs step state first ++ outputs step (final step state first) second := by
  induction first generalizing state with
  | nil => rfl
  | cons input rest ih => simp [outputs, ih]

theorem along_append (step : σ → ι → σ × ο) (condition : σ → ι → Prop) (state : σ)
    (first second : List ι) :
    Along step condition state (first ++ second) ↔
      Along step condition state first ∧
        Along step condition (final step state first) second := by
  induction first generalizing state with
  | nil => simp [Along]
  | cons input rest ih => simp [Along, ih, and_assoc]

theorem along_true (step : σ → ι → σ × ο) (state : σ) (inputs : List ι) :
    Along step (fun _ _ => True) state inputs := by
  induction inputs generalizing state with
  | nil => trivial
  | cons input rest ih => exact ⟨trivial, ih _⟩

theorem along_of_forall {step : σ → ι → σ × ο} {condition : σ → ι → Prop} {inputs : List ι}
    (holds : ∀ input ∈ inputs, ∀ state, condition state input) (state : σ) :
    Along step condition state inputs := by
  induction inputs generalizing state with
  | nil => trivial
  | cons input rest ih =>
      constructor
      · exact holds input List.mem_cons_self state
      · exact ih (fun other member => holds other (List.mem_cons_of_mem _ member)) _

theorem Along.mono {step : σ → ι → σ × ο} {strong weak : σ → ι → Prop}
    (weaken : ∀ state input, strong state input → weak state input) {state : σ}
    {inputs : List ι} (along : Along step strong state inputs) :
    Along step weak state inputs := by
  induction inputs generalizing state with
  | nil => trivial
  | cons input rest ih => exact ⟨weaken _ _ along.1, ih along.2⟩

theorem Along.and {step : σ → ι → σ × ο} {condition other : σ → ι → Prop} {state : σ}
    {inputs : List ι} (first : Along step condition state inputs)
    (second : Along step other state inputs) :
    Along step (fun state input => condition state input ∧ other state input) state inputs := by
  induction inputs generalizing state with
  | nil => trivial
  | cons input rest ih => exact ⟨⟨first.1, second.1⟩, ih first.2 second.2⟩

/-- A property that every admitted step preserves holds at the end of an
admitted run. -/
theorem invariant_along {step : σ → ι → σ × ο} {condition : σ → ι → Prop} {Invariant : σ → Prop}
    (preserved : ∀ state input, Invariant state → condition state input →
      Invariant (step state input).1)
    {state : σ} {inputs : List ι} (initial : Invariant state)
    (along : Along step condition state inputs) : Invariant (final step state inputs) := by
  induction inputs generalizing state with
  | nil => exact initial
  | cons input rest ih => exact ih (preserved state input initial along.1) along.2

/-- A property that every step preserves holds at the end of every run. -/
theorem invariant_run {step : σ → ι → σ × ο} {Invariant : σ → Prop}
    (preserved : ∀ state input, Invariant state → Invariant (step state input).1)
    {state : σ} (initial : Invariant state) (inputs : List ι) :
    Invariant (final step state inputs) := by
  induction inputs generalizing state with
  | nil => exact initial
  | cons input rest ih => exact ih (preserved state input initial)

/-- Two runs on the same inputs from related states give the same outputs and
end in related states. -/
theorem related_run {step : σ → ι → σ × ο} {condition : σ → ι → Prop} {Related : σ → σ → Prop}
    (preserved : ∀ left right input, Related left right → condition left input →
      (step left input).2 = (step right input).2 ∧
        Related (step left input).1 (step right input).1)
    {left right : σ} {inputs : List ι} (initial : Related left right)
    (along : Along step condition left inputs) :
    outputs step left inputs = outputs step right inputs ∧
      Related (final step left inputs) (final step right inputs) := by
  induction inputs generalizing left right with
  | nil => exact ⟨rfl, initial⟩
  | cons input rest ih =>
      obtain ⟨same, related⟩ := preserved left right input initial along.1
      obtain ⟨sameRest, relatedRest⟩ := ih related along.2
      exact ⟨by simp [outputs, same, sameRest], relatedRest⟩

/-! ## History variables -/

/-- Value of a history variable after a run: each step updates it from the state it
starts in and its input. -/
def history (step : σ → ι → σ × ο) (update : γ → σ → ι → γ) : γ → σ → List ι → γ
  | value, _, [] => value
  | value, state, input :: rest =>
      history step update (update value state input) (step state input).1 rest

@[simp]
theorem history_nil (step : σ → ι → σ × ο) (update : γ → σ → ι → γ) (value : γ) (state : σ) :
    history step update value state [] = value :=
  rfl

@[simp]
theorem history_cons (step : σ → ι → σ × ο) (update : γ → σ → ι → γ) (value : γ) (state : σ)
    (input : ι) (rest : List ι) :
    history step update value state (input :: rest) =
      history step update (update value state input) (step state input).1 rest :=
  rfl

/-- A relation between the state and a history variable that every admitted step
preserves holds at the end of an admitted run. -/
theorem history_invariant {step : σ → ι → σ × ο} {update : γ → σ → ι → γ}
    {condition : σ → ι → Prop} {Invariant : σ → γ → Prop}
    (preserved : ∀ state value input, Invariant state value → condition state input →
      Invariant (step state input).1 (update value state input))
    {state : σ} {value : γ} {inputs : List ι} (initial : Invariant state value)
    (along : Along step condition state inputs) :
    Invariant (final step state inputs) (history step update value state inputs) := by
  induction inputs generalizing state value with
  | nil => exact initial
  | cons input rest ih => exact ih (preserved state value input initial along.1) along.2

end Runs
