import HsmSimulator.Library.Runs

/-!
# Traces and monitors

The trace of a run is the list of its inputs, each with the output it got.  A monitor reads
a trace and never the state of the system.  If every step keeps a relation between the state
and what the monitor has noted, the relation holds after every run: the monitor knows of the
state what the relation says, from the outside.
-/

universe u v w x

namespace Runs

variable {σ : Type u} {ι : Type v} {ο : Type w} {γ : Type x}

/-- Inputs of a run with their outputs. -/
def trace (step : σ → ι → σ × ο) : σ → List ι → List (ι × ο)
  | _, [] => []
  | state, input :: rest =>
      (input, (step state input).2) :: trace step (step state input).1 rest

/-- What a monitor has noted at the end of a trace. -/
def observe (monitor : γ → ι → ο → γ) (noted : γ) (events : List (ι × ο)) : γ :=
  events.foldl (fun noted event => monitor noted event.1 event.2) noted

@[simp]
theorem trace_nil (step : σ → ι → σ × ο) (state : σ) : trace step state [] = [] :=
  rfl

@[simp]
theorem trace_cons (step : σ → ι → σ × ο) (state : σ) (input : ι) (rest : List ι) :
    trace step state (input :: rest) =
      (input, (step state input).2) :: trace step (step state input).1 rest :=
  rfl

@[simp]
theorem observe_nil (monitor : γ → ι → ο → γ) (noted : γ) : observe monitor noted [] = noted :=
  rfl

@[simp]
theorem observe_cons (monitor : γ → ι → ο → γ) (noted : γ) (event : ι × ο)
    (rest : List (ι × ο)) :
    observe monitor noted (event :: rest) =
      observe monitor (monitor noted event.1 event.2) rest :=
  rfl

/-- A relation between the state and what a monitor has noted that every step keeps holds
after every run. -/
theorem observe_run {step : σ → ι → σ × ο} {monitor : γ → ι → ο → γ} {Related : σ → γ → Prop}
    (kept : ∀ state noted input, Related state noted →
      Related (step state input).1 (monitor noted input (step state input).2))
    {state : σ} {noted : γ} (initial : Related state noted) (inputs : List ι) :
    Related (final step state inputs) (observe monitor noted (trace step state inputs)) := by
  induction inputs generalizing state noted with
  | nil => exact initial
  | cons input rest ih => exact ih (kept state noted input initial)

end Runs
