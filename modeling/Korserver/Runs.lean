import Mathlib.Logic.Basic

/-!
Runs of a deterministic step function over a list of inputs, and properties that hold
after every single step.
-/

namespace Runs

variable {State Input : Type}

def run (step : State → Input → State) : State → List Input → State
  | state, [] => state
  | state, input :: rest => run step (step state input) rest

/-- `holds` is true of every step of the run, read on the state before it. -/
def Throughout (step : State → Input → State) (holds : State → Input → Prop) :
    State → List Input → Prop
  | _, [] => True
  | state, input :: rest => holds state input ∧ Throughout step holds (step state input) rest

instance decidableThroughout (step : State → Input → State) (holds : State → Input → Prop)
    [∀ state input, Decidable (holds state input)] :
    ∀ state inputs, Decidable (Throughout step holds state inputs)
  | _, [] => isTrue trivial
  | state, input :: rest =>
      have := decidableThroughout step holds (step state input) rest
      inferInstanceAs (Decidable (holds state input ∧ Throughout step holds (step state input) rest))

/-- `after` is true after every step of the run, of its input and the state it reached. -/
def AfterEach (step : State → Input → State) (after : State → Input → Prop) :
    State → List Input → Prop :=
  Throughout step fun state input => after (step state input) input

theorem run_append (step : State → Input → State) (state : State) (first second : List Input) :
    run step state (first ++ second) = run step (run step state first) second := by
  induction first generalizing state with
  | nil => rfl
  | cons input rest ih => exact ih (step state input)

theorem run_invariant (step : State → Input → State) (invariant : State → Prop)
    (preserves : ∀ state input, invariant state → invariant (step state input))
    (state : State) (inputs : List Input) (initial : invariant state) :
    invariant (run step state inputs) := by
  induction inputs generalizing state with
  | nil => exact initial
  | cons input rest ih => exact ih (step state input) (preserves state input initial)

/-- An invariant that every step keeps of which `holds` is true. -/
theorem run_throughout {step : State → Input → State} {invariant : State → Prop}
    {holds : State → Input → Prop}
    (preserves : ∀ state input, invariant state → holds state input → invariant (step state input))
    {state : State} {inputs : List Input} (initial : invariant state)
    (each : Throughout step holds state inputs) : invariant (run step state inputs) := by
  induction inputs generalizing state with
  | nil => exact initial
  | cons input rest ih => exact ih (preserves state input initial each.1) each.2

theorem afterEach_of_throughout {step : State → Input → State} {invariant : State → Prop}
    {holds after : State → Input → Prop}
    (preserves : ∀ state input, invariant state → holds state input → invariant (step state input))
    (implies : ∀ state input, invariant state → after state input)
    {state : State} {inputs : List Input} (initial : invariant state)
    (each : Throughout step holds state inputs) : AfterEach step after state inputs := by
  induction inputs generalizing state with
  | nil => trivial
  | cons input rest ih =>
      have kept := preserves state input initial each.1
      exact ⟨implies _ input kept, ih kept each.2⟩

theorem throughout_of_invariant {step : State → Input → State} {invariant : State → Prop}
    {holds : State → Input → Prop}
    (preserves : ∀ state input, invariant state → invariant (step state input))
    (implies : ∀ state input, invariant state → holds state input)
    {state : State} (initial : invariant state) (inputs : List Input) :
    Throughout step holds state inputs := by
  induction inputs generalizing state with
  | nil => trivial
  | cons input rest ih => exact ⟨implies state input initial, ih (preserves state input initial)⟩

theorem throughout_append (step : State → Input → State) (holds : State → Input → Prop)
    (state : State) (first second : List Input) :
    Throughout step holds state (first ++ second) ↔
      Throughout step holds state first ∧ Throughout step holds (run step state first) second := by
  induction first generalizing state with
  | nil => simp [Throughout, run]
  | cons input rest ih => simp only [List.cons_append, Throughout, run, ih, and_assoc]

theorem Throughout.and {step : State → Input → State} {first second : State → Input → Prop}
    {state : State} {inputs : List Input} (left : Throughout step first state inputs)
    (right : Throughout step second state inputs) :
    Throughout step (fun state input => first state input ∧ second state input) state inputs := by
  induction inputs generalizing state with
  | nil => trivial
  | cons input rest ih => exact ⟨⟨left.1, right.1⟩, ih left.2 right.2⟩

theorem throughout_congr {step : State → Input → State} {kind holds holds' : State → Input → Prop}
    (agree : ∀ state input, kind state input → (holds state input ↔ holds' state input))
    {state : State} {inputs : List Input} (kinds : Throughout step kind state inputs) :
    Throughout step holds state inputs ↔ Throughout step holds' state inputs := by
  induction inputs generalizing state with
  | nil => exact Iff.rfl
  | cons input rest ih =>
      obtain ⟨first, others⟩ := kinds
      simp only [Throughout]
      rw [agree state input first, ih others]

theorem throughout_iff {step : State → Input → State} {holds holds' : State → Input → Prop}
    (agree : ∀ state input, holds state input ↔ holds' state input) (state : State) (inputs : List Input) :
    Throughout step holds state inputs ↔ Throughout step holds' state inputs := by
  induction inputs generalizing state with
  | nil => exact Iff.rfl
  | cons input rest ih => rw [Throughout, Throughout, agree, ih]

/-- When a step keeps the verdict exactly where `holds` is true of it, the verdict after a run
is the verdict before it and that `holds` was true throughout. -/
theorem run_iff {step : State → Input → State} {invariant verdict : State → Prop}
    {holds : State → Input → Prop}
    (preserves : ∀ state input, invariant state → invariant (step state input))
    (each : ∀ state input, invariant state →
      (verdict (step state input) ↔ verdict state ∧ holds state input))
    {state : State} {inputs : List Input} (initial : invariant state) :
    verdict (run step state inputs) ↔ verdict state ∧ Throughout step holds state inputs := by
  induction inputs generalizing state with
  | nil => simp [run, Throughout]
  | cons input rest ih =>
      rw [run, ih (preserves state input initial), each state input initial, Throughout, and_assoc]

end Runs
