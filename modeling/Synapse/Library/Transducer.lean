import Mathlib.Data.List.Basic
import Mathlib.Data.List.Range

/-!
# Transducers

A sequential program which blocks on its inputs is a deterministic transducer:
each input moves it to a next state and makes it emit a finite list of outputs.
This file gives the two projections of a run, the state reached and the outputs
emitted, how both are composed from the parts of the input stream, the runs which
never leave their state, a measure by which a machine comes to its end, invariants
which speak of what a run has emitted and seen, and the simulation of one machine by
another.
-/

universe u v w

/-- A deterministic machine emitting a list of outputs for each input. -/
structure Transducer (State : Type u) (Input : Type v) (Output : Type w) where
  step : State → Input → State × List Output

namespace Transducer

variable {State : Type u} {Input : Type v} {Output : Type w}

def stateAfter (machine : Transducer State Input Output) (state : State) : List Input → State
  | [] => state
  | input :: inputs => machine.stateAfter (machine.step state input).1 inputs

def output (machine : Transducer State Input Output) (state : State) :
    List Input → List Output
  | [] => []
  | input :: inputs =>
      (machine.step state input).2 ++ machine.output (machine.step state input).1 inputs

/-- Every step of a run has the property, which sees the state before the step and its input. -/
def EveryStep (machine : Transducer State Input Output) (property : State → Input → Prop)
    (state : State) : List Input → Prop
  | [] => True
  | input :: inputs =>
      property state input ∧ machine.EveryStep property (machine.step state input).1 inputs

variable (machine : Transducer State Input Output)

@[simp]
theorem stateAfter_nil (state : State) : machine.stateAfter state [] = state := rfl

@[simp]
theorem output_nil (state : State) : machine.output state [] = [] := rfl

theorem stateAfter_cons (state : State) (input : Input) (inputs : List Input) :
    machine.stateAfter state (input :: inputs) =
      machine.stateAfter (machine.step state input).1 inputs := rfl

theorem output_cons (state : State) (input : Input) (inputs : List Input) :
    machine.output state (input :: inputs) =
      (machine.step state input).2 ++ machine.output (machine.step state input).1 inputs := rfl

theorem stateAfter_append (state : State) (first second : List Input) :
    machine.stateAfter state (first ++ second) =
      machine.stateAfter (machine.stateAfter state first) second := by
  induction first generalizing state with
  | nil => rfl
  | cons input inputs ih => exact ih _

theorem output_append (state : State) (first second : List Input) :
    machine.output state (first ++ second) =
      machine.output state first ++ machine.output (machine.stateAfter state first) second := by
  induction first generalizing state with
  | nil => rfl
  | cons input inputs ih =>
      simp only [List.cons_append, output_cons, stateAfter_cons, ih, List.append_assoc]

theorem stateAfter_concat (state : State) (inputs : List Input) (input : Input) :
    machine.stateAfter state (inputs ++ [input]) =
      (machine.step (machine.stateAfter state inputs) input).1 := by
  rw [stateAfter_append, stateAfter_cons, stateAfter_nil]

theorem output_concat (state : State) (inputs : List Input) (input : Input) :
    machine.output state (inputs ++ [input]) =
      machine.output state inputs ++ (machine.step (machine.stateAfter state inputs) input).2 := by
  rw [output_append, output_cons, output_nil, List.append_nil]

theorem run_of_step {state next : State} {input : Input} {emitted : List Output}
    (stepEq : machine.step state input = (next, emitted)) (inputs : List Input) :
    machine.stateAfter state (input :: inputs) = machine.stateAfter next inputs ∧
      machine.output state (input :: inputs) = emitted ++ machine.output next inputs := by
  rw [stateAfter_cons, output_cons, stepEq]
  exact ⟨rfl, rfl⟩

/-- Inputs which do not move the machine and on which it emits nothing can be dropped. -/
theorem run_of_absorbing {state : State} {inputs : List Input}
    (absorbing : ∀ input ∈ inputs, machine.step state input = (state, [])) :
    machine.stateAfter state inputs = state ∧ machine.output state inputs = [] := by
  induction inputs with
  | nil => exact ⟨rfl, rfl⟩
  | cons input inputs ih =>
      rcases List.forall_mem_cons.mp absorbing with ⟨now, later⟩
      rw [stateAfter_cons, output_cons, now]
      exact ih later

/-! ## Endless sources -/

/-- The first inputs which an endless source delivers. -/
def firstInputs (source : ℕ → Input) (count : ℕ) : List Input :=
  (List.range count).map source

theorem firstInputs_succ (source : ℕ → Input) (count : ℕ) :
    firstInputs source (count + 1) = firstInputs source count ++ [source count] := by
  rw [firstInputs, List.range_succ, List.map_append]
  rfl

theorem length_firstInputs (source : ℕ → Input) (count : ℕ) :
    (firstInputs source count).length = count := by
  rw [firstInputs, List.length_map, List.length_range]

theorem firstInputs_const (input : Input) (count : ℕ) :
    firstInputs (fun _ => input) count = List.replicate count input := by
  rw [firstInputs, List.map_const', List.length_range]

/-! ## Machines which come to an end -/

/-- Inputs of one kind lower a measure until the machine has halted, the others do not raise it:
when as many inputs of the kind have come as the measure was, the machine has halted. -/
theorem halted_of_measure (halted invariant : State → Prop) (counts : Input → Bool)
    (measure : State → ℕ)
    (stays : ∀ state input, halted state → halted (machine.step state input).1)
    (keeps : ∀ state input, invariant state → invariant (machine.step state input).1)
    (positive : ∀ state, invariant state → ¬halted state → 0 < measure state)
    (lowers : ∀ state input, invariant state → ¬halted state →
      halted (machine.step state input).1 ∨
        measure (machine.step state input).1 + (if counts input then 1 else 0) ≤ measure state)
    {state : State} (initially : invariant state) {inputs : List Input}
    (enough : measure state ≤ inputs.countP counts) :
    halted (machine.stateAfter state inputs) := by
  have halts : ∀ (inputs : List Input) (state : State), invariant state →
      halted state ∨ measure state ≤ inputs.countP counts →
        halted (machine.stateAfter state inputs) := by
    intro inputs
    induction inputs with
    | nil =>
        intro state holds ends
        by_contra running
        have above := positive state holds running
        rcases ends with ended | enough
        · exact running ended
        · rw [List.countP_nil] at enough
          omega
    | cons input inputs ih =>
        intro state holds ends
        rw [stateAfter_cons]
        apply ih
        · exact keeps state input holds
        · by_cases ended : halted state
          · exact Or.inl (stays state input ended)
          · have enough := ends.resolve_left ended
            rcases lowers state input holds ended with endsNow | lower
            · exact Or.inl endsNow
            · right
              rw [List.countP_cons] at enough
              omega
  exact halts inputs state initially (Or.inr enough)

/-! ## Properties of every step -/

theorem everyStep_iff_of_invariant (invariant : State → Prop)
    {property condition : State → Input → Prop}
    (preserved : ∀ {state}, invariant state → ∀ input, invariant (machine.step state input).1)
    (same : ∀ {state}, invariant state → ∀ input, property state input ↔ condition state input)
    {state : State} (initially : invariant state) (inputs : List Input) :
    machine.EveryStep property state inputs ↔ machine.EveryStep condition state inputs := by
  induction inputs generalizing state with
  | nil => exact Iff.rfl
  | cons input inputs ih =>
      rw [EveryStep, EveryStep, same initially input, ih (preserved initially input)]

/-- An invariant may speak of everything which the run has emitted and has seen of its inputs, if
every step keeps it with what the step adds. -/
theorem run_invariant {Seen : Type*} (view : Input → Option Seen)
    (invariant : State → List Output → List Seen → Prop)
    (kept : ∀ {state emitted seen}, invariant state emitted seen → ∀ input,
      invariant (machine.step state input).1 (emitted ++ (machine.step state input).2)
        (seen ++ (view input).toList))
    {state : State} (initially : invariant state [] []) (inputs : List Input) :
    invariant (machine.stateAfter state inputs) (machine.output state inputs)
      (inputs.filterMap view) := by
  induction inputs using List.reverseRecOn with
  | nil => exact initially
  | append_singleton inputs input ih =>
      have after := kept ih input
      have viewed : [input].filterMap view = (view input).toList := by
        rw [List.filterMap_cons]
        cases view input <;> rfl
      rw [machine.stateAfter_concat, machine.output_concat, List.filterMap_append, viewed]
      exact after

/-! ## Simulation -/

section Simulation

variable {AbstractState : Type*} {AbstractInput : Type*} {AbstractOutput : Type*}
  {Observation : Type*}

/-- When every step is matched by the abstract machine on what it sees of the input, every run is:
the states stay related and the outputs are observed as the abstract ones. -/
theorem run_of_simulation (abstract : Transducer AbstractState AbstractInput AbstractOutput)
    (related : State → AbstractState → Prop) (view : Input → List AbstractInput)
    (observe : Output → List Observation) (meaning : AbstractOutput → Observation)
    (matched : ∀ {state model}, related state model → ∀ input,
      related (machine.step state input).1 (abstract.stateAfter model (view input)) ∧
        (machine.step state input).2.flatMap observe =
          (abstract.output model (view input)).map meaning)
    {state : State} {model : AbstractState} (initially : related state model)
    (inputs : List Input) :
    related (machine.stateAfter state inputs) (abstract.stateAfter model (inputs.flatMap view)) ∧
      (machine.output state inputs).flatMap observe =
        (abstract.output model (inputs.flatMap view)).map meaning := by
  induction inputs generalizing state model with
  | nil => exact ⟨initially, rfl⟩
  | cons input inputs ih =>
      rcases matched initially input with ⟨next, emitted⟩
      rcases ih next with ⟨after, later⟩
      rw [List.flatMap_cons, stateAfter_cons, stateAfter_append, output_cons, output_append,
        List.flatMap_append, List.map_append, emitted, later]
      exact ⟨after, rfl⟩

end Simulation

end Transducer
