import Mathlib.Data.List.Basic

/-!
# Transition systems with a condition on their steps

A system makes labelled steps, each of which is possible in some states only.
`Reachable allowed` are the states which the system reaches by steps meeting the
condition `allowed`, which may look at the state before the step and at the
label. A property of all such states follows from an invariant. A concrete
run is a list of labels, and `run` computes where it ends; where the steps outside
the condition lose a property, the condition decides which runs always have it.
-/

universe u v

/-- A deterministic labelled transition system with an initial state. -/
structure TransitionSystem (State : Type u) (Label : Type v) where
  initial : State
  step : State → Label → Option State

namespace TransitionSystem

variable {State : Type u} {Label : Type v}

/-- The states reached by steps which meet a condition. -/
inductive Reachable (system : TransitionSystem State Label) (allowed : State → Label → Prop) :
    State → Prop where
  | initial : Reachable system allowed system.initial
  | step {state next : State} {label : Label} (reached : Reachable system allowed state)
      (isAllowed : allowed state label) (stepEq : system.step state label = some next) :
      Reachable system allowed next

def anyStep : State → Label → Prop :=
  fun _ _ => True

variable {system : TransitionSystem State Label} {allowed : State → Label → Prop}

/-- What holds initially and is preserved by every allowed step holds in every state reached. -/
theorem Reachable.invariant {invariant : State → Prop} (initially : invariant system.initial)
    (preserved : ∀ state label next, invariant state → allowed state label →
      system.step state label = some next → invariant next)
    {state : State} (reached : system.Reachable allowed state) : invariant state := by
  induction reached with
  | initial => exact initially
  | step _ isAllowed stepEq ih =>
      apply preserved
      · exact ih
      · exact isAllowed
      · exact stepEq

/-- The state at the end of a list of labels, if every step is possible. -/
def run (system : TransitionSystem State Label) (state : State) : List Label → Option State
  | [] => some state
  | label :: labels => (system.step state label).bind fun next => system.run next labels

/-- Every step of a list of labels meets the condition. -/
def AllowedRun (system : TransitionSystem State Label) (allowed : State → Label → Prop)
    (state : State) : List Label → Prop
  | [] => True
  | label :: labels =>
      allowed state label ∧
        match system.step state label with
        | none => True
        | some next => system.AllowedRun allowed next labels

/-- Whether all steps of a list of labels are allowed can be computed. -/
instance AllowedRun.decidable (system : TransitionSystem State Label)
    (allowed : State → Label → Prop) [∀ state label, Decidable (allowed state label)] :
    ∀ state labels, Decidable (system.AllowedRun allowed state labels)
  | _, [] => isTrue trivial
  | state, label :: labels =>
      have : Decidable (match system.step state label with
          | none => True
          | some next => system.AllowedRun allowed next labels) :=
        match system.step state label with
        | none => isTrue trivial
        | some next => AllowedRun.decidable system allowed next labels
      inferInstanceAs (Decidable (_ ∧ _))

/-- A condition on the labels alone is met by a run exactly if all its labels meet it. -/
theorem allowedRun_iff_forall {condition : Label → Prop} {state final : State}
    {labels : List Label} (runEq : system.run state labels = some final) :
    system.AllowedRun (fun _ => condition) state labels ↔ ∀ label ∈ labels, condition label := by
  induction labels generalizing state with
  | nil => exact iff_of_true trivial (by simp)
  | cons label labels ih =>
      simp only [TransitionSystem.run, Option.bind_eq_some_iff] at runEq
      rcases runEq with ⟨next, stepEq, laterEq⟩
      rw [AllowedRun, stepEq, List.forall_mem_cons, ← ih laterEq]

theorem allowedRun_anyStep (system : TransitionSystem State Label) (state : State)
    (labels : List Label) : system.AllowedRun anyStep state labels := by
  induction labels generalizing state with
  | nil => trivial
  | cons label labels ih =>
      refine ⟨trivial, ?_⟩
      split
      · trivial
      · apply ih

/-- A run whose steps meet the condition stays within the states reached. -/
theorem Reachable.run {state final : State} (reached : system.Reachable allowed state)
    {labels : List Label} (allAllowed : system.AllowedRun allowed state labels)
    (runEq : system.run state labels = some final) : system.Reachable allowed final := by
  induction labels generalizing state with
  | nil =>
      simp only [TransitionSystem.run, Option.some.injEq] at runEq
      rwa [← runEq]
  | cons label labels ih =>
      simp only [TransitionSystem.run, Option.bind_eq_some_iff] at runEq
      rcases runEq with ⟨next, stepEq, laterEq⟩
      rcases allAllowed with ⟨isAllowed, laterAllowed⟩
      rw [stepEq] at laterAllowed
      apply ih
      · exact .step reached isAllowed stepEq
      · exact laterAllowed
      · exact laterEq

/-- Every state of a run has the property, the first one included. -/
def EveryState (system : TransitionSystem State Label) (property : State → Prop)
    (state : State) : List Label → Prop
  | [] => property state
  | label :: labels =>
      property state ∧
        match system.step state label with
        | none => True
        | some next => system.EveryState property next labels

/-- If the allowed steps keep an invariant which has the property, and every other step loses
the property, then the runs which always have it are those of allowed steps. -/
theorem everyState_iff_allowedRun {property : State → Prop} (invariant : State → Prop)
    (implies : ∀ state, invariant state → property state)
    (preserved : ∀ state label next, invariant state → allowed state label →
      system.step state label = some next → invariant next)
    (violated : ∀ state label next, invariant state → ¬allowed state label →
      system.step state label = some next → ¬property next)
    {state final : State} (initially : invariant state) {labels : List Label}
    (runEq : system.run state labels = some final) :
    system.EveryState property state labels ↔ system.AllowedRun allowed state labels := by
  induction labels generalizing state with
  | nil => exact iff_of_true (implies state initially) trivial
  | cons label labels ih =>
      simp only [TransitionSystem.run, Option.bind_eq_some_iff] at runEq
      rcases runEq with ⟨next, stepEq, laterEq⟩
      rw [EveryState, AllowedRun, stepEq]
      constructor
      · rintro ⟨_, later⟩
        have isAllowed : allowed state label := by
          by_contra forbidden
          apply violated state label next initially forbidden stepEq
          cases labels with
          | nil => exact later
          | cons => exact later.1
        refine ⟨isAllowed, (ih ?_ laterEq).mp later⟩
        exact preserved state label next initially isAllowed stepEq
      · rintro ⟨isAllowed, later⟩
        refine ⟨implies state initially, (ih ?_ laterEq).mpr later⟩
        exact preserved state label next initially isAllowed stepEq

end TransitionSystem
