import Synapse.Library.TransitionSystem

/-!
# What a run records

An observation sees the state before a step and the label of the step. What it sees
along a run is the record of the run, and so a run can be asked what it has put into
a component and what it has taken out, without a history in the state. If every
single step accounts for what goes in and out, the run does: a component which is
first in, first out loses nothing and turns nothing around.
-/

universe u v w x

namespace TransitionSystem

variable {State : Type u} {Label : Type v} {Item : Type w} {Other : Type x}
variable {system : TransitionSystem State Label} {allowed : State → Label → Prop}

/-- What an observation sees along a list of labels, up to the first impossible step. -/
def record (system : TransitionSystem State Label) (observe : State → Label → List Item)
    (state : State) : List Label → List Item
  | [] => []
  | label :: labels =>
      match system.step state label with
      | none => []
      | some next => observe state label ++ system.record observe next labels

@[simp]
theorem record_nil (observe : State → Label → List Item) (state : State) :
    system.record observe state [] = [] := rfl

theorem record_cons {observe : State → Label → List Item} {state next : State} {label : Label}
    (stepEq : system.step state label = some next) (labels : List Label) :
    system.record observe state (label :: labels) =
      observe state label ++ system.record observe next labels := by
  rw [record, stepEq]

/-- A run of at least one step, taken apart. -/
theorem run_cons_cases {state final : State} {label : Label} {labels : List Label}
    (runEq : system.run state (label :: labels) = some final) :
    ∃ next, system.step state label = some next ∧ system.run next labels = some final := by
  simpa only [run, Option.bind_eq_some_iff] using runEq

theorem allowedRun_cons_cases {state next : State} {label : Label} {labels : List Label}
    (allAllowed : system.AllowedRun allowed state (label :: labels))
    (stepEq : system.step state label = some next) :
    allowed state label ∧ system.AllowedRun allowed next labels := by
  rcases allAllowed with ⟨isAllowed, later⟩
  rw [stepEq] at later
  exact ⟨isAllowed, later⟩

/-- If every step accounts for what it puts behind the contents of a component and takes from
their front, then the run does. -/
theorem record_conserved (contents : State → List Item) (gained lost : State → Label → List Item)
    (invariant : State → Prop)
    (preserved : ∀ state label next, invariant state → allowed state label →
      system.step state label = some next → invariant next)
    (conserved : ∀ state label next, invariant state → allowed state label →
      system.step state label = some next →
        contents state ++ gained state label = lost state label ++ contents next)
    {state final : State} {labels : List Label} (initially : invariant state)
    (allAllowed : system.AllowedRun allowed state labels)
    (runEq : system.run state labels = some final) :
    contents state ++ system.record gained state labels =
      system.record lost state labels ++ contents final := by
  induction labels generalizing state with
  | nil =>
      simp only [run, Option.some.injEq] at runEq
      rw [record_nil, record_nil, List.append_nil, List.nil_append, runEq]
  | cons label labels ih =>
      rcases run_cons_cases runEq with ⟨next, stepEq, laterEq⟩
      rcases allowedRun_cons_cases allAllowed stepEq with ⟨isAllowed, laterAllowed⟩
      have later := ih (preserved state label next initially isAllowed stepEq) laterAllowed laterEq
      have now := conserved state label next initially isAllowed stepEq
      calc contents state ++ system.record gained state (label :: labels)
          = (contents state ++ gained state label) ++ system.record gained next labels := by
            rw [record_cons stepEq, List.append_assoc]
        _ = lost state label ++ (contents next ++ system.record gained next labels) := by
            rw [now, List.append_assoc]
        _ = system.record lost state (label :: labels) ++ contents final := by
            rw [later, record_cons stepEq, List.append_assoc]

/-- A relation between the record of a run and the state is kept by the run if every step which
extends the record keeps it. -/
theorem record_invariant (observe : State → Label → List Item)
    (related : List Item → State → Prop)
    (preserved : ∀ items state label next, related items state → allowed state label →
      system.step state label = some next → related (items ++ observe state label) next)
    {items : List Item} {state final : State} {labels : List Label}
    (initially : related items state) (allAllowed : system.AllowedRun allowed state labels)
    (runEq : system.run state labels = some final) :
    related (items ++ system.record observe state labels) final := by
  induction labels generalizing items state with
  | nil =>
      simp only [run, Option.some.injEq] at runEq
      rwa [record_nil, List.append_nil, ← runEq]
  | cons label labels ih =>
      rcases run_cons_cases runEq with ⟨next, stepEq, laterEq⟩
      rcases allowedRun_cons_cases allAllowed stepEq with ⟨isAllowed, laterAllowed⟩
      rw [record_cons stepEq, ← List.append_assoc]
      apply ih
      · exact preserved items state label next initially isAllowed stepEq
      · exact laterAllowed
      · exact laterEq

/-- Everything in a record has been seen in some step. -/
theorem mem_record {observe : State → Label → List Item} {item : Item} {state : State}
    {labels : List Label} (isSeen : item ∈ system.record observe state labels) :
    ∃ before label, item ∈ observe before label := by
  induction labels generalizing state with
  | nil => simp at isSeen
  | cons label labels ih =>
      simp only [record] at isSeen
      split at isSeen
      · simp at isSeen
      · rcases List.mem_append.mp isSeen with now | later
        · exact ⟨state, label, now⟩
        · exact ih later

/-- The record of an observation which sees a part of another one is a part of its record. -/
theorem record_filterMap {observe : State → Label → List Item}
    {coarser : State → Label → List Other} {seen : Item → Option Other}
    (sees : ∀ state label, (observe state label).filterMap seen = coarser state label)
    (state : State) (labels : List Label) :
    (system.record observe state labels).filterMap seen = system.record coarser state labels := by
  induction labels generalizing state with
  | nil => rfl
  | cons label labels ih =>
      simp only [record]
      split
      · rfl
      · rw [List.filterMap_append, sees, ih]

end TransitionSystem
