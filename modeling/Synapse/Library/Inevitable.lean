import Synapse.Library.TransitionSystem
import Synapse.Library.LockedStream

/-!
# Goals which cannot be missed

A goal is inevitable in a state if the system can go on from every state before the goal, and
comes to the goal after finitely many steps whichever allowed steps it takes. No
fairness is asked for: a goal is inevitable when every single step lowers a measure, and
no thread has to be favoured. Threads which share a mutex can always go on
if they keep the lock discipline, since the one which holds it has its release to do.
-/

universe u v w

namespace TransitionSystem

variable {State : Type u} {Label : Type v}

/-- Every way of going on by allowed steps leads to the goal, and there always is one. -/
inductive Inevitable (system : TransitionSystem State Label) (allowed : State → Label → Prop)
    (goal : State → Prop) : State → Prop where
  | now {state : State} (reached : goal state) : Inevitable system allowed goal state
  | later {state : State}
      (possible : ∃ label next, allowed state label ∧ system.step state label = some next)
      (leads : ∀ label next, allowed state label → system.step state label = some next →
        Inevitable system allowed goal next) : Inevitable system allowed goal state

variable {system : TransitionSystem State Label} {allowed : State → Label → Prop}
variable {goal : State → Prop}

/-- A goal is inevitable if there is a step to take before it and every such step lowers a
measure. -/
theorem inevitable_of_measure (invariant : State → Prop) (measure : State → ℕ)
    (progress : ∀ state, invariant state → ¬goal state →
      ∃ label next, allowed state label ∧ system.step state label = some next)
    (lowers : ∀ state label next, invariant state → ¬goal state → allowed state label →
      system.step state label = some next → invariant next ∧ measure next < measure state)
    {state : State} (initially : invariant state) : system.Inevitable allowed goal state := by
  induction bound : measure state using Nat.strongRecOn generalizing state with
  | ind value ih =>
      by_cases reached : goal state
      · exact .now reached
      · apply Inevitable.later
        · exact progress state initially reached
        · intro label next isAllowed stepEq
          rcases lowers state label next initially reached isAllowed stepEq with
            ⟨kept, lower⟩
          apply ih (measure next)
          · omega
          · exact kept
          · rfl

end TransitionSystem

namespace LockedStream.State

variable {Thread : Type w} {Byte : Type u} {Event : Type v} [DecidableEq Thread]

/-- While there is something to do some thread can do it: the mutex blocks no one for good. -/
theorem Sound.exists_exec {state : State Thread Byte Event} (sound : state.Sound)
    {waiting : Thread} (busy : state.todo waiting ≠ []) (count : ℕ) :
    ∃ thread next, state.exec thread count = some next := by
  have free : ∀ {thread : Thread}, Disciplined (decide (state.owner = some thread))
      (state.todo thread) → state.todo thread ≠ [] →
        (state.owner = none ∨ state.owner = some thread) →
          ∃ next, state.exec thread count = some next := by
    intro thread disciplined busy available
    cases todoEq : state.todo thread with
    | nil => exact absurd todoEq busy
    | cons action rest =>
        rw [todoEq] at disciplined
        cases action with
        | acquire =>
            have noOwner : state.owner = none := by
              rcases available with none_ | held
              · exact none_
              · simp [Disciplined, held] at disciplined
            simp [exec, todoEq, noOwner]
        | release =>
            have held : state.owner = some thread := by
              simpa [Disciplined] using disciplined.1
            simp [exec, todoEq, held]
        | write bytes =>
            by_cases partly : count < bytes.length
            · simp [exec, todoEq, partly]
            · simp [exec, todoEq, partly]
        | other event => simp [exec, todoEq]
  cases ownerEq : state.owner with
  | none => exact ⟨waiting, free (sound.disciplined waiting) busy (Or.inl ownerEq)⟩
  | some owner =>
      refine ⟨owner, free (sound.disciplined owner) ?_ (Or.inr ownerEq)⟩
      -- An owner which has nothing to do would have released the mutex.
      intro idle
      exact (sound.idle idle).1 ownerEq

end LockedStream.State
