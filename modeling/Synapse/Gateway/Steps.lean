import Synapse.Gateway.Calls

/-!
# What the steps of the gateway have to wait for

A thread goes on only when it has performed what it knew, and a session is over
only when both threads have ended. This file gives the guards of the steps beside what
they do, and what a step of one thread leaves to the other one.
-/

namespace Synapse

open LockedStream

namespace Gateway

variable {gateway next : Gateway}

@[simp]
theorem submit_todo_self (gateway : Gateway) (thread : GatewayThread)
    (actions : List GatewayAction) :
    (gateway.submit thread actions).tester.todo thread = actions := by
  simp [submit, State.submit]

theorem submit_todo_of_ne (gateway : Gateway) {thread other : GatewayThread}
    (different : other ≠ thread) (actions : List GatewayAction) :
    (gateway.submit thread actions).tester.todo other = gateway.tester.todo other := by
  simp [submit, State.submit, different]

@[simp]
theorem submit_forwarder_todo_main (gateway : Gateway) (actions : List GatewayAction) :
    (gateway.submit .forwarder actions).tester.todo .main = gateway.tester.todo .main :=
  submit_todo_of_ne gateway (by decide) actions

@[simp]
theorem submit_main_todo_forwarder (gateway : Gateway) (actions : List GatewayAction) :
    (gateway.submit .main actions).tester.todo .forwarder = gateway.tester.todo .forwarder :=
  submit_todo_of_ne gateway (by decide) actions

/-- The gateway when a thread has performed the first of its actions. -/
def advance (gateway : Gateway) (thread : GatewayThread) (rest : List GatewayAction) : Gateway :=
  { gateway with
    tester := { gateway.tester with todo := Function.update gateway.tester.todo thread rest } }

@[simp]
theorem advance_todo_self (gateway : Gateway) (thread : GatewayThread)
    (rest : List GatewayAction) : (gateway.advance thread rest).tester.todo thread = rest := by
  simp [advance]

/-- A thread performs an effect, or does something to the tester socket and its mutex. -/
theorem exec_action_cases {thread : GatewayThread} {count : ℕ}
    (stepEq : gateway.exec thread count = some next) :
    (∃ effect rest, gateway.tester.todo thread = .other effect :: rest ∧
      next = (gateway.advance thread rest).perform thread effect) ∨
    (∃ action rest tester, gateway.tester.todo thread = action :: rest ∧
      (∀ effect, action ≠ .other effect) ∧ gateway.tester.exec thread count = some tester ∧
      next = { gateway with tester := tester } ∧
      (tester.todo = Function.update gateway.tester.todo thread rest ∨
        ∃ bytes, tester.todo = Function.update gateway.tester.todo thread
          (.write bytes :: rest))) := by
  rcases exec_cases stepEq with ⟨tester, testerEq, performed⟩
  rcases State.exec_front testerEq with ⟨effect, rest, todoEq, rfl⟩ |
    ⟨action, rest, todoEq, noEffect, restEq⟩
  · have effectEq : gateway.nextEffect? thread = some effect := by rw [nextEffect?, todoEq]
    rw [effectEq] at performed
    rcases performed with ⟨nothing, _⟩ | ⟨performedEffect, performedEq, rfl⟩
    · exact absurd nothing (by simp)
    · rw [Option.some.injEq] at performedEq
      left
      refine ⟨effect, rest, todoEq, ?_⟩
      rw [performedEq]
      rfl
  · have effectEq : gateway.nextEffect? thread = none := by
      rw [nextEffect?, todoEq]
      split
      next effect _ consEq =>
        rw [List.cons.injEq] at consEq
        exact absurd consEq.1 (noEffect effect)
      next => rfl
    rw [effectEq] at performed
    rcases performed with ⟨_, rfl⟩ | ⟨_, nothing, _⟩
    · right
      exact ⟨action, rest, tester, todoEq, noEffect, testerEq, rfl, restEq⟩
    · exact absurd nothing (by simp)

/-- What a thread has to do is nothing to the other thread. -/
theorem exec_todo_of_ne {thread other : GatewayThread} {count : ℕ}
    (stepEq : gateway.exec thread count = some next) (different : other ≠ thread) :
    next.tester.todo other = gateway.tester.todo other := by
  rcases exec_action_cases stepEq with ⟨effect, rest, _, rfl⟩ |
    ⟨action, rest, tester, _, _, _, rfl, restEq | ⟨bytes, restEq⟩⟩
  · simp [perform_tester, advance, different]
  · simp [restEq, different]
  · simp [restEq, different]

/-- The next session starts only behind the end of both threads. -/
theorem nextSession_guard (stepEq : gateway.nextSession = some next) :
    gateway.main = .closed ∧ gateway.forwarder = .stopped ∧ gateway.tester.todo .main = [] ∧
      gateway.tester.todo .forwarder = [] ∧ next = gateway.restart := by
  simp only [nextSession] at stepEq
  split at stepEq
  next mainEq forwarderEq =>
    split at stepEq
    next guard =>
      exact ⟨mainEq, forwarderEq, guard.1, guard.2, (Option.some.inj stepEq).symm⟩
    next => simp at stepEq
  next => simp at stepEq

theorem sendFirst_guard {env : SendEnv} (stepEq : gateway.sendFirst env = some next) :
    gateway.tester.todo .main = [] := by
  simp only [sendFirst] at stepEq
  split at stepEq
  next =>
    split at stepEq
    next guard => exact guard
    next => simp at stepEq
  next => simp at stepEq

theorem mainExit_guard (stepEq : gateway.mainExit = some next) :
    gateway.main = .header ∧ gateway.sessionActive = false := by
  simp only [mainExit] at stepEq
  split at stepEq
  next mainEq _ =>
    split at stepEq
    next guard => exact ⟨mainEq, guard.2⟩
    next => simp at stepEq
  next => simp at stepEq

end Gateway

end Synapse
