import Synapse.Library.TransitionSystem

/-!
# The thread of the status publisher

The status publisher starts its loop in a thread of its own when the SOME/IP runtime tells
that it is registered, and keeps the thread in a member which nothing ever joins. This file
embeds the member with the threads which have been started for it. Assigning to
a thread object which is joinable, and destroying it, calls `std::terminate`.
-/

namespace Synapse

/-- The states which the runtime notifies. -/
inductive VsomeipState where
  | registered
  | other
deriving DecidableEq

/-- Where a call of `publish_loop` stands. -/
inductive LoopPc where
  | opening
  | listening
  | returned
deriving DecidableEq

structure StatusPublisher where
  running : Bool
  /-- The thread which `pub_thread_` represents; it is joinable while there is one. -/
  pubThread : Option ℕ
  /-- The calls of `publish_loop` by their threads, in the order of their start. -/
  loops : List LoopPc
  terminated : Bool
  /-- `main` has returned, and the object is destroyed. -/
  exited : Bool
deriving DecidableEq

inductive PublisherLabel where
  | onState (state : VsomeipState)
  | openSocket (thread : ℕ) (opened : Bool)
  | loopPass (thread : ℕ)
  | loopEnds (thread : ℕ)
  | signal
  | mainExit
deriving DecidableEq

namespace StatusPublisher

def constructed : StatusPublisher where
  running := true
  pubThread := none
  loops := []
  terminated := false
  exited := false

def setLoop (publisher : StatusPublisher) (thread : ℕ) (pc : LoopPc) : StatusPublisher :=
  { publisher with loops := publisher.loops.set thread pc }

/-- The new thread runs before the assignment looks at the old one. -/
def onState (publisher : StatusPublisher) : VsomeipState → StatusPublisher
  | .registered =>
      let thread := publisher.loops.length
      let started := { publisher with loops := publisher.loops ++ [LoopPc.opening] }
      if publisher.pubThread.isSome then { started with terminated := true }
      else { started with pubThread := some thread }
  | .other => publisher

/-- `start` returns and the object is destroyed with its thread member. -/
def mainExit (publisher : StatusPublisher) : StatusPublisher :=
  if publisher.pubThread.isSome then { publisher with terminated := true }
  else { publisher with exited := true }

def act (publisher : StatusPublisher) : PublisherLabel → Option StatusPublisher
  | .onState state => some (publisher.onState state)
  | .openSocket thread opened =>
      if publisher.loops[thread]? = some .opening then
        some (publisher.setLoop thread (if opened then .listening else .returned))
      else none
  | .loopPass thread =>
      if publisher.loops[thread]? = some .listening ∧ publisher.running = true then some publisher
      else none
  | .loopEnds thread =>
      if publisher.loops[thread]? = some .listening ∧ publisher.running = false then
        some (publisher.setLoop thread .returned)
      else none
  | .signal => some { publisher with running := false }
  | .mainExit => if publisher.running = false then some publisher.mainExit else none

/-- Nothing runs any more when the process has been terminated or `main` has returned. -/
def step (publisher : StatusPublisher) (label : PublisherLabel) : Option StatusPublisher :=
  if publisher.terminated = true ∨ publisher.exited = true then none else publisher.act label

end StatusPublisher

def publisherSystem : TransitionSystem StatusPublisher PublisherLabel where
  initial := .constructed
  step := StatusPublisher.step

/-- The process has not been terminated, and at most one loop runs. -/
structure Survives (publisher : StatusPublisher) : Prop where
  alive : publisher.terminated = false
  oneLoop : publisher.loops.countP (fun pc => pc ≠ .returned) ≤ 1

/-- The steps which assign to the thread member or destroy it. -/
def PublisherLabel.replacesThread : PublisherLabel → Bool
  | .onState .registered => true
  | .mainExit => true
  | _ => false

namespace StatusPublisher

/-- The thread member is empty while no loop has been started, and one has been since. -/
structure Kept (publisher : StatusPublisher) : Prop where
  alive : publisher.terminated = false
  started : publisher.loops.length = if publisher.pubThread.isSome then 1 else 0

def KeepsThread (publisher : StatusPublisher) (label : PublisherLabel) : Prop :=
  label.replacesThread = true → publisher.pubThread = none

theorem Kept.survives {publisher : StatusPublisher} (kept : publisher.Kept) :
    Survives publisher := by
  refine ⟨kept.alive, ?_⟩
  have atMost : publisher.loops.countP (fun pc => pc ≠ .returned) ≤ publisher.loops.length :=
    List.countP_le_length
  have started := kept.started
  split at started <;> omega

/-! ## Steps -/

variable {publisher next : StatusPublisher} {label : PublisherLabel}

theorem step_cases (stepEq : publisher.step label = some next) :
    publisher.terminated = false ∧ publisher.exited = false ∧
      publisher.act label = some next := by
  rw [step] at stepEq
  split at stepEq
  next => simp at stepEq
  next alive =>
    rw [not_or, Bool.not_eq_true, Bool.not_eq_true] at alive
    exact ⟨alive.1, alive.2, stepEq⟩

/-- A step which leaves the thread member alone neither starts a loop nor ends the process. -/
theorem act_of_not_replacesThread (keeps : label.replacesThread = false)
    (actEq : publisher.act label = some next) :
    next.pubThread = publisher.pubThread ∧ next.terminated = publisher.terminated ∧
      next.loops.length = publisher.loops.length := by
  cases label with
  | onState state =>
      cases state with
      | registered => simp [PublisherLabel.replacesThread] at keeps
      | other =>
          rw [← Option.some.inj actEq]
          exact ⟨rfl, rfl, rfl⟩
  | openSocket thread opened =>
      simp only [act, Option.ite_none_right_eq_some, Option.some.injEq] at actEq
      rw [← actEq.2]
      exact ⟨rfl, rfl, List.length_set⟩
  | loopPass thread =>
      simp only [act, Option.ite_none_right_eq_some, Option.some.injEq] at actEq
      rw [← actEq.2]
      exact ⟨rfl, rfl, rfl⟩
  | loopEnds thread =>
      simp only [act, Option.ite_none_right_eq_some, Option.some.injEq] at actEq
      rw [← actEq.2]
      exact ⟨rfl, rfl, List.length_set⟩
  | signal =>
      rw [← Option.some.inj actEq]
      exact ⟨rfl, rfl, rfl⟩
  | mainExit => simp [PublisherLabel.replacesThread] at keeps

/-- The first registration starts the loop, and an exit of main in front of it ends the
process. -/
theorem act_of_replacesThread (replaces : label.replacesThread = true)
    (actEq : publisher.act label = some next) :
    (publisher.pubThread.isSome = true ∧ next.terminated = true) ∨
      (publisher.pubThread = none ∧ next.terminated = publisher.terminated ∧
        ((next.pubThread.isSome = true ∧ next.loops.length = publisher.loops.length + 1) ∨
          (next.pubThread = none ∧ next.loops = publisher.loops ∧ next.exited = true))) := by
  cases label with
  | onState state =>
      cases state with
      | registered =>
          rw [act, Option.some.injEq] at actEq
          subst actEq
          cases thread : publisher.pubThread with
          | none => simp [onState, thread]
          | some held => simp [onState, thread]
      | other => simp [PublisherLabel.replacesThread] at replaces
  | mainExit =>
      simp only [act, Option.ite_none_right_eq_some, Option.some.injEq] at actEq
      rcases actEq with ⟨_, rfl⟩
      cases thread : publisher.pubThread with
      | none => simp [mainExit, thread]
      | some held => simp [mainExit, thread]
  | openSocket thread opened => simp [PublisherLabel.replacesThread] at replaces
  | loopPass thread => simp [PublisherLabel.replacesThread] at replaces
  | loopEnds thread => simp [PublisherLabel.replacesThread] at replaces
  | signal => simp [PublisherLabel.replacesThread] at replaces

theorem kept_step (kept : publisher.Kept) (keeps : publisher.KeepsThread label)
    (stepEq : publisher.step label = some next) : next.Kept := by
  rcases step_cases stepEq with ⟨_, _, actEq⟩
  have started := kept.started
  cases replaces : label.replacesThread with
  | false =>
      rcases act_of_not_replacesThread replaces actEq with ⟨threadEq, aliveEq, lengthEq⟩
      exact ⟨by rw [aliveEq, kept.alive], by rw [lengthEq, threadEq, started]⟩
  | true =>
      have none_ := keeps replaces
      rcases act_of_replacesThread replaces actEq with ⟨held, _⟩ |
        ⟨_, aliveEq, ⟨thread, lengthEq⟩ | ⟨thread, loopsEq, _⟩⟩
      · simp [none_] at held
      · refine ⟨by rw [aliveEq, kept.alive], ?_⟩
        rw [lengthEq, started, none_, if_pos thread]
        rfl
      · refine ⟨by rw [aliveEq, kept.alive], ?_⟩
        rw [loopsEq, started, none_, thread]

theorem not_survives_step (loses : ¬publisher.KeepsThread label)
    (stepEq : publisher.step label = some next) : ¬Survives next := by
  rcases step_cases stepEq with ⟨_, _, actEq⟩
  rcases Classical.not_imp.mp loses with ⟨replaces, held⟩
  rcases act_of_replacesThread replaces actEq with ⟨_, terminated⟩ | ⟨none_, _⟩
  · intro survives
    rw [survives.alive] at terminated
    simp at terminated
  · exact absurd none_ held

theorem eq_nil_of_exited {labels : List PublisherLabel} {final : StatusPublisher}
    (exited : publisher.exited = true)
    (runEq : publisherSystem.run publisher labels = some final) : labels = [] := by
  cases labels with
  | nil => rfl
  | cons label labels =>
      simp only [TransitionSystem.run, Option.bind_eq_some_iff] at runEq
      rcases runEq with ⟨next, stepEq, _⟩
      have running := (step_cases stepEq).2.1
      rw [exited] at running
      simp at running

/-- The thread member is replaced at most once in a run which keeps it. -/
theorem keepsThread_iff {labels : List PublisherLabel} {final : StatusPublisher}
    (runEq : publisherSystem.run publisher labels = some final) :
    publisherSystem.AllowedRun KeepsThread publisher labels ↔
      labels.countP PublisherLabel.replacesThread ≤
        if publisher.pubThread.isSome then 0 else 1 := by
  induction labels generalizing publisher with
  | nil => exact iff_of_true trivial (Nat.zero_le _)
  | cons label labels ih =>
      simp only [TransitionSystem.run, Option.bind_eq_some_iff] at runEq
      rcases runEq with ⟨next, stepEq, laterEq⟩
      have actEq := (step_cases stepEq).2.2
      rw [TransitionSystem.AllowedRun, stepEq, List.countP_cons]
      change KeepsThread publisher label ∧ publisherSystem.AllowedRun KeepsThread next labels ↔ _
      rw [ih laterEq]
      cases replaces : label.replacesThread with
      | false =>
          have keeps : KeepsThread publisher label := by
            intro replaced
            simp [replaces] at replaced
          rw [(act_of_not_replacesThread replaces actEq).1]
          simp [keeps]
      | true =>
          rcases act_of_replacesThread replaces actEq with ⟨held, _⟩ |
            ⟨none_, _, ⟨thread, _⟩ | ⟨_, _, exited⟩⟩
          · refine iff_of_false ?_ ?_
            · rintro ⟨keeps, _⟩
              rw [keeps replaces] at held
              simp at held
            · rw [if_pos held]
              simp
          · have keeps : KeepsThread publisher label := fun _ => none_
            simp [keeps, none_, thread]
          · have keeps : KeepsThread publisher label := fun _ => none_
            rw [eq_nil_of_exited exited laterEq]
            simp [keeps, none_]

end StatusPublisher

/-- The publisher survives a run if and only if the run replaces its thread member at most once:
one registration, or the exit of `main` without any. -/
theorem publisher_survives_iff {labels : List PublisherLabel} {final : StatusPublisher}
    (runEq : publisherSystem.run publisherSystem.initial labels = some final) :
    publisherSystem.EveryState Survives publisherSystem.initial labels ↔
      labels.countP PublisherLabel.replacesThread ≤ 1 := by
  have keepsIff := StatusPublisher.keepsThread_iff runEq
  rw [← show (if publisherSystem.initial.pubThread.isSome then 0 else 1) = 1 from rfl, ← keepsIff]
  apply TransitionSystem.everyState_iff_allowedRun StatusPublisher.Kept
  · intro publisher kept
    exact kept.survives
  · intro publisher label next kept keeps stepEq
    exact StatusPublisher.kept_step kept keeps stepEq
  · intro publisher label next _ loses stepEq
    exact StatusPublisher.not_survives_step loses stepEq
  · exact ⟨rfl, rfl⟩
  · exact runEq

/-- One registration among other notifications, and a stop signal while the loop runs. -/
def oneRegistration : List PublisherLabel :=
  [.onState .other, .onState .registered, .openSocket 0 true, .loopPass 0, .onState .other,
    .signal, .loopEnds 0]

theorem publisher_survives_oneRegistration :
    publisherSystem.EveryState Survives publisherSystem.initial oneRegistration ↔
      oneRegistration.countP PublisherLabel.replacesThread ≤ 1 := by
  have runEq : publisherSystem.run publisherSystem.initial oneRegistration =
      some ⟨false, some 0, [.returned], false, false⟩ := by decide
  exact publisher_survives_iff runEq

/-- The process is terminated by a second registration, even when the first loop has returned, and
by the regular exit. -/
theorem not_survives_reregistration :
    (∃ publisher, publisherSystem.run publisherSystem.initial
        [.onState .registered, .openSocket 0 false, .onState .registered] = some publisher ∧
      ¬Survives publisher) ∧
    ∃ publisher, publisherSystem.run publisherSystem.initial
        [.onState .registered, .openSocket 0 true, .signal, .loopEnds 0, .mainExit] =
          some publisher ∧
      ¬Survives publisher := by
  refine ⟨⟨_, rfl, ?_⟩, ⟨_, rfl, ?_⟩⟩
  · intro survives
    exact absurd survives.alive (by decide)
  · intro survives
    exact absurd survives.alive (by decide)

end Synapse
