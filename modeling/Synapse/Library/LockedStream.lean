import Mathlib.Data.List.Basic
import Mathlib.Data.List.Flatten
import Mathlib.Logic.Function.Basic

/-!
# An output stream behind a mutex

Several threads append messages to one byte stream. A thread performs a list
of actions one at a time; a write puts its bytes into the stream in pieces,
and any other thread may act between two pieces. Nothing in the semantics keeps
the threads apart: a thread which writes without holding the mutex can tear
a message of another one.

`Disciplined` is the syntactic lock discipline of an action list. The main
results are `exec_sound`, every interleaving of disciplined lists keeps
the stream a sequence of whole messages with at most one unfinished message
behind them, and `exec_accounted`, no message is lost, repeated or overtaken by
a later message of its own thread.
-/

universe u v w

namespace LockedStream

/-- One atomic action of a thread, or a write which proceeds in pieces. -/
inductive Action (Byte : Type u) (Event : Type v) where
  | acquire
  | release
  | write (bytes : List Byte)
  | other (event : Event)
deriving DecidableEq

variable {Thread : Type w} {Byte : Type u} {Event : Type v}

def Action.written? : Action Byte Event → Option (List Byte)
  | .write bytes => some bytes
  | _ => none

/-- The messages which a list of actions puts into the stream. -/
def writes (actions : List (Action Byte Event)) : List (List Byte) :=
  actions.filterMap Action.written?

@[simp]
theorem writes_nil : writes ([] : List (Action Byte Event)) = [] := rfl

@[simp]
theorem writes_acquire (actions : List (Action Byte Event)) :
    writes (.acquire :: actions) = writes actions := rfl

@[simp]
theorem writes_release (actions : List (Action Byte Event)) :
    writes (.release :: actions) = writes actions := rfl

@[simp]
theorem writes_write (bytes : List Byte) (actions : List (Action Byte Event)) :
    writes (.write bytes :: actions) = bytes :: writes actions := rfl

@[simp]
theorem writes_other (event : Event) (actions : List (Action Byte Event)) :
    writes (.other event :: actions) = writes actions := rfl

@[simp]
theorem writes_append (first second : List (Action Byte Event)) :
    writes (first ++ second) = writes first ++ writes second := by
  simp [writes]

/-- Writes happen only while the mutex is held, and the list ends with the mutex released. -/
def Disciplined (holding : Bool) : List (Action Byte Event) → Prop
  | [] => holding = false
  | .acquire :: actions => holding = false ∧ Disciplined true actions
  | .release :: actions => holding = true ∧ Disciplined false actions
  | .write _ :: actions => holding = true ∧ Disciplined true actions
  | .other _ :: actions => Disciplined holding actions

theorem Disciplined.append {holding : Bool} {first second : List (Action Byte Event)}
    (firstDisciplined : Disciplined holding first) (secondDisciplined : Disciplined false second) :
    Disciplined holding (first ++ second) := by
  induction first generalizing holding with
  | nil =>
      simp only [Disciplined] at firstDisciplined
      simpa [firstDisciplined] using secondDisciplined
  | cons action actions ih =>
      cases action with
      | acquire => exact ⟨firstDisciplined.1, ih firstDisciplined.2⟩
      | release => exact ⟨firstDisciplined.1, ih firstDisciplined.2⟩
      | write bytes => exact ⟨firstDisciplined.1, ih firstDisciplined.2⟩
      | other event => exact ih firstDisciplined

structure State (Thread : Type w) (Byte : Type u) (Event : Type v) where
  todo : Thread → List (Action Byte Event)
  owner : Option Thread
  stream : List Byte
  /-- The bytes of a thread's unfinished write which are in the stream already. -/
  progress : Thread → List Byte
  /-- The finished writes in order of completion. -/
  sent : List (Thread × List Byte)

def start : State Thread Byte Event where
  todo := fun _ => []
  owner := none
  stream := []
  progress := fun _ => []
  sent := []

namespace State

variable [DecidableEq Thread]

/-- Let a thread perform its next action. A write of more than `count` bytes puts `count` of
them into the stream and stays the next action of its thread; a shorter one is finished. -/
def exec (state : State Thread Byte Event) (thread : Thread) (count : ℕ) :
    Option (State Thread Byte Event) :=
  match state.todo thread with
  | [] => none
  | .acquire :: rest =>
      if state.owner = none then
        some { state with
          todo := Function.update state.todo thread rest
          owner := some thread }
      else none
  | .release :: rest =>
      if state.owner = some thread then
        some { state with
          todo := Function.update state.todo thread rest
          owner := none }
      else none
  | .write bytes :: rest =>
      if count < bytes.length then
        some { state with
          todo := Function.update state.todo thread (.write (bytes.drop count) :: rest)
          stream := state.stream ++ bytes.take count
          progress := Function.update state.progress thread
            (state.progress thread ++ bytes.take count) }
      else
        some { state with
          todo := Function.update state.todo thread rest
          stream := state.stream ++ bytes
          progress := Function.update state.progress thread []
          sent := state.sent ++ [(thread, state.progress thread ++ bytes)] }
  | .other _ :: rest => some { state with todo := Function.update state.todo thread rest }

def submit (state : State Thread Byte Event) (thread : Thread)
    (actions : List (Action Byte Event)) : State Thread Byte Event :=
  { state with todo := Function.update state.todo thread actions }

/-- Everything a thread can do in one step, with the guard of each case. -/
theorem exec_cases {state next : State Thread Byte Event} {thread : Thread} {count : ℕ}
    (step : state.exec thread count = some next) :
    (∃ rest, state.todo thread = .acquire :: rest ∧ state.owner = none ∧
      next = { state with
        todo := Function.update state.todo thread rest
        owner := some thread }) ∨
    (∃ rest, state.todo thread = .release :: rest ∧ state.owner = some thread ∧
      next = { state with
        todo := Function.update state.todo thread rest
        owner := none }) ∨
    (∃ bytes rest, state.todo thread = .write bytes :: rest ∧ count < bytes.length ∧
      next = { state with
        todo := Function.update state.todo thread (.write (bytes.drop count) :: rest)
        stream := state.stream ++ bytes.take count
        progress := Function.update state.progress thread
          (state.progress thread ++ bytes.take count) }) ∨
    (∃ bytes rest, state.todo thread = .write bytes :: rest ∧
      next = { state with
        todo := Function.update state.todo thread rest
        stream := state.stream ++ bytes
        progress := Function.update state.progress thread []
        sent := state.sent ++ [(thread, state.progress thread ++ bytes)] }) ∨
    (∃ event rest, state.todo thread = .other event :: rest ∧
      next = { state with todo := Function.update state.todo thread rest }) := by
  unfold exec at step
  split at step
  next => simp at step
  next rest todoEq =>
    left
    split at step
    next free => exact ⟨rest, todoEq, free, (Option.some.inj step).symm⟩
    next => simp at step
  next rest todoEq =>
    right; left
    split at step
    next held => exact ⟨rest, todoEq, held, (Option.some.inj step).symm⟩
    next => simp at step
  next bytes rest todoEq =>
    right; right
    split at step
    next partly => exact Or.inl ⟨bytes, rest, todoEq, partly, (Option.some.inj step).symm⟩
    next => exact Or.inr (Or.inl ⟨bytes, rest, todoEq, (Option.some.inj step).symm⟩)
  next event rest todoEq =>
    right; right; right; right
    exact ⟨event, rest, todoEq, (Option.some.inj step).symm⟩

/-- A step takes the next action of its thread, or leaves the rest of a write in its place. -/
theorem exec_todo {state next : State Thread Byte Event} {thread : Thread} {count : ℕ}
    (step : state.exec thread count = some next) :
    ∃ action rest, state.todo thread = action :: rest ∧
      (next.todo = Function.update state.todo thread rest ∨
        ∃ bytes, next.todo = Function.update state.todo thread (.write bytes :: rest)) := by
  rcases exec_cases step with ⟨rest, todoEq, _, rfl⟩ | ⟨rest, todoEq, _, rfl⟩ |
    ⟨bytes, rest, todoEq, _, rfl⟩ | ⟨bytes, rest, todoEq, rfl⟩ | ⟨event, rest, todoEq, rfl⟩
  · exact ⟨_, rest, todoEq, Or.inl rfl⟩
  · exact ⟨_, rest, todoEq, Or.inl rfl⟩
  · exact ⟨_, rest, todoEq, Or.inr ⟨_, rfl⟩⟩
  · exact ⟨_, rest, todoEq, Or.inl rfl⟩
  · exact ⟨_, rest, todoEq, Or.inl rfl⟩

omit [DecidableEq Thread] in
/-- The bytes of the unfinished message of the thread holding the mutex. -/
def torn (state : State Thread Byte Event) : List Byte :=
  match state.owner with
  | none => []
  | some thread => state.progress thread

/-- The stream is whole up to one message being written by the thread holding the mutex. -/
structure Sound (state : State Thread Byte Event) : Prop where
  disciplined : ∀ thread,
    Disciplined (decide (state.owner = some thread)) (state.todo thread)
  /-- A thread without the mutex is not inside a write. -/
  quiet : ∀ thread, state.owner ≠ some thread → state.progress thread = []
  /-- A started write is the next action of its thread. -/
  resumes : ∀ thread, state.progress thread ≠ [] →
    ∃ bytes rest, bytes ≠ [] ∧ state.todo thread = .write bytes :: rest
  stream_eq : state.stream = (state.sent.map Prod.snd).flatten ++ state.torn

theorem start_sound : (start : State Thread Byte Event).Sound where
  disciplined := by intro thread; simp [start, Disciplined]
  quiet := by intro thread _; rfl
  resumes := by intro thread started; exact absurd rfl started
  stream_eq := rfl

omit [DecidableEq Thread] in
theorem torn_of_owner {state : State Thread Byte Event} {thread : Thread}
    (held : state.owner = some thread) : state.torn = state.progress thread := by
  simp [torn, held]

theorem Sound.owner_of_write {state : State Thread Byte Event} (sound : state.Sound)
    {thread : Thread} {bytes : List Byte} {rest : List (Action Byte Event)}
    (todoEq : state.todo thread = .write bytes :: rest) : state.owner = some thread := by
  have disciplined := sound.disciplined thread
  rw [todoEq] at disciplined
  simpa using disciplined.1

/-- An idle thread neither holds the mutex nor is inside a write. -/
theorem Sound.idle {state : State Thread Byte Event} (sound : state.Sound) {thread : Thread}
    (todoEq : state.todo thread = []) :
    state.owner ≠ some thread ∧ state.progress thread = [] := by
  have disciplined := sound.disciplined thread
  rw [todoEq] at disciplined
  have free : state.owner ≠ some thread := by simpa [Disciplined] using disciplined
  exact ⟨free, sound.quiet thread free⟩

theorem submit_sound {state : State Thread Byte Event} (sound : state.Sound) {thread : Thread}
    (todoEq : state.todo thread = []) {actions : List (Action Byte Event)}
    (disciplined : Disciplined false actions) : (state.submit thread actions).Sound := by
  have idle := sound.idle todoEq
  refine ⟨?_, sound.quiet, ?_, sound.stream_eq⟩
  · intro other
    by_cases same : other = thread
    · subst same
      simpa [submit, idle.1] using disciplined
    · change Disciplined (decide (state.owner = some other)) _
      simpa only [submit, Function.update_of_ne same] using sound.disciplined other
  · intro other started
    by_cases same : other = thread
    · subst same
      exact absurd idle.2 started
    · simpa [submit, same] using sound.resumes other started

omit [DecidableEq Thread] in
theorem torn_of_quiet {state : State Thread Byte Event}
    (quiet : ∀ thread, state.progress thread = []) : state.torn = [] := by
  rw [torn]
  split
  · rfl
  · apply quiet

/-- The mutex may change hands while nobody is inside a write. -/
theorem Sound.handover {state : State Thread Byte Event} (sound : state.Sound)
    (quiet : ∀ other, state.progress other = []) {thread : Thread} {owner : Option Thread}
    {rest : List (Action Byte Event)} (own : Disciplined (decide (owner = some thread)) rest)
    (others : ∀ other, other ≠ thread → (owner = some other ↔ state.owner = some other)) :
    ({ state with
      todo := Function.update state.todo thread rest
      owner := owner } : State Thread Byte Event).Sound := by
  refine ⟨?_, ?_, ?_, ?_⟩
  · intro other
    by_cases same : other = thread
    · subst same
      simpa using own
    · have unchanged := sound.disciplined other
      simpa [same, others other same] using unchanged
  · intro other _
    exact quiet other
  · intro other started
    exact absurd (quiet other) started
  · have streamEq := sound.stream_eq
    rw [torn_of_quiet quiet] at streamEq
    rw [torn_of_quiet]
    · exact streamEq
    · exact quiet

/-- The owner of the mutex may write without the other threads being inside a write. -/
theorem Sound.quiet_of_held {state : State Thread Byte Event} (sound : state.Sound)
    {thread : Thread} (held : state.owner = some thread) (bytes : List Byte) (other : Thread)
    (notOwner : state.owner ≠ some other) :
    Function.update state.progress thread bytes other = [] := by
  have same : other ≠ thread := by
    rintro rfl
    exact notOwner held
  rw [Function.update_of_ne same]
  exact sound.quiet other notOwner

/-- One step of a disciplined thread keeps the stream whole. -/
theorem exec_sound {state next : State Thread Byte Event} {thread : Thread} {count : ℕ}
    (sound : state.Sound) (step : state.exec thread count = some next) : next.Sound := by
  have own := sound.disciplined thread
  rcases exec_cases step with ⟨rest, todoEq, free, rfl⟩ | ⟨rest, todoEq, held, rfl⟩ |
    ⟨bytes, rest, todoEq, partly, rfl⟩ | ⟨bytes, rest, todoEq, rfl⟩ | ⟨event, rest, todoEq, rfl⟩
  · rw [todoEq] at own
    apply sound.handover
    · intro other
      apply sound.quiet
      simp [free]
    · simpa using own.2
    · intro other notOwn
      simp [free, Ne.symm notOwn]
  · rw [todoEq] at own
    apply sound.handover
    · -- A started write would be the next action of the thread which now releases.
      intro other
      by_contra started
      rcases sound.resumes other started with ⟨bytes, later, _, todoWrite⟩
      have owner := sound.owner_of_write todoWrite
      rw [held, Option.some.injEq] at owner
      subst owner
      rw [todoEq] at todoWrite
      simp at todoWrite
    · simpa using own.2
    · intro other notOwn
      simp [held, Ne.symm notOwn]
  · have held := sound.owner_of_write todoEq
    rw [todoEq] at own
    refine ⟨?_, ?_, ?_, ?_⟩
    · intro other
      by_cases same : other = thread
      · subst same
        simpa [Disciplined] using own
      · simpa [same] using sound.disciplined other
    · exact sound.quiet_of_held held _
    · intro other started
      by_cases same : other = thread
      · subst same
        exact ⟨bytes.drop count, rest, by simpa using partly, by simp⟩
      · simpa [same] using sound.resumes other (by simpa [same] using started)
    · rw [show state.stream = _ from sound.stream_eq, torn_of_owner held]
      simp [torn, held]
  · have held := sound.owner_of_write todoEq
    rw [todoEq] at own
    refine ⟨?_, ?_, ?_, ?_⟩
    · intro other
      by_cases same : other = thread
      · subst same
        simpa [held] using own.2
      · simpa [same] using sound.disciplined other
    · exact sound.quiet_of_held held _
    · intro other started
      by_cases same : other = thread
      · subst same
        simp at started
      · simpa [same] using sound.resumes other (by simpa [same] using started)
    · rw [show state.stream = _ from sound.stream_eq, torn_of_owner held]
      simp [torn, held]
  · rw [todoEq] at own
    refine ⟨?_, sound.quiet, ?_, sound.stream_eq⟩
    · intro other
      by_cases same : other = thread
      · subst same
        simpa [Disciplined] using own
      · simpa [same] using sound.disciplined other
    · intro other started
      rcases sound.resumes other started with ⟨bytes, later, bytesNe, todoWrite⟩
      have same : other ≠ thread := by
        rintro rfl
        rw [todoEq] at todoWrite
        simp at todoWrite
      exact ⟨bytes, later, bytesNe, by simpa [same] using todoWrite⟩

def sentBy (state : State Thread Byte Event) (thread : Thread) : List (List Byte) :=
  (state.sent.filter fun entry => entry.1 = thread).map Prod.snd

omit [DecidableEq Thread] in
/-- The messages a thread has still to finish, the started one as a whole. -/
def pending (state : State Thread Byte Event) (thread : Thread) : List (List Byte) :=
  match writes (state.todo thread) with
  | [] => []
  | bytes :: later => (state.progress thread ++ bytes) :: later

omit [DecidableEq Thread] in
theorem pending_of_quiet (state : State Thread Byte Event) {thread : Thread}
    (quiet : state.progress thread = []) : state.pending thread = writes (state.todo thread) := by
  simp only [pending, quiet]
  cases writes (state.todo thread) <;> rfl

/-- A step moves messages from pending to sent, and changes nothing else about them. -/
theorem exec_accounted {state next : State Thread Byte Event} {thread : Thread} {count : ℕ}
    (step : state.exec thread count = some next) (observed : Thread) :
    next.sentBy observed ++ next.pending observed =
      state.sentBy observed ++ state.pending observed := by
  rcases exec_cases step with ⟨rest, todoEq, _, rfl⟩ | ⟨rest, todoEq, _, rfl⟩ |
    ⟨bytes, rest, todoEq, _, rfl⟩ | ⟨bytes, rest, todoEq, rfl⟩ | ⟨event, rest, todoEq, rfl⟩
  all_goals by_cases same : observed = thread
  case neg => simp [sentBy, pending, same]
  case neg => simp [sentBy, pending, same]
  case neg => simp [sentBy, pending, same]
  case neg => simp [sentBy, pending, same, Ne.symm same]
  case neg => simp [sentBy, pending, same]
  all_goals subst same
  · simp [sentBy, pending, todoEq]
  · simp [sentBy, pending, todoEq]
  · simp [sentBy, pending, todoEq]
  · cases later : writes rest <;> simp [sentBy, pending, todoEq, later]
  · simp [sentBy, pending, todoEq]

/-- The finished writes only grow, and at their end. -/
theorem exec_sent {state next : State Thread Byte Event} {thread : Thread} {count : ℕ}
    (step : state.exec thread count = some next) : ∃ more, next.sent = state.sent ++ more := by
  rcases exec_cases step with ⟨rest, _, _, rfl⟩ | ⟨rest, _, _, rfl⟩ | ⟨bytes, rest, _, _, rfl⟩ |
    ⟨bytes, rest, _, rfl⟩ | ⟨event, rest, _, rfl⟩
  · exact ⟨[], (List.append_nil _).symm⟩
  · exact ⟨[], (List.append_nil _).symm⟩
  · exact ⟨[], (List.append_nil _).symm⟩
  · exact ⟨[(thread, state.progress thread ++ bytes)], rfl⟩
  · exact ⟨[], (List.append_nil _).symm⟩

/-- A step takes an event from the front of what its thread has to do, or leaves the events and
what stands behind each of them as they are. -/
theorem exec_front {state next : State Thread Byte Event} {thread : Thread} {count : ℕ}
    (step : state.exec thread count = some next) :
    (∃ event rest, state.todo thread = .other event :: rest ∧
      next = { state with todo := Function.update state.todo thread rest }) ∨
    (∃ action rest, state.todo thread = action :: rest ∧ (∀ event, action ≠ .other event) ∧
      (next.todo = Function.update state.todo thread rest ∨
        ∃ bytes, next.todo = Function.update state.todo thread (.write bytes :: rest))) := by
  rcases exec_cases step with ⟨rest, todoEq, _, rfl⟩ | ⟨rest, todoEq, _, rfl⟩ |
    ⟨bytes, rest, todoEq, _, rfl⟩ | ⟨bytes, rest, todoEq, rfl⟩ | ⟨event, rest, todoEq, rfl⟩
  · exact Or.inr ⟨_, rest, todoEq, by simp, Or.inl rfl⟩
  · exact Or.inr ⟨_, rest, todoEq, by simp, Or.inl rfl⟩
  · exact Or.inr ⟨_, rest, todoEq, by simp, Or.inr ⟨_, rfl⟩⟩
  · exact Or.inr ⟨_, rest, todoEq, by simp, Or.inl rfl⟩
  · exact Or.inl ⟨event, rest, todoEq, rfl⟩

/-- Giving an idle thread new actions makes their messages pending and changes no other one. -/
theorem submit_accounted {state : State Thread Byte Event} (sound : state.Sound)
    {thread : Thread} (todoEq : state.todo thread = []) (actions : List (Action Byte Event))
    (observed : Thread) :
    (state.submit thread actions).sentBy observed ++
        (state.submit thread actions).pending observed =
      (state.sentBy observed ++ state.pending observed) ++
        if observed = thread then writes actions else [] := by
  have quiet := (sound.idle todoEq).2
  by_cases same : observed = thread
  · subst same
    rw [pending_of_quiet state quiet, todoEq,
      pending_of_quiet (state.submit observed actions) quiet]
    simp [submit, sentBy]
  · simp [submit, sentBy, pending, same]

/-- The unfinished message in the stream is a proper part of the next message of its thread. -/
theorem Sound.torn_prefix {state : State Thread Byte Event} (sound : state.Sound)
    (unfinished : state.torn ≠ []) :
    ∃ thread missing later, missing ≠ [] ∧ state.owner = some thread ∧
      state.pending thread = (state.torn ++ missing) :: later := by
  cases ownerEq : state.owner with
  | none => exact absurd (by simp [torn, ownerEq]) unfinished
  | some thread =>
      have tornEq := torn_of_owner ownerEq
      rw [tornEq] at unfinished
      rcases sound.resumes thread unfinished with ⟨missing, rest, missingNe, todoEq⟩
      refine ⟨thread, missing, writes rest, missingNe, rfl, ?_⟩
      simp [pending, todoEq, tornEq]

end State

end LockedStream
