import Synapse.Library.LockedStream
import Synapse.Library.TransitionSystem

/-!
# The logger

All programs of the vehicle log through one class. A call looks at the level, takes the
mutex, writes a line into the file and shows it on the console. The file is opened before the
directory it belongs to is created, and a logger whose file is not open does nothing under
its mutex. This file embeds the calls of any number of threads over the locked stream, and
shows that the file is a sequence of whole lines and that the console follows it. Writes to
a file which is open are taken to succeed, in any number of parts.
-/

namespace Synapse

open LockedStream

inductive LogLevel where
  | info
  | warn
  | error
deriving DecidableEq

namespace LogLevel

def rank : LogLevel → ℕ
  | .info => 0
  | .warn => 1
  | .error => 2

def toStr : LogLevel → List Char
  | .info => "INFO".toList
  | .warn => "WARN".toList
  | .error => "ERROR".toList

def colorCode : LogLevel → List Char
  | .info => "\x1b[94m".toList
  | .warn => "\x1b[93m".toList
  | .error => "\x1b[91m".toList

end LogLevel

/-- A call of `write`, with the time which it reads. -/
structure LogEntry where
  level : LogLevel
  msg : List Char
  now : List Char
deriving DecidableEq

namespace LogEntry

def fileText (entry : LogEntry) : List Char :=
  ['['] ++ entry.now ++ [']', '['] ++ entry.level.toStr ++ [']', ' '] ++ entry.msg ++ ['\n']

def consoleText (entry : LogEntry) (color : Bool) : List Char :=
  let plain := ['['] ++ entry.level.toStr ++ [']', ' '] ++ entry.msg
  if color then entry.level.colorCode ++ plain ++ "\x1b[0m".toList ++ ['\n'] else plain ++ ['\n']

end LogEntry

abbrev LogAction := Action Char LogEntry

/-- A logger with the threads which call it; the console is no part of the locked stream. -/
structure Logger (Thread : Type) where
  fileOpen : Bool
  minLevel : LogLevel
  useColor : Bool
  file : State Thread Char LogEntry
  /-- The entries shown on the console, and whether in colour. -/
  shown : List (LogEntry × Bool)
  /-- The entries of a thread whose level was looked at and found high enough. -/
  accepted : Thread → List LogEntry

inductive LoggerLabel (Thread : Type) where
  | write (thread : Thread) (entry : LogEntry)
  | exec (thread : Thread) (count : ℕ)
  | setLevel (level : LogLevel)
  | enableColor (on : Bool)

namespace Logger

variable {Thread : Type} [DecidableEq Thread]

/-- `fileOpen` is whether the directory of the file was there already. -/
def constructed (fileOpen : Bool) (minLevel : LogLevel) (useColor : Bool) : Logger Thread where
  fileOpen := fileOpen
  minLevel := minLevel
  useColor := useColor
  file := start
  shown := []
  accepted := fun _ => []

def console (logger : Logger Thread) : List Char :=
  logger.shown.flatMap fun shown => shown.1.consoleText shown.2

/-- What a call does with the mutex held. -/
def guarded (fileOpen : Bool) (entry : LogEntry) : List LogAction :=
  if fileOpen then [.write entry.fileText, .other entry, .release] else [.release]

/-- A thread calls `write` when its last call has returned. -/
def write (logger : Logger Thread) (thread : Thread) (entry : LogEntry) :
    Option (Logger Thread) :=
  if logger.file.todo thread = [] then
    if entry.level.rank < logger.minLevel.rank then some logger
    else some { logger with
      file := logger.file.submit thread (.acquire :: guarded logger.fileOpen entry)
      accepted := Function.update logger.accepted thread (logger.accepted thread ++ [entry]) }
  else none

def show_ (logger : Logger Thread) : Option LogEntry → Logger Thread
  | none => logger
  | some entry => { logger with shown := logger.shown ++ [(entry, logger.useColor)] }

/-- The entry which a thread shows in its next step, if it does. -/
def toShow (todo : List LogAction) : Option LogEntry :=
  match todo with
  | .other entry :: _ => some entry
  | _ => none

def exec (logger : Logger Thread) (thread : Thread) (count : ℕ) : Option (Logger Thread) :=
  (logger.file.exec thread count).map fun file =>
    { logger with file := file }.show_ (toShow (logger.file.todo thread))

def step (logger : Logger Thread) : LoggerLabel Thread → Option (Logger Thread)
  | .write thread entry => logger.write thread entry
  | .exec thread count => logger.exec thread count
  | .setLevel level => some { logger with minLevel := level }
  | .enableColor on => some { logger with useColor := on }

end Logger

def loggerSystem (Thread : Type) [DecidableEq Thread] (fileOpen : Bool) (minLevel : LogLevel)
    (useColor : Bool) : TransitionSystem (Logger Thread) (LoggerLabel Thread) where
  initial := .constructed fileOpen minLevel useColor
  step := Logger.step

namespace Logger

variable {Thread : Type} [DecidableEq Thread] {logger next : Logger Thread}

/-! ## Where a call stands -/

/-- What is left of a call, the bytes of its line which are in the file and the entry which is
there as a whole but not on the console. -/
inductive Stage (fileOpen : Bool) : List LogAction → List Char → List LogEntry → Prop where
  | idle : Stage fileOpen [] [] []
  | waiting (entry : LogEntry) : Stage fileOpen (.acquire :: guarded fileOpen entry) [] []
  | writing {entry : LogEntry} {written missing : List Char} (isOpen : fileOpen = true)
      (whole : written ++ missing = entry.fileText) :
      Stage fileOpen [.write missing, .other entry, .release] written []
  | showing (entry : LogEntry) : Stage fileOpen [.other entry, .release] [] [entry]
  | releasing : Stage fileOpen [.release] [] []

theorem Stage.guarded (fileOpen : Bool) (entry : LogEntry) :
    Stage fileOpen (guarded fileOpen entry) [] [] := by
  cases fileOpen with
  | true => exact .writing rfl rfl
  | false => exact .releasing

theorem disciplined_guarded (fileOpen : Bool) (entry : LogEntry) :
    Disciplined true (guarded fileOpen entry) := by
  cases fileOpen <;> simp [guarded, Disciplined]

theorem writes_guarded (fileOpen : Bool) (entry : LogEntry) :
    writes (guarded fileOpen entry) = if fileOpen then [entry.fileText] else [] := by
  cases fileOpen <;> rfl

theorem Stage.length_le {fileOpen : Bool} {todo : List LogAction} {written : List Char}
    {unshown : List LogEntry} (stage : Stage fileOpen todo written unshown) :
    unshown.length ≤ 1 := by
  cases stage with
  | showing entry => exact Nat.le_refl 1
  | _ => exact Nat.zero_le _

/-- The lines of the file are those of the entries on the console, and of at most one more which
its thread is about to show. -/
structure Follows (logger : Logger Thread) (unshown : List LogEntry) : Prop where
  stage : ∀ thread, ∃ own, Stage logger.fileOpen (logger.file.todo thread)
    (logger.file.progress thread) own ∧
      (logger.file.owner = some thread → own = unshown)
  free : logger.file.owner = none → unshown = []
  lines : logger.file.sent.map Prod.snd =
    (logger.shown.map Prod.fst ++ unshown).map LogEntry.fileText

/-- The lines of the accepted entries are finished or pending, if the file is open. -/
def Accounts (logger : Logger Thread) : Prop :=
  ∀ thread, logger.file.sentBy thread ++ logger.file.pending thread =
    if logger.fileOpen then (logger.accepted thread).map LogEntry.fileText else []

/-! ## Calls -/

theorem write_cases {thread : Thread} {entry : LogEntry}
    (stepEq : logger.write thread entry = some next) :
    logger.file.todo thread = [] ∧ (next = logger ∨ next = { logger with
      file := logger.file.submit thread (.acquire :: guarded logger.fileOpen entry)
      accepted := Function.update logger.accepted thread
        (logger.accepted thread ++ [entry]) }) := by
  rw [write] at stepEq
  split at stepEq
  next idle =>
    refine ⟨idle, ?_⟩
    split at stepEq
    · exact Or.inl (Option.some.inj stepEq).symm
    · exact Or.inr (Option.some.inj stepEq).symm
  next => simp at stepEq

theorem sound_write (sound : logger.file.Sound) {thread : Thread} {entry : LogEntry}
    (stepEq : logger.write thread entry = some next) : next.file.Sound := by
  rcases write_cases stepEq with ⟨idle, rfl | rfl⟩
  · exact sound
  · apply State.submit_sound sound idle
    exact ⟨rfl, disciplined_guarded _ _⟩

theorem accounts_write (sound : logger.file.Sound) (accounts : logger.Accounts)
    {thread : Thread} {entry : LogEntry} (stepEq : logger.write thread entry = some next) :
    next.Accounts := by
  rcases write_cases stepEq with ⟨idle, rfl | rfl⟩
  · exact accounts
  · intro observed
    have submitted := State.submit_accounted sound idle
      (.acquire :: guarded logger.fileOpen entry) observed
    refine submitted.trans ?_
    rw [accounts observed, writes_acquire, writes_guarded]
    by_cases same : observed = thread
    · subst same
      cases logger.fileOpen <;> simp
    · simp [same]

theorem follows_write {unshown : List LogEntry} (sound : logger.file.Sound)
    (follows : logger.Follows unshown) {thread : Thread} {entry : LogEntry}
    (stepEq : logger.write thread entry = some next) : next.Follows unshown := by
  rcases write_cases stepEq with ⟨idle, rfl | rfl⟩
  · exact follows
  · refine ⟨?_, follows.free, follows.lines⟩
    intro observed
    by_cases same : observed = thread
    · subst same
      refine ⟨[], ?_, fun held => absurd held (sound.idle idle).1⟩
      have quiet := (sound.idle idle).2
      simpa [State.submit, quiet] using Stage.waiting entry
    · rcases follows.stage observed with ⟨own, stage, owns⟩
      refine ⟨own, ?_, owns⟩
      simpa [State.submit, same] using stage

/-! ## Steps of a call -/

/-- What a step of a thread has to show for the console to follow the file. -/
theorem Follows.step {unshown later : List LogEntry} (follows : logger.Follows unshown)
    (thread : Thread) (openEq : next.fileOpen = logger.fileOpen)
    (stage : Stage logger.fileOpen (next.file.todo thread) (next.file.progress thread) later)
    (others : ∀ other, other ≠ thread → next.file.todo other = logger.file.todo other ∧
      next.file.progress other = logger.file.progress other)
    (owner : next.file.owner = some thread ∨ next.file.owner = none ∧ later = [])
    (lines : next.file.sent.map Prod.snd =
      (next.shown.map Prod.fst ++ later).map LogEntry.fileText) :
    next.Follows later := by
  refine ⟨?_, ?_, lines⟩
  · intro observed
    by_cases same : observed = thread
    · subst same
      exact ⟨later, openEq ▸ stage, fun _ => rfl⟩
    · rcases follows.stage observed with ⟨own, ownStage, _⟩
      rcases others observed same with ⟨todoEq, progressEq⟩
      refine ⟨own, ?_, ?_⟩
      · rw [openEq, todoEq, progressEq]
        exact ownStage
      · intro held
        rcases owner with heldBy | ⟨free, _⟩
        · rw [heldBy, Option.some.injEq] at held
          exact absurd held.symm same
        · simp [free] at held
  · intro free
    rcases owner with heldBy | ⟨_, nothing⟩
    · simp [heldBy] at free
    · exact nothing

theorem exec_cases {thread : Thread} {count : ℕ} (stepEq : logger.exec thread count = some next) :
    ∃ file, logger.file.exec thread count = some file ∧
      next = { logger with file := file }.show_ (toShow (logger.file.todo thread)) := by
  rcases Option.map_eq_some_iff.mp stepEq with ⟨file, execEq, nextEq⟩
  exact ⟨file, execEq, nextEq.symm⟩

theorem follows_exec {unshown : List LogEntry} (sound : logger.file.Sound)
    (follows : logger.Follows unshown) {thread : Thread} {count : ℕ}
    (stepEq : logger.exec thread count = some next) : ∃ later, next.Follows later := by
  rcases exec_cases stepEq with ⟨file, execEq, rfl⟩
  rcases follows.stage thread with ⟨own, stage, owns⟩
  have disciplined := sound.disciplined thread
  have lines := follows.lines
  generalize todoEq : logger.file.todo thread = todo at stage disciplined
  generalize progressEq : logger.file.progress thread = progress at stage
  cases stage with
  | idle => simp [State.exec, todoEq] at execEq
  | waiting entry =>
      simp only [State.exec, todoEq, Option.ite_none_right_eq_some, Option.some.injEq] at execEq
      rcases execEq with ⟨free, rfl⟩
      rw [follows.free free] at lines
      refine ⟨[], follows.step thread rfl ?_ ?_ (Or.inl rfl) lines⟩
      · simpa [toShow, show_, progressEq] using Stage.guarded logger.fileOpen entry
      · intro other ne
        exact ⟨Function.update_of_ne ne _ _, rfl⟩
  | @writing entry _ missing isOpen whole =>
      have held := sound.owner_of_write todoEq
      rw [← owns held] at lines
      simp only [State.exec, todoEq] at execEq
      split at execEq
      · rw [Option.some.injEq] at execEq
        subst execEq
        refine ⟨[], follows.step thread rfl ?_ ?_ (Or.inl held) lines⟩
        · have part : progress ++ missing.take count ++ missing.drop count = entry.fileText := by
            rw [List.append_assoc, List.take_append_drop, whole]
          simpa [toShow, show_, progressEq] using Stage.writing isOpen part
        · intro other ne
          exact ⟨Function.update_of_ne ne _ _, Function.update_of_ne ne _ _⟩
      · rw [Option.some.injEq] at execEq
        subst execEq
        refine ⟨[entry], follows.step thread rfl ?_ ?_ (Or.inl held) ?_⟩
        · simpa [toShow, show_] using Stage.showing entry
        · intro other ne
          exact ⟨Function.update_of_ne ne _ _, Function.update_of_ne ne _ _⟩
        · simpa [toShow, show_, progressEq, whole] using lines
  | showing entry =>
      have held : logger.file.owner = some thread := by simpa [Disciplined] using disciplined
      rw [← owns held] at lines
      simp only [State.exec, todoEq, Option.some.injEq] at execEq
      subst execEq
      refine ⟨[], follows.step thread rfl ?_ ?_ (Or.inl held) ?_⟩
      · simpa [toShow, show_, progressEq] using Stage.releasing
      · intro other ne
        exact ⟨Function.update_of_ne ne _ _, rfl⟩
      · simpa [toShow, show_] using lines
  | releasing =>
      have held : logger.file.owner = some thread := by simpa [Disciplined] using disciplined
      rw [← owns held] at lines
      simp only [State.exec, todoEq, Option.ite_none_right_eq_some, Option.some.injEq] at execEq
      rcases execEq with ⟨_, rfl⟩
      refine ⟨[], follows.step thread rfl ?_ ?_ (Or.inr ⟨rfl, rfl⟩) lines⟩
      · simpa [toShow, show_, progressEq] using Stage.idle
      · intro other ne
        exact ⟨Function.update_of_ne ne _ _, rfl⟩

theorem accounts_exec (accounts : logger.Accounts) {thread : Thread} {count : ℕ}
    (stepEq : logger.exec thread count = some next) : next.Accounts := by
  rcases exec_cases stepEq with ⟨file, execEq, rfl⟩
  intro observed
  have same : ∀ entry : Option LogEntry,
      (({ logger with file := file } : Logger Thread).show_ entry).file = file ∧
      (({ logger with file := file } : Logger Thread).show_ entry).accepted = logger.accepted ∧
      (({ logger with file := file } : Logger Thread).show_ entry).fileOpen = logger.fileOpen := by
    intro entry
    cases entry <;> exact ⟨rfl, rfl, rfl⟩
  rcases same (toShow (logger.file.todo thread)) with ⟨fileEq, acceptedEq, openEq⟩
  rw [fileEq, acceptedEq, openEq, State.exec_accounted execEq observed]
  exact accounts observed

/-! ## The log of all threads -/

/-- What holds of a logger at any time. -/
structure Orderly (fileOpen : Bool) (logger : Logger Thread) : Prop where
  opened : logger.fileOpen = fileOpen
  sound : logger.file.Sound
  accounts : logger.Accounts
  follows : ∃ unshown, logger.Follows unshown

theorem orderly_constructed (fileOpen : Bool) (minLevel : LogLevel) (useColor : Bool) :
    Orderly fileOpen (constructed fileOpen minLevel useColor : Logger Thread) where
  opened := rfl
  sound := State.start_sound
  accounts := by
    intro thread
    simp [constructed, start, State.sentBy, State.pending]
  follows := ⟨[], fun _ => ⟨[], .idle, fun _ => rfl⟩, fun _ => rfl, rfl⟩

theorem orderly_step {fileOpen : Bool} (orderly : Orderly fileOpen logger)
    {label : LoggerLabel Thread} (stepEq : logger.step label = some next) :
    Orderly fileOpen next := by
  rcases orderly with ⟨opened, sound, accounts, unshown, follows⟩
  cases label with
  | write thread entry =>
      refine ⟨?_, sound_write sound stepEq, accounts_write sound accounts stepEq, unshown,
        follows_write sound follows stepEq⟩
      rcases write_cases stepEq with ⟨_, rfl | rfl⟩ <;> exact opened
  | exec thread count =>
      refine ⟨?_, ?_, accounts_exec accounts stepEq, follows_exec sound follows stepEq⟩
      · rcases exec_cases stepEq with ⟨file, _, rfl⟩
        cases toShow (logger.file.todo thread) <;> exact opened
      · rcases exec_cases stepEq with ⟨file, execEq, rfl⟩
        have soundFile := State.exec_sound sound execEq
        cases toShow (logger.file.todo thread) <;> exact soundFile
  | setLevel level =>
      rw [← Option.some.inj stepEq]
      exact ⟨opened, sound, accounts, unshown, follows.stage, follows.free, follows.lines⟩
  | enableColor on =>
      rw [← Option.some.inj stepEq]
      exact ⟨opened, sound, accounts, unshown, follows.stage, follows.free, follows.lines⟩

omit [DecidableEq Thread] in
theorem Follows.length_le {unshown : List LogEntry} (follows : logger.Follows unshown) :
    unshown.length ≤ 1 := by
  cases owner : logger.file.owner with
  | none =>
      rw [follows.free owner]
      exact Nat.zero_le _
  | some thread =>
      rcases follows.stage thread with ⟨own, stage, owns⟩
      rw [← owns owner]
      exact stage.length_le

/-- The end of the file behind its whole lines is the beginning of the line which its thread is
writing for an accepted entry. -/
theorem Orderly.torn_begins {fileOpen : Bool} (orderly : Orderly fileOpen logger)
    (unfinished : logger.file.torn ≠ []) :
    ∃ thread entry missing, entry ∈ logger.accepted thread ∧
      (logger.file.pending thread).head? = some entry.fileText ∧ missing ≠ [] ∧
      entry.fileText = logger.file.torn ++ missing := by
  rcases orderly.sound.torn_prefix unfinished with
    ⟨thread, missing, later, missingNe, _, pendingEq⟩
  have account := orderly.accounts thread
  rw [pendingEq] at account
  have line : logger.file.torn ++ missing ∈
      (logger.accepted thread).map LogEntry.fileText := by
    split at account
    · rw [← account]
      simp
    · simp at account
  rcases List.mem_map.mp line with ⟨entry, accepted, textEq⟩
  refine ⟨thread, entry, missing, accepted, ?_, missingNe, textEq⟩
  rw [pendingEq, textEq]
  rfl

/-- A file which is not open gets no line, and nothing is shown either. -/
theorem Orderly.silent (orderly : Orderly false logger) :
    logger.file.stream = [] ∧ logger.console = [] := by
  rcases orderly with ⟨closed, sound, accounts, unshown, follows⟩
  have nothing : ∀ thread, logger.file.sentBy thread = [] ∧ logger.file.pending thread = [] := by
    intro thread
    have account := accounts thread
    rw [closed, if_neg Bool.false_ne_true, List.append_eq_nil_iff] at account
    exact account
  have notSent : logger.file.sent = [] := by
    rw [List.eq_nil_iff_forall_not_mem]
    rintro ⟨thread, line⟩ sent
    have byThread : line ∈ logger.file.sentBy thread := by
      simpa [State.sentBy] using sent
    rw [(nothing thread).1] at byThread
    simp at byThread
  have notTorn : logger.file.torn = [] := by
    by_contra torn
    rcases sound.torn_prefix torn with ⟨thread, missing, later, _, _, pendingEq⟩
    rw [(nothing thread).2] at pendingEq
    simp at pendingEq
  have lines := follows.lines
  rw [notSent, List.map_nil, List.nil_eq, List.map_eq_nil_iff, List.append_eq_nil_iff,
    List.map_eq_nil_iff] at lines
  constructor
  · rw [sound.stream_eq, notSent, notTorn]
    rfl
  · rw [console, lines.1]
    rfl

end Logger

/-- Whatever the threads do, and as long as writes to the open file succeed, the file is a sequence
of whole lines with at most the beginning of one more behind them; every thread's lines are those
of its accepted entries, each once and in order, and the console shows the entries of the file in
the same order, at most one behind. A logger whose file could not be opened writes and shows
nothing. -/
theorem logger_keeps_lines {Thread : Type} [DecidableEq Thread] {fileOpen : Bool}
    {minLevel : LogLevel} {useColor : Bool} {logger : Logger Thread}
    (reached : (loggerSystem Thread fileOpen minLevel useColor).Reachable
      TransitionSystem.anyStep logger) :
    logger.file.stream = (logger.file.sent.map Prod.snd).flatten ++ logger.file.torn ∧
    (logger.file.torn ≠ [] → ∃ thread entry missing, entry ∈ logger.accepted thread ∧
      (logger.file.pending thread).head? = some entry.fileText ∧ missing ≠ [] ∧
      entry.fileText = logger.file.torn ++ missing) ∧
    (∀ thread, logger.file.sentBy thread ++ logger.file.pending thread =
      if fileOpen then (logger.accepted thread).map LogEntry.fileText else []) ∧
    (∃ unshown, unshown.length ≤ 1 ∧ logger.file.sent.map Prod.snd =
      (logger.shown.map Prod.fst ++ unshown).map LogEntry.fileText) ∧
    (fileOpen = false → logger.file.stream = [] ∧ logger.console = []) := by
  have orderly : Logger.Orderly fileOpen logger := by
    apply reached.invariant
    · exact Logger.orderly_constructed fileOpen minLevel useColor
    · intro now label later orderly _ stepEq
      exact Logger.orderly_step orderly stepEq
  rcases orderly.follows with ⟨unshown, follows⟩
  refine ⟨orderly.sound.stream_eq, orderly.torn_begins, ?_,
    ⟨unshown, follows.length_le, follows.lines⟩, ?_⟩
  · intro thread
    rw [orderly.accounts thread, orderly.opened]
  · rintro rfl
    exact orderly.silent

/-- Two threads call, the second between the two parts of the first line; its line follows. -/
def twoThreadLabels (first second : LogEntry) : List (LoggerLabel Bool) :=
  [.write false first, .exec false 0, .exec false 4, .write true second, .exec false 99,
    .exec false 0, .exec false 0, .exec true 0, .exec true 99]

def brakeEntry : LogEntry := ⟨.warn, "Brake".toList, "now".toList⟩

def speedEntry : LogEntry := ⟨.info, "Speed".toList, "now".toList⟩

theorem twoThreads_run : ∃ logger, (loggerSystem Bool true .info false).run
      (.constructed true .info false) (twoThreadLabels brakeEntry speedEntry) = some logger ∧
    logger.file.stream = "[now][WARN] Brake\n[now][INFO] Speed\n".toList ∧
    logger.console = "[WARN] Brake\n".toList :=
  ⟨_, rfl, rfl, rfl⟩

theorem logger_keeps_lines_twoThreads : ∃ logger,
    (loggerSystem Bool true .info false).run (.constructed true .info false)
      (twoThreadLabels brakeEntry speedEntry) = some logger ∧
    logger.file.stream = (logger.file.sent.map Prod.snd).flatten ++ logger.file.torn := by
  rcases twoThreads_run with ⟨logger, runEq, _⟩
  have reached := TransitionSystem.Reachable.initial.run
    ((loggerSystem Bool true .info false).allowedRun_anyStep _ _) runEq
  exact ⟨logger, runEq, (logger_keeps_lines reached).1⟩

end Synapse
