import Synapse.Library.Transducer
import Synapse.Veh.ControlService

/-!
# The console of the vehicle client

The unified client reads menu entries from its standard input and never looks at the
state of the stream. This file embeds formatted input of an integer, with the flag
which a failure leaves behind, and the loop over it. A read from a failed stream stores
nothing, and the loop then acts on whatever its uninitialised variable holds. The
file determines for which inputs the loop nevertheless sends what is asked for and ends.
-/

namespace Synapse

open Transducer

/-! ## Formatted input -/

/-- What stands between two whitespaces of the input. -/
abbrev Token := List Char

/-- The whitespace of the C locale. -/
def isSpace (char : Char) : Bool :=
  [9, 10, 11, 12, 13, 32].contains char.toNat

/-- The tokens of an input. -/
def tokensOf (input : List Char) : List Token :=
  (input.splitOnP isSpace).filter (· ≠ [])

/-- The standard input: what is left of it, and whether a read has failed. -/
structure Console where
  tokens : List Token
  failbit : Bool
deriving DecidableEq

def intMin : ℤ := -2147483648

def intMax : ℤ := 2147483647

def scanSign : Token → Bool × Token
  | '-' :: token => (true, token)
  | '+' :: token => (false, token)
  | token => (false, token)

def digitsValue (digits : List Char) : ℤ :=
  digits.foldl (fun value digit => 10 * value + (digit.toNat - '0'.toNat : ℕ)) 0

/-- The longest integer at the start of a token, if there is one, and what is behind it. -/
def scanInt (token : Token) : Option ℤ × Token :=
  let (negative, unsigned) := scanSign token
  let digits := unsigned.takeWhile Char.isDigit
  let rest := unsigned.dropWhile Char.isDigit
  if digits = [] then (none, rest)
  else (some (if negative then -digitsValue digits else digitsValue digits), rest)

namespace Console

/-- The tokens which are left when `rest` is left of the first one. -/
def unread (rest : Token) (tokens : List Token) : List Token :=
  if rest = [] then tokens else rest :: tokens

/-- `std::cin >> cmd`, where `cmd` holds `stackValue` before. -/
def extract (console : Console) (stackValue : ℤ) : ℤ × Console :=
  if console.failbit then (stackValue, console)
  else
    match console.tokens with
    | [] => (stackValue, { console with failbit := true })
    | token :: tokens =>
        match scanInt token with
        | (none, rest) => (0, ⟨unread rest tokens, true⟩)
        | (some value, rest) =>
            if value < intMin then (intMin, ⟨unread rest tokens, true⟩)
            else if intMax < value then (intMax, ⟨unread rest tokens, true⟩)
            else (value, ⟨unread rest tokens, false⟩)

end Console

/-! ## The loop -/

namespace VehUnifiedClient

def sendCommand (type : CmdType) (val : List UInt8) : List UInt8 :=
  type.toByte :: val

def menuCommand (cmd : ℤ) : Option (List UInt8) :=
  if cmd = 1 then some (sendCommand .driveDirection [0x08])
  else if cmd = 2 then some (sendCommand .driveDirection [0x02])
  else if cmd = 3 then some (sendCommand .driveDirection [0x05])
  else if cmd = 4 then some (sendCommand .aebControl [0x01])
  else if cmd = 5 then some (sendCommand .autoparkControl [0x01])
  else none

inductive StartPc where
  | reading (console : Console)
  | ended (console : Console)
deriving DecidableEq

/-- One pass of the loop of `start`; `cmd` is a new variable in each. -/
def startStep : StartPc → ℤ → StartPc × List (List UInt8)
  | .reading console, stackValue =>
      let (cmd, console) := console.extract stackValue
      if cmd = 6 then (.ended console, []) else (.reading console, (menuCommand cmd).toList)
  | .ended console, _ => (.ended console, [])

def start : Transducer StartPc ℤ (List UInt8) where
  step := startStep

end VehUnifiedClient

/-! ## What is asked for -/

/-- The value of a token which is an integer. -/
def tokenInt? (token : Token) : Option ℤ :=
  match scanInt token with
  | (some value, []) => some value
  | _ => none

/-- The commands of the menu entries in front of the first exit. -/
def expectedCommands : List Token → List (List UInt8)
  | [] => []
  | token :: tokens =>
      if tokenInt? token = some 6 then []
      else ((tokenInt? token).bind VehUnifiedClient.menuCommand).toList ++ expectedCommands tokens

/-- Where the loop is to end: behind the first exit, or where a read finds the end of the input. -/
def expectedEnd : List Token → Console
  | [] => ⟨[], true⟩
  | token :: tokens => if tokenInt? token = some 6 then ⟨tokens, false⟩ else expectedEnd tokens

/-- Whatever its variable holds, the loop sends the commands and ends. -/
def KeepsAccepting (tokens : List Token) : Prop :=
  ∀ stack : ℕ → ℤ, ∃ count,
    VehUnifiedClient.start.stateAfter (.reading ⟨tokens, false⟩) (firstInputs stack count) =
        .ended (expectedEnd tokens) ∧
      VehUnifiedClient.start.output (.reading ⟨tokens, false⟩) (firstInputs stack count) =
        expectedCommands tokens

/-! ## Tokens which are read -/

/-- The integer which a read takes off a token, when it does not fail. -/
def readInt? (token : Token) : Option (ℤ × Token) :=
  match scanInt token with
  | (some value, rest) => if intMin ≤ value ∧ value ≤ intMax then some (value, rest) else none
  | (none, _) => none

/-- The integers which consecutive reads take off a token, up to its end. -/
inductive ReadsAs : Token → List ℤ → Prop where
  | last {token : Token} {value : ℤ} (read : readInt? token = some (value, [])) :
      ReadsAs token [value]
  | more {token rest : Token} {value : ℤ} {values : List ℤ}
      (read : readInt? token = some (value, rest)) (left : rest ≠ [])
      (later : ReadsAs rest values) : ReadsAs token (value :: values)

/-- The token is read without a failure and without an exit; if it is more than one integer, none
of them is a command. -/
def Harmless (token : Token) : Prop :=
  ∃ values, ReadsAs token values ∧ 6 ∉ values ∧
    (values.length = 1 ∨ ∀ value ∈ values, VehUnifiedClient.menuCommand value = none)

/-- There is an exit, and everything in front of it is harmless. -/
def ExitsCleanly (tokens : List Token) : Prop :=
  ∃ before exit after, tokens = before ++ exit :: after ∧ tokenInt? exit = some 6 ∧
    ∀ token ∈ before, Harmless token

/-! ## Reads without a failure -/

open VehUnifiedClient

/-- Consecutive reads which all succeed, the integers they take and the tokens they leave. -/
inductive ReadsTo : List Token → List ℤ → List Token → Prop where
  | done {tokens : List Token} : ReadsTo tokens [] tokens
  | read {token rest : Token} {value : ℤ} {tokens left : List Token} {values : List ℤ}
      (read : readInt? token = some (value, rest))
      (later : ReadsTo (Console.unread rest tokens) values left) :
      ReadsTo (token :: tokens) (value :: values) left

/-- What the loop sends for the integers it reads. -/
def sentFor (values : List ℤ) : List (List UInt8) :=
  values.flatMap fun value => (menuCommand value).toList

/-- What is to be sent for a token. -/
def commandOf (token : Token) : List (List UInt8) :=
  ((tokenInt? token).bind menuCommand).toList

theorem Console.unread_of_ne_nil {rest : Token} (left : rest ≠ []) (tokens : List Token) :
    unread rest tokens = rest :: tokens :=
  if_neg left

theorem Console.extract_of_readInt? {token rest : Token} {value : ℤ}
    (read : readInt? token = some (value, rest)) (tokens : List Token) (stackValue : ℤ) :
    extract ⟨token :: tokens, false⟩ stackValue = (value, ⟨unread rest tokens, false⟩) := by
  rcases scanned : scanInt token with ⟨_ | scannedValue, scannedRest⟩
  · simp [readInt?, scanned] at read
  · simp only [readInt?, scanned, Option.ite_none_right_eq_some, Option.some.injEq,
      Prod.mk.injEq] at read
    rcases read with ⟨⟨aboveMin, belowMax⟩, rfl, rfl⟩
    simp [extract, scanned, Int.not_lt.mpr aboveMin, Int.not_lt.mpr belowMax]

/-- A read which fails leaves the flag behind and a value which is not an exit. -/
theorem Console.extract_of_readInt?_eq_none {token : Token} (fails : readInt? token = none)
    (tokens : List Token) (stackValue : ℤ) :
    ∃ value left, extract ⟨token :: tokens, false⟩ stackValue = (value, ⟨left, true⟩) ∧
      value ≠ 6 := by
  rcases scanned : scanInt token with ⟨_ | value, rest⟩
  · exact ⟨0, unread rest tokens, by simp [extract, scanned], by decide⟩
  · have outside : ¬(intMin ≤ value ∧ value ≤ intMax) := by
      intro inside
      simp [readInt?, scanned, inside] at fails
    by_cases below : value < intMin
    · exact ⟨intMin, unread rest tokens, by simp [extract, scanned, below], by decide⟩
    · have above : intMax < value := by
        by_contra notAbove
        exact outside ⟨Int.not_lt.mp below, Int.not_lt.mp notAbove⟩
      exact ⟨intMax, unread rest tokens, by simp [extract, scanned, below, above], by decide⟩

theorem ReadsTo.of_readsAs {token : Token} {values : List ℤ} (reads : ReadsAs token values)
    {tokens left : List Token} {laterValues : List ℤ} (later : ReadsTo tokens laterValues left) :
    ReadsTo (token :: tokens) (values ++ laterValues) left := by
  induction reads with
  | last read => exact .read read later
  | more read restLeft _ ih =>
      apply ReadsTo.read read
      rw [Console.unread_of_ne_nil restLeft]
      exact ih

/-- Reads which get past a token read it to its end first. -/
theorem ReadsTo.split {token : Token} {tokens left : List Token} {values : List ℤ}
    (reads : ReadsTo (token :: tokens) values left) (past : left.length ≤ tokens.length) :
    ∃ first second, values = first ++ second ∧ ReadsAs token first ∧
      ReadsTo tokens second left := by
  generalize whole : token :: tokens = input at reads
  induction reads generalizing token with
  | done =>
      subst whole
      rw [List.length_cons] at past
      omega
  | @read _ rest value _ _ values read later ih =>
      rcases List.cons.inj whole with ⟨rfl, rfl⟩
      by_cases ended : rest = []
      · subst ended
        exact ⟨[value], values, rfl, .last read, later⟩
      · rw [Console.unread_of_ne_nil ended] at later ih
        rcases ih past rfl with ⟨first, second, rfl, readsRest, readsLater⟩
        exact ⟨value :: first, second, rfl, .more read ended readsRest, readsLater⟩

theorem ReadsTo.groups {before tail left : List Token} {values : List ℤ}
    (reads : ReadsTo (before ++ tail) values left) (past : left.length ≤ tail.length) :
    ∃ groups rest, values = groups.flatten ++ rest ∧ List.Forall₂ ReadsAs before groups ∧
      ReadsTo tail rest left := by
  induction before generalizing values with
  | nil => exact ⟨[], values, rfl, .nil, reads⟩
  | cons token before ih =>
      have pastToken : left.length ≤ (before ++ tail).length := by
        rw [List.length_append]
        omega
      rcases reads.split pastToken with ⟨first, second, rfl, readsToken, later⟩
      rcases ih later with ⟨groups, rest, rfl, readsBefore, readsTail⟩
      refine ⟨first :: groups, rest, ?_, .cons readsToken readsBefore, readsTail⟩
      rw [List.flatten_cons, List.append_assoc]

/-! ## Runs -/

theorem startStep_of_readInt? {token rest : Token} {value : ℤ}
    (read : readInt? token = some (value, rest)) (notExit : value ≠ 6) (tokens : List Token)
    (stackValue : ℤ) :
    start.step (.reading ⟨token :: tokens, false⟩) stackValue =
      (.reading ⟨Console.unread rest tokens, false⟩, (menuCommand value).toList) := by
  simp [start, startStep, Console.extract_of_readInt? read, notExit]

theorem startStep_of_exit {token rest : Token} (read : readInt? token = some (6, rest))
    (tokens : List Token) (stackValue : ℤ) :
    start.step (.reading ⟨token :: tokens, false⟩) stackValue =
      (.ended ⟨Console.unread rest tokens, false⟩, []) := by
  simp [start, startStep, Console.extract_of_readInt? read]

/-- A failed stream is never read again: the loop acts on what its variable holds. -/
theorem run_of_failed (tokens : List Token) {stackValue : ℤ} (notExit : stackValue ≠ 6)
    (count : ℕ) :
    start.stateAfter (.reading ⟨tokens, true⟩) (List.replicate count stackValue) =
        .reading ⟨tokens, true⟩ ∧
      start.output (.reading ⟨tokens, true⟩) (List.replicate count stackValue) =
        (List.replicate count (menuCommand stackValue).toList).flatten := by
  have stays : start.step (.reading ⟨tokens, true⟩) stackValue =
      (.reading ⟨tokens, true⟩, (menuCommand stackValue).toList) := by
    simp [start, startStep, Console.extract, notExit]
  induction count with
  | zero => exact ⟨rfl, rfl⟩
  | succ count ih =>
      rw [List.replicate_succ, List.replicate_succ, List.flatten_cons]
      rcases start.run_of_step stays (List.replicate count stackValue) with ⟨stateEq, outputEq⟩
      rw [stateEq, outputEq, ih.1, ih.2]
      exact ⟨rfl, rfl⟩

theorem run_of_ended (console : Console) (stack : List ℤ) :
    start.stateAfter (.ended console) stack = .ended console ∧
      start.output (.ended console) stack = [] := by
  apply start.run_of_absorbing
  intro stackValue _
  rfl

/-- Reads which succeed do not depend on what the variable held. -/
theorem run_of_readsTo {tokens left : List Token} {values : List ℤ}
    (reads : ReadsTo tokens values left) (noExit : 6 ∉ values) {stack : List ℤ}
    (enough : stack.length = values.length) :
    start.stateAfter (.reading ⟨tokens, false⟩) stack = .reading ⟨left, false⟩ ∧
      start.output (.reading ⟨tokens, false⟩) stack = sentFor values := by
  induction reads generalizing stack with
  | done =>
      rw [List.length_nil, List.length_eq_zero_iff] at enough
      subst enough
      exact ⟨rfl, rfl⟩
  | @read _ _ _ tokens _ _ read later ih =>
      rcases List.exists_cons_of_length_eq_add_one enough with ⟨stackValue, stack, rfl⟩
      rw [List.mem_cons, not_or] at noExit
      have stepEq := startStep_of_readInt? read (Ne.symm noExit.1) tokens stackValue
      rcases start.run_of_step stepEq stack with ⟨stateEq, outputEq⟩
      rcases ih noExit.2 (Nat.succ.inj enough) with ⟨laterState, laterOutput⟩
      rw [stateEq, outputEq, laterState, laterOutput]
      exact ⟨rfl, rfl⟩

/-- When the variable holds no entry, only an exit which is read ends the loop. -/
theorem readsTo_of_ended {tokens : List Token} {count : ℕ} {console : Console}
    (ends : start.stateAfter (.reading ⟨tokens, false⟩) (List.replicate count 0) =
      .ended console) :
    ∃ values left, ReadsTo tokens (values ++ [6]) left ∧ 6 ∉ values ∧
      console = ⟨left, false⟩ ∧
      start.output (.reading ⟨tokens, false⟩) (List.replicate count 0) = sentFor values := by
  induction count generalizing tokens with
  | zero => cases ends
  | succ count ih =>
      rw [List.replicate_succ] at ends ⊢
      -- A read which fails leaves a stream from which the loop does not end.
      have failed : ∀ left sent,
          start.step (.reading ⟨tokens, false⟩) 0 ≠ (.reading ⟨left, true⟩, sent) := by
        intro left sent stepEq
        rw [(start.run_of_step stepEq _).1, (run_of_failed left (by decide) count).1] at ends
        cases ends
      cases tokens with
      | nil => exact absurd rfl (failed [] [])
      | cons token tokens =>
          rcases read : readInt? token with _ | ⟨value, rest⟩
          · rcases Console.extract_of_readInt?_eq_none read tokens 0 with
              ⟨value, left, extracted, notExit⟩
            apply absurd _ (failed left (menuCommand value).toList)
            simp [start, startStep, extracted, notExit]
          · by_cases exits : value = 6
            · subst exits
              rcases start.run_of_step (startStep_of_exit read tokens 0) (List.replicate count 0)
                with ⟨stateEq, outputEq⟩
              rw [stateEq, (run_of_ended _ _).1] at ends
              refine ⟨[], Console.unread rest tokens, .read read .done, List.not_mem_nil, ?_, ?_⟩
              · exact (StartPc.ended.inj ends).symm
              · rw [outputEq, (run_of_ended _ _).2]
                rfl
            · rcases start.run_of_step (startStep_of_readInt? read exits tokens 0)
                (List.replicate count 0) with ⟨stateEq, outputEq⟩
              rw [stateEq] at ends
              rcases ih ends with ⟨values, left, reads, noExit, consoleEq, sent⟩
              refine ⟨value :: values, left, .read read reads, ?_, consoleEq, ?_⟩
              · rw [List.mem_cons, not_or]
                exact ⟨Ne.symm exits, noExit⟩
              · rw [outputEq, sent]
                rfl

/-! ## Tokens in front of the exit -/

theorem readInt?_of_tokenInt? {token : Token} {value : ℤ} (isInt : tokenInt? token = some value)
    (aboveMin : intMin ≤ value) (belowMax : value ≤ intMax) :
    readInt? token = some (value, []) := by
  rcases scanned : scanInt token with ⟨_ | scannedValue, _ | ⟨char, rest⟩⟩
  all_goals simp only [tokenInt?, scanned, reduceCtorEq, Option.some.injEq] at isInt
  subst isInt
  simp [readInt?, scanned, aboveMin, belowMax]

theorem tokenInt?_of_readInt? {token rest : Token} {value : ℤ}
    (read : readInt? token = some (value, rest)) :
    tokenInt? token = if rest = [] then some value else none := by
  rcases scanned : scanInt token with ⟨_ | scannedValue, scannedRest⟩
  · simp [readInt?, scanned] at read
  · simp only [readInt?, scanned, Option.ite_none_right_eq_some, Option.some.injEq,
      Prod.mk.injEq] at read
    rcases read with ⟨_, rfl, rfl⟩
    cases scannedRest with
    | nil => simp [tokenInt?, scanned]
    | cons char rest => simp [tokenInt?, scanned]

theorem readInt?_of_exit {token : Token} (exits : tokenInt? token = some 6) :
    readInt? token = some (6, []) :=
  readInt?_of_tokenInt? exits (by decide) (by decide)

theorem ReadsAs.eq_of_exit {token : Token} {values : List ℤ} (reads : ReadsAs token values)
    (exits : tokenInt? token = some 6) : values = [6] := by
  have readExit := readInt?_of_exit exits
  cases reads with
  | last read =>
      rw [readExit] at read
      cases read
      rfl
  | more read left _ =>
      rw [readExit] at read
      cases read
      exact absurd rfl left

/-- A token is read as at least what it asks for, and as nothing else when it is one integer or
several of which none is a menu entry. -/
theorem ReadsAs.commands {token : Token} {values : List ℤ} (reads : ReadsAs token values) :
    (commandOf token).length ≤ (sentFor values).length ∧
      (commandOf token = sentFor values ↔
        values.length = 1 ∨ ∀ value ∈ values, menuCommand value = none) := by
  cases reads with
  | @last _ value read =>
      have same : commandOf token = sentFor [value] := by
        simp [commandOf, sentFor, tokenInt?_of_readInt? read]
      exact ⟨same ▸ le_refl _, iff_of_true same (Or.inl rfl)⟩
  | @more _ _ value values read left later =>
      have nothing : commandOf token = [] := by
        simp [commandOf, tokenInt?_of_readInt? read, left]
      rw [nothing]
      refine ⟨Nat.zero_le _, ?_⟩
      have several : (value :: values).length ≠ 1 := by
        cases later <;> simp
      simp only [several, false_or]
      rw [sentFor, eq_comm, List.flatMap_eq_nil_iff]
      simp only [Option.toList_eq_nil_iff]

theorem sentFor_append (first second : List ℤ) :
    sentFor (first ++ second) = sentFor first ++ sentFor second :=
  List.flatMap_append

theorem expected_append {before : List Token}
    (noExit : ∀ token ∈ before, tokenInt? token ≠ some 6) (tokens : List Token) :
    expectedCommands (before ++ tokens) = before.flatMap commandOf ++ expectedCommands tokens ∧
      expectedEnd (before ++ tokens) = expectedEnd tokens := by
  induction before with
  | nil => exact ⟨rfl, rfl⟩
  | cons token before ih =>
      rcases List.forall_mem_cons.mp noExit with ⟨notExit, later⟩
      rcases ih later with ⟨commandsEq, endEq⟩
      rw [List.cons_append, expectedCommands, if_neg notExit, expectedEnd, if_neg notExit,
        commandsEq, endEq, List.flatMap_cons, List.append_assoc]
      exact ⟨rfl, rfl⟩

theorem expected_of_exit {exit : Token} (exits : tokenInt? exit = some 6) (after : List Token) :
    expectedCommands (exit :: after) = [] ∧ expectedEnd (exit :: after) = ⟨after, false⟩ := by
  rw [expectedCommands, expectedEnd, if_pos exits, if_pos exits]
  exact ⟨rfl, rfl⟩

/-- The loop is to end on a stream which has not failed only behind a first exit. -/
theorem exit_of_expectedEnd {tokens left : List Token} (ends : expectedEnd tokens = ⟨left, false⟩) :
    ∃ before exit, tokens = before ++ exit :: left ∧ tokenInt? exit = some 6 ∧
      ∀ token ∈ before, tokenInt? token ≠ some 6 := by
  induction tokens with
  | nil => cases ends
  | cons token tokens ih =>
      rw [expectedEnd] at ends
      by_cases exits : tokenInt? token = some 6
      · rw [if_pos exits] at ends
        cases ends
        exact ⟨[], token, rfl, exits, List.forall_mem_nil _⟩
      · rw [if_neg exits] at ends
        rcases ih ends with ⟨before, exit, rfl, exitEq, noExit⟩
        exact ⟨token :: before, exit, rfl, exitEq, List.forall_mem_cons.mpr ⟨exits, noExit⟩⟩

theorem Harmless.not_exit {token : Token} (harmless : Harmless token) :
    tokenInt? token ≠ some 6 := by
  intro exits
  rcases harmless with ⟨values, reads, noExit, _⟩
  rw [reads.eq_of_exit exits] at noExit
  exact noExit (List.mem_singleton_self 6)

/-- Harmless tokens are read to their ends, and as what they ask for. -/
theorem readsTo_of_harmless {before : List Token} (harmless : ∀ token ∈ before, Harmless token)
    (tokens : List Token) :
    ∃ values, ReadsTo (before ++ tokens) values tokens ∧ 6 ∉ values ∧
      sentFor values = before.flatMap commandOf := by
  induction before with
  | nil => exact ⟨[], .done, List.not_mem_nil, rfl⟩
  | cons token before ih =>
      rcases List.forall_mem_cons.mp harmless with ⟨⟨first, reads, noExit, shape⟩, later⟩
      rcases ih later with ⟨values, readsBefore, noLaterExit, sent⟩
      refine ⟨first ++ values, readsBefore.of_readsAs reads, ?_, ?_⟩
      · rw [List.mem_append, not_or]
        exact ⟨noExit, noLaterExit⟩
      · rw [sentFor_append, sent, List.flatMap_cons, reads.commands.2.mpr shape]

/-- When tokens are read as what they ask for, each of them is. -/
theorem harmless_of_sentFor {before : List Token} {groups : List (List ℤ)}
    (reads : List.Forall₂ ReadsAs before groups) (noExit : 6 ∉ groups.flatten) :
    (before.flatMap commandOf).length ≤ (sentFor groups.flatten).length ∧
      (before.flatMap commandOf = sentFor groups.flatten → ∀ token ∈ before, Harmless token) := by
  induction reads with
  | nil => exact ⟨le_refl _, fun _ => List.forall_mem_nil _⟩
  | @cons token values before groups readsToken _ ih =>
      rw [List.flatten_cons, List.mem_append, not_or] at noExit
      rcases ih noExit.2 with ⟨laterShorter, laterHarmless⟩
      rcases readsToken.commands with ⟨shorter, same⟩
      rw [List.flatten_cons, sentFor_append, List.flatMap_cons, List.length_append,
        List.length_append]
      refine ⟨Nat.add_le_add shorter laterShorter, ?_⟩
      intro sent
      have lengths := congrArg List.length sent
      rw [List.length_append, List.length_append] at lengths
      rcases List.append_inj sent (by omega) with ⟨sentToken, sentLater⟩
      rw [List.forall_mem_cons]
      exact ⟨⟨values, readsToken, noExit.1, same.mp sentToken⟩, laterHarmless sentLater⟩

/-! ## Main results -/

theorem keepsAccepting_of_exitsCleanly {tokens : List Token} (clean : ExitsCleanly tokens) :
    KeepsAccepting tokens := by
  rcases clean with ⟨before, exit, after, rfl, exits, harmless⟩
  intro stack
  rcases readsTo_of_harmless harmless (exit :: after) with ⟨values, reads, noExit, sent⟩
  rcases run_of_readsTo reads noExit (length_firstInputs stack values.length) with
    ⟨stateEq, outputEq⟩
  have notExits : ∀ token ∈ before, tokenInt? token ≠ some 6 := by
    intro token tokenMem
    exact (harmless token tokenMem).not_exit
  rcases expected_append notExits (exit :: after) with ⟨commandsEq, endEq⟩
  rcases expected_of_exit exits after with ⟨noCommands, exitEnd⟩
  use values.length + 1
  rw [firstInputs_succ, stateAfter_concat, output_concat, stateEq, outputEq,
    startStep_of_exit (readInt?_of_exit exits), commandsEq, endEq, noCommands, exitEnd, sent]
  exact ⟨rfl, rfl⟩

theorem exitsCleanly_of_keepsAccepting {tokens : List Token} (keeps : KeepsAccepting tokens) :
    ExitsCleanly tokens := by
  rcases keeps (fun _ => 0) with ⟨count, ends, sent⟩
  rw [firstInputs_const] at ends sent
  rcases readsTo_of_ended ends with ⟨values, left, reads, noExit, endEq, outputEq⟩
  rcases exit_of_expectedEnd endEq with ⟨before, exit, rfl, exits, notExits⟩
  refine ⟨before, exit, left, rfl, exits, ?_⟩
  rcases reads.groups (by rw [List.length_cons]; omega) with
    ⟨groups, rest, valuesEq, readsBefore, readsTail⟩
  rcases readsTail.split (le_refl _) with ⟨first, second, rfl, readsExit, _⟩
  -- The exit is read as the first exit, so nothing is read behind it.
  rw [readsExit.eq_of_exit exits] at valuesEq
  rcases (List.append_cons_inj_of_notMem noExit List.not_mem_nil).mp valuesEq with
    ⟨rfl, _, _⟩
  apply (harmless_of_sentFor readsBefore noExit).2
  rw [← outputEq, sent, (expected_append notExits _).1, (expected_of_exit exits _).1,
    List.append_nil]

/-- The console does what it is asked for exactly when an exit is reached through tokens which are
read without a failure. -/
theorem console_keepsAccepting_iff (input : List Char) :
    KeepsAccepting (tokensOf input) ↔ ExitsCleanly (tokensOf input) :=
  ⟨exitsCleanly_of_keepsAccepting, keepsAccepting_of_exitsCleanly⟩

example : ExitsCleanly (tokensOf ['9', ' ', '3', '\n', '6']) := by
  refine ⟨[['9'], ['3']], ['6'], [], by decide, by decide, ?_⟩
  rintro token (_ | ⟨_, _ | ⟨_, ⟨⟩⟩⟩)
  · exact ⟨[9], .last (by decide), by decide, Or.inl rfl⟩
  · exact ⟨[3], .last (by decide), by decide, Or.inl rfl⟩

/-- After a typo neither the stop which follows is sent nor the exit which follows is taken. -/
theorem not_keepsAccepting_typo : ¬KeepsAccepting (tokensOf ['x', ' ', '3', ' ', '6']) := by
  intro keeps
  rcases keeps (fun _ => 0) with ⟨count, ends, _⟩
  rw [firstInputs_const] at ends
  have tokensEq : tokensOf ['x', ' ', '3', ' ', '6'] = [['x'], ['3'], ['6']] := by decide
  rw [tokensEq] at ends
  cases count with
  | zero => cases ends
  | succ count =>
      have stepEq : start.step (.reading ⟨[['x'], ['3'], ['6']], false⟩) 0 =
          (.reading ⟨[['x'], ['3'], ['6']], true⟩, []) := by decide
      rw [List.replicate_succ, (start.run_of_step stepEq _).1,
        (run_of_failed _ (by decide) count).1] at ends
      cases ends

end Synapse
