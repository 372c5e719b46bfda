import Synapse.Veh.Console
import Synapse.Veh.Panel

/-!
# The command line client

The command line client reads a command type and, for two of them, a value. Texts are
converted by `std::stoi`, which throws when it finds no number, and nothing catches what it
throws: the client is terminated. This file embeds the prompt over the formatted
input of the console, and shows that it comes to its end on every input, and that
commands typed as it asks for reach the CAN bus.
-/

namespace Synapse

open Transducer

/-! ## Texts and numbers -/

/-- The value of a hexadecimal digit. -/
def hexDigit? (char : Char) : Option ℕ :=
  if char.isDigit then some (char.toNat - '0'.toNat)
  else if 'a' ≤ char ∧ char ≤ 'f' then some (char.toNat - 'a'.toNat + 10)
  else if 'A' ≤ char ∧ char ≤ 'F' then some (char.toNat - 'A'.toNat + 10)
  else none

def isHexDigit (char : Char) : Bool :=
  (hexDigit? char).isSome

/-- The prefix of a hexadecimal number counts only in front of a digit. -/
def skipHexPrefix : Token → Token
  | '0' :: mark :: digit :: rest =>
      if (mark = 'x' ∨ mark = 'X') ∧ isHexDigit digit then digit :: rest
      else '0' :: mark :: digit :: rest
  | token => token

def hexValue (digits : List Char) : ℤ :=
  digits.foldl (fun value digit => 16 * value + ((hexDigit? digit).getD 0 : ℕ)) 0

/-- `std::stoi` with base 16; it throws when there is no number or no room for it. -/
def stoi16 (token : Token) : Option ℤ :=
  let (negative, unsigned) := scanSign token
  let digits := (skipHexPrefix unsigned).takeWhile isHexDigit
  let value := if negative then -hexValue digits else hexValue digits
  if digits ≠ [] ∧ intMin ≤ value ∧ value ≤ intMax then some value else none

/-- `std::cin >> input` into an empty string. -/
def Console.extractString (console : Console) : Token × Console :=
  if console.failbit then ([], console)
  else
    match console.tokens with
    | [] => ([], { console with failbit := true })
    | token :: tokens => (token, { console with tokens := tokens })

/-! ## The prompt -/

namespace VehCli

def send (type : UInt8) (val : List UInt8) : List UInt8 :=
  type :: val

inductive CliPc where
  | prompting (console : Console)
  /-- An exception has left the prompt. -/
  | terminated
deriving DecidableEq

/-- One pass of the loop; `s` holds `stackValue` before it is read. -/
def runCli : CliPc → ℤ → CliPc × List (List UInt8)
  | .terminated, _ => (.terminated, [])
  | .prompting console, stackValue =>
      let (input, console) := console.extractString
      match stoi16 input with
      | none => (.terminated, [])
      | some type =>
          let cmdType := UInt8.ofInt type
          if cmdType = 0x01 then
            let (d, console) := console.extractString
            match stoi16 d with
            | none => (.terminated, [])
            | some dir => (.prompting console, [send cmdType [UInt8.ofInt dir]])
          else if cmdType = 0x02 then
            let (s, console) := console.extract stackValue
            (.prompting console, [send cmdType [UInt8.ofInt s]])
          else (.prompting console, [send cmdType []])

def machine : Transducer CliPc ℤ (List UInt8) where
  step := runCli

/-! ## The end of the input -/

/-- What is left to read, a failed read included. -/
def unreadLength (console : Console) : ℕ :=
  if console.failbit then 1 else 2 + (console.tokens.map fun token => token.length + 1).sum

def passesLeft : CliPc → ℕ
  | .prompting console => unreadLength console
  | .terminated => 0

/-- A string is read to its end, and an empty one only from a stream which has nothing left. -/
theorem unreadLength_extractString (console : Console) :
    unreadLength console.extractString.2 ≤ unreadLength console ∧
      (console.extractString.1 = [] ∨
        unreadLength console.extractString.2 < unreadLength console) := by
  rcases console with ⟨tokens, failbit⟩
  cases failbit with
  | true => exact ⟨le_refl _, Or.inl rfl⟩
  | false =>
      cases tokens with
      | nil => exact ⟨by decide, Or.inl rfl⟩
      | cons token tokens =>
          have lower : unreadLength ⟨tokens, false⟩ < unreadLength ⟨token :: tokens, false⟩ := by
            simp only [unreadLength, List.map_cons, List.sum_cons]
            simp
          exact ⟨le_of_lt lower, Or.inr lower⟩

theorem length_scanInt (token : Token) : (scanInt token).2.length ≤ token.length := by
  have unsigned : (scanSign token).2.length ≤ token.length := by
    unfold scanSign
    split <;> simp
  have rest : (scanInt token).2 = (scanSign token).2.dropWhile Char.isDigit := by
    simp only [scanInt]
    split <;> rfl
  rw [rest]
  exact (List.dropWhile_suffix _).length_le.trans unsigned

/-- An integer takes nothing back that has been read. -/
theorem unreadLength_extract (console : Console) (stackValue : ℤ) :
    unreadLength (console.extract stackValue).2 ≤ unreadLength console := by
  rcases console with ⟨tokens, failbit⟩
  cases failbit with
  | true => exact le_refl _
  | false =>
      cases tokens with
      | nil => simp [unreadLength, Console.extract]
      | cons token tokens =>
          have shorter := length_scanInt token
          have kept : unreadLength ⟨Console.unread (scanInt token).2 tokens, false⟩ ≤
              unreadLength ⟨token :: tokens, false⟩ := by
            rw [Console.unread]
            split
            · simp [unreadLength]
            · simp only [unreadLength, List.map_cons, List.sum_cons]
              simpa using shorter
          have failed : ∀ left,
              unreadLength ⟨left, true⟩ ≤ unreadLength ⟨token :: tokens, false⟩ := by
            intro left
            simp only [unreadLength]
            simp
            omega
          rcases scanned : scanInt token with ⟨_ | value, rest⟩
          · simp only [Console.extract, scanned]
            exact failed _
          · rw [scanned] at kept
            simp only [Console.extract, scanned]
            split
            · simp at *
            · split
              · exact failed _
              · split
                · exact failed _
                · exact kept

/-- Every pass lowers what is left, or ends the prompt. -/
theorem passesLeft_runCli (console : Console) (stackValue : ℤ) :
    (runCli (.prompting console) stackValue).1 = .terminated ∨
      passesLeft (runCli (.prompting console) stackValue).1 + 1 ≤ unreadLength console := by
  rcases unreadLength_extractString console with ⟨_, empty | lower⟩
  · left
    have fails : stoi16 [] = none := by decide
    simp only [runCli, empty, fails]
  · cases input : stoi16 console.extractString.1 with
    | none =>
        left
        simp only [runCli, input]
    | some type =>
        have string := (unreadLength_extractString console.extractString.2).1
        have integer := unreadLength_extract console.extractString.2 stackValue
        simp only [runCli, input]
        split
        · split
          · exact Or.inl rfl
          · right
            simp only [passesLeft]
            omega
        · split
          · right
            simp only [passesLeft]
            omega
          · right
            simp only [passesLeft]
            omega

end VehCli

/-- Whatever is typed and whatever the variable holds, the prompt ends: it is left by an exception
after at most as many passes as there are characters and tokens, and two more. -/
theorem cli_terminates (tokens : List Token) {stack : List ℤ}
    (enough : (tokens.map fun token => token.length + 1).sum + 2 ≤ stack.length) :
    VehCli.machine.stateAfter (.prompting ⟨tokens, false⟩) stack = .terminated := by
  apply VehCli.machine.halted_of_measure (fun pc => pc = .terminated) (fun _ => True)
    (fun _ => true) VehCli.passesLeft
  · rintro state stackValue rfl
    rfl
  · intro _ _ _
    trivial
  · rintro (console | _) _ running
    · rw [VehCli.passesLeft, VehCli.unreadLength]
      split <;> omega
    · exact absurd rfl running
  · rintro (console | _) stackValue _ running
    · exact VehCli.passesLeft_runCli console stackValue
    · exact absurd rfl running
  · trivial
  · rw [List.countP_true]
    simpa [VehCli.passesLeft, VehCli.unreadLength, Nat.add_comm] using enough

/-- A speed is asked for and the input ends: the variable's value is sent, and the prompt ends. -/
theorem cli_terminates_missingSpeed :
    VehCli.machine.stateAfter (.prompting ⟨[['2']], false⟩) [77, 77, 77, 77] = .terminated :=
  cli_terminates [['2']] (by decide)

/-! ## Typed commands -/

/-- What the prompt asks for. -/
inductive CliCommand where
  | drive (dir : DriveDir)
  | speed (percent : Fin 101)
  | emergencyStop
deriving DecidableEq

namespace CliCommand

/-- The answers to the questions of the prompt. -/
def tokens : CliCommand → List Token
  | .drive dir => [['1'], '0' :: Nat.toDigits 16 dir.toByte.toNat]
  | .speed percent => [['2'], Nat.toDigits 10 percent.val]
  | .emergencyStop => [['F', 'E']]

def command : CliCommand → Command
  | .drive dir => .driveDirection dir
  | .speed percent => .driveSpeed (UInt8.ofNat percent.val)
  | .emergencyStop => .faultEmergency []

/-- The text of some commands, one token on a line. -/
def typed (commands : List CliCommand) : List Char :=
  (commands.flatMap tokens).flatMap fun token => token ++ ['\n']

end CliCommand

/-- A text without whitespace in it. -/
def isSolid (token : Token) : Bool :=
  !token.isEmpty && token.all fun char => !isSpace char

theorem nonempty_noSpace {token : Token} (solid : isSolid token = true) :
    token ≠ [] ∧ ∀ char ∈ token, isSpace char = false := by
  simpa [isSolid] using solid

theorem tokensOf_lines {tokens : List Token} (solid : ∀ token ∈ tokens, isSolid token = true) :
    tokensOf (tokens.flatMap fun token => token ++ ['\n']) = tokens := by
  induction tokens with
  | nil => rfl
  | cons token tokens ih =>
      rcases List.forall_mem_cons.mp solid with ⟨first, later⟩
      rcases nonempty_noSpace first with ⟨nonempty, noSpace⟩
      have line := List.splitOnP_append_cons_of_forall_mem noSpace '\n' (by decide)
        (tokens.flatMap fun token => token ++ ['\n'])
      have ihLater := ih later
      rw [tokensOf] at ihLater ⊢
      rw [List.flatMap_cons, List.append_assoc, List.singleton_append, line,
        List.filter_cons_of_pos (by simpa using nonempty), ihLater]

namespace CliCommand

theorem solid_tokens (command : CliCommand) : command.tokens.all isSolid = true := by
  cases command with
  | drive dir => cases dir <;> rfl
  | speed percent =>
      revert percent
      decide
  | emergencyStop => rfl

theorem tokensOf_typed (commands : List CliCommand) :
    tokensOf (typed commands) = commands.flatMap tokens := by
  apply tokensOf_lines
  intro token tokenMem
  rcases List.mem_flatMap.mp tokenMem with ⟨command, _, ofCommand⟩
  exact List.all_eq_true.mp command.solid_tokens token ofCommand

theorem readInt?_toDigits : ∀ percent : Fin 101,
    readInt? (Nat.toDigits 10 percent.val) = some ((percent.val : ℤ), []) := by
  decide

theorem ofInt_percent : ∀ percent : Fin 101,
    UInt8.ofInt (percent.val : ℤ) = UInt8.ofNat percent.val := by
  decide

/-- One pass reads the answers of one command and sends its request. -/
theorem runCli_tokens (command : CliCommand) (rest : List Token) (stackValue : ℤ) :
    VehCli.machine.step (.prompting ⟨command.tokens ++ rest, false⟩) stackValue =
      (.prompting ⟨rest, false⟩, [command.command.toBytes]) := by
  cases command with
  | drive dir => cases dir <;> rfl
  | speed percent =>
      have type : stoi16 ['2'] = some 2 := by decide
      have value := Console.extract_of_readInt? (readInt?_toDigits percent) rest stackValue
      have duty := ofInt_percent percent
      simp only [VehCli.machine, VehCli.runCli, tokens, Console.extractString, List.cons_append,
        List.nil_append, Bool.false_eq_true, if_false, type, value, duty, Console.unread]
      rfl
  | emergencyStop => rfl

theorem run_tokens (commands : List CliCommand) {stack : List ℤ}
    (enough : stack.length = commands.length) :
    VehCli.machine.stateAfter (.prompting ⟨commands.flatMap tokens, false⟩) stack =
        .prompting ⟨[], false⟩ ∧
      VehCli.machine.output (.prompting ⟨commands.flatMap tokens, false⟩) stack =
        commands.map fun command => command.command.toBytes := by
  induction commands generalizing stack with
  | nil =>
      rw [List.length_nil, List.length_eq_zero_iff] at enough
      subst enough
      exact ⟨rfl, rfl⟩
  | cons command commands ih =>
      rcases List.exists_cons_of_length_eq_add_one enough with ⟨stackValue, stack, rfl⟩
      have pass := command.runCli_tokens (commands.flatMap tokens) stackValue
      rcases VehCli.machine.run_of_step pass stack with ⟨stateEq, outputEq⟩
      rcases ih (Nat.succ.inj enough) with ⟨laterState, laterOutput⟩
      rw [List.flatMap_cons, stateEq, outputEq, laterState, laterOutput]
      exact ⟨rfl, rfl⟩

theorem busCommands_toBytes (canTxFd : ℕ) (command : CliCommand) :
    busCommands canTxFd true command.command.toBytes = [some command.command] := by
  have decoded : decodeCommand command.command.toBytes = some command.command := by
    apply decodeCommand_toBytes
    intro duty commandEq
    cases command with
    | drive dir => simp [CliCommand.command] at commandEq
    | emergencyStop => simp [CliCommand.command] at commandEq
    | speed percent =>
        have percentLt := percent.isLt
        rw [CliCommand.command, Command.driveSpeed.injEq] at commandEq
        rw [← commandEq, UInt8.le_iff_toNat_le, UInt8.toNat_ofNat']
        simp only [UInt8.reduceToNat]
        omega
  cases command <;> exact (busCommands_cons _ _ _).trans (congrArg (fun c => [c]) decoded)

end CliCommand

/-- Commands typed as the prompt asks for reach the bus, each once and in order, while the socket
takes every frame, and behind the last one the prompt ends. -/
theorem cli_commands_on_bus (canTxFd : ℕ) (commands : List CliCommand)
    (stack : List ℤ) (enough : stack.length = commands.length + 1) :
    (VehCli.machine.output (.prompting ⟨tokensOf (CliCommand.typed commands), false⟩)
        stack).flatMap (busCommands canTxFd true) =
      commands.map (fun command => some command.command) ∧
    VehCli.machine.stateAfter (.prompting ⟨tokensOf (CliCommand.typed commands), false⟩) stack =
      .terminated := by
  rw [CliCommand.tokensOf_typed]
  rcases List.eq_nil_or_concat stack with rfl | ⟨first, last, rfl⟩
  · simp at enough
  · rw [List.concat_eq_append] at enough ⊢
    rw [List.length_append, List.length_singleton, Nat.add_right_cancel_iff] at enough
    rcases CliCommand.run_tokens commands enough with ⟨stateEq, outputEq⟩
    have ends : VehCli.machine.step (.prompting ⟨[], false⟩) last = (.terminated, []) := rfl
    rw [output_concat, stateAfter_concat, stateEq, outputEq, ends, List.append_nil]
    refine ⟨?_, rfl⟩
    rw [List.flatMap_map]
    simp only [CliCommand.busCommands_toBytes]
    exact List.map_eq_flatMap.symm

/-- Forward at full speed, and the emergency stop. -/
theorem cli_commands_on_bus_forward :
    (VehCli.machine.output (.prompting ⟨tokensOf (CliCommand.typed
        [.drive .forward, .speed 100, .emergencyStop]), false⟩) [0, 0, 0, 0]).flatMap
          (busCommands 3 true) =
      [.drive .forward, .speed 100, .emergencyStop].map
        (fun command : CliCommand => some command.command) ∧
    VehCli.machine.stateAfter (.prompting ⟨tokensOf (CliCommand.typed
      [.drive .forward, .speed 100, .emergencyStop]), false⟩) [0, 0, 0, 0] = .terminated :=
  cli_commands_on_bus 3 _ _ rfl

end Synapse
