import Synapse.Can

/-!
# The control service

The servers and the clients of the vehicle share one definition of the commands:
a request is a command type followed by its value. This file gives this
definition and the command which a request means under it.
-/

namespace Synapse

def vehControlCanId : UInt32 := 0x300

def vehRespOk : UInt8 := 0x00

inductive CmdType where
  | driveDirection
  | driveSpeed
  | aebControl
  | autoparkControl
  | authPassword
  | faultEmergency
deriving DecidableEq

def CmdType.toByte : CmdType → UInt8
  | .driveDirection => 0x01
  | .driveSpeed => 0x02
  | .aebControl => 0x03
  | .autoparkControl => 0x04
  | .authPassword => 0x05
  | .faultEmergency => 0xFE

def CmdType.all : List CmdType :=
  [.driveDirection, .driveSpeed, .aebControl, .autoparkControl, .authPassword, .faultEmergency]

def CmdType.ofByte? (byte : UInt8) : Option CmdType :=
  all.find? fun cmdType => cmdType.toByte == byte

inductive DriveDir where
  | bwdLeft
  | backward
  | bwdRight
  | left
  | stop
  | right
  | fwdLeft
  | forward
  | fwdRight
deriving DecidableEq

def DriveDir.toByte : DriveDir → UInt8
  | .bwdLeft => 0x01
  | .backward => 0x02
  | .bwdRight => 0x03
  | .left => 0x04
  | .stop => 0x05
  | .right => 0x06
  | .fwdLeft => 0x07
  | .forward => 0x08
  | .fwdRight => 0x09

def DriveDir.all : List DriveDir :=
  [.bwdLeft, .backward, .bwdRight, .left, .stop, .right, .fwdLeft, .forward, .fwdRight]

def DriveDir.ofByte? (byte : UInt8) : Option DriveDir :=
  all.find? fun dir => dir.toByte == byte

/-- What a request means. -/
inductive Command where
  | driveDirection (dir : DriveDir)
  | driveSpeed (duty : UInt8)
  | aebControl (on : Bool)
  | autoparkStart
  | authPassword (password : List UInt8)
  | faultEmergency (value : List UInt8)
deriving DecidableEq

/-- The command with this value, if the value is one of the command type. -/
def CmdType.decode : CmdType → List UInt8 → Option Command
  | .driveDirection, [dir] => (DriveDir.ofByte? dir).map .driveDirection
  | .driveSpeed, [duty] => if duty ≤ 100 then some (.driveSpeed duty) else none
  | .aebControl, [state] =>
      if state = 0x00 then some (.aebControl false)
      else if state = 0x01 then some (.aebControl true)
      else none
  | .autoparkControl, [state] => if state = 0x01 then some .autoparkStart else none
  | .authPassword, password => some (.authPassword password)
  | .faultEmergency, value => some (.faultEmergency value)
  | _, _ => none

/-- The command which a request carries: its type byte and the value behind it. -/
def decodeCommand : List UInt8 → Option Command
  | [] => none
  | cmdType :: cmdValue => (CmdType.ofByte? cmdType).bind fun kind => kind.decode cmdValue

/-- The request which carries a command. -/
def Command.toBytes : Command → List UInt8
  | .driveDirection dir => [CmdType.driveDirection.toByte, dir.toByte]
  | .driveSpeed duty => [CmdType.driveSpeed.toByte, duty]
  | .aebControl on => [CmdType.aebControl.toByte, if on then 0x01 else 0x00]
  | .autoparkStart => [CmdType.autoparkControl.toByte, 0x01]
  | .authPassword password => CmdType.authPassword.toByte :: password
  | .faultEmergency value => CmdType.faultEmergency.toByte :: value

theorem CmdType.ofByte?_toByte (cmdType : CmdType) : ofByte? cmdType.toByte = some cmdType := by
  cases cmdType <;> rfl

theorem DriveDir.ofByte?_toByte (dir : DriveDir) : ofByte? dir.toByte = some dir := by
  cases dir <;> rfl

/-- A request written for a command is read as that command, as long as the duty is a
percentage. -/
theorem decodeCommand_toBytes {command : Command}
    (percentage : ∀ duty, command = .driveSpeed duty → duty ≤ 100) :
    decodeCommand command.toBytes = some command := by
  cases command with
  | driveDirection dir =>
      simp only [Command.toBytes, decodeCommand, CmdType.ofByte?_toByte, Option.bind_some,
        CmdType.decode, DriveDir.ofByte?_toByte, Option.map_some]
  | driveSpeed duty =>
      simp only [Command.toBytes, decodeCommand, CmdType.ofByte?_toByte, Option.bind_some,
        CmdType.decode, if_pos (percentage duty rfl)]
  | aebControl on => cases on <;> rfl
  | autoparkStart => rfl
  | authPassword password =>
      simp only [Command.toBytes, decodeCommand, CmdType.ofByte?_toByte, Option.bind_some,
        CmdType.decode]
  | faultEmergency value =>
      simp only [Command.toBytes, decodeCommand, CmdType.ofByte?_toByte, Option.bind_some,
        CmdType.decode]

end Synapse
