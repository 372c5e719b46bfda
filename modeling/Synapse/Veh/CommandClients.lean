import Synapse.Veh.VehicleControlGui

/-!
# The command clients

The Qt client writes its requests with the shared numbering of commands; the Python
client has a numbering of its own. This file gives the requests of the Qt client
and the action which a user makes with an event of the Python client, and determines in
which runs every request of the Python client means the action.
-/

namespace Synapse

/-! ## The Qt client -/

/-- What a user can ask for. -/
inductive UserAction where
  | direction (button : DirectionButton)
  | speed (percent : Fin 101)
  | aeb (on : Bool)
  | autopark
deriving DecidableEq

namespace VsClientThread

def sendCommand (cmdType : UInt8) (val : List UInt8) : List UInt8 :=
  cmdType :: val

def sendDriveDirection (dir : UInt8) : List UInt8 :=
  sendCommand CmdType.driveDirection.toByte [dir]

def sendSpeedDuty (duty : UInt16) : List UInt8 :=
  let scaled := UInt8.ofNat (max 0 (min (duty.toNat / 10) 100))
  sendCommand CmdType.driveSpeed.toByte [scaled]

def sendAebControl (on : Bool) : List UInt8 :=
  sendCommand CmdType.aebControl.toByte [if on then 0x01 else 0x00]

def sendAutoparkStart : List UInt8 :=
  sendCommand CmdType.autoparkControl.toByte [0x01]

/-- The value of a direction button of the Qt window. -/
def dirVal : DirectionButton → UInt8
  | .upLeft => 0x07
  | .up => 0x08
  | .upRight => 0x09
  | .left => 0x04
  | .stop => 0x05
  | .right => 0x06
  | .downLeft => 0x01
  | .down => 0x02
  | .downRight => 0x03

/-- The request of the Qt client for an action; its speed slider counts tenths of a percent. -/
def request : UserAction → List UInt8
  | .direction button => sendDriveDirection (dirVal button)
  | .speed percent => sendSpeedDuty (UInt16.ofNat (10 * percent.val))
  | .aeb on => sendAebControl on
  | .autopark => sendAutoparkStart

end VsClientThread

/-! ## The meaning of an action -/

def DirectionButton.dir : DirectionButton → DriveDir
  | .upLeft => .fwdLeft
  | .up => .forward
  | .upRight => .fwdRight
  | .left => .left
  | .stop => .stop
  | .right => .right
  | .downLeft => .bwdLeft
  | .down => .backward
  | .downRight => .bwdRight

def UserAction.command : UserAction → Command
  | .direction button => .driveDirection button.dir
  | .speed percent => .driveSpeed (UInt8.ofNat percent.val)
  | .aeb on => .aebControl on
  | .autopark => .autoparkStart

theorem VsClientThread.request_eq (action : UserAction) :
    request action = action.command.toBytes := by
  cases action with
  | direction button => cases button <;> rfl
  | speed percent =>
      have percentLe : percent.val ≤ 100 := Nat.lt_succ_iff.mp percent.isLt
      have scaled : max 0 (min ((UInt16.ofNat (10 * percent.val)).toNat / 10) 100) =
          percent.val := by
        rw [UInt16.toNat_ofNat', Nat.mod_eq_of_lt (by omega), Nat.mul_div_cancel_left _ (by omega)]
        omega
      simp only [request, sendSpeedDuty, scaled]
      rfl
  | aeb on => rfl
  | autopark => rfl

/-- The Qt client sends the command which the user asked for. -/
theorem decodeCommand_request (action : UserAction) :
    decodeCommand (VsClientThread.request action) = some action.command := by
  rw [VsClientThread.request_eq]
  apply decodeCommand_toBytes
  intro duty commandEq
  cases action with
  | speed percent =>
      have percentLe : percent.val ≤ 100 := Nat.lt_succ_iff.mp percent.isLt
      rw [UserAction.command, Command.driveSpeed.injEq] at commandEq
      rw [← commandEq, UInt8.le_iff_toNat_le, UInt8.toNat_ofNat']
      simp only [UInt8.reduceToNat]
      omega
  | direction button => simp [UserAction.command] at commandEq
  | aeb on => simp [UserAction.command] at commandEq
  | autopark => simp [UserAction.command] at commandEq

/-! ## The Python client -/

/-- The action which the user makes with an event of the window. -/
def GuiEvent.action? (gui : VehicleControlGui) : GuiEvent → Option UserAction
  | .direction button => some (.direction button)
  | .speedChange value => some (.speed value)
  | .toggleAeb => some (.aeb !gui.aeb)
  | .triggerAutopark => some .autopark
  | .statusUpdate _ => none

/-- Every request sent on an event is read as the command of the user's action, like the request
of the Qt client for that action. -/
def SendsTheAction (gui : VehicleControlGui) (event : GuiEvent) : Prop :=
  ∀ request ∈ (gui.handle event).2, ∃ action, event.action? gui = some action ∧
    decodeCommand request = some action.command ∧
    decodeCommand (VsClientThread.request action) = some action.command

/-- The event is no press of a button, except of the one whose number is that of the direction
command while the speed is its number. -/
def PressesOnlyDownLeft (gui : VehicleControlGui) : GuiEvent → Prop
  | .direction button => button = .downLeft ∧ gui.speed.val = 1
  | .toggleAeb => False
  | .triggerAutopark => False
  | .speedChange _ => True
  | .statusUpdate _ => True

theorem sendsTheAction_direction_iff (gui : VehicleControlGui) (button : DirectionButton) :
    SendsTheAction gui (.direction button) ↔
      decodeCommand [cmdMap button, UInt8.ofNat gui.speed.val] =
        some (.driveDirection button.dir) := by
  constructor
  · intro sends
    rcases sends _ (List.mem_singleton.mpr rfl) with ⟨action, actionEq, decoded, _⟩
    rw [GuiEvent.action?, Option.some.injEq] at actionEq
    rw [← actionEq] at decoded
    exact decoded
  · intro decoded request requestMem
    rw [List.mem_singleton.mp requestMem]
    exact ⟨_, rfl, decoded, decodeCommand_request _⟩

theorem decodeCommand_cmdMap_iff (button : DirectionButton) (speed : Fin 101) :
    decodeCommand [cmdMap button, UInt8.ofNat speed.val] = some (.driveDirection button.dir) ↔
      button = .downLeft ∧ speed.val = 1 := by
  revert speed
  cases button <;> decide

/-- A single event: the request means the action only for the one press. -/
theorem sendsTheAction_iff (gui : VehicleControlGui) (event : GuiEvent) :
    SendsTheAction gui event ↔ PressesOnlyDownLeft gui event := by
  cases event with
  | direction button =>
      rw [sendsTheAction_direction_iff, decodeCommand_cmdMap_iff]
      rfl
  | speedChange value =>
      refine iff_of_true ?_ trivial
      intro request requestMem
      simp [VehicleControlGui.handle, VehicleControlGui.onSpeedChange] at requestMem
  | toggleAeb =>
      refine iff_of_false ?_ id
      intro sends
      rcases sends _ (List.mem_singleton.mpr rfl) with ⟨action, _, decoded, _⟩
      have unknown : CmdType.ofByte? 0xA0 = none := by decide
      simp [VehicleControlGui.sendCommand, decodeCommand, unknown] at decoded
  | triggerAutopark =>
      refine iff_of_false ?_ id
      intro sends
      rcases sends _ (List.mem_singleton.mpr rfl) with ⟨action, _, decoded, _⟩
      have unknown : CmdType.ofByte? 0xB0 = none := by decide
      simp [VehicleControlGui.sendCommand, decodeCommand, unknown] at decoded
  | statusUpdate data =>
      refine iff_of_true ?_ trivial
      intro request requestMem
      rw [VehicleControlGui.handle, VehicleControlGui.requests_onStatusUpdate] at requestMem
      simp at requestMem

/-- In a run, every request means the user's action if and only if the only button pressed is
the one press. -/
theorem pythonClient_sends_iff (events : List GuiEvent) :
    VehicleControlGui.machine.EveryStep SendsTheAction .initial events ↔
      VehicleControlGui.machine.EveryStep PressesOnlyDownLeft .initial events := by
  apply VehicleControlGui.machine.everyStep_iff_of_invariant fun _ => True
  · intro _ _ _
    trivial
  · intro gui _ event
    exact sendsTheAction_iff gui event
  · trivial

/-- Backward is sent as a speed of zero, and stop as a password. -/
theorem pythonClient_backward_and_stop :
    VehicleControlGui.machine.output .initial [.direction .down, .direction .stop] =
        [[2, 0], [5, 0]] ∧
      decodeCommand [2, 0] = some (.driveSpeed 0) ∧
      decodeCommand [5, 0] = some (.authPassword [0]) ∧
      ¬VehicleControlGui.machine.EveryStep SendsTheAction .initial [.direction .down] := by
  refine ⟨by decide, by decide, by decide, ?_⟩
  rintro ⟨sends, _⟩
  rw [sendsTheAction_iff] at sends
  exact absurd sends.1 (by decide)

end Synapse
