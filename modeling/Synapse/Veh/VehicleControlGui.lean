import Synapse.Library.Transducer
import Synapse.Veh.ControlService

/-!
# The Python client

`VehicleControlGUI` keeps its own speed and switches, and sends a request from its
event handlers. Each event is handled to its end before the next one, so the
client is a transducer whose outputs are the requests. Status events come from the
binding as lists of bytes and change what is shown.
-/

namespace Synapse

/-- The buttons of the drive control. -/
inductive DirectionButton where
  | upLeft
  | up
  | upRight
  | left
  | stop
  | right
  | downLeft
  | down
  | downRight
deriving DecidableEq

def DirectionButton.label : DirectionButton → String
  | .upLeft => "↖"
  | .up => "↑"
  | .upRight => "↗"
  | .left => "←"
  | .stop => "Stop"
  | .right => "→"
  | .downLeft => "↙"
  | .down => "↓"
  | .downRight => "↘"

/-- The number which the Python client gives to a direction. -/
def cmdMap : DirectionButton → UInt8
  | .up => 8
  | .down => 2
  | .left => 4
  | .right => 6
  | .upLeft => 7
  | .upRight => 9
  | .downLeft => 1
  | .downRight => 3
  | .stop => 5

/-- The state of the window: what it remembers and the texts it shows. -/
structure VehicleControlGui where
  speed : Fin 101
  direction : String
  aeb : Bool
  autopark : Bool
  dirLabel : String
  spdLabel : String
  aebLabel : String
  parkLabel : String
  tofLabel : String
  aebBtn : String
  autoparkBtn : String

inductive GuiEvent where
  | direction (button : DirectionButton)
  | speedChange (value : Fin 101)
  | toggleAeb
  | triggerAutopark
  | statusUpdate (data : List UInt8)

namespace VehicleControlGui

def initial : VehicleControlGui where
  speed := 0
  direction := "STOP"
  aeb := false
  autopark := false
  dirLabel := "Direction: STOP"
  spdLabel := "Speed: 0%"
  aebLabel := "AEB: OFF"
  parkLabel := "AutoPark: OFF"
  tofLabel := "ToF: 0 cm"
  aebBtn := "AEB: OFF"
  autoparkBtn := "AutoPark: OFF"

/-- The request which the binding builds. -/
def sendCommand (cmd : UInt8) (payload : List UInt8) : List UInt8 :=
  cmd :: payload

def onDirection (gui : VehicleControlGui) (button : DirectionButton) :
    VehicleControlGui × List (List UInt8) :=
  let direction := button.label
  ({ gui with direction := direction, dirLabel := s!"Direction: {direction}" },
    [sendCommand (cmdMap button) [UInt8.ofNat gui.speed.val]])

def onSpeedChange (gui : VehicleControlGui) (value : Fin 101) :
    VehicleControlGui × List (List UInt8) :=
  ({ gui with speed := value, spdLabel := s!"Speed: {value}%" }, [])

def stateText (on : Bool) : String :=
  if on then "ON" else "OFF"

def showAeb (gui : VehicleControlGui) (aeb : Bool) : VehicleControlGui :=
  let state := stateText aeb
  { gui with aeb := aeb, aebBtn := s!"AEB: {state}", aebLabel := s!"AEB: {state}" }

def toggleAeb (gui : VehicleControlGui) : VehicleControlGui × List (List UInt8) :=
  let aeb := !gui.aeb
  (gui.showAeb aeb, [sendCommand 0xA0 [if aeb then 1 else 0]])

def triggerAutopark (gui : VehicleControlGui) : VehicleControlGui × List (List UInt8) :=
  ({ gui with
      autopark := true
      parkLabel := "AutoPark: RUNNING"
      autoparkBtn := "AutoPark: RUNNING" },
    [sendCommand 0xB0 [1]])

/-- What the client takes a status event for. -/
inductive StatusUpdate where
  | tof (dist : ℕ)
  | aeb (active : Bool)
  | autopark (prog : UInt8)
deriving DecidableEq

def statusUpdate? (data : List UInt8) : Option StatusUpdate :=
  if data.length < 2 then none
  else
    let statusType := data[0]!
    if statusType = 0x04 then
      if data.length ≥ 3 then some (.tof (data[1]!.toNat + 256 * data[2]!.toNat)) else none
    else if statusType = 0x02 then some (.aeb (data[1]! != 0))
    else if statusType = 0x03 then some (.autopark data[1]!)
    else none

def showStatus (gui : VehicleControlGui) : StatusUpdate → VehicleControlGui
  | .tof dist => { gui with tofLabel := s!"ToF: {dist} cm" }
  | .aeb active => gui.showAeb active
  | .autopark prog =>
      if prog ≥ 100 then
        { gui with parkLabel := "AutoPark: COMPLETE", autoparkBtn := "AutoPark: OFF" }
      else
        { gui with parkLabel := s!"AutoPark: {prog}%", autoparkBtn := "AutoPark: RUNNING" }

def onStatusUpdate (gui : VehicleControlGui) (data : List UInt8) :
    VehicleControlGui × List (List UInt8) :=
  match statusUpdate? data with
  | none => (gui, [])
  | some update => (gui.showStatus update, [])

def handle (gui : VehicleControlGui) : GuiEvent → VehicleControlGui × List (List UInt8)
  | .direction button => gui.onDirection button
  | .speedChange value => gui.onSpeedChange value
  | .toggleAeb => gui.toggleAeb
  | .triggerAutopark => gui.triggerAutopark
  | .statusUpdate data => gui.onStatusUpdate data

/-- The window over a stream of events. -/
def machine : Transducer VehicleControlGui GuiEvent (List UInt8) where
  step := handle

theorem requests_onStatusUpdate (gui : VehicleControlGui) (data : List UInt8) :
    (gui.onStatusUpdate data).2 = [] := by
  rw [onStatusUpdate]
  split
  · rfl
  · rfl

end VehicleControlGui

end Synapse
