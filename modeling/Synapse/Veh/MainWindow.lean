import Synapse.Veh.CommandClients
import Synapse.Veh.StatusService

/-!
# The Qt window

The window sends requests from its slots and shows what the thread of the middleware
signals. The slots run in the event loop one after the other; a signal of another thread
is posted to the loop and handled when its turn comes. The client is a transducer whose
inputs are the events of the user and the steps of the other threads, and whose outputs are
the requests. This file embeds the client, determines what the slider and its slot make
of a new value, and says what a step of the user can change.
-/

namespace Synapse

/-! ## Texts -/

/-- A byte with `std::hex`. -/
def hexText (byte : UInt8) : List Char :=
  Nat.toDigits 16 byte.toNat

/-- A byte with `std::hex`, a width of two and zeros in front. -/
def paddedHexText (byte : UInt8) : List Char :=
  (hexText byte).leftpad 2 '0'

def dataText (bytes : List UInt8) : List Char :=
  bytes.flatMap fun byte => paddedHexText byte ++ [' ']

namespace VsClientThread

/-- The line logged for a request, or for an event with the other tag. -/
def messageLine (tag : String) (type : UInt8) (data : List UInt8) : String :=
  tag ++ " TYPE=0x" ++ String.ofList (hexText type) ++ " DATA=[" ++ String.ofList (dataText data) ++
    "]"

def requestLine (cmdType : UInt8) (val : List UInt8) : String :=
  messageLine "[REQ]" cmdType val

def eventLine (type : UInt8) (data : List UInt8) : String :=
  messageLine "[EVT]" type data

/-- The lines of the thread which are about itself. -/
inductive InfoLine where
  | initFailed
  | registered
  | started
  | stopping
  | stopped
deriving DecidableEq

def InfoLine.text : InfoLine → String
  | .initFailed => "[ERR] vsomeip init failed"
  | .registered => "[INFO] Client registered."
  | .started => "[INFO] vSomeIP app started"
  | .stopping => "[INFO] Stopping vSomeIP..."
  | .stopped => "[INFO] Stopped."

def sendAuthPassword (pw : List UInt8) : List UInt8 :=
  sendCommand CmdType.authPassword.toByte pw

/-- A call which the thread makes through a signal. -/
inductive Emitted where
  | logLine (line : String)
  | signal (signal : Signal)
deriving DecidableEq

/-- Everything which the handler of an event emits, in its order. -/
def emits (data : List UInt8) : List Emitted :=
  if data.length < 2 then []
  else .logLine (eventLine data[0]! (data.drop 1)) :: ((onEvent data).map .signal).toList

end VsClientThread

/-! ## The window -/

/-- The speed slider, whose range is from 0 to 1000. -/
@[ext]
structure SpeedSlider where
  value : ℕ
  value_le : value ≤ 1000
deriving DecidableEq

/-- The range of a slider bounds every value which it is set to. -/
def SpeedSlider.bound (value : ℤ) : SpeedSlider where
  value := (max 0 (min value 1000)).toNat
  value_le := by omega

/-- The widgets whose contents change. -/
structure MainWindow where
  lblAebActive : String
  lblAutopark : String
  lblTof : String
  lblAuth : String
  txtPw : String
  sldSpeed : SpeedSlider
  txtLog : List String

namespace MainWindow

def buildUi : MainWindow where
  lblAebActive := "AEB Active: -"
  lblAutopark := "AutoPark: 0x00"
  lblTof := "ToF: 0 mm"
  lblAuth := "Auth: -"
  txtPw := ""
  sldSpeed := .bound 0
  txtLog := []

def btns : List (DirectionButton × UInt8) :=
  [(.upLeft, 0x07), (.up, 0x08), (.upRight, 0x09),
    (.left, 0x04), (.stop, 0x05), (.right, 0x06),
    (.downLeft, 0x01), (.down, 0x02), (.downRight, 0x03)]

def dirMapValue (btn : DirectionButton) (default : UInt8) : UInt8 :=
  (btns.lookup btn).getD default

def onAebState (window : MainWindow) (active : Bool) : MainWindow :=
  { window with lblAebActive := "AEB Active: " ++ if active then "ON" else "OFF" }

def onAutoparkState (window : MainWindow) (st : UInt8) : MainWindow :=
  { window with lblAutopark := "AutoPark: 0x" ++ String.ofList (paddedHexText st) }

def onTof (window : MainWindow) (mm : UInt32) : MainWindow :=
  { window with lblTof := "ToF: " ++ toString mm.toNat ++ " mm" }

def onAuth (window : MainWindow) (ok : Bool) : MainWindow :=
  { window with lblAuth := "Auth: " ++ if ok then "OK" else "FAIL" }

def onLog (window : MainWindow) (line : String) : MainWindow :=
  { window with txtLog := window.txtLog ++ [line] }

/-- The slot which is connected to a signal. -/
def onEmitted (window : MainWindow) : VsClientThread.Emitted → MainWindow
  | .logLine line => window.onLog line
  | .signal (.aebStateChanged active) => window.onAebState active
  | .signal (.autoparkStateChanged st) => window.onAutoparkState st
  | .signal (.tofChanged mm) => window.onTof mm
  | .signal (.authStateChanged ok) => window.onAuth ok

end MainWindow

/-! ## The client -/

/-- What the user does at the window. -/
inductive WindowEvent where
  | dirClicked (btn : DirectionButton)
  | sliderSet (value : ℤ)
  | aebOnClicked
  | aebOffClicked
  | autoparkStartClicked
  | passwordEdited (text : String)
  | loginClicked

/-- The window together with its thread. -/
structure QtClient where
  window : MainWindow
  /-- The thread has created its application. -/
  app : Bool
  /-- What the handlers of the middleware still have to emit. -/
  handlers : List VsClientThread.Emitted
  /-- The calls posted to the event loop. -/
  posted : List VsClientThread.Emitted

inductive QtInput where
  | user (event : WindowEvent)
  | appCreated
  /-- The thread logs a line about itself. -/
  | info (line : VsClientThread.InfoLine)
  /-- The middleware calls the handler for an event. -/
  | received (data : List UInt8)
  /-- A handler emits its next signal. -/
  | emit
  /-- The event loop takes the oldest posted call. -/
  | deliver

namespace QtClient

def initial : QtClient where
  window := .buildUi
  app := false
  handlers := []
  posted := []

/-- Without an application nothing is sent or logged. -/
def sendCommand (client : QtClient) (cmdType : UInt8) (val : List UInt8) :
    QtClient × List (List UInt8) :=
  if client.app then
    ({ client with window := client.window.onLog (VsClientThread.requestLine cmdType val) },
      [VsClientThread.sendCommand cmdType val])
  else (client, [])

/-- The request which another function of the thread hands to `sendCommand`. -/
def send (client : QtClient) : List UInt8 → QtClient × List (List UInt8)
  | [] => (client, [])
  | cmdType :: val => client.sendCommand cmdType val

def onDirClicked (client : QtClient) (btn : DirectionButton) : QtClient × List (List UInt8) :=
  client.send (VsClientThread.sendDriveDirection (MainWindow.dirMapValue btn 0x05))

def setSlider (client : QtClient) (slider : SpeedSlider) : QtClient :=
  { client with window := { client.window with sldSpeed := slider } }

/-- How often `setValue` and the slot of the slider can still call each other. -/
def sliderCalls (client : QtClient) (value : ℕ) : ℕ :=
  (if value % 10 = 0 then 0 else 2) + if value = client.window.sldSpeed.value then 0 else 2

/-- The slider which has just been set to a value waits for the slot only. -/
theorem sliderCalls_setSlider (client : QtClient) {slider : SpeedSlider}
    (moved : slider ≠ client.window.sldSpeed) :
    (client.setSlider slider).sliderCalls slider.value + 1 <
      client.sliderCalls slider.value := by
  have other : slider.value ≠ client.window.sldSpeed.value := by
    intro same
    exact moved (SpeedSlider.ext same)
  rw [sliderCalls, sliderCalls, if_neg other]
  simp [setSlider]

theorem sliderCalls_step (client : QtClient) (v : ℕ) :
    client.sliderCalls (SpeedSlider.bound (v / 10 * 10 : ℕ)).value < client.sliderCalls v + 1 := by
  have inside := client.window.sldSpeed.value_le
  have valueEq : (SpeedSlider.bound (v / 10 * 10 : ℕ)).value = min (v / 10 * 10) 1000 := by
    simp only [SpeedSlider.bound]
    omega
  have rounded : min (v / 10 * 10) 1000 % 10 = 0 := by omega
  rw [sliderCalls, sliderCalls, valueEq, if_pos rounded]
  by_cases whole : v % 10 = 0
  · rw [if_pos whole]
    by_cases same : v = client.window.sldSpeed.value
    · rw [if_pos same, if_pos (by omega)]
      omega
    · rw [if_neg same]
      split <;> omega
  · rw [if_neg whole]
    split <;> split <;> omega

mutual

/-- The slider runs the slot when its value changes. -/
def setValue (client : QtClient) (value : ℤ) : QtClient × List (List UInt8) :=
  let slider := SpeedSlider.bound value
  if slider = client.window.sldSpeed then (client, [])
  else onSpeedChanged (client.setSlider slider) slider.value
termination_by client.sliderCalls (SpeedSlider.bound value).value
decreasing_by exact client.sliderCalls_setSlider ‹_›

def onSpeedChanged (client : QtClient) (v : ℕ) : QtClient × List (List UInt8) :=
  let step := v / 10 * 10
  let (stepped, again) := setValue client step
  let (client, sent) := stepped.send (VsClientThread.sendSpeedDuty (UInt16.ofNat step))
  (client, again ++ sent)
termination_by client.sliderCalls v + 1
decreasing_by exact client.sliderCalls_step v

end

def onAebOn (client : QtClient) : QtClient × List (List UInt8) :=
  client.send (VsClientThread.sendAebControl true)

def onAebOff (client : QtClient) : QtClient × List (List UInt8) :=
  client.send (VsClientThread.sendAebControl false)

def onAutoparkStart (client : QtClient) : QtClient × List (List UInt8) :=
  client.send VsClientThread.sendAutoparkStart

/-- The slot of the login button sends the password unless it is empty. -/
def onLogin (client : QtClient) : QtClient × List (List UInt8) :=
  let pw := client.window.txtPw
  if pw = "" then (client, [])
  else client.send (VsClientThread.sendAuthPassword (pw.toList.flatMap String.utf8EncodeChar))

def onUser (client : QtClient) : WindowEvent → QtClient × List (List UInt8)
  | .dirClicked btn => client.onDirClicked btn
  | .sliderSet value => client.setValue value
  | .aebOnClicked => client.onAebOn
  | .aebOffClicked => client.onAebOff
  | .autoparkStartClicked => client.onAutoparkStart
  | .passwordEdited text => ({ client with window := { client.window with txtPw := text } }, [])
  | .loginClicked => client.onLogin

def emit (client : QtClient) : QtClient :=
  match client.handlers with
  | [] => client
  | call :: handlers => { client with handlers := handlers, posted := client.posted ++ [call] }

def deliver (client : QtClient) : QtClient :=
  match client.posted with
  | [] => client
  | call :: posted => { client with window := client.window.onEmitted call, posted := posted }

def step (client : QtClient) : QtInput → QtClient × List (List UInt8)
  | .user event => client.onUser event
  | .appCreated => ({ client with app := true }, [])
  | .info line => ({ client with posted := client.posted ++ [.logLine line.text] }, [])
  | .received data =>
      ({ client with handlers := client.handlers ++ VsClientThread.emits data }, [])
  | .emit => (client.emit, [])
  | .deliver => (client.deliver, [])

def machine : Transducer QtClient QtInput (List UInt8) where
  step := step

/-! ## The slider -/

section Slider

variable (client : QtClient)

theorem setValue_of_shown {value : ℤ} (shown : .bound value = client.window.sldSpeed) :
    client.setValue value = (client, []) := by
  rw [setValue]
  simp only [if_pos shown]

/-- A value of the right step is sent once. -/
theorem onSpeedChanged_of_whole (v : ℕ) (shown : client.window.sldSpeed.value = v)
    (whole : v % 10 = 0) :
    client.onSpeedChanged v = client.send (VsClientThread.sendSpeedDuty (UInt16.ofNat v)) := by
  have inside := client.window.sldSpeed.value_le
  have stepEq : v / 10 * 10 = v := by omega
  have stays : SpeedSlider.bound (v : ℤ) = client.window.sldSpeed := by
    apply SpeedSlider.ext
    simp only [SpeedSlider.bound]
    omega
  rw [onSpeedChanged]
  simp only [stepEq, setValue_of_shown client stays, List.nil_append]

/-- Any other value is set back to its step, and both calls of the slot send the step. -/
theorem onSpeedChanged_of_not_whole (v : ℕ) (shown : client.window.sldSpeed.value = v)
    (broken : v % 10 ≠ 0) :
    client.onSpeedChanged v =
      let request := VsClientThread.sendSpeedDuty (UInt16.ofNat (v / 10 * 10))
      let (inner, again) := (client.setSlider (.bound (v / 10 * 10 : ℕ))).send request
      let (outer, sent) := inner.send request
      (outer, again ++ sent) := by
  have inside := client.window.sldSpeed.value_le
  have stepEq : (SpeedSlider.bound (v / 10 * 10 : ℕ)).value = v / 10 * 10 := by
    simp only [SpeedSlider.bound]
    omega
  have moves : SpeedSlider.bound (v / 10 * 10 : ℕ) ≠ client.window.sldSpeed := by
    intro same
    rw [SpeedSlider.ext_iff, stepEq, shown] at same
    omega
  have inner := (client.setSlider (.bound (v / 10 * 10 : ℕ))).onSpeedChanged_of_whole (v / 10 * 10)
    stepEq (by omega)
  rw [onSpeedChanged]
  simp only [setValue, if_neg moves, stepEq, inner]

end Slider

/-! ## The slots of the user -/

/-- The texts of the status labels. -/
def labels (client : QtClient) : String × String × String × String :=
  (client.window.lblAebActive, client.window.lblAutopark, client.window.lblTof,
    client.window.lblAuth)

/-- The line logged for a whole request. -/
def requestText : List UInt8 → String
  | [] => ""
  | cmdType :: val => VsClientThread.requestLine cmdType val

/-- What every slot of the user keeps: each request is logged when it is sent, and what comes
from the thread stays as it is. -/
structure SlotRun (client next : QtClient) (requests : List (List UInt8)) : Prop where
  nonempty : ∀ request ∈ requests, request ≠ []
  app : next.app = client.app
  handlers : next.handlers = client.handlers
  posted : next.posted = client.posted
  labels : next.labels = client.labels
  txtLog : next.window.txtLog = client.window.txtLog ++ requests.map requestText

namespace SlotRun

theorem silent {client next : QtClient} (app : next.app = client.app)
    (handlers : next.handlers = client.handlers) (posted : next.posted = client.posted)
    (labels : next.labels = client.labels)
    (txtLog : next.window.txtLog = client.window.txtLog) : SlotRun client next [] where
  nonempty := by simp
  app := app
  handlers := handlers
  posted := posted
  labels := labels
  txtLog := by rw [txtLog, List.map_nil, List.append_nil]

theorem refl (client : QtClient) : SlotRun client client [] :=
  silent rfl rfl rfl rfl rfl

theorem trans {client middle next : QtClient} {first second : List (List UInt8)}
    (before : SlotRun client middle first) (after : SlotRun middle next second) :
    SlotRun client next (first ++ second) where
  nonempty := fun request sent =>
    (List.mem_append.mp sent).elim (before.nonempty request) (after.nonempty request)
  app := after.app.trans before.app
  handlers := after.handlers.trans before.handlers
  posted := after.posted.trans before.posted
  labels := after.labels.trans before.labels
  txtLog := by rw [after.txtLog, before.txtLog, List.map_append, List.append_assoc]

theorem send (client : QtClient) (request : List UInt8) :
    SlotRun client (client.send request).1 (client.send request).2 := by
  cases request with
  | nil => exact refl client
  | cons cmdType val =>
      rw [QtClient.send, sendCommand]
      split
      next => exact ⟨by simp [VsClientThread.sendCommand], rfl, rfl, rfl, rfl, rfl⟩
      next => exact refl client

theorem setSlider (client : QtClient) (slider : SpeedSlider) :
    SlotRun client (client.setSlider slider) [] :=
  silent rfl rfl rfl rfl rfl

theorem onSpeedChanged (client : QtClient) (v : ℕ) (shown : client.window.sldSpeed.value = v) :
    SlotRun client (client.onSpeedChanged v).1 (client.onSpeedChanged v).2 := by
  by_cases whole : v % 10 = 0
  · rw [client.onSpeedChanged_of_whole v shown whole]
    exact send client _
  · rw [client.onSpeedChanged_of_not_whole v shown whole]
    exact (setSlider client _).trans ((send _ _).trans (send _ _))

theorem setValue (client : QtClient) (value : ℤ) :
    SlotRun client (client.setValue value).1 (client.setValue value).2 := by
  by_cases shown : .bound value = client.window.sldSpeed
  · rw [client.setValue_of_shown shown]
    exact refl client
  · rw [QtClient.setValue]
    simp only [if_neg shown]
    exact (setSlider client _).trans (onSpeedChanged _ _ rfl)

theorem onUser (client : QtClient) (event : WindowEvent) :
    SlotRun client (client.onUser event).1 (client.onUser event).2 := by
  cases event with
  | dirClicked btn => exact send client _
  | sliderSet value => exact setValue client value
  | aebOnClicked => exact send client _
  | aebOffClicked => exact send client _
  | autoparkStartClicked => exact send client _
  | passwordEdited text => exact silent rfl rfl rfl rfl rfl
  | loginClicked =>
      rw [QtClient.onUser, onLogin]
      split
      next => exact refl client
      next => exact send client _

end SlotRun

end QtClient

end Synapse
