import Synapse.Veh.MainWindow
import Synapse.Veh.ControlServers

/-!
# The panel

Seen from the vehicle, the Qt window is a panel: it knows whether it is connected, a
speed in percent and a password, and gives commands. This file shows that the window and
the unified server together put the commands of the panel on the CAN bus, in every run
in which its socket is open and takes every frame, and that the slider shows the speed
which the vehicle was last told.
-/

namespace Synapse

structure Panel where
  connected : Bool
  percent : Fin 101
  password : String

inductive PanelInput where
  | connect
  | user (event : WindowEvent)

namespace Panel

def initial : Panel where
  connected := false
  percent := ⟨0, Nat.succ_pos 100⟩
  password := ""

def give (panel : Panel) (commands : List Command) : Panel × List Command :=
  (panel, if panel.connected then commands else [])

/-- The part of the password which fits into one frame behind the command type. -/
def shortPassword (panel : Panel) : List UInt8 :=
  (panel.password.toList.flatMap String.utf8EncodeChar).take 7

/-- The percentage which a value of the slider stands for. -/
def percentOf (slider : SpeedSlider) : Fin 101 :=
  ⟨slider.value / 10, by have := slider.value_le; omega⟩

/-- A speed between two percentages is given twice. -/
def setSpeed (panel : Panel) (slider : SpeedSlider) : Panel × List Command :=
  if slider.value = 10 * panel.percent.val then (panel, [])
  else
    let percent := percentOf slider
    { panel with percent := percent }.give
      (List.replicate (if slider.value % 10 = 0 then 1 else 2)
        (.driveSpeed (UInt8.ofNat percent.val)))

def step (panel : Panel) : PanelInput → Panel × List Command
  | .connect => ({ panel with connected := true }, [])
  | .user (.dirClicked btn) => panel.give [.driveDirection btn.dir]
  | .user (.sliderSet value) => panel.setSpeed (.bound value)
  | .user .aebOnClicked => panel.give [.aebControl true]
  | .user .aebOffClicked => panel.give [.aebControl false]
  | .user .autoparkStartClicked => panel.give [.autoparkStart]
  | .user (.passwordEdited text) => ({ panel with password := text }, [])
  | .user .loginClicked =>
      if panel.password = "" then (panel, []) else panel.give [.authPassword panel.shortPassword]

def machine : Transducer Panel PanelInput Command where
  step := step

end Panel

/-! ## From a request to the bus -/

/-- The frames which the unified server puts on the bus for a request, read as commands. A frame
whose write is rejected is not on the bus. -/
def busCommands (canTxFd : ℕ) (writeAccepts : Bool) (request : List UInt8) :
    List (Option Command) :=
  ((VehUnifiedServer.onControlRequest canTxFd writeAccepts request).writes.filter
    CanWrite.accepted).map fun write => decodeCommand (write.frame.dataBytes 0)

theorem dataBytes_controlFrame (cmdType : UInt8) (cmdValue : List UInt8) :
    (VehUnifiedServer.controlFrame cmdType cmdValue).dataBytes 0 =
      (cmdType :: cmdValue).take 8 := by
  by_cases fits : (cmdType :: cmdValue).length ≤ 8
  · rw [controlFrame_of_fits fits, dataBytes_requestFrame fits, List.take_of_length_le fits]
  · have cut : VehUnifiedServer.controlFrame cmdType cmdValue =
        VehUnifiedServer.controlFrame cmdType (cmdValue.take 7) := by
      rw [List.length_cons] at fits
      have shortLength : (cmdValue.take 7).length = 7 := by
        rw [List.length_take]
        omega
      have shortTake : (cmdValue.take 7).take 7 = cmdValue.take 7 := by rw [List.take_take]; rfl
      simp [VehUnifiedServer.controlFrame, shortLength, shortTake,
        show 1 + cmdValue.length > 8 by omega]
    have shortFits : (cmdType :: cmdValue.take 7).length ≤ 8 := by
      rw [List.length_cons, List.length_take]
      omega
    rw [cut, controlFrame_of_fits shortFits, dataBytes_requestFrame shortFits]
    rfl

/-- A request is on the bus as one command if the socket takes its frame, and else not at all. -/
theorem busCommands_eq (canTxFd : ℕ) (writeAccepts : Bool) (cmdType : UInt8)
    (cmdValue : List UInt8) :
    busCommands canTxFd writeAccepts (cmdType :: cmdValue) =
      if writeAccepts then [decodeCommand ((cmdType :: cmdValue).take 8)] else [] := by
  have isOpen : (canTxFd : ℤ) ≥ 0 := Int.natCast_nonneg canTxFd
  simp only [busCommands, VehUnifiedServer.onControlRequest, if_pos isOpen, List.filter_cons,
    List.filter_nil]
  split <;> simp [dataBytes_controlFrame]

theorem busCommands_cons (canTxFd : ℕ) (cmdType : UInt8) (cmdValue : List UInt8) :
    busCommands canTxFd true (cmdType :: cmdValue) =
      [decodeCommand ((cmdType :: cmdValue).take 8)] :=
  busCommands_eq canTxFd true cmdType cmdValue

/-- The request of an action reaches the bus as its command. -/
theorem busCommands_request (canTxFd : ℕ) (action : UserAction) :
    busCommands canTxFd true (VsClientThread.request action) = [some action.command] := by
  have whole : (VsClientThread.request action).take 8 = VsClientThread.request action := by
    cases action <;> rfl
  have decoded := decodeCommand_request action
  rw [← whole] at decoded
  cases action <;> exact (busCommands_cons _ _ _).trans (congrArg (fun c => [c]) decoded)

/-- A password reaches the bus with its first seven bytes. -/
theorem busCommands_sendAuthPassword (canTxFd : ℕ) (pw : List UInt8) :
    busCommands canTxFd true (VsClientThread.sendAuthPassword pw) =
      [some (.authPassword (pw.take 7))] :=
  busCommands_cons canTxFd _ pw

/-! ## The window is a panel -/

/-- The panel which a client shows. -/
structure IsPanel (client : QtClient) (panel : Panel) : Prop where
  connected : client.app = panel.connected
  percent : client.window.sldSpeed.value = 10 * panel.percent.val
  password : client.window.txtPw = panel.password

/-- What the panel sees of an input of the client. -/
def QtInput.atPanel : QtInput → List PanelInput
  | .user event => [.user event]
  | .appCreated => [.connect]
  | .info _ => []
  | .received _ => []
  | .emit => []
  | .deliver => []

section Simulation

variable {canTxFd : ℕ} {client : QtClient} {panel : Panel}

/-- The bus carries what the panel gives, and the client shows the panel again. -/
def Gives (canTxFd : ℕ) (result : QtClient × List (List UInt8))
    (given : Panel × List Command) : Prop :=
  IsPanel result.1 given.1 ∧
    result.2.flatMap (busCommands canTxFd true) = given.2.map some

theorem IsPanel.send (shows : IsPanel client panel) {request : List UInt8} {command : Command}
    (carried : busCommands canTxFd true request = [some command]) :
    Gives canTxFd (client.send request) (panel.give [command]) := by
  cases request with
  | nil => simp [busCommands, VehUnifiedServer.onControlRequest] at carried
  | cons cmdType val =>
      rw [QtClient.send, QtClient.sendCommand]
      split
      next isOn =>
        have connected : panel.connected = true := by rw [← shows.connected, isOn]
        rw [Panel.give, connected]
        refine ⟨⟨shows.connected, shows.percent, shows.password⟩, ?_⟩
        simp only [VsClientThread.sendCommand, List.flatMap_cons, List.flatMap_nil, carried]
        rfl
      next isOff =>
        have connected : panel.connected = false := by
          rw [← shows.connected, Bool.eq_false_iff]
          exact isOff
        rw [Panel.give, connected]
        exact ⟨shows, rfl⟩

/-- A command which two calls send one after the other. -/
theorem IsPanel.sendTwice (shows : IsPanel client panel) {request : List UInt8} {command : Command}
    (carried : busCommands canTxFd true request = [some command]) :
    Gives canTxFd
      (let (inner, again) := client.send request
        let (outer, sent) := inner.send request
        (outer, again ++ sent))
      (panel.give [command, command]) := by
  rcases shows.send carried with ⟨between, first⟩
  rcases between.send carried with ⟨after, second⟩
  refine ⟨after, ?_⟩
  simp only [List.flatMap_append, first, second, Panel.give]
  by_cases connected : panel.connected = true <;> simp [connected]

/-- The slider set back to its step shows the percentage. -/
theorem IsPanel.setSlider (shows : IsPanel client panel) {slider shown : SpeedSlider}
    (stepped : shown.value = slider.value / 10 * 10) :
    IsPanel (client.setSlider shown) { panel with percent := Panel.percentOf slider } where
  connected := shows.connected
  percent := by
    rw [QtClient.setSlider, Panel.percentOf, stepped, Nat.mul_comm]
  password := shows.password

theorem busCommands_sendSpeedDuty (canTxFd : ℕ) (slider : SpeedSlider) :
    busCommands canTxFd true
        (VsClientThread.sendSpeedDuty (UInt16.ofNat (slider.value / 10 * 10))) =
      [some (.driveSpeed (UInt8.ofNat (Panel.percentOf slider).val))] := by
  rw [Nat.mul_comm]
  exact busCommands_request canTxFd (.speed (Panel.percentOf slider))

/-- The slider moved to another value. -/
theorem IsPanel.onSpeedChanged (shows : IsPanel client panel) (slider : SpeedSlider) :
    Gives canTxFd ((client.setSlider slider).onSpeedChanged slider.value)
      ({ panel with percent := Panel.percentOf slider }.give
        (List.replicate (if slider.value % 10 = 0 then 1 else 2)
          (.driveSpeed (UInt8.ofNat (Panel.percentOf slider).val)))) := by
  have carried := busCommands_sendSpeedDuty canTxFd slider
  have inside := slider.value_le
  by_cases whole : slider.value % 10 = 0
  · have stepped : slider.value = slider.value / 10 * 10 := by omega
    rw [if_pos whole,
      (client.setSlider slider).onSpeedChanged_of_whole slider.value rfl whole]
    rw [← stepped] at carried
    exact (shows.setSlider stepped).send carried
  · have stepped : (SpeedSlider.bound (slider.value / 10 * 10 : ℕ)).value =
        slider.value / 10 * 10 := by
      simp only [SpeedSlider.bound]
      omega
    rw [if_neg whole,
      (client.setSlider slider).onSpeedChanged_of_not_whole slider.value rfl whole]
    exact (shows.setSlider stepped).sendTwice carried

theorem IsPanel.setValue (shows : IsPanel client panel) (value : ℤ) :
    Gives canTxFd (client.setValue value) (panel.setSpeed (.bound value)) := by
  have sameIff : SpeedSlider.bound value = client.window.sldSpeed ↔
      (SpeedSlider.bound value).value = 10 * panel.percent.val := by
    rw [← shows.percent, SpeedSlider.ext_iff]
  by_cases same : SpeedSlider.bound value = client.window.sldSpeed
  · rw [client.setValue_of_shown same, Panel.setSpeed, if_pos (sameIff.mp same)]
    exact ⟨shows, rfl⟩
  · rw [QtClient.setValue, Panel.setSpeed, if_neg (fun eq => same (sameIff.mpr eq))]
    simp only [if_neg same]
    exact shows.onSpeedChanged _

theorem IsPanel.onUser (shows : IsPanel client panel) (event : WindowEvent) :
    Gives canTxFd (client.onUser event) (panel.step (.user event)) := by
  cases event with
  | dirClicked btn =>
      have value : MainWindow.dirMapValue btn 0x05 = VsClientThread.dirVal btn := by
        cases btn <;> rfl
      rw [QtClient.onUser, QtClient.onDirClicked, value]
      exact shows.send (busCommands_request canTxFd (.direction btn))
  | sliderSet value => exact shows.setValue value
  | aebOnClicked => exact shows.send (busCommands_request canTxFd (.aeb true))
  | aebOffClicked => exact shows.send (busCommands_request canTxFd (.aeb false))
  | autoparkStartClicked => exact shows.send (busCommands_request canTxFd .autopark)
  | passwordEdited text => exact ⟨⟨shows.connected, shows.percent, rfl⟩, rfl⟩
  | loginClicked =>
      rw [QtClient.onUser, QtClient.onLogin, Panel.step, shows.password]
      split
      next => exact ⟨shows, rfl⟩
      next => exact shows.send (busCommands_sendAuthPassword canTxFd _)

theorem IsPanel.emit (shows : IsPanel client panel) : IsPanel client.emit panel := by
  rw [QtClient.emit]
  split
  next => exact shows
  next => exact ⟨shows.connected, shows.percent, shows.password⟩

theorem IsPanel.deliver (shows : IsPanel client panel) : IsPanel client.deliver panel := by
  rw [QtClient.deliver]
  split
  next => exact shows
  next call _ _ =>
    cases call with
    | logLine line => exact ⟨shows.connected, shows.percent, shows.password⟩
    | signal signal =>
        cases signal <;> exact ⟨shows.connected, shows.percent, shows.password⟩

/-- One input of the client is at most one input of the panel. -/
theorem IsPanel.step (shows : IsPanel client panel) (input : QtInput) :
    IsPanel (QtClient.machine.step client input).1
        (Panel.machine.stateAfter panel input.atPanel) ∧
      (QtClient.machine.step client input).2.flatMap (busCommands canTxFd true) =
        (Panel.machine.output panel input.atPanel).map some := by
  cases input with
  | user event =>
      rcases shows.onUser event with ⟨after, carried⟩
      refine ⟨after, carried.trans ?_⟩
      rw [QtInput.atPanel, Panel.machine.output_cons, Panel.machine.output_nil, List.append_nil]
      rfl
  | appCreated => exact ⟨⟨rfl, shows.percent, shows.password⟩, rfl⟩
  | info line => exact ⟨⟨shows.connected, shows.percent, shows.password⟩, rfl⟩
  | received data => exact ⟨⟨shows.connected, shows.percent, shows.password⟩, rfl⟩
  | emit => exact ⟨shows.emit, rfl⟩
  | deliver => exact ⟨shows.deliver, rfl⟩

theorem isPanel_initial : IsPanel .initial .initial where
  connected := rfl
  percent := rfl
  password := rfl

end Simulation

/-- In every run, what the window sends is on the bus as the commands of the panel while the socket
takes every frame, and its slider shows the percentage of the panel. -/
theorem window_drives_bus (canTxFd : ℕ) (inputs : List QtInput) :
    (QtClient.machine.output .initial inputs).flatMap (busCommands canTxFd true) =
        (Panel.machine.output .initial (inputs.flatMap QtInput.atPanel)).map some ∧
      (QtClient.machine.stateAfter .initial inputs).window.sldSpeed.value =
        10 * (Panel.machine.stateAfter .initial
          (inputs.flatMap QtInput.atPanel)).percent.val := by
  rcases QtClient.machine.run_of_simulation Panel.machine IsPanel QtInput.atPanel
    (busCommands canTxFd true) some (fun shows input => shows.step input)
    isPanel_initial inputs with ⟨shows, carried⟩
  exact ⟨carried, shows.percent⟩

/-! ## The last speed -/

def speedAfter (speed : ℕ) : Option Command → ℕ
  | some (.driveSpeed duty) => duty.toNat
  | _ => speed

/-- The speed which the vehicle was last told, zero before the first one. -/
def lastSpeed (carried : List (Option Command)) : ℕ :=
  carried.foldl speedAfter 0

def PanelInput.isConnect : PanelInput → Bool
  | .connect => true
  | .user _ => false

/-- The slider is left alone as long as the panel is not connected. -/
def Unmoved (inputs : List PanelInput) : Prop :=
  ∀ value, .user (.sliderSet value) ∉ inputs.takeWhile fun input => !input.isConnect

namespace Panel

theorem speedAfter_setSpeed (panel : Panel) (connected : panel.connected = true)
    (slider : SpeedSlider) :
    (panel.setSpeed slider).1.percent.val =
      ((panel.setSpeed slider).2.map some).foldl speedAfter panel.percent.val := by
  rw [setSpeed]
  split
  next => rfl
  next =>
    have percentLt := (percentOf slider).isLt
    have dutyEq : (UInt8.ofNat (percentOf slider).val).toNat = (percentOf slider).val := by
      rw [UInt8.toNat_ofNat']
      omega
    simp only [give, if_pos connected]
    split
    next => exact dutyEq.symm
    next => exact dutyEq.symm

/-- Every speed of a connected panel is told to the vehicle. -/
theorem speedAfter_step (panel : Panel) (input : PanelInput)
    (told : panel.connected = true ∨ ∀ value, input ≠ .user (.sliderSet value)) :
    (panel.step input).1.percent.val =
      ((panel.step input).2.map some).foldl speedAfter panel.percent.val := by
  have other : ∀ command, (∀ duty, command ≠ .driveSpeed duty) →
      (panel.give [command]).1.percent.val =
        ((panel.give [command]).2.map some).foldl speedAfter panel.percent.val := by
    intro command noSpeed
    rw [give]
    split
    · cases command with
      | driveSpeed duty => exact absurd rfl (noSpeed duty)
      | _ => rfl
    · rfl
  cases input with
  | connect => rfl
  | user event =>
      cases event with
      | dirClicked btn => exact other _ (by simp)
      | sliderSet value =>
          rcases told with connected | noSlider
          · exact speedAfter_setSpeed panel connected (.bound value)
          · exact absurd rfl (noSlider value)
      | aebOnClicked => exact other _ (by simp)
      | aebOffClicked => exact other _ (by simp)
      | autoparkStartClicked => exact other _ (by simp)
      | passwordEdited text => rfl
      | loginClicked =>
          rw [step]
          split
          · rfl
          · exact other _ (by simp)

theorem connected_step (panel : Panel) (input : PanelInput) :
    (panel.step input).1.connected = (panel.connected || input.isConnect) := by
  cases input with
  | connect => simp [step, PanelInput.isConnect]
  | user event =>
      rw [PanelInput.isConnect, Bool.or_false]
      cases event with
      | sliderSet value =>
          rw [step, setSpeed]
          split <;> rfl
      | loginClicked =>
          rw [step]
          split <;> rfl
      | _ => rfl

theorem speedAfter_run {panel : Panel} {inputs : List PanelInput}
    (unmoved : panel.connected = false → Unmoved inputs) :
    (machine.stateAfter panel inputs).percent.val =
      ((machine.output panel inputs).map some).foldl speedAfter panel.percent.val := by
  induction inputs generalizing panel with
  | nil => rfl
  | cons input inputs ih =>
      have told : panel.connected = true ∨ ∀ value, input ≠ .user (.sliderSet value) := by
        by_cases connected : panel.connected = true
        · exact Or.inl connected
        · right
          intro value inputEq
          apply unmoved (Bool.eq_false_iff.mpr connected) value
          simp [inputEq, PanelInput.isConnect]
      have later : (panel.step input).1.connected = false → Unmoved inputs := by
        rw [connected_step, Bool.or_eq_false_iff]
        rintro ⟨apart, noConnect⟩ value moved
        apply unmoved apart value
        simp [noConnect, moved]
      rw [machine.stateAfter_cons, machine.output_cons, List.map_append, List.foldl_append]
      refine (ih later).trans ?_
      rw [speedAfter_step panel input told]
      rfl

end Panel

/-- While the socket takes every frame, the slider shows the speed which the vehicle was last told,
unless it was moved before the window was connected. -/
theorem slider_shows_lastSpeed (canTxFd : ℕ) (inputs : List QtInput)
    (unmoved : Unmoved (inputs.flatMap QtInput.atPanel)) :
    (QtClient.machine.stateAfter .initial inputs).window.sldSpeed.value =
      10 * lastSpeed ((QtClient.machine.output .initial inputs).flatMap
        (busCommands canTxFd true)) := by
  rcases QtClient.machine.run_of_simulation Panel.machine IsPanel QtInput.atPanel
    (busCommands canTxFd true) some (fun shows input => shows.step input)
    isPanel_initial inputs with ⟨shows, carried⟩
  rw [shows.percent, carried, lastSpeed, Panel.speedAfter_run (fun _ => unmoved)]
  rfl

/-- The slider set to 555 shows 550, and the vehicle was told 55 percent. -/
theorem slider_shows_lastSpeed_moved :
    (QtClient.machine.stateAfter .initial [.appCreated, .user (.sliderSet 555)]
        ).window.sldSpeed.value =
      10 * lastSpeed ((QtClient.machine.output .initial
        [.appCreated, .user (.sliderSet 555)]).flatMap (busCommands 3 true)) :=
  slider_shows_lastSpeed 3 _ (by intro value; simp [QtInput.atPanel, PanelInput.isConnect])

end Synapse
