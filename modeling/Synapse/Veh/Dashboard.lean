import Synapse.Veh.Panel
import Synapse.Veh.VehicleControlGui

/-!
# The dashboard

Seen from outside, the Python window is a dashboard: it knows the direction which was pressed
last, a speed, a switch, a progress and a distance. Its numbering of commands and of events is
not the one of the vehicle. This file says what the window shows for the frames on the CAN bus
and what the bus carries for its buttons, and shows in every run that the window is the
picture of its dashboard and that the bus carries the commands of the dashboard.
-/

namespace Synapse

open VehicleControlGui (StatusUpdate statusUpdate? stateText)

/-- The two programs which publish status events. -/
inductive StatusSource where
  | unifiedServer
  | statusPublisher

def StatusSource.publish : StatusSource → CanRead → Option (List UInt8)
  | .unifiedServer => VehUnifiedServer.listen
  | .statusPublisher => VehStatusPublisher.publishOnce

/-- What the Python client handles: a button, the slider, or the event of one read on the bus. -/
inductive PythonInput where
  | direction (button : DirectionButton)
  | speedChange (value : Fin 101)
  | toggleAeb
  | triggerAutopark
  | busRead (source : StatusSource) (read : CanRead)

namespace VehicleControlGui

def onBusRead (gui : VehicleControlGui) (source : StatusSource) (read : CanRead) :
    VehicleControlGui × List (List UInt8) :=
  match source.publish read with
  | none => (gui, [])
  | some data => gui.handle (.statusUpdate data)

/-- The window together with the publisher which it listens to. -/
def busMachine : Transducer VehicleControlGui PythonInput (List UInt8) where
  step gui
    | .direction button => gui.handle (.direction button)
    | .speedChange value => gui.handle (.speedChange value)
    | .toggleAeb => gui.handle .toggleAeb
    | .triggerAutopark => gui.handle .triggerAutopark
    | .busRead source read => gui.onBusRead source read

end VehicleControlGui

/-! ## Frames of the bus -/

/-- What the window makes of a status frame: its progress is the first byte of a distance, its
switch the state of the parking, and its distance the value of an authentication. -/
def frameUpdate? (frame : ReceivedFrame) : Option StatusUpdate :=
  if frame.data[0]! = 2 then some (.aeb (decide (frame.data[1]! ≠ 0)))
  else if frame.data[0]! = 3 then some (.autopark frame.data[1]!)
  else if frame.data[0]! = 4 ∧ 3 ≤ frame.canDlc.toNat then
    some (.tof (frame.data[1]!.toNat + 256 * frame.data[2]!.toNat))
  else none

def readUpdate? : CanRead → Option StatusUpdate
  | .failed => none
  | .frame frame =>
      if frame.canId = 0x310 ∧ 2 ≤ frame.canDlc.toNat then frameUpdate? frame else none

section Frames

variable {frame : ReceivedFrame}

theorem statusUpdate?_dataBytes (carried : 2 ≤ frame.canDlc.toNat) :
    statusUpdate? (frame.data[0]! :: frame.dataBytes 1) = frameUpdate? frame := by
  have length := frame.length_dataBytes 0
  rw [← frame.dataBytes_cons (show 0 < frame.canDlc.toNat by omega), statusUpdate?,
    if_neg (by omega)]
  simp only [getElem!_dataBytes (show 0 < frame.canDlc.toNat by omega),
    getElem!_dataBytes (show 1 < frame.canDlc.toNat by omega), bne_zero_eq]
  rw [frameUpdate?]
  by_cases two : frame.data[0]! = 2
  · rw [two]
    rfl
  · by_cases three : frame.data[0]! = 3
    · rw [three]
      rfl
    · rw [if_neg two, if_neg three, if_neg two, if_neg three]
      by_cases four : frame.data[0]! = 4
      · rw [if_pos four]
        by_cases long : 3 ≤ frame.canDlc.toNat
        · rw [if_pos (show (frame.dataBytes 0).length ≥ 3 by omega), if_pos ⟨four, long⟩,
            getElem!_dataBytes (by omega)]
        · rw [if_neg (show ¬(frame.dataBytes 0).length ≥ 3 by omega),
            if_neg (fun both => long both.2)]
      · rw [if_neg four, if_neg (fun both => four both.1)]

theorem distanceBytes : (frame.data.toList.take 4).drop 1 =
    [frame.data[1]!, frame.data[2]!, frame.data[3]!] := by
  apply List.ext_getElem
  · simp
  · intro index indexLt _
    simp only [List.length_drop, List.length_take, Vector.length_toList] at indexLt
    have small : index = 0 ∨ index = 1 ∨ index = 2 := by omega
    rcases small with rfl | rfl | rfl <;> simp

/-- Through either publisher a client sees the same of a frame, if it reads a distance which was cut
off behind its third byte like the whole one. -/
theorem StatusSource.publish_bind {Value : Type} {decode : List UInt8 → Option Value}
    {meaning : ReceivedFrame → Option Value}
    (whole : ∀ frame : ReceivedFrame, 2 ≤ frame.canDlc.toNat →
      decode (frame.data[0]! :: frame.dataBytes 1) = meaning frame)
    (cut : ∀ frame : ReceivedFrame, frame.data[0]! = 3 → 4 ≤ frame.canDlc.toNat →
      decode (frame.data[0]! :: (frame.data.toList.take 4).drop 1) = meaning frame)
    (source : StatusSource) (frame : ReceivedFrame) :
    (source.publish (.frame frame)).bind decode =
      if frame.canId = 0x310 ∧ 2 ≤ frame.canDlc.toNat then meaning frame else none := by
  have dlcIff : frame.canDlc ≥ 2 ↔ 2 ≤ frame.canDlc.toNat := UInt8.le_iff_toNat_le
  have longIff : frame.canDlc ≥ 4 ↔ 4 ≤ frame.canDlc.toNat := UInt8.le_iff_toNat_le
  by_cases status : frame.canId = 0x310 ∧ 2 ≤ frame.canDlc.toNat
  · rw [if_pos status]
    cases source with
    | unifiedServer =>
        have standard : frame.canId &&& canEffFlag = 0 := by
          rw [status.1]
          decide
        rw [StatusSource.publish, VehUnifiedServer.listen,
          if_pos ⟨standard, status.1, dlcIff.mpr status.2⟩]
        by_cases distance : frame.data[0]! = 0x03 ∧ frame.canDlc ≥ 4
        · simp only [if_pos distance]
          exact cut frame distance.1 (longIff.mp distance.2)
        · simp only [if_neg distance]
          exact whole frame status.2
    | statusPublisher =>
        rw [StatusSource.publish, VehStatusPublisher.publishOnce,
          if_pos ⟨status.1, dlcIff.mpr status.2⟩]
        exact whole frame status.2
  · rw [if_neg status]
    cases source with
    | unifiedServer =>
        rw [StatusSource.publish, VehUnifiedServer.listen,
          if_neg (fun cond => status ⟨cond.2.1, dlcIff.mp cond.2.2⟩)]
        rfl
    | statusPublisher =>
        rw [StatusSource.publish, VehStatusPublisher.publishOnce,
          if_neg (fun cond => status ⟨cond.1, dlcIff.mp cond.2⟩)]
        rfl

theorem StatusSource.publish_update (source : StatusSource) (read : CanRead) :
    (source.publish read).bind statusUpdate? = readUpdate? read := by
  cases read with
  | failed => cases source <;> rfl
  | frame frame =>
      apply StatusSource.publish_bind
      · intro frame carried
        exact statusUpdate?_dataBytes carried
      · intro frame distance _
        rw [distanceBytes, distance, frameUpdate?, distance]
        rfl

end Frames

/-! ## The dashboard and its picture -/

/-- How far the parking is; an unfinished progress is below 100. -/
inductive Parking where
  | off
  | started
  | progress (percent : Fin 100)
  | complete

def Parking.ofByte (prog : UInt8) : Parking :=
  if below : prog.toNat < 100 then .progress ⟨prog.toNat, below⟩ else .complete

structure Dashboard where
  pressed : Option DirectionButton
  speed : Fin 101
  aeb : Bool
  requested : Bool
  parking : Parking
  distance : ℕ

namespace Dashboard

theorem zero_lt_speeds : 0 < 101 :=
  Nat.succ_pos 100

def initial : Dashboard where
  pressed := none
  speed := ⟨0, zero_lt_speeds⟩
  aeb := false
  requested := false
  parking := .off
  distance := 0

def parkText : Parking → String
  | .off => "OFF"
  | .started => "RUNNING"
  | .progress percent => s!"{percent.val}%"
  | .complete => "COMPLETE"

def parkBtnText : Parking → String
  | .off => "OFF"
  | .started => "RUNNING"
  | .progress _ => "RUNNING"
  | .complete => "OFF"

/-- The window which shows a dashboard. -/
def render (dashboard : Dashboard) : VehicleControlGui where
  speed := dashboard.speed
  direction := dashboard.pressed.elim "STOP" DirectionButton.label
  aeb := dashboard.aeb
  autopark := dashboard.requested
  dirLabel := "Direction: " ++ dashboard.pressed.elim "STOP" DirectionButton.label
  spdLabel := "Speed: " ++ toString dashboard.speed ++ "%"
  aebLabel := "AEB: " ++ stateText dashboard.aeb
  parkLabel := "AutoPark: " ++ parkText dashboard.parking
  tofLabel := "ToF: " ++ toString dashboard.distance ++ " cm"
  aebBtn := "AEB: " ++ stateText dashboard.aeb
  autoparkBtn := "AutoPark: " ++ parkBtnText dashboard.parking

def update (dashboard : Dashboard) : StatusUpdate → Dashboard
  | .tof dist => { dashboard with distance := dist }
  | .aeb active => { dashboard with aeb := active }
  | .autopark prog => { dashboard with parking := .ofByte prog }

/-- What the vehicle is told by a direction button at a speed: the command which the number of the
button stands for, with the speed as its value. -/
def pressCommand (button : DirectionButton) (speed : UInt8) : Option Command :=
  match button with
  | .upLeft => none
  | .up => none
  | .upRight => none
  | .left => if speed = 1 then some .autoparkStart else none
  | .stop => some (.authPassword [speed])
  | .right => none
  | .downLeft => (DriveDir.ofByte? speed).map .driveDirection
  | .down => some (.driveSpeed speed)
  | .downRight =>
      if speed = 0 then some (.aebControl false)
      else if speed = 1 then some (.aebControl true)
      else none

/-- The dashboard with the commands of the frames which a step puts on the bus; a frame without a
meaning is none. -/
def step (dashboard : Dashboard) : PythonInput → Dashboard × List (Option Command)
  | .direction button =>
      ({ dashboard with pressed := some button },
        [pressCommand button (UInt8.ofNat dashboard.speed.val)])
  | .speedChange value => ({ dashboard with speed := value }, [])
  | .toggleAeb => ({ dashboard with aeb := !dashboard.aeb }, [none])
  | .triggerAutopark => ({ dashboard with requested := true, parking := .started }, [none])
  | .busRead _ read =>
      ((readUpdate? read).elim dashboard dashboard.update, [])

def machine : Transducer Dashboard PythonInput (Option Command) where
  step := step

/-! ## The window shows its dashboard -/

theorem render_initial : render initial = .initial := by
  rfl

theorem render_update (dashboard : Dashboard) (update : StatusUpdate) :
    dashboard.render.showStatus update = (dashboard.update update).render := by
  cases update with
  | tof dist => rfl
  | aeb active => rfl
  | autopark prog =>
      have complete : prog ≥ 100 ↔ ¬prog.toNat < 100 := by
        rw [ge_iff_le, UInt8.le_iff_toNat_le, Nat.not_lt]
        rfl
      rw [VehicleControlGui.showStatus, Dashboard.update, Parking.ofByte]
      by_cases below : prog.toNat < 100
      · rw [if_neg (fun above => complete.mp above below), dif_pos below]
        rfl
      · rw [if_pos (complete.mpr below), dif_neg below]
        rfl

theorem render_busRead (dashboard : Dashboard) (source : StatusSource) (read : CanRead) :
    dashboard.render.onBusRead source read =
      (((readUpdate? read).elim dashboard dashboard.update).render, []) := by
  rw [← source.publish_update read, VehicleControlGui.onBusRead]
  cases published : source.publish read with
  | none => rfl
  | some data =>
      change dashboard.render.onStatusUpdate data = _
      rw [VehicleControlGui.onStatusUpdate, Option.bind_some]
      cases statusUpdate? data with
      | none => rfl
      | some update => exact congrArg (fun gui => (gui, [])) (dashboard.render_update update)

/-! ## The frames of its buttons -/

theorem decodeCommand_press (button : DirectionButton) (speed : Fin 101) :
    decodeCommand [cmdMap button, UInt8.ofNat speed.val] =
      pressCommand button (UInt8.ofNat speed.val) := by
  revert speed
  cases button <;> decide

/-- Handling an input shows what the dashboard makes of it, and the bus carries its commands. -/
theorem shown_step (canTxFd : ℕ) (dashboard : Dashboard)
    (input : PythonInput) :
    (VehicleControlGui.busMachine.step dashboard.render input).1 =
        (dashboard.step input).1.render ∧
      (VehicleControlGui.busMachine.step dashboard.render input).2.flatMap
          (busCommands canTxFd true) = (dashboard.step input).2 := by
  cases input with
  | direction button =>
      refine ⟨rfl, ?_⟩
      have carried := busCommands_cons canTxFd (cmdMap button)
        [UInt8.ofNat dashboard.speed.val]
      rw [Dashboard.step, ← decodeCommand_press]
      exact (List.append_nil _).trans carried
  | speedChange value => exact ⟨rfl, rfl⟩
  | toggleAeb =>
      refine ⟨rfl, ?_⟩
      exact (List.append_nil _).trans (busCommands_cons canTxFd 0xA0 _)
  | triggerAutopark =>
      refine ⟨rfl, ?_⟩
      exact (List.append_nil _).trans (busCommands_cons canTxFd 0xB0 _)
  | busRead source read =>
      have shown := dashboard.render_busRead source read
      change (dashboard.render.onBusRead source read).1 = _ ∧
        (dashboard.render.onBusRead source read).2.flatMap _ = _
      rw [shown]
      exact ⟨rfl, rfl⟩

end Dashboard

/-- In every run the window is the picture of its dashboard, and while the socket takes every frame
the unified server puts the commands of the dashboard on the bus. -/
theorem window_shows_dashboard (canTxFd : ℕ) (inputs : List PythonInput) :
    VehicleControlGui.busMachine.stateAfter .initial inputs =
        (Dashboard.machine.stateAfter .initial inputs).render ∧
      (VehicleControlGui.busMachine.output .initial inputs).flatMap (busCommands canTxFd true) =
        Dashboard.machine.output .initial inputs := by
  have simulated := VehicleControlGui.busMachine.run_of_simulation Dashboard.machine
    (fun gui dashboard => gui = dashboard.render) (fun input => [input])
    (busCommands canTxFd true) id ?_ Dashboard.render_initial.symm inputs
  · simpa using simulated
  · rintro gui dashboard rfl input
    rcases dashboard.shown_step canTxFd input with ⟨shown, carried⟩
    refine ⟨shown, carried.trans ?_⟩
    rw [Dashboard.machine.output_cons, Dashboard.machine.output_nil, List.append_nil, List.map_id]
    rfl

end Synapse
