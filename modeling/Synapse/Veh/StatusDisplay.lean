import Synapse.Veh.MainWindow

/-!
# The status labels

On its way to a label a signal waits twice: in the handler which emits it and in the
event loop. This file accounts for the signals of all events through both, and shows that
the labels always stand for the last signals of each kind among those which have
arrived, whatever the user does in between.
-/

namespace Synapse

/-! ## What the labels say -/

def Signal.aeb? : Signal → Option Bool
  | .aebStateChanged active => some active
  | _ => none

def Signal.autopark? : Signal → Option UInt8
  | .autoparkStateChanged st => some st
  | _ => none

def Signal.tof? : Signal → Option UInt32
  | .tofChanged mm => some mm
  | _ => none

def Signal.auth? : Signal → Option Bool
  | .authStateChanged ok => some ok
  | _ => none

/-- What a vehicle has last said about each quantity. -/
structure VehicleStatus where
  aeb : Option Bool
  autopark : Option UInt8
  tof : Option UInt32
  auth : Option Bool
deriving DecidableEq

def lastStatus (signals : List Signal) : VehicleStatus where
  aeb := (signals.filterMap Signal.aeb?).getLast?
  autopark := (signals.filterMap Signal.autopark?).getLast?
  tof := (signals.filterMap Signal.tof?).getLast?
  auth := (signals.filterMap Signal.auth?).getLast?

/-- The texts which stand for a status; a quantity which was never reported has its first text. -/
def VehicleStatus.texts (status : VehicleStatus) : String × String × String × String :=
  (status.aeb.elim "AEB Active: -" fun active => "AEB Active: " ++ if active then "ON" else "OFF",
    status.autopark.elim "AutoPark: 0x00" fun st =>
      "AutoPark: 0x" ++ String.ofList (paddedHexText st),
    status.tof.elim "ToF: 0 mm" fun mm => "ToF: " ++ toString mm.toNat ++ " mm",
    status.auth.elim "Auth: -" fun ok => "Auth: " ++ if ok then "OK" else "FAIL")

theorem lastStatus_concat (signals : List Signal) (signal : Signal) :
    lastStatus (signals ++ [signal]) =
      match signal with
      | .aebStateChanged active => { lastStatus signals with aeb := some active }
      | .autoparkStateChanged st => { lastStatus signals with autopark := some st }
      | .tofChanged mm => { lastStatus signals with tof := some mm }
      | .authStateChanged ok => { lastStatus signals with auth := some ok } := by
  cases signal <;>
    simp [lastStatus, Signal.aeb?, Signal.autopark?, Signal.tof?, Signal.auth?]

/-! ## Signals on their way -/

def VsClientThread.Emitted.signal? : Emitted → Option Signal
  | .logLine _ => none
  | .signal emitted => some emitted

/-- The signals among calls which are still to be made. -/
def signalsOf (calls : List VsClientThread.Emitted) : List Signal :=
  calls.filterMap VsClientThread.Emitted.signal?

theorem signalsOf_append (first second : List VsClientThread.Emitted) :
    signalsOf (first ++ second) = signalsOf first ++ signalsOf second :=
  List.filterMap_append

theorem signalsOf_emits (data : List UInt8) :
    signalsOf (VsClientThread.emits data) = (VsClientThread.onEvent data).toList := by
  rw [VsClientThread.emits]
  split
  next short => rw [VsClientThread.onEvent, if_pos short]; rfl
  next => cases VsClientThread.onEvent data <;> rfl

/-- The payload of the event which an input delivers, if any. -/
def QtInput.event? : QtInput → Option (List UInt8)
  | .user _ => none
  | .appCreated => none
  | .info _ => none
  | .received data => some data
  | .emit => none
  | .deliver => none

namespace QtClient

/-- The signals which have not arrived at the window. -/
def pendingSignals (client : QtClient) : List Signal :=
  signalsOf client.posted ++ signalsOf client.handlers

/-- The labels stand for the signals which have arrived, and with those on their way these are the
signals of all events. -/
structure Displays (client : QtClient) (events : List (List UInt8)) (arrived : List Signal) :
    Prop where
  labels : client.labels = (lastStatus arrived).texts
  account : arrived ++ client.pendingSignals = events.filterMap VsClientThread.onEvent

section Step

variable {client : QtClient} {events : List (List UInt8)} {arrived : List Signal}

theorem labels_onEmitted_signal (signal : Signal)
    (labels : client.labels = (lastStatus arrived).texts) :
    ({ client with window := client.window.onEmitted (.signal signal) } : QtClient).labels =
      (lastStatus (arrived ++ [signal])).texts := by
  simp only [QtClient.labels, VehicleStatus.texts, Prod.mk.injEq] at labels
  rcases labels with ⟨aeb, autopark, tof, auth⟩
  rw [lastStatus_concat]
  cases signal with
  | aebStateChanged active =>
      exact congrArg₂ _ rfl (congrArg₂ _ autopark (congrArg₂ _ tof auth))
  | autoparkStateChanged st =>
      exact congrArg₂ _ aeb (congrArg₂ _ rfl (congrArg₂ _ tof auth))
  | tofChanged mm =>
      exact congrArg₂ _ aeb (congrArg₂ _ autopark (congrArg₂ _ rfl auth))
  | authStateChanged ok =>
      exact congrArg₂ _ aeb (congrArg₂ _ autopark (congrArg₂ _ tof rfl))

theorem Displays.deliver (displays : Displays client events arrived) :
    ∃ later, Displays client.deliver events later := by
  rw [QtClient.deliver]
  split
  next => exact ⟨arrived, displays⟩
  next call posted postedEq =>
    have account := displays.account
    rw [pendingSignals, postedEq] at account
    cases call with
    | logLine line => exact ⟨arrived, displays.labels, account⟩
    | signal signal =>
        refine ⟨arrived ++ [signal], labels_onEmitted_signal signal displays.labels, ?_⟩
        rw [← account, List.append_assoc]
        rfl

theorem Displays.emit (displays : Displays client events arrived) :
    Displays client.emit events arrived := by
  rw [QtClient.emit]
  split
  next => exact displays
  next call handlers handlersEq =>
    refine ⟨displays.labels, ?_⟩
    rw [← displays.account, pendingSignals, pendingSignals, handlersEq, signalsOf_append,
      List.append_assoc, ← signalsOf_append]
    rfl

/-- No input of the client breaks the account. -/
theorem Displays.step (displays : Displays client events arrived) (input : QtInput) :
    ∃ later, Displays (machine.step client input).1 (events ++ input.event?.toList) later := by
  cases input with
  | user event =>
      have same := SlotRun.onUser client event
      refine ⟨arrived, same.labels.trans displays.labels, ?_⟩
      have pending : (client.onUser event).1.pendingSignals = client.pendingSignals := by
        rw [pendingSignals, same.posted, same.handlers, pendingSignals]
      change arrived ++ (client.onUser event).1.pendingSignals = _
      rw [pending, displays.account, QtInput.event?, Option.toList_none, List.append_nil]
  | appCreated =>
      refine ⟨arrived, displays.labels, ?_⟩
      rw [QtInput.event?, Option.toList_none, List.append_nil]
      exact displays.account
  | info line =>
      refine ⟨arrived, displays.labels, ?_⟩
      rw [QtInput.event?, Option.toList_none, List.append_nil, ← displays.account]
      change arrived ++ (signalsOf (client.posted ++ [.logLine line.text]) ++
        signalsOf client.handlers) = _
      rw [signalsOf_append, pendingSignals]
      simp [signalsOf, VsClientThread.Emitted.signal?]
  | received data =>
      refine ⟨arrived, displays.labels, ?_⟩
      rw [QtInput.event?, Option.toList_some, List.filterMap_append, ← displays.account]
      change arrived ++ (signalsOf client.posted ++
        signalsOf (client.handlers ++ VsClientThread.emits data)) = _
      rw [signalsOf_append, signalsOf_emits, pendingSignals]
      cases emitted : VsClientThread.onEvent data <;> simp [emitted]
  | emit =>
      rw [QtInput.event?, Option.toList_none, List.append_nil]
      exact ⟨arrived, displays.emit⟩
  | deliver =>
      rw [QtInput.event?, Option.toList_none, List.append_nil]
      exact displays.deliver

end Step

theorem displays_initial : Displays initial [] [] where
  labels := rfl
  account := rfl

/-- The account holds after every run, whatever the order of its steps. -/
theorem displays_stateAfter (inputs : List QtInput) :
    ∃ arrived, Displays (machine.stateAfter initial inputs) (inputs.filterMap QtInput.event?)
      arrived := by
  apply machine.run_invariant QtInput.event?
    fun client _ events => ∃ arrived, Displays client events arrived
  · rintro client _ events ⟨arrived, displays⟩ input
    exact displays.step input
  · exact ⟨[], displays_initial⟩

end QtClient

/-! ## From the bus to the labels -/

/-- The events which a publisher makes of the traffic on the bus. -/
inductive Publishes (traffic : List CanRead) : List (List UInt8) → Prop where
  | unifiedServer (filterInstalled : Bool) :
      Publishes traffic (VehUnifiedServer.canListenerLoop filterInstalled traffic)
  | statusPublisher : Publishes traffic (VehStatusPublisher.publishLoop traffic)

theorem Publishes.signals {traffic : List CanRead} {events : List (List UInt8)}
    (publishes : Publishes traffic events) :
    events.filterMap VsClientThread.onEvent = traffic.filterMap referenceSignal := by
  cases publishes with
  | unifiedServer filterInstalled =>
      rw [VehUnifiedServer.canListenerLoop, List.filterMap_filterMap,
        List.filterMap_congr fun read _ => listen_signal read]
      cases filterInstalled with
      | true => exact filterMap_received traffic
      | false => rfl
  | statusPublisher =>
      rw [VehStatusPublisher.publishLoop, List.filterMap_filterMap]
      exact List.filterMap_congr fun read _ => publishOnce_signal read

/-- In every interleaving, the labels stand for the last values among the first signals of the
bus, all but those still on their way; when nothing is left to emit or deliver, for those
of the whole traffic. -/
theorem labels_show_bus {traffic : List CanRead} {inputs : List QtInput}
    (published : Publishes traffic (inputs.filterMap QtInput.event?)) :
    (∃ arrived, (QtClient.machine.stateAfter .initial inputs).labels =
        (lastStatus arrived).texts ∧
      arrived ++ (QtClient.machine.stateAfter .initial inputs).pendingSignals =
        traffic.filterMap referenceSignal) ∧
    ((QtClient.machine.stateAfter .initial inputs).handlers = [] →
      (QtClient.machine.stateAfter .initial inputs).posted = [] →
        (QtClient.machine.stateAfter .initial inputs).labels =
          (lastStatus (traffic.filterMap referenceSignal)).texts) := by
  rcases QtClient.displays_stateAfter inputs with ⟨arrived, displays⟩
  have account := displays.account
  rw [published.signals] at account
  refine ⟨⟨arrived, displays.labels, account⟩, ?_⟩
  intro noHandlers noPosted
  rw [QtClient.pendingSignals, noHandlers, noPosted] at account
  rw [displays.labels, ← account]
  simp [signalsOf]

def aebFrame : ReceivedFrame where
  canId := 0x310
  canDlc := 4
  data := #v[0x01, 0x01, 0, 0, 0, 0, 0, 0]
  canDlc_le := by decide

/-- The AEB state on its way to the label, while the user switches the AEB off. -/
def aebRun : List QtInput :=
  [.received [0x01, 0x01, 0x00, 0x00], .emit, .user .aebOffClicked, .emit, .deliver, .deliver]

theorem labels_show_bus_aebRun :
    (∃ arrived, (QtClient.machine.stateAfter .initial aebRun).labels =
        (lastStatus arrived).texts ∧
      arrived ++ (QtClient.machine.stateAfter .initial aebRun).pendingSignals =
        [.frame aebFrame].filterMap referenceSignal) ∧
    ((QtClient.machine.stateAfter .initial aebRun).handlers = [] →
      (QtClient.machine.stateAfter .initial aebRun).posted = [] →
        (QtClient.machine.stateAfter .initial aebRun).labels =
          (lastStatus ([CanRead.frame aebFrame].filterMap referenceSignal)).texts) := by
  apply labels_show_bus
  exact Publishes.unifiedServer true

end Synapse
