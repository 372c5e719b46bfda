import Synapse.Library.Recording
import Synapse.IsoTp.SendLoop
import Synapse.Gateway.Demultiplexing
import Synapse.Gateway.FlowControl
import Synapse.Gateway.Steps

/-!
# The flow-control queue

The forwarder puts flow-control frames into the queue and the main thread takes
them out, one at each wait. Frames are put in one at a time behind the pass of the loop
which has read them, the queue outlives the sessions, and a wait which is over leaves it
alone. This file follows every frame from the bus to the wait which takes it: the
frames taken are the frames read in the forwarder's own loop, in their order and each
once, up to those which still stand in the queue.
-/

namespace Synapse

open LockedStream

namespace Gateway

/-- The flow-control frame which a step brings from the bus into the forwarder's own loop. -/
def flowControlRead (gateway : Gateway) : GatewayLabel → List (List UInt8)
  | .canRead read clientWriteOk =>
      if gateway.forwarder = .dispatch then
        flowControlFrames [gateway.forwarderInput read clientWriteOk]
      else []
  | _ => []

/-- The entry which a step takes from the front of the queue. -/
def flowControlTaken (gateway : Gateway) : GatewayLabel → List (List UInt8)
  | .takeFlowControl => (gateway.fcFrameQueue.take 1).map QueueEntry.bytes
  | _ => []

/-- The frames in the queue, and those which the forwarder is about to put into it. -/
def queuedFlowControl (gateway : Gateway) : List (List UInt8) :=
  gateway.fcFrameQueue.map QueueEntry.bytes ++
    pushedFlowControls (gateway.tester.todo .forwarder)

variable {gateway next : Gateway}

theorem queuedFlowControl_congr (queueEq : next.fcFrameQueue = gateway.fcFrameQueue)
    (todoEq : next.tester.todo .forwarder = gateway.tester.todo .forwarder) :
    next.queuedFlowControl = gateway.queuedFlowControl := by
  rw [queuedFlowControl, queuedFlowControl, queueEq, todoEq]

theorem pushedFlowControls_cons (action : GatewayAction) (actions : List GatewayAction) :
    pushedFlowControls (action :: actions) =
      (pushed? action).toList ++ pushedFlowControls actions := by
  rw [pushedFlowControls, List.filterMap_cons]
  cases pushed? action <;> rfl

/-- A pass of the forwarder pushes the flow-control frame which it has read in its own loop. -/
theorem pushes_forwarderStep (pc : ForwarderPc) (input : ForwarderInput) :
    pushedFlowControls (forwarderStep pc input).2 =
      if pc = .dispatch then flowControlFrames [input] else [] := by
  split
  next own =>
    cases flowControl : input.flowControl? with
    | none =>
        have noFrame : flowControlFrames [input] = [] := by
          simp [flowControlFrames, flowControl]
        rw [noFrame]
        exact step_pushes pc input (Or.inl flowControl)
    | some rxFrame =>
        have pushes := step_of_flowControl flowControl
        subst own
        change pushedFlowControls (canToDoipForwarder.step .dispatch input).2 = _
        rw [pushes]
        simp [flowControlFrames, flowControl, pushedFlowControls, pushed?]
  next inside => exact step_pushes pc input (Or.inr inside)

theorem queuedFlowControl_continueSending (env : SendEnv) (request : List UInt8)
    (progress : Progress) (queued : Option (List UInt8)) :
    (gateway.continueSending env request progress queued).queuedFlowControl =
      gateway.queuedFlowControl := by
  apply queuedFlowControl_congr
  · rfl
  · exact submit_main_todo_forwarder _ _

/-- Putting a frame into the queue moves it from what the forwarder has to do. -/
theorem queuedFlowControl_exec {thread : GatewayThread} {count : ℕ}
    (stepEq : gateway.exec thread count = some next) :
    next.queuedFlowControl = gateway.queuedFlowControl := by
  cases thread with
  | main =>
      have todoEq := exec_todo_of_ne stepEq (by decide : GatewayThread.forwarder ≠ .main)
      rcases exec_action_cases stepEq with ⟨effect, rest, _, rfl⟩ | ⟨_, _, tester, _, _, _, rfl, _⟩
      · apply queuedFlowControl_congr
        · cases effect <;> rfl
        · exact todoEq
      · exact queuedFlowControl_congr rfl todoEq
  | forwarder =>
      rcases exec_action_cases stepEq with ⟨effect, rest, todoEq, rfl⟩ |
        ⟨action, rest, tester, todoEq, noEffect, _, rfl, restEq⟩
      · rw [queuedFlowControl, queuedFlowControl, perform_tester, advance_todo_self, todoEq]
        rw [pushedFlowControls_cons]
        cases effect <;> simp [perform, advance, pushed?]
      · have noPush : pushed? action = none := by
          cases action with
          | other effect => exact absurd rfl (noEffect effect)
          | _ => rfl
        have pushesEq : pushedFlowControls (tester.todo .forwarder) = pushedFlowControls rest := by
          rcases restEq with restEq | ⟨bytes, restEq⟩
          · rw [restEq, Function.update_self]
          · rw [restEq, Function.update_self, pushedFlowControls_cons]
            rfl
        rw [queuedFlowControl, queuedFlowControl, todoEq, pushedFlowControls_cons, noPush,
          pushesEq]
        rfl

/-- What stands in the queue behind a step is what stood there before it, without the frame
taken and with the frame read. -/
theorem queuedFlowControl_act {label : GatewayLabel} (actEq : gateway.act label = some next) :
    gateway.queuedFlowControl ++ gateway.flowControlRead label =
      gateway.flowControlTaken label ++ next.queuedFlowControl := by
  cases label with
  | testerRead bytes =>
      rcases testerRead_cases actEq with ⟨_, _, _, rfl⟩
      change gateway.queuedFlowControl ++ [] = _
      rw [List.append_nil]
      apply (queuedFlowControl_congr _ _).symm
      · rfl
      · exact submit_main_todo_forwarder _ _
  | sendFirst env =>
      rcases sendFirst_cases actEq with ⟨request, _, ⟨_, rfl⟩ | ⟨_, rfl⟩⟩
      · exact List.append_nil _
      · exact List.append_nil _
  | takeFlowControl =>
      rcases takeFlowControl_cases actEq with
        ⟨env, request, progress, entry, queue, _, queueEq, _, rfl⟩
      rw [queuedFlowControl_continueSending]
      change gateway.queuedFlowControl ++ [] = _
      simp [queuedFlowControl, flowControlTaken, queueEq]
  | flowControlTimeout =>
      rcases flowControlTimeout_cases actEq with ⟨env, request, progress, _, _, _, rfl⟩
      rw [queuedFlowControl_continueSending]
      exact List.append_nil _
  | canRead read clientWriteOk =>
      rcases canRead_cases actEq with ⟨idle, _, rfl⟩
      rw [queuedFlowControl, queuedFlowControl, submit_todo_self, idle, pushes_forwarderStep]
      simp [flowControlRead, flowControlTaken, pushedFlowControls, submit]
  | exec thread count =>
      change gateway.queuedFlowControl ++ [] = _
      rw [List.append_nil]
      exact (queuedFlowControl_exec actEq).symm
  | mainExit =>
      rcases mainExit_cases actEq with ⟨_, _, rfl⟩
      change gateway.queuedFlowControl ++ [] = _
      rw [List.append_nil]
      apply (queuedFlowControl_congr _ _).symm
      · rfl
      · exact submit_main_todo_forwarder _ _
  | forwarderExit =>
      rcases forwarderExit_cases actEq with ⟨_, rfl⟩
      exact List.append_nil _
  | nextSession =>
      -- A forwarder which has ended has put everything into the queue which it had read.
      rcases nextSession_guard actEq with ⟨_, _, _, idle, rfl⟩
      change gateway.queuedFlowControl ++ [] = gateway.restart.queuedFlowControl
      rw [queuedFlowControl, idle, List.append_nil]
      rfl

theorem mem_flowControlRead {label : GatewayLabel} {bytes : List UInt8}
    (isRead : bytes ∈ gateway.flowControlRead label) :
    ∃ rxFrame : ReceivedFrame, rxFrame.pciType = 3 ∧ bytes = rxFrame.dataBytes 0 := by
  cases label with
  | canRead read clientWriteOk =>
      simp only [flowControlRead] at isRead
      split at isRead
      · simp only [flowControlFrames, List.mem_map, List.mem_filterMap, List.mem_singleton,
          exists_eq_left] at isRead
        rcases isRead with ⟨rxFrame, flowControl, rfl⟩
        refine ⟨rxFrame, ?_, rfl⟩
        simp only [ForwarderInput.flowControl?] at flowControl
        split at flowControl
        · simp at flowControl
        · split at flowControl
          next kind =>
            rw [Option.some.injEq] at flowControl
            rwa [← flowControl]
          next => simp at flowControl
      · simp at isRead
  | _ => simp [flowControlRead] at isRead

end Gateway

/-- A frame of the flow-control type is malformed for the sender only if it carries nothing. -/
theorem waitForFlowControl_dataBytes {rxFrame : ReceivedFrame} (kind : rxFrame.pciType = 3) :
    waitForFlowControl (some (rxFrame.dataBytes 0)) = none ↔ rxFrame.dataBytes 0 = [] := by
  have kindNat := (CanFrame.pciType_eq_iff _ _).mp kind
  cases carriedEq : rxFrame.dataBytes 0 with
  | nil => exact iff_of_true rfl rfl
  | cons pci rest =>
      have pciEq : pci = rxFrame.data[0]! := by
        have headEq := congrArg (·[0]?) carriedEq
        simp only [CanFrame.dataBytes, List.drop_zero, List.getElem?_take,
          List.getElem?_cons_zero] at headEq
        split at headEq
        · simpa using headEq.symm
        · simp at headEq
      rw [waitForFlowControl_cons, pciEq, if_pos]
      · simp
      · simpa using kindNat

/-- In every run of the gateway, over any number of sessions, the frames which the waits for flow
control have taken, those in the queue and those which the forwarder is about to put there are
the flow-control frames read in the forwarder's own loop, each once and in order. A frame which
a wait takes is handed to the sending call unless it carries no byte. -/
theorem flowControl_firstInFirstOut {labels : List GatewayLabel} {final : Gateway}
    (runEq : gatewaySystem.run .start labels = some final) :
    gatewaySystem.record Gateway.flowControlRead .start labels =
        gatewaySystem.record Gateway.flowControlTaken .start labels ++
          (final.fcFrameQueue.map QueueEntry.bytes ++
            pushedFlowControls (final.tester.todo .forwarder)) ∧
      ∀ bytes ∈ gatewaySystem.record Gateway.flowControlTaken .start labels,
        (waitForFlowControl (some bytes) = none ↔ bytes = []) := by
  have conserved : gatewaySystem.record Gateway.flowControlRead .start labels =
      gatewaySystem.record Gateway.flowControlTaken .start labels ++ final.queuedFlowControl := by
    change Gateway.start.queuedFlowControl ++ _ = _
    apply TransitionSystem.record_conserved Gateway.queuedFlowControl _ _ (fun _ => True)
    · intro state label next _ _ _
      trivial
    · intro state label next _ _ stepEq
      rcases gateway_step_cases stepEq with ⟨acted, actEq, rfl⟩
      have moved := Gateway.queuedFlowControl_act actEq
      exact moved
    · trivial
    · apply TransitionSystem.allowedRun_anyStep
    · exact runEq
  refine ⟨conserved, ?_⟩
  have frames : ∀ bytes ∈ gatewaySystem.record Gateway.flowControlRead .start labels,
      ∃ rxFrame : ReceivedFrame, rxFrame.pciType = 3 ∧ bytes = rxFrame.dataBytes 0 := by
    intro bytes isRead
    rcases TransitionSystem.mem_record isRead with ⟨state, label, isRead⟩
    exact Gateway.mem_flowControlRead isRead
  intro bytes isTaken
  rcases frames bytes (by rw [conserved]; exact List.mem_append_left _ isTaken) with
    ⟨rxFrame, kind, rfl⟩
  exact waitForFlowControl_dataBytes kind

/-- The frame which is read in this run is the one which the sending call takes. -/
theorem flowControl_firstInFirstOut_answered :
    ∃ final, gatewaySystem.run .start answeredLabels = some final ∧
      gatewaySystem.record Gateway.flowControlRead .start answeredLabels =
          gatewaySystem.record Gateway.flowControlTaken .start answeredLabels ++
            (final.fcFrameQueue.map QueueEntry.bytes ++
              pushedFlowControls (final.tester.todo .forwarder)) ∧
        ∀ bytes ∈ gatewaySystem.record Gateway.flowControlTaken .start answeredLabels,
          (waitForFlowControl (some bytes) = none ↔ bytes = []) := by
  have ends : (gatewaySystem.run .start answeredLabels).isSome := by decide
  rcases Option.isSome_iff_exists.mp ends with ⟨final, runEq⟩
  exact ⟨final, runEq, flowControl_firstInFirstOut runEq⟩

end Synapse
