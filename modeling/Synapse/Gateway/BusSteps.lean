import Synapse.Library.Recording
import Synapse.IsoTp.SendLoop
import Synapse.Gateway.Steps

/-!
# The CAN bus

Both threads write to the CAN socket: the main thread the frames of its requests,
the forwarder the answers to First Frames. This file says what each step of the gateway
does about the bus, and that the main thread makes one call at a time: it calls
only when it is back at the head of its loop, and not again before the call has
returned.
-/

namespace Synapse

open LockedStream

/-- A call of `isotp_send` which has begun to write, with the frames it has passed to `write` and
whether it has returned before its end. -/
structure BusCall where
  env : SendEnv
  request : List UInt8
  frames : List CanFrame
  gaveUp : Bool

namespace BusCall

def message (call : BusCall) : List CanFrame :=
  messageFrames call.env udsRequestCanId call.request

/-- Unless it gave up, the call has passed its whole message to `write`. -/
def Settled (call : BusCall) : Prop :=
  call.gaveUp = false → call.frames = call.message

end BusCall

/-- What a step of the gateway does about the CAN bus. -/
inductive BusStep where
  | call (request : List UInt8)
  | requestFrame (frame : CanFrame) (accepted : Bool)
  | flowControlFrame (frame : CanFrame)
  /-- The call which is going on returns with a part of its message unwritten. -/
  | gaveUp

namespace BusStep

def call? : BusStep → Option (List UInt8)
  | call request => some request
  | _ => none

def requestFrame? : BusStep → Option CanFrame
  | requestFrame frame _ => some frame
  | _ => none

/-- The frame which is passed to `write`, whichever thread does it. -/
def frame? : BusStep → Option CanFrame
  | requestFrame frame _ => some frame
  | flowControlFrame frame => some frame
  | _ => none

def isGaveUp : BusStep → Bool
  | gaveUp => true
  | _ => false

/-- Nothing has gone wrong on the way to the bus. -/
def isOk : BusStep → Bool
  | requestFrame _ accepted => accepted
  | gaveUp => false
  | _ => true

end BusStep

/-- The frames on the CAN bus which a run has passed to `write`, those of both threads. -/
def busFrames (steps : List BusStep) : List CanFrame :=
  steps.filterMap BusStep.frame?

def eventSteps : SendEvent → List BusStep
  | .canWrite frame accepted => [.requestFrame frame accepted]
  | .sleep _ => []

namespace Gateway

/-- The end of a wait for flow control, which may be the end of the call. -/
def waitSteps (gateway : Gateway) (queued : Option (List UInt8)) : List BusStep :=
  match gateway.sending with
  | .waiting env request progress =>
      if (isotpSendConsecutiveFrames env udsRequestCanId request progress queued).ok then []
      else [.gaveUp]
  | _ => []

def busSteps (gateway : Gateway) : GatewayLabel → List BusStep
  | .sendFirst env =>
      match gateway.sending with
      | .started request =>
          if request.length ≤ 7 then
            [.requestFrame (singleFrame env udsRequestCanId request) (env.accepts 0)]
          else [.requestFrame (firstFrame env udsRequestCanId request) (env.accepts 0)]
      | _ => []
  | .takeFlowControl => gateway.waitSteps (gateway.fcFrameQueue.head?.map QueueEntry.bytes)
  | .flowControlTimeout => gateway.waitSteps none
  | .exec .main _ =>
      match gateway.nextEffect? .main with
      | some (.isotpSend request) => [.call request]
      | some (.isotp event) => eventSteps event
      | _ => []
  | .exec .forwarder _ =>
      match gateway.nextEffect? .forwarder with
      | some (.sendFlowControl frame) => [.flowControlFrame frame]
      | _ => []
  | _ => []

end Gateway

/-- The request of a call which has not written yet. -/
def startedRequest : SendingPc → List (List UInt8)
  | .started request => [request]
  | _ => []

def pendingFrame? : GatewayAction → Option CanFrame
  | .other (.isotp event) => event.frame?
  | _ => none

/-- The frames which a list of actions passes to `write` inside a call. -/
def pendingFrames (actions : List GatewayAction) : List CanFrame :=
  actions.filterMap pendingFrame?

@[simp]
theorem pendingFrames_nil : pendingFrames [] = [] := rfl

theorem pendingFrames_cons (action : GatewayAction) (actions : List GatewayAction) :
    pendingFrames (action :: actions) = (pendingFrame? action).toList ++ pendingFrames actions := by
  rw [pendingFrames, List.filterMap_cons]
  cases pendingFrame? action <;> rfl

theorem pendingFrames_events (events : List SendEvent) :
    pendingFrames (events.map fun event => .other (.isotp event)) = attemptedFrames events := by
  rw [pendingFrames, List.filterMap_map]
  rfl

theorem pendingFrames_of_no_events {actions : List GatewayAction}
    (noEvents : ∀ event, .other (.isotp event) ∉ actions) : pendingFrames actions = [] := by
  rw [pendingFrames, List.filterMap_eq_nil_iff]
  intro action actionMem
  cases action with
  | other effect =>
      cases effect with
      | isotp event => exact absurd actionMem (noEvents event)
      | _ => rfl
  | _ => rfl

/-! ## One call at a time -/

/-- The main thread calls only between two messages, and once for a message. -/
structure OneCall (gateway : Gateway) : Prop where
  atMost : (sendRequests (gateway.tester.todo .main)).length ≤ 1
  idle : sendRequests (gateway.tester.todo .main) ≠ [] → gateway.sending = .idle
  noFrames : sendRequests (gateway.tester.todo .main) ≠ [] →
    pendingFrames (gateway.tester.todo .main) = []
  inLoop : sendRequests (gateway.tester.todo .main) ≠ [] ∨ gateway.sending ≠ .idle →
    gateway.main = .header

theorem handleMessage_oneCall (message : DoIPMessage) :
    (sendRequests (handleMessage true message).2).length ≤ 1 ∧
      (sendRequests (handleMessage true message).2 ≠ [] →
        (handleMessage true message).1 = .header) := by
  rw [handleMessage]
  split
  · exact ⟨Nat.zero_le _, fun _ => rfl⟩
  · split
    · exact ⟨Nat.zero_le _, fun _ => rfl⟩
    · split
      · exact ⟨Nat.zero_le _, fun called => absurd rfl called⟩
      · exact ⟨Nat.le_refl 1, fun _ => rfl⟩

theorem sessionLoopHead_sendRequests (sessionActive : Bool) :
    sendRequests (sessionLoopHead sessionActive []).2 = [] := by
  cases sessionActive <;> rfl

theorem continuePayload_oneCall (sessionActive : Bool) {header : List UInt8}
    (whole : header.length = DoIPHeader.size) (received : List UInt8) :
    let pass := continuePayload sessionActive header whole received
    (sendRequests pass.2).length ≤ 1 ∧ (sendRequests pass.2 ≠ [] → pass.1 = .header) := by
  rw [continuePayload]
  split
  next => exact ⟨Nat.zero_le _, fun called => absurd rfl called⟩
  next =>
    split
    next =>
      split
      next active =>
        rw [active]
        exact handleMessage_oneCall _
      next => exact ⟨Nat.zero_le _, fun called => absurd rfl called⟩
    next => exact ⟨Nat.zero_le _, fun called => absurd rfl called⟩

/-- A call is made only when the thread goes on with its loop behind it. -/
theorem sessionStep_oneCall (pc : SessionPc) (input : SessionInput) :
    (sendRequests (sessionStep pc input).2).length ≤ 1 ∧
      (sendRequests (sessionStep pc input).2 ≠ [] → (sessionStep pc input).1 = .header) := by
  have silent : ∀ {pass : SessionPc × List GatewayAction}, sendRequests pass.2 = [] →
      (sendRequests pass.2).length ≤ 1 ∧ (sendRequests pass.2 ≠ [] → pass.1 = .header) := by
    intro pass noCall
    rw [noCall]
    exact ⟨Nat.zero_le _, fun called => absurd rfl called⟩
  cases pc with
  | header =>
      simp only [sessionStep]
      split
      · exact silent rfl
      · split
        · apply continuePayload_oneCall
        · exact silent (sessionLoopHead_sendRequests _)
  | payload pending =>
      simp only [sessionStep]
      split
      · exact silent rfl
      · apply continuePayload_oneCall
  | closed => exact silent rfl
  | invalidRange => exact silent rfl

namespace OneCall

variable {gateway next : Gateway}

theorem congr (oneCall : OneCall gateway)
    (todoEq : next.tester.todo .main = gateway.tester.todo .main)
    (sendingEq : next.sending = gateway.sending) (mainEq : next.main = gateway.main) :
    OneCall next := by
  rcases oneCall with ⟨atMost, idle, noFrames, inLoop⟩
  refine ⟨?_, ?_, ?_, ?_⟩
  · rwa [todoEq]
  · rwa [todoEq, sendingEq]
  · rwa [todoEq]
  · rwa [todoEq, sendingEq, mainEq]

/-- A main thread which has no call to make. -/
theorem of_silent (silent : sendRequests (next.tester.todo .main) = [])
    (inLoop : next.sending ≠ .idle → next.main = .header) : OneCall next where
  atMost := by
    rw [silent]
    exact Nat.zero_le _
  idle := fun called => absurd silent called
  noFrames := fun called => absurd silent called
  inLoop := by
    rintro (called | sending)
    · exact absurd silent called
    · exact inLoop sending

theorem exec (oneCall : OneCall gateway) {thread : GatewayThread} {count : ℕ}
    (execEq : gateway.exec thread count = some next) : OneCall next := by
  cases thread with
  | forwarder =>
      rcases exec_forwarder_main execEq with ⟨todoEq, sendingEq⟩
      apply oneCall.congr todoEq sendingEq
      rcases Gateway.exec_action_cases execEq with ⟨effect, rest, _, rfl⟩ |
        ⟨_, _, _, _, _, _, rfl, _⟩
      · cases effect <;> rfl
      · rfl
  | main =>
      have mainEq : next.main = gateway.main := by
        rcases Gateway.exec_action_cases execEq with ⟨effect, rest, _, rfl⟩ |
          ⟨_, _, _, _, _, _, rfl, _⟩
        · cases effect <;> rfl
        · rfl
      rcases exec_main_cases execEq with ⟨request, rest, todoEq, restEq, _⟩ |
        ⟨action, rest, todoEq, noCall, restEq, sendingEq, _⟩
      · -- The only call which there was is made.
        have callsEq : sendRequests (gateway.tester.todo .main) = request :: sendRequests rest := by
          rw [todoEq]
          rfl
        have silent : sendRequests rest = [] := by
          have atMost := oneCall.atMost
          rw [callsEq, List.length_cons] at atMost
          exact List.length_eq_zero_iff.mp (by omega)
        apply of_silent
        · rw [restEq, silent]
        · intro _
          rw [mainEq]
          apply oneCall.inLoop
          left
          rw [callsEq]
          exact List.cons_ne_nil _ _
      · have callsEq : sendRequests (next.tester.todo .main) =
            sendRequests (gateway.tester.todo .main) := by
          rw [todoEq, sendRequests, sendRequests, List.filterMap_cons_none noCall]
          rcases restEq with restEq | ⟨bytes, restEq⟩
          · rw [restEq]
          · rw [restEq]
            rfl
        refine ⟨?_, ?_, ?_, ?_⟩
        · rw [callsEq]
          exact oneCall.atMost
        · rw [callsEq, sendingEq]
          exact oneCall.idle
        · rw [callsEq]
          intro called
          have noFrames := oneCall.noFrames called
          rw [todoEq, pendingFrames_cons, List.append_eq_nil_iff] at noFrames
          rcases restEq with restEq | ⟨bytes, restEq⟩
          · rw [restEq]
            exact noFrames.2
          · rw [restEq]
            exact noFrames.2
        · rw [callsEq, sendingEq, mainEq]
          exact oneCall.inLoop

theorem continueSending (oneCall : OneCall gateway) {env : SendEnv} {request : List UInt8}
    {progress : Progress} (sendingEq : gateway.sending = .waiting env request progress)
    (queued : Option (List UInt8)) :
    OneCall (gateway.continueSending env request progress queued) := by
  apply of_silent
  · exact continueSending_sendRequests gateway env request progress queued
  · intro _
    apply oneCall.inLoop
    right
    simp [sendingEq]

theorem act (oneCall : OneCall gateway) {label : GatewayLabel}
    (actEq : gateway.act label = some next) : OneCall next := by
  cases label with
  | testerRead bytes =>
      rcases Gateway.testerRead_cases actEq with ⟨sendingEq, _, _, rfl⟩
      rcases sessionStep_oneCall gateway.main (gateway.mainInput bytes) with ⟨atMost, inLoop⟩
      refine ⟨?_, ?_, ?_, ?_⟩
      · rw [Gateway.submit_todo_self]
        exact atMost
      · intro _
        exact sendingEq
      · intro _
        rw [Gateway.submit_todo_self]
        exact pendingFrames_of_no_events (sessionStep_no_events _ _)
      · rw [Gateway.submit_todo_self]
        rintro (called | sending)
        · exact inLoop called
        · exact absurd sendingEq sending
  | sendFirst env =>
      have idle := Gateway.sendFirst_guard actEq
      rcases Gateway.sendFirst_cases actEq with ⟨request, sendingEq, ⟨_, rfl⟩ | ⟨_, rfl⟩⟩
      · apply of_silent
        · rw [idle]
          rfl
        · intro sending
          exact absurd rfl sending
      · apply of_silent
        · rw [idle]
          rfl
        · intro _
          apply oneCall.inLoop
          right
          simp [sendingEq]
  | takeFlowControl =>
      rcases Gateway.takeFlowControl_cases actEq with
        ⟨env, request, progress, entry, queue, sendingEq, _, _, rfl⟩
      apply continueSending
      · exact oneCall.congr rfl rfl rfl
      · exact sendingEq
  | flowControlTimeout =>
      rcases Gateway.flowControlTimeout_cases actEq with
        ⟨env, request, progress, sendingEq, _, _, rfl⟩
      exact oneCall.continueSending sendingEq none
  | canRead read clientWriteOk =>
      rcases Gateway.canRead_cases actEq with ⟨_, _, rfl⟩
      exact oneCall.congr (Gateway.submit_forwarder_todo_main _ _) rfl rfl
  | exec thread count => exact oneCall.exec actEq
  | mainExit =>
      rcases Gateway.mainExit_cases actEq with ⟨sendingEq, _, rfl⟩
      apply of_silent
      · rw [Gateway.submit_todo_self]
        rfl
      · intro sending
        exact absurd sendingEq sending
  | forwarderExit =>
      rcases Gateway.forwarderExit_cases actEq with ⟨_, rfl⟩
      exact oneCall.congr rfl rfl rfl
  | nextSession =>
      rw [Gateway.nextSession_cases actEq]
      apply of_silent
      · rfl
      · intro sending
        exact absurd rfl sending

end OneCall

end Synapse
