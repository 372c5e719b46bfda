import Synapse.Library.TransitionSystem
import Synapse.Gateway.Forwarder
import Synapse.Gateway.Session

/-!
# The gateway

The two threads of a session share the tester socket, the session flag and the
flow-control queue. A thread which has got what it waited for knows its actions
up to its next wait, and performs them one at a time between those of the other
thread. The waits of the session thread are its reads and, inside `isotp_send`, the
waits for flow control.

The queue is a global variable: it is there before the first session and is left
as it is when a session ends. Entries, and the flow-control frames which
a sending call gets, carry the times at which the frame was read and at
which the First Frame of the message was written; these times are history
and no step looks at them.
-/

namespace Synapse

inductive GatewayThread where
  | main
  | forwarder
deriving DecidableEq

/-- Where the main thread stands inside `isotpSend`. -/
inductive SendingPc where
  | idle
  | started (request : List UInt8)
  | waiting (env : SendEnv) (request : List UInt8) (progress : Progress)

/-- An entry of `fc_frame_queue`. -/
structure QueueEntry where
  bytes : List UInt8
  readAt : ℕ
deriving DecidableEq

/-- A flow-control frame which `waitForFlowControl` has returned to a sending call. -/
structure FlowControlUse where
  firstFrameAt : ℕ
  readAt : ℕ
deriving DecidableEq

structure Gateway where
  tester : LockedStream.State GatewayThread UInt8 Effect
  /-- Where the session loop goes on, behind a sending call if there is one. -/
  main : SessionPc
  sending : SendingPc
  forwarder : ForwarderPc
  sessionActive : Bool
  fcFrameQueue : List QueueEntry
  clock : ℕ
  lastReadAt : ℕ
  firstFrameAt : ℕ
  flowControlUses : List FlowControlUse
  mainInputs : List SessionInput
  forwarderInputs : List ForwarderInput

namespace Gateway

def start : Gateway where
  tester := LockedStream.start
  main := .header
  sending := .idle
  forwarder := .dispatch
  sessionActive := true
  fcFrameQueue := []
  clock := 0
  lastReadAt := 0
  firstFrameAt := 0
  flowControlUses := []
  mainInputs := []
  forwarderInputs := []

/-- The gateway at the start of its next session: the queue is left as it is. -/
def restart (gateway : Gateway) : Gateway :=
  { gateway with
    tester := LockedStream.start
    main := .header
    sending := .idle
    forwarder := .dispatch
    sessionActive := true
    mainInputs := []
    forwarderInputs := [] }

def submit (gateway : Gateway) (thread : GatewayThread) (actions : List GatewayAction) : Gateway :=
  { gateway with tester := gateway.tester.submit thread actions }

/-- What an effect of a thread does to the shared variables. -/
def perform (gateway : Gateway) : GatewayThread → Effect → Gateway
  | .forwarder, .pushFlowControl bytes =>
      { gateway with fcFrameQueue := gateway.fcFrameQueue ++ [⟨bytes, gateway.lastReadAt⟩] }
  | .main, .isotpSend request => { gateway with sending := .started request }
  | _, .endSession => { gateway with sessionActive := false }
  | _, _ => gateway

def nextEffect? (gateway : Gateway) (thread : GatewayThread) : Option Effect :=
  match gateway.tester.todo thread with
  | .other effect :: _ => some effect
  | _ => none

/-- Let a thread perform its next action, or a part of its next write. -/
def exec (gateway : Gateway) (thread : GatewayThread) (count : ℕ) : Option Gateway :=
  match gateway.tester.exec thread count with
  | none => none
  | some tester =>
      match gateway.nextEffect? thread with
      | none => some { gateway with tester := tester }
      | some effect => some ({ gateway with tester := tester }.perform thread effect)

def mainInput (gateway : Gateway) (bytes : List UInt8) : SessionInput :=
  ⟨bytes, gateway.sessionActive⟩

def forwarderInput (gateway : Gateway) (read : CanRead) (clientWriteOk : Bool) : ForwarderInput :=
  ⟨read, gateway.sessionActive, clientWriteOk⟩

def testerRead (gateway : Gateway) (bytes : List UInt8) : Option Gateway :=
  match gateway.sending with
  | .idle =>
      if gateway.tester.todo .main = [] ∧ bytes.length ≤ gateway.main.requested ∧
          0 < gateway.main.requested then
        let (next, actions) := sessionStep gateway.main (gateway.mainInput bytes)
        some ({ gateway with
          main := next
          mainInputs := gateway.mainInputs ++ [gateway.mainInput bytes] }.submit .main actions)
      else none
  | _ => none

/-- The first write of `isotpSend`: the Single Frame, behind which the call returns, or the First
Frame. -/
def sendFirst (gateway : Gateway) (env : SendEnv) : Option Gateway :=
  match gateway.sending with
  | .started request =>
      if gateway.tester.todo .main = [] then
        if request.length ≤ 7 then some { gateway with sending := .idle }
        else
          some { gateway with
            sending := .waiting env request progressAfterFirstFrame
            firstFrameAt := gateway.clock }
      else none
  | _ => none

/-- Go on with a sending call after a wait which has ended with `queued`. -/
def continueSending (gateway : Gateway) (env : SendEnv) (request : List UInt8)
    (progress : Progress) (queued : Option (List UInt8)) : Gateway :=
  let block := isotpSendConsecutiveFrames env udsRequestCanId request progress queued
  let next := if block.ok ∧ block.progress.bytesSent < request.length then
    SendingPc.waiting env request block.progress else .idle
  { gateway with sending := next }.submit .main
    (block.events.map fun event => .other (.isotp event))

/-- `waitForFlowControl` takes the front of the queue. -/
def takeFlowControl (gateway : Gateway) : Option Gateway :=
  match gateway.sending, gateway.fcFrameQueue with
  | .waiting env request progress, entry :: queue =>
      if gateway.tester.todo .main = [] then
        -- A malformed entry leaves the queue as well, but is not handed to the sending call.
        let used := if (waitForFlowControl (some entry.bytes)).isSome then
          [FlowControlUse.mk gateway.firstFrameAt entry.readAt] else []
        some ({ gateway with
          fcFrameQueue := queue
          flowControlUses := gateway.flowControlUses ++ used }.continueSending env request progress
            (some entry.bytes))
      else none
  | _, _ => none

/-- `waitForFlowControl` gives up, which it does on an empty queue only. -/
def flowControlTimeout (gateway : Gateway) : Option Gateway :=
  match gateway.sending, gateway.fcFrameQueue with
  | .waiting env request progress, [] =>
      if gateway.tester.todo .main = [] then
        some (gateway.continueSending env request progress none)
      else none
  | _, _ => none

def canRead (gateway : Gateway) (read : CanRead) (clientWriteOk : Bool) : Option Gateway :=
  if gateway.tester.todo .forwarder = [] ∧ gateway.forwarder.isReading then
    let input := gateway.forwarderInput read clientWriteOk
    let (next, actions) := forwarderStep gateway.forwarder input
    some ({ gateway with
      forwarder := next
      lastReadAt := gateway.clock
      forwarderInputs := gateway.forwarderInputs ++ [input] }.submit .forwarder actions)
  else none

/-- The main thread finds the session ended at the head of its loop. -/
def mainExit (gateway : Gateway) : Option Gateway :=
  match gateway.main, gateway.sending with
  | .header, .idle =>
      if gateway.tester.todo .main = [] ∧ gateway.sessionActive = false then
        some ({ gateway with main := leaveSession.1 }.submit .main leaveSession.2)
      else none
  | _, _ => none

/-- The forwarder finds the session ended at the head of its loop. -/
def forwarderExit (gateway : Gateway) : Option Gateway :=
  match gateway.forwarder with
  | .dispatch =>
      if gateway.tester.todo .forwarder = [] ∧ gateway.sessionActive = false then
        some { gateway with forwarder := .stopped }
      else none
  | _ => none

/-- Both threads have ended and the next tester connects. -/
def nextSession (gateway : Gateway) : Option Gateway :=
  match gateway.main, gateway.forwarder with
  | .closed, .stopped =>
      if gateway.tester.todo .main = [] ∧ gateway.tester.todo .forwarder = [] then
        some gateway.restart
      else none
  | _, _ => none

/-! ## What the steps can do -/

variable {gateway next : Gateway}

theorem exec_cases {thread : GatewayThread} {count : ℕ}
    (stepEq : gateway.exec thread count = some next) :
    ∃ tester, gateway.tester.exec thread count = some tester ∧
      ((gateway.nextEffect? thread = none ∧ next = { gateway with tester := tester }) ∨
        ∃ effect, gateway.nextEffect? thread = some effect ∧
          next = { gateway with tester := tester }.perform thread effect) := by
  simp only [exec] at stepEq
  split at stepEq
  next => simp at stepEq
  next tester testerEq =>
    refine ⟨tester, testerEq, ?_⟩
    split at stepEq
    next effectEq => exact Or.inl ⟨effectEq, (Option.some.inj stepEq).symm⟩
    next effect effectEq => exact Or.inr ⟨effect, effectEq, (Option.some.inj stepEq).symm⟩

theorem testerRead_cases {bytes : List UInt8} (stepEq : gateway.testerRead bytes = some next) :
    gateway.sending = .idle ∧ gateway.tester.todo .main = [] ∧ 0 < gateway.main.requested ∧
      next = { gateway with
        main := (sessionStep gateway.main (gateway.mainInput bytes)).1
        mainInputs := gateway.mainInputs ++ [gateway.mainInput bytes] }.submit .main
          (sessionStep gateway.main (gateway.mainInput bytes)).2 := by
  simp only [testerRead] at stepEq
  split at stepEq
  next sendingEq =>
    split at stepEq
    next guard => exact ⟨sendingEq, guard.1, guard.2.2, (Option.some.inj stepEq).symm⟩
    next => simp at stepEq
  next => simp at stepEq

theorem sendFirst_cases {env : SendEnv} (stepEq : gateway.sendFirst env = some next) :
    ∃ request, gateway.sending = .started request ∧
      ((request.length ≤ 7 ∧ next = { gateway with sending := .idle }) ∨
        (7 < request.length ∧
          next = { gateway with
            sending := .waiting env request progressAfterFirstFrame
            firstFrameAt := gateway.clock })) := by
  simp only [sendFirst] at stepEq
  split at stepEq
  next request sendingEq =>
    refine ⟨request, sendingEq, ?_⟩
    split at stepEq
    next =>
      split at stepEq
      next short => exact Or.inl ⟨short, (Option.some.inj stepEq).symm⟩
      next long => exact Or.inr ⟨by omega, (Option.some.inj stepEq).symm⟩
    next => simp at stepEq
  next => simp at stepEq

theorem takeFlowControl_cases (stepEq : gateway.takeFlowControl = some next) :
    ∃ env request progress entry queue, gateway.sending = .waiting env request progress ∧
      gateway.fcFrameQueue = entry :: queue ∧ gateway.tester.todo .main = [] ∧
      next = { gateway with
        fcFrameQueue := queue
        flowControlUses := gateway.flowControlUses ++
          if (waitForFlowControl (some entry.bytes)).isSome then
            [FlowControlUse.mk gateway.firstFrameAt entry.readAt] else []
        }.continueSending env request progress (some entry.bytes) := by
  simp only [takeFlowControl] at stepEq
  split at stepEq
  next env request progress entry queue sendingEq queueEq =>
    split at stepEq
    next idle =>
      exact ⟨env, request, progress, entry, queue, sendingEq, queueEq, idle,
        (Option.some.inj stepEq).symm⟩
    next => simp at stepEq
  next => simp at stepEq

theorem flowControlTimeout_cases (stepEq : gateway.flowControlTimeout = some next) :
    ∃ env request progress, gateway.sending = .waiting env request progress ∧
      gateway.fcFrameQueue = [] ∧ gateway.tester.todo .main = [] ∧
      next = gateway.continueSending env request progress none := by
  simp only [flowControlTimeout] at stepEq
  split at stepEq
  next env request progress sendingEq queueEq =>
    split at stepEq
    next idle =>
      exact ⟨env, request, progress, sendingEq, queueEq, idle, (Option.some.inj stepEq).symm⟩
    next => simp at stepEq
  next => simp at stepEq

theorem canRead_cases {read : CanRead} {clientWriteOk : Bool}
    (stepEq : gateway.canRead read clientWriteOk = some next) :
    gateway.tester.todo .forwarder = [] ∧ gateway.forwarder.isReading ∧
      next = { gateway with
        forwarder :=
          (forwarderStep gateway.forwarder (gateway.forwarderInput read clientWriteOk)).1
        lastReadAt := gateway.clock
        forwarderInputs := gateway.forwarderInputs ++
          [gateway.forwarderInput read clientWriteOk] }.submit .forwarder
            (forwarderStep gateway.forwarder (gateway.forwarderInput read clientWriteOk)).2 := by
  simp only [canRead] at stepEq
  split at stepEq
  next guard => exact ⟨guard.1, guard.2, (Option.some.inj stepEq).symm⟩
  next => simp at stepEq

theorem mainExit_cases (stepEq : gateway.mainExit = some next) :
    gateway.sending = .idle ∧ gateway.tester.todo .main = [] ∧
      next = { gateway with main := leaveSession.1 }.submit .main leaveSession.2 := by
  simp only [mainExit] at stepEq
  split at stepEq
  next _ sendingEq =>
    split at stepEq
    next guard => exact ⟨sendingEq, guard.1, (Option.some.inj stepEq).symm⟩
    next => simp at stepEq
  next => simp at stepEq

theorem forwarderExit_cases (stepEq : gateway.forwarderExit = some next) :
    gateway.forwarder = .dispatch ∧ next = { gateway with forwarder := .stopped } := by
  simp only [forwarderExit] at stepEq
  split at stepEq
  next forwarderEq =>
    split at stepEq
    next => exact ⟨forwarderEq, (Option.some.inj stepEq).symm⟩
    next => simp at stepEq
  next => simp at stepEq

theorem nextSession_cases (stepEq : gateway.nextSession = some next) :
    next = gateway.restart := by
  simp only [nextSession] at stepEq
  split at stepEq
  next =>
    split at stepEq
    next => exact (Option.some.inj stepEq).symm
    next => simp at stepEq
  next => simp at stepEq

end Gateway

inductive GatewayLabel where
  | testerRead (bytes : List UInt8)
  | sendFirst (env : SendEnv)
  | takeFlowControl
  | flowControlTimeout
  | canRead (read : CanRead) (clientWriteOk : Bool)
  | exec (thread : GatewayThread) (count : ℕ)
  | mainExit
  | forwarderExit
  | nextSession

/-- One step of the gateway, before the clock is advanced. -/
def Gateway.act (gateway : Gateway) : GatewayLabel → Option Gateway
  | .testerRead bytes => gateway.testerRead bytes
  | .sendFirst env => gateway.sendFirst env
  | .takeFlowControl => gateway.takeFlowControl
  | .flowControlTimeout => gateway.flowControlTimeout
  | .canRead read clientWriteOk => gateway.canRead read clientWriteOk
  | .exec thread count => gateway.exec thread count
  | .mainExit => gateway.mainExit
  | .forwarderExit => gateway.forwarderExit
  | .nextSession => gateway.nextSession

def gatewaySystem : TransitionSystem Gateway GatewayLabel where
  initial := .start
  step := fun gateway label =>
    (gateway.act label).map fun next => { next with clock := gateway.clock + 1 }

theorem gateway_step_cases {gateway next : Gateway} {label : GatewayLabel}
    (stepEq : gatewaySystem.step gateway label = some next) :
    ∃ acted, gateway.act label = some acted ∧
      { acted with clock := gateway.clock + 1 } = next :=
  Option.map_eq_some_iff.mp stepEq

end Synapse
