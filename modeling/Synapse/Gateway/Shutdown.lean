import Synapse.Library.Inevitable
import Synapse.IsoTp.SendLoop
import Synapse.IsoTp.ReassemblyTermination
import Synapse.Gateway.Steps
import Synapse.Gateway.TesterStream

/-!
# A session comes to its end

`session_active` is looked at between two passes of the loops only. When it has been
cleared, the main thread may still be inside a payload or inside a sending call, the
forwarder inside a reassembly, and either of them may wait for the mutex. This file shows
that both threads end all the same, in whatever order they go on and whatever they read:
every step takes something off the work which is left, and before the end there is always a
step to take.

Two conditions make the steps prompt. A write takes at least one byte, and no frame
carries its control byte only, since such a frame can keep a reassembly going for good.
A read on the CAN socket ends with its timeout. A read on the tester socket has none: it
ends when the tester sends something or closes, and that it does is what a step `testerRead`
stands for.
-/

namespace Synapse

open LockedStream

/-- Writes move on, and no frame carries its control byte only. -/
def Prompt (_ : Gateway) : GatewayLabel → Prop
  | .canRead (.frame rxFrame) _ => rxFrame.canDlc ≠ 1
  | .exec _ count => 0 < count
  | _ => True

/-- Both threads have ended, so that the next tester can connect. -/
structure SessionOver (gateway : Gateway) : Prop where
  main : gateway.main = .closed
  forwarder : gateway.forwarder = .stopped
  mainDone : gateway.tester.todo .main = []
  forwarderDone : gateway.tester.todo .forwarder = []

/-- A thread has done what the source gives no meaning. -/
def Gateway.Undefined (gateway : Gateway) : Prop :=
  gateway.main = .invalidRange ∨ gateway.forwarder = .outOfBounds

/-! ## The work which is left -/

/-- The steps which an action needs, and those which it makes necessary. -/
def actionCost : GatewayAction → ℕ
  | .write bytes => bytes.length + 1
  | .other (.isotpSend request) => 2 * request.length + 4
  | .other (.pushFlowControl _) => 3
  | _ => 1

def todoCost (actions : List GatewayAction) : ℕ :=
  (actions.map actionCost).sum

@[simp]
theorem todoCost_nil : todoCost [] = 0 := rfl

@[simp]
theorem todoCost_cons (action : GatewayAction) (actions : List GatewayAction) :
    todoCost (action :: actions) = actionCost action + todoCost actions := by
  simp [todoCost]

theorem actionCost_pos (action : GatewayAction) : 0 < actionCost action := by
  cases action with
  | other effect => cases effect <;> simp [actionCost]
  | _ => simp [actionCost]

def sendingCost : SendingPc → ℕ
  | .idle => 0
  | .started request => 2 * request.length + 3
  | .waiting _ request progress => 2 * (request.length - progress.bytesSent) + 2

def mainCost : SessionPc → ℕ
  | .header => 2 ^ 32 + 2
  | .payload pending =>
      doipFraming.payloadLength pending.header - pending.received.length + 2
  | .closed => 0
  | .invalidRange => 0

def forwarderCost : ForwarderPc → ℕ
  | .dispatch => 4100
  | .reassembling frame => frame.totalSize.toNat - frame.udsRxBuffer.length + 2
  | .stopped => 0
  | .outOfBounds => 0

/-- The steps which the two threads have still to take, at most. -/
def Gateway.workLeft (gateway : Gateway) : ℕ :=
  todoCost (gateway.tester.todo .main) + todoCost (gateway.tester.todo .forwarder) +
    2 * gateway.fcFrameQueue.length + sendingCost gateway.sending + mainCost gateway.main +
    forwarderCost gateway.forwarder

/-! ## The main thread -/

theorem payloadLength_lt {header : List UInt8} (whole : header.length = DoIPHeader.size) :
    doipFraming.payloadLength header < 2 ^ 32 := by
  have atMost : ∀ bytes : List UInt8, Bytes.ofBigEndian bytes < 256 ^ bytes.length := by
    intro bytes
    induction bytes using List.reverseRecOn with
    | nil => decide
    | append_singleton bytes byte ih =>
        have byteLt := byte.toNat_lt
        rw [Bytes.ofBigEndian_concat, List.length_append, List.length_singleton, Nat.pow_succ]
        omega
  have field := atMost ((header.drop 4).take 4)
  have four : ((header.drop 4).take 4).length = 4 := by
    rw [List.length_take, List.length_drop, whole]
    rfl
  rw [four] at field
  exact field

/-- With the session over, a pass of the payload loop waits for less, or the thread leaves. -/
theorem continuePayload_cost {header : List UInt8} (whole : header.length = DoIPHeader.size)
    (received : List UInt8) :
    let pass := continuePayload false header whole received
    mainCost pass.1 + todoCost pass.2 ≤
      (doipFraming.payloadLength header - received.length) + 2 := by
  rw [continuePayload]
  split
  next => simp [mainCost]
  next =>
    split
    next => simp [leaveSession, mainCost, actionCost]
    next => simp [leaveSession, mainCost, actionCost]

theorem sessionStep_cost {pc : SessionPc} (reading : 0 < pc.requested) (bytes : List UInt8) :
    mainCost (sessionStep pc ⟨bytes, false⟩).1 + todoCost (sessionStep pc ⟨bytes, false⟩).2 <
      mainCost pc := by
  cases pc with
  | header =>
      simp only [sessionStep]
      split
      · simp [leaveSession, mainCost, actionCost]
      · split
        next whole =>
          have passes := continuePayload_cost whole []
          have atMost := payloadLength_lt whole
          simp only [mainCost] at passes ⊢
          omega
        next => simp [sessionLoopHead, leaveSession, mainCost, actionCost]
  | payload pending =>
      have missing := pending.missing
      simp only [sessionStep]
      split
      · simp [leaveSession, mainCost, actionCost]
      next nonempty =>
        have more := List.length_pos_iff.mpr nonempty
        have passes := continuePayload_cost pending.header_length (pending.received ++ bytes)
        rw [List.length_append] at passes
        simp only [mainCost] at passes ⊢
        omega
  | closed => simp [SessionPc.requested] at reading
  | invalidRange => simp [SessionPc.requested] at reading

/-- The events of a block are paid for by the bytes which it sends. -/
theorem sendBlock_cost (env : SendEnv) (canId : UInt32) (data : List UInt8)
    (stminUs frames : ℕ) (progress : Progress) :
    (sendBlock env canId data stminUs frames progress).events.length +
        2 * (data.length -
          (sendBlock env canId data stminUs frames progress).progress.bytesSent) ≤
      2 * (data.length - progress.bytesSent) +
        if (sendBlock env canId data stminUs frames progress).ok then 0 else 1 := by
  induction frames generalizing progress with
  | zero => simp [sendBlock]
  | succ frames ih =>
      simp only [sendBlock]
      by_cases unfinished : progress.bytesSent < data.length
      · by_cases accepted : env.accepts progress.bytesSent = true
        · simp only [unfinished, accepted, if_true]
          have later := ih (progress.advance data)
          have advanced : (progress.advance data).bytesSent =
              progress.bytesSent + min 7 (data.length - progress.bytesSent) := rfl
          simp only [List.length_cons, List.length_append]
          have pause : (if (progress.advance data).bytesSent < data.length then
              [SendEvent.sleep stminUs] else []).length ≤ 1 := by
            split <;> simp
          omega
        · simp [unfinished, accepted]
          omega
      · simp [unfinished]

theorem todoCost_events (events : List SendEvent) :
    todoCost (events.map fun event => .other (.isotp event)) = events.length := by
  induction events with
  | nil => rfl
  | cons event events ih =>
      rw [List.map_cons, todoCost_cons, ih, List.length_cons]
      simp [actionCost, Nat.add_comm]

/-- Going on behind a wait takes less than the wait and the frame which has ended it. -/
theorem continueSending_cost (gateway : Gateway) (env : SendEnv) (request : List UInt8)
    (progress : Progress) (queued : Option (List UInt8)) :
    todoCost ((gateway.continueSending env request progress queued).tester.todo .main) +
        sendingCost (gateway.continueSending env request progress queued).sending ≤
      2 * (request.length - progress.bytesSent) + 3 := by
  simp only [Gateway.continueSending, Gateway.submit_todo_self, todoCost_events]
  change _ + sendingCost (if _ then _ else _) ≤ _
  rcases isotpSendConsecutiveFrames_cases env udsRequestCanId request progress queued with
    ⟨_, blockEq⟩ | ⟨_, blockEq⟩ | ⟨blockSize, stminUs, _, blockEq⟩
  · simp [blockEq, sendingCost]
  · rw [blockEq]
    split <;> simp [sendingCost]
    omega
  · rw [blockEq]
    have paid := sendBlock_cost env udsRequestCanId request stminUs
      (framesToSendInBlock blockSize) progress
    split
    next goesOn =>
      rw [if_pos goesOn.1] at paid
      simp only [sendingCost]
      omega
    next =>
      simp only [sendingCost]
      split at paid <;> omega

/-- A wait which nothing has ended is the end of the call. -/
theorem continueSending_timeout (gateway : Gateway) (env : SendEnv) (request : List UInt8)
    (progress : Progress) :
    (gateway.continueSending env request progress none).tester.todo .main = [] ∧
      (gateway.continueSending env request progress none).sending = .idle := by
  have gaveUp : isotpSendConsecutiveFrames env udsRequestCanId request progress none =
      ⟨⟨false, []⟩, progress⟩ := rfl
  simp [Gateway.continueSending, gaveUp, Gateway.submit, State.submit]

/-! ## The forwarder -/

/-- A frame with data, or with no byte at all, makes the reassembly loop copy something. -/
theorem MultiFrame.bytesToCopy_pos {frame : MultiFrame} {cfFrame : ReceivedFrame}
    (unfinished : frame.udsRxBuffer.length < frame.totalSize.toNat)
    (carries : cfFrame.canDlc ≠ 1) : 0 < frame.bytesToCopy cfFrame.toCanFrame := by
  have sizeLt := frame.totalSize.toNat_lt
  have dlcLe := cfFrame.canDlc_le
  have notOne : cfFrame.canDlc.toNat ≠ 1 := by
    intro one
    apply carries
    rwa [← UInt8.toNat_inj]
  rw [bytesToCopy, UInt16.toNat_ofNat', UInt16.toNat_sub]
  simp only [UInt8.toNat_toUInt16, UInt16.reduceToNat]
  omega

theorem forwardResponse_over (read : CanRead) (clientWriteOk : Bool) (response : List UInt8) :
    forwardResponse ⟨read, false, clientWriteOk⟩ response = (.stopped, []) := by
  rw [forwardResponse, if_pos rfl]

/-- What a reassembly has still to wait for when the session is over. -/
theorem continueReassembly_cost (read : CanRead) (clientWriteOk : Bool) (state : Reassembly) :
    forwarderCost (continueReassembly ⟨read, false, clientWriteOk⟩ state).1 +
        todoCost (continueReassembly ⟨read, false, clientWriteOk⟩ state).2 =
      match state with
      | .reading frame => forwarderCost (.reassembling frame)
      | _ => 0 := by
  cases state with
  | reading frame => rfl
  | returned response =>
      rw [continueReassembly, forwardResponse_over]
      rfl
  | outOfBounds => rfl

/-- A read inside a reassembly takes something off what is missing, or ends the loop. -/
theorem onRead_cost {frame : MultiFrame} {read : CanRead}
    (unfinished : frame.udsRxBuffer.length < frame.totalSize.toNat)
    (carries : ∀ rxFrame, read = .frame rxFrame → rxFrame.canDlc ≠ 1) {next : MultiFrame}
    (readEq : frame.onRead read = .reading next) :
    forwarderCost (.reassembling next) < forwarderCost (.reassembling frame) := by
  cases read with
  | failed => simp [MultiFrame.onRead] at readEq
  | frame cfFrame =>
      have copied := MultiFrame.bytesToCopy_pos unfinished (carries cfFrame rfl)
      rw [MultiFrame.onRead] at readEq
      split at readEq
      · simp at readEq
      · split at readEq
        · simp at readEq
        next bytes rangeEq =>
          have lengths := length_of_range rangeEq
          have nextEq := MultiFrame.eq_of_loopTest_reading readEq
          have sizeEq : next.totalSize = frame.totalSize := by rw [← nextEq]
          have bufferEq : next.udsRxBuffer.length = frame.udsRxBuffer.length + bytes.length := by
            rw [← nextEq, List.length_append]
          simp only [forwarderCost, sizeEq, bufferEq]
          omega

theorem dispatchFrame_cost (rxFrame : ReceivedFrame) (read : CanRead) (clientWriteOk : Bool) :
    forwarderCost (dispatchFrame ⟨read, false, clientWriteOk⟩ rxFrame).1 +
        todoCost (dispatchFrame ⟨read, false, clientWriteOk⟩ rxFrame).2 <
      forwarderCost .dispatch := by
  rcases dispatchFrame_cases ⟨read, false, clientWriteOk⟩ rxFrame with stepEq | ⟨_, stepEq⟩ |
    ⟨response, _, stepEq⟩ | stepEq | stepEq
  · rw [stepEq]
    decide
  · rw [stepEq]
    simp [forwarderLoopHead, forwarderCost, actionCost]
  · rw [stepEq, forwardResponse_over]
    decide
  · have waits := continueReassembly_cost read clientWriteOk
      (MultiFrame.start rxFrame.toCanFrame)
    have bounded := MultiFrame.start_bounded rxFrame.toCanFrame
    rw [stepEq, todoCost_cons]
    cases startEq : MultiFrame.start rxFrame.toCanFrame with
    | reading frame =>
        rw [startEq] at waits bounded
        have sizeLe := bounded.1
        simp only [forwarderCost, actionCost] at waits ⊢
        omega
    | returned response =>
        rw [startEq] at waits
        simp only [forwarderCost, actionCost] at waits ⊢
        omega
    | outOfBounds =>
        rw [startEq] at waits
        simp only [forwarderCost, actionCost] at waits ⊢
        omega
  · rw [stepEq]
    simp [forwarderLoopHead, forwarderCost]

theorem forwarderStep_cost {pc : ForwarderPc} (reading : pc.isReading) (bounded : pc.Bounded)
    {read : CanRead} (carries : ∀ rxFrame, read = .frame rxFrame → rxFrame.canDlc ≠ 1)
    (clientWriteOk : Bool) :
    forwarderCost (forwarderStep pc ⟨read, false, clientWriteOk⟩).1 +
        todoCost (forwarderStep pc ⟨read, false, clientWriteOk⟩).2 < forwarderCost pc := by
  cases pc with
  | dispatch =>
      cases read with
      | failed => simp [forwarderStep, forwarderLoopHead, forwarderCost]
      | frame rxFrame => exact dispatchFrame_cost rxFrame _ clientWriteOk
  | reassembling frame =>
      have waits := continueReassembly_cost read clientWriteOk (frame.onRead read)
      change forwarderCost (continueReassembly _ (frame.onRead read)).1 +
        todoCost (continueReassembly _ (frame.onRead read)).2 < _
      rw [waits]
      split
      next next_ readEq => exact onRead_cost bounded.2 carries readEq
      next => simp [forwarderCost]
  | stopped => simp [ForwarderPc.isReading] at reading
  | outOfBounds => simp [ForwarderPc.isReading] at reading

/-! ## The steps -/

namespace Gateway

variable {gateway next : Gateway}

theorem workLeft_submit_main (gateway : Gateway) (actions : List GatewayAction) :
    (gateway.submit .main actions).workLeft =
      todoCost actions + todoCost (gateway.tester.todo .forwarder) +
        2 * gateway.fcFrameQueue.length + sendingCost gateway.sending + mainCost gateway.main +
        forwarderCost gateway.forwarder := by
  rw [workLeft, submit_todo_self, submit_main_todo_forwarder]
  rfl

theorem workLeft_submit_forwarder (gateway : Gateway) (actions : List GatewayAction) :
    (gateway.submit .forwarder actions).workLeft =
      todoCost (gateway.tester.todo .main) + todoCost actions +
        2 * gateway.fcFrameQueue.length + sendingCost gateway.sending + mainCost gateway.main +
        forwarderCost gateway.forwarder := by
  rw [workLeft, submit_todo_self, submit_forwarder_todo_main]
  rfl

/-- What a thread does to the tester socket and its mutex takes something off what it has to do. -/
theorem todoCost_exec {tester after : State GatewayThread UInt8 Effect} {thread : GatewayThread}
    {count : ℕ} (moves : 0 < count) (execEq : tester.exec thread count = some after) :
    todoCost (after.todo thread) < todoCost (tester.todo thread) := by
  rcases State.exec_cases execEq with ⟨rest, todoEq, _, rfl⟩ | ⟨rest, todoEq, _, rfl⟩ |
    ⟨bytes, rest, todoEq, partly, rfl⟩ | ⟨bytes, rest, todoEq, rfl⟩ | ⟨event, rest, todoEq, rfl⟩
  · simp [todoEq, actionCost]
  · simp [todoEq, actionCost]
  · simp only [Function.update_self, todoEq, todoCost_cons, actionCost, List.length_drop]
    omega
  · simp [todoEq, actionCost]
  · have positive := actionCost_pos (.other event)
    simp only [Function.update_self, todoEq, todoCost_cons]
    omega

/-- An effect costs no more than what it makes necessary. -/
theorem workLeft_perform (gateway : Gateway) (thread : GatewayThread) (effect : Effect) :
    (gateway.perform thread effect).workLeft < gateway.workLeft + actionCost (.other effect) ∧
      (gateway.sessionActive = false →
        (gateway.perform thread effect).sessionActive = false) := by
  cases thread <;> cases effect
  all_goals
    refine ⟨?_, fun inactive => by first | exact inactive | rfl⟩
    simp only [perform, workLeft, actionCost, sendingCost, List.length_append,
      List.length_singleton]
    omega

theorem workLeft_exec {thread : GatewayThread} {count : ℕ} (moves : 0 < count)
    (inactive : gateway.sessionActive = false) (execEq : gateway.exec thread count = some next) :
    next.sessionActive = false ∧ next.workLeft < gateway.workLeft := by
  rcases exec_action_cases execEq with ⟨effect, rest, todoEq, rfl⟩ |
    ⟨action, rest, tester, _, _, testerEq, rfl, _⟩
  · rcases workLeft_perform (gateway.advance thread rest) thread effect with ⟨paid, stays⟩
    refine ⟨stays inactive, ?_⟩
    have advanced : (gateway.advance thread rest).workLeft + actionCost (.other effect) =
        gateway.workLeft := by
      cases thread with
      | main =>
          simp only [workLeft, advance, Function.update_self, todoEq, todoCost_cons,
            Function.update_of_ne (by decide : GatewayThread.forwarder ≠ .main)]
          omega
      | forwarder =>
          simp only [workLeft, advance, Function.update_self, todoEq, todoCost_cons,
            Function.update_of_ne (by decide : GatewayThread.main ≠ .forwarder)]
          omega
    omega
  · refine ⟨inactive, ?_⟩
    have lower := todoCost_exec moves testerEq
    cases thread with
    | main =>
        have other := exec_todo_of_ne execEq (by decide : GatewayThread.forwarder ≠ .main)
        change tester.todo .forwarder = _ at other
        simp only [workLeft, other]
        omega
    | forwarder =>
        have other := exec_todo_of_ne execEq (by decide : GatewayThread.main ≠ .forwarder)
        change tester.todo .main = _ at other
        simp only [workLeft, other]
        omega

/-- With the session over, every step but the start of the next session takes something off the
work which is left. -/
theorem workLeft_act {label : GatewayLabel} (bounded : gateway.forwarder.Bounded)
    (inactive : gateway.sessionActive = false) (notOver : ¬SessionOver gateway)
    (prompt : Prompt gateway label) (actEq : gateway.act label = some next) :
    next.sessionActive = false ∧ next.workLeft < gateway.workLeft := by
  cases label with
  | testerRead bytes =>
      rcases testerRead_cases actEq with ⟨sendingEq, idle, reading, rfl⟩
      have paid := sessionStep_cost reading bytes
      refine ⟨inactive, ?_⟩
      rw [mainInput, inactive, workLeft_submit_main, workLeft, idle, sendingEq]
      simp only [todoCost_nil] at paid ⊢
      omega
  | sendFirst env =>
      have idle := sendFirst_guard actEq
      rcases sendFirst_cases actEq with ⟨request, sendingEq, ⟨short, rfl⟩ | ⟨long, rfl⟩⟩
      · refine ⟨inactive, ?_⟩
        simp only [workLeft, sendingEq, sendingCost]
        omega
      · refine ⟨inactive, ?_⟩
        simp only [workLeft, sendingEq, sendingCost, progressAfterFirstFrame]
        omega
  | takeFlowControl =>
      rcases takeFlowControl_cases actEq with
        ⟨env, request, progress, entry, queue, sendingEq, queueEq, idle, rfl⟩
      refine ⟨inactive, ?_⟩
      have paid := continueSending_cost { gateway with
        fcFrameQueue := queue
        flowControlUses := gateway.flowControlUses ++
          if (waitForFlowControl (some entry.bytes)).isSome then
            [FlowControlUse.mk gateway.firstFrameAt entry.readAt] else [] } env request progress
        (some entry.bytes)
      have waitCost : sendingCost (.waiting env request progress) =
          2 * (request.length - progress.bytesSent) + 2 := rfl
      rw [continueSending, workLeft_submit_main, workLeft, idle, sendingEq, queueEq, waitCost]
      rw [continueSending, submit_todo_self] at paid
      simp only [submit] at paid
      simp only [todoCost_nil, List.length_cons]
      omega
  | flowControlTimeout =>
      rcases flowControlTimeout_cases actEq with
        ⟨env, request, progress, sendingEq, queueEq, idle, rfl⟩
      refine ⟨inactive, ?_⟩
      rcases continueSending_timeout gateway env request progress with ⟨nothing, ended⟩
      have forwarderEq : (gateway.continueSending env request progress none).tester.todo
          .forwarder = gateway.tester.todo .forwarder := submit_main_todo_forwarder _ _
      rw [workLeft, workLeft, nothing, ended, forwarderEq, idle, sendingEq]
      simp only [todoCost_nil, sendingCost, continueSending, submit]
      omega
  | canRead read clientWriteOk =>
      rcases canRead_cases actEq with ⟨idle, reading, rfl⟩
      have carries : ∀ rxFrame, read = .frame rxFrame → rxFrame.canDlc ≠ 1 := by
        rintro rxFrame rfl
        exact prompt
      have paid := forwarderStep_cost reading bounded carries clientWriteOk
      refine ⟨inactive, ?_⟩
      rw [forwarderInput, inactive, workLeft_submit_forwarder, workLeft, idle]
      simp only [todoCost_nil] at paid ⊢
      omega
  | exec thread count => exact workLeft_exec prompt inactive actEq
  | mainExit =>
      rcases mainExit_cases actEq with ⟨_, idle, rfl⟩
      have mainEq := (mainExit_guard actEq).1
      refine ⟨inactive, ?_⟩
      rw [workLeft_submit_main, workLeft, idle, mainEq]
      simp only [leaveSession, mainCost, todoCost_cons, todoCost_nil, actionCost]
      omega
  | forwarderExit =>
      rcases forwarderExit_cases actEq with ⟨forwarderEq, rfl⟩
      refine ⟨inactive, ?_⟩
      simp only [workLeft, forwarderEq, forwarderCost]
      omega
  | nextSession =>
      rcases nextSession_guard actEq with ⟨mainEq, forwarderEq, mainIdle, forwarderIdle, _⟩
      exact absurd ⟨mainEq, forwarderEq, mainIdle, forwarderIdle⟩ notOver

end Gateway

/-! ## The end -/

theorem Gateway.exec_of_tester {gateway : Gateway} {thread : GatewayThread} {count : ℕ}
    {tester : State GatewayThread UInt8 Effect}
    (testerEq : gateway.tester.exec thread count = some tester) :
    ∃ next, gateway.exec thread count = some next := by
  rw [exec, testerEq]
  cases gateway.nextEffect? thread with
  | none => exact ⟨_, rfl⟩
  | some effect => exact ⟨_, rfl⟩

/-- Before the end of a session which is over there is a step to take: a thread which has
nothing to do goes on with what it waits for, and no thread waits for the mutex in vain. -/
theorem Whole.exists_act {gateway : Gateway} (whole : Whole gateway)
    (inactive : gateway.sessionActive = false) (notOver : ¬SessionOver gateway)
    (defined : ¬gateway.Undefined) :
    ∃ label next, Prompt gateway label ∧ gateway.act label = some next := by
  by_cases busy : ∃ thread, gateway.tester.todo thread ≠ []
  · rcases busy with ⟨waiting, busy⟩
    rcases whole.sound.exists_exec busy 1 with ⟨thread, tester, testerEq⟩
    rcases Gateway.exec_of_tester testerEq with ⟨next, execEq⟩
    exact ⟨.exec thread 1, next, Nat.one_pos, execEq⟩
  · have idle : ∀ thread, gateway.tester.todo thread = [] := by
      intro thread
      by_contra working
      exact busy ⟨thread, working⟩
    cases sendingEq : gateway.sending with
    | started request =>
        have possible : ∃ next, gateway.sendFirst acceptingEnv = some next := by
          simp only [Gateway.sendFirst, sendingEq, idle, if_true]
          split <;> exact ⟨_, rfl⟩
        rcases possible with ⟨next, actEq⟩
        exact ⟨.sendFirst acceptingEnv, next, trivial, actEq⟩
    | waiting env request progress =>
        cases queueEq : gateway.fcFrameQueue with
        | nil =>
            have possible : ∃ next, gateway.flowControlTimeout = some next := by
              simp [Gateway.flowControlTimeout, sendingEq, queueEq, idle]
            rcases possible with ⟨next, actEq⟩
            exact ⟨.flowControlTimeout, next, trivial, actEq⟩
        | cons entry queue =>
            have possible : ∃ next, gateway.takeFlowControl = some next := by
              simp [Gateway.takeFlowControl, sendingEq, queueEq, idle]
            rcases possible with ⟨next, actEq⟩
            exact ⟨.takeFlowControl, next, trivial, actEq⟩
    | idle =>
        cases mainEq : gateway.main with
        | header =>
            have possible : ∃ next, gateway.testerRead [] = some next := by
              simp [Gateway.testerRead, mainEq, sendingEq, idle, SessionPc.requested,
                DoIPHeader.size]
            rcases possible with ⟨next, actEq⟩
            exact ⟨.testerRead [], next, trivial, actEq⟩
        | payload pending =>
            have missing := pending.missing
            have possible : ∃ next, gateway.testerRead [] = some next := by
              simp [Gateway.testerRead, mainEq, sendingEq, idle, SessionPc.requested, missing]
            rcases possible with ⟨next, actEq⟩
            exact ⟨.testerRead [], next, trivial, actEq⟩
        | invalidRange => exact absurd (Or.inl mainEq) defined
        | closed =>
            cases forwarderEq : gateway.forwarder with
            | dispatch =>
                have possible : ∃ next, gateway.forwarderExit = some next := by
                  simp [Gateway.forwarderExit, forwarderEq, idle, inactive]
                rcases possible with ⟨next, actEq⟩
                exact ⟨.forwarderExit, next, trivial, actEq⟩
            | reassembling frame =>
                have possible : ∃ next, gateway.canRead .failed true = some next := by
                  simp [Gateway.canRead, forwarderEq, idle, ForwarderPc.isReading]
                rcases possible with ⟨next, actEq⟩
                exact ⟨.canRead .failed true, next, trivial, actEq⟩
            | stopped => exact absurd ⟨mainEq, forwarderEq, idle .main, idle .forwarder⟩ notOver
            | outOfBounds => exact absurd (Or.inr forwarderEq) defined

/-- A session whose flag has been cleared comes to its end: from every reachable state, whatever
the tester and the bus bring and in whatever order the threads go on, both threads end after
finitely many steps, or one of them does what the source gives no meaning. A read on the tester
socket is taken to return, with bytes or with the end of the connection, and one on the CAN socket
at the latest with its timeout. -/
theorem session_ends {gateway : Gateway}
    (reached : gatewaySystem.Reachable TransitionSystem.anyStep gateway)
    (inactive : gateway.sessionActive = false) :
    gatewaySystem.Inevitable Prompt (fun ended => SessionOver ended ∨ ended.Undefined)
      gateway := by
  apply TransitionSystem.inevitable_of_measure
    (fun state : Gateway => Whole state ∧ state.sessionActive = false) Gateway.workLeft
  · rintro state ⟨whole, stateOver⟩ notEnded
    rw [not_or] at notEnded
    rcases whole.exists_act stateOver notEnded.1 notEnded.2 with ⟨label, next, prompt, actEq⟩
    refine ⟨label, { next with clock := state.clock + 1 }, prompt, ?_⟩
    change (state.act label).map _ = _
    rw [actEq]
    rfl
  · rintro state label next ⟨whole, stateOver⟩ notEnded prompt stepEq
    rw [not_or] at notEnded
    have wholeNext := whole_step whole stepEq
    rcases gateway_step_cases stepEq with ⟨acted, actEq, rfl⟩
    rcases Gateway.workLeft_act whole.bounded stateOver notEnded.1 prompt actEq with
      ⟨stays, lower⟩
    exact ⟨⟨wholeNext, stays⟩, lower⟩
  · exact ⟨whole_of_reachable reached, inactive⟩

/-- The tester closes its connection while the forwarder is inside a reassembly. -/
def closingLabels : List GatewayLabel :=
  [.canRead (.frame (.full #v[0x10, 20, 0x62, 0xF1, 0x90, 1, 2, 3])) true, .testerRead [],
    .exec .main 1]

/-- The session which is left then comes to its end. -/
theorem session_ends_closing :
    ∃ gateway, gatewaySystem.run .start closingLabels = some gateway ∧
      gateway.forwarder.isReading ∧
      gatewaySystem.Inevitable Prompt (fun ended => SessionOver ended ∨ ended.Undefined)
        gateway := by
  have ends : (gatewaySystem.run .start closingLabels).map (fun gateway =>
      (gateway.sessionActive, gateway.forwarder.isReading)) = some (false, true) := by
    decide
  rcases Option.map_eq_some_iff.mp ends with ⟨gateway, runEq, endEq⟩
  rw [Prod.mk.injEq] at endEq
  have reached := TransitionSystem.Reachable.initial.run
    (gatewaySystem.allowedRun_anyStep .start _) runEq
  exact ⟨gateway, runEq, endEq.2, session_ends reached endEq.1⟩

end Synapse
