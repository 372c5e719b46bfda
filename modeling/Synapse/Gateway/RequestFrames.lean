import Synapse.IsoTp.DeclaredLength
import Synapse.Gateway.FlowControl
import Synapse.Gateway.BusSteps

/-!
# Requests on the bus

The main thread writes a block of frames one at a time, and between two blocks it
waits for flow control, while the forwarder goes on. This file follows the frames of
every call of `isotp_send` through all runs of the gateway. A receiver which tells the
frames of the two threads apart sees, for each call in turn, the first frames of the
segmentation of its request, and nothing else.
-/

namespace Synapse

open LockedStream

/-! ## The kinds of frames -/

section Kinds

variable (env : SendEnv) (canId : UInt32) (data : List UInt8)

theorem pciType_singleFrame (short : data.length ≤ 7) :
    (singleFrame env canId data).pciType = 0 := by
  rw [CanFrame.pciType_eq_iff, singleFrame, data_zero_overwrite, UInt8.toNat_or,
    UInt8.toNat_ofNat']
  simp
  omega

theorem pciType_firstFrame : (firstFrame env canId data).pciType = 1 := by
  rw [CanFrame.pciType_eq_iff, firstFrame, data_zero_overwrite, toNat_firstFrameHigh]
  simp only [UInt8.reduceToNat]
  omega

theorem pciType_consecutiveFrame (progress : Progress) :
    (consecutiveFrame env canId data progress).pciType = 2 := by
  have pciEq : (0x20 ||| (progress.seqNum &&& 0x0F) : UInt8).toNat =
      0x20 + progress.seqNum.toNat % 16 := by
    rw [UInt8.toNat_or, Bytes.toNat_and_lowMask]
    apply Bytes.or_eq_add_of_lt
    · rfl
    · exact Nat.mod_lt _ (by omega)
  rw [CanFrame.pciType_eq_iff, consecutiveFrame, data_zero_overwrite, pciEq]
  simp only [UInt8.reduceToNat]
  omega

/-- No frame of a request is of the flow-control type. -/
theorem pciType_messageFrames {frame : CanFrame} (isFrame : frame ∈ messageFrames env canId data) :
    frame.pciType ≠ 3 := by
  have consecutive : ∀ progress, ∀ frame ∈ consecutiveFrames env canId data progress,
      frame.pciType = 2 := by
    intro progress
    induction progress using consecutiveFrames.induct data with
    | case1 progress unfinished ih =>
        intro frame isFrame
        rw [consecutiveFrames_of_lt unfinished, List.mem_cons] at isFrame
        rcases isFrame with rfl | later
        · exact pciType_consecutiveFrame env canId data progress
        · exact ih frame later
    | case2 progress finished =>
        intro frame isFrame
        rw [consecutiveFrames_of_le (Nat.not_lt.mp finished)] at isFrame
        simp at isFrame
  rw [messageFrames] at isFrame
  split at isFrame
  next short =>
    rw [List.mem_singleton.mp isFrame, pciType_singleFrame env canId data short]
    decide
  next =>
    rcases List.mem_cons.mp isFrame with rfl | later
    · rw [pciType_firstFrame]
      decide
    · rw [consecutive _ frame later]
      decide

end Kinds

theorem pciType_isotpFlowControlFrame : isotpFlowControlFrame.pciType = 3 := by decide

/-- Whatever ends a block, the frames attempted in it are the next ones of the message. -/
theorem sendBlock_attempts_prefix (env : SendEnv) (canId : UInt32) (data : List UInt8)
    (stminUs frames : ℕ) (progress : Progress) :
    attemptedFrames (sendBlock env canId data stminUs frames progress).events <+:
      consecutiveFrames env canId data progress := by
  induction frames generalizing progress with
  | zero => exact List.nil_prefix
  | succ frames ih =>
      simp only [sendBlock]
      by_cases unfinished : progress.bytesSent < data.length
      · rw [if_pos unfinished, consecutiveFrames_of_lt unfinished]
        by_cases accepted : env.accepts progress.bytesSent = true
        · rw [if_pos accepted, attemptedFrames_canWrite, attemptedFrames_append,
            (frames_pause _ stminUs).1, List.nil_append, List.cons_prefix_cons]
          exact ⟨rfl, ih (progress.advance data)⟩
        · rw [if_neg accepted, attemptedFrames_canWrite, List.cons_prefix_cons]
          exact ⟨rfl, List.nil_prefix⟩
      · rw [if_neg unfinished]
        exact List.nil_prefix

theorem isotpSendConsecutiveFrames_prefix (env : SendEnv) (canId : UInt32) (data : List UInt8)
    (progress : Progress) (queued : Option (List UInt8)) :
    attemptedFrames (isotpSendConsecutiveFrames env canId data progress queued).events <+:
      consecutiveFrames env canId data progress := by
  rcases isotpSendConsecutiveFrames_cases env canId data progress queued with ⟨_, blockEq⟩ |
    ⟨_, blockEq⟩ | ⟨blockSize, stminUs, _, blockEq⟩
  · rw [blockEq]
    exact List.nil_prefix
  · rw [blockEq]
    exact List.nil_prefix
  · rw [blockEq]
    apply sendBlock_attempts_prefix

theorem forwardResponse_answers (input : ForwarderInput) (response : List UInt8) :
    flowControlsSent (forwardResponse input response).2 = [] := by
  rw [forwardResponse]
  split
  · rfl
  · split
    · rfl
    · split <;> rfl

/-- The forwarder answers a First Frame with one and the same frame. -/
theorem forwarderStep_answers (pc : ForwarderPc) (input : ForwarderInput) :
    ∀ frame ∈ flowControlsSent (forwarderStep pc input).2, frame = isotpFlowControlFrame := by
  have reassembly : ∀ state : Reassembly,
      flowControlsSent (continueReassembly input state).2 = [] := by
    intro state
    cases state with
    | returned response => exact forwardResponse_answers input response
    | _ => rfl
  cases pc with
  | dispatch =>
      rcases input with ⟨read, sessionActive, clientWriteOk⟩
      cases read with
      | failed => simp [forwarderStep, flowControlsSent]
      | frame rxFrame =>
          change ∀ frame ∈ flowControlsSent (dispatchFrame _ rxFrame).2, _
          rcases dispatchFrame_cases ⟨.frame rxFrame, sessionActive, clientWriteOk⟩ rxFrame with
            stepEq | ⟨_, stepEq⟩ | ⟨response, _, stepEq⟩ | stepEq | stepEq
          · simp [stepEq, flowControlsSent]
          · simp [stepEq, flowControlsSent, flowControlSent?]
          · simp [stepEq, forwardResponse_answers]
          · rw [stepEq]
            change ∀ frame ∈ isotpFlowControlFrame :: flowControlsSent _, _
            rw [reassembly]
            simp
          · simp [stepEq, flowControlsSent]
  | reassembling frame =>
      change ∀ frame ∈ flowControlsSent (continueReassembly input _).2, _
      simp [reassembly]
  | stopped => simp [forwarderStep, flowControlsSent]
  | outOfBounds => simp [forwarderStep, flowControlsSent]

/-! ## The frames of the calls -/

/-- Where the last call stands: it has nothing left to write, or it has written, and is about to
write, the first frames of its message, and what it waits to write is the rest of them. -/
inductive CurrentCall (gateway : Gateway) (calls : List BusCall) : Prop where
  | settled (noFrames : pendingFrames (gateway.tester.todo .main) = [])
      (notWaiting : ∀ env request progress, gateway.sending ≠ .waiting env request progress)
      (allSettled : ∀ call ∈ calls, call.Settled)
  | writing (earlier : List BusCall) (call : BusCall) (callsEq : calls = earlier ++ [call])
      (earlierSettled : ∀ other ∈ earlier, other.Settled)
      (begun : call.frames ++ pendingFrames (gateway.tester.todo .main) <+: call.message)
      (waits : ∀ env request progress, gateway.sending = .waiting env request progress →
        call.gaveUp = false ∧ call.env = env ∧ call.request = request ∧
          call.frames ++ pendingFrames (gateway.tester.todo .main) ++
            consecutiveFrames env udsRequestCanId request progress = call.message)
      (ends : (∀ env request progress, gateway.sending ≠ .waiting env request progress) →
        call.gaveUp = false →
          call.frames ++ pendingFrames (gateway.tester.todo .main) = call.message)

namespace CurrentCall

variable {gateway next : Gateway} {calls : List BusCall}

theorem congr (current : CurrentCall gateway calls)
    (pendingEq : pendingFrames (next.tester.todo .main) =
      pendingFrames (gateway.tester.todo .main))
    (sendingEq : next.sending = gateway.sending) : CurrentCall next calls := by
  cases current with
  | settled noFrames notWaiting allSettled =>
      apply settled
      · rwa [pendingEq]
      · rwa [sendingEq]
      · exact allSettled
  | writing earlier call callsEq earlierSettled begun waits ends =>
      apply writing earlier call callsEq earlierSettled
      · rwa [pendingEq]
      · rwa [pendingEq, sendingEq]
      · rwa [pendingEq, sendingEq]

/-- When nothing is left to write and nothing is waited for, every call is settled. -/
theorem allSettled_of_idle (current : CurrentCall gateway calls)
    (noFrames : pendingFrames (gateway.tester.todo .main) = [])
    (notWaiting : ∀ env request progress, gateway.sending ≠ .waiting env request progress) :
    ∀ call ∈ calls, call.Settled := by
  cases current with
  | settled _ _ allSettled => exact allSettled
  | writing earlier call callsEq earlierSettled _ _ ends =>
      subst callsEq
      intro other otherMem
      rcases List.mem_append.mp otherMem with old | new
      · exact earlierSettled other old
      · rw [List.mem_singleton.mp new]
        intro goesOn
        have whole := ends notWaiting goesOn
        rwa [noFrames, List.append_nil] at whole

theorem earlier_settled (current : CurrentCall gateway calls) :
    ∀ call ∈ calls.dropLast, call.Settled := by
  cases current with
  | settled _ _ allSettled =>
      intro call callMem
      exact allSettled call (List.mem_of_mem_dropLast callMem)
  | writing earlier call callsEq earlierSettled _ _ _ =>
      rw [callsEq, List.dropLast_concat]
      exact earlierSettled

end CurrentCall

/-- What has happened on the bus is the work of these calls and of the forwarder. -/
structure OnBus (steps : List BusStep) (gateway : Gateway) (calls : List BusCall) : Prop where
  frames : steps.filterMap BusStep.requestFrame? = calls.flatMap BusCall.frames
  requests : steps.filterMap BusStep.call? =
    calls.map BusCall.request ++ startedRequest gateway.sending
  gaveUps : steps.countP BusStep.isGaveUp = calls.countP BusCall.gaveUp
  begun : ∀ call ∈ calls, call.frames ≠ [] ∧ call.frames <+: call.message
  current : CurrentCall gateway calls
  answers : ∀ frame, .flowControlFrame frame ∈ steps → frame = isotpFlowControlFrame
  answering : ∀ frame ∈ flowControlsSent (gateway.tester.todo .forwarder),
    frame = isotpFlowControlFrame

namespace OnBus

variable {steps : List BusStep} {gateway next : Gateway} {calls : List BusCall}

/-- A step which does nothing on the bus and leaves the main thread where it is. -/
theorem congr (onBus : OnBus steps gateway calls)
    (pendingEq : pendingFrames (next.tester.todo .main) =
      pendingFrames (gateway.tester.todo .main))
    (sendingEq : next.sending = gateway.sending)
    (answering : ∀ frame ∈ flowControlsSent (next.tester.todo .forwarder),
      frame = isotpFlowControlFrame) : OnBus steps next calls := by
  refine ⟨onBus.frames, ?_, onBus.gaveUps, onBus.begun, ?_, onBus.answers, answering⟩
  · rw [sendingEq]
    exact onBus.requests
  · exact onBus.current.congr pendingEq sendingEq

/-- A main thread which is not inside a call gets actions which do not write. -/
theorem quiet (onBus : OnBus steps gateway calls) (idle : gateway.sending = .idle)
    (done : pendingFrames (gateway.tester.todo .main) = [])
    (noFrames : pendingFrames (next.tester.todo .main) = []) (nextIdle : next.sending = .idle)
    (answering : ∀ frame ∈ flowControlsSent (next.tester.todo .forwarder),
      frame = isotpFlowControlFrame) : OnBus steps next calls := by
  apply onBus.congr
  · rw [noFrames, done]
  · rw [nextIdle, idle]
  · exact answering

/-- The call which waits for flow control goes on, and its next frames are those of the message;
or it gives up, with a part of them. -/
theorem continueSending (onBus : OnBus steps gateway calls) {env : SendEnv}
    {request : List UInt8} {progress : Progress}
    (sendingEq : gateway.sending = .waiting env request progress)
    (idle : gateway.tester.todo .main = []) (queued : Option (List UInt8)) :
    ∃ nextCalls, OnBus (steps ++ gateway.waitSteps queued)
      (gateway.continueSending env request progress queued) nextCalls := by
  have forwarderEq : (gateway.continueSending env request progress queued).tester.todo
      .forwarder = gateway.tester.todo .forwarder := Gateway.submit_main_todo_forwarder _ _
  have pendingEq : pendingFrames
      ((gateway.continueSending env request progress queued).tester.todo .main) =
        attemptedFrames
          (isotpSendConsecutiveFrames env udsRequestCanId request progress queued).events := by
    rw [Gateway.continueSending, Gateway.submit_todo_self, pendingFrames_events]
  have requestsEq : steps.filterMap BusStep.call? = calls.map BusCall.request := by
    rw [onBus.requests, sendingEq]
    exact List.append_nil _
  have begins := isotpSendConsecutiveFrames_prefix env udsRequestCanId request progress queued
  cases onBus.current with
  | settled _ notWaiting _ => exact absurd sendingEq (notWaiting env request progress)
  | writing earlier call callsEq earlierSettled _ waits _ =>
      rcases waits env request progress sendingEq with ⟨goesOn, envEq, requestEq, messageEq⟩
      rw [idle, pendingFrames_nil, List.append_nil] at messageEq
      have begun : call.frames ++ pendingFrames
          ((gateway.continueSending env request progress queued).tester.todo .main) <+:
            call.message := by
        rw [pendingEq, ← messageEq, List.prefix_append_right_inj]
        exact begins
      by_cases ok :
          (isotpSendConsecutiveFrames env udsRequestCanId request progress queued).ok = true
      · have stepsEq : gateway.waitSteps queued = [] := by
          rw [Gateway.waitSteps, sendingEq]
          simp [ok]
        have rest := (isotpSendConsecutiveFrames_frames ok).1
        rw [stepsEq, List.append_nil]
        refine ⟨calls, onBus.frames, ?_, onBus.gaveUps, onBus.begun, ?_, onBus.answers, ?_⟩
        · rw [requestsEq]
          change _ = _ ++ startedRequest (if _ then _ else _)
          split <;> exact (List.append_nil _).symm
        · apply CurrentCall.writing earlier call callsEq earlierSettled begun
          · intro nextEnv nextRequest nextProgress waiting
            change (if _ then _ else _) = _ at waiting
            split at waiting
            next =>
              rw [SendingPc.waiting.injEq] at waiting
              rcases waiting with ⟨rfl, rfl, rfl⟩
              refine ⟨goesOn, envEq, requestEq, ?_⟩
              rw [pendingEq, ← messageEq, List.append_assoc, rest]
            next => simp at waiting
          · intro notWaiting _
            have finished : request.length ≤
                (isotpSendConsecutiveFrames env udsRequestCanId request progress
                  queued).progress.bytesSent := by
              by_contra unfinished
              apply notWaiting env request
              exact if_pos ⟨ok, Nat.lt_of_not_le unfinished⟩
            rw [pendingEq, ← messageEq, ← rest, consecutiveFrames_of_le finished,
              List.append_nil]
        · rw [forwarderEq]
          exact onBus.answering
      · have stepsEq : gateway.waitSteps queued = [.gaveUp] := by
          rw [Gateway.waitSteps, sendingEq]
          simp [ok]
        have ended : (gateway.continueSending env request progress queued).sending = .idle := by
          apply if_neg
          exact fun both => ok both.1
        subst callsEq
        rw [stepsEq]
        refine ⟨earlier ++ [{ call with gaveUp := true }], ?_, ?_, ?_, ?_, ?_, ?_, ?_⟩
        · rw [List.filterMap_append, onBus.frames, List.flatMap_append, List.flatMap_append]
          simp [BusStep.requestFrame?]
        · rw [List.filterMap_append, requestsEq, ended]
          simp [BusStep.call?, startedRequest]
        · rw [List.countP_append, onBus.gaveUps]
          simp [BusStep.isGaveUp, goesOn]
        · intro other otherMem
          rcases List.mem_append.mp otherMem with old | new
          · exact onBus.begun other (List.mem_append_left _ old)
          · rw [List.mem_singleton.mp new]
            exact onBus.begun call (List.mem_append_right _ (List.mem_singleton_self _))
        · apply CurrentCall.writing earlier { call with gaveUp := true } rfl earlierSettled
          · exact begun
          · intro nextEnv nextRequest nextProgress waiting
            simp [ended] at waiting
          · intro _ gaveUp
            simp at gaveUp
        · intro answer answerMem
          apply onBus.answers
          simpa using answerMem
        · rw [forwarderEq]
          exact onBus.answering

/-- The first frame of a call begins its message. -/
theorem sendFirst (onBus : OnBus steps gateway calls) {env : SendEnv}
    (actEq : gateway.sendFirst env = some next) :
    ∃ nextCalls, OnBus (steps ++ gateway.busSteps (.sendFirst env)) next nextCalls := by
  have idle := Gateway.sendFirst_guard actEq
  have begins : ∀ (request : List UInt8) (frame : CanFrame) (after : Gateway),
      gateway.sending = .started request → gateway.busSteps (.sendFirst env) =
        [.requestFrame frame (env.accepts 0)] →
      [frame] <+: messageFrames env udsRequestCanId request →
      startedRequest after.sending = [] →
      after.tester.todo .forwarder = gateway.tester.todo .forwarder →
      CurrentCall after (calls ++ [⟨env, request, [frame], false⟩]) →
        OnBus (steps ++ gateway.busSteps (.sendFirst env)) after
          (calls ++ [⟨env, request, [frame], false⟩]) := by
    intro request frame after sendingEq stepsEq begun notStarted forwarderEq current
    rw [stepsEq]
    refine ⟨?_, ?_, ?_, ?_, current, ?_, ?_⟩
    · rw [List.filterMap_append, onBus.frames, List.flatMap_append]
      rfl
    · rw [List.filterMap_append, onBus.requests, sendingEq, notStarted, List.map_append]
      exact (List.append_nil _).trans (List.append_nil _).symm
    · rw [List.countP_append, List.countP_append, onBus.gaveUps]
      rfl
    · intro call callMem
      rcases List.mem_append.mp callMem with old | new
      · exact onBus.begun call old
      · rw [List.mem_singleton.mp new]
        exact ⟨List.cons_ne_nil _ _, begun⟩
    · intro answer answerMem
      apply onBus.answers
      simpa using answerMem
    · rw [forwarderEq]
      exact onBus.answering
  rcases Gateway.sendFirst_cases actEq with ⟨request, sendingEq, sends⟩
  have allSettled : ∀ call ∈ calls, call.Settled := by
    apply onBus.current.allSettled_of_idle
    · rw [idle]
      rfl
    · simp [sendingEq]
  rcases sends with ⟨short, rfl⟩ | ⟨long, rfl⟩
  · refine ⟨_, begins request (singleFrame env udsRequestCanId request) _ sendingEq ?_ ?_ rfl rfl
      ?_⟩
    · simp [Gateway.busSteps, sendingEq, short]
    · rw [messageFrames, if_pos short]
    · apply CurrentCall.settled
      · rw [idle]
        rfl
      · simp
      · intro call callMem
        rcases List.mem_append.mp callMem with old | new
        · exact allSettled call old
        · rw [List.mem_singleton.mp new]
          intro _
          exact (if_pos short).symm
  · have notShort : ¬request.length ≤ 7 := by omega
    refine ⟨_, begins request (firstFrame env udsRequestCanId request) _ sendingEq ?_ ?_ rfl rfl
      ?_⟩
    · simp [Gateway.busSteps, sendingEq, notShort]
    · rw [messageFrames, if_neg notShort, List.cons_prefix_cons]
      exact ⟨rfl, List.nil_prefix⟩
    · apply CurrentCall.writing calls _ rfl allSettled
      · rw [idle, BusCall.message, messageFrames, if_neg notShort]
        change [_] <+: _
        rw [List.cons_prefix_cons]
        exact ⟨rfl, List.nil_prefix⟩
      · intro otherEnv otherRequest progress waiting
        rw [SendingPc.waiting.injEq] at waiting
        rcases waiting with ⟨rfl, rfl, rfl⟩
        rw [idle, BusCall.message, messageFrames, if_neg notShort]
        exact ⟨rfl, rfl, rfl, rfl⟩
      · intro notWaiting
        exact absurd rfl (notWaiting _ _ _)

/-- The forwarder answers a First Frame, or does nothing on the bus. -/
theorem exec_forwarder (onBus : OnBus steps gateway calls) {count : ℕ}
    (execEq : gateway.exec .forwarder count = some next) :
    OnBus (steps ++ gateway.busSteps (.exec .forwarder count)) next calls := by
  rcases exec_forwarder_main execEq with ⟨mainEq, sendingEq⟩
  rcases Gateway.exec_action_cases execEq with ⟨effect, rest, todoEq, rfl⟩ |
    ⟨action, rest, tester, todoEq, noEffect, _, rfl, restEq⟩
  · have effectEq : gateway.nextEffect? .forwarder = some effect := by
      rw [Gateway.nextEffect?, todoEq]
    have answersRest : ∀ frame ∈ flowControlsSent rest, frame = isotpFlowControlFrame := by
      intro frame frameMem
      apply onBus.answering
      rw [todoEq, flowControlsSent, List.filterMap_cons]
      split
      · exact frameMem
      · exact List.mem_cons_of_mem _ frameMem
    have moved : OnBus steps ((gateway.advance .forwarder rest).perform .forwarder effect)
        calls := by
      apply onBus.congr (congrArg pendingFrames mainEq) sendingEq
      rw [perform_tester, Gateway.advance_todo_self]
      exact answersRest
    cases effect with
    | sendFlowControl frame =>
        have isAnswer : frame = isotpFlowControlFrame := by
          apply onBus.answering
          rw [todoEq]
          exact List.mem_cons_self
        rw [Gateway.busSteps, effectEq]
        refine ⟨?_, ?_, ?_, moved.begun, moved.current, ?_, moved.answering⟩
        · rw [List.filterMap_append, moved.frames]
          exact List.append_nil _
        · rw [List.filterMap_append, moved.requests]
          exact List.append_nil _
        · rw [List.countP_append, moved.gaveUps]
          rfl
        · intro answer answerMem
          rcases List.mem_append.mp answerMem with old | new
          · exact moved.answers answer old
          · rw [List.mem_singleton, BusStep.flowControlFrame.injEq] at new
            rw [new, isAnswer]
    | _ =>
        rw [Gateway.busSteps, effectEq]
        simpa only [List.append_nil] using moved
  · have noStep : gateway.busSteps (.exec .forwarder count) = [] := by
      have effectEq : gateway.nextEffect? .forwarder = none := by
        rw [Gateway.nextEffect?, todoEq]
        cases action with
        | other effect => exact absurd rfl (noEffect effect)
        | _ => rfl
      rw [Gateway.busSteps, effectEq]
    rw [noStep, List.append_nil]
    apply onBus.congr (congrArg pendingFrames mainEq) sendingEq
    have restAnswers : flowControlsSent (tester.todo .forwarder) =
        flowControlsSent (gateway.tester.todo .forwarder) := by
      have noAnswer : flowControlSent? action = none := by
        cases action with
        | other effect => exact absurd rfl (noEffect effect)
        | _ => rfl
      rw [todoEq, flowControlsSent, flowControlsSent, List.filterMap_cons_none noAnswer]
      rcases restEq with restEq | ⟨bytes, restEq⟩
      · rw [restEq, Function.update_self]
      · rw [restEq, Function.update_self]
        rfl
    change ∀ frame ∈ flowControlsSent (tester.todo .forwarder), _
    rw [restAnswers]
    exact onBus.answering

/-- The main thread passes the next frame of its call to `write`. -/
theorem write (onBus : OnBus steps gateway calls) {frame : CanFrame} (accepted : Bool)
    {later : List CanFrame}
    (pendingEq : pendingFrames (gateway.tester.todo .main) = frame :: later)
    (laterEq : pendingFrames (next.tester.todo .main) = later)
    (sendingEq : next.sending = gateway.sending)
    (forwarderEq : next.tester.todo .forwarder = gateway.tester.todo .forwarder) :
    ∃ nextCalls, OnBus (steps ++ [.requestFrame frame accepted]) next nextCalls := by
  cases onBus.current with
  | settled nothing _ _ =>
      rw [nothing] at pendingEq
      simp at pendingEq
  | writing earlier call callsEq earlierSettled begun waits ends =>
      subst callsEq
      refine ⟨earlier ++ [{ call with frames := call.frames ++ [frame] }], ?_, ?_, ?_, ?_, ?_, ?_,
        ?_⟩
      · rw [List.filterMap_append, onBus.frames, List.flatMap_append, List.flatMap_append]
        simp [BusStep.requestFrame?]
      · rw [List.filterMap_append, onBus.requests, sendingEq]
        simp [BusStep.call?]
      · rw [List.countP_append, onBus.gaveUps]
        simp [BusStep.isGaveUp]
      · intro other otherMem
        rcases List.mem_append.mp otherMem with old | new
        · exact onBus.begun other (List.mem_append_left _ old)
        · rw [List.mem_singleton.mp new]
          refine ⟨by simp, ?_⟩
          apply List.IsPrefix.trans _ begun
          rw [pendingEq, List.prefix_append_right_inj, List.cons_prefix_cons]
          exact ⟨rfl, List.nil_prefix⟩
      · apply CurrentCall.writing earlier _ rfl earlierSettled
        · rw [laterEq, List.append_assoc, List.singleton_append, ← pendingEq]
          exact begun
        · intro env request progress waiting
          rw [laterEq, List.append_assoc call.frames, List.singleton_append, ← pendingEq]
          apply waits
          rwa [← sendingEq]
        · intro notWaiting goesOn
          rw [laterEq, List.append_assoc call.frames, List.singleton_append, ← pendingEq]
          apply ends
          · rwa [← sendingEq]
          · exact goesOn
      · intro answer answerMem
        apply onBus.answers
        simpa using answerMem
      · rw [forwarderEq]
        exact onBus.answering

/-- A step of the main thread inside what it has to do. -/
theorem exec_main (onBus : OnBus steps gateway calls) (oneCall : OneCall gateway) {count : ℕ}
    (execEq : gateway.exec .main count = some next) :
    ∃ nextCalls, OnBus (steps ++ gateway.busSteps (.exec .main count)) next nextCalls := by
  have forwarderEq :=
    Gateway.exec_todo_of_ne execEq (by decide : GatewayThread.forwarder ≠ .main)
  have answering : ∀ frame ∈ flowControlsSent (next.tester.todo .forwarder),
      frame = isotpFlowControlFrame := by
    rw [forwarderEq]
    exact onBus.answering
  rcases Gateway.exec_action_cases execEq with ⟨effect, rest, todoEq, rfl⟩ |
    ⟨action, rest, tester, todoEq, noEffect, _, rfl, restEq⟩
  · have effectEq : gateway.nextEffect? .main = some effect := by
      rw [Gateway.nextEffect?, todoEq]
    have restEq : ((gateway.advance .main rest).perform .main effect).tester.todo .main =
        rest := by
      rw [perform_tester, Gateway.advance_todo_self]
    have pendingEq : pendingFrames (gateway.tester.todo .main) =
        (pendingFrame? (.other effect)).toList ++ pendingFrames rest := by
      rw [todoEq, pendingFrames_cons]
    cases effect with
    | isotpSend request =>
        have called : sendRequests (gateway.tester.todo .main) ≠ [] := by
          rw [todoEq]
          exact List.cons_ne_nil _ _
        have idle := oneCall.idle called
        have noFrames := oneCall.noFrames called
        have allSettled := onBus.current.allSettled_of_idle noFrames (by simp [idle])
        rw [Gateway.busSteps, effectEq]
        refine ⟨calls, ?_, ?_, ?_, onBus.begun, ?_, ?_, answering⟩
        · rw [List.filterMap_append, onBus.frames]
          exact List.append_nil _
        · rw [List.filterMap_append, onBus.requests, idle]
          simp [startedRequest, BusStep.call?, Gateway.perform]
        · rw [List.countP_append, onBus.gaveUps]
          rfl
        · apply CurrentCall.settled
          · rw [restEq]
            rw [pendingEq, List.append_eq_nil_iff] at noFrames
            exact noFrames.2
          · simp [Gateway.perform]
          · exact allSettled
        · intro answer answerMem
          apply onBus.answers
          simpa using answerMem
    | isotp event =>
        rw [Gateway.busSteps, effectEq]
        cases event with
        | sleep microseconds =>
            refine ⟨calls, ?_⟩
            simp only [eventSteps, List.append_nil]
            apply onBus.congr
            · rw [restEq, pendingEq]
              rfl
            · rfl
            · exact answering
        | canWrite frame accepted =>
            exact onBus.write accepted pendingEq (congrArg pendingFrames restEq) rfl forwarderEq
    | _ =>
        refine ⟨calls, ?_⟩
        rw [Gateway.busSteps, effectEq]
        simp only [List.append_nil]
        apply onBus.congr
        · rw [restEq, pendingEq]
          rfl
        · rfl
        · exact answering
  · have noFrame : pendingFrame? action = none := by
      cases action with
      | other effect => exact absurd rfl (noEffect effect)
      | _ => rfl
    have noStep : gateway.busSteps (.exec .main count) = [] := by
      have effectEq : gateway.nextEffect? .main = none := by
        rw [Gateway.nextEffect?, todoEq]
        cases action with
        | other effect => exact absurd rfl (noEffect effect)
        | _ => rfl
      rw [Gateway.busSteps, effectEq]
    refine ⟨calls, ?_⟩
    rw [noStep, List.append_nil]
    apply onBus.congr
    · rw [todoEq, pendingFrames_cons, noFrame]
      rcases restEq with restEq | ⟨bytes, restEq⟩
      · rw [restEq, Function.update_self]
        rfl
      · rw [restEq, Function.update_self, pendingFrames_cons]
        rfl
    · rfl
    · exact answering

theorem act (onBus : OnBus steps gateway calls) (oneCall : OneCall gateway)
    {label : GatewayLabel} (actEq : gateway.act label = some next) :
    ∃ nextCalls, OnBus (steps ++ gateway.busSteps label) next nextCalls := by
  have silent : gateway.busSteps label = [] → (∃ nextCalls, OnBus steps next nextCalls) →
      ∃ nextCalls, OnBus (steps ++ gateway.busSteps label) next nextCalls := by
    intro noSteps moved
    rwa [noSteps, List.append_nil]
  cases label with
  | testerRead bytes =>
      rcases Gateway.testerRead_cases actEq with ⟨sendingEq, idle, _, rfl⟩
      refine silent rfl ⟨calls, ?_⟩
      apply onBus.quiet sendingEq
      · rw [idle]
        rfl
      · rw [Gateway.submit_todo_self]
        exact pendingFrames_of_no_events (sessionStep_no_events _ _)
      · exact sendingEq
      · rw [Gateway.submit_main_todo_forwarder]
        exact onBus.answering
  | sendFirst env => exact onBus.sendFirst actEq
  | takeFlowControl =>
      rcases Gateway.takeFlowControl_cases actEq with
        ⟨env, request, progress, entry, queue, sendingEq, queueEq, idle, rfl⟩
      have stepsEq : gateway.busSteps .takeFlowControl =
          gateway.waitSteps (some entry.bytes) := by
        rw [Gateway.busSteps, queueEq]
        rfl
      rw [stepsEq]
      have moved : OnBus steps { gateway with
          fcFrameQueue := queue
          flowControlUses := gateway.flowControlUses ++
            if (waitForFlowControl (some entry.bytes)).isSome then
              [FlowControlUse.mk gateway.firstFrameAt entry.readAt] else [] } calls :=
        onBus.congr rfl rfl onBus.answering
      exact moved.continueSending sendingEq idle (some entry.bytes)
  | flowControlTimeout =>
      rcases Gateway.flowControlTimeout_cases actEq with
        ⟨env, request, progress, sendingEq, _, idle, rfl⟩
      exact onBus.continueSending sendingEq idle none
  | canRead read clientWriteOk =>
      rcases Gateway.canRead_cases actEq with ⟨_, _, rfl⟩
      refine silent rfl ⟨calls, ?_⟩
      apply onBus.congr
      · rw [Gateway.submit_forwarder_todo_main]
      · rfl
      · rw [Gateway.submit_todo_self]
        apply forwarderStep_answers
  | exec thread count =>
      cases thread with
      | main => exact onBus.exec_main oneCall actEq
      | forwarder => exact ⟨calls, onBus.exec_forwarder actEq⟩
  | mainExit =>
      rcases Gateway.mainExit_cases actEq with ⟨sendingEq, idle, rfl⟩
      refine silent rfl ⟨calls, ?_⟩
      apply onBus.quiet sendingEq
      · rw [idle]
        rfl
      · rw [Gateway.submit_todo_self]
        rfl
      · exact sendingEq
      · rw [Gateway.submit_main_todo_forwarder]
        exact onBus.answering
  | forwarderExit =>
      rcases Gateway.forwarderExit_cases actEq with ⟨_, rfl⟩
      exact silent rfl ⟨calls, onBus.congr rfl rfl onBus.answering⟩
  | nextSession =>
      rcases Gateway.nextSession_guard actEq with ⟨mainEq, _, idle, _, rfl⟩
      have sendingEq : gateway.sending = .idle := by
        by_contra sending
        have inLoop := oneCall.inLoop (Or.inr sending)
        rw [mainEq] at inLoop
        simp at inLoop
      refine silent rfl ⟨calls, ?_⟩
      apply onBus.quiet sendingEq
      · rw [idle]
        rfl
      · rfl
      · rfl
      · simp [Gateway.restart, LockedStream.start, flowControlsSent]

end OnBus

theorem oneCall_start : OneCall Gateway.start := by
  apply OneCall.of_silent
  · rfl
  · intro sending
    exact absurd rfl sending

theorem onBus_start : OnBus [] Gateway.start [] := by
  refine ⟨rfl, rfl, rfl, by simp, ?_, by simp, ?_⟩
  · exact .settled rfl (by simp [Gateway.start]) (by simp)
  · simp [Gateway.start, LockedStream.start, flowControlsSent]

/-- The steps of a run on the bus are the work of its calls and of the forwarder. -/
theorem exists_calls {labels : List GatewayLabel} {final : Gateway}
    (runEq : gatewaySystem.run .start labels = some final) :
    OneCall final ∧
      ∃ calls, OnBus (gatewaySystem.record Gateway.busSteps .start labels) final calls := by
  have related := TransitionSystem.record_invariant Gateway.busSteps
    (fun steps gateway => OneCall gateway ∧ ∃ calls, OnBus steps gateway calls)
    (by
      rintro steps gateway label next ⟨oneCall, calls, onBus⟩ _ stepEq
      rcases gateway_step_cases stepEq with ⟨acted, actEq, rfl⟩
      rcases onBus.act oneCall actEq with ⟨nextCalls, actedOnBus⟩
      refine ⟨(oneCall.act actEq).congr rfl rfl rfl, nextCalls, ?_⟩
      exact actedOnBus.congr rfl rfl actedOnBus.answering)
    ⟨oneCall_start, [], onBus_start⟩ (gatewaySystem.allowedRun_anyStep .start labels) runEq
  exact related

/-- A receiver which tells the two kinds of frames apart sees the frames of the calls. -/
theorem OnBus.busFrames_eq {steps : List BusStep} {gateway : Gateway} {calls : List BusCall}
    (onBus : OnBus steps gateway calls) :
    (busFrames steps).filter (fun frame => frame.pciType ≠ 3) = calls.flatMap BusCall.frames := by
  have kinds : ∀ frame ∈ steps.filterMap BusStep.requestFrame?, frame.pciType ≠ 3 := by
    intro frame frameMem
    rw [onBus.frames, List.mem_flatMap] at frameMem
    rcases frameMem with ⟨call, callMem, frameMem⟩
    apply pciType_messageFrames call.env udsRequestCanId call.request
    exact (onBus.begun call callMem).2.subset frameMem
  rw [← onBus.frames]
  have answers := onBus.answers
  clear onBus
  induction steps with
  | nil => rfl
  | cons step steps ih =>
      have later := fun kinds => ih kinds fun frame isAnswer =>
        answers frame (List.mem_cons_of_mem _ isAnswer)
      cases step with
      | requestFrame frame accepted =>
          rcases List.forall_mem_cons.mp kinds with ⟨kind, kinds⟩
          change (frame :: busFrames steps).filter _ = frame :: _
          rw [List.filter_cons_of_pos (by simpa using kind)]
          exact congrArg _ (later kinds)
      | flowControlFrame frame =>
          have isAnswer := answers frame List.mem_cons_self
          change (frame :: busFrames steps).filter _ = _
          rw [List.filter_cons_of_neg]
          · exact later kinds
          · rw [isAnswer, pciType_isotpFlowControlFrame]
            decide
      | call request => exact later kinds
      | gaveUp => exact later kinds

/-- In every run of the gateway, over any number of sessions, the frames on the CAN bus which are
not of the flow-control type are those of the calls of `isotp_send`, one call after the other and
in the order in which the calls were made. Each call has passed the first frames of the
segmentation of its request to `write`, and all of them unless it has given up or is the
last one; it is known how many calls gave up. -/
theorem calls_on_bus {labels : List GatewayLabel} {final : Gateway}
    (runEq : gatewaySystem.run .start labels = some final) :
    ∃ calls : List BusCall,
      (busFrames (gatewaySystem.record Gateway.busSteps .start labels)).filter
          (fun frame => frame.pciType ≠ 3) = calls.flatMap BusCall.frames ∧
        (gatewaySystem.record Gateway.busSteps .start labels).filterMap BusStep.call? =
          calls.map BusCall.request ++ startedRequest final.sending ∧
        (gatewaySystem.record Gateway.busSteps .start labels).countP BusStep.isGaveUp =
          calls.countP BusCall.gaveUp ∧
        (∀ call ∈ calls, call.frames ≠ [] ∧
          call.frames <+: messageFrames call.env udsRequestCanId call.request) ∧
        ∀ call ∈ calls.dropLast, call.gaveUp = false →
          call.frames = messageFrames call.env udsRequestCanId call.request := by
  rcases (exists_calls runEq).2 with ⟨calls, onBus⟩
  exact ⟨calls, onBus.busFrames_eq, onBus.requests, onBus.gaveUps, onBus.begun,
    onBus.current.earlier_settled⟩

/-- The call of this run has passed both its frames to `write`, or is about to. -/
theorem calls_on_bus_answered :
    ∃ final, gatewaySystem.run .start answeredLabels = some final ∧
      ∃ calls : List BusCall,
        (busFrames (gatewaySystem.record Gateway.busSteps .start answeredLabels)).filter
            (fun frame => frame.pciType ≠ 3) = calls.flatMap BusCall.frames ∧
          (∀ call ∈ calls, call.frames ≠ [] ∧
            call.frames <+: messageFrames call.env udsRequestCanId call.request) := by
  have ends : (gatewaySystem.run .start answeredLabels).isSome := by decide
  rcases Option.isSome_iff_exists.mp ends with ⟨final, runEq⟩
  rcases calls_on_bus runEq with ⟨calls, framesEq, _, _, begun, _⟩
  exact ⟨final, runEq, calls, framesEq, begun⟩

end Synapse
