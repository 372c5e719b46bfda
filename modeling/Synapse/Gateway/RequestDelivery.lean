import Synapse.IsoTp.RoundTrip
import Synapse.Gateway.Acknowledgement
import Synapse.Gateway.Reception
import Synapse.Gateway.RequestFrames

/-!
# Requests reach the controller

A diagnostic message of the tester becomes a call of `isotp_send`, the call becomes frames
on the bus, and the controller puts the frames together again. This file joins the three
for a whole session: if every request has a length which a First Frame or Single Frame
can announce, no call gives up and no frame is refused, the controller gets the
requests of the tester, each once and in order, whatever the forwarder does on the bus in
the meantime. The controller is taken to tell flow-control frames from the others, and to
receive like the gateway itself.
-/

namespace Synapse

open LockedStream

/-! ## The calls of a session -/

/-- A request with at least one byte is called for; only a payload which is too short for its
addresses leads to no call. -/
theorem handleMessage_calls_nonempty {sessionActive : Bool} {message : DoIPMessage}
    (nonempty : ∀ request ∈ (diagnosticRequest? message).toList, request ≠ []) :
    sendRequests (handleMessage sessionActive message).2 =
      (diagnosticRequest? message).toList := by
  rcases handleMessage_sendRequests sessionActive message with same | ⟨ended, silent⟩
  · exact same
  · have short : message.payloadType = diagnosticMessageType ∧ message.payload.length < 4 := by
      rw [handleMessage] at ended
      split at ended
      · cases sessionActive <;> simp [sessionLoopHead, leaveSession] at ended
      · split at ended
        · cases sessionActive <;> simp [sessionLoopHead, leaveSession] at ended
        next diagnostic =>
          split at ended
          next short => exact ⟨by simpa using diagnostic, short⟩
          next => cases sessionActive <;> simp [sessionLoopHead, leaveSession] at ended
    rw [diagnosticRequest?, if_pos short.1] at nonempty
    have noRequest : message.udsData = [] := by
      rw [DoIPMessage.udsData, List.drop_eq_nil_iff]
      omega
    exact absurd noRequest (nonempty _ (by simp))

theorem sendRequests_output_nonempty {pc : SessionPc} {inputs : List SessionInput}
    (nonempty : ∀ request ∈ diagnosticRequests
      (recognisedMessages (handleDoipSession.output pc inputs)), request ≠ []) :
    sendRequests (handleDoipSession.output pc inputs) =
      diagnosticRequests (recognisedMessages (handleDoipSession.output pc inputs)) := by
  induction inputs generalizing pc with
  | nil => rfl
  | cons input inputs ih =>
      rw [Transducer.output_cons, recognisedMessages, List.filterMap_append,
        diagnosticRequests, List.filterMap_append] at nonempty ⊢
      rw [sendRequests, List.filterMap_append]
      rw [List.forall_mem_append] at nonempty
      have later := ih nonempty.2
      have now : sendRequests (sessionStep pc input).2 =
          diagnosticRequests (recognisedMessages (sessionStep pc input).2) := by
        have here := nonempty.1
        change ∀ request ∈ diagnosticRequests (recognisedMessages (sessionStep pc input).2), _
          at here
        rcases sessionStep_cases pc input with emits | emits | ⟨message, emits⟩
        · rw [emits]
          rfl
        · rw [emits]
          rfl
        · have noMessage := (handleMessage_answers input.sessionActive message).2
          have messagesEq : recognisedMessages (sessionStep pc input).2 = [message] := by
            rw [emits]
            change message :: recognisedMessages (handleMessage input.sessionActive message).2 = _
            rw [noMessage]
          have requestsEq : diagnosticRequests [message] =
              (diagnosticRequest? message).toList := by
            rw [diagnosticRequests_cons]
            exact List.append_nil _
          rw [messagesEq, requestsEq] at here ⊢
          rw [emits]
          exact handleMessage_calls_nonempty here
      exact congrArg₂ (· ++ ·) now later

/-- The calls made and those to be made are for what the session thread has recognised. -/
theorem calls_of_run {labels : List GatewayLabel} {final : Gateway}
    (inSession : ∀ label ∈ labels, label ≠ .nextSession)
    (runEq : gatewaySystem.run .start labels = some final) :
    gatewaySystem.record Gateway.newCalls .start labels ++
        sendRequests (final.tester.todo .main) =
      sendRequests (handleDoipSession.output .header final.mainInputs) := by
  have allowed : gatewaySystem.AllowedRun (fun _ label => label ≠ .nextSession) .start labels :=
    (TransitionSystem.allowedRun_iff_forall runEq).mpr inSession
  have initially : Whole Gateway.start ∧
      ([] : List (List UInt8)) ++ sendRequests (Gateway.start.tester.todo .main) =
        sendRequests (handleDoipSession.output .header Gateway.start.mainInputs) :=
    ⟨whole_start, rfl⟩
  have related := TransitionSystem.record_invariant Gateway.newCalls
    (fun calls gateway => Whole gateway ∧
      calls ++ sendRequests (gateway.tester.todo .main) =
        sendRequests (handleDoipSession.output .header gateway.mainInputs))
    (by
      rintro calls gateway label next ⟨whole, requested⟩ isAllowed stepEq
      refine ⟨whole_step whole stepEq, ?_⟩
      have before : CallsRequested { Exchange.ofGateway gateway with calls := calls } := requested
      have observed := before.gateway whole stepEq
      rw [observe_of_inSession isAllowed] at observed
      exact observed)
    initially allowed runEq
  exact related.2

theorem busSteps_calls (gateway : Gateway) (label : GatewayLabel) :
    (gateway.busSteps label).filterMap BusStep.call? = gateway.newCalls label := by
  have waits : ∀ queued, (gateway.waitSteps queued).filterMap BusStep.call? = [] := by
    intro queued
    rw [Gateway.waitSteps]
    split
    · split <;> rfl
    · rfl
  cases label with
  | exec thread count =>
      cases thread with
      | main =>
          rw [Gateway.busSteps, Gateway.newCalls]
          cases gateway.nextEffect? .main with
          | none => rfl
          | some effect =>
              cases effect with
              | isotp event => cases event <;> rfl
              | _ => rfl
      | forwarder =>
          rw [Gateway.busSteps, newCalls_of_not_exec (by simp)]
          split <;> rfl
  | sendFirst env =>
      rw [Gateway.busSteps, newCalls_of_not_exec (by simp)]
      split
      · split <;> rfl
      · rfl
  | takeFlowControl => exact waits _
  | flowControlTimeout => exact waits _
  | _ => rfl

/-! ## The frames of whole calls -/

/-- A receiver which reads whole messages one behind the other returns them one by one. -/
theorem receiveAll_segmentations {messages : List (List UInt8 × List ReceivedFrame)}
    (segmented : ∀ message ∈ messages, Segmentation message.1 message.2) :
    receiveAll ((messages.flatMap Prod.snd).map CanRead.frame) = messages.map Prod.fst := by
  induction messages with
  | nil => exact receiveAll_of_not_returned (by simp [isotpReceive])
  | cons message messages ih =>
      rcases List.forall_mem_cons.mp segmented with ⟨first, later⟩
      rw [List.flatMap_cons, List.map_append,
        receiveAll_of_returned (isotpReceive_of_segmentation first _), ih later]
      rfl

theorem exists_received {calls : List BusCall}
    (fits : ∀ call ∈ calls, 1 ≤ call.request.length ∧ call.request.length ≤ 4095)
    (whole : ∀ call ∈ calls, call.frames = call.message) :
    ∃ messages : List (List UInt8 × List ReceivedFrame),
      messages.map Prod.fst = calls.map BusCall.request ∧
        (messages.flatMap Prod.snd).map ReceivedFrame.toCanFrame = calls.flatMap BusCall.frames ∧
        ∀ message ∈ messages, Segmentation message.1 message.2 := by
  induction calls with
  | nil => exact ⟨[], rfl, rfl, by simp⟩
  | cons call calls ih =>
      rcases List.forall_mem_cons.mp fits with ⟨callFits, callsFit⟩
      rcases List.forall_mem_cons.mp whole with ⟨callWhole, callsWhole⟩
      rcases ih callsFit callsWhole with ⟨messages, requestsEq, framesEq, segmented⟩
      rcases messageFrames_segmentation call.env udsRequestCanId callFits.1 callFits.2 with
        ⟨received, receivedEq, segmentation⟩
      refine ⟨(call.request, received) :: messages, ?_, ?_, ?_⟩
      · rw [List.map_cons, requestsEq, List.map_cons]
      · rw [List.flatMap_cons, List.map_append, framesEq, List.flatMap_cons, callWhole,
          BusCall.message, ← receivedEq]
      · exact List.forall_mem_cons.mpr ⟨segmentation, segmented⟩

/-- At the end of every run within a session in which every request has one to 4095 bytes, no call
has given up and no frame was refused, and when the main thread is between two messages, a
controller which reads the frames that are not of the flow-control type has received the requests
in the diagnostic messages of the tester, each once and in order. A longer request is announced with
another length, and an empty one with a length which no receiver accepts. -/
theorem requests_reach_controller {labels : List GatewayLabel} {final : Gateway}
    (runEq : gatewaySystem.run .start labels = some final)
    (inSession : ∀ label ∈ labels, label ≠ .nextSession)
    (ok : ∀ step ∈ gatewaySystem.record Gateway.busSteps .start labels, step.isOk)
    (idle : final.tester.todo .main = []) (notSending : final.sending = .idle)
    (fits : ∀ request ∈ diagnosticRequests final.requests,
      1 ≤ request.length ∧ request.length ≤ 4095) :
    ∃ received : List ReceivedFrame,
      received.map ReceivedFrame.toCanFrame =
          (busFrames (gatewaySystem.record Gateway.busSteps .start labels)).filter
            (fun frame => frame.pciType ≠ 3) ∧
        receiveAll (received.map CanRead.frame) = diagnosticRequests final.requests := by
  rcases (exists_calls runEq).2 with ⟨calls, onBus⟩
  have requestsEq : calls.map BusCall.request = diagnosticRequests final.requests := by
    have called := onBus.requests
    rw [notSending, TransitionSystem.record_filterMap busSteps_calls] at called
    change _ = _ ++ [] at called
    rw [List.append_nil] at called
    have session := calls_of_run inSession runEq
    rw [idle] at session
    change _ ++ [] = _ at session
    rw [List.append_nil, called] at session
    rw [session]
    apply sendRequests_output_nonempty
    intro request requestMem
    apply List.ne_nil_of_length_pos
    exact (fits request requestMem).1
  have none_ : ∀ call ∈ calls, call.gaveUp = false := by
    have steps : (gatewaySystem.record Gateway.busSteps .start labels).countP
        BusStep.isGaveUp = 0 := by
      rw [List.countP_eq_zero]
      intro step stepMem
      have fine := ok step stepMem
      cases step with
      | gaveUp => simp [BusStep.isOk] at fine
      | _ => simp [BusStep.isGaveUp]
    rw [onBus.gaveUps, List.countP_eq_zero] at steps
    intro call callMem
    simpa using steps call callMem
  have settled := onBus.current.allSettled_of_idle
    (by rw [idle]; rfl) (by simp [notSending])
  rcases exists_received
      (fun call callMem => fits _ (requestsEq ▸ List.mem_map_of_mem callMem))
      (fun call callMem => settled call callMem (none_ call callMem)) with
    ⟨messages, messagesEq, framesEq, segmented⟩
  refine ⟨messages.flatMap Prod.snd, ?_, ?_⟩
  · rw [framesEq, onBus.busFrames_eq]
  · rw [receiveAll_segmentations segmented, messagesEq, requestsEq]

def SendingPc.isIdle : SendingPc → Bool
  | .idle => true
  | _ => false

/-- The tester asks with a request of eight bytes, the controller grants the second frame, and the
main thread writes it. -/
def deliveredLabels : List GatewayLabel :=
  answeredLabels ++ [.exec .main 0]

/-- The controller has got the request of this run. -/
theorem requests_reach_controller_answered :
    ∃ final, gatewaySystem.run .start deliveredLabels = some final ∧
      ∃ received : List ReceivedFrame,
        received.map ReceivedFrame.toCanFrame =
            (busFrames (gatewaySystem.record Gateway.busSteps .start deliveredLabels)).filter
              (fun frame => frame.pciType ≠ 3) ∧
          receiveAll (received.map CanRead.frame) = [[0x2E, 0xF1, 0x90, 1, 2, 3, 4, 5]] := by
  have ends : (gatewaySystem.run .start deliveredLabels).map (fun final =>
      ((final.tester.todo .main).length, final.sending.isIdle,
        diagnosticRequests final.requests)) =
      some (0, true, [[0x2E, 0xF1, 0x90, 1, 2, 3, 4, 5]]) := by
    decide
  rcases Option.map_eq_some_iff.mp ends with ⟨final, runEq, endEq⟩
  simp only [Prod.mk.injEq, List.length_eq_zero_iff] at endEq
  rcases endEq with ⟨idle, notSending, requestsEq⟩
  have sendingEq : final.sending = .idle := by
    cases sending : final.sending with
    | idle => rfl
    | _ => simp [sending, SendingPc.isIdle] at notSending
  have ok : (gatewaySystem.record Gateway.busSteps .start deliveredLabels).all
      BusStep.isOk := by
    decide
  refine ⟨final, runEq, ?_⟩
  rw [← requestsEq]
  apply requests_reach_controller runEq
  · simp [deliveredLabels, answeredLabels, requestLabels, flowControlLabels]
  · exact List.all_eq_true.mp ok
  · exact idle
  · exact sendingEq
  · rw [requestsEq]
    simp

end Synapse
