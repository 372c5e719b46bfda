import Mathlib.Data.List.Forall2
import Synapse.Gateway.Reception

/-!
# What the tester makes of its stream

The tester cuts its stream into messages and looks at the payloads of the diagnostic ones.
This file gives these payloads for every run of the gateway: they are those of the
responses which the receiver returns, in order, whatever the main thread writes between
them and wherever its writes are cut. Since a response which starts with no response
service identifier gets a prefix byte, two responses can look the same to the tester,
and it is said which ones do.
-/

namespace Synapse

open LockedStream

/-- The payloads of the whole diagnostic messages in a stream. -/
def testerPayloads (stream : List UInt8) : List (List UInt8) :=
  ((doipFraming.parse stream).1.filter
    fun message : DoIPMessage => message.payloadType = diagnosticMessageType).map
      DoIPMessage.udsData

/-- The responses which a receiver returns on the reads of a session; empty ones are no answers. -/
def Gateway.responses (gateway : Gateway) : List (List UInt8) :=
  (receiveAll (gateway.forwarderInputs.map (·.read))).filter (· ≠ [])

/-! ## Responses are short enough for the length field -/

theorem Reassembly.length_response_le {state : Reassembly} {reads rest : List CanRead}
    {response : List UInt8} (bounded : state.Bounded)
    (receives : state.receive reads = .returned response rest) : response.length ≤ 4095 := by
  induction reads generalizing state with
  | nil =>
      cases state with
      | reading frame => simp [Reassembly.receive] at receives
      | returned other =>
          simp only [receive_returned, Received.returned.injEq] at receives
          rw [← receives.1]
          exact bounded
      | outOfBounds => simp at receives
  | cons read reads ih =>
      cases state with
      | reading frame => exact ih (MultiFrame.onRead_bounded read bounded) receives
      | returned other =>
          simp only [receive_returned, Received.returned.injEq] at receives
          rw [← receives.1]
          exact bounded
      | outOfBounds => simp at receives

theorem length_isotpReceive_le {reads rest : List CanRead} {response : List UInt8}
    (receives : isotpReceive reads = .returned response rest) : response.length ≤ 4095 := by
  have returnsNothing : ∀ {other : List UInt8} {others : List CanRead},
      Received.returned [] others = .returned other rest → other.length ≤ 4095 := by
    intro other others same
    rw [← (Received.returned.inj same).1]
    exact Nat.zero_le _
  cases reads with
  | nil => simp [isotpReceive] at receives
  | cons read reads =>
      cases read with
      | failed => exact returnsNothing receives
      | frame rxFrame =>
          simp only [isotpReceive] at receives
          split at receives
          · split at receives
            · simp at receives
            next handled =>
              rw [← (Received.returned.inj receives).1]
              exact length_isotpHandleSingleFrame handled
          · split at receives
            · exact Reassembly.length_response_le (MultiFrame.start_bounded _) receives
            · exact returnsNothing receives

theorem length_receiveAll_le (reads : List CanRead) :
    ∀ response ∈ receiveAll reads, response.length ≤ 4095 := by
  intro response responseMem
  cases receives : isotpReceive reads with
  | returned first rest =>
      rw [receiveAll_of_returned receives] at responseMem
      rcases List.mem_cons.mp responseMem with rfl | later
      · exact length_isotpReceive_le receives
      · exact length_receiveAll_le rest response later
  | blocked =>
      rw [receiveAll_of_not_returned (by simp [receives])] at responseMem
      simp at responseMem
  | outOfBounds =>
      rw [receiveAll_of_not_returned (by simp [receives])] at responseMem
      simp at responseMem
termination_by reads.length
decreasing_by exact length_rest_lt receives

theorem Gateway.mem_responses {gateway : Gateway} {response : List UInt8}
    (responseMem : response ∈ gateway.responses) :
    response ≠ [] ∧ response.length ≤ 4095 := by
  rw [responses, List.mem_filter] at responseMem
  exact ⟨by simpa using responseMem.2, length_receiveAll_le _ _ responseMem.1⟩

/-! ## The messages of the two threads -/

theorem header_eq_take (message : DoIPMessage) :
    message.header = message.bytes.take DoIPHeader.size := by
  exact (List.take_left' message.header_length).symm

/-- What the main thread writes is no diagnostic message. -/
theorem payloadType_of_answer {message request : DoIPMessage}
    (isAnswer : message.bytes ∈ answers request) :
    message.payloadType ≠ diagnosticMessageType := by
  rw [answers] at isAnswer
  rw [DoIPMessage.payloadType, header_eq_take]
  split at isAnswer
  · rw [List.mem_singleton.mp isAnswer]
    decide
  · split at isAnswer
    · rw [List.mem_singleton.mp isAnswer]
      decide
    · simp at isAnswer

theorem message_of_forwarded {message : DoIPMessage} {response : List UInt8}
    (fits : response.length ≤ 4095) (bytesEq : message.bytes = forwardedMessage response) :
    message.payloadType = diagnosticMessageType ∧
      message.udsData = finalUdsPayload response := by
  rcases exists_forwardedMessage fits with ⟨forwarded, forwardedEq, typeEq, dataEq⟩
  have same : message = forwarded := by
    apply Framing.Frame.bytes_injective
    rw [bytesEq, forwardedEq]
  rw [same]
  exact ⟨typeEq, dataEq⟩

/-- Among messages of both threads the diagnostic ones are those of the forwarder. -/
theorem payloads_of_sent {sent : List (GatewayThread × DoIPMessage)}
    {responses : List (List UInt8)}
    (fromMain : ∀ entry ∈ sent, entry.1 = .main → entry.2.payloadType ≠ diagnosticMessageType)
    (fits : ∀ response ∈ responses, response.length ≤ 4095)
    (forwarded : (sent.filter fun entry => entry.1 = .forwarder).map
      (fun entry => entry.2.bytes) = responses.map forwardedMessage) :
    ((sent.map Prod.snd).filter fun message : DoIPMessage =>
        message.payloadType = diagnosticMessageType).map DoIPMessage.udsData =
      responses.map finalUdsPayload := by
  induction sent generalizing responses with
  | nil =>
      have none_ : responses = [] := by simpa using forwarded.symm
      rw [none_]
      rfl
  | cons entry sent ih =>
      rcases List.forall_mem_cons.mp fromMain with ⟨entryOther, othersOther⟩
      rcases entry with ⟨thread, message⟩
      cases thread with
      | main =>
          have other := entryOther rfl
          rw [List.map_cons, List.filter_cons_of_neg (by simpa using other)]
          apply ih othersOther fits
          rwa [List.filter_cons_of_neg (by simp)] at forwarded
      | forwarder =>
          rw [List.filter_cons_of_pos (by simp), List.map_cons] at forwarded
          cases responses with
          | nil => simp at forwarded
          | cons response responses =>
              rcases List.forall_mem_cons.mp fits with ⟨responseFits, othersFit⟩
              rw [List.map_cons, List.cons.injEq] at forwarded
              rcases message_of_forwarded responseFits forwarded.1 with ⟨typeEq, dataEq⟩
              rw [List.map_cons, List.filter_cons_of_pos (by simpa using typeEq), List.map_cons,
                List.map_cons, ih othersOther othersFit forwarded.2, dataEq]

/-- Whole messages and a part of one more: the tester gets the whole ones. -/
theorem Whole.testerPayloads_eq {gateway : Gateway} (whole : Whole gateway)
    {responses : List (List UInt8)} (fits : ∀ response ∈ responses, response.length ≤ 4095)
    (forwarded : gateway.tester.sentBy .forwarder = responses.map forwardedMessage) :
    testerPayloads gateway.tester.stream = responses.map finalUdsPayload := by
  rcases exists_messages whole.isMessage_of_sent with ⟨sent, sentEq⟩
  have streamEq : gateway.tester.stream =
      (sent.map Prod.snd).flatMap Framing.Frame.bytes ++ gateway.tester.torn := by
    rw [whole.sound.stream_eq, sentEq, List.map_map, List.flatMap_map, List.flatMap_def]
    rfl
  rw [testerPayloads, streamEq, Framing.parse_flatMap_append _ whole.not_complete_torn]
  apply payloads_of_sent
  · intro entry entryMem mainEq
    have builtMem : entry.2.bytes ∈ gateway.built .main := by
      rw [← whole.accounted, List.mem_append]
      left
      simp only [State.sentBy, sentEq, List.mem_map, List.mem_filter]
      exact ⟨(entry.1, entry.2.bytes), ⟨⟨entry, entryMem, rfl⟩, by simp [mainEq]⟩, rfl⟩
    rcases List.mem_flatMap.mp builtMem with ⟨request, _, isAnswer⟩
    exact payloadType_of_answer isAnswer
  · exact fits
  · rw [← forwarded, State.sentBy, sentEq, List.filter_map, List.map_map]
    rfl

/-! ## What the tester gets -/

/-- A forwarder which is done in a session live up to now has brought every response. -/
theorem Whole.testerPayloads_of_live {gateway : Gateway} (whole : Whole gateway)
    (live : ∀ input ∈ gateway.forwarderInputs, input = .live input.read true)
    (idle : gateway.tester.todo .forwarder = []) :
    testerPayloads gateway.tester.stream = gateway.responses.map finalUdsPayload := by
  have nothing : gateway.tester.pending .forwarder = [] := by
    rw [State.pending, idle]
    rfl
  have sentEq := (forwarder_writes_received whole).2 live
  rw [nothing, List.append_nil] at sentEq
  apply whole.testerPayloads_eq
  · exact fun response responseMem => (Gateway.mem_responses responseMem).2
  · exact sentEq

/-- In every state of every run, the payloads which the tester has got in diagnostic messages are
those of the first responses which the receiver has returned on the reads of the session, in
order; in a session which is live up to now and whose forwarder has nothing left to write they
are those of all responses. -/
theorem tester_reads_responses {gateway : Gateway}
    (reached : gatewaySystem.Reachable TransitionSystem.anyStep gateway) :
    testerPayloads gateway.tester.stream <+: gateway.responses.map finalUdsPayload ∧
      ((∀ input ∈ gateway.forwarderInputs, input = .live input.read true) →
        gateway.tester.todo .forwarder = [] →
          testerPayloads gateway.tester.stream = gateway.responses.map finalUdsPayload) := by
  have whole := whole_of_reachable reached
  constructor
  · have sentPrefix : gateway.tester.sentBy .forwarder <+:
        gateway.responses.map forwardedMessage :=
      (List.prefix_append _ _).trans (forwarder_writes_received whole).1
    rw [List.prefix_iff_eq_take, ← List.map_take] at sentPrefix
    rw [whole.testerPayloads_eq _ sentPrefix, List.map_take]
    · exact List.take_prefix _ _
    · intro response responseMem
      exact (Gateway.mem_responses (List.mem_of_mem_take responseMem)).2
  · intro live idle
    exact whole.testerPayloads_of_live live idle

/-- In this run the response which the forwarder has read is written behind a message of the main
thread, and the tester gets it. -/
theorem tester_reads_responses_overlapping :
    ∃ gateway, gatewaySystem.Reachable TransitionSystem.anyStep gateway ∧
      gateway.tester.stream = routingActivationResponse ++ forwardedMessage [0x50, 0x03] ∧
      testerPayloads gateway.tester.stream <+: gateway.responses.map finalUdsPayload := by
  have ends : (gatewaySystem.run .start overlappingLabels).map
      (fun gateway => gateway.tester.stream) =
        some (routingActivationResponse ++ forwardedMessage [0x50, 0x03]) := by
    decide
  rcases Option.map_eq_some_iff.mp ends with ⟨gateway, runEq, streamEq⟩
  have allowed := gatewaySystem.allowedRun_anyStep .start overlappingLabels
  have reached := TransitionSystem.Reachable.initial.run allowed runEq
  exact ⟨gateway, reached, streamEq, (tester_reads_responses reached).1⟩

/-! ## What the tester cannot tell apart -/

/-- The first byte of a response is a response service identifier. -/
def StartsWithResponseSid : List UInt8 → Prop
  | [] => False
  | firstByte :: _ => 0x40 ≤ firstByte ∧ firstByte ≤ 0x7F

/-- Two responses which reach the tester in the same way: one is the other behind the prefix
byte, which is a response service identifier itself. -/
def LooksLike (first second : List UInt8) : Prop :=
  first = second ∨ (¬StartsWithResponseSid first ∧ second = 0x62 :: first) ∨
    (¬StartsWithResponseSid second ∧ first = 0x62 :: second)

theorem finalUdsPayload_of_nonempty {response : List UInt8} (nonempty : response ≠ []) :
    (StartsWithResponseSid response ∧ finalUdsPayload response = response) ∨
      (¬StartsWithResponseSid response ∧ finalUdsPayload response = 0x62 :: response) := by
  rcases List.exists_cons_of_ne_nil nonempty with ⟨firstByte, rest, rfl⟩
  rcases finalUdsPayload_cons firstByte rest with ⟨atLeast, atMost, eq⟩ | ⟨outside, eq⟩
  · exact Or.inl ⟨⟨atLeast, atMost⟩, eq⟩
  · exact Or.inr ⟨outside, eq⟩

theorem startsWithResponseSid_prefixed (response : List UInt8) :
    StartsWithResponseSid (0x62 :: response) := by
  change (0x40 : UInt8) ≤ 0x62 ∧ (0x62 : UInt8) ≤ 0x7F
  decide

theorem finalUdsPayload_eq_iff {first second : List UInt8} (firstNe : first ≠ [])
    (secondNe : second ≠ []) :
    finalUdsPayload first = finalUdsPayload second ↔ LooksLike first second := by
  rcases finalUdsPayload_of_nonempty firstNe with ⟨firstSid, firstEq⟩ | ⟨firstOther, firstEq⟩
  · rcases finalUdsPayload_of_nonempty secondNe with ⟨secondSid, secondEq⟩ |
      ⟨secondOther, secondEq⟩
    · rw [firstEq, secondEq]
      constructor
      · exact fun same => Or.inl same
      · rintro (same | ⟨firstOther, _⟩ | ⟨secondOther, _⟩)
        · exact same
        · exact absurd firstSid firstOther
        · exact absurd secondSid secondOther
    · rw [firstEq, secondEq]
      constructor
      · exact fun same => Or.inr (Or.inr ⟨secondOther, same⟩)
      · rintro (same | ⟨firstOther, _⟩ | ⟨_, same⟩)
        · exact absurd (same ▸ firstSid) secondOther
        · exact absurd firstSid firstOther
        · exact same
  · rcases finalUdsPayload_of_nonempty secondNe with ⟨secondSid, secondEq⟩ |
      ⟨secondOther, secondEq⟩
    · rw [firstEq, secondEq]
      constructor
      · exact fun same => Or.inr (Or.inl ⟨firstOther, same.symm⟩)
      · rintro (same | ⟨_, same⟩ | ⟨secondOther, _⟩)
        · exact absurd (same ▸ secondSid) firstOther
        · exact same.symm
        · exact absurd secondSid secondOther
    · rw [firstEq, secondEq, List.cons.injEq]
      constructor
      · exact fun same => Or.inl same.2
      · rintro (same | ⟨_, same⟩ | ⟨_, same⟩)
        · exact ⟨rfl, same⟩
        · exact absurd (same ▸ startsWithResponseSid_prefixed first) secondOther
        · exact absurd (same ▸ startsWithResponseSid_prefixed second) firstOther

theorem map_finalUdsPayload_eq_iff {first second : List (List UInt8)}
    (firstNe : ∀ response ∈ first, response ≠ []) (secondNe : ∀ response ∈ second, response ≠ []) :
    first.map finalUdsPayload = second.map finalUdsPayload ↔
      List.Forall₂ LooksLike first second := by
  induction first generalizing second with
  | nil => simp [eq_comm]
  | cons response first ih =>
      rcases List.forall_mem_cons.mp firstNe with ⟨responseNe, firstNe⟩
      cases second with
      | nil => simp
      | cons other second =>
          rcases List.forall_mem_cons.mp secondNe with ⟨otherNe, secondNe⟩
          rw [List.map_cons, List.map_cons, List.cons.injEq, List.forall₂_cons,
            finalUdsPayload_eq_iff responseNe otherNe, ih firstNe secondNe]

/-- Two sessions which are live up to now and whose forwarders are done show the tester the same
payloads exactly if their responses are the same one by one, up to a prefix byte which the
controller may as well have sent itself. -/
theorem tester_tells_apart_iff {gateway other : Gateway}
    (reached : gatewaySystem.Reachable TransitionSystem.anyStep gateway)
    (otherReached : gatewaySystem.Reachable TransitionSystem.anyStep other)
    (live : ∀ input ∈ gateway.forwarderInputs, input = .live input.read true)
    (otherLive : ∀ input ∈ other.forwarderInputs, input = .live input.read true)
    (idle : gateway.tester.todo .forwarder = []) (otherIdle : other.tester.todo .forwarder = []) :
    testerPayloads gateway.tester.stream = testerPayloads other.tester.stream ↔
      List.Forall₂ LooksLike gateway.responses other.responses := by
  rw [(whole_of_reachable reached).testerPayloads_of_live live idle,
    (whole_of_reachable otherReached).testerPayloads_of_live otherLive otherIdle]
  apply map_finalUdsPayload_eq_iff
  · exact fun response responseMem => (Gateway.mem_responses responseMem).1
  · exact fun response responseMem => (Gateway.mem_responses responseMem).1

/-- The forwarder reads a Single Frame and writes what it holds. -/
def responseLabels (frame : ReceivedFrame) : List GatewayLabel :=
  [.canRead (.frame frame) true, .exec .forwarder 0, .exec .forwarder 14, .exec .forwarder 0]

/-- The tester gets the same bytes for the response of one byte `0x10` and for the one which has
the prefix byte before it. -/
theorem tester_tells_apart_iff_prefixed :
    ∃ gateway other, gatewaySystem.Reachable TransitionSystem.anyStep gateway ∧
      gatewaySystem.Reachable TransitionSystem.anyStep other ∧
      gateway.forwarderInputs.map (·.read) ≠ other.forwarderInputs.map (·.read) ∧
      List.Forall₂ LooksLike gateway.responses other.responses := by
  have ends : ∀ frame : ReceivedFrame,
      frame = .full #v[1, 0x10, 0, 0, 0, 0, 0, 0] ∨ frame = .full #v[2, 0x62, 0x10, 0, 0, 0, 0, 0] →
        (gatewaySystem.run .start (responseLabels frame)).map (fun gateway =>
          (gateway.tester.stream, (gateway.tester.todo .forwarder).length,
            gateway.forwarderInputs.map fun input => (input.read, input.sessionActive,
              input.clientWriteOk))) =
          some (diagnosticMessage [0x62, 0x10], 0, [(.frame frame, true, true)]) := by
    rintro frame (rfl | rfl) <;> decide
  have live : ∀ {inputs : List ForwarderInput} {frame : ReceivedFrame},
      (inputs.map fun input => (input.read, input.sessionActive, input.clientWriteOk)) =
          [(.frame frame, true, true)] →
        ∀ input ∈ inputs, input = .live input.read true := by
    intro inputs frame flags input inputMem
    have entry : (input.read, input.sessionActive, input.clientWriteOk) ∈ inputs.map
        fun input => (input.read, input.sessionActive, input.clientWriteOk) :=
      List.mem_map_of_mem inputMem
    rw [flags, List.mem_singleton, Prod.mk.injEq, Prod.mk.injEq] at entry
    rcases input with ⟨read, sessionActive, clientWriteOk⟩
    rw [ForwarderInput.live, ForwarderInput.mk.injEq]
    exact ⟨rfl, entry.2⟩
  rcases Option.map_eq_some_iff.mp (ends _ (Or.inl rfl)) with ⟨gateway, runEq, endEq⟩
  rcases Option.map_eq_some_iff.mp (ends _ (Or.inr rfl)) with ⟨other, otherRunEq, otherEndEq⟩
  simp only [Prod.mk.injEq, List.length_eq_zero_iff] at endEq otherEndEq
  have reached := TransitionSystem.Reachable.initial.run
    (gatewaySystem.allowedRun_anyStep .start _) runEq
  have otherReached := TransitionSystem.Reachable.initial.run
    (gatewaySystem.allowedRun_anyStep .start _) otherRunEq
  refine ⟨gateway, other, reached, otherReached, ?_, ?_⟩
  · intro same
    have reads := congrArg (List.map Prod.fst) endEq.2.2
    have otherReads := congrArg (List.map Prod.fst) otherEndEq.2.2
    rw [List.map_map] at reads otherReads
    have both := reads.symm.trans (same.trans otherReads)
    revert both
    decide
  · apply (tester_tells_apart_iff reached otherReached (live endEq.2.2) (live otherEndEq.2.2)
      endEq.2.1 otherEndEq.2.1).mp
    rw [endEq.1, otherEndEq.1]

end Synapse
