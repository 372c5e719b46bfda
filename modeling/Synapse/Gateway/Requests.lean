import Synapse.Gateway.Chunking

/-!
# Requests and reactions

What the tester sees of a session are the responses to its messages and
the requests which reach the controller. This file shows that a session reacts to
each complete message of its stream once and in order, whatever pieces the
payloads arrive in. The truncated message at the end of a stream is no exception
as long as its header arrives whole; read in parts, it may hide a complete
request which the session then takes for one of the tester.
-/

namespace Synapse

/-- A diagnostic message has room for its two addresses. -/
def Addressed (message : DoIPMessage) : Prop :=
  message.payloadType = diagnosticMessageType → 4 ≤ message.payload.length

/-- What a session is to do about a message. -/
def reactions (message : DoIPMessage) : List GatewayAction :=
  if message.payloadType = routingActivationRequestType then writeLocked routingActivationResponse
  else if message.payloadType = diagnosticMessageType then
    writeLocked positiveAck ++ [.other (.isotpSend message.udsData)]
  else []

def isReaction : GatewayAction → Bool
  | .other (.recognised _) => false
  | .other .endSession => false
  | _ => true

def sessionTrace (actions : List GatewayAction) : List GatewayAction :=
  actions.filter isReaction

@[simp]
theorem sessionTrace_append (first second : List GatewayAction) :
    sessionTrace (first ++ second) = sessionTrace first ++ sessionTrace second :=
  List.filter_append ..

def IsRequest (message : DoIPMessage) : Prop :=
  message.payloadType = routingActivationRequestType ∨
    message.payloadType = diagnosticMessageType

/-- How a connection ends: it stays open, or a read finds it closed. -/
def IsEnding (chunks : List (List UInt8)) : Prop :=
  chunks = [] ∨ chunks = [[]]

/-! ## One message -/

theorem handleMessage_of_addressed {message : DoIPMessage} (addressed : Addressed message) :
    handleMessage true message = (.header, reactions message) := by
  rw [handleMessage, reactions]
  by_cases activation : message.payloadType = routingActivationRequestType
  · rw [if_pos activation, if_pos activation]
    rfl
  · rw [if_neg activation, if_neg activation]
    by_cases diagnostic : message.payloadType = diagnosticMessageType
    · have long := addressed diagnostic
      rw [if_neg (by simpa using diagnostic), if_neg (by omega), if_pos diagnostic]
      rfl
    · rw [if_pos diagnostic, if_neg diagnostic]
      rfl

theorem sessionTrace_recognise {message : DoIPMessage} (addressed : Addressed message) :
    sessionTrace (recognise message) = reactions message := by
  rw [recognise, handleMessage_of_addressed addressed, reactions]
  split
  · rfl
  · split <;> rfl

/-- A message is visible exactly if it asks for a reaction. -/
theorem sessionTrace_recognise_eq_nil_iff (message : DoIPMessage) :
    sessionTrace (recognise message) = [] ↔ ¬IsRequest message := by
  rw [recognise, handleMessage, IsRequest]
  by_cases activation : message.payloadType = routingActivationRequestType
  · rw [if_pos activation]
    simp [activation, sessionTrace, isReaction, sessionLoopHead, writeLocked]
  · rw [if_neg activation]
    by_cases diagnostic : message.payloadType = diagnosticMessageType
    · rw [if_neg (by simpa using diagnostic)]
      split <;> simp [diagnostic, sessionTrace, isReaction, sessionLoopHead, writeLocked]
    · rw [if_pos diagnostic]
      simp [activation, diagnostic, sessionTrace, isReaction, sessionLoopHead]

theorem sessionTrace_recognised_eq_nil {messages : List DoIPMessage}
    (noRequest : ∀ message ∈ messages, ¬IsRequest message) :
    sessionTrace (messages.flatMap recognise) = [] := by
  induction messages with
  | nil => rfl
  | cons message messages ih =>
      rcases List.forall_mem_cons.mp noRequest with ⟨notRequest, othersNot⟩
      have now := (sessionTrace_recognise_eq_nil_iff message).mpr notRequest
      rw [List.flatMap_cons, sessionTrace_append, now, ih othersNot]
      rfl

/-! ## Whole messages and what follows them -/

theorem exists_messagesChunks (messages : List DoIPMessage) :
    ∃ messageChunks, List.Forall₂ MessageChunks messages messageChunks := by
  induction messages with
  | nil => exact ⟨[], .nil⟩
  | cons message messages ih =>
      rcases ih with ⟨messageChunks, delivers⟩
      rcases exists_messageChunks message with ⟨chunks, deliversHere⟩
      exact ⟨chunks :: messageChunks, .cons deliversHere delivers⟩

/-- The complete messages of a stream are handled one by one. -/
theorem run_messages {messages : List DoIPMessage} {messageChunks : List (List (List UInt8))}
    (addressed : ∀ message ∈ messages, Addressed message)
    (delivers : List.Forall₂ MessageChunks messages messageChunks) :
    handleDoipSession.stateAfter .header (liveChunks messageChunks.flatten) = .header ∧
      sessionTrace (sessionOutput messageChunks.flatten) = messages.flatMap reactions := by
  induction delivers with
  | nil => exact ⟨rfl, rfl⟩
  | @cons message chunks messages messageChunks delivers _ ih =>
      rcases List.forall_mem_cons.mp addressed with ⟨addressedHere, addressedLater⟩
      rcases run_messageChunks delivers with ⟨stateEq, outputEq⟩
      rcases ih addressedLater with ⟨laterState, laterTrace⟩
      rw [handleMessage_of_addressed addressedHere] at stateEq
      rw [List.flatten_cons, sessionOutput, liveChunks, List.map_append,
        Transducer.stateAfter_append, Transducer.output_append, sessionTrace_append]
      change handleDoipSession.stateAfter (handleDoipSession.stateAfter .header (liveChunks chunks))
          (liveChunks messageChunks.flatten) = _ ∧
        sessionTrace (handleDoipSession.output .header (liveChunks chunks)) ++
          sessionTrace (handleDoipSession.output
            (handleDoipSession.stateAfter .header (liveChunks chunks))
            (liveChunks messageChunks.flatten)) = _
      rw [stateEq, outputEq, sessionTrace_recognise addressedHere, List.flatMap_cons, ← laterTrace]
      exact ⟨laterState, rfl⟩

theorem sessionTrace_ending {ending : List (List UInt8)} (ends : IsEnding ending)
    (pc : SessionPc) : sessionTrace (handleDoipSession.output pc (liveChunks ending)) = [] := by
  rcases ends with rfl | rfl
  · rfl
  · cases pc <;> rfl

/-- What is visible of a session: its messages, and what it makes of the bytes behind them. -/
theorem sessionTrace_of_parts {messages : List DoIPMessage}
    {messageChunks : List (List (List UInt8))} {tailChunks ending : List (List UInt8)}
    (addressed : ∀ message ∈ messages, Addressed message)
    (delivers : List.Forall₂ MessageChunks messages messageChunks) (ends : IsEnding ending) :
    sessionTrace (sessionOutput (messageChunks.flatten ++ tailChunks ++ ending)) =
      messages.flatMap reactions ++ sessionTrace (sessionOutput tailChunks) := by
  rcases run_messages addressed delivers with ⟨stateEq, traceEq⟩
  rw [sessionOutput, liveChunks, List.map_append, List.map_append, Transducer.output_append,
    Transducer.output_append, sessionTrace_append, sessionTrace_append]
  change sessionTrace (sessionOutput messageChunks.flatten) ++
    sessionTrace (handleDoipSession.output
      (handleDoipSession.stateAfter .header (liveChunks messageChunks.flatten))
      (liveChunks tailChunks)) ++ sessionTrace (handleDoipSession.output _ (liveChunks ending)) = _
  rw [stateEq, traceEq, sessionTrace_ending ends, List.append_nil]
  rfl

/-- Behind the messages a tail without a whole message leads to no reaction, however it is cut,
exactly if no request stands in the middle of it; and if its header arrives whole, always. -/
theorem session_reacts_iff {messages : List DoIPMessage}
    (addressed : ∀ message ∈ messages, Addressed message) {tail : List UInt8}
    (truncated : ¬doipFraming.Complete tail) :
    ((∀ messageChunks tailChunks ending, List.Forall₂ MessageChunks messages messageChunks →
        Cuts anyRead .header tail tailChunks → IsEnding ending →
        sessionTrace (sessionOutput (messageChunks.flatten ++ tailChunks ++ ending)) =
          messages.flatMap reactions) ↔
      ∀ message, OccursIn message tail → ¬IsRequest message) ∧
    ∀ messageChunks tailChunks ending, List.Forall₂ MessageChunks messages messageChunks →
      Cuts wholeHeader .header tail tailChunks → IsEnding ending →
      sessionTrace (sessionOutput (messageChunks.flatten ++ tailChunks ++ ending)) =
        messages.flatMap reactions := by
  refine ⟨⟨?_, ?_⟩, ?_⟩
  · intro reacts message occurs
    rcases exists_messagesChunks messages with ⟨messageChunks, delivers⟩
    rcases exists_cuts_of_occursIn occurs with ⟨tailChunks, cuts, outputEq⟩
    have trace := reacts messageChunks tailChunks [] delivers cuts (Or.inl rfl)
    rw [sessionTrace_of_parts addressed delivers (Or.inl rfl), outputEq] at trace
    exact (sessionTrace_recognise_eq_nil_iff message).mp (List.append_right_eq_self.mp trace)
  · intro noRequest messageChunks tailChunks ending delivers cuts ends
    rcases output_of_cuts cuts with ⟨recognised, outputEq, occur⟩
    have silent : sessionTrace (sessionOutput tailChunks) = [] := by
      rw [sessionOutput, outputEq]
      apply sessionTrace_recognised_eq_nil
      intro message messageMem
      exact noRequest message (occur message messageMem)
    rw [sessionTrace_of_parts addressed delivers ends, silent, List.append_nil]
  · intro messageChunks tailChunks ending delivers cuts ends
    rw [sessionTrace_of_parts addressed delivers ends, sessionOutput, output_of_wholeHeader cuts,
      owed, Framing.parse_of_not_complete truncated]
    exact List.append_nil _

def activationRequest : DoIPMessage :=
  ⟨activationHeader, activationPayload, rfl, by decide⟩

/-- A routing activation request in pieces, a truncated header and the end of the connection lead
to one response. -/
theorem session_reacts_activation :
    sessionTrace (sessionOutput
      ([[activationHeader, [0x0E], [0x00]]].flatten ++ [[0x02, 0xFD]] ++ [[]])) =
        [activationRequest].flatMap reactions := by
  have addressed : ∀ message ∈ [activationRequest], Addressed message := by
    intro message messageMem diagnostic
    rw [List.mem_singleton] at messageMem
    rw [messageMem] at diagnostic
    exact absurd diagnostic (by decide)
  have truncated : ¬doipFraming.Complete [0x02, 0xFD] := by decide
  have delivers : MessageChunks activationRequest [activationHeader, [0x0E], [0x00]] :=
    ⟨[[0x0E], [0x00]], rfl, rfl, by decide⟩
  have cuts : Cuts wholeHeader .header ([0x02, 0xFD] ++ []) [[0x02, 0xFD]] :=
    .read (by decide) (by decide) (fun _ long => absurd long (by decide)) (.done _)
  exact (session_reacts_iff addressed truncated).2 _ _ _ (.cons delivers .nil) cuts (Or.inr rfl)

/-- The start of a diagnostic message of 255 bytes whose first payload bytes have the form of a
routing activation request. -/
def nestedRequest : List UInt8 :=
  [2, 0xFD, 0x80, 0x01, 0, 0, 0, 255] ++ [2, 0xFD, 0x00, 0x05, 0, 0, 0, 0]

/-- The truncated message is no complete one, but when its header is read in two halves the session
answers the bytes inside it. -/
theorem session_reacts_nestedRequest :
    ¬doipFraming.Complete nestedRequest ∧
      Cuts anyRead .header nestedRequest
        [[2, 0xFD, 0x80, 0x01], [0, 0, 0, 255], [2, 0xFD, 0x00, 0x05, 0, 0, 0, 0]] ∧
      sessionTrace (sessionOutput
        [[2, 0xFD, 0x80, 0x01], [0, 0, 0, 255], [2, 0xFD, 0x00, 0x05, 0, 0, 0, 0]]) =
          writeLocked routingActivationResponse := by
  refine ⟨by decide, ?_, rfl⟩
  have third : Cuts anyRead .header ([2, 0xFD, 0x00, 0x05, 0, 0, 0, 0] ++ [])
      [[2, 0xFD, 0x00, 0x05, 0, 0, 0, 0]] :=
    .read (by decide) (by decide) trivial (.done _)
  have second : Cuts anyRead .header ([0, 0, 0, 255] ++ [2, 0xFD, 0x00, 0x05, 0, 0, 0, 0])
      [[0, 0, 0, 255], [2, 0xFD, 0x00, 0x05, 0, 0, 0, 0]] :=
    .read (by decide) (by decide) trivial third
  have first : Cuts anyRead .header
      ([2, 0xFD, 0x80, 0x01] ++ ([0, 0, 0, 255] ++ [2, 0xFD, 0x00, 0x05, 0, 0, 0, 0]))
      [[2, 0xFD, 0x80, 0x01], [0, 0, 0, 255], [2, 0xFD, 0x00, 0x05, 0, 0, 0, 0]] :=
    .read (by decide) (by decide) trivial second
  exact first

end Synapse
