import Synapse.Library.Transducer
import Synapse.Gateway.Action

/-!
# The main session thread

`handle_doip_session` reads DoIP messages from the tester. It blocks in one
`read` for the header and in another one for the payload, and acts on a message
once its payload is complete. The payload loop reads on until all announced
bytes are there; the header read takes what it gets, and drops it unless it is
a whole header.

The thread is a transducer over the results of its reads. The result of
`isotpSend` is not looked at, so a call appears as an output and nothing
comes back from it.
-/

namespace Synapse

/-- A header and a part of the payload it announces. -/
structure PendingPayload where
  header : List UInt8
  received : List UInt8
  header_length : header.length = DoIPHeader.size
  missing : received.length < doipFraming.payloadLength header
deriving DecidableEq

/-- Where the session thread stands. -/
inductive SessionPc where
  | header
  | payload (pending : PendingPayload)
  | closed
  /-- The request was cut out of a payload without addresses; the source gives the rest no
  meaning. -/
  | invalidRange
deriving DecidableEq

/-- What the surroundings answer to the session thread from one read to the next. -/
structure SessionInput where
  /-- The bytes which `read` delivers, none if it fails or the tester has closed. -/
  bytes : List UInt8
  sessionActive : Bool

def SessionInput.live (bytes : List UInt8) : SessionInput :=
  ⟨bytes, true⟩

def leaveSession : SessionPc × List GatewayAction :=
  (.closed, [.other .endSession])

/-- Perform the actions of a pass of the loop and test the loop condition behind them. -/
def sessionLoopHead (sessionActive : Bool) (actions : List GatewayAction) :
    SessionPc × List GatewayAction :=
  if sessionActive then (.header, actions)
  else (leaveSession.1, actions ++ leaveSession.2)

def handleMessage (sessionActive : Bool) (message : DoIPMessage) :
    SessionPc × List GatewayAction :=
  if message.payloadType = routingActivationRequestType then
    sessionLoopHead sessionActive (writeLocked routingActivationResponse)
  else if message.payloadType ≠ diagnosticMessageType then sessionLoopHead sessionActive []
  -- The acknowledgement is written before the request is cut out of the payload.
  else if message.payload.length < 4 then (.invalidRange, writeLocked positiveAck)
  else
    sessionLoopHead sessionActive
      (writeLocked positiveAck ++ [.other (.isotpSend message.udsData)])

/-- The payload loop with the bytes received so far, and what follows it. -/
def continuePayload (sessionActive : Bool) (header : List UInt8)
    (whole : header.length = DoIPHeader.size) (received : List UInt8) :
    SessionPc × List GatewayAction :=
  if missing : received.length < doipFraming.payloadLength header then
    (.payload ⟨header, received, whole, missing⟩, [])
  else if exact : received.length = doipFraming.payloadLength header then
    if sessionActive then
      let message : DoIPMessage := ⟨header, received, whole, exact⟩
      let (pc, actions) := handleMessage sessionActive message
      (pc, .other (.recognised message) :: actions)
    else leaveSession
  else leaveSession

def sessionStep (pc : SessionPc) (input : SessionInput) : SessionPc × List GatewayAction :=
  match pc with
  | .header =>
      if input.bytes = [] then leaveSession
      else if whole : input.bytes.length = DoIPHeader.size then
        continuePayload input.sessionActive input.bytes whole []
      -- `continue` on a short header: the bytes read so far are not kept.
      else sessionLoopHead input.sessionActive []
  | .payload pending =>
      if input.bytes = [] then leaveSession
      else
        continuePayload input.sessionActive pending.header pending.header_length
          (pending.received ++ input.bytes)
  | .closed => (.closed, [])
  | .invalidRange => (.invalidRange, [])

/-- The session thread over a stream of reads. -/
def handleDoipSession : Transducer SessionPc SessionInput GatewayAction where
  step := sessionStep

/-- The number of bytes which the thread asks for in its next read. -/
def SessionPc.requested : SessionPc → ℕ
  | .header => DoIPHeader.size
  | .payload pending => doipFraming.payloadLength pending.header - pending.received.length
  | .closed => 0
  | .invalidRange => 0

/-! ## Single reads -/

theorem continuePayload_of_lt {header received : List UInt8} (sessionActive : Bool)
    (whole : header.length = DoIPHeader.size)
    (missing : received.length < doipFraming.payloadLength header) :
    continuePayload sessionActive header whole received =
      (.payload ⟨header, received, whole, missing⟩, []) := by
  rw [continuePayload, dif_pos missing]

theorem continuePayload_of_eq {header received : List UInt8}
    (whole : header.length = DoIPHeader.size)
    (exact : received.length = doipFraming.payloadLength header) :
    continuePayload true header whole received =
      ((handleMessage true ⟨header, received, whole, exact⟩).1,
        .other (.recognised ⟨header, received, whole, exact⟩) ::
          (handleMessage true ⟨header, received, whole, exact⟩).2) := by
  rw [continuePayload, dif_neg (by omega), dif_pos exact]
  rfl

theorem sessionLoopHead_nil (sessionActive : Bool) :
    (sessionLoopHead sessionActive []).2 = [] ∨
      (sessionLoopHead sessionActive []).2 = leaveSession.2 := by
  cases sessionActive with
  | true => exact Or.inl rfl
  | false => exact Or.inr rfl

theorem continuePayload_cases (sessionActive : Bool) {header : List UInt8}
    (whole : header.length = DoIPHeader.size) (received : List UInt8) :
    (continuePayload sessionActive header whole received).2 = [] ∨
      (continuePayload sessionActive header whole received).2 = leaveSession.2 ∨
      ∃ message, continuePayload sessionActive header whole received =
        ((handleMessage sessionActive message).1,
          .other (.recognised message) :: (handleMessage sessionActive message).2) := by
  rw [continuePayload]
  split
  next => exact Or.inl rfl
  next =>
    split
    next exact =>
      split
      · right; right
        exact ⟨⟨header, received, whole, exact⟩, rfl⟩
      · right; left
        rfl
    next =>
      right; left
      rfl

/-- What one step of the session thread emits: nothing, the end of the session, or what a complete
message leads to. -/
theorem sessionStep_cases (pc : SessionPc) (input : SessionInput) :
    (sessionStep pc input).2 = [] ∨ (sessionStep pc input).2 = leaveSession.2 ∨
      ∃ message, sessionStep pc input =
        ((handleMessage input.sessionActive message).1,
          .other (.recognised message) :: (handleMessage input.sessionActive message).2) := by
  cases pc with
  | header =>
      simp only [sessionStep]
      split
      · right; left
        rfl
      · split
        · apply continuePayload_cases
        · rcases sessionLoopHead_nil input.sessionActive with nothing | leaves
          · exact Or.inl nothing
          · exact Or.inr (Or.inl leaves)
  | payload pending =>
      simp only [sessionStep]
      split
      · right; left
        rfl
      · apply continuePayload_cases
  | closed => exact Or.inl rfl
  | invalidRange => exact Or.inl rfl

theorem step_header_of_whole {bytes : List UInt8} (whole : bytes.length = DoIPHeader.size) :
    handleDoipSession.step .header (.live bytes) = continuePayload true bytes whole [] := by
  have nonempty : bytes ≠ [] := by
    rintro rfl
    simp [DoIPHeader.size] at whole
  change sessionStep .header (.live bytes) = _
  rw [sessionStep, SessionInput.live, if_neg nonempty, dif_pos whole]

theorem step_header_of_short {bytes : List UInt8} (nonempty : bytes ≠ [])
    (short : bytes.length ≠ DoIPHeader.size) :
    handleDoipSession.step .header (.live bytes) = (.header, []) := by
  change sessionStep .header (.live bytes) = _
  rw [sessionStep, SessionInput.live, if_neg nonempty, dif_neg short]
  rfl

theorem step_payload {bytes : List UInt8} (pending : PendingPayload) (nonempty : bytes ≠ []) :
    handleDoipSession.step (.payload pending) (.live bytes) =
      continuePayload true pending.header pending.header_length (pending.received ++ bytes) := by
  change sessionStep (.payload pending) (.live bytes) = _
  rw [sessionStep, SessionInput.live, if_neg nonempty]

/-! ## One complete message -/

def liveChunks (chunks : List (List UInt8)) : List SessionInput :=
  chunks.map .live

/-- What the session thread emits for a complete message. -/
def recognise (message : DoIPMessage) : List GatewayAction :=
  .other (.recognised message) :: (handleMessage true message).2

/-- The payload loop collects the payload from any pieces. -/
theorem run_pieces {header : List UInt8} (whole : header.length = DoIPHeader.size)
    (received : List UInt8) {pieces : List (List UInt8)} (nonempty : ∀ piece ∈ pieces, piece ≠ [])
    (exact : (received ++ pieces.flatten).length = doipFraming.payloadLength header) :
    handleDoipSession.stateAfter (continuePayload true header whole received).1
        (liveChunks pieces) =
          (handleMessage true ⟨header, received ++ pieces.flatten, whole, exact⟩).1 ∧
      (continuePayload true header whole received).2 ++
          handleDoipSession.output (continuePayload true header whole received).1
            (liveChunks pieces) =
        recognise ⟨header, received ++ pieces.flatten, whole, exact⟩ := by
  induction pieces generalizing received with
  | nil =>
      have exactHere : received.length = doipFraming.payloadLength header := by simpa using exact
      simp only [List.flatten_nil, List.append_nil]
      rw [continuePayload_of_eq whole exactHere]
      exact ⟨rfl, List.append_nil _⟩
  | cons piece pieces ih =>
      rcases List.forall_mem_cons.mp nonempty with ⟨pieceNe, piecesNe⟩
      have missing : received.length < doipFraming.payloadLength header := by
        have piecePos := List.length_pos_iff.mpr pieceNe
        rw [← exact, List.flatten_cons, List.length_append, List.length_append]
        omega
      have laterExact : ((received ++ piece) ++ pieces.flatten).length =
          doipFraming.payloadLength header := by
        rw [List.append_assoc]
        exact exact
      have later := ih (received ++ piece) piecesNe laterExact
      rw [continuePayload_of_lt true whole missing, liveChunks, List.map_cons,
        Transducer.stateAfter_cons, Transducer.output_cons, step_payload _ pieceNe]
      simp only [List.flatten_cons, ← List.append_assoc]
      exact later

/-- Reads which deliver a message with its header in one piece and its payload in any pieces. -/
def MessageChunks (message : DoIPMessage) (chunks : List (List UInt8)) : Prop :=
  ∃ pieces, chunks = message.header :: pieces ∧ pieces.flatten = message.payload ∧
    ∀ piece ∈ pieces, piece ≠ []

/-- However its payload is cut, a message whose header arrives whole is handled once. -/
theorem run_messageChunks {message : DoIPMessage} {chunks : List (List UInt8)}
    (delivers : MessageChunks message chunks) :
    handleDoipSession.stateAfter .header (liveChunks chunks) = (handleMessage true message).1 ∧
      handleDoipSession.output .header (liveChunks chunks) = recognise message := by
  rcases delivers with ⟨pieces, rfl, payloadEq, nonempty⟩
  cases message with
  | mk header payload whole exact =>
      simp only at payloadEq
      subst payloadEq
      have run := run_pieces whole [] nonempty (by simpa using exact)
      rw [liveChunks, List.map_cons, Transducer.stateAfter_cons, Transducer.output_cons,
        step_header_of_whole whole]
      exact run

end Synapse
