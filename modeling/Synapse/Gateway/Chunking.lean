import Synapse.Gateway.Session

/-!
# How the tester's stream is cut

A `read` delivers any number of bytes between one and the number asked for.
This file relates what the session thread makes of a stream to the way the
reads cut it. When every header arrives in one read, the thread acts on
exactly the messages into which the stream parses. A header which arrives in parts
is dropped, and the thread looks for the next header in the middle of the
message; what it recognises then can be any message which starts at some
offset of the stream.
-/

namespace Synapse

/-- A cut of a stream into the results of reads: none is empty, none is longer than asked for, and
each is allowed before the rest of the stream. -/
inductive Cuts (allowed : SessionPc → List UInt8 → List UInt8 → Prop) :
    SessionPc → List UInt8 → List (List UInt8) → Prop where
  | done (pc : SessionPc) : Cuts allowed pc [] []
  | halted {pc : SessionPc} {stream : List UInt8} (nothing : pc.requested = 0) :
      Cuts allowed pc stream []
  | read {pc : SessionPc} {chunk rest : List UInt8} {chunks : List (List UInt8)}
      (nonempty : chunk ≠ []) (fits : chunk.length ≤ pc.requested)
      (isAllowed : allowed pc chunk rest)
      (later : Cuts allowed (handleDoipSession.step pc (.live chunk)).1 rest chunks) :
      Cuts allowed pc (chunk ++ rest) (chunk :: chunks)

def anyRead : SessionPc → List UInt8 → List UInt8 → Prop :=
  fun _ _ _ => True

/-- A read which delivers a whole header if the stream still has one. -/
def wholeHeader : SessionPc → List UInt8 → List UInt8 → Prop :=
  fun pc chunk rest =>
    pc = .header → DoIPHeader.size ≤ (chunk ++ rest).length → chunk.length = DoIPHeader.size

theorem anyRead_allows (pc : SessionPc) (chunk rest : List UInt8)
    (_ : wholeHeader pc chunk rest) : anyRead pc chunk rest :=
  trivial

def sessionOutput (chunks : List (List UInt8)) : List GatewayAction :=
  handleDoipSession.output .header (liveChunks chunks)

/-- The bytes of an unfinished message which the thread has taken. -/
def SessionPc.taken : SessionPc → List UInt8
  | .header => []
  | .payload pending => pending.header ++ pending.received
  | .closed => []
  | .invalidRange => []

theorem handleMessage_pc (message : DoIPMessage) :
    (handleMessage true message).1 = .header ∨ (handleMessage true message).1 = .invalidRange := by
  rw [handleMessage]
  split
  · exact Or.inl rfl
  · split
    · exact Or.inl rfl
    · split
      · exact Or.inr rfl
      · exact Or.inl rfl

/-! ## Headers which arrive whole -/

/-- What the session thread emits for a list of messages, up to one without addresses. -/
def sessionActions : List DoIPMessage → List GatewayAction
  | [] => []
  | message :: messages =>
      recognise message ++
        if (handleMessage true message).1 = .header then sessionActions messages else []

/-- What the thread still has to emit for a stream. -/
def owed : SessionPc → List UInt8 → List GatewayAction
  | .header, stream => sessionActions (doipFraming.parse stream).1
  | .payload pending, stream =>
      sessionActions (doipFraming.parse (pending.header ++ pending.received ++ stream)).1
  | .closed, _ => []
  | .invalidRange, _ => []

theorem not_complete_of_short {stream : List UInt8} (short : stream.length < DoIPHeader.size) :
    ¬doipFraming.Complete stream := by
  intro complete
  have size : doipFraming.headerSize = DoIPHeader.size := rfl
  rw [Framing.Complete] at complete
  omega

theorem not_complete_of_missing (pending : PendingPayload) :
    ¬doipFraming.Complete (pending.header ++ pending.received) := by
  intro complete
  have whole : pending.header.length = doipFraming.headerSize := pending.header_length
  have missing := pending.missing
  rw [Framing.Complete, List.take_left' whole, List.length_append] at complete
  omega

/-- A read of the payload loop asks for no more than is missing. -/
theorem PendingPayload.length_received_append_le (pending : PendingPayload) {chunk : List UInt8}
    (fits : chunk.length ≤ (SessionPc.payload pending).requested) :
    (pending.received ++ chunk).length ≤ doipFraming.payloadLength pending.header := by
  have missing := pending.missing
  rw [SessionPc.requested] at fits
  rw [List.length_append]
  omega

theorem owed_nil (pc : SessionPc) : owed pc [] = [] := by
  cases pc with
  | header =>
      rw [owed, Framing.parse_of_not_complete (not_complete_of_short (by decide))]
      rfl
  | payload pending =>
      rw [owed, List.append_nil, Framing.parse_of_not_complete (not_complete_of_missing pending)]
      rfl
  | closed => rfl
  | invalidRange => rfl

theorem owed_continuePayload {header : List UInt8} (whole : header.length = DoIPHeader.size)
    (received rest : List UInt8) (atMost : received.length ≤ doipFraming.payloadLength header) :
    (continuePayload true header whole received).2 ++
        owed (continuePayload true header whole received).1 rest =
      sessionActions (doipFraming.parse (header ++ received ++ rest)).1 := by
  by_cases missing : received.length < doipFraming.payloadLength header
  · rw [continuePayload_of_lt true whole missing]
    rfl
  · have exact : received.length = doipFraming.payloadLength header := by omega
    have bytesEq : header ++ received =
        Framing.Frame.bytes (⟨header, received, whole, exact⟩ : DoIPMessage) := rfl
    rw [continuePayload_of_eq whole exact, bytesEq, Framing.parse_bytes_append, sessionActions,
      recognise]
    rcases handleMessage_pc ⟨header, received, whole, exact⟩ with next | next
    · simp only [next, if_true, owed]
    · simp [next, owed]

/-- When headers arrive whole, the thread emits what the parse of its stream asks for. -/
theorem output_of_wholeHeader {pc : SessionPc} {stream : List UInt8} {chunks : List (List UInt8)}
    (cuts : Cuts wholeHeader pc stream chunks) :
    handleDoipSession.output pc (liveChunks chunks) = owed pc stream := by
  induction cuts with
  | done pc => exact (owed_nil pc).symm
  | @halted pc stream nothing =>
      cases pc with
      | header => simp [SessionPc.requested, DoIPHeader.size] at nothing
      | payload pending =>
          have missing := pending.missing
          rw [SessionPc.requested] at nothing
          omega
      | closed => rfl
      | invalidRange => rfl
  | @read pc chunk rest chunks nonempty fits whole _ ih =>
      have chunkPos := List.length_pos_iff.mpr nonempty
      rw [liveChunks, List.map_cons, Transducer.output_cons]
      change (handleDoipSession.step pc (.live chunk)).2 ++
        handleDoipSession.output _ (liveChunks chunks) = _
      rw [ih]
      cases pc with
      | header =>
          by_cases exact : chunk.length = DoIPHeader.size
          · rw [step_header_of_whole exact]
            have owes := owed_continuePayload exact [] rest (Nat.zero_le _)
            rw [List.append_nil] at owes
            exact owes
          · have short : (chunk ++ rest).length < DoIPHeader.size := by
              by_contra long
              exact exact (whole rfl (Nat.not_lt.mp long))
            have restShort : rest.length < DoIPHeader.size := by
              rw [List.length_append] at short
              omega
            rw [step_header_of_short nonempty exact, owed, owed,
              Framing.parse_of_not_complete (not_complete_of_short short),
              Framing.parse_of_not_complete (not_complete_of_short restShort)]
            rfl
      | payload pending =>
          have atMost := pending.length_received_append_le fits
          rw [step_payload pending nonempty,
            owed_continuePayload pending.header_length _ rest atMost, owed]
          simp only [List.append_assoc]
      | closed =>
          rw [SessionPc.requested] at fits
          omega
      | invalidRange =>
          rw [SessionPc.requested] at fits
          omega

/-! ## Any cut -/

/-- The message stands somewhere in the stream. -/
def OccursIn (message : DoIPMessage) (stream : List UInt8) : Prop :=
  ∃ offset rest, stream.drop offset = message.bytes ++ rest

theorem OccursIn.append {message : DoIPMessage} {stream : List UInt8}
    (occurs : OccursIn message stream) (front : List UInt8) :
    OccursIn message (front ++ stream) := by
  rcases occurs with ⟨offset, rest, dropEq⟩
  refine ⟨front.length + offset, rest, ?_⟩
  rw [← List.drop_drop, List.drop_left, dropEq]

/-- The emissions behind a read of the payload loop extend those behind the state it leads to. -/
theorem recognises_continuePayload {header received rest : List UInt8}
    (whole : header.length = DoIPHeader.size)
    (atMost : received.length ≤ doipFraming.payloadLength header) {later : List DoIPMessage}
    (occur : ∀ message ∈ later,
      OccursIn message ((continuePayload true header whole received).1.taken ++ rest)) :
    ∃ messages : List DoIPMessage,
      (continuePayload true header whole received).2 ++ later.flatMap recognise =
          messages.flatMap recognise ∧
        ∀ message ∈ messages, OccursIn message (header ++ received ++ rest) := by
  by_cases missing : received.length < doipFraming.payloadLength header
  · rw [continuePayload_of_lt true whole missing] at occur ⊢
    exact ⟨later, rfl, occur⟩
  · have exact : received.length = doipFraming.payloadLength header := by omega
    rw [continuePayload_of_eq whole exact] at occur ⊢
    refine ⟨⟨header, received, whole, exact⟩ :: later, rfl, ?_⟩
    intro message messageMem
    rcases List.mem_cons.mp messageMem with rfl | laterMem
    · exact ⟨0, rest, rfl⟩
    · have nothingTaken :
          (handleMessage true ⟨header, received, whole, exact⟩).1.taken = [] := by
        rcases handleMessage_pc ⟨header, received, whole, exact⟩ with next | next
        · rw [next]
          rfl
        · rw [next]
          rfl
      have occurs := occur message laterMem
      rw [nothingTaken, List.nil_append] at occurs
      exact occurs.append (header ++ received)

/-- What a cut recognises stands in the stream, and nothing else is emitted. -/
theorem output_of_cuts {pc : SessionPc} {stream : List UInt8} {chunks : List (List UInt8)}
    (cuts : Cuts anyRead pc stream chunks) :
    ∃ messages : List DoIPMessage,
      handleDoipSession.output pc (liveChunks chunks) = messages.flatMap recognise ∧
        ∀ message ∈ messages, OccursIn message (pc.taken ++ stream) := by
  induction cuts with
  | done pc => exact ⟨[], rfl, by simp⟩
  | halted nothing => exact ⟨[], rfl, by simp⟩
  | @read pc chunk rest chunks nonempty fits _ _ ih =>
      have chunkPos := List.length_pos_iff.mpr nonempty
      rcases ih with ⟨later, outputEq, occur⟩
      rw [liveChunks, List.map_cons, Transducer.output_cons]
      change ∃ messages : List DoIPMessage, (handleDoipSession.step pc (.live chunk)).2 ++
        handleDoipSession.output _ (liveChunks chunks) = _ ∧ _
      rw [outputEq]
      cases pc with
      | header =>
          by_cases exact : chunk.length = DoIPHeader.size
          · rw [step_header_of_whole exact] at occur ⊢
            have recognised := recognises_continuePayload exact (Nat.zero_le _) occur
            rw [List.append_nil] at recognised
            exact recognised
          · rw [step_header_of_short nonempty exact] at occur ⊢
            refine ⟨later, rfl, ?_⟩
            intro message messageMem
            exact (occur message messageMem).append chunk
      | payload pending =>
          have atMost := pending.length_received_append_le fits
          rw [step_payload pending nonempty] at occur ⊢
          rcases recognises_continuePayload pending.header_length atMost occur with
            ⟨messages, emitted, occurAll⟩
          refine ⟨messages, emitted, ?_⟩
          simpa only [SessionPc.taken, List.append_assoc] using occurAll
      | closed =>
          rw [SessionPc.requested] at fits
          omega
      | invalidRange =>
          rw [SessionPc.requested] at fits
          omega

/-! ## Cuts in the middle of a message -/

def singleBytes (bytes : List UInt8) : List (List UInt8) :=
  bytes.map fun byte => [byte]

theorem step_header_singleByte (byte : UInt8) :
    handleDoipSession.step .header (.live [byte]) = (.header, []) :=
  step_header_of_short (by simp) (by simp [DoIPHeader.size])

/-- Read one byte at a time, the header read skips any number of bytes. -/
theorem cuts_skip (skipped : List UInt8) {stream : List UInt8} {chunks : List (List UInt8)}
    (cuts : Cuts anyRead .header stream chunks) :
    Cuts anyRead .header (skipped ++ stream) (singleBytes skipped ++ chunks) ∧
      sessionOutput (singleBytes skipped ++ chunks) = sessionOutput chunks := by
  induction skipped with
  | nil => exact ⟨cuts, rfl⟩
  | cons byte skipped ih =>
      have stepEq := step_header_singleByte byte
      constructor
      · have fits : [byte].length ≤ SessionPc.header.requested := (by decide : 1 ≤ 8)
        refine .read (by simp) fits trivial ?_
        rw [stepEq]
        exact ih.1
      · rw [← ih.2]
        exact (handleDoipSession.run_of_step stepEq _).2

theorem cuts_singleBytes (stream : List UInt8) :
    Cuts anyRead .header stream (singleBytes stream) ∧ sessionOutput (singleBytes stream) = [] := by
  have nothing : Cuts anyRead .header [] [] := .done .header
  have skip := cuts_skip stream nothing
  simpa [sessionOutput, liveChunks] using skip

/-- The pieces of a payload are reads which the payload loop may get. -/
theorem cuts_pieces {allowed : SessionPc → List UInt8 → List UInt8 → Prop}
    (allows : ∀ pc chunk rest, wholeHeader pc chunk rest → allowed pc chunk rest)
    {header : List UInt8} (whole : header.length = DoIPHeader.size) (received : List UInt8)
    {pieces : List (List UInt8)} (nonempty : ∀ piece ∈ pieces, piece ≠ [])
    (exact : (received ++ pieces.flatten).length = doipFraming.payloadLength header)
    {rest : List UInt8} {laterChunks : List (List UInt8)}
    (later : Cuts allowed
      (handleMessage true ⟨header, received ++ pieces.flatten, whole, exact⟩).1 rest laterChunks) :
    Cuts allowed (continuePayload true header whole received).1 (pieces.flatten ++ rest)
      (pieces ++ laterChunks) := by
  induction pieces generalizing received with
  | nil =>
      have exactHere : received.length = doipFraming.payloadLength header := by simpa using exact
      simp only [List.flatten_nil, List.append_nil] at later
      rw [continuePayload_of_eq whole exactHere]
      exact later
  | cons piece pieces ih =>
      rcases List.forall_mem_cons.mp nonempty with ⟨pieceNe, piecesNe⟩
      have lengths := exact
      rw [List.flatten_cons, List.length_append, List.length_append] at lengths
      have piecePos := List.length_pos_iff.mpr pieceNe
      have missing : received.length < doipFraming.payloadLength header := by omega
      have laterExact : ((received ++ piece) ++ pieces.flatten).length =
          doipFraming.payloadLength header := by
        rw [List.append_assoc]
        exact exact
      have cutsLater := ih (received ++ piece) piecesNe laterExact
        (by simpa only [List.flatten_cons, ← List.append_assoc] using later)
      rw [continuePayload_of_lt true whole missing, List.flatten_cons, List.append_assoc]
      refine .read pieceNe ?_ (allows _ _ _ fun atHeader _ => by contradiction) ?_
      · change piece.length ≤ doipFraming.payloadLength header - received.length
        omega
      · rw [step_payload _ pieceNe]
        exact cutsLater

/-- Reads which deliver a message with its header in one piece are a cut of its bytes. -/
theorem cuts_messageChunks {allowed : SessionPc → List UInt8 → List UInt8 → Prop}
    (allows : ∀ pc chunk rest, wholeHeader pc chunk rest → allowed pc chunk rest)
    {message : DoIPMessage} {chunks : List (List UInt8)}
    (delivers : MessageChunks message chunks) {rest : List UInt8}
    {laterChunks : List (List UInt8)}
    (later : Cuts allowed (handleMessage true message).1 rest laterChunks) :
    Cuts allowed .header (message.bytes ++ rest) (chunks ++ laterChunks) := by
  rcases delivers with ⟨pieces, rfl, payloadEq, nonempty⟩
  cases message with
  | mk header payload whole exact =>
      simp only at payloadEq
      subst payloadEq
      have headerNe : header ≠ [] := by
        rintro rfl
        simp [doipFraming, DoIPHeader.size] at whole
      have cutsLater := cuts_pieces allows whole [] nonempty (by simpa using exact) later
      rw [Framing.Frame.bytes, List.append_assoc]
      refine .read headerNe (Nat.le_of_eq whole) (allows _ _ _ fun _ _ => whole) ?_
      rw [step_header_of_whole whole]
      exact cutsLater

theorem exists_messageChunks (message : DoIPMessage) :
    ∃ chunks, MessageChunks message chunks := by
  by_cases empty : message.payload = []
  · exact ⟨[message.header], [], rfl, empty.symm, by simp⟩
  · exact ⟨[message.header, message.payload], [message.payload], rfl, by simp, by simpa using empty⟩

/-- A stream which starts with a message can be cut so that just this message is recognised. -/
theorem exists_cuts_message (message : DoIPMessage) (rest : List UInt8) :
    ∃ chunks, Cuts anyRead .header (message.bytes ++ rest) chunks ∧
      sessionOutput chunks = recognise message := by
  rcases exists_messageChunks message with ⟨chunks, delivers⟩
  rcases run_messageChunks delivers with ⟨stateEq, outputEq⟩
  rcases handleMessage_pc message with next | next
  · refine ⟨chunks ++ singleBytes rest, cuts_messageChunks anyRead_allows delivers ?_, ?_⟩
    · rw [next]
      exact (cuts_singleBytes rest).1
    · rw [sessionOutput, liveChunks, List.map_append, Transducer.output_append]
      change handleDoipSession.output .header (liveChunks chunks) ++
        handleDoipSession.output (handleDoipSession.stateAfter .header (liveChunks chunks))
          (liveChunks (singleBytes rest)) = _
      rw [stateEq, outputEq, next]
      exact (congrArg _ (cuts_singleBytes rest).2).trans (List.append_nil _)
  · refine ⟨chunks, ?_, outputEq⟩
    have halted : Cuts anyRead (handleMessage true message).1 rest [] := by
      rw [next]
      exact .halted rfl
    simpa using cuts_messageChunks anyRead_allows delivers halted

/-! ## Two cuts of one stream -/

/-- A message which starts at an offset of a stream can be made the only one recognised. -/
theorem exists_cuts_of_occursIn {message : DoIPMessage} {stream : List UInt8}
    (occurs : OccursIn message stream) :
    ∃ chunks, Cuts anyRead .header stream chunks ∧ sessionOutput chunks = recognise message := by
  rcases occurs with ⟨offset, rest, dropEq⟩
  rcases exists_cuts_message message rest with ⟨chunks, cuts, outputEq⟩
  rw [← dropEq] at cuts
  have skip := cuts_skip (stream.take offset) cuts
  rw [List.take_append_drop] at skip
  exact ⟨_, skip.1, skip.2.trans outputEq⟩

/-- All cuts of a stream lead to the same emissions exactly if no complete message starts
anywhere in it; but any two cuts which deliver every header in one read agree. -/
theorem cuts_agree_iff (stream : List UInt8) :
    ((∀ first second, Cuts anyRead .header stream first → Cuts anyRead .header stream second →
        sessionOutput first = sessionOutput second) ↔
      ∀ offset, ¬doipFraming.Complete (stream.drop offset)) ∧
    ∀ first second, Cuts wholeHeader .header stream first →
      Cuts wholeHeader .header stream second → sessionOutput first = sessionOutput second := by
  refine ⟨⟨?_, ?_⟩, ?_⟩
  · intro agree offset complete
    rcases (Framing.complete_iff_exists_frame _).mp complete with ⟨message, rest, dropEq⟩
    rcases exists_cuts_of_occursIn ⟨offset, rest, dropEq⟩ with ⟨chunks, cuts, outputEq⟩
    rcases cuts_singleBytes stream with ⟨silentCuts, silent⟩
    have same := agree chunks (singleBytes stream) cuts silentCuts
    rw [outputEq, silent, recognise] at same
    simp at same
  · intro incomplete first second firstCuts secondCuts
    have silent : ∀ chunks, Cuts anyRead .header stream chunks → sessionOutput chunks = [] := by
      intro chunks cuts
      rcases output_of_cuts cuts with ⟨messages, outputEq, occur⟩
      cases messages with
      | nil => exact outputEq
      | cons message messages =>
          rcases occur message (by simp) with ⟨offset, rest, dropEq⟩
          have complete := Framing.complete_bytes_append message rest
          rw [← dropEq] at complete
          exact absurd complete (incomplete offset)
    rw [silent first firstCuts, silent second secondCuts]
  · intro first second firstCuts secondCuts
    exact (output_of_wholeHeader firstCuts).trans (output_of_wholeHeader secondCuts).symm

def activationHeader : List UInt8 :=
  [2, 0xFD, 0x00, 0x05, 0, 0, 0, 2]

def activationPayload : List UInt8 :=
  [0x0E, 0x00]

theorem cuts_agree_activation :
    sessionOutput [activationHeader, activationPayload] =
      sessionOutput [activationHeader, [0x0E], [0x00]] := by
  refine (cuts_agree_iff (activationHeader ++ activationPayload)).2 _ _ ?_ ?_
  · have payload : Cuts wholeHeader (handleDoipSession.step .header (.live activationHeader)).1
        (activationPayload ++ []) [activationPayload] :=
      .read (by decide) (by decide) (fun _ _ => by contradiction) (.done _)
    exact .read (by decide) (by decide) (fun _ _ => rfl) payload
  · have second : Cuts wholeHeader (handleDoipSession.step (handleDoipSession.step .header
        (.live activationHeader)).1 (.live [0x0E])).1 ([0x00] ++ []) [[0x00]] :=
      .read (by decide) (by decide) (fun _ _ => by contradiction) (.done _)
    have first : Cuts wholeHeader (handleDoipSession.step .header (.live activationHeader)).1
        ([0x0E] ++ [0x00]) [[0x0E], [0x00]] :=
      .read (by decide) (by decide) (fun _ _ => by contradiction) second
    exact .read (by decide) (by decide) (fun _ _ => rfl) first

/-- Delivered in two halves, the header of the request is dropped and no response is written. -/
theorem cuts_disagree_activation :
    Cuts anyRead .header (activationHeader ++ activationPayload)
        [activationHeader, activationPayload] ∧
      Cuts anyRead .header (activationHeader ++ activationPayload)
        [[2, 0xFD, 0x00, 0x05], [0, 0, 0, 2], activationPayload] ∧
      LockedStream.writes (sessionOutput [activationHeader, activationPayload]) =
        [routingActivationResponse] ∧
      LockedStream.writes
        (sessionOutput [[2, 0xFD, 0x00, 0x05], [0, 0, 0, 2], activationPayload]) = [] := by
  refine ⟨?_, ?_, by decide, by decide⟩
  · have payload : Cuts anyRead (handleDoipSession.step .header (.live activationHeader)).1
        (activationPayload ++ []) [activationPayload] :=
      .read (by decide) (by decide) trivial (.done _)
    exact .read (by decide) (by decide) trivial payload
  · have payload : Cuts anyRead .header (activationPayload ++ []) [activationPayload] :=
      .read (by decide) (by decide) trivial (.done _)
    have second : Cuts anyRead .header ([0, 0, 0, 2] ++ activationPayload)
        [[0, 0, 0, 2], activationPayload] :=
      .read (by decide) (by decide) trivial payload
    have first : Cuts anyRead .header ([2, 0xFD, 0x00, 0x05] ++ ([0, 0, 0, 2] ++ activationPayload))
        [[2, 0xFD, 0x00, 0x05], [0, 0, 0, 2], activationPayload] :=
      .read (by decide) (by decide) trivial second
    exact first

end Synapse
