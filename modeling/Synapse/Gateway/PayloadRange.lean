import Synapse.Gateway.Requests

/-!
# The range of a request

The session thread cuts the request of a diagnostic message out of the payload behind its two
addresses, and the payload is as long as the tester announces. This file determines for
which streams the range is always a valid one, first for any cut of the stream and then for
the cuts in which every header arrives whole.
-/

namespace Synapse

instance (message : DoIPMessage) : Decidable (Addressed message) :=
  inferInstanceAs (Decidable (_ → _))

/-- No session over the stream forms an invalid range, however the reads cut the stream,
whenever the forwarder ends the session, and whether or not the tester closes behind it. -/
def NeverInvalid (allowed : SessionPc → List UInt8 → List UInt8 → Prop) (stream : List UInt8) :
    Prop :=
  ∀ inputs ending : List SessionInput,
    Cuts allowed .header stream (inputs.map SessionInput.bytes) →
    IsEnding (ending.map SessionInput.bytes) →
    handleDoipSession.stateAfter .header (inputs ++ ending) ≠ .invalidRange

/-! ## The step into an invalid range -/

theorem handleMessage_invalidRange_iff (message : DoIPMessage) :
    (handleMessage true message).1 = .invalidRange ↔ ¬Addressed message := by
  rw [handleMessage, Addressed]
  by_cases activation : message.payloadType = routingActivationRequestType
  · rw [if_pos activation]
    apply iff_of_false
    · simp [sessionLoopHead]
    · rw [activation]
      exact not_not.mpr fun diagnostic => absurd diagnostic (by decide)
  · rw [if_neg activation]
    by_cases diagnostic : message.payloadType = diagnosticMessageType
    · rw [if_neg (not_not.mpr diagnostic), forall_prop_of_true diagnostic, Nat.not_le]
      split
      next short => exact iff_of_true rfl short
      next long => exact iff_of_false (by simp [sessionLoopHead]) long
    · rw [if_pos diagnostic]
      exact iff_of_false (by simp [sessionLoopHead]) (not_not.mpr fun eq => absurd eq diagnostic)

theorem continuePayload_invalidRange {sessionActive : Bool} {header received : List UInt8}
    {whole : header.length = DoIPHeader.size}
    (reached : (continuePayload sessionActive header whole received).1 = .invalidRange) :
    ∃ message,
      .other (.recognised message) ∈ (continuePayload sessionActive header whole received).2 ∧
        ¬Addressed message := by
  rw [continuePayload] at reached ⊢
  split at reached
  next => simp at reached
  next missing =>
    rw [dif_neg missing]
    split at reached
    next exact =>
      rw [dif_pos exact]
      cases sessionActive with
      | false => simp [leaveSession] at reached
      | true =>
          exact ⟨⟨header, received, whole, exact⟩, List.mem_cons_self,
            (handleMessage_invalidRange_iff _).mp reached⟩
    next => simp [leaveSession] at reached

/-- A step into an invalid range has recognised a message without addresses. -/
theorem sessionStep_invalidRange {pc : SessionPc} {input : SessionInput}
    (defined : pc ≠ .invalidRange) (reached : (sessionStep pc input).1 = .invalidRange) :
    ∃ message, .other (.recognised message) ∈ (sessionStep pc input).2 ∧
      ¬Addressed message := by
  cases pc with
  | header =>
      rw [sessionStep] at reached ⊢
      split at reached
      next => simp [leaveSession] at reached
      next nonempty =>
        rw [if_neg nonempty]
        split at reached
        next whole =>
          rw [dif_pos whole]
          exact continuePayload_invalidRange reached
        next =>
          rw [sessionLoopHead] at reached
          split at reached <;> simp [leaveSession] at reached
  | payload pending =>
      rw [sessionStep] at reached ⊢
      split at reached
      next => simp [leaveSession] at reached
      next nonempty =>
        rw [if_neg nonempty]
        exact continuePayload_invalidRange reached
  | closed => simp [sessionStep] at reached
  | invalidRange => exact absurd rfl defined

/-! ## Whole sessions -/

theorem continuePayload_pc (sessionActive : Bool) {header received : List UInt8}
    (whole : header.length = DoIPHeader.size) :
    (continuePayload sessionActive header whole received).1 =
        (continuePayload true header whole received).1 ∨
      (continuePayload sessionActive header whole received).1 = .closed := by
  cases sessionActive with
  | true => exact Or.inl rfl
  | false =>
      rw [continuePayload]
      split
      next missing =>
        rw [continuePayload_of_lt true whole missing]
        exact Or.inl rfl
      next =>
        split
        · exact Or.inr rfl
        · exact Or.inr rfl

/-- The flag of the session is only ever a reason to leave it. -/
theorem sessionStep_pc (pc : SessionPc) (input : SessionInput) :
    (sessionStep pc input).1 = (sessionStep pc (.live input.bytes)).1 ∨
      (sessionStep pc input).1 = .closed := by
  cases pc with
  | header =>
      rw [sessionStep, sessionStep, SessionInput.live]
      split
      next => exact Or.inl rfl
      next =>
        split
        next whole => exact continuePayload_pc input.sessionActive whole
        next =>
          cases input.sessionActive with
          | true => exact Or.inl rfl
          | false => exact Or.inr rfl
  | payload pending =>
      rw [sessionStep, sessionStep, SessionInput.live]
      split
      next => exact Or.inl rfl
      next => exact continuePayload_pc input.sessionActive pending.header_length
  | closed => exact Or.inl rfl
  | invalidRange => exact Or.inl rfl

theorem session_closed (inputs : List SessionInput) :
    handleDoipSession.stateAfter .closed inputs = .closed := by
  apply (Transducer.run_of_absorbing _ _).1
  intro input _
  rfl

theorem stateAfter_live (pc : SessionPc) (inputs : List SessionInput) :
    handleDoipSession.stateAfter pc inputs =
        handleDoipSession.stateAfter pc (liveChunks (inputs.map SessionInput.bytes)) ∨
      handleDoipSession.stateAfter pc inputs = .closed := by
  induction inputs generalizing pc with
  | nil => exact Or.inl rfl
  | cons input inputs ih =>
      rw [Transducer.stateAfter_cons, List.map_cons, liveChunks, List.map_cons,
        Transducer.stateAfter_cons]
      change handleDoipSession.stateAfter (sessionStep pc input).1 inputs =
          handleDoipSession.stateAfter (sessionStep pc (.live input.bytes)).1
            (liveChunks (inputs.map SessionInput.bytes)) ∨
        handleDoipSession.stateAfter (sessionStep pc input).1 inputs = .closed
      rcases sessionStep_pc pc input with live | closed
      · rw [← live]
        exact ih _
      · rw [closed]
        exact Or.inr (session_closed inputs)

theorem recognised_of_stateAfter {pc : SessionPc} {inputs : List SessionInput}
    (defined : pc ≠ .invalidRange)
    (reached : handleDoipSession.stateAfter pc inputs = .invalidRange) :
    ∃ message, .other (.recognised message) ∈ handleDoipSession.output pc inputs ∧
      ¬Addressed message := by
  induction inputs generalizing pc with
  | nil => exact absurd reached defined
  | cons input inputs ih =>
      rw [Transducer.output_cons]
      by_cases now : (sessionStep pc input).1 = .invalidRange
      · rcases sessionStep_invalidRange defined now with ⟨message, messageMem, unaddressed⟩
        exact ⟨message, List.mem_append_left _ messageMem, unaddressed⟩
      · rcases ih now reached with ⟨message, messageMem, unaddressed⟩
        exact ⟨message, List.mem_append_right _ messageMem, unaddressed⟩

theorem stateAfter_ending {ending : List SessionInput}
    (ends : IsEnding (ending.map SessionInput.bytes)) {pc : SessionPc}
    (reached : handleDoipSession.stateAfter pc ending = .invalidRange) : pc = .invalidRange := by
  rcases ends with none_ | closes
  · rw [List.map_eq_nil_iff.mp none_] at reached
    exact reached
  · rcases List.map_eq_singleton_iff.mp closes with ⟨input, rfl, empty⟩
    cases pc with
    | header =>
        change (sessionStep .header input).1 = _ at reached
        simp [sessionStep, empty, leaveSession] at reached
    | payload pending =>
        change (sessionStep (.payload pending) input).1 = _ at reached
        simp [sessionStep, empty, leaveSession] at reached
    | closed =>
        rw [session_closed] at reached
        simp at reached
    | invalidRange => rfl

theorem eq_of_recognised_mem {message other : DoIPMessage}
    (recognisedMem : .other (.recognised other) ∈ recognise message) : other = message := by
  rw [recognise, List.mem_cons] at recognisedMem
  rcases recognisedMem with here | later
  · simpa using here
  · rw [handleMessage] at later
    split at later
    next => simp [sessionLoopHead, writeLocked] at later
    next =>
      split at later
      next => simp [sessionLoopHead] at later
      next => split at later <;> simp [sessionLoopHead, writeLocked] at later

theorem mem_of_recognised_mem_flatMap {messages : List DoIPMessage} {message : DoIPMessage}
    (recognisedMem : .other (.recognised message) ∈ messages.flatMap recognise) :
    message ∈ messages := by
  rcases List.mem_flatMap.mp recognisedMem with ⟨other, otherMem, here⟩
  rw [eq_of_recognised_mem here]
  exact otherMem

theorem mem_of_recognised_mem_sessionActions {messages : List DoIPMessage}
    {message : DoIPMessage}
    (recognisedMem : .other (.recognised message) ∈ sessionActions messages) :
    message ∈ messages := by
  induction messages with
  | nil => simp [sessionActions] at recognisedMem
  | cons first messages ih =>
      rw [sessionActions, List.mem_append] at recognisedMem
      rcases recognisedMem with here | later
      · rw [eq_of_recognised_mem here]
        exact List.mem_cons_self
      · split at later
        · exact List.mem_cons_of_mem _ (ih later)
        · simp at later

/-- A session which gets into an invalid range has recognised a message without addresses among
its live reads. -/
theorem exists_unaddressed_of_invalidRange {inputs ending : List SessionInput}
    (ends : IsEnding (ending.map SessionInput.bytes))
    (reached : handleDoipSession.stateAfter .header (inputs ++ ending) = .invalidRange) :
    ∃ message, .other (.recognised message) ∈ sessionOutput (inputs.map SessionInput.bytes) ∧
      ¬Addressed message := by
  rw [Transducer.stateAfter_append] at reached
  have before := stateAfter_ending ends reached
  rcases stateAfter_live .header inputs with live | closed
  · rw [live] at before
    exact recognised_of_stateAfter (by simp) before
  · rw [closed] at before
    simp at before

/-! ## Sessions which get into an invalid range -/

theorem stateAfter_singleBytes (skipped : List UInt8) :
    handleDoipSession.stateAfter .header (liveChunks (singleBytes skipped)) = .header := by
  apply (Transducer.run_of_absorbing _ _).1
  intro input inputMem
  rcases List.mem_map.mp inputMem with ⟨chunk, chunkMem, rfl⟩
  rcases List.mem_map.mp chunkMem with ⟨byte, _, rfl⟩
  exact step_header_singleByte byte

/-- Messages with one without addresses among them can be delivered with whole headers so
that the session gets into an invalid range. -/
theorem exists_cuts_invalidRange {messages : List DoIPMessage}
    (unaddressed : ∃ message ∈ messages, ¬Addressed message) (rest : List UInt8) :
    ∃ chunks, Cuts wholeHeader .header (messages.flatMap Framing.Frame.bytes ++ rest) chunks ∧
      handleDoipSession.stateAfter .header (liveChunks chunks) = .invalidRange := by
  induction messages with
  | nil => simp at unaddressed
  | cons message messages ih =>
      rcases exists_messageChunks message with ⟨chunks, delivers⟩
      have stateEq := (run_messageChunks delivers).1
      rw [List.flatMap_cons, List.append_assoc]
      by_cases addressed : Addressed message
      · have laterUnaddressed : ∃ message ∈ messages, ¬Addressed message := by
          simpa [addressed] using unaddressed
        rcases ih laterUnaddressed with ⟨laterChunks, laterCuts, reached⟩
        rw [handleMessage_of_addressed addressed] at stateEq
        refine ⟨chunks ++ laterChunks,
          cuts_messageChunks (fun _ _ _ allowed => allowed) delivers ?_, ?_⟩
        · rw [handleMessage_of_addressed addressed]
          exact laterCuts
        · rw [liveChunks, List.map_append, Transducer.stateAfter_append]
          change handleDoipSession.stateAfter
            (handleDoipSession.stateAfter .header (liveChunks chunks)) (liveChunks laterChunks) = _
          rw [stateEq, reached]
      · have invalid := (handleMessage_invalidRange_iff message).mpr addressed
        rw [invalid] at stateEq
        refine ⟨chunks ++ [], cuts_messageChunks (fun _ _ _ allowed => allowed) delivers ?_, ?_⟩
        · rw [invalid]
          exact .halted rfl
        · rw [List.append_nil]
          exact stateEq

theorem Cuts.toAnyRead {pc : SessionPc} {stream : List UInt8} {chunks : List (List UInt8)}
    (cuts : Cuts wholeHeader pc stream chunks) : Cuts anyRead pc stream chunks := by
  induction cuts with
  | done pc => exact .done pc
  | halted nothing => exact .halted nothing
  | read nonempty fits _ _ ih => exact .read nonempty fits trivial ih

theorem map_bytes_liveChunks (chunks : List (List UInt8)) :
    (liveChunks chunks).map SessionInput.bytes = chunks := by
  rw [liveChunks, List.map_map]
  exact List.map_id _

theorem not_neverInvalid_of_cuts {allowed : SessionPc → List UInt8 → List UInt8 → Prop}
    {stream : List UInt8} {chunks : List (List UInt8)} (cuts : Cuts allowed .header stream chunks)
    (reached : handleDoipSession.stateAfter .header (liveChunks chunks) = .invalidRange) :
    ¬NeverInvalid allowed stream := by
  intro never
  have defined := never (liveChunks chunks) [] (by rwa [map_bytes_liveChunks]) (Or.inl rfl)
  rw [List.append_nil] at defined
  exact defined reached

/-- A stream is safe for all cuts if and only if every message which starts somewhere in it has
room for its addresses, and for whole headers if and only if every message of its parse has. -/
theorem neverInvalid_iff (stream : List UInt8) :
    (NeverInvalid anyRead stream ↔ ∀ message, OccursIn message stream → Addressed message) ∧
    (NeverInvalid wholeHeader stream ↔
      ∀ message ∈ (doipFraming.parse stream).1, Addressed message) := by
  refine ⟨⟨?_, ?_⟩, ⟨?_, ?_⟩⟩
  · intro never message occurs
    by_contra unaddressed
    rcases occurs with ⟨offset, rest, dropEq⟩
    rcases exists_cuts_invalidRange ⟨message, List.mem_singleton_self _, unaddressed⟩ rest with
      ⟨chunks, cuts, reached⟩
    rw [List.flatMap_singleton, ← dropEq] at cuts
    have skip := (cuts_skip (stream.take offset) cuts.toAnyRead).1
    rw [List.take_append_drop] at skip
    refine not_neverInvalid_of_cuts skip ?_ never
    rw [liveChunks, List.map_append, Transducer.stateAfter_append]
    change handleDoipSession.stateAfter
      (handleDoipSession.stateAfter .header (liveChunks (singleBytes (stream.take offset))))
      (liveChunks chunks) = _
    rw [stateAfter_singleBytes, reached]
  · intro addressed inputs ending cuts ends reached
    rcases exists_unaddressed_of_invalidRange ends reached with
      ⟨message, messageMem, unaddressed⟩
    rcases output_of_cuts cuts with ⟨messages, outputEq, occur⟩
    rw [sessionOutput, outputEq] at messageMem
    exact unaddressed (addressed message (occur message (mem_of_recognised_mem_flatMap messageMem)))
  · intro never message messageMem
    by_contra unaddressed
    rcases exists_cuts_invalidRange ⟨message, messageMem, unaddressed⟩
      (doipFraming.parse stream).2 with ⟨chunks, cuts, reached⟩
    rw [Framing.flatMap_bytes_parse] at cuts
    exact not_neverInvalid_of_cuts cuts reached never
  · intro addressed inputs ending cuts ends reached
    rcases exists_unaddressed_of_invalidRange ends reached with
      ⟨message, messageMem, unaddressed⟩
    rw [sessionOutput, output_of_wholeHeader cuts] at messageMem
    exact unaddressed (addressed message (mem_of_recognised_mem_sessionActions messageMem))

def shortDiagnosticHeader : List UInt8 :=
  [2, 0xFD, 0x80, 0x01, 0, 0, 0, 3]

def shortDiagnosticPayload : List UInt8 :=
  [0x0E, 0x00, 0x10]

/-- A diagnostic message with a payload of three bytes, delivered in two reads. -/
theorem not_neverInvalid_shortDiagnostic :
    handleDoipSession.stateAfter .header
        (liveChunks [shortDiagnosticHeader, shortDiagnosticPayload]) = .invalidRange ∧
      ¬NeverInvalid wholeHeader (shortDiagnosticHeader ++ shortDiagnosticPayload) ∧
      ¬NeverInvalid anyRead (shortDiagnosticHeader ++ shortDiagnosticPayload) := by
  have reached : handleDoipSession.stateAfter .header
      (liveChunks [shortDiagnosticHeader, shortDiagnosticPayload]) = .invalidRange := by decide
  have payload : Cuts wholeHeader (handleDoipSession.step .header (.live shortDiagnosticHeader)).1
      (shortDiagnosticPayload ++ []) [shortDiagnosticPayload] :=
    .read (by decide) (by decide) (fun _ _ => by contradiction) (.done _)
  have cuts : Cuts wholeHeader .header (shortDiagnosticHeader ++ shortDiagnosticPayload)
      [shortDiagnosticHeader, shortDiagnosticPayload] :=
    .read (by decide) (by decide) (fun _ _ => rfl) payload
  exact ⟨reached, not_neverInvalid_of_cuts cuts reached,
    not_neverInvalid_of_cuts cuts.toAnyRead reached⟩

end Synapse
