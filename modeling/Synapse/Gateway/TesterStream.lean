import Synapse.Gateway.System
import Synapse.Gateway.Writes

/-!
# The stream to the tester

Both threads write to the tester socket, in pieces which may alternate. This file
shows that the stream nevertheless is a sequence of complete DoIP messages with at
most one unfinished message behind them, in every run of the gateway. The tester
which cuts it by the length in each header gets back the messages which the threads have
built, each once and those of each thread in order.
-/

namespace Synapse

open LockedStream

namespace Gateway

/-- The messages of the tester which this session has recognised, in order. -/
def requests (gateway : Gateway) : List DoIPMessage :=
  recognisedMessages (handleDoipSession.output .header gateway.mainInputs)

/-- The messages which a thread has built in this session: one for each request, and those into
which the forwarder has turned its CAN frames. -/
def built (gateway : Gateway) : GatewayThread → List (List UInt8)
  | .main => gateway.requests.flatMap answers
  | .forwarder => writes (canToDoipForwarder.output .dispatch gateway.forwarderInputs)

end Gateway

/-- The stream is whole up to one unfinished message, and every message built is in it or still to
be written. -/
structure Whole (gateway : Gateway) : Prop where
  sound : gateway.tester.Sound
  accounted : ∀ thread,
    gateway.tester.sentBy thread ++ gateway.tester.pending thread = gateway.built thread
  messages : ∀ thread, ∀ bytes ∈ gateway.built thread, IsMessage bytes
  mainPc : gateway.main = handleDoipSession.stateAfter .header gateway.mainInputs ∨
    gateway.main = .closed
  forwarderPc : gateway.forwarder =
      canToDoipForwarder.stateAfter .dispatch gateway.forwarderInputs ∨
    gateway.forwarder = .stopped
  bounded : gateway.forwarder.Bounded

theorem Whole.congr {gateway next : Gateway} (whole : Whole gateway)
    (testerEq : next.tester = gateway.tester) (mainEq : next.main = gateway.main)
    (mainInputsEq : next.mainInputs = gateway.mainInputs)
    (forwarderEq : next.forwarder = gateway.forwarder)
    (forwarderInputsEq : next.forwarderInputs = gateway.forwarderInputs) : Whole next := by
  have builtEq : next.built = gateway.built := by
    funext thread
    cases thread with
    | main => simp only [Gateway.built, Gateway.requests, mainInputsEq]
    | forwarder => simp only [Gateway.built, forwarderInputsEq]
  refine ⟨?_, ?_, ?_, ?_, ?_, ?_⟩
  · rw [testerEq]
    exact whole.sound
  · rw [testerEq, builtEq]
    exact whole.accounted
  · rw [builtEq]
    exact whole.messages
  · rw [mainEq, mainInputsEq]
    exact whole.mainPc
  · rw [forwarderEq, forwarderInputsEq]
    exact whole.forwarderPc
  · rw [forwarderEq]
    exact whole.bounded

/-- An idle thread may be given actions which write the messages it has built with them. -/
theorem Whole.submit {gateway next : Gateway} (whole : Whole gateway) {thread : GatewayThread}
    (idle : gateway.tester.todo thread = []) {actions : List GatewayAction}
    (actionsWrite : WritesMessages actions)
    (testerEq : next.tester = gateway.tester.submit thread actions)
    (builtEq : ∀ observed, next.built observed =
      gateway.built observed ++ if observed = thread then writes actions else [])
    (mainPc : next.main = handleDoipSession.stateAfter .header next.mainInputs ∨
      next.main = .closed)
    (forwarderPc : next.forwarder =
        canToDoipForwarder.stateAfter .dispatch next.forwarderInputs ∨
      next.forwarder = .stopped)
    (bounded : next.forwarder.Bounded) : Whole next := by
  refine ⟨?_, ?_, ?_, mainPc, forwarderPc, bounded⟩
  · rw [testerEq]
    exact State.submit_sound whole.sound idle actionsWrite.disciplined
  · intro observed
    rw [testerEq, State.submit_accounted whole.sound idle, whole.accounted, builtEq]
  · intro observed bytes bytesMem
    rw [builtEq, List.mem_append] at bytesMem
    rcases bytesMem with old | new
    · exact whole.messages observed bytes old
    · split at new
      · exact actionsWrite.messages bytes new
      · simp at new

theorem Whole.submit_silent {gateway next : Gateway} (whole : Whole gateway)
    (idle : gateway.tester.todo .main = []) {actions : List GatewayAction}
    (actionsWrite : WritesMessages actions) (silent : writes actions = [])
    (testerEq : next.tester = gateway.tester.submit .main actions)
    (mainEq : next.main = gateway.main ∨ next.main = .closed)
    (mainInputsEq : next.mainInputs = gateway.mainInputs)
    (forwarderEq : next.forwarder = gateway.forwarder)
    (forwarderInputsEq : next.forwarderInputs = gateway.forwarderInputs) : Whole next := by
  apply whole.submit idle actionsWrite testerEq
  · intro observed
    rw [silent, ite_self, List.append_nil]
    cases observed with
    | main => simp only [Gateway.built, Gateway.requests, mainInputsEq]
    | forwarder => simp only [Gateway.built, forwarderInputsEq]
  · rcases mainEq with mainEq | closed
    · rw [mainEq, mainInputsEq]
      exact whole.mainPc
    · exact Or.inr closed
  · rw [forwarderEq, forwarderInputsEq]
    exact whole.forwarderPc
  · rw [forwarderEq]
    exact whole.bounded

/-! ## The steps -/

theorem whole_start : Whole Gateway.start where
  sound := State.start_sound
  accounted := by
    intro thread
    cases thread <;> rfl
  messages := by
    intro thread bytes bytesMem
    cases thread <;> simp [Gateway.built, Gateway.requests, recognisedMessages, Gateway.start]
      at bytesMem
  mainPc := Or.inl rfl
  forwarderPc := Or.inl rfl
  bounded := trivial

/-- A main thread which reads has not left its loop. -/
theorem Whole.stateAfter_of_reading {gateway : Gateway} (whole : Whole gateway)
    (reading : 0 < gateway.main.requested) :
    handleDoipSession.stateAfter .header gateway.mainInputs = gateway.main := by
  rcases whole.mainPc with same | closed
  · exact same.symm
  · rw [closed] at reading
    simp [SessionPc.requested] at reading

theorem whole_testerRead {gateway next : Gateway} (whole : Whole gateway) {bytes : List UInt8}
    (stepEq : gateway.testerRead bytes = some next) : Whole next := by
  rcases Gateway.testerRead_cases stepEq with ⟨_, idle, reading, rfl⟩
  have mainEq := whole.stateAfter_of_reading reading
  have answered := sessionStep_answers gateway.main (gateway.mainInput bytes)
  apply whole.submit idle (sessionStep_writesMessages gateway.main (gateway.mainInput bytes)) rfl
  · intro observed
    cases observed with
    | main =>
        rw [if_pos rfl, answered]
        change (recognisedMessages (handleDoipSession.output .header
          (gateway.mainInputs ++ [gateway.mainInput bytes]))).flatMap answers = _
        rw [Transducer.output_concat, mainEq, recognisedMessages, List.filterMap_append,
          List.flatMap_append]
        rfl
    | forwarder =>
        rw [if_neg (by decide), List.append_nil]
        rfl
  · left
    change _ = handleDoipSession.stateAfter .header
      (gateway.mainInputs ++ [gateway.mainInput bytes])
    rw [Transducer.stateAfter_concat, mainEq]
    rfl
  · exact whole.forwarderPc
  · exact whole.bounded

theorem whole_canRead {gateway next : Gateway} (whole : Whole gateway) {read : CanRead}
    {clientWriteOk : Bool} (stepEq : gateway.canRead read clientWriteOk = some next) :
    Whole next := by
  rcases Gateway.canRead_cases stepEq with ⟨idle, reading, rfl⟩
  have forwarderEq : canToDoipForwarder.stateAfter .dispatch gateway.forwarderInputs =
      gateway.forwarder := by
    rcases whole.forwarderPc with same | stopped
    · exact same.symm
    · rw [stopped] at reading
      simp [ForwarderPc.isReading] at reading
  rcases forwarderStep_writesMessages whole.bounded (gateway.forwarderInput read clientWriteOk)
    with ⟨boundedNext, stepWrites⟩
  apply whole.submit idle stepWrites rfl
  · intro observed
    cases observed with
    | main =>
        rw [if_neg (by decide), List.append_nil]
        rfl
    | forwarder =>
        rw [if_pos rfl]
        change writes (canToDoipForwarder.output .dispatch
          (gateway.forwarderInputs ++ [gateway.forwarderInput read clientWriteOk])) = _
        rw [Transducer.output_concat, forwarderEq, writes_append]
        rfl
  · exact whole.mainPc
  · left
    change _ = canToDoipForwarder.stateAfter .dispatch
      (gateway.forwarderInputs ++ [gateway.forwarderInput read clientWriteOk])
    rw [Transducer.stateAfter_concat, forwarderEq]
    rfl
  · exact boundedNext

theorem whole_exec {gateway next : Gateway} (whole : Whole gateway) {thread : GatewayThread}
    {count : ℕ} (stepEq : gateway.exec thread count = some next) : Whole next := by
  rcases Gateway.exec_cases stepEq with ⟨tester, testerEq, quiet⟩
  have moved : Whole { gateway with tester := tester } := by
    refine ⟨?_, ?_, whole.messages, whole.mainPc, whole.forwarderPc, whole.bounded⟩
    · exact State.exec_sound whole.sound testerEq
    · intro observed
      rw [State.exec_accounted testerEq observed]
      exact whole.accounted observed
  rcases quiet with ⟨_, rfl⟩ | ⟨effect, _, rfl⟩
  · exact moved
  · apply moved.congr
    all_goals cases thread <;> cases effect <;> rfl

theorem whole_continueSending {gateway : Gateway} (whole : Whole gateway)
    (idle : gateway.tester.todo .main = []) (env : SendEnv) (request : List UInt8)
    (progress : Progress) (queued : Option (List UInt8)) :
    Whole (gateway.continueSending env request progress queued) := by
  have sends : ∀ events : List SendEvent,
      WritesMessages (events.map fun event => .other (.isotp event)) ∧
        writes (events.map fun event => (.other (.isotp event) : GatewayAction)) = [] := by
    intro events
    induction events with
    | nil => exact ⟨.nil, rfl⟩
    | cons event events ih => exact ⟨.other _ ih.1, ih.2⟩
  apply whole.submit_silent idle (sends _).1 (sends _).2
  · rfl
  · exact Or.inl rfl
  · rfl
  · rfl
  · rfl

theorem whole_step {gateway next : Gateway} {label : GatewayLabel} (whole : Whole gateway)
    (stepEq : gatewaySystem.step gateway label = some next) : Whole next := by
  rcases gateway_step_cases stepEq with ⟨acted, actEq, rfl⟩
  have actedWhole : Whole acted := by
    cases label with
    | testerRead bytes => exact whole_testerRead whole actEq
    | sendFirst env =>
        rcases Gateway.sendFirst_cases actEq with ⟨request, _, ⟨_, rfl⟩ | ⟨_, rfl⟩⟩
        · exact whole.congr rfl rfl rfl rfl rfl
        · exact whole.congr rfl rfl rfl rfl rfl
    | takeFlowControl =>
        rcases Gateway.takeFlowControl_cases actEq with
          ⟨env, request, progress, entry, queue, _, _, idle, rfl⟩
        apply whole_continueSending
        · exact whole.congr rfl rfl rfl rfl rfl
        · exact idle
    | flowControlTimeout =>
        rcases Gateway.flowControlTimeout_cases actEq with
          ⟨env, request, progress, _, _, idle, rfl⟩
        exact whole_continueSending whole idle env request progress none
    | canRead read clientWriteOk => exact whole_canRead whole actEq
    | exec thread count => exact whole_exec whole actEq
    | mainExit =>
        rcases Gateway.mainExit_cases actEq with ⟨_, idle, rfl⟩
        apply whole.submit_silent idle writesMessages_endSession rfl
        · rfl
        · exact Or.inr rfl
        · rfl
        · rfl
        · rfl
    | forwarderExit =>
        rcases Gateway.forwarderExit_cases actEq with ⟨_, rfl⟩
        exact ⟨whole.sound, whole.accounted, whole.messages, whole.mainPc, Or.inr rfl, trivial⟩
    | nextSession =>
        -- A new connection has a new stream; only the queue is carried over.
        rw [Gateway.nextSession_cases actEq]
        exact whole_start.congr rfl rfl rfl rfl rfl
  exact actedWhole.congr rfl rfl rfl rfl rfl

theorem whole_of_reachable {gateway : Gateway}
    (reached : gatewaySystem.Reachable TransitionSystem.anyStep gateway) : Whole gateway := by
  apply reached.invariant
  · exact whole_start
  · intro state label next stateWhole _ stepEq
    exact whole_step stateWhole stepEq

/-! ## Reading the stream back -/

theorem exists_messages {entries : List (GatewayThread × List UInt8)}
    (messages : ∀ entry ∈ entries, IsMessage entry.2) :
    ∃ sent : List (GatewayThread × DoIPMessage),
      entries = sent.map fun entry => (entry.1, entry.2.bytes) := by
  induction entries with
  | nil => exact ⟨[], rfl⟩
  | cons entry entries ih =>
      rcases List.forall_mem_cons.mp messages with ⟨⟨message, bytesEq⟩, others⟩
      rcases ih others with ⟨sent, sentEq⟩
      refine ⟨(entry.1, message) :: sent, ?_⟩
      rw [List.map_cons, ← sentEq, bytesEq]

theorem Whole.isMessage_of_sent {gateway : Gateway} (whole : Whole gateway) :
    ∀ entry ∈ gateway.tester.sent, IsMessage entry.2 := by
  intro entry entryMem
  apply whole.messages entry.1
  rw [← whole.accounted, List.mem_append]
  left
  simp only [State.sentBy, List.mem_map, List.mem_filter]
  exact ⟨entry, ⟨entryMem, by simp⟩, rfl⟩

theorem Whole.not_complete_torn {gateway : Gateway} (whole : Whole gateway) :
    ¬doipFraming.Complete gateway.tester.torn := by
  by_cases finished : gateway.tester.torn = []
  · rw [finished]
    decide
  · rcases State.Sound.torn_prefix whole.sound finished with
      ⟨thread, missing, later, missingNe, _, pendingEq⟩
    have message : IsMessage (gateway.tester.torn ++ missing) := by
      apply whole.messages thread
      rw [← whole.accounted, pendingEq]
      simp
    rcases message with ⟨message, bytesEq⟩
    exact Framing.not_complete_of_torn bytesEq missingNe

theorem Whole.torn_eq_nil {gateway : Gateway} (whole : Whole gateway)
    (idle : ∀ thread, gateway.tester.todo thread = []) : gateway.tester.torn = [] := by
  rw [State.torn]
  split
  next => rfl
  next thread _ => exact (State.Sound.idle whole.sound (idle thread)).2

/-- In every state of every run, the stream to the tester parses into messages which the threads
of the session have built, those of each thread in order and each once, and a part of one
more message while a thread is writing; an idle thread has no message left to write. -/
theorem tester_stream_parses {gateway : Gateway}
    (reached : gatewaySystem.Reachable TransitionSystem.anyStep gateway) :
    ∃ (sent : List (GatewayThread × DoIPMessage)) (torn : List UInt8),
      gateway.tester.stream = (sent.map Prod.snd).flatMap Framing.Frame.bytes ++ torn ∧
        doipFraming.parse gateway.tester.stream = (sent.map Prod.snd, torn) ∧
        ((∀ thread, gateway.tester.todo thread = []) → torn = []) ∧
        ∀ thread, ∃ unsent,
          ((sent.filter fun entry => entry.1 = thread).map fun entry => entry.2.bytes) ++ unsent =
              gateway.built thread ∧
            (gateway.tester.todo thread = [] → unsent = []) := by
  have whole := whole_of_reachable reached
  rcases exists_messages whole.isMessage_of_sent with ⟨sent, sentEq⟩
  have streamEq : gateway.tester.stream =
      (sent.map Prod.snd).flatMap Framing.Frame.bytes ++ gateway.tester.torn := by
    rw [whole.sound.stream_eq, sentEq, List.map_map, List.flatMap_map, List.flatMap_def]
    rfl
  refine ⟨sent, gateway.tester.torn, streamEq, ?_, whole.torn_eq_nil, ?_⟩
  · rw [streamEq]
    exact Framing.parse_flatMap_append _ whole.not_complete_torn
  · intro thread
    refine ⟨gateway.tester.pending thread, ?_, ?_⟩
    · rw [← whole.accounted thread, State.sentBy, sentEq, List.filter_map, List.map_map]
      rfl
    · intro idle
      simp [State.pending, idle]

/-- The forwarder receives a response while the main thread is inside the write of a routing
activation response, and waits for the mutex. -/
def overlappingLabels : List GatewayLabel :=
  [.testerRead [2, 0xFD, 0x00, 0x05, 0, 0, 0, 1], .testerRead [0x00], .exec .main 0,
    .exec .main 0, .exec .main 5, .canRead (.frame (.full #v[2, 0x50, 0x03, 0, 0, 0, 0, 0])) true,
    .exec .main 12, .exec .main 0, .exec .forwarder 0, .exec .forwarder 14, .exec .forwarder 0]

/-- Both messages arrive whole, one behind the other. -/
theorem tester_stream_parses_overlapping :
    ∃ gateway, gatewaySystem.Reachable TransitionSystem.anyStep gateway ∧
      gateway.tester.stream = routingActivationResponse ++ forwardedMessage [0x50, 0x03] ∧
      ∃ sent : List (GatewayThread × DoIPMessage),
        doipFraming.parse gateway.tester.stream = (sent.map Prod.snd, []) := by
  have ends : (gatewaySystem.run .start overlappingLabels).map (fun gateway =>
      (gateway.tester.stream, (gateway.tester.todo .main).length,
        (gateway.tester.todo .forwarder).length)) =
      some (routingActivationResponse ++ forwardedMessage [0x50, 0x03], 0, 0) := by
    decide
  rcases Option.map_eq_some_iff.mp ends with ⟨gateway, runEq, endEq⟩
  simp only [Prod.mk.injEq, List.length_eq_zero_iff] at endEq
  have allowed := gatewaySystem.allowedRun_anyStep .start overlappingLabels
  have reached := TransitionSystem.Reachable.initial.run allowed runEq
  rcases tester_stream_parses reached with ⟨sent, torn, _, parseEq, whole, _⟩
  have idle : ∀ thread, gateway.tester.todo thread = [] := by
    intro thread
    cases thread with
    | main => exact endEq.2.1
    | forwarder => exact endEq.2.2
  rw [whole idle] at parseEq
  exact ⟨gateway, reached, endEq.1, sent, parseEq⟩

end Synapse
