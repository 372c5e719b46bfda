import Mathlib.Data.Finset.Card
import Mathlib.Data.Finset.Range
import Synapse.Gateway.Calls

/-!
# Acknowledgements come before answers

The main thread acknowledges a request before it sends it, the controller answers
what it has received, and the forwarder delivers what it has read. This file
ties the three together for every interleaving: no more requests are on the CAN bus
than acknowledgements are in the stream, and behind whatever answers a request stands
in the stream the acknowledgement of that request.
-/

namespace Synapse

open LockedStream

/-! ## Answers behind acknowledgements -/

/-- The number of acknowledgements among the finished writes. -/
def acknowledgements (entries : List (GatewayThread × List UInt8)) : ℕ :=
  entries.count (.main, positiveAck)

def forwardedMessages (entries : List (GatewayThread × List UInt8)) : ℕ :=
  entries.countP fun entry => entry.1 = .forwarder

/-- Each forwarded message stands behind the acknowledgements of the requests which it answers. -/
def AnsweredInOrder (entries : List (GatewayThread × List UInt8))
    (origins : List (List (Option ℕ))) : Prop :=
  ∀ before message after, entries = before ++ (.forwarder, message) :: after →
    ∃ origin, origins[forwardedMessages before]? = some origin ∧
      ∀ number, some number ∈ origin → number < acknowledgements before

structure AnswersAcknowledged (exchange : Exchange) : Prop where
  acknowledged : CallsAcknowledged exchange.gateway exchange.calls
  written_lt : ∀ number ∈ exchange.written, number < exchange.calls.length
  queue_lt : ∀ entry ∈ exchange.canQueue, ∀ number, entry.answers = some number →
    number < exchange.calls.length
  parts_lt : ∀ number, some number ∈ exchange.parts → number < exchange.calls.length
  origins_length : exchange.origins.length =
    (exchange.gateway.tester.sentBy .forwarder ++
      exchange.gateway.tester.pending .forwarder).length
  origins_lt : ∀ origin ∈ exchange.origins, ∀ number, some number ∈ origin →
    number < exchange.calls.length
  inOrder : AnsweredInOrder exchange.gateway.tester.sent exchange.origins

theorem count_sentBy_main (state : State GatewayThread UInt8 Effect) :
    (state.sentBy .main).count positiveAck = acknowledgements state.sent := by
  rw [State.sentBy, acknowledgements]
  induction state.sent with
  | nil => rfl
  | cons entry entries ih =>
      rcases entry with ⟨thread, bytes⟩
      cases thread with
      | main =>
          rw [List.filter_cons_of_pos (by simp), List.map_cons, List.count_cons, List.count_cons,
            ih]
          simp
      | forwarder =>
          rw [List.filter_cons_of_neg (by simp), List.count_cons_of_ne (by simp)]
          exact ih

theorem length_sentBy_forwarder (state : State GatewayThread UInt8 Effect) :
    (state.sentBy .forwarder).length = forwardedMessages state.sent := by
  rw [State.sentBy, List.length_map, forwardedMessages, List.countP_eq_length_filter]

/-- New messages are in order once all requests which they can answer are acknowledged. -/
theorem AnsweredInOrder.append {entries more : List (GatewayThread × List UInt8)}
    {origins : List (List (Option ℕ))} (inOrder : AnsweredInOrder entries origins)
    (enough : forwardedMessages (entries ++ more) ≤ origins.length)
    (acknowledged : ∀ origin ∈ origins, ∀ number, some number ∈ origin →
      number < acknowledgements entries) : AnsweredInOrder (entries ++ more) origins := by
  intro before message after split
  have behind : ∀ later, before = entries ++ later →
      ∃ origin, origins[forwardedMessages before]? = some origin ∧
        ∀ number, some number ∈ origin → number < acknowledgements before := by
    intro later beforeEq
    have short : forwardedMessages before < origins.length := by
      apply Nat.lt_of_lt_of_le _ enough
      rw [split, forwardedMessages, forwardedMessages, List.countP_append,
        List.countP_cons_of_pos (by simp)]
      omega
    refine ⟨origins[forwardedMessages before], List.getElem?_eq_getElem short, ?_⟩
    intro number numberMem
    have known := acknowledged _ (List.getElem_mem short) number numberMem
    rw [beforeEq, acknowledgements, List.count_append]
    exact Nat.lt_of_lt_of_le known (Nat.le_add_right _ _)
  rcases List.append_eq_append_iff.mp split with ⟨later, beforeEq, _⟩ | ⟨later, entriesEq, laterEq⟩
  · exact behind later beforeEq
  · cases later with
    | nil => exact behind [] (by rw [entriesEq, List.append_nil, List.append_nil])
    | cons entry later =>
        rw [List.cons_append, List.cons.injEq] at laterEq
        rcases laterEq with ⟨rfl, _⟩
        exact inOrder before message later entriesEq

/-- More messages may be built at any time. -/
theorem AnsweredInOrder.append_origins {entries : List (GatewayThread × List UInt8)}
    {origins : List (List (Option ℕ))} (inOrder : AnsweredInOrder entries origins)
    (more : List (List (Option ℕ))) : AnsweredInOrder entries (origins ++ more) := by
  intro before message after split
  rcases inOrder before message after split with ⟨origin, originEq, known⟩
  rcases List.getElem?_eq_some_iff.mp originEq with ⟨short, _⟩
  exact ⟨origin, by rw [List.getElem?_append_left short, originEq], known⟩

/-- The calls made and the calls still to be made are those of the session thread. -/
def CallsRequested (exchange : Exchange) : Prop :=
  exchange.calls ++ sendRequests (exchange.gateway.tester.todo .main) =
    sendRequests (handleDoipSession.output .header exchange.gateway.mainInputs)

section Answers

variable {exchange next : Exchange}

/-- A new session has a new stream, and nothing of it is answered yet. -/
theorem answersAcknowledged_start {gateway : Gateway}
    (testerEq : gateway.tester = LockedStream.start) (sendingEq : gateway.sending = .idle) :
    AnswersAcknowledged (.ofGateway gateway) where
  acknowledged := by
    apply callsAcknowledged_start.congr testerEq
    intro notIdle
    exact absurd sendingEq notIdle
  written_lt := by simp [Exchange.ofGateway]
  queue_lt := by simp [Exchange.ofGateway]
  parts_lt := by simp [Exchange.ofGateway]
  origins_length := by
    rw [Exchange.ofGateway, testerEq]
    rfl
  origins_lt := by simp [Exchange.ofGateway]
  inOrder := by
    intro before message after split
    simp [Exchange.ofGateway, testerEq, LockedStream.start] at split

/-- A step writes frames of the request of the latest call. -/
theorem newWritten_lt (acknowledged : CallsAcknowledged exchange.gateway exchange.calls)
    {label : GatewayLabel} {gateway : Gateway} (actEq : exchange.gateway.act label = some gateway) :
    ∀ number ∈ exchange.newWritten label, number < exchange.calls.length := by
  have latest : exchange.calls ≠ [] → exchange.sendingNumber < exchange.calls.length := by
    intro called
    have positive := List.length_pos_iff.mpr called
    rw [Exchange.sendingNumber]
    omega
  intro number numberMem
  cases label with
  | sendFirst env =>
      rcases Gateway.sendFirst_cases actEq with ⟨request, sendingEq, _⟩
      have called := acknowledged.sending (by simp [sendingEq])
      rw [Exchange.newWritten] at numberMem
      split at numberMem
      · rw [List.mem_singleton.mp numberMem]
        exact latest called
      · simp at numberMem
  | exec thread count =>
      cases thread with
      | main =>
          simp only [Exchange.newWritten] at numberMem
          split at numberMem
          next frame effectEq =>
            have called : exchange.calls ≠ [] := by
              simp only [Gateway.nextEffect?] at effectEq
              split at effectEq
              next effect rest todoEq =>
                rw [Option.some.injEq] at effectEq
                subst effectEq
                exact acknowledged.events _ (by rw [todoEq]; exact List.mem_cons_self)
              next => simp at effectEq
            rw [List.mem_singleton.mp numberMem]
            exact latest called
          next => simp at numberMem
      | forwarder => simp [Exchange.newWritten] at numberMem
  | _ => simp [Exchange.newWritten] at numberMem

theorem AnswersAcknowledged.calls_le (answers : AnswersAcknowledged exchange) :
    exchange.calls.length ≤ acknowledgements exchange.gateway.tester.sent := by
  rw [← count_sentBy_main]
  exact answers.acknowledged.calls_le

/-- Writing what has been built keeps the order: whatever it answers is acknowledged already. -/
theorem AnswersAcknowledged.inOrder_sent (answers : AnswersAcknowledged exchange)
    {tester : State GatewayThread UInt8 Effect}
    (sentEq : ∃ more, tester.sent = exchange.gateway.tester.sent ++ more)
    (accountedEq : tester.sentBy .forwarder ++ tester.pending .forwarder =
      exchange.gateway.tester.sentBy .forwarder ++ exchange.gateway.tester.pending .forwarder) :
    AnsweredInOrder tester.sent exchange.origins := by
  rcases sentEq with ⟨more, sentEq⟩
  have enough : forwardedMessages tester.sent ≤ exchange.origins.length := by
    rw [answers.origins_length, ← accountedEq, List.length_append, length_sentBy_forwarder]
    exact Nat.le_add_right _ _
  rw [sentEq] at enough ⊢
  apply answers.inOrder.append enough
  intro origin originMem number numberMem
  exact Nat.lt_of_lt_of_le (answers.origins_lt origin originMem number numberMem) answers.calls_le

theorem observe_of_inSession {label : GatewayLabel} (inSession : label ≠ .nextSession)
    (gateway : Gateway) :
    exchange.observe gateway label =
      { exchange with
        gateway := gateway
        calls := exchange.calls ++ exchange.gateway.newCalls label
        written := exchange.written ++ exchange.newWritten label } := by
  cases label with
  | nextSession => exact absurd rfl inSession
  | _ => rfl

theorem AnswersAcknowledged.gateway (answers : AnswersAcknowledged exchange)
    (sound : exchange.gateway.tester.Sound) {label : GatewayLabel} {gateway : Gateway}
    (noRead : ∀ read clientWriteOk, label ≠ .canRead read clientWriteOk)
    (stepEq : gatewaySystem.step exchange.gateway label = some gateway) :
    AnswersAcknowledged (exchange.observe gateway label) := by
  rcases gateway_step_cases stepEq with ⟨acted, actEq, rfl⟩
  by_cases inSession : label = .nextSession
  · subst inSession
    rw [Gateway.nextSession_cases actEq]
    exact answersAcknowledged_start rfl rfl
  · have acknowledged := answers.acknowledged.act sound inSession actEq
    have grows : exchange.calls.length ≤
        (exchange.calls ++ exchange.gateway.newCalls label).length := by
      rw [List.length_append]
      exact Nat.le_add_right _ _
    have accounted := forwarder_accounted_of_act sound inSession noRead actEq
    rw [observe_of_inSession inSession]
    refine ⟨acknowledged.congr rfl id, ?_, ?_, ?_, ?_, ?_, ?_⟩
    · intro number numberMem
      apply Nat.lt_of_lt_of_le _ grows
      rcases List.mem_append.mp numberMem with old | new
      · exact answers.written_lt number old
      · exact newWritten_lt answers.acknowledged actEq number new
    · intro entry entryMem number answersEq
      exact Nat.lt_of_lt_of_le (answers.queue_lt entry entryMem number answersEq) grows
    · intro number numberMem
      exact Nat.lt_of_lt_of_le (answers.parts_lt number numberMem) grows
    · rw [answers.origins_length, ← accounted]
    · intro origin originMem number numberMem
      exact Nat.lt_of_lt_of_le (answers.origins_lt origin originMem number numberMem) grows
    · have sentEq := sent_of_act inSession actEq
      exact answers.inOrder_sent sentEq accounted

/-- A frame of the controller answers a request of which a frame was written. -/
theorem AnswersAcknowledged.ecuSend (answers : AnswersAcknowledged exchange)
    (frame : ReceivedFrame) {number? : Option ℕ}
    (isAllowed : AnswersWritten exchange (.ecuSend frame number?)) :
    AnswersAcknowledged
      { exchange with canQueue := exchange.canQueue ++ [⟨frame, number?⟩] } := by
  refine ⟨answers.acknowledged, answers.written_lt, ?_, answers.parts_lt,
    answers.origins_length, answers.origins_lt, answers.inOrder⟩
  intro entry entryMem number answersEq
  rcases List.mem_append.mp entryMem with old | new
  · exact answers.queue_lt entry old number answersEq
  · rw [List.mem_singleton.mp new] at answersEq
    simp only at answersEq
    subst answersEq
    exact answers.written_lt number isAllowed

/-- The forwarder reads a frame of the queue, or nothing. -/
theorem AnswersAcknowledged.received (answers : AnswersAcknowledged exchange)
    (sound : exchange.gateway.tester.Sound) {read : CanRead} {clientWriteOk : Bool}
    {gateway : Gateway} {queue : List EcuFrame} {numbers : List (Option ℕ)}
    (stepEq : gatewaySystem.step exchange.gateway (.canRead read clientWriteOk) = some gateway)
    (queueMem : ∀ entry ∈ queue, entry ∈ exchange.canQueue)
    (numbersMem : ∀ answer ∈ numbers, ∃ entry ∈ exchange.canQueue, entry.answers = answer) :
    AnswersAcknowledged (exchange.received gateway queue numbers) := by
  rcases gateway_step_cases stepEq with ⟨acted, actEq, rfl⟩
  have acknowledged := answers.acknowledged.act sound (by simp) actEq
  rw [newCalls_of_not_exec (by simp), List.append_nil] at acknowledged
  rcases Gateway.canRead_cases actEq with ⟨idle, _, rfl⟩
  have parts_lt : ∀ number, some number ∈
      (if exchange.gateway.forwarder = .dispatch then [] else exchange.parts) ++ numbers →
        number < exchange.calls.length := by
    intro number numberMem
    rcases List.mem_append.mp numberMem with old | new
    · split at old
      · simp at old
      · exact answers.parts_lt number old
    · rcases numbersMem _ new with ⟨entry, entryMem, answersEq⟩
      exact answers.queue_lt entry entryMem number answersEq
  refine ⟨acknowledged.congr rfl id, answers.written_lt, ?_, parts_lt, ?_, ?_, ?_⟩
  · intro entry entryMem
    exact answers.queue_lt entry (queueMem entry entryMem)
  · have accounted := State.submit_accounted sound idle
      (forwarderStep exchange.gateway.forwarder
        (exchange.gateway.forwarderInput read clientWriteOk)).2 .forwarder
    rw [Exchange.received, List.length_append, List.length_map, answers.origins_length]
    simp only [Gateway.submit]
    rw [accounted, if_pos rfl]
    simp [State.submit, Nat.add_assoc]
  · intro origin originMem number numberMem
    rcases List.mem_append.mp originMem with old | new
    · exact answers.origins_lt origin old number numberMem
    · rcases List.mem_map.mp new with ⟨_, _, rfl⟩
      exact parts_lt number numberMem
  · exact answers.inOrder.append_origins _

theorem CallsRequested.gateway (requested : CallsRequested exchange)
    (whole : Whole exchange.gateway) {label : GatewayLabel} {gateway : Gateway}
    (stepEq : gatewaySystem.step exchange.gateway label = some gateway) :
    CallsRequested (exchange.observe gateway label) := by
  rcases gateway_step_cases stepEq with ⟨acted, actEq, rfl⟩
  by_cases inSession : label = .nextSession
  · subst inSession
    rw [Gateway.nextSession_cases actEq]
    rfl
  · rw [observe_of_inSession inSession]
    by_cases read : ∃ bytes, label = .testerRead bytes
    · rcases read with ⟨bytes, rfl⟩
      rcases Gateway.testerRead_cases actEq with ⟨_, idle, reading, rfl⟩
      have mainEq := whole.stateAfter_of_reading reading
      have silent : sendRequests (exchange.gateway.tester.todo .main) = [] := by
        rw [idle]
        rfl
      rw [CallsRequested, silent, List.append_nil] at requested
      have outputEq := Transducer.output_concat handleDoipSession .header
        exchange.gateway.mainInputs (exchange.gateway.mainInput bytes)
      rw [mainEq] at outputEq
      simp only [CallsRequested, Gateway.submit, State.submit, Function.update_self]
      rw [newCalls_of_not_exec (by simp), List.append_nil, requested, outputEq, sendRequests,
        sendRequests, sendRequests, List.filterMap_append]
      rfl
    · have noRead : ∀ bytes, label ≠ .testerRead bytes := by
        intro bytes labelEq
        exact read ⟨bytes, labelEq⟩
      rcases sendRequests_of_act inSession noRead actEq with ⟨inputsEq, callsEq⟩
      rw [CallsRequested]
      change exchange.calls ++ exchange.gateway.newCalls label ++
          sendRequests (acted.tester.todo .main) =
        sendRequests (handleDoipSession.output .header acted.mainInputs)
      rw [List.append_assoc, callsEq, inputsEq]
      exact requested

theorem answersAcknowledged_of_reachable
    (reached : exchangeSystem.Reachable AnswersWritten exchange) :
    AnswersAcknowledged exchange := by
  induction reached with
  | initial => exact answersAcknowledged_start rfl rfl
  | step reachedBefore isAllowed stepEq ih =>
      have sound := (whole_of_reachable (Exchange.reachable_gateway reachedBefore)).sound
      rcases Exchange.step_cases stepEq with ⟨label, gateway, _, gatewayEq, noRead, rfl⟩ |
        ⟨frame, answers, rfl, rfl⟩ |
        ⟨read, clientWriteOk, gateway, queue, answers, gatewayEq, queueMem, numbersMem, rfl⟩
      · exact ih.gateway sound noRead gatewayEq
      · exact ih.ecuSend frame isAllowed
      · exact ih.received sound gatewayEq queueMem numbersMem

theorem callsRequested_of_reachable {allowed : Exchange → ExchangeLabel → Prop}
    (reached : exchangeSystem.Reachable allowed exchange) : CallsRequested exchange := by
  induction reached with
  | initial => rfl
  | step reachedBefore _ stepEq ih =>
      have whole := whole_of_reachable (Exchange.reachable_gateway reachedBefore)
      rcases Exchange.step_cases stepEq with ⟨label, gateway, _, gatewayEq, _, rfl⟩ |
        ⟨frame, answers, _, rfl⟩ |
        ⟨read, clientWriteOk, gateway, queue, answers, gatewayEq, _, _, rfl⟩
      · exact ih.gateway whole gatewayEq
      · exact ih
      · -- The exchange keeps of a read what it keeps of any step, and the marks besides.
        have observed := ih.gateway whole gatewayEq
        rw [observe_of_inSession (by simp), newCalls_of_not_exec (by simp), List.append_nil]
          at observed
        exact observed

/-- In every state of every run in which the controller answers only what has been sent to it, the
stream holds at least one acknowledgement for each request of which a frame was written, and behind
an answer to the request with a number stand the acknowledgements up to that number. -/
theorem answers_behind_acknowledgements
    (reached : exchangeSystem.Reachable AnswersWritten exchange) :
    exchange.gateway.tester.stream =
        (exchange.gateway.tester.sent.map Prod.snd).flatten ++ exchange.gateway.tester.torn ∧
      exchange.calls <+: diagnosticRequests exchange.gateway.requests ∧
      AnsweredInOrder exchange.gateway.tester.sent exchange.origins ∧
      (∀ origin ∈ exchange.origins, ∀ number, some number ∈ origin →
        number < acknowledgements exchange.gateway.tester.sent) ∧
      exchange.written.toFinset.card ≤ acknowledgements exchange.gateway.tester.sent := by
  have whole := whole_of_reachable (Exchange.reachable_gateway reached)
  have answers := answersAcknowledged_of_reachable reached
  have requested := callsRequested_of_reachable reached
  refine ⟨whole.sound.stream_eq, ?_, answers.inOrder, ?_, ?_⟩
  · have called : exchange.calls <+:
        sendRequests (handleDoipSession.output .header exchange.gateway.mainInputs) :=
      ⟨_, requested⟩
    exact called.trans (sendRequests_output .header exchange.gateway.mainInputs)
  · intro origin originMem number numberMem
    exact Nat.lt_of_lt_of_le (answers.origins_lt origin originMem number numberMem) answers.calls_le
  · have numbers : exchange.written.toFinset ⊆
        Finset.range (acknowledgements exchange.gateway.tester.sent) := by
      intro number numberMem
      rw [List.mem_toFinset] at numberMem
      rw [Finset.mem_range]
      exact Nat.lt_of_lt_of_le (answers.written_lt number numberMem) answers.calls_le
    have card := Finset.card_le_card numbers
    rwa [Finset.card_range] at card

/-- A diagnostic request is acknowledged and sent, and the controller answers it. -/
def acknowledgedLabels : List ExchangeLabel :=
  [.gateway (.testerRead [2, 0xFD, 0x80, 0x01, 0, 0, 0, 6]),
    .gateway (.testerRead [0x0E, 0x00, 0x02, 0x01, 0x10, 0x01]), .gateway (.exec .main 0),
    .gateway (.exec .main 0), .gateway (.exec .main 13), .gateway (.exec .main 0),
    .gateway (.exec .main 0), .gateway (.sendFirst acceptingEnv),
    .ecuSend (.full #v[2, 0x50, 0x01, 0, 0, 0, 0, 0]) (some 0), .canReceive true,
    .gateway (.exec .forwarder 0), .gateway (.exec .forwarder 14), .gateway (.exec .forwarder 0)]

/-- The answer is in the stream behind the acknowledgement. -/
theorem answers_behind_acknowledgements_answered :
    ∃ exchange, exchangeSystem.Reachable AnswersWritten exchange ∧
      exchange.gateway.tester.sent =
        [(.main, positiveAck), (.forwarder, forwardedMessage [0x50, 0x01])] ∧
      exchange.origins = [[some 0]] ∧
      AnsweredInOrder exchange.gateway.tester.sent exchange.origins := by
  have ends : (exchangeSystem.run (.ofGateway .start) acknowledgedLabels).map (fun exchange =>
      (exchange.gateway.tester.sent, exchange.origins)) =
      some ([(.main, positiveAck), (.forwarder, forwardedMessage [0x50, 0x01])],
        [[some 0]]) := by
    decide
  rcases Option.map_eq_some_iff.mp ends with ⟨exchange, runEq, endEq⟩
  rw [Prod.mk.injEq] at endEq
  have allowed :
      exchangeSystem.AllowedRun AnswersWritten (.ofGateway .start) acknowledgedLabels := by
    decide
  have reached := TransitionSystem.Reachable.initial.run allowed runEq
  exact ⟨exchange, reached, endEq.1, endEq.2, (answers_behind_acknowledgements reached).2.2.1⟩

end Answers

end Synapse
