import Synapse.Gateway.TesterStream

/-!
# The gateway and the controller

This file puts the controller beside the gateway. Its frames wait in the receive
queue of the CAN socket, which belongs to the session, until the forwarder reads
them. Each frame may be marked with the number of the request which it answers.
Beside the gateway the state keeps what has happened in the session: the calls of
`isotp_send`, the requests of which a frame was written, and for each message which
the forwarder has built the marks of the frames read for it. No step of the gateway
looks at these.
-/

namespace Synapse

open LockedStream

/-- A frame in the receive queue, with the number of the request which it answers. -/
structure EcuFrame where
  frame : ReceivedFrame
  answers : Option ℕ

structure Exchange where
  gateway : Gateway
  canQueue : List EcuFrame
  calls : List (List UInt8)
  written : List ℕ
  /-- The marks of the frames read for the message which the forwarder is receiving. -/
  parts : List (Option ℕ)
  origins : List (List (Option ℕ))

inductive ExchangeLabel where
  /-- A step of the gateway other than a read on the CAN socket. -/
  | gateway (label : GatewayLabel)
  | ecuSend (frame : ReceivedFrame) (answers : Option ℕ)
  | canReceive (clientWriteOk : Bool)
  | canTimeout

/-- The calls of `isotp_send` which a step makes. -/
def Gateway.newCalls (gateway : Gateway) : GatewayLabel → List (List UInt8)
  | .exec .main _ =>
      match gateway.nextEffect? .main with
      | some (.isotpSend request) => [request]
      | _ => []
  | _ => []

namespace Exchange

/-- The exchange at the start of a session. -/
def ofGateway (gateway : Gateway) : Exchange where
  gateway := gateway
  canQueue := []
  calls := []
  written := []
  parts := []
  origins := []

/-- The number of the request which the main thread is sending, counted from zero. -/
def sendingNumber (exchange : Exchange) : ℕ :=
  exchange.calls.length - 1

/-- The requests of which a step writes a frame which the CAN socket accepts. -/
def newWritten (exchange : Exchange) : GatewayLabel → List ℕ
  | .sendFirst env => if env.accepts 0 then [exchange.sendingNumber] else []
  | .exec .main _ =>
      match exchange.gateway.nextEffect? .main with
      | some (.isotp (.canWrite _ true)) => [exchange.sendingNumber]
      | _ => []
  | _ => []

/-- Keep what a step of the gateway has done. -/
def observe (exchange : Exchange) (next : Gateway) : GatewayLabel → Exchange
  | .nextSession => ofGateway next
  | label =>
      { exchange with
        gateway := next
        calls := exchange.calls ++ exchange.gateway.newCalls label
        written := exchange.written ++ exchange.newWritten label }

/-- Keep what the forwarder has done with a read: a read in its own loop starts a message. -/
def received (exchange : Exchange) (next : Gateway) (queue : List EcuFrame)
    (answers : List (Option ℕ)) : Exchange :=
  let parts := (if exchange.gateway.forwarder = .dispatch then [] else exchange.parts) ++ answers
  { exchange with
    gateway := next
    canQueue := queue
    parts := parts
    origins := exchange.origins ++ (writes (next.tester.todo .forwarder)).map fun _ => parts }

def step (exchange : Exchange) : ExchangeLabel → Option Exchange
  | .gateway (.canRead _ _) => none
  | .gateway label =>
      (gatewaySystem.step exchange.gateway label).map fun next => exchange.observe next label
  | .ecuSend frame answers =>
      some { exchange with canQueue := exchange.canQueue ++ [⟨frame, answers⟩] }
  | .canReceive clientWriteOk =>
      match exchange.canQueue with
      | [] => none
      | entry :: queue =>
          (gatewaySystem.step exchange.gateway (.canRead (.frame entry.frame) clientWriteOk)).map
            fun next => exchange.received next queue [entry.answers]
  | .canTimeout =>
      (gatewaySystem.step exchange.gateway (.canRead .failed true)).map
        fun next => exchange.received next exchange.canQueue []

end Exchange

def exchangeSystem : TransitionSystem Exchange ExchangeLabel where
  initial := .ofGateway .start
  step := Exchange.step

/-- The controller answers a request only when a frame of it was written; that it waits for the
last one is not needed. -/
def AnswersWritten (exchange : Exchange) : ExchangeLabel → Prop
  | .ecuSend _ (some number) => number ∈ exchange.written
  | _ => True

instance (exchange : Exchange) (label : ExchangeLabel) :
    Decidable (AnswersWritten exchange label) :=
  match label with
  | .ecuSend _ (some _) => inferInstanceAs (Decidable (_ ∈ _))
  | .ecuSend _ none => isTrue trivial
  | .gateway _ => isTrue trivial
  | .canReceive _ => isTrue trivial
  | .canTimeout => isTrue trivial

namespace Exchange

variable {exchange next : Exchange}

theorem gateway_observe (exchange : Exchange) (gateway : Gateway) (label : GatewayLabel) :
    (exchange.observe gateway label).gateway = gateway := by
  cases label <;> rfl

/-- Everything which can happen: a step of the gateway, a frame of the controller, or a read. -/
theorem step_cases {label : ExchangeLabel} (stepEq : exchange.step label = some next) :
    (∃ gatewayLabel gateway, label = .gateway gatewayLabel ∧
      gatewaySystem.step exchange.gateway gatewayLabel = some gateway ∧
      (∀ read clientWriteOk, gatewayLabel ≠ .canRead read clientWriteOk) ∧
      next = exchange.observe gateway gatewayLabel) ∨
    (∃ frame answers, label = .ecuSend frame answers ∧
      next = { exchange with canQueue := exchange.canQueue ++ [⟨frame, answers⟩] }) ∨
    (∃ read clientWriteOk gateway queue answers,
      gatewaySystem.step exchange.gateway (.canRead read clientWriteOk) = some gateway ∧
      (∀ entry ∈ queue, entry ∈ exchange.canQueue) ∧
      (∀ answer ∈ answers, ∃ entry ∈ exchange.canQueue, entry.answers = answer) ∧
      next = exchange.received gateway queue answers) := by
  cases label with
  | gateway gatewayLabel =>
      left
      cases gatewayLabel with
      | canRead read clientWriteOk => simp [step] at stepEq
      | _ =>
          rcases Option.map_eq_some_iff.mp stepEq with ⟨gateway, gatewayEq, nextEq⟩
          exact ⟨_, gateway, rfl, gatewayEq, by simp, nextEq.symm⟩
  | ecuSend frame answers =>
      right; left
      exact ⟨frame, answers, rfl, (Option.some.inj stepEq).symm⟩
  | canReceive clientWriteOk =>
      right; right
      simp only [step] at stepEq
      split at stepEq
      next => simp at stepEq
      next entry queue queueEq =>
        rcases Option.map_eq_some_iff.mp stepEq with ⟨gateway, gatewayEq, nextEq⟩
        refine ⟨_, _, gateway, queue, [entry.answers], gatewayEq, ?_, ?_, nextEq.symm⟩
        · intro later laterMem
          rw [queueEq]
          exact List.mem_cons_of_mem _ laterMem
        · intro answer answerMem
          rw [List.mem_singleton] at answerMem
          exact ⟨entry, by simp [queueEq], answerMem.symm⟩
  | canTimeout =>
      right; right
      rcases Option.map_eq_some_iff.mp stepEq with ⟨gateway, gatewayEq, nextEq⟩
      exact ⟨_, _, gateway, exchange.canQueue, [], gatewayEq, fun _ entryMem => entryMem, by simp,
        nextEq.symm⟩

/-- The gateway of the exchange runs like the gateway alone. -/
theorem reachable_gateway {allowed : Exchange → ExchangeLabel → Prop}
    (reached : exchangeSystem.Reachable allowed exchange) :
    gatewaySystem.Reachable TransitionSystem.anyStep exchange.gateway := by
  induction reached with
  | initial => exact .initial
  | step _ _ stepEq ih =>
      rcases step_cases stepEq with ⟨label, gateway, _, gatewayEq, _, rfl⟩ |
        ⟨frame, answers, _, rfl⟩ |
        ⟨read, clientWriteOk, gateway, queue, answers, gatewayEq, _, _, rfl⟩
      · rw [gateway_observe]
        exact .step ih trivial gatewayEq
      · exact ih
      · exact .step ih trivial gatewayEq

end Exchange

end Synapse
