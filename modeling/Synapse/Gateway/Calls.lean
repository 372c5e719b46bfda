import Synapse.Gateway.Ecu

/-!
# Calls and acknowledgements

The main thread writes the acknowledgement of a request and then calls `isotp_send`.
Between the two it may be held up for any time, while the forwarder writes what it has.
This file follows the calls through every step of the gateway: no more calls are
made than acknowledgements are in the stream, and the calls are those for the diagnostic
messages of the tester, in their order.
-/

namespace Synapse

open LockedStream

/-! ## Calls behind acknowledgements -/

def sendRequest? : GatewayAction → Option (List UInt8)
  | .other (.isotpSend request) => some request
  | _ => none

/-- The requests for which a list of actions calls `isotp_send`. -/
def sendRequests (actions : List GatewayAction) : List (List UInt8) :=
  actions.filterMap sendRequest?

/-- Behind a call of `isotp_send` nothing is written to the tester. -/
def CallsLast : List GatewayAction → Prop
  | [] => True
  | .other (.isotpSend _) :: actions => writes actions = [] ∧ CallsLast actions
  | _ :: actions => CallsLast actions

theorem CallsLast.tail {action : GatewayAction} {actions : List GatewayAction}
    (callsLast : CallsLast (action :: actions)) : CallsLast actions := by
  cases action with
  | other effect =>
      cases effect with
      | isotpSend request => exact callsLast.2
      | _ => exact callsLast
  | _ => exact callsLast

theorem callsLast_of_sendRequests {actions : List GatewayAction}
    (noCall : sendRequests actions = []) : CallsLast actions := by
  induction actions with
  | nil => trivial
  | cons action actions ih =>
      cases action with
      | other effect =>
          cases effect with
          | isotpSend request => simp [sendRequests, sendRequest?] at noCall
          | _ => exact ih noCall
      | _ => exact ih noCall

/-- What a message makes the main thread do: no more calls than acknowledgements, and the
acknowledgement first. -/
theorem handleMessage_calls (sessionActive : Bool) (message : DoIPMessage) :
    CallsLast (handleMessage sessionActive message).2 ∧
      (sendRequests (handleMessage sessionActive message).2).length ≤
        (writes (handleMessage sessionActive message).2).count positiveAck := by
  rw [handleMessage]
  split
  · cases sessionActive <;> exact ⟨trivial, Nat.zero_le _⟩
  · split
    · cases sessionActive <;> exact ⟨trivial, Nat.zero_le _⟩
    · split
      · exact ⟨trivial, Nat.zero_le _⟩
      · have acknowledged : 1 ≤ [positiveAck].count positiveAck := by
          rw [List.count_singleton_self]
        cases sessionActive with
        | true => exact ⟨⟨rfl, trivial⟩, acknowledged⟩
        | false => exact ⟨⟨rfl, trivial⟩, acknowledged⟩

theorem sessionStep_callsLast (pc : SessionPc) (input : SessionInput) :
    CallsLast (sessionStep pc input).2 ∧
      (sendRequests (sessionStep pc input).2).length ≤
        (writes (sessionStep pc input).2).count positiveAck := by
  rcases sessionStep_cases pc input with emits | emits | ⟨message, emits⟩
  · rw [emits]
    exact ⟨trivial, Nat.zero_le _⟩
  · rw [emits]
    exact ⟨trivial, Nat.zero_le _⟩
  · rw [emits]
    exact handleMessage_calls input.sessionActive message

theorem handleMessage_no_events (sessionActive : Bool) (message : DoIPMessage)
    (event : SendEvent) : .other (.isotp event) ∉ (handleMessage sessionActive message).2 := by
  rw [handleMessage]
  split
  · cases sessionActive <;> simp [sessionLoopHead, leaveSession, writeLocked]
  · split
    · cases sessionActive <;> simp [sessionLoopHead, leaveSession]
    · split
      · simp [writeLocked]
      · cases sessionActive <;> simp [sessionLoopHead, leaveSession, writeLocked]

theorem sessionStep_no_events (pc : SessionPc) (input : SessionInput) (event : SendEvent) :
    .other (.isotp event) ∉ (sessionStep pc input).2 := by
  rcases sessionStep_cases pc input with emits | emits | ⟨message, emits⟩
  · rw [emits]
    simp
  · rw [emits]
    simp [leaveSession]
  · rw [emits, List.mem_cons]
    have others := handleMessage_no_events input.sessionActive message event
    simp [others]

/-- Every call of the session stands behind its acknowledgement. -/
structure CallsAcknowledged (gateway : Gateway) (calls : List (List UInt8)) : Prop where
  callsLast : CallsLast (gateway.tester.todo .main)
  accounted : calls.length + (sendRequests (gateway.tester.todo .main)).length ≤
    (gateway.tester.sentBy .main ++ gateway.tester.pending .main).count positiveAck
  calls_le : calls.length ≤ (gateway.tester.sentBy .main).count positiveAck
  sending : gateway.sending ≠ .idle → calls ≠ []
  events : ∀ event, .other (.isotp event) ∈ gateway.tester.todo .main → calls ≠ []

section Calls

variable {gateway next : Gateway} {calls : List (List UInt8)}

theorem callsAcknowledged_start : CallsAcknowledged Gateway.start [] where
  callsLast := trivial
  accounted := Nat.zero_le _
  calls_le := Nat.zero_le _
  sending := by
    intro sending
    exact absurd rfl sending
  events := by
    intro event eventMem
    simp [Gateway.start, LockedStream.start] at eventMem

theorem count_sentBy_le {more : List (GatewayThread × List UInt8)}
    (sentEq : next.tester.sent = gateway.tester.sent ++ more) :
    (gateway.tester.sentBy .main).count positiveAck ≤
      (next.tester.sentBy .main).count positiveAck := by
  rw [State.sentBy, State.sentBy, sentEq, List.filter_append, List.map_append, List.count_append]
  exact Nat.le_add_right _ _

/-- A step which neither calls nor gives the main thread new actions. -/
theorem CallsAcknowledged.moved (acknowledged : CallsAcknowledged gateway calls)
    (sentEq : ∃ more, next.tester.sent = gateway.tester.sent ++ more)
    (accountedEq : next.tester.sentBy .main ++ next.tester.pending .main =
      gateway.tester.sentBy .main ++ gateway.tester.pending .main)
    (callsLast : CallsLast (next.tester.todo .main))
    (callsEq : sendRequests (next.tester.todo .main) = sendRequests (gateway.tester.todo .main))
    (eventsMem : ∀ event, .other (.isotp event) ∈ next.tester.todo .main →
      .other (.isotp event) ∈ gateway.tester.todo .main)
    (sending : next.sending ≠ .idle → gateway.sending ≠ .idle) :
    CallsAcknowledged next calls where
  callsLast := callsLast
  accounted := by
    rw [accountedEq, callsEq]
    exact acknowledged.accounted
  calls_le := by
    rcases sentEq with ⟨more, sentEq⟩
    exact Nat.le_trans acknowledged.calls_le (count_sentBy_le sentEq)
  sending := fun notIdle => acknowledged.sending (sending notIdle)
  events := fun event eventMem => acknowledged.events event (eventsMem event eventMem)

/-- A step which leaves the tester socket as it is. -/
theorem CallsAcknowledged.congr (acknowledged : CallsAcknowledged gateway calls)
    (testerEq : next.tester = gateway.tester)
    (sending : next.sending ≠ .idle → gateway.sending ≠ .idle) :
    CallsAcknowledged next calls := by
  apply acknowledged.moved
  · exact ⟨[], by rw [testerEq, List.append_nil]⟩
  · rw [testerEq]
  · rw [testerEq]
    exact acknowledged.callsLast
  · rw [testerEq]
  · rw [testerEq]
    exact fun _ eventMem => eventMem
  · exact sending

/-- The idle main thread gets actions which call no more often than they acknowledge. -/
theorem CallsAcknowledged.submit (acknowledged : CallsAcknowledged gateway calls)
    (sound : gateway.tester.Sound) (idle : gateway.tester.todo .main = [])
    {actions : List GatewayAction} (testerEq : next.tester = gateway.tester.submit .main actions)
    (callsLast : CallsLast actions)
    (atMost : (sendRequests actions).length ≤ (writes actions).count positiveAck)
    (sending : next.sending ≠ .idle → calls ≠ [])
    (events : ∀ event, .other (.isotp event) ∈ actions → calls ≠ []) :
    CallsAcknowledged next calls := by
  have todoEq : next.tester.todo .main = actions := by
    rw [testerEq]
    simp [State.submit]
  have called := acknowledged.calls_le
  refine ⟨?_, ?_, ?_, sending, ?_⟩
  · rw [todoEq]
    exact callsLast
  · rw [todoEq, testerEq, State.submit_accounted sound idle, if_pos rfl, List.count_append,
      List.count_append]
    omega
  · rw [testerEq]
    exact called
  · rw [todoEq]
    exact events

/-- The forwarder gets new actions. -/
theorem CallsAcknowledged.submit_forwarder (acknowledged : CallsAcknowledged gateway calls)
    (sound : gateway.tester.Sound) (idle : gateway.tester.todo .forwarder = [])
    {actions : List GatewayAction}
    (testerEq : next.tester = gateway.tester.submit .forwarder actions)
    (sending : next.sending ≠ .idle → gateway.sending ≠ .idle) :
    CallsAcknowledged next calls := by
  have todoEq : next.tester.todo .main = gateway.tester.todo .main := by
    rw [testerEq]
    simp [State.submit]
  apply acknowledged.moved
  · exact ⟨[], by rw [testerEq, List.append_nil]; rfl⟩
  · rw [testerEq, State.submit_accounted sound idle, if_neg (by decide), List.append_nil]
  · rw [todoEq]
    exact acknowledged.callsLast
  · rw [todoEq]
  · rw [todoEq]
    exact fun _ eventMem => eventMem
  · exact sending

/-- The main thread performs an action which is not a call. -/
theorem CallsAcknowledged.advance (acknowledged : CallsAcknowledged gateway calls)
    {action : GatewayAction} {rest : List GatewayAction}
    (todoEq : gateway.tester.todo .main = action :: rest) (noCall : sendRequest? action = none)
    (restEq : next.tester.todo .main = rest ∨
      ∃ bytes, next.tester.todo .main = .write bytes :: rest)
    (sentEq : ∃ more, next.tester.sent = gateway.tester.sent ++ more)
    (accountedEq : next.tester.sentBy .main ++ next.tester.pending .main =
      gateway.tester.sentBy .main ++ gateway.tester.pending .main)
    (sendingEq : next.sending = gateway.sending) : CallsAcknowledged next calls := by
  have callsLast := acknowledged.callsLast
  rw [todoEq] at callsLast
  apply acknowledged.moved sentEq accountedEq
  · rcases restEq with restEq | ⟨bytes, restEq⟩
    · rw [restEq]
      exact callsLast.tail
    · rw [restEq]
      exact callsLast.tail
  · rw [todoEq, sendRequests, sendRequests, List.filterMap_cons_none noCall]
    rcases restEq with restEq | ⟨bytes, restEq⟩
    · rw [restEq]
    · rw [restEq]
      rfl
  · intro event eventMem
    rw [todoEq]
    apply List.mem_cons_of_mem
    rcases restEq with restEq | ⟨bytes, restEq⟩
    · rwa [restEq] at eventMem
    · simpa [restEq] using eventMem
  · rw [sendingEq]
    exact id

/-- The main thread performs a call: all its messages are in the stream. -/
theorem CallsAcknowledged.call (acknowledged : CallsAcknowledged gateway calls)
    {request : List UInt8} {rest : List GatewayAction}
    (todoEq : gateway.tester.todo .main = .other (.isotpSend request) :: rest)
    (restEq : next.tester.todo .main = rest)
    (sentEq : ∃ more, next.tester.sent = gateway.tester.sent ++ more)
    (accountedEq : next.tester.sentBy .main ++ next.tester.pending .main =
      gateway.tester.sentBy .main ++ gateway.tester.pending .main) :
    CallsAcknowledged next (calls ++ [request]) := by
  have callsLast := acknowledged.callsLast
  have accounted := acknowledged.accounted
  rw [todoEq] at callsLast
  have silent : gateway.tester.pending .main = [] := by
    rw [State.pending, todoEq, writes_other, callsLast.1]
  have requestsEq : sendRequests (gateway.tester.todo .main) = request :: sendRequests rest := by
    rw [todoEq]
    rfl
  rw [requestsEq, List.length_cons] at accounted
  refine ⟨?_, ?_, ?_, ?_, ?_⟩
  · rw [restEq]
    exact callsLast.2
  · rw [accountedEq, restEq, List.length_append, List.length_singleton]
    omega
  · rcases sentEq with ⟨more, sentEq⟩
    have grows := count_sentBy_le sentEq
    rw [silent, List.append_nil] at accounted
    rw [List.length_append, List.length_singleton]
    omega
  · intro _ calledNone
    simp at calledNone
  · intro _ _ calledNone
    simp at calledNone

theorem perform_tester (gateway : Gateway) (thread : GatewayThread) (effect : Effect) :
    (gateway.perform thread effect).tester = gateway.tester := by
  cases thread <;> cases effect <;> rfl

theorem newCalls_of_not_exec {label : GatewayLabel} (noExec : ∀ count, label ≠ .exec .main count) :
    gateway.newCalls label = [] := by
  rw [Gateway.newCalls]
  intro count labelEq
  exact absurd labelEq (noExec count)

/-- The main thread performs a call, or an action which neither is a call nor leads to one. -/
theorem exec_main_cases {count : ℕ} (stepEq : gateway.exec .main count = some next) :
    (∃ request rest, gateway.tester.todo .main = .other (.isotpSend request) :: rest ∧
      next.tester.todo .main = rest ∧ gateway.newCalls (.exec .main count) = [request]) ∨
    (∃ action rest, gateway.tester.todo .main = action :: rest ∧ sendRequest? action = none ∧
      (next.tester.todo .main = rest ∨ ∃ bytes, next.tester.todo .main = .write bytes :: rest) ∧
      next.sending = gateway.sending ∧ gateway.newCalls (.exec .main count) = []) := by
  rcases Gateway.exec_cases stepEq with ⟨tester, testerEq, performed⟩
  rcases State.exec_front testerEq with ⟨effect, rest, todoEq, rfl⟩ |
    ⟨action, rest, todoEq, noEvent, restEq⟩
  · have effectEq : gateway.nextEffect? .main = some effect := by
      rw [Gateway.nextEffect?, todoEq]
    rw [effectEq] at performed
    rcases performed with ⟨nothing, _⟩ | ⟨performedEffect, performedEq, rfl⟩
    · simp at nothing
    rw [Option.some.injEq] at performedEq
    subst performedEq
    rw [Gateway.newCalls, effectEq, perform_tester]
    cases effect with
    | isotpSend request =>
        left
        exact ⟨request, rest, todoEq, by simp, rfl⟩
    | _ =>
        right
        exact ⟨_, rest, todoEq, rfl, Or.inl (by simp), rfl, rfl⟩
  · have noEffect : gateway.nextEffect? .main = none := by
      rw [Gateway.nextEffect?, todoEq]
      cases action with
      | other event => exact absurd rfl (noEvent event)
      | _ => rfl
    have noCall : sendRequest? action = none := by
      cases action with
      | other event => exact absurd rfl (noEvent event)
      | _ => rfl
    rw [noEffect] at performed
    rw [Gateway.newCalls, noEffect]
    rcases performed with ⟨_, rfl⟩ | ⟨_, impossible, _⟩
    · right
      refine ⟨action, rest, todoEq, noCall, ?_, rfl, rfl⟩
      rcases restEq with restEq | ⟨bytes, restEq⟩
      · left
        simp [restEq]
      · right
        exact ⟨bytes, by simp [restEq]⟩
    · simp at impossible

theorem exec_forwarder_main {count : ℕ} (stepEq : gateway.exec .forwarder count = some next) :
    next.tester.todo .main = gateway.tester.todo .main ∧ next.sending = gateway.sending := by
  rcases Gateway.exec_cases stepEq with ⟨tester, testerEq, performed⟩
  have todoEq : tester.todo .main = gateway.tester.todo .main := by
    rcases State.exec_todo testerEq with ⟨action, rest, _, todoEq | ⟨bytes, todoEq⟩⟩
    · simp [todoEq]
    · simp [todoEq]
  rcases performed with ⟨_, rfl⟩ | ⟨effect, _, rfl⟩
  · exact ⟨todoEq, rfl⟩
  · rw [perform_tester]
    exact ⟨todoEq, by cases effect <;> rfl⟩

/-- The part of a step of a thread which concerns what has been written. -/
theorem exec_tester {thread : GatewayThread} {count : ℕ}
    (stepEq : gateway.exec thread count = some next) :
    gateway.tester.exec thread count = some next.tester ∧
      next.mainInputs = gateway.mainInputs := by
  rcases Gateway.exec_cases stepEq with ⟨tester, testerEq, ⟨_, rfl⟩ | ⟨effect, _, rfl⟩⟩
  · exact ⟨testerEq, rfl⟩
  · rw [perform_tester]
    exact ⟨testerEq, by cases thread <;> cases effect <;> rfl⟩

/-- A step of a thread moves a call from what the main thread has to do to what it has done. -/
theorem CallsAcknowledged.exec (acknowledged : CallsAcknowledged gateway calls)
    {thread : GatewayThread} {count : ℕ} (stepEq : gateway.exec thread count = some next) :
    CallsAcknowledged next (calls ++ gateway.newCalls (.exec thread count)) := by
  have accounted := State.exec_accounted (exec_tester stepEq).1 .main
  have sent := State.exec_sent (exec_tester stepEq).1
  cases thread with
  | forwarder =>
      rcases exec_forwarder_main stepEq with ⟨todoEq, sendingEq⟩
      rw [newCalls_of_not_exec (by simp), List.append_nil]
      apply acknowledged.moved sent accounted
      · rw [todoEq]
        exact acknowledged.callsLast
      · rw [todoEq]
      · rw [todoEq]
        exact fun _ eventMem => eventMem
      · rw [sendingEq]
        exact id
  | main =>
      rcases exec_main_cases stepEq with ⟨request, rest, todoEq, restEq, newCallsEq⟩ |
        ⟨action, rest, todoEq, noCall, restEq, sendingEq, newCallsEq⟩
      · rw [newCallsEq]
        exact acknowledged.call todoEq restEq sent accounted
      · rw [newCallsEq, List.append_nil]
        exact acknowledged.advance todoEq noCall restEq sent accounted sendingEq

theorem sendRequests_isotp (events : List SendEvent) :
    sendRequests (events.map fun event => .other (.isotp event)) = [] := by
  rw [sendRequests, List.filterMap_map, List.filterMap_eq_nil_iff]
  intro event _
  rfl

/-- Inside a call the main thread does not call again. -/
theorem CallsAcknowledged.continueSending (acknowledged : CallsAcknowledged gateway calls)
    (sound : gateway.tester.Sound) (idle : gateway.tester.todo .main = [])
    (called : calls ≠ []) (env : SendEnv) (request : List UInt8) (progress : Progress)
    (queued : Option (List UInt8)) :
    CallsAcknowledged (gateway.continueSending env request progress queued) calls := by
  apply acknowledged.submit sound idle rfl
  · exact callsLast_of_sendRequests (sendRequests_isotp _)
  · rw [sendRequests_isotp]
    exact Nat.zero_le _
  · exact fun _ => called
  · exact fun _ _ => called

theorem CallsAcknowledged.act (acknowledged : CallsAcknowledged gateway calls)
    (sound : gateway.tester.Sound) {label : GatewayLabel} (inSession : label ≠ .nextSession)
    (actEq : gateway.act label = some next) :
    CallsAcknowledged next (calls ++ gateway.newCalls label) := by
  cases label with
  | exec thread count => exact acknowledged.exec actEq
  | nextSession => exact absurd rfl inSession
  | testerRead bytes =>
      rcases Gateway.testerRead_cases actEq with ⟨sendingEq, idle, _, rfl⟩
      rcases sessionStep_callsLast gateway.main (gateway.mainInput bytes) with ⟨callsLast, atMost⟩
      rw [newCalls_of_not_exec (by simp), List.append_nil]
      apply acknowledged.submit sound idle rfl callsLast atMost
      · intro notIdle
        exact absurd sendingEq notIdle
      · intro event eventMem
        exact absurd eventMem (sessionStep_no_events _ _ event)
  | sendFirst env =>
      rcases Gateway.sendFirst_cases actEq with ⟨request, sendingEq, ⟨_, rfl⟩ | ⟨_, rfl⟩⟩
      all_goals
        rw [newCalls_of_not_exec (by simp), List.append_nil]
        apply acknowledged.congr
        · rfl
        · simp [sendingEq]
  | takeFlowControl =>
      rcases Gateway.takeFlowControl_cases actEq with
        ⟨env, request, progress, entry, queue, sendingEq, _, idle, rfl⟩
      rw [newCalls_of_not_exec (by simp), List.append_nil]
      apply CallsAcknowledged.continueSending
      · exact acknowledged.congr rfl id
      · exact sound
      · exact idle
      · exact acknowledged.sending (by simp [sendingEq])
  | flowControlTimeout =>
      rcases Gateway.flowControlTimeout_cases actEq with
        ⟨env, request, progress, sendingEq, _, idle, rfl⟩
      rw [newCalls_of_not_exec (by simp), List.append_nil]
      apply acknowledged.continueSending sound idle
      exact acknowledged.sending (by simp [sendingEq])
  | canRead read clientWriteOk =>
      rcases Gateway.canRead_cases actEq with ⟨idle, _, rfl⟩
      rw [newCalls_of_not_exec (by simp), List.append_nil]
      exact acknowledged.submit_forwarder sound idle rfl id
  | mainExit =>
      rcases Gateway.mainExit_cases actEq with ⟨sendingEq, idle, rfl⟩
      rw [newCalls_of_not_exec (by simp), List.append_nil]
      apply acknowledged.submit sound idle rfl
      · trivial
      · exact Nat.zero_le _
      · intro notIdle
        exact absurd sendingEq notIdle
      · intro event eventMem
        simp [leaveSession] at eventMem
  | forwarderExit =>
      rcases Gateway.forwarderExit_cases actEq with ⟨_, rfl⟩
      rw [newCalls_of_not_exec (by simp), List.append_nil]
      exact acknowledged.congr rfl id

/-- What a step inside a session does to the tester socket: a thread performs an action, nothing
happens to it, or a thread gets new actions. -/
theorem tester_of_act {label : GatewayLabel} (inSession : label ≠ .nextSession)
    (actEq : gateway.act label = some next) :
    (∃ thread count, gateway.tester.exec thread count = some next.tester) ∨
      next.tester = gateway.tester ∨
      ∃ thread actions, gateway.tester.todo thread = [] ∧
        next.tester = gateway.tester.submit thread actions ∧
        (thread = .forwarder → ∃ read clientWriteOk, label = .canRead read clientWriteOk) := by
  have mainGets : ∀ actions, gateway.tester.todo .main = [] →
      next.tester = gateway.tester.submit .main actions →
        ∃ thread actions, gateway.tester.todo thread = [] ∧
          next.tester = gateway.tester.submit thread actions ∧
          (thread = .forwarder → ∃ read clientWriteOk, label = .canRead read clientWriteOk) := by
    intro actions idle testerEq
    exact ⟨.main, actions, idle, testerEq, by simp⟩
  cases label with
  | exec thread count =>
      left
      exact ⟨thread, count, (exec_tester actEq).1⟩
  | nextSession => exact absurd rfl inSession
  | testerRead bytes =>
      rcases Gateway.testerRead_cases actEq with ⟨_, idle, _, rfl⟩
      right; right
      exact mainGets _ idle rfl
  | sendFirst env =>
      rcases Gateway.sendFirst_cases actEq with ⟨request, _, ⟨_, rfl⟩ | ⟨_, rfl⟩⟩
      · exact Or.inr (Or.inl rfl)
      · exact Or.inr (Or.inl rfl)
  | takeFlowControl =>
      rcases Gateway.takeFlowControl_cases actEq with ⟨_, _, _, _, _, _, _, idle, rfl⟩
      right; right
      exact mainGets _ idle rfl
  | flowControlTimeout =>
      rcases Gateway.flowControlTimeout_cases actEq with ⟨_, _, _, _, _, idle, rfl⟩
      right; right
      exact mainGets _ idle rfl
  | canRead read clientWriteOk =>
      rcases Gateway.canRead_cases actEq with ⟨idle, _, rfl⟩
      right; right
      exact ⟨.forwarder, _, idle, rfl, fun _ => ⟨read, clientWriteOk, rfl⟩⟩
  | mainExit =>
      rcases Gateway.mainExit_cases actEq with ⟨_, idle, rfl⟩
      right; right
      exact mainGets _ idle rfl
  | forwarderExit =>
      rcases Gateway.forwarderExit_cases actEq with ⟨_, rfl⟩
      exact Or.inr (Or.inl rfl)

/-- No step but a read of the forwarder gives the forwarder a message to write. -/
theorem forwarder_accounted_of_act (sound : gateway.tester.Sound) {label : GatewayLabel}
    (inSession : label ≠ .nextSession)
    (noRead : ∀ read clientWriteOk, label ≠ .canRead read clientWriteOk)
    (actEq : gateway.act label = some next) :
    next.tester.sentBy .forwarder ++ next.tester.pending .forwarder =
      gateway.tester.sentBy .forwarder ++ gateway.tester.pending .forwarder := by
  rcases tester_of_act inSession actEq with ⟨thread, count, execEq⟩ | testerEq |
    ⟨thread, actions, idle, testerEq, reads⟩
  · exact State.exec_accounted execEq .forwarder
  · rw [testerEq]
  · have notForwarder : GatewayThread.forwarder ≠ thread := by
      intro same
      rcases reads same.symm with ⟨read, clientWriteOk, labelEq⟩
      exact noRead read clientWriteOk labelEq
    rw [testerEq, State.submit_accounted sound idle, if_neg notForwarder, List.append_nil]

theorem sent_of_act {label : GatewayLabel} (inSession : label ≠ .nextSession)
    (actEq : gateway.act label = some next) :
    ∃ more, next.tester.sent = gateway.tester.sent ++ more := by
  rcases tester_of_act inSession actEq with ⟨thread, count, execEq⟩ | testerEq |
    ⟨thread, actions, _, testerEq, _⟩
  · exact State.exec_sent execEq
  · exact ⟨[], by rw [testerEq, List.append_nil]⟩
  · exact ⟨[], by rw [testerEq, List.append_nil]; rfl⟩

end Calls

/-! ## Calls and the requests of the tester -/

def diagnosticRequest? (message : DoIPMessage) : Option (List UInt8) :=
  if message.payloadType = diagnosticMessageType then some message.udsData else none

/-- What the tester asks for in its diagnostic messages. -/
def diagnosticRequests (messages : List DoIPMessage) : List (List UInt8) :=
  messages.filterMap diagnosticRequest?

theorem diagnosticRequests_cons (message : DoIPMessage) (messages : List DoIPMessage) :
    diagnosticRequests (message :: messages) =
      (diagnosticRequest? message).toList ++ diagnosticRequests messages := by
  rw [diagnosticRequests, List.filterMap_cons]
  split
  next noRequest => simp [noRequest, diagnosticRequests]
  next request requestEq => simp [requestEq, diagnosticRequests]

theorem handleMessage_sendRequests (sessionActive : Bool) (message : DoIPMessage) :
    sendRequests (handleMessage sessionActive message).2 = (diagnosticRequest? message).toList ∨
      ((handleMessage sessionActive message).1 = .invalidRange ∧
        sendRequests (handleMessage sessionActive message).2 = []) := by
  rw [handleMessage, diagnosticRequest?]
  by_cases activation : message.payloadType = routingActivationRequestType
  · have other : message.payloadType ≠ diagnosticMessageType := by
      rw [activation]
      decide
    left
    rw [if_pos activation, if_neg other]
    cases sessionActive <;> rfl
  · rw [if_neg activation]
    by_cases diagnostic : message.payloadType = diagnosticMessageType
    · rw [if_neg (by simpa using diagnostic), if_pos diagnostic]
      split
      · right
        exact ⟨rfl, rfl⟩
      · left
        cases sessionActive <;> rfl
    · left
      rw [if_pos diagnostic, if_neg diagnostic]
      cases sessionActive <;> rfl

/-- A step calls for the diagnostic messages it recognises, or the thread is at its end. -/
theorem sessionStep_sendRequests (pc : SessionPc) (input : SessionInput) :
    sendRequests (sessionStep pc input).2 =
        diagnosticRequests (recognisedMessages (sessionStep pc input).2) ∨
      ((sessionStep pc input).1 = .invalidRange ∧ sendRequests (sessionStep pc input).2 = []) := by
  rcases sessionStep_cases pc input with emits | emits | ⟨message, emits⟩
  · rw [emits]
    exact Or.inl rfl
  · rw [emits]
    exact Or.inl rfl
  · rw [emits]
    have noMessage := (handleMessage_answers input.sessionActive message).2
    change sendRequests (handleMessage input.sessionActive message).2 =
        diagnosticRequests
          (message :: recognisedMessages (handleMessage input.sessionActive message).2) ∨ _
    rw [diagnosticRequests_cons, noMessage, diagnosticRequests, List.filterMap_nil,
      List.append_nil]
    exact handleMessage_sendRequests input.sessionActive message

/-- The session calls for the diagnostic messages of the tester, in their order. -/
theorem sendRequests_output (pc : SessionPc) (inputs : List SessionInput) :
    sendRequests (handleDoipSession.output pc inputs) <+:
      diagnosticRequests (recognisedMessages (handleDoipSession.output pc inputs)) := by
  induction inputs generalizing pc with
  | nil => exact List.nil_prefix
  | cons input inputs ih =>
      rw [Transducer.output_cons, sendRequests, List.filterMap_append, recognisedMessages,
        List.filterMap_append, diagnosticRequests, List.filterMap_append]
      rcases sessionStep_sendRequests pc input with sameEq | ⟨ended, silent⟩
      · change sendRequests (sessionStep pc input).2 ++ _ <+:
          diagnosticRequests (recognisedMessages (sessionStep pc input).2) ++ _
        rw [sameEq]
        exact (List.prefix_append_right_inj _).mpr (ih _)
      · have absorbing : ∀ input ∈ inputs,
            handleDoipSession.step .invalidRange input = (.invalidRange, []) := fun _ _ => rfl
        have nothing := (Transducer.run_of_absorbing handleDoipSession absorbing).2
        change sendRequests (sessionStep pc input).2 ++
          sendRequests (handleDoipSession.output (sessionStep pc input).1 inputs) <+: _
        rw [ended, silent, nothing]
        exact List.nil_prefix

theorem continueSending_sendRequests (gateway : Gateway) (env : SendEnv) (request : List UInt8)
    (progress : Progress) (queued : Option (List UInt8)) :
    sendRequests ((gateway.continueSending env request progress queued).tester.todo .main) =
      [] := by
  simp only [Gateway.continueSending, Gateway.submit, State.submit, Function.update_self]
  exact sendRequests_isotp _

/-- What a step does about calls, unless it is a read of the main thread. -/
theorem sendRequests_of_act {gateway next : Gateway} {label : GatewayLabel}
    (inSession : label ≠ .nextSession) (noRead : ∀ bytes, label ≠ .testerRead bytes)
    (actEq : gateway.act label = some next) :
    next.mainInputs = gateway.mainInputs ∧
      gateway.newCalls label ++ sendRequests (next.tester.todo .main) =
        sendRequests (gateway.tester.todo .main) := by
  cases label with
  | exec thread count =>
      refine ⟨(exec_tester actEq).2, ?_⟩
      cases thread with
      | forwarder =>
          rw [newCalls_of_not_exec (by simp), (exec_forwarder_main actEq).1]
          rfl
      | main =>
          rcases exec_main_cases actEq with ⟨request, rest, todoEq, restEq, newCallsEq⟩ |
            ⟨action, rest, todoEq, noCall, restEq, _, newCallsEq⟩
          · rw [newCallsEq, todoEq, restEq]
            rfl
          · rw [newCallsEq, todoEq, sendRequests, sendRequests, List.filterMap_cons_none noCall]
            rcases restEq with restEq | ⟨bytes, restEq⟩
            · rw [restEq]
              rfl
            · rw [restEq]
              rfl
  | nextSession => exact absurd rfl inSession
  | testerRead bytes => exact absurd rfl (noRead bytes)
  | sendFirst env =>
      rcases Gateway.sendFirst_cases actEq with ⟨request, _, ⟨_, rfl⟩ | ⟨_, rfl⟩⟩
      · exact ⟨rfl, rfl⟩
      · exact ⟨rfl, rfl⟩
  | takeFlowControl =>
      rcases Gateway.takeFlowControl_cases actEq with ⟨_, _, _, _, _, _, _, idle, rfl⟩
      rw [continueSending_sendRequests, idle]
      exact ⟨rfl, rfl⟩
  | flowControlTimeout =>
      rcases Gateway.flowControlTimeout_cases actEq with ⟨_, _, _, _, _, idle, rfl⟩
      rw [continueSending_sendRequests, idle]
      exact ⟨rfl, rfl⟩
  | canRead read clientWriteOk =>
      rcases Gateway.canRead_cases actEq with ⟨_, _, rfl⟩
      refine ⟨rfl, ?_⟩
      simp [Gateway.newCalls, Gateway.submit, State.submit]
  | mainExit =>
      rcases Gateway.mainExit_cases actEq with ⟨_, idle, rfl⟩
      rw [idle]
      exact ⟨rfl, rfl⟩
  | forwarderExit =>
      rcases Gateway.forwarderExit_cases actEq with ⟨_, rfl⟩
      exact ⟨rfl, rfl⟩

end Synapse
