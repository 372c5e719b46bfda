import Synapse.Gateway.System

/-!
# Which message a flow-control frame paces

A sending call takes the flow-control frames in the order of the queue, and nothing
ever removes an entry but a sending call. An entry left over from an earlier
message, from an earlier session or from nothing at all is therefore taken for an answer
to the next First Frame. When no entry is left over, neither in the queue nor on
its way into it, every frame which a call gets was read after its First Frame.
-/

namespace Synapse

/-- A First Frame is written only while the queue is empty and the forwarder has not read a
flow-control frame which it still has to push. -/
def StartsUnqueued (gateway : Gateway) : GatewayLabel → Prop
  | .sendFirst _ =>
      match gateway.sending with
      | .started request =>
          request.length ≤ 7 ∨ (gateway.fcFrameQueue = [] ∧
            pushedFlowControls (gateway.tester.todo .forwarder) = [])
      | _ => True
  | _ => True

/-- The main thread is between the First Frame and the last block of a message. -/
def Gateway.IsPacing (gateway : Gateway) : Prop :=
  ∃ env request progress, gateway.sending = .waiting env request progress

/-- The flow-control frames around are younger than the First Frame they will be taken to answer,
and those taken were. -/
structure Fresh (gateway : Gateway) : Prop where
  firstFrame_lt : gateway.IsPacing → gateway.firstFrameAt < gateway.clock
  queued : gateway.IsPacing → ∀ entry ∈ gateway.fcFrameQueue, gateway.firstFrameAt < entry.readAt
  onTheWay : gateway.IsPacing → pushedFlowControls (gateway.tester.todo .forwarder) ≠ [] →
    gateway.firstFrameAt < gateway.lastReadAt
  taken : ∀ use ∈ gateway.flowControlUses, use.firstFrameAt < use.readAt

theorem Fresh.of_not_pacing {gateway : Gateway} (idle : ¬gateway.IsPacing)
    (taken : ∀ use ∈ gateway.flowControlUses, use.firstFrameAt < use.readAt) : Fresh gateway where
  firstFrame_lt := by
    intro pacing
    exact absurd pacing idle
  queued := by
    intro pacing
    exact absurd pacing idle
  onTheWay := by
    intro pacing
    exact absurd pacing idle
  taken := taken

theorem not_pacing_of_idle {gateway : Gateway} (sendingEq : gateway.sending = .idle) :
    ¬gateway.IsPacing := by
  rintro ⟨env, request, progress, waiting⟩
  rw [sendingEq] at waiting
  simp at waiting

theorem not_pacing_of_started {gateway : Gateway} {request : List UInt8}
    (sendingEq : gateway.sending = .started request) : ¬gateway.IsPacing := by
  rintro ⟨env, sent, progress, waiting⟩
  rw [sendingEq] at waiting
  simp at waiting

theorem Fresh.tick {gateway : Gateway} (fresh : Fresh gateway) {later : ℕ}
    (laterLe : gateway.clock ≤ later) : Fresh { gateway with clock := later } where
  firstFrame_lt := by
    intro pacing
    exact Nat.lt_of_lt_of_le (fresh.firstFrame_lt pacing) laterLe
  queued := fresh.queued
  onTheWay := fresh.onTheWay
  taken := fresh.taken

/-! ## The steps -/

theorem pushes_ne_nil_of_exec {tester next : LockedStream.State GatewayThread UInt8 Effect}
    {thread : GatewayThread} {count : ℕ} (stepEq : tester.exec thread count = some next)
    (pushes : pushedFlowControls (next.todo .forwarder) ≠ []) :
    pushedFlowControls (tester.todo .forwarder) ≠ [] := by
  rcases LockedStream.State.exec_todo stepEq with ⟨action, rest, todoEq, nextEq⟩
  cases thread with
  | main =>
      have same : next.todo .forwarder = tester.todo .forwarder := by
        rcases nextEq with nextEq | ⟨bytes, nextEq⟩
        · simp [nextEq]
        · simp [nextEq]
      rwa [same] at pushes
  | forwarder =>
      have later : pushedFlowControls (next.todo .forwarder) = pushedFlowControls rest := by
        rcases nextEq with nextEq | ⟨bytes, nextEq⟩
        · simp [nextEq]
        · rw [nextEq, Function.update_self]
          rfl
      rw [later] at pushes
      rw [todoEq, pushedFlowControls, List.filterMap_cons]
      split
      · exact pushes
      · simp

theorem fresh_exec {gateway : Gateway} (fresh : Fresh gateway) {thread : GatewayThread}
    {count : ℕ} {next : Gateway} (stepEq : gateway.exec thread count = some next) :
    Fresh next ∧ next.clock = gateway.clock := by
  rcases Gateway.exec_cases stepEq with ⟨tester, testerEq, quiet⟩
  have moved : Fresh { gateway with tester := tester } := by
    refine ⟨fresh.firstFrame_lt, fresh.queued, ?_, fresh.taken⟩
    intro pacing pushes
    apply fresh.onTheWay pacing
    exact pushes_ne_nil_of_exec testerEq pushes
  rcases quiet with ⟨_, rfl⟩ | ⟨effect, effectEq, rfl⟩
  · exact ⟨moved, rfl⟩
  · cases effect with
    | pushFlowControl bytes =>
        cases thread with
        | main => exact ⟨moved, rfl⟩
        | forwarder =>
            refine ⟨⟨moved.firstFrame_lt, ?_, moved.onTheWay, moved.taken⟩, rfl⟩
            intro pacing entry entryMem
            simp only [Gateway.perform, List.mem_append, List.mem_singleton] at entryMem
            rcases entryMem with old | rfl
            · exact fresh.queued pacing entry old
            · apply fresh.onTheWay pacing
              intro nothing
              simp only [Gateway.nextEffect?] at effectEq
              split at effectEq
              next effect rest todoEq =>
                simp only [Option.some.injEq] at effectEq
                rw [todoEq, effectEq] at nothing
                simp [pushedFlowControls, pushed?] at nothing
              next => simp at effectEq
    | isotpSend request =>
        cases thread with
        | main => exact ⟨.of_not_pacing (not_pacing_of_started rfl) fresh.taken, rfl⟩
        | forwarder => exact ⟨moved, rfl⟩
    | endSession =>
        cases thread with
        | main => exact ⟨⟨moved.firstFrame_lt, moved.queued, moved.onTheWay, moved.taken⟩, rfl⟩
        | forwarder =>
            exact ⟨⟨moved.firstFrame_lt, moved.queued, moved.onTheWay, moved.taken⟩, rfl⟩
    | sendFlowControl frame => cases thread <;> exact ⟨moved, rfl⟩
    | clientWriteFailed => cases thread <;> exact ⟨moved, rfl⟩
    | recognised message => cases thread <;> exact ⟨moved, rfl⟩
    | isotp event => cases thread <;> exact ⟨moved, rfl⟩

theorem fresh_continueSending {gateway : Gateway} (fresh : Fresh gateway)
    (pacing : gateway.IsPacing) (env : SendEnv) (request : List UInt8) (progress : Progress)
    (queued : Option (List UInt8)) :
    Fresh (gateway.continueSending env request progress queued) := by
  refine ⟨?_, ?_, ?_, fresh.taken⟩
  · intro _
    exact fresh.firstFrame_lt pacing
  · intro _
    exact fresh.queued pacing
  · intro _ pushes
    apply fresh.onTheWay pacing
    simpa [Gateway.continueSending, Gateway.submit, LockedStream.State.submit] using pushes

theorem fresh_takeFlowControl {gateway next : Gateway} (fresh : Fresh gateway)
    (stepEq : gateway.takeFlowControl = some next) : Fresh next ∧ next.clock = gateway.clock := by
  rcases Gateway.takeFlowControl_cases stepEq with
    ⟨env, request, progress, entry, queue, sendingEq, queueEq, _, rfl⟩
  have pacing : gateway.IsPacing := ⟨env, request, progress, sendingEq⟩
  have entryFresh : gateway.firstFrameAt < entry.readAt := by
    apply fresh.queued pacing
    simp [queueEq]
  refine ⟨?_, rfl⟩
  apply fresh_continueSending
  · refine ⟨fresh.firstFrame_lt, ?_, fresh.onTheWay, ?_⟩
    · intro _ other otherMem
      apply fresh.queued pacing
      rw [queueEq]
      exact List.mem_cons_of_mem entry otherMem
    · intro use useMem
      rcases List.mem_append.mp useMem with old | new
      · exact fresh.taken use old
      · split at new
        · rw [List.mem_singleton.mp new]
          exact entryFresh
        · simp at new
  · exact pacing

theorem fresh_canRead {gateway next : Gateway} (fresh : Fresh gateway) {read : CanRead}
    {clientWriteOk : Bool} (stepEq : gateway.canRead read clientWriteOk = some next) :
    Fresh next ∧ next.clock = gateway.clock := by
  rcases Gateway.canRead_cases stepEq with ⟨_, _, rfl⟩
  refine ⟨⟨fresh.firstFrame_lt, fresh.queued, ?_, fresh.taken⟩, rfl⟩
  intro pacing _
  exact fresh.firstFrame_lt pacing

/-- A First Frame on an empty queue leaves nothing older than itself around. -/
theorem fresh_sendFirst {gateway next : Gateway} (fresh : Fresh gateway) {env : SendEnv}
    (starts : StartsUnqueued gateway (.sendFirst env))
    (stepEq : gateway.sendFirst env = some next) :
    Fresh { next with clock := gateway.clock + 1 } := by
  rcases Gateway.sendFirst_cases stepEq with ⟨request, sendingEq, ⟨_, rfl⟩ | ⟨long, rfl⟩⟩
  · apply Fresh.of_not_pacing
    · exact not_pacing_of_idle rfl
    · exact fresh.taken
  · simp only [StartsUnqueued, sendingEq] at starts
    rcases starts with short | ⟨queueEq, pushesEq⟩
    · omega
    · refine ⟨?_, ?_, ?_, fresh.taken⟩
      · intro _
        exact Nat.lt_succ_self _
      · intro _ entry entryMem
        simp [queueEq] at entryMem
      · intro _ pushes
        exact absurd pushesEq pushes

theorem fresh_step {gateway next : Gateway} {label : GatewayLabel} (fresh : Fresh gateway)
    (starts : StartsUnqueued gateway label)
    (stepEq : gatewaySystem.step gateway label = some next) :
    Fresh next := by
  rcases gateway_step_cases stepEq with ⟨acted, actEq, rfl⟩
  cases label with
  | testerRead bytes =>
      rcases Gateway.testerRead_cases actEq with ⟨sendingEq, _, _, rfl⟩
      exact .of_not_pacing (not_pacing_of_idle sendingEq) fresh.taken
  | sendFirst env => exact fresh_sendFirst fresh starts actEq
  | takeFlowControl =>
      rcases fresh_takeFlowControl fresh actEq with ⟨actedFresh, clockEq⟩
      apply actedFresh.tick
      omega
  | flowControlTimeout =>
      rcases Gateway.flowControlTimeout_cases actEq with
        ⟨env, request, progress, sendingEq, _, _, rfl⟩
      have continued := fresh_continueSending fresh ⟨env, request, progress, sendingEq⟩ env request
        progress none
      exact continued.tick (Nat.le_succ _)
  | canRead read clientWriteOk =>
      rcases fresh_canRead fresh actEq with ⟨actedFresh, clockEq⟩
      apply actedFresh.tick
      omega
  | exec thread count =>
      rcases fresh_exec fresh actEq with ⟨actedFresh, clockEq⟩
      apply actedFresh.tick
      omega
  | mainExit =>
      rcases Gateway.mainExit_cases actEq with ⟨sendingEq, _, rfl⟩
      exact .of_not_pacing (not_pacing_of_idle sendingEq) fresh.taken
  | forwarderExit =>
      rcases Gateway.forwarderExit_cases actEq with ⟨_, rfl⟩
      have stopped : Fresh { gateway with forwarder := .stopped } :=
        ⟨fresh.firstFrame_lt, fresh.queued, fresh.onTheWay, fresh.taken⟩
      exact stopped.tick (Nat.le_succ _)
  | nextSession =>
      rw [Gateway.nextSession_cases actEq]
      exact .of_not_pacing (not_pacing_of_idle rfl) fresh.taken

/-- In every run in which no First Frame is written while a flow-control frame is left over, every
flow-control frame which a sending call gets was read after the First Frame of its message. -/
theorem flowControl_after_firstFrame {gateway : Gateway}
    (reached : gatewaySystem.Reachable StartsUnqueued gateway) :
    ∀ use ∈ gateway.flowControlUses, use.firstFrameAt < use.readAt := by
  have fresh : Fresh gateway := by
    apply reached.invariant
    · apply Fresh.of_not_pacing
      · exact not_pacing_of_idle rfl
      · intro use useMem
        simp [gatewaySystem, Gateway.start] at useMem
    · intro state label next stateFresh starts stepEq
      exact fresh_step stateFresh starts stepEq
  exact fresh.taken

/-! ## Two runs -/

/-- The steps by which the main thread receives a diagnostic message with a request of eight bytes,
acknowledges it and calls `isotpSend`. -/
def requestLabels : List GatewayLabel :=
  [.testerRead [2, 0xFD, 0x80, 0x01, 0, 0, 0, 12],
    .testerRead [0x0E, 0x00, 0x10, 0x00, 0x2E, 0xF1, 0x90, 1, 2, 3, 4, 5],
    .exec .main 0, .exec .main 0, .exec .main 13, .exec .main 0, .exec .main 0]

def flowControlLabels : List GatewayLabel :=
  [.canRead (.frame (.full #v[0x30, 8, 0, 0, 0, 0, 0, 0])) true, .exec .forwarder 0]

def answeredLabels : List GatewayLabel :=
  requestLabels ++ [.sendFirst acceptingEnv] ++ flowControlLabels ++ [.takeFlowControl]

def unsolicitedLabels : List GatewayLabel :=
  flowControlLabels ++ requestLabels ++ [.sendFirst acceptingEnv, .takeFlowControl]

theorem allowedRun_answered :
    gatewaySystem.AllowedRun StartsUnqueued .start answeredLabels :=
  ⟨trivial, trivial, trivial, trivial, trivial, trivial, trivial, Or.inr ⟨rfl, rfl⟩, trivial,
    trivial, trivial, trivial⟩

/-- A run in which a sending call gets a flow-control frame, and a fresh one. -/
theorem flowControl_after_firstFrame_answered :
    ∃ gateway, gatewaySystem.Reachable StartsUnqueued gateway ∧
      gateway.flowControlUses = [⟨7, 8⟩] ∧
      ∀ use ∈ gateway.flowControlUses, use.firstFrameAt < use.readAt := by
  have ends : (gatewaySystem.run .start answeredLabels).map Gateway.flowControlUses =
      some [⟨7, 8⟩] := by decide
  rcases Option.map_eq_some_iff.mp ends with ⟨gateway, runEq, usesEq⟩
  have reached := TransitionSystem.Reachable.initial.run allowedRun_answered runEq
  exact ⟨gateway, reached, usesEq, flowControl_after_firstFrame reached⟩

/-- A run in which a sending call gets a frame read nine steps before its First Frame. -/
theorem flowControl_before_firstFrame_unsolicited :
    ∃ gateway, gatewaySystem.Reachable TransitionSystem.anyStep gateway ∧
      ∃ use ∈ gateway.flowControlUses, ¬use.firstFrameAt < use.readAt := by
  have ends : (gatewaySystem.run .start unsolicitedLabels).map Gateway.flowControlUses =
      some [⟨9, 0⟩] := by decide
  rcases Option.map_eq_some_iff.mp ends with ⟨gateway, runEq, usesEq⟩
  have allowed := gatewaySystem.allowedRun_anyStep .start unsolicitedLabels
  refine ⟨gateway, TransitionSystem.Reachable.initial.run allowed runEq, ⟨9, 0⟩, ?_, by decide⟩
  rw [usesEq]
  exact List.mem_singleton_self _

end Synapse
