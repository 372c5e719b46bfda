import Mathlib.Data.List.Perm.Subperm
import Synapse.Veh.UnifiedServer

/-!
# The shutdown of the unified server

The main thread takes the listener down first and the application of the middleware next, and
closes its own socket when both threads have been joined. This file accounts for every request
through its handler, so that no request which was accepted is lost at the exit, and shows
that a stop signal brings the server to its exit in every order of the threads, as long as
no new requests keep the handlers busy.
-/

namespace Synapse

open VehUnifiedServer

/-! ## No request is lost -/

/-- The frame which a request asks for. -/
def requestedFrame : List UInt8 → Option CanFrame
  | [] => none
  | cmdType :: cmdValue => some (controlFrame cmdType cmdValue)

namespace VehUnifiedServer

/-- A request waits for its frame, waits for its response or has been answered, and the frames
written are those of the last two. -/
structure Accounted (server : VehUnifiedServer) : Prop where
  requests : server.dispatched.Perm (server.writing ++ (server.responding ++ server.answered))
  frames : (server.writes.map CanWrite.frame).Perm
    ((server.responding ++ server.answered).filterMap requestedFrame)

section Requests

variable {server next : VehUnifiedServer}

theorem Accounted.keep (accounted : server.Accounted)
    (dispatched : next.dispatched = server.dispatched)
    (writing : next.writing = server.writing) (responding : next.responding = server.responding)
    (answered : next.answered = server.answered) (writes : next.writes = server.writes) :
    next.Accounted where
  requests := by rw [dispatched, writing, responding, answered]; exact accounted.requests
  frames := by rw [writes, responding, answered]; exact accounted.frames

/-- A handler has a socket to write to. -/
theorem Sound.canTxFd_of_handler (sound : server.Sound)
    (handling : server.writing ≠ [] ∨ server.responding ≠ []) : 0 ≤ server.canTxFd := by
  have running := sound.handlers handling
  have thread := sound.appThread
  have tx := sound.owned.tx
  rw [running] at thread
  cases main : server.main with
  | exited code =>
      rw [main, ServerMainPc.appThread] at thread
      split at thread <;> simp at thread
  | initApp => simp [main, ServerMainPc.appThread] at thread
  | openTx => simp [main, ServerMainPc.appThread] at thread
  | _ => simpa [main, ServerMainPc.holdsTx] using tx

theorem frames_onControlRequest {canTxFd : ℤ} (isOpen : 0 ≤ canTxFd) (accepts : Bool)
    (payload : List UInt8) :
    (onControlRequest canTxFd accepts payload).writes.map CanWrite.frame =
      (requestedFrame payload).toList := by
  cases payload with
  | nil => rfl
  | cons cmdType cmdValue =>
      rw [onControlRequest, if_pos isOpen]
      rfl

/-- An element taken out of the first list and put behind the second one. -/
theorem perm_moved {Element : Type*} [BEq Element] [LawfulBEq Element] {source : List Element}
    {element : Element} (member : element ∈ source) (rest : List Element) :
    (source ++ rest).Perm (source.erase element ++ (rest ++ [element])) := by
  calc (source ++ rest).Perm (element :: source.erase element ++ rest) :=
        (List.perm_cons_erase member).append_right rest
    _ = element :: (source.erase element ++ rest) := List.cons_append
    (element :: (source.erase element ++ rest)).Perm
        (source.erase element ++ rest ++ [element]) := (List.perm_append_singleton _ _).symm
    _ = source.erase element ++ (rest ++ [element]) := List.append_assoc _ _ _

theorem accounted_appAct (sound : server.Sound) (accounted : server.Accounted) {step : AppStep}
    (actEq : server.appAct step = some next) : next.Accounted := by
  cases step with
  | run =>
      simp only [appAct, Option.ite_none_right_eq_some, Option.some.injEq] at actEq
      rw [← actEq.2]
      exact accounted.keep rfl rfl rfl rfl rfl
  | dispatch payload =>
      simp only [appAct, Option.ite_none_right_eq_some] at actEq
      rcases actEq with ⟨_, actEq⟩
      split at actEq
      · rw [← Option.some.inj actEq]
        exact accounted
      · rw [← Option.some.inj actEq]
        refine ⟨?_, accounted.frames⟩
        dsimp only
        rw [List.append_assoc]
        exact (accounted.requests.append_right [payload]).trans (by
          rw [List.append_assoc]
          exact List.Perm.append_left _ List.perm_append_comm)
  | write payload accepts =>
      simp only [appAct, Option.ite_none_right_eq_some, Option.some.injEq] at actEq
      rcases actEq with ⟨pending, rfl⟩
      have isOpen := sound.canTxFd_of_handler (Or.inl (List.ne_nil_of_mem pending))
      have served : (server.responding ++ server.answered ++ [payload]).Perm
          (server.responding ++ [payload] ++ server.answered) := by
        rw [List.append_assoc, List.append_assoc]
        exact List.perm_append_comm.append_left _
      constructor
      · exact (accounted.requests.trans (perm_moved pending _)).trans
          (served.append_left (server.writing.erase payload))
      · dsimp only
        rw [List.map_append, frames_onControlRequest isOpen]
        apply List.Perm.trans _ (served.filterMap _)
        rw [List.filterMap_append]
        apply (accounted.frames.append_right _).trans
        have single : (requestedFrame payload).toList = [payload].filterMap requestedFrame := by
          cases frame : requestedFrame payload <;> simp [frame]
        rw [single]
  | respond payload =>
      simp only [appAct, Option.ite_none_right_eq_some, Option.some.injEq] at actEq
      rcases actEq with ⟨pending, rfl⟩
      have moved := perm_moved pending server.answered
      exact ⟨accounted.requests.trans (moved.append_left server.writing),
        accounted.frames.trans (moved.filterMap requestedFrame)⟩
  | return_ =>
      simp only [appAct, Option.ite_none_right_eq_some, Option.some.injEq] at actEq
      rw [← actEq.2]
      exact accounted.keep rfl rfl rfl rfl rfl

theorem accounted_mainAct (accounted : server.Accounted) {step : MainStep}
    (actEq : server.mainAct step = some next) : next.Accounted := by
  cases step with
  | closeTx =>
      simp only [mainAct, Option.ite_none_right_eq_some] at actEq
      rcases actEq with ⟨_, actEq⟩
      split at actEq
      · rw [← Option.some.inj actEq]
        exact accounted.keep rfl rfl rfl rfl rfl
      · rw [← Option.some.inj actEq]
        exact accounted.keep rfl rfl rfl rfl rfl
  | _ =>
      simp only [mainAct, Option.ite_none_right_eq_some, Option.some.injEq] at actEq
      rw [← actEq.2]
      exact accounted.keep rfl rfl rfl rfl rfl

theorem accounted_listenerAct (accounted : server.Accounted) {step : ListenerStep}
    (actEq : server.listenerAct step = some next) : next.Accounted := by
  cases step <;>
    · simp only [listenerAct, Option.ite_none_right_eq_some, Option.some.injEq] at actEq
      rw [← actEq.2]
      exact accounted.keep rfl rfl rfl rfl rfl

theorem accounted_constructed : constructed.Accounted where
  requests := .refl _
  frames := .refl _

end Requests

end VehUnifiedServer

theorem server_accounted {server : VehUnifiedServer}
    (reached : unifiedServerSystem.Reachable TransitionSystem.anyStep server) :
    server.Sound ∧ server.Accounted := by
  have initially : constructed.Sound ∧ constructed.Accounted :=
    ⟨sound_constructed, accounted_constructed⟩
  apply reached.invariant initially
  rintro state label next ⟨sound, accounted⟩ _ stepEq
  refine ⟨sound_step sound stepEq, ?_⟩
  have actEq := (server_step_cases stepEq).2
  cases label with
  | signal =>
      rw [← Option.some.inj actEq]
      exact accounted.keep rfl rfl rfl rfl rfl
  | main step => exact accounted_mainAct accounted actEq
  | listener step => exact accounted_listenerAct accounted actEq
  | app step => exact accounted_appAct sound accounted actEq

/-- No answer is sent before its frame was written, and when the process leaves, every request
which a handler has taken was written once and answered once. -/
theorem server_loses_no_request {server : VehUnifiedServer}
    (reached : unifiedServerSystem.Reachable TransitionSystem.anyStep server) :
    (server.answered.filterMap requestedFrame).Subperm (server.writes.map CanWrite.frame) ∧
    ∀ code, server.main = .exited code → server.answered.Perm server.dispatched ∧
      (server.writes.map CanWrite.frame).Perm (server.dispatched.filterMap requestedFrame) := by
  rcases server_accounted reached with ⟨sound, requests, frames⟩
  constructor
  · rw [List.filterMap_append] at frames
    exact (List.sublist_append_right _ _).subperm.trans frames.symm.subperm
  · intro code exited
    have notRunning : server.app ≠ .running := by
      intro running
      have thread := sound.appThread
      rw [exited, running, ServerMainPc.appThread] at thread
      split at thread <;> simp at thread
    have idle := mt sound.handlers notRunning
    rw [not_or, not_not, not_not] at idle
    rw [idle.1, idle.2] at requests
    rw [idle.2] at frames
    exact ⟨requests.symm, frames.trans (requests.symm.filterMap requestedFrame)⟩

theorem server_loses_no_request_served :
    ∃ server, unifiedServerSystem.run .constructed servedLabels = some server ∧
      (server.answered.filterMap requestedFrame).Subperm (server.writes.map CanWrite.frame) ∧
      ∀ code, server.main = .exited code → server.answered.Perm server.dispatched ∧
        (server.writes.map CanWrite.frame).Perm (server.dispatched.filterMap requestedFrame) := by
  rcases served_run with ⟨server, runEq, _⟩
  have reached := TransitionSystem.Reachable.initial.run
    (unifiedServerSystem.allowedRun_anyStep .constructed servedLabels) runEq
  exact ⟨server, runEq, server_loses_no_request reached⟩

/-! ## The shutdown comes to its end -/

/-- No new request comes, and the stop signal is not repeated. -/
def VehUnifiedServer.LeavesAlone (_ : VehUnifiedServer) : ServerLabel → Prop
  | .signal => False
  | .app (.dispatch _) => False
  | _ => True

def ServerMainPc.left : ServerMainPc → ℕ
  | .initApp => 10
  | .openTx => 9
  | .startApp => 8
  | .startListener => 7
  | .watching => 6
  | .stopOffer => 5
  | .joinListener => 4
  | .stopApp => 3
  | .joinApp => 2
  | .closeTx => 1
  | .exited _ => 0

def AppPc.left : AppPc → ℕ
  | .absent => 3
  | .created => 2
  | .running => 1
  | .returned => 0

def ListenerPc.left : ListenerPc → ℕ
  | .absent => 7
  | .opening => 6
  | .filtering => 5
  | .polling => 4
  | .reading => 3
  | .looking => 2
  | .closing => 1
  | .returned => 0

namespace VehUnifiedServer

/-- The steps which are left to the threads once the flag is cleared. -/
def stepsLeft (server : VehUnifiedServer) : ℕ :=
  server.main.left + server.app.left + server.listener.left + 2 * server.writing.length +
    server.responding.length

section Shutdown

variable {server next : VehUnifiedServer}

theorem stepsLeft_mainAct (stopping : server.running = false) (sound : server.Sound)
    {step : MainStep} (actEq : server.mainAct step = some next) :
    next.running = false ∧ next.stepsLeft < server.stepsLeft := by
  have appThread := sound.appThread
  have listenerThread := sound.listenerThread
  cases step with
  | initApp succeeds =>
      simp only [mainAct, Option.ite_none_right_eq_some, Option.some.injEq] at actEq
      rcases actEq with ⟨pc, rfl⟩
      refine ⟨stopping, ?_⟩
      cases succeeds <;> simp [stepsLeft, pc, ServerMainPc.left]
  | openTx outcome fd =>
      simp only [mainAct, Option.ite_none_right_eq_some, Option.some.injEq] at actEq
      rcases actEq with ⟨⟨pc, _⟩, rfl⟩
      refine ⟨stopping, ?_⟩
      dsimp only [stepsLeft]
      rw [pc]
      split <;> simp [ServerMainPc.left]
  | startApp =>
      simp only [mainAct, Option.ite_none_right_eq_some, Option.some.injEq] at actEq
      rcases actEq with ⟨pc, rfl⟩
      rw [pc] at appThread
      have absent : server.app = .absent := appThread
      refine ⟨stopping, ?_⟩
      simp only [stepsLeft, pc, absent, ServerMainPc.left, AppPc.left]
      omega
  | startListener =>
      simp only [mainAct, Option.ite_none_right_eq_some, Option.some.injEq] at actEq
      rcases actEq with ⟨pc, rfl⟩
      rw [pc] at listenerThread
      have absent : server.listener = .absent := listenerThread
      refine ⟨stopping, ?_⟩
      simp only [stepsLeft, pc, absent, ServerMainPc.left, ListenerPc.left]
      omega
  | look =>
      simp only [mainAct, Option.ite_none_right_eq_some, Option.some.injEq] at actEq
      rcases actEq with ⟨pc, rfl⟩
      refine ⟨stopping, ?_⟩
      simp [stepsLeft, pc, stopping, ServerMainPc.left]
  | closeTx =>
      simp only [mainAct, Option.ite_none_right_eq_some] at actEq
      rcases actEq with ⟨pc, actEq⟩
      split at actEq <;>
        · rw [← Option.some.inj actEq]
          refine ⟨stopping, ?_⟩
          simp [stepsLeft, pc, ServerMainPc.left]
  | stopOffer =>
      simp only [mainAct, Option.ite_none_right_eq_some, Option.some.injEq] at actEq
      rcases actEq with ⟨pc, rfl⟩
      exact ⟨rfl, by simp [stepsLeft, pc, ServerMainPc.left]⟩
  | joinListener =>
      simp only [mainAct, Option.ite_none_right_eq_some, Option.some.injEq] at actEq
      rcases actEq with ⟨⟨pc, _⟩, rfl⟩
      exact ⟨stopping, by simp [stepsLeft, pc, ServerMainPc.left]⟩
  | stopApp =>
      simp only [mainAct, Option.ite_none_right_eq_some, Option.some.injEq] at actEq
      rcases actEq with ⟨pc, rfl⟩
      exact ⟨stopping, by simp [stepsLeft, pc, ServerMainPc.left]⟩
  | joinApp =>
      simp only [mainAct, Option.ite_none_right_eq_some, Option.some.injEq] at actEq
      rcases actEq with ⟨⟨pc, _⟩, rfl⟩
      exact ⟨stopping, by simp [stepsLeft, pc, ServerMainPc.left]⟩

theorem stepsLeft_listenerAct (stopping : server.running = false) {step : ListenerStep}
    (actEq : server.listenerAct step = some next) :
    next.running = false ∧ next.stepsLeft < server.stepsLeft := by
  cases step with
  | openRx outcome fd =>
      simp only [listenerAct, Option.ite_none_right_eq_some, Option.some.injEq] at actEq
      rcases actEq with ⟨⟨pc, _⟩, rfl⟩
      refine ⟨stopping, ?_⟩
      dsimp only [stepsLeft]
      rw [pc]
      split <;> simp [ListenerPc.left]
  | look =>
      simp only [listenerAct, Option.ite_none_right_eq_some, Option.some.injEq] at actEq
      rcases actEq with ⟨pc, rfl⟩
      refine ⟨stopping, ?_⟩
      simp [stepsLeft, pc, stopping, ListenerPc.left]
  | poll ready =>
      simp only [listenerAct, Option.ite_none_right_eq_some, Option.some.injEq] at actEq
      rcases actEq with ⟨pc, rfl⟩
      refine ⟨stopping, ?_⟩
      cases ready <;> simp [stepsLeft, pc, ListenerPc.left]
  | setFilter installed =>
      simp only [listenerAct, Option.ite_none_right_eq_some, Option.some.injEq] at actEq
      rcases actEq with ⟨pc, rfl⟩
      exact ⟨stopping, by simp [stepsLeft, pc, ListenerPc.left]⟩
  | read read =>
      simp only [listenerAct, Option.ite_none_right_eq_some, Option.some.injEq] at actEq
      rcases actEq with ⟨pc, rfl⟩
      exact ⟨stopping, by simp [stepsLeft, pc, ListenerPc.left]⟩
  | closeRx =>
      simp only [listenerAct, Option.ite_none_right_eq_some, Option.some.injEq] at actEq
      rcases actEq with ⟨pc, rfl⟩
      exact ⟨stopping, by simp [stepsLeft, pc, ListenerPc.left]⟩

theorem stepsLeft_appAct (stopping : server.running = false) {step : AppStep}
    (alone : server.LeavesAlone (.app step)) (actEq : server.appAct step = some next) :
    next.running = false ∧ next.stepsLeft < server.stepsLeft := by
  cases step with
  | dispatch payload => exact absurd alone id
  | run =>
      simp only [appAct, Option.ite_none_right_eq_some, Option.some.injEq] at actEq
      rcases actEq with ⟨pc, rfl⟩
      exact ⟨stopping, by simp [stepsLeft, pc, AppPc.left]⟩
  | write payload accepts =>
      simp only [appAct, Option.ite_none_right_eq_some, Option.some.injEq] at actEq
      rcases actEq with ⟨pending, rfl⟩
      have length := List.length_erase_of_mem pending
      have positive := List.length_pos_of_mem pending
      refine ⟨stopping, ?_⟩
      simp only [stepsLeft, length, List.length_append, List.length_singleton]
      omega
  | respond payload =>
      simp only [appAct, Option.ite_none_right_eq_some, Option.some.injEq] at actEq
      rcases actEq with ⟨pending, rfl⟩
      have length := List.length_erase_of_mem pending
      have positive := List.length_pos_of_mem pending
      refine ⟨stopping, ?_⟩
      simp only [stepsLeft, length]
      omega
  | return_ =>
      simp only [appAct, Option.ite_none_right_eq_some, Option.some.injEq] at actEq
      rcases actEq with ⟨⟨pc, _⟩, rfl⟩
      exact ⟨stopping, by simp [stepsLeft, pc, AppPc.left]⟩

theorem Owned.exists_fresh (owned : server.Owned) : ∃ fd, fd ∉ server.openFds := by
  refine ⟨server.canTxFd.toNat + server.canRxFd.toNat + 1, ?_⟩
  rw [owned.fds]
  omega

/-- A listener which has been started and has not returned can go on. -/
theorem exists_listenerAct (sound : server.Sound) (started : server.listener ≠ .absent)
    (working : server.listener ≠ .returned) : ∃ step next, server.listenerAct step = some next := by
  rcases sound.owned.exists_fresh with ⟨fd, fresh⟩
  cases pc : server.listener with
  | absent => exact absurd pc started
  | opening => exact ⟨.openRx .opened fd, _, if_pos ⟨pc, fresh⟩⟩
  | filtering => exact ⟨.setFilter true, _, if_pos pc⟩
  | looking => exact ⟨.look, _, if_pos pc⟩
  | polling => exact ⟨.poll false, _, if_pos pc⟩
  | reading => exact ⟨.read .failed, _, if_pos pc⟩
  | closing => exact ⟨.closeRx, _, if_pos pc⟩
  | returned => exact absurd pc working

/-- After the stop, the application returns when its handlers have. -/
theorem exists_appAct (stopped : server.stopped = true) (started : server.app ≠ .absent)
    (working : server.app ≠ .returned) :
    ∃ step next, server.LeavesAlone (.app step) ∧ server.appAct step = some next := by
  cases pc : server.app with
  | absent => exact absurd pc started
  | created => exact ⟨.run, _, trivial, if_pos pc⟩
  | running =>
      cases writing : server.writing with
      | cons payload rest =>
          have pending : payload ∈ server.writing := by simp [writing]
          exact ⟨.write payload true, _, trivial, if_pos pending⟩
      | nil =>
          cases responding : server.responding with
          | cons payload rest =>
              have pending : payload ∈ server.responding := by simp [responding]
              exact ⟨.respond payload, _, trivial, if_pos pending⟩
          | nil => exact ⟨.return_, _, trivial, if_pos ⟨pc, stopped, writing, responding⟩⟩
  | returned => exact absurd pc working

theorem exists_act (sound : server.Sound) (running : ∀ code, server.main ≠ .exited code) :
    ∃ label next, server.LeavesAlone label ∧ server.act label = some next := by
  have listenerThread := sound.listenerThread
  have appThread := sound.appThread
  cases pc : server.main with
  | initApp => exact ⟨.main (.initApp true), _, trivial, if_pos pc⟩
  | openTx =>
      rcases sound.owned.exists_fresh with ⟨fd, fresh⟩
      exact ⟨.main (.openTx .opened fd), _, trivial, if_pos ⟨pc, fresh⟩⟩
  | startApp => exact ⟨.main .startApp, _, trivial, if_pos pc⟩
  | startListener => exact ⟨.main .startListener, _, trivial, if_pos pc⟩
  | watching => exact ⟨.main .look, _, trivial, if_pos pc⟩
  | stopOffer => exact ⟨.main .stopOffer, _, trivial, if_pos pc⟩
  | joinListener =>
      rw [pc] at listenerThread
      by_cases returned : server.listener = .returned
      · exact ⟨.main .joinListener, _, trivial, if_pos ⟨pc, returned⟩⟩
      · rcases exists_listenerAct sound listenerThread returned with ⟨step, next, actEq⟩
        exact ⟨.listener step, next, trivial, actEq⟩
  | stopApp => exact ⟨.main .stopApp, _, trivial, if_pos pc⟩
  | joinApp =>
      rw [pc] at appThread
      by_cases returned : server.app = .returned
      · exact ⟨.main .joinApp, _, trivial, if_pos ⟨pc, returned⟩⟩
      · rcases exists_appAct (sound.stop pc) appThread returned with ⟨step, next, alone, actEq⟩
        exact ⟨.app step, next, alone, actEq⟩
  | closeTx =>
      by_cases isOpen : 0 ≤ server.canTxFd
      · exact ⟨.main .closeTx, _, trivial, (if_pos pc).trans (if_pos isOpen)⟩
      · exact ⟨.main .closeTx, _, trivial, (if_pos pc).trans (if_neg isOpen)⟩
  | exited code => exact absurd pc (running code)

end Shutdown

end VehUnifiedServer

/-- Once the stop signal has come and no new requests do, the process leaves after finitely many
steps, in whatever order the threads take them and wherever they were when it came. -/
theorem server_shuts_down {server : VehUnifiedServer}
    (reached : unifiedServerSystem.Reachable TransitionSystem.anyStep server)
    (signalled : server.running = false) :
    unifiedServerSystem.Inevitable LeavesAlone (fun ended => ∃ code, ended.main = .exited code)
      server := by
  apply TransitionSystem.inevitable_of_measure
    (fun state : VehUnifiedServer => state.Sound ∧ state.running = false) stepsLeft
  · rintro state ⟨sound, stopping⟩ notExited
    rw [not_exists] at notExited
    rcases exists_act sound notExited with ⟨label, next, alone, actEq⟩
    refine ⟨label, next, alone, ?_⟩
    simp only [unifiedServerSystem]
    exact actEq
  · rintro state label next ⟨sound, stopping⟩ _ alone stepEq
    have soundNext := sound_step sound stepEq
    have actEq := (server_step_cases stepEq).2
    have lower : next.running = false ∧ next.stepsLeft < state.stepsLeft := by
      cases label with
      | signal => exact absurd alone id
      | main step => exact stepsLeft_mainAct stopping sound actEq
      | listener step => exact stepsLeft_listenerAct stopping actEq
      | app step => exact stepsLeft_appAct stopping alone actEq
    exact ⟨⟨soundNext, lower.1⟩, lower.2⟩
  · exact ⟨server_sound reached, signalled⟩

/-- The signal comes while a handler is about to write and the listener polls. -/
theorem server_shuts_down_busy :
    ∃ server, unifiedServerSystem.run .constructed (servedLabels.take 9 ++ [.signal]) =
        some server ∧ server.writing = [[0x01, 0x08]] ∧
      unifiedServerSystem.Inevitable LeavesAlone
        (fun ended => ∃ code, ended.main = .exited code) server := by
  refine ⟨_, rfl, rfl, ?_⟩
  apply server_shuts_down
  · exact TransitionSystem.Reachable.initial.run
      (unifiedServerSystem.allowedRun_anyStep .constructed (servedLabels.take 9 ++ [.signal])) rfl
  · rfl

end Synapse
