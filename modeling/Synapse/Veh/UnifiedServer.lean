import Synapse.Library.Inevitable
import Synapse.Veh.ControlServers
import Synapse.Veh.StatusService

/-!
# The life of the unified server

The main thread initialises the server, starts a thread for the middleware and one which
listens on the CAN bus, waits for a stop signal and then takes both threads and the sockets
down. Requests are handled on threads of the middleware at any time between the start
and the stop of its application. This file embeds the threads with the descriptors they use,
and shows that no thread ever uses a descriptor which is not open and that none is left open
at the exit.

The middleware is taken by what the server relies on: handlers run while its application
runs, `stop` makes `start` return once no handler runs, also when it comes first, and
a service which has been withdrawn gets no requests.
-/

namespace Synapse

inductive ServerMainPc where
  | initApp
  | openTx
  | startApp
  | startListener
  | watching
  | stopOffer
  | joinListener
  | stopApp
  | joinApp
  | closeTx
  | exited (code : ℤ)
deriving DecidableEq

/-- Where the thread stands which runs the application of the middleware. -/
inductive AppPc where
  | absent
  | created
  | running
  | returned
deriving DecidableEq

inductive ListenerPc where
  | absent
  | opening
  | filtering
  | looking
  | polling
  | reading
  | closing
  | returned
deriving DecidableEq

structure VehUnifiedServer where
  /-- The flag which the signal handler clears. -/
  running : Bool
  main : ServerMainPc
  app : AppPc
  listener : ListenerPc
  canTxFd : ℤ
  canRxFd : ℤ
  openFds : List ℕ
  /-- The main thread has called `stop` on the application. -/
  stopped : Bool
  /-- The requests whose handler has not written its frame. -/
  writing : List (List UInt8)
  /-- The requests whose frame has been written and whose response has not been sent. -/
  responding : List (List UInt8)
  dispatched : List (List UInt8)
  writes : List CanWrite
  answered : List (List UInt8)
  published : List (List UInt8)

inductive MainStep where
  | initApp (succeeds : Bool)
  | openTx (outcome : InitOutcome) (fd : ℕ)
  | startApp
  | startListener
  | look
  | stopOffer
  | joinListener
  | stopApp
  | joinApp
  | closeTx
deriving DecidableEq

inductive ListenerStep where
  | openRx (outcome : InitOutcome) (fd : ℕ)
  | setFilter (installed : Bool)
  | look
  | poll (ready : Bool)
  | read (read : CanRead)
  | closeRx

inductive AppStep where
  | run
  | dispatch (payload : List UInt8)
  | write (payload : List UInt8) (accepts : Bool)
  | respond (payload : List UInt8)
  | return_
deriving DecidableEq

inductive ServerLabel where
  | signal
  | main (step : MainStep)
  | listener (step : ListenerStep)
  | app (step : AppStep)

namespace VehUnifiedServer

def constructed : VehUnifiedServer where
  running := true
  main := .initApp
  app := .absent
  listener := .absent
  canTxFd := -1
  canRxFd := -1
  openFds := []
  stopped := false
  writing := []
  responding := []
  dispatched := []
  writes := []
  answered := []
  published := []

/-- The descriptor which `open_can` returns; it closes one which it cannot bind. -/
def openCan (outcome : InitOutcome) (fd : ℕ) : ℤ :=
  if outcome = .opened then fd else -1

/-- The kernel opens a descriptor, and hands out none which is open. -/
def opens (server : VehUnifiedServer) (outcome : InitOutcome) (fd : ℕ) : List ℕ :=
  if outcome = .opened then fd :: server.openFds else server.openFds

def closes (server : VehUnifiedServer) (fd : ℤ) : List ℕ :=
  server.openFds.filter fun other => (other : ℤ) ≠ fd

def mainAct (server : VehUnifiedServer) : MainStep → Option VehUnifiedServer
  | .initApp succeeds =>
      if server.main = .initApp then
        some { server with main := if succeeds then .openTx else .exited (-1) }
      else none
  | .openTx outcome fd =>
      if server.main = .openTx ∧ fd ∉ server.openFds then
        some { server with
          main := if openCan outcome fd < 0 then .exited (-1) else .startApp
          canTxFd := openCan outcome fd
          openFds := server.opens outcome fd }
      else none
  | .startApp =>
      if server.main = .startApp then some { server with main := .startListener, app := .created }
      else none
  | .startListener =>
      if server.main = .startListener then
        some { server with main := .watching, listener := .opening }
      else none
  | .look =>
      if server.main = .watching then
        some { server with main := if server.running then .watching else .stopOffer }
      else none
  | .stopOffer =>
      if server.main = .stopOffer then
        some { server with main := .joinListener, running := false }
      else none
  | .joinListener =>
      if server.main = .joinListener ∧ server.listener = .returned then
        some { server with main := .stopApp }
      else none
  | .stopApp =>
      if server.main = .stopApp then some { server with main := .joinApp, stopped := true }
      else none
  | .joinApp =>
      if server.main = .joinApp ∧ server.app = .returned then
        some { server with main := .closeTx }
      else none
  | .closeTx =>
      if server.main = .closeTx then
        if 0 ≤ server.canTxFd then
          some { server with
            main := .exited 0, canTxFd := -1, openFds := server.closes server.canTxFd }
        else some { server with main := .exited 0 }
      else none

def listenerAct (server : VehUnifiedServer) : ListenerStep → Option VehUnifiedServer
  | .openRx outcome fd =>
      if server.listener = .opening ∧ fd ∉ server.openFds then
        some { server with
          listener := if openCan outcome fd < 0 then .returned else .filtering
          canRxFd := openCan outcome fd
          openFds := server.opens outcome fd }
      else none
  | .setFilter _ =>
      if server.listener = .filtering then some { server with listener := .looking } else none
  | .look =>
      if server.listener = .looking then
        some { server with listener := if server.running then .polling else .closing }
      else none
  | .poll ready =>
      if server.listener = .polling then
        some { server with listener := if ready then .reading else .looking }
      else none
  | .read read =>
      if server.listener = .reading then
        some { server with
          listener := .looking, published := server.published ++ (listen read).toList }
      else none
  | .closeRx =>
      if server.listener = .closing then
        some { server with
          listener := .returned, canRxFd := -1, openFds := server.closes server.canRxFd }
      else none

def appAct (server : VehUnifiedServer) : AppStep → Option VehUnifiedServer
  | .run => if server.app = .created then some { server with app := .running } else none
  | .dispatch payload =>
      if server.app = .running ∧ server.stopped = false then
        -- A request without a byte is neither written nor answered.
        if payload.length < 1 then some server
        else some { server with
          writing := server.writing ++ [payload], dispatched := server.dispatched ++ [payload] }
      else none
  | .write payload accepts =>
      if payload ∈ server.writing then
        some { server with
          writing := server.writing.erase payload
          responding := server.responding ++ [payload]
          writes := server.writes ++ (onControlRequest server.canTxFd accepts payload).writes }
      else none
  | .respond payload =>
      if payload ∈ server.responding then
        some { server with
          responding := server.responding.erase payload, answered := server.answered ++ [payload] }
      else none
  | .return_ =>
      if server.app = .running ∧ server.stopped = true ∧ server.writing = [] ∧
          server.responding = [] then
        some { server with app := .returned }
      else none

def act (server : VehUnifiedServer) : ServerLabel → Option VehUnifiedServer
  | .signal => some { server with running := false }
  | .main step => server.mainAct step
  | .listener step => server.listenerAct step
  | .app step => server.appAct step

/-- The descriptor which a step hands to a system call. -/
def uses (server : VehUnifiedServer) : ServerLabel → Option ℤ
  | .main .closeTx => if 0 ≤ server.canTxFd then some server.canTxFd else none
  | .app (.write _ _) => if 0 ≤ server.canTxFd then some server.canTxFd else none
  | .listener (.setFilter _) => some server.canRxFd
  | .listener (.poll _) => some server.canRxFd
  | .listener (.read _) => some server.canRxFd
  | .listener .closeRx => some server.canRxFd
  | _ => none

end VehUnifiedServer

/-- The process ends with the main thread. -/
def unifiedServerSystem : TransitionSystem VehUnifiedServer ServerLabel where
  initial := .constructed
  step server label :=
    match server.main with
    | .exited _ => none
    | _ => server.act label

/-! ## Which thread holds what -/

def ServerMainPc.holdsTx : ServerMainPc → Bool
  | .initApp => false
  | .openTx => false
  | .exited _ => false
  | _ => true

def ListenerPc.holdsRx : ListenerPc → Bool
  | .absent => false
  | .opening => false
  | .returned => false
  | _ => true

/-- How far the main thread is with the two other threads. -/
def ServerMainPc.appThread : ServerMainPc → AppPc → Prop
  | .initApp, app => app = .absent
  | .openTx, app => app = .absent
  | .startApp, app => app = .absent
  | .closeTx, app => app = .returned
  | .exited code, app => app = if code = 0 then .returned else .absent
  | _, app => app ≠ .absent

def ServerMainPc.listenerThread : ServerMainPc → ListenerPc → Prop
  | .initApp, listener => listener = .absent
  | .openTx, listener => listener = .absent
  | .startApp, listener => listener = .absent
  | .startListener, listener => listener = .absent
  | .watching, listener => listener ≠ .absent
  | .stopOffer, listener => listener ≠ .absent
  | .joinListener, listener => listener ≠ .absent
  | .exited code, listener => listener = if code = 0 then .returned else .absent
  | _, listener => listener = .returned

namespace VehUnifiedServer

/-- The open descriptors are those of the two members. -/
structure Owned (server : VehUnifiedServer) : Prop where
  tx : if server.main.holdsTx then 0 ≤ server.canTxFd else server.canTxFd = -1
  rx : if server.listener.holdsRx then 0 ≤ server.canRxFd else server.canRxFd = -1
  fds : ∀ fd : ℕ, fd ∈ server.openFds ↔ (fd : ℤ) = server.canTxFd ∨ (fd : ℤ) = server.canRxFd
  distinct : 0 ≤ server.canTxFd → server.canTxFd ≠ server.canRxFd

structure Sound (server : VehUnifiedServer) : Prop where
  owned : server.Owned
  appThread : server.main.appThread server.app
  listenerThread : server.main.listenerThread server.listener
  handlers : server.writing ≠ [] ∨ server.responding ≠ [] → server.app = .running
  stop : server.main = .joinApp → server.stopped = true

/-! ## Descriptors -/

section Owned

variable {server : VehUnifiedServer}

/-- A step which neither opens nor closes keeps the account of the descriptors. -/
theorem Owned.keep (owned : server.Owned) {next : VehUnifiedServer}
    (mainHolds : next.main.holdsTx = server.main.holdsTx)
    (listenerHolds : next.listener.holdsRx = server.listener.holdsRx)
    (txEq : next.canTxFd = server.canTxFd) (rxEq : next.canRxFd = server.canRxFd)
    (fdsEq : next.openFds = server.openFds) : next.Owned where
  tx := by rw [mainHolds, txEq]; exact owned.tx
  rx := by rw [listenerHolds, rxEq]; exact owned.rx
  fds := by rw [fdsEq, txEq, rxEq]; exact owned.fds
  distinct := by rw [txEq, rxEq]; exact owned.distinct

theorem Owned.openTx (owned : server.Owned) (idle : server.main.holdsTx = false)
    {outcome : InitOutcome} {fd : ℕ} (fresh : fd ∉ server.openFds) :
    ({ server with
      main := if openCan outcome fd < 0 then .exited (-1) else .startApp
      canTxFd := openCan outcome fd
      openFds := server.opens outcome fd } : VehUnifiedServer).Owned := by
  have tx := owned.tx
  rw [idle, if_neg Bool.false_ne_true] at tx
  have other := mt (owned.fds fd).mpr fresh
  rw [not_or] at other
  by_cases opened : outcome = .opened
  · have fdEq : openCan outcome fd = fd := if_pos opened
    have notNegative : ¬((fd : ℤ) < 0) := by omega
    rw [fdEq, if_neg notNegative, opens, if_pos opened]
    refine ⟨by simp [ServerMainPc.holdsTx], owned.rx, ?_, fun _ => other.2⟩
    intro held
    rw [List.mem_cons, owned.fds, tx]
    change _ ↔ (held : ℤ) = fd ∨ (held : ℤ) = server.canRxFd
    omega
  · have fdEq : openCan outcome fd = -1 := if_neg opened
    rw [fdEq, if_pos (by decide), opens, if_neg opened]
    refine ⟨by simp [ServerMainPc.holdsTx], owned.rx, ?_, by simp⟩
    rw [← tx]
    exact owned.fds

theorem Owned.openRx (owned : server.Owned) (idle : server.listener.holdsRx = false)
    {outcome : InitOutcome} {fd : ℕ} (fresh : fd ∉ server.openFds) :
    ({ server with
      listener := if openCan outcome fd < 0 then .returned else .filtering
      canRxFd := openCan outcome fd
      openFds := server.opens outcome fd } : VehUnifiedServer).Owned := by
  have rx := owned.rx
  rw [idle, if_neg Bool.false_ne_true] at rx
  have other := mt (owned.fds fd).mpr fresh
  rw [not_or] at other
  by_cases opened : outcome = .opened
  · have fdEq : openCan outcome fd = fd := if_pos opened
    have notNegative : ¬((fd : ℤ) < 0) := by omega
    rw [fdEq, if_neg notNegative, opens, if_pos opened]
    refine ⟨owned.tx, by simp [ListenerPc.holdsRx], ?_, fun _ => Ne.symm other.1⟩
    intro held
    rw [List.mem_cons, owned.fds, rx]
    change _ ↔ (held : ℤ) = server.canTxFd ∨ (held : ℤ) = fd
    omega
  · have fdEq : openCan outcome fd = -1 := if_neg opened
    rw [fdEq, if_pos (by decide), opens, if_neg opened]
    refine ⟨owned.tx, by simp [ListenerPc.holdsRx], ?_, ?_⟩
    · rw [← rx]
      exact owned.fds
    · rw [← rx]
      exact owned.distinct

theorem Owned.closeTx (owned : server.Owned) (open_ : 0 ≤ server.canTxFd) :
    ({ server with
      main := .exited 0
      canTxFd := -1
      openFds := server.closes server.canTxFd } : VehUnifiedServer).Owned := by
  refine ⟨by simp [ServerMainPc.holdsTx], owned.rx, ?_, by simp⟩
  intro held
  have distinct := owned.distinct open_
  simp only [closes, List.mem_filter, owned.fds, decide_eq_true_eq]
  omega

theorem Owned.closeRx (owned : server.Owned) (open_ : 0 ≤ server.canRxFd) :
    ({ server with
      listener := .returned
      canRxFd := -1
      openFds := server.closes server.canRxFd } : VehUnifiedServer).Owned := by
  have distinct := owned.distinct
  refine ⟨owned.tx, by simp [ListenerPc.holdsRx], ?_, ?_⟩
  · intro held
    simp only [closes, List.mem_filter, owned.fds, decide_eq_true_eq]
    omega
  · intro txOpen
    change 0 ≤ server.canTxFd at txOpen
    change server.canTxFd ≠ -1
    omega

end Owned

/-! ## Steps -/

section Steps

variable {server next : VehUnifiedServer}

theorem sound_constructed : constructed.Sound where
  owned := ⟨rfl, rfl, by simp [constructed], by simp [constructed]⟩
  appThread := rfl
  listenerThread := rfl
  handlers := by simp [constructed]
  stop := by simp [constructed]

theorem sound_mainAct (sound : server.Sound) {step : MainStep}
    (actEq : server.mainAct step = some next) : next.Sound := by
  rcases sound with ⟨owned, appThread, listenerThread, handlers, stop⟩
  cases step with
  | initApp succeeds =>
      simp only [mainAct, Option.ite_none_right_eq_some, Option.some.injEq] at actEq
      rcases actEq with ⟨pc, rfl⟩
      rw [pc] at appThread listenerThread
      refine ⟨owned.keep ?_ rfl rfl rfl rfl, ?_, ?_, handlers, ?_⟩
      · rw [pc]
        cases succeeds <;> rfl
      · cases succeeds <;> exact appThread
      · cases succeeds <;> exact listenerThread
      · cases succeeds <;> simp
  | openTx outcome fd =>
      simp only [mainAct, Option.ite_none_right_eq_some, Option.some.injEq] at actEq
      rcases actEq with ⟨⟨pc, fresh⟩, rfl⟩
      rw [pc] at appThread listenerThread
      refine ⟨owned.openTx (by rw [pc]; rfl) fresh, ?_, ?_, handlers, ?_⟩
      · dsimp only
        split <;> exact appThread
      · dsimp only
        split <;> exact listenerThread
      · dsimp only
        split <;> simp
  | startApp =>
      simp only [mainAct, Option.ite_none_right_eq_some, Option.some.injEq] at actEq
      rcases actEq with ⟨pc, rfl⟩
      rw [pc] at appThread listenerThread
      refine ⟨owned.keep (by rw [pc]; rfl) rfl rfl rfl rfl, by simp [ServerMainPc.appThread],
        listenerThread, ?_, by simp⟩
      intro handling
      rw [handlers handling] at appThread
      simp [ServerMainPc.appThread] at appThread
  | startListener =>
      simp only [mainAct, Option.ite_none_right_eq_some, Option.some.injEq] at actEq
      rcases actEq with ⟨pc, rfl⟩
      rw [pc] at appThread listenerThread
      refine ⟨owned.keep (by rw [pc]; rfl) ?_ rfl rfl rfl, appThread,
        by simp [ServerMainPc.listenerThread], handlers, by simp⟩
      rw [show server.listener = .absent from listenerThread]
      rfl
  | look =>
      simp only [mainAct, Option.ite_none_right_eq_some, Option.some.injEq] at actEq
      rcases actEq with ⟨pc, rfl⟩
      rw [pc] at appThread listenerThread
      refine ⟨owned.keep ?_ rfl rfl rfl rfl, ?_, ?_, handlers, ?_⟩
      · rw [pc]
        cases server.running <;> rfl
      · cases server.running <;> exact appThread
      · cases server.running <;> exact listenerThread
      · cases server.running <;> simp
  | stopOffer =>
      simp only [mainAct, Option.ite_none_right_eq_some, Option.some.injEq] at actEq
      rcases actEq with ⟨pc, rfl⟩
      rw [pc] at appThread listenerThread
      exact ⟨owned.keep (by rw [pc]; rfl) rfl rfl rfl rfl, appThread, listenerThread, handlers,
        by simp⟩
  | joinListener =>
      simp only [mainAct, Option.ite_none_right_eq_some, Option.some.injEq] at actEq
      rcases actEq with ⟨⟨pc, returned⟩, rfl⟩
      rw [pc] at appThread
      exact ⟨owned.keep (by rw [pc]; rfl) rfl rfl rfl rfl, appThread, returned, handlers,
        by simp⟩
  | stopApp =>
      simp only [mainAct, Option.ite_none_right_eq_some, Option.some.injEq] at actEq
      rcases actEq with ⟨pc, rfl⟩
      rw [pc] at appThread listenerThread
      exact ⟨owned.keep (by rw [pc]; rfl) rfl rfl rfl rfl, appThread, listenerThread, handlers,
        by simp⟩
  | joinApp =>
      simp only [mainAct, Option.ite_none_right_eq_some, Option.some.injEq] at actEq
      rcases actEq with ⟨⟨pc, returned⟩, rfl⟩
      rw [pc] at listenerThread
      exact ⟨owned.keep (by rw [pc]; rfl) rfl rfl rfl rfl, returned, listenerThread, handlers,
        by simp⟩
  | closeTx =>
      simp only [mainAct, Option.ite_none_right_eq_some] at actEq
      rcases actEq with ⟨pc, actEq⟩
      have open_ : 0 ≤ server.canTxFd := by simpa [pc, ServerMainPc.holdsTx] using owned.tx
      rw [pc] at appThread listenerThread
      rw [if_pos open_, Option.some.injEq] at actEq
      subst actEq
      exact ⟨owned.closeTx open_, appThread, listenerThread, handlers, by simp⟩

theorem listenerThread_of_started {main : ServerMainPc} {before after : ListenerPc}
    (thread : main.listenerThread before) (started : before ≠ .absent)
    (working : before ≠ .returned) (goesOn : after ≠ .absent) : main.listenerThread after := by
  cases main with
  | exited code =>
      simp only [ServerMainPc.listenerThread] at thread
      split at thread
      · exact absurd thread working
      · exact absurd thread started
  | initApp => exact absurd thread started
  | openTx => exact absurd thread started
  | startApp => exact absurd thread started
  | startListener => exact absurd thread started
  | watching => exact goesOn
  | stopOffer => exact goesOn
  | joinListener => exact goesOn
  | stopApp => exact absurd thread working
  | joinApp => exact absurd thread working
  | closeTx => exact absurd thread working

theorem sound_listenerAct (sound : server.Sound) {step : ListenerStep}
    (actEq : server.listenerAct step = some next) : next.Sound := by
  rcases sound with ⟨owned, appThread, listenerThread, handlers, stop⟩
  cases step with
  | openRx outcome fd =>
      simp only [listenerAct, Option.ite_none_right_eq_some, Option.some.injEq] at actEq
      rcases actEq with ⟨⟨pc, fresh⟩, rfl⟩
      refine ⟨owned.openRx (by rw [pc]; rfl) fresh, appThread, ?_, handlers, stop⟩
      apply listenerThread_of_started listenerThread
      · simp [pc]
      · simp [pc]
      · dsimp only
        split <;> simp
  | setFilter installed =>
      simp only [listenerAct, Option.ite_none_right_eq_some, Option.some.injEq] at actEq
      rcases actEq with ⟨pc, rfl⟩
      refine ⟨owned.keep rfl (by rw [pc]; rfl) rfl rfl rfl, appThread, ?_, handlers, stop⟩
      exact listenerThread_of_started listenerThread (by simp [pc]) (by simp [pc]) (by simp)
  | look =>
      simp only [listenerAct, Option.ite_none_right_eq_some, Option.some.injEq] at actEq
      rcases actEq with ⟨pc, rfl⟩
      refine ⟨owned.keep rfl ?_ rfl rfl rfl, appThread, ?_, handlers, stop⟩
      · rw [pc]
        cases server.running <;> rfl
      · apply listenerThread_of_started listenerThread
        · simp [pc]
        · simp [pc]
        · cases server.running <;> simp
  | poll ready =>
      simp only [listenerAct, Option.ite_none_right_eq_some, Option.some.injEq] at actEq
      rcases actEq with ⟨pc, rfl⟩
      refine ⟨owned.keep rfl ?_ rfl rfl rfl, appThread, ?_, handlers, stop⟩
      · rw [pc]
        cases ready <;> rfl
      · apply listenerThread_of_started listenerThread
        · simp [pc]
        · simp [pc]
        · cases ready <;> simp
  | read read =>
      simp only [listenerAct, Option.ite_none_right_eq_some, Option.some.injEq] at actEq
      rcases actEq with ⟨pc, rfl⟩
      refine ⟨owned.keep rfl (by rw [pc]; rfl) rfl rfl rfl, appThread, ?_, handlers, stop⟩
      exact listenerThread_of_started listenerThread (by simp [pc]) (by simp [pc]) (by simp)
  | closeRx =>
      simp only [listenerAct, Option.ite_none_right_eq_some, Option.some.injEq] at actEq
      rcases actEq with ⟨pc, rfl⟩
      have open_ : 0 ≤ server.canRxFd := by simpa [pc, ListenerPc.holdsRx] using owned.rx
      refine ⟨owned.closeRx open_, appThread, ?_, handlers, stop⟩
      exact listenerThread_of_started listenerThread (by simp [pc]) (by simp [pc]) (by simp)

theorem appThread_of_started {main : ServerMainPc} {before after : AppPc}
    (thread : main.appThread before) (started : before ≠ .absent)
    (working : before ≠ .returned) (goesOn : after ≠ .absent) : main.appThread after := by
  cases main with
  | exited code =>
      simp only [ServerMainPc.appThread] at thread
      split at thread
      · exact absurd thread working
      · exact absurd thread started
  | initApp => exact absurd thread started
  | openTx => exact absurd thread started
  | startApp => exact absurd thread started
  | closeTx => exact absurd thread working
  | _ => exact goesOn

theorem sound_appAct (sound : server.Sound) {step : AppStep}
    (actEq : server.appAct step = some next) : next.Sound := by
  rcases sound with ⟨owned, appThread, listenerThread, handlers, stop⟩
  cases step with
  | run =>
      simp only [appAct, Option.ite_none_right_eq_some, Option.some.injEq] at actEq
      rcases actEq with ⟨pc, rfl⟩
      refine ⟨owned.keep rfl rfl rfl rfl rfl, ?_, listenerThread, fun _ => rfl, stop⟩
      exact appThread_of_started appThread (by simp [pc]) (by simp [pc]) (by simp)
  | dispatch payload =>
      simp only [appAct, Option.ite_none_right_eq_some] at actEq
      rcases actEq with ⟨⟨pc, _⟩, actEq⟩
      split at actEq
      · rw [← Option.some.inj actEq]
        exact ⟨owned, appThread, listenerThread, handlers, stop⟩
      · rw [← Option.some.inj actEq]
        exact ⟨owned.keep rfl rfl rfl rfl rfl, appThread, listenerThread, fun _ => pc, stop⟩
  | write payload accepts =>
      simp only [appAct, Option.ite_none_right_eq_some, Option.some.injEq] at actEq
      rcases actEq with ⟨pending, rfl⟩
      have running := handlers (Or.inl (List.ne_nil_of_mem pending))
      exact ⟨owned.keep rfl rfl rfl rfl rfl, appThread, listenerThread, fun _ => running, stop⟩
  | respond payload =>
      simp only [appAct, Option.ite_none_right_eq_some, Option.some.injEq] at actEq
      rcases actEq with ⟨pending, rfl⟩
      have running := handlers (Or.inr (List.ne_nil_of_mem pending))
      exact ⟨owned.keep rfl rfl rfl rfl rfl, appThread, listenerThread, fun _ => running, stop⟩
  | return_ =>
      simp only [appAct, Option.ite_none_right_eq_some, Option.some.injEq] at actEq
      rcases actEq with ⟨⟨pc, _, noWriting, noResponding⟩, rfl⟩
      refine ⟨owned.keep rfl rfl rfl rfl rfl, ?_, listenerThread, ?_, stop⟩
      · exact appThread_of_started appThread (by simp [pc]) (by simp [pc]) (by simp)
      · rintro (writing | responding)
        · exact absurd noWriting writing
        · exact absurd noResponding responding

end Steps

end VehUnifiedServer

open VehUnifiedServer

theorem server_step_cases {server next : VehUnifiedServer} {label : ServerLabel}
    (stepEq : unifiedServerSystem.step server label = some next) :
    (∀ code, server.main ≠ .exited code) ∧ server.act label = some next := by
  simp only [unifiedServerSystem] at stepEq
  split at stepEq
  · simp at stepEq
  · next running => exact ⟨running, stepEq⟩

theorem sound_step {server next : VehUnifiedServer} {label : ServerLabel} (sound : server.Sound)
    (stepEq : unifiedServerSystem.step server label = some next) : next.Sound := by
  have actEq := (server_step_cases stepEq).2
  cases label with
  | signal =>
      rw [← Option.some.inj actEq]
      exact ⟨sound.owned.keep rfl rfl rfl rfl rfl, sound.appThread, sound.listenerThread,
        sound.handlers, sound.stop⟩
  | main step => exact sound_mainAct sound actEq
  | listener step => exact sound_listenerAct sound actEq
  | app step => exact sound_appAct sound actEq

theorem server_sound {server : VehUnifiedServer}
    (reached : unifiedServerSystem.Reachable TransitionSystem.anyStep server) : server.Sound := by
  apply reached.invariant sound_constructed
  intro state label next sound _ stepEq
  exact sound_step sound stepEq

/-- Whatever the order of the threads, a descriptor is used only while it is open, and the process
leaves with no descriptor open and no thread running. -/
theorem server_descriptors {server : VehUnifiedServer}
    (reached : unifiedServerSystem.Reachable TransitionSystem.anyStep server) :
    (∀ label next fd, unifiedServerSystem.step server label = some next →
      server.uses label = some fd → ∃ held ∈ server.openFds, (held : ℤ) = fd) ∧
    (∀ code, server.main = .exited code → server.openFds = [] ∧
      (server.app = .absent ∨ server.app = .returned) ∧
      (server.listener = .absent ∨ server.listener = .returned)) := by
  have sound := server_sound reached
  have owned := sound.owned
  constructor
  · intro label next fd stepEq used
    have actEq := (server_step_cases stepEq).2
    have ofTx : 0 ≤ server.canTxFd → ∃ held ∈ server.openFds, (held : ℤ) = server.canTxFd := by
      intro open_
      rcases Int.eq_ofNat_of_zero_le open_ with ⟨held, heldEq⟩
      exact ⟨held, (owned.fds held).mpr (Or.inl heldEq.symm), heldEq.symm⟩
    have ofRx : server.listener.holdsRx = true →
        ∃ held ∈ server.openFds, (held : ℤ) = server.canRxFd := by
      intro holds
      have open_ : 0 ≤ server.canRxFd := by simpa [holds] using owned.rx
      rcases Int.eq_ofNat_of_zero_le open_ with ⟨held, heldEq⟩
      exact ⟨held, (owned.fds held).mpr (Or.inr heldEq.symm), heldEq.symm⟩
    cases label with
    | signal => simp [uses] at used
    | main step =>
        cases step with
        | closeTx =>
            simp only [uses, Option.ite_none_right_eq_some, Option.some.injEq] at used
            rw [← used.2]
            exact ofTx used.1
        | _ => simp [uses] at used
    | app step =>
        cases step with
        | write payload accepts =>
            simp only [uses, Option.ite_none_right_eq_some, Option.some.injEq] at used
            rw [← used.2]
            exact ofTx used.1
        | _ => simp [uses] at used
    | listener step =>
        have pcOf : ∀ pc : ListenerPc, pc.holdsRx = true → server.listener = pc →
            ∃ held ∈ server.openFds, (held : ℤ) = server.canRxFd := by
          rintro pc holds rfl
          exact ofRx holds
        cases step with
        | openRx outcome socket => simp [uses] at used
        | look => simp [uses] at used
        | setFilter installed =>
            rw [← Option.some.inj used]
            simp only [act, listenerAct, Option.ite_none_right_eq_some] at actEq
            exact pcOf _ rfl actEq.1
        | poll ready =>
            rw [← Option.some.inj used]
            simp only [act, listenerAct, Option.ite_none_right_eq_some] at actEq
            exact pcOf _ rfl actEq.1
        | read read =>
            rw [← Option.some.inj used]
            simp only [act, listenerAct, Option.ite_none_right_eq_some] at actEq
            exact pcOf _ rfl actEq.1
        | closeRx =>
            rw [← Option.some.inj used]
            simp only [act, listenerAct, Option.ite_none_right_eq_some] at actEq
            exact pcOf _ rfl actEq.1
  · intro code exited
    have tx : server.canTxFd = -1 := by simpa [exited, ServerMainPc.holdsTx] using owned.tx
    have app := sound.appThread
    have listener := sound.listenerThread
    rw [exited] at app listener
    simp only [ServerMainPc.appThread, ServerMainPc.listenerThread] at app listener
    have rx : server.canRxFd = -1 := by
      have rx := owned.rx
      split at listener <;> simpa [listener, ListenerPc.holdsRx] using rx
    refine ⟨?_, ?_, ?_⟩
    · rw [List.eq_nil_iff_forall_not_mem]
      intro fd
      rw [owned.fds, tx, rx]
      omega
    · split at app
      · exact Or.inr app
      · exact Or.inl app
    · split at listener
      · exact Or.inr listener
      · exact Or.inl listener

/-- A request is handled, a status frame is read, and the signal comes while the listener
polls. -/
def servedLabels : List ServerLabel :=
  [.main (.initApp true), .main (.openTx .opened 3), .main .startApp, .main .startListener,
    .app .run, .listener (.openRx .opened 4), .app (.dispatch [0x01, 0x08]),
    .listener (.setFilter true), .listener .look, .app (.write [0x01, 0x08] true), .signal,
    .main .look, .listener (.poll false), .main .stopOffer, .listener .look,
    .app (.respond [0x01, 0x08]), .listener .closeRx, .main .joinListener, .main .stopApp,
    .app .return_, .main .joinApp, .main .closeTx]

theorem served_run : ∃ server, unifiedServerSystem.run .constructed servedLabels = some server ∧
    server.main = .exited 0 ∧ server.answered = [[0x01, 0x08]] :=
  ⟨_, rfl, rfl, rfl⟩

theorem server_descriptors_served :
    ∃ server, unifiedServerSystem.run .constructed servedLabels = some server ∧
      (∀ label next fd, unifiedServerSystem.step server label = some next →
        server.uses label = some fd → ∃ held ∈ server.openFds, (held : ℤ) = fd) ∧
      (∀ code, server.main = .exited code → server.openFds = [] ∧
        (server.app = .absent ∨ server.app = .returned) ∧
        (server.listener = .absent ∨ server.listener = .returned)) := by
  rcases served_run with ⟨server, runEq, _⟩
  have reached := TransitionSystem.Reachable.initial.run
    (unifiedServerSystem.allowedRun_anyStep .constructed servedLabels) runEq
  exact ⟨server, runEq, server_descriptors reached⟩

end Synapse
