import Mathlib.Data.Finset.Basic
import Synapse.Gateway.System

/-!
# The descriptors of the accept loop

The gateway serves one tester after the other. For each it holds the socket of the
connection, and a CAN socket from its set-up until both threads of the session have
ended. This file embeds the accept loop around the sessions with the descriptors which are
open, and determines in which runs every session gives back what it has taken.
-/

namespace Synapse

inductive SetupOutcome where
  | socketFailed
  | ioctlFailed
  | bindFailed
  | ready
deriving DecidableEq

/-- What `setup_can_socket` returns, and the descriptors which are open behind it; `sock` is what
`socket` returns unless it fails. -/
def setupCanSocket (openFds : Finset ℕ) (outcome : SetupOutcome) (sock : ℕ) :
    Option ℕ × Finset ℕ :=
  match outcome with
  | .socketFailed => (none, openFds)
  | .ioctlFailed => (none, insert sock openFds)
  | .bindFailed => (none, insert sock openFds)
  | .ready => (some sock, insert sock openFds)

/-- Where the main thread stands in its accept loop. -/
inductive AcceptPc where
  | accepting
  | connected (clientSock : ℕ)
  | serving (clientSock canSock : ℕ)
deriving DecidableEq

structure Daemon where
  pc : AcceptPc
  openFds : Finset ℕ
  /-- The open descriptors before the last connection was accepted. -/
  beforeAccept : Finset ℕ
  gateway : Gateway

inductive DaemonLabel where
  | acceptFailed
  | accept (clientSock : ℕ)
  | setup (outcome : SetupOutcome) (sock : ℕ)
  | session (label : GatewayLabel)
  | sessionEnds

namespace Daemon

/-- `accept` and `socket` return no descriptor which is already open. -/
def accept (daemon : Daemon) (clientSock : ℕ) : Option Daemon :=
  if daemon.pc = .accepting ∧ clientSock ∉ daemon.openFds then
    some { daemon with
      pc := .connected clientSock
      openFds := insert clientSock daemon.openFds
      beforeAccept := daemon.openFds }
  else none

/-- The start of `handle_doip_session`. Without a CAN socket it returns, and the loop closes the
connection. -/
def setup (daemon : Daemon) (outcome : SetupOutcome) (sock : ℕ) : Option Daemon :=
  match daemon.pc with
  | .connected clientSock =>
      if outcome = .socketFailed ∨ sock ∉ daemon.openFds then
        match setupCanSocket daemon.openFds outcome sock with
        | (none, openFds) =>
            some { daemon with
              pc := .accepting
              openFds := openFds.erase clientSock }
        | (some canSock, openFds) =>
            some { daemon with
              pc := .serving clientSock canSock
              openFds := openFds }
      else none
  | _ => none

def session (daemon : Daemon) (label : GatewayLabel) : Option Daemon :=
  match daemon.pc, label with
  | .serving _ _, .nextSession => none
  | .serving _ _, label =>
      (gatewaySystem.step daemon.gateway label).map fun gateway =>
        { daemon with gateway := gateway }
  | _, _ => none

/-- Both threads have ended: `handle_doip_session` closes the CAN socket and returns, and the loop
closes the connection. -/
def sessionEnds (daemon : Daemon) : Option Daemon :=
  match daemon.pc with
  | .serving clientSock canSock =>
      daemon.gateway.nextSession.map fun gateway =>
        { daemon with
          pc := .accepting
          openFds := (daemon.openFds.erase canSock).erase clientSock
          gateway := gateway }
  | _ => none

def step (daemon : Daemon) : DaemonLabel → Option Daemon
  | .acceptFailed => if daemon.pc = .accepting then some daemon else none
  | .accept clientSock => daemon.accept clientSock
  | .setup outcome sock => daemon.setup outcome sock
  | .session label => daemon.session label
  | .sessionEnds => daemon.sessionEnds

end Daemon

/-- The gateway from the start of its accept loop, with the descriptors open there. -/
def daemonSystem (listening : Finset ℕ) : TransitionSystem Daemon DaemonLabel where
  initial := ⟨.accepting, listening, listening, .start⟩
  step := Daemon.step

/-- Between two connections the same descriptors are open as before the last one. -/
def GivesBack (daemon : Daemon) : Prop :=
  daemon.pc = .accepting → daemon.openFds = daemon.beforeAccept

/-- The set-up does not fail behind a successful `socket`. -/
def SetsUpCleanly : DaemonLabel → Prop
  | .setup outcome _ => outcome = .socketFailed ∨ outcome = .ready
  | _ => True

/-- A session holds its two sockets and no other descriptor. -/
def HoldsItsSockets (daemon : Daemon) : Prop :=
  match daemon.pc with
  | .accepting => daemon.openFds = daemon.beforeAccept
  | .connected clientSock =>
      clientSock ∉ daemon.beforeAccept ∧
        daemon.openFds = insert clientSock daemon.beforeAccept
  | .serving clientSock canSock =>
      clientSock ∉ daemon.beforeAccept ∧ canSock ∉ insert clientSock daemon.beforeAccept ∧
        daemon.openFds = insert canSock (insert clientSock daemon.beforeAccept)

/-! ## Steps -/

namespace Daemon

variable {daemon next : Daemon}

theorem accept_cases {clientSock : ℕ} (stepEq : daemon.accept clientSock = some next) :
    daemon.pc = .accepting ∧ clientSock ∉ daemon.openFds ∧
      next = ⟨.connected clientSock, insert clientSock daemon.openFds, daemon.openFds,
        daemon.gateway⟩ := by
  rw [accept] at stepEq
  split at stepEq
  next guard => exact ⟨guard.1, guard.2, (Option.some.inj stepEq).symm⟩
  next => simp at stepEq

theorem setup_cases {outcome : SetupOutcome} {sock : ℕ}
    (stepEq : daemon.setup outcome sock = some next) :
    ∃ clientSock, daemon.pc = .connected clientSock ∧
      ((outcome = .socketFailed ∧
          next = ⟨.accepting, daemon.openFds.erase clientSock, daemon.beforeAccept,
            daemon.gateway⟩) ∨
        (outcome = .ready ∧ sock ∉ daemon.openFds ∧
          next = ⟨.serving clientSock sock, insert sock daemon.openFds, daemon.beforeAccept,
            daemon.gateway⟩) ∨
        (¬SetsUpCleanly (.setup outcome sock) ∧ sock ∉ daemon.openFds ∧
          next = ⟨.accepting, (insert sock daemon.openFds).erase clientSock,
            daemon.beforeAccept, daemon.gateway⟩)) := by
  rw [setup] at stepEq
  split at stepEq
  next clientSock pcEq =>
    refine ⟨clientSock, pcEq, ?_⟩
    split at stepEq
    next fresh =>
      cases outcome with
      | socketFailed => exact Or.inl ⟨rfl, (Option.some.inj stepEq).symm⟩
      | ioctlFailed =>
          right; right
          exact ⟨by simp [SetsUpCleanly], by simpa using fresh, (Option.some.inj stepEq).symm⟩
      | bindFailed =>
          right; right
          exact ⟨by simp [SetsUpCleanly], by simpa using fresh, (Option.some.inj stepEq).symm⟩
      | ready =>
          right; left
          exact ⟨rfl, by simpa using fresh, (Option.some.inj stepEq).symm⟩
    next => simp at stepEq
  next => simp at stepEq

theorem session_cases {label : GatewayLabel} (stepEq : daemon.session label = some next) :
    ∃ clientSock canSock gateway, daemon.pc = .serving clientSock canSock ∧
      gatewaySystem.step daemon.gateway label = some gateway ∧
      next = { daemon with gateway := gateway } := by
  unfold session at stepEq
  split at stepEq
  next => simp at stepEq
  next _ clientSock canSock pcEq _ =>
    rcases Option.map_eq_some_iff.mp stepEq with ⟨gateway, gatewayEq, nextEq⟩
    exact ⟨clientSock, canSock, gateway, pcEq, gatewayEq, nextEq.symm⟩
  next => simp at stepEq

theorem sessionEnds_cases (stepEq : daemon.sessionEnds = some next) :
    ∃ clientSock canSock gateway, daemon.pc = .serving clientSock canSock ∧
      daemon.gateway.nextSession = some gateway ∧
      next = ⟨.accepting, (daemon.openFds.erase canSock).erase clientSock, daemon.beforeAccept,
        gateway⟩ := by
  rw [sessionEnds] at stepEq
  split at stepEq
  next clientSock canSock pcEq =>
    rcases Option.map_eq_some_iff.mp stepEq with ⟨gateway, gatewayEq, nextEq⟩
    exact ⟨clientSock, canSock, gateway, pcEq, gatewayEq, nextEq.symm⟩
  next => simp at stepEq

theorem step_holdsItsSockets {label : DaemonLabel} (holds : HoldsItsSockets daemon)
    (cleanly : SetsUpCleanly label) (stepEq : daemon.step label = some next) :
    HoldsItsSockets next := by
  cases label with
  | acceptFailed =>
      simp only [step, Option.ite_none_right_eq_some, Option.some.injEq] at stepEq
      rwa [← stepEq.2]
  | accept clientSock =>
      rcases accept_cases stepEq with ⟨_, fresh, rfl⟩
      exact ⟨fresh, rfl⟩
  | setup outcome sock =>
      rcases setup_cases stepEq with ⟨clientSock, pcEq, outcomes⟩
      rw [HoldsItsSockets, pcEq] at holds
      rcases holds with ⟨clientFresh, openEq⟩
      rcases outcomes with ⟨rfl, rfl⟩ | ⟨rfl, fresh, rfl⟩ | ⟨unclean, _⟩
      · change daemon.openFds.erase clientSock = daemon.beforeAccept
        rw [openEq, Finset.erase_insert clientFresh]
      · rw [openEq] at fresh
        refine ⟨clientFresh, fresh, ?_⟩
        change insert sock daemon.openFds = _
        rw [openEq]
      · exact absurd cleanly unclean
  | session label =>
      rcases session_cases stepEq with ⟨clientSock, canSock, gateway, pcEq, _, rfl⟩
      rw [HoldsItsSockets, pcEq] at holds ⊢
      exact holds
  | sessionEnds =>
      rcases sessionEnds_cases stepEq with ⟨clientSock, canSock, gateway, pcEq, _, rfl⟩
      rw [HoldsItsSockets, pcEq] at holds
      rcases holds with ⟨clientFresh, canFresh, openEq⟩
      change (daemon.openFds.erase canSock).erase clientSock = daemon.beforeAccept
      rw [openEq, Finset.erase_insert canFresh, Finset.erase_insert clientFresh]

/-- A set-up which fails behind `socket` leaves its descriptor open. -/
theorem step_not_givesBack {label : DaemonLabel} (holds : HoldsItsSockets daemon)
    (unclean : ¬SetsUpCleanly label) (stepEq : daemon.step label = some next) :
    ¬GivesBack next := by
  cases label with
  | setup outcome sock =>
      rcases setup_cases stepEq with ⟨clientSock, pcEq, outcomes⟩
      rw [HoldsItsSockets, pcEq] at holds
      rcases holds with ⟨clientFresh, openEq⟩
      rcases outcomes with ⟨rfl, _⟩ | ⟨rfl, _⟩ | ⟨_, fresh, rfl⟩
      · exact absurd (Or.inl rfl) unclean
      · exact absurd (Or.inr rfl) unclean
      · intro givesBack
        have same : (insert sock daemon.openFds).erase clientSock = daemon.beforeAccept :=
          givesBack rfl
        rw [openEq, Finset.mem_insert, not_or] at fresh
        have leaked : sock ∈ (insert sock daemon.openFds).erase clientSock :=
          Finset.mem_erase.mpr ⟨fresh.1, Finset.mem_insert_self _ _⟩
        rw [same] at leaked
        exact fresh.2 leaked
  | acceptFailed => exact absurd trivial unclean
  | accept clientSock => exact absurd trivial unclean
  | session label => exact absurd trivial unclean
  | sessionEnds => exact absurd trivial unclean

theorem givesBack_of_holdsItsSockets (holds : HoldsItsSockets daemon) : GivesBack daemon := by
  intro pcEq
  rwa [HoldsItsSockets, pcEq] at holds

end Daemon

/-- Every session of a run gives its descriptors back exactly if no set-up of the run fails in
`ioctl` or `bind`. -/
theorem daemon_givesBack_iff {listening : Finset ℕ} {labels : List DaemonLabel} {final : Daemon}
    (runEq : (daemonSystem listening).run (daemonSystem listening).initial labels = some final) :
    (daemonSystem listening).EveryState GivesBack (daemonSystem listening).initial labels ↔
      ∀ label ∈ labels, SetsUpCleanly label := by
  rw [← TransitionSystem.allowedRun_iff_forall runEq]
  apply TransitionSystem.everyState_iff_allowedRun HoldsItsSockets
  · intro daemon holds
    exact Daemon.givesBack_of_holdsItsSockets holds
  · intro daemon label next holds cleanly stepEq
    exact Daemon.step_holdsItsSockets holds cleanly stepEq
  · intro daemon label next holds unclean stepEq
    exact Daemon.step_not_givesBack holds unclean stepEq
  · rfl
  · exact runEq

/-- Standard input and output, the error stream and the listening socket. -/
def listeningFds : Finset ℕ :=
  {0, 1, 2, 3}

/-- A connection without a CAN socket, and one which is closed by the tester. -/
def twoConnections : List DaemonLabel :=
  [.accept 4, .setup .socketFailed 5, .acceptFailed, .accept 4, .setup .ready 5,
    .session (.testerRead []), .session (.exec .main 0), .session .forwarderExit, .sessionEnds]

theorem daemon_givesBack_twoConnections :
    (daemonSystem listeningFds).EveryState GivesBack (daemonSystem listeningFds).initial
        twoConnections ↔
      ∀ label ∈ twoConnections, SetsUpCleanly label := by
  have ends : ((daemonSystem listeningFds).run (daemonSystem listeningFds).initial
      twoConnections).isSome = true := by
    decide
  rcases Option.isSome_iff_exists.mp ends with ⟨final, runEq⟩
  exact daemon_givesBack_iff runEq

/-- Without the interface every connection costs a descriptor. -/
theorem not_givesBack_missingInterface :
    ∃ daemon, (daemonSystem listeningFds).run (daemonSystem listeningFds).initial
        [.accept 4, .setup .ioctlFailed 5] = some daemon ∧
      daemon.pc = .accepting ∧ daemon.openFds = insert 5 listeningFds ∧ ¬GivesBack daemon := by
  refine ⟨_, rfl, rfl, by decide, ?_⟩
  intro givesBack
  have same := givesBack rfl
  revert same
  decide

end Synapse
