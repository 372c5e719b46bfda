import Synapse.Library.TransitionSystem
import Synapse.Veh.ControlServers

/-!
# The descriptor of the control server

The CAN object of the control server holds one descriptor, and is open when the descriptor is
not negative. This file embeds its calls with the descriptors which the kernel hands out for
them. An initialisation stores the new descriptor before it knows whether it can be
bound, and never looks at the one it replaces; the file determines in which runs the object
is nevertheless open exactly when it is usable.
-/

namespace Synapse

/-- The CAN object, and what the kernel knows of the descriptors obtained for it. -/
structure CanObject where
  sockFd : ℤ
  openFds : List ℕ
  /-- The open descriptors which are bound to the interface. -/
  boundFds : List ℕ
deriving DecidableEq

namespace CanObject

def constructed : CanObject where
  sockFd := -1
  openFds := []
  boundFds := []

def isOpen (can : CanObject) : Bool :=
  decide (0 ≤ can.sockFd)

/-- `fd` is what `socket` returns unless it fails. -/
def init (can : CanObject) (outcome : InitOutcome) (fd : ℕ) : Bool × CanObject :=
  match outcome with
  | .socketFailed => (false, { can with sockFd := -1 })
  | .ioctlFailed => (false, { can with sockFd := fd, openFds := fd :: can.openFds })
  | .bindFailed => (false, { can with sockFd := fd, openFds := fd :: can.openFds })
  | .opened =>
      (true, {
        sockFd := fd
        openFds := fd :: can.openFds
        boundFds := fd :: can.boundFds })

def close (can : CanObject) : CanObject :=
  if 0 ≤ can.sockFd then {
    sockFd := -1
    openFds := can.openFds.filter fun fd => (fd : ℤ) ≠ can.sockFd
    boundFds := can.boundFds.filter fun fd => (fd : ℤ) ≠ can.sockFd }
  else can

/-- `veh_can_send` initialises the object when it is not open; the frame it then sends changes
nothing about the descriptors. -/
def vehCanSend (can : CanObject) (outcome : InitOutcome) (fd : ℕ) : CanObject :=
  if can.isOpen then can else (can.init outcome fd).2

end CanObject

/-- A call, with the answers of the socket calls it makes. -/
inductive CanCall where
  | init (outcome : InitOutcome) (fd : ℕ)
  | close
  | sendFrame (writeAccepts : Bool)
  | vehCanSend (outcome : InitOutcome) (fd : ℕ) (writeAccepts : Bool)
deriving DecidableEq

/-- `socket` returns no descriptor which is already open. -/
def CanObject.Fresh (can : CanObject) (outcome : InitOutcome) (fd : ℕ) : Prop :=
  outcome = .socketFailed ∨ fd ∉ can.openFds

instance (can : CanObject) (outcome : InitOutcome) (fd : ℕ) : Decidable (can.Fresh outcome fd) :=
  inferInstanceAs (Decidable (_ ∨ _))

def canObjectStep (can : CanObject) : CanCall → Option CanObject
  | .init outcome fd => if can.Fresh outcome fd then some (can.init outcome fd).2 else none
  | .close => some can.close
  | .sendFrame _ => some can
  | .vehCanSend outcome fd _ =>
      if can.isOpen = true ∨ can.Fresh outcome fd then some (can.vehCanSend outcome fd) else none

def canObjectSystem : TransitionSystem CanObject CanCall where
  initial := .constructed
  step := canObjectStep

namespace CanObject

/-- The object is open exactly if its descriptor is bound and has not been closed since, and
holds the only descriptor which is open. -/
structure Usable (can : CanObject) : Prop where
  isOpen_iff : can.isOpen = true ↔ ∃ fd ∈ can.boundFds, can.sockFd = fd
  held : ∀ fd ∈ can.openFds, can.sockFd = fd

/-- Nothing is left half done by an initialisation with this outcome. -/
def Clean (outcome : InitOutcome) : Prop :=
  outcome = .socketFailed ∨ outcome = .opened

instance (outcome : InitOutcome) : Decidable (Clean outcome) :=
  inferInstanceAs (Decidable (_ ∨ _))

/-- An initialisation finds the object closed, and the calls which follow a successful `socket`
succeed as well. -/
def InitialisesCleanly (can : CanObject) : CanCall → Prop
  | .init outcome _ => can.isOpen = false ∧ Clean outcome
  | .vehCanSend outcome _ _ => can.isOpen = false → Clean outcome
  | _ => True

instance (can : CanObject) (call : CanCall) : Decidable (can.InitialisesCleanly call) :=
  match call with
  | .init _ _ => inferInstanceAs (Decidable (_ ∧ _))
  | .vehCanSend _ _ _ => inferInstanceAs (Decidable (_ → _))
  | .close => isTrue trivial
  | .sendFrame _ => isTrue trivial

/-- Closed without descriptors, or open with one which is bound. -/
def Settled (can : CanObject) : Prop :=
  can = constructed ∨ ∃ fd : ℕ, can = ⟨fd, [fd], [fd]⟩

/-! ## Refinement -/

/-- The object of the control server sees of its descriptor only whether it is open. -/
theorem init_refines (can : CanObject) (outcome : InitOutcome) (fd : ℕ) :
    CanInterface.init outcome = ((can.init outcome fd).1, ⟨(can.init outcome fd).2.isOpen⟩) := by
  cases outcome <;> simp [CanInterface.init, init, isOpen]

theorem vehCanSend_refines {can : CanObject} {calls : CanCalls} {canId : UInt16}
    {data : List UInt8} {next : CanInterface} {writes : List CanWrite}
    (sent : VehControlServer.vehCanSend ⟨can.isOpen⟩ calls canId data = some (next, writes))
    (fd : ℕ) : next = ⟨(can.vehCanSend calls.init fd).isOpen⟩ := by
  have initialised : (if can.isOpen then (true, ⟨can.isOpen⟩) else CanInterface.init calls.init) =
      (can.isOpen || (can.init calls.init fd).1, ⟨(can.vehCanSend calls.init fd).isOpen⟩) := by
    rw [init_refines can calls.init fd, vehCanSend]
    cases isOpen : can.isOpen with
    | true => simp [isOpen]
    | false => simp
  simp only [VehControlServer.vehCanSend, initialised] at sent
  split at sent
  next => exact (Prod.mk.inj (Option.some.inj sent)).1.symm
  next =>
    simp only [Option.bind_eq_bind, Option.bind_eq_some_iff, Option.some.injEq,
      Prod.mk.injEq] at sent
    rcases sent with ⟨copied, _, frameWrites, _, nextEq, _⟩
    exact nextEq.symm

/-! ## Steps -/

/-- A call initialises the object, closes it, or leaves it alone. -/
theorem step_cases {can next : CanObject} {call : CanCall}
    (stepEq : canObjectStep can call = some next) :
    (∃ outcome fd, call = .init outcome fd ∧ can.Fresh outcome fd ∧
      next = (can.init outcome fd).2) ∨
    (∃ outcome fd writeAccepts, call = .vehCanSend outcome fd writeAccepts ∧
      can.isOpen = false ∧ can.Fresh outcome fd ∧ next = (can.init outcome fd).2) ∨
    (call = .close ∧ next = can.close) ∨
    (can.InitialisesCleanly call ∧ next = can) := by
  cases call with
  | init outcome fd =>
      simp only [canObjectStep, Option.ite_none_right_eq_some, Option.some.injEq] at stepEq
      exact Or.inl ⟨outcome, fd, rfl, stepEq.1, stepEq.2.symm⟩
  | close =>
      right; right; left
      exact ⟨rfl, (Option.some.inj stepEq).symm⟩
  | sendFrame writeAccepts =>
      right; right; right
      exact ⟨trivial, (Option.some.inj stepEq).symm⟩
  | vehCanSend outcome fd writeAccepts =>
      simp only [canObjectStep, vehCanSend, Option.ite_none_right_eq_some,
        Option.some.injEq] at stepEq
      rcases stepEq with ⟨fresh, nextEq⟩
      right
      by_cases open_ : can.isOpen = true
      · right; right
        rw [if_pos open_] at nextEq
        refine ⟨?_, nextEq.symm⟩
        intro closed
        simp [open_] at closed
      · left
        rw [if_neg open_] at nextEq
        exact ⟨outcome, fd, writeAccepts, rfl, Bool.eq_false_of_not_eq_true open_,
          fresh.resolve_left open_, nextEq.symm⟩

theorem Settled.usable {can : CanObject} (settled : can.Settled) : can.Usable := by
  rcases settled with rfl | ⟨fd, rfl⟩
  · exact ⟨by simp [isOpen, constructed], by simp [constructed]⟩
  · exact ⟨by simp [isOpen], by simp⟩

theorem Settled.init {can : CanObject} (settled : can.Settled) {outcome : InitOutcome} (fd : ℕ)
    (closed : can.isOpen = false) (clean : Clean outcome) :
    (can.init outcome fd).2.Settled := by
  rcases settled with rfl | ⟨held, rfl⟩
  · rcases clean with rfl | rfl
    · exact Or.inl rfl
    · exact Or.inr ⟨fd, rfl⟩
  · simp [isOpen] at closed

/-- Any other initialisation leaves a descriptor behind, or holds one which is not bound. -/
theorem Settled.not_usable_init {can : CanObject} (settled : can.Settled) {outcome : InitOutcome}
    {fd : ℕ} (fresh : can.Fresh outcome fd) (unclean : ¬(can.isOpen = false ∧ Clean outcome)) :
    ¬(can.init outcome fd).2.Usable := by
  intro usable
  rcases settled with rfl | ⟨held, rfl⟩
  · have isOpen := usable.isOpen_iff
    cases outcome with
    | socketFailed => exact unclean ⟨rfl, Or.inl rfl⟩
    | ioctlFailed => simp [CanObject.init, CanObject.isOpen, constructed] at isOpen
    | bindFailed => simp [CanObject.init, CanObject.isOpen, constructed] at isOpen
    | opened => exact unclean ⟨rfl, Or.inr rfl⟩
  · have stillOpen : held ∈ ((⟨held, [held], [held]⟩ : CanObject).init outcome fd).2.openFds := by
      cases outcome <;> simp [CanObject.init]
    have heldEq := usable.held held stillOpen
    rcases fresh with rfl | fresh
    · simp [CanObject.init] at heldEq
    · apply fresh
      rw [List.mem_singleton]
      cases outcome <;> simp only [CanObject.init] at heldEq <;> omega

theorem Settled.close {can : CanObject} (settled : can.Settled) : can.close.Settled := by
  left
  rcases settled with rfl | ⟨fd, rfl⟩
  · rfl
  · simp [CanObject.close, constructed]

theorem settled_step {can next : CanObject} {call : CanCall} (settled : can.Settled)
    (cleanly : can.InitialisesCleanly call) (stepEq : canObjectStep can call = some next) :
    next.Settled := by
  rcases step_cases stepEq with ⟨outcome, fd, rfl, _, rfl⟩ |
    ⟨outcome, fd, writeAccepts, rfl, closed, _, rfl⟩ | ⟨rfl, rfl⟩ | ⟨_, rfl⟩
  · exact settled.init fd cleanly.1 cleanly.2
  · exact settled.init fd closed (cleanly closed)
  · exact settled.close
  · exact settled

theorem not_usable_step {can next : CanObject} {call : CanCall} (settled : can.Settled)
    (unclean : ¬can.InitialisesCleanly call) (stepEq : canObjectStep can call = some next) :
    ¬next.Usable := by
  rcases step_cases stepEq with ⟨outcome, fd, rfl, fresh, rfl⟩ |
    ⟨outcome, fd, writeAccepts, rfl, _, fresh, rfl⟩ | ⟨rfl, _⟩ | ⟨cleanly, _⟩
  · exact settled.not_usable_init fresh unclean
  · apply settled.not_usable_init fresh
    intro clean
    apply unclean
    intro _
    exact clean.2
  · exact absurd trivial unclean
  · exact absurd cleanly unclean

end CanObject

/-- The object is usable whenever it is open, behind every call of a run, exactly if every
initialisation of the run starts from a closed object and leaves nothing half done. -/
theorem canObject_usable_iff {calls : List CanCall} {final : CanObject}
    (runEq : canObjectSystem.run canObjectSystem.initial calls = some final) :
    canObjectSystem.EveryState CanObject.Usable canObjectSystem.initial calls ↔
      canObjectSystem.AllowedRun CanObject.InitialisesCleanly canObjectSystem.initial calls := by
  apply TransitionSystem.everyState_iff_allowedRun CanObject.Settled
  · intro can settled
    exact settled.usable
  · intro can call next settled cleanly stepEq
    exact CanObject.settled_step settled cleanly stepEq
  · intro can call next settled unclean stepEq
    exact CanObject.not_usable_step settled unclean stepEq
  · exact Or.inl rfl
  · exact runEq

def retriedCalls : List CanCall :=
  [.vehCanSend .socketFailed 3 true, .vehCanSend .opened 3 true, .sendFrame false, .close,
    .init .opened 3]

theorem canObject_usable_retried :
    canObjectSystem.EveryState CanObject.Usable canObjectSystem.initial retriedCalls ↔
      canObjectSystem.AllowedRun CanObject.InitialisesCleanly canObjectSystem.initial
        retriedCalls := by
  have runEq : canObjectSystem.run canObjectSystem.initial retriedCalls =
      some ⟨3, [3], [3]⟩ := by decide
  exact canObject_usable_iff runEq

/-- Without the interface, `veh_can_send` fails and leaves an unbound descriptor, which the next
call takes for an open interface. -/
theorem not_usable_missingInterface :
    ∃ can,
      canObjectSystem.run canObjectSystem.initial [.vehCanSend .ioctlFailed 3 true] = some can ∧
      can.isOpen = true ∧ can.boundFds = [] ∧ ¬can.Usable ∧ can.vehCanSend .opened 4 = can := by
  refine ⟨⟨3, [3], []⟩, by decide, rfl, rfl, ?_, rfl⟩
  intro usable
  simpa [CanObject.isOpen] using usable.isOpen_iff

end Synapse
