import Synapse.IsoTp.AnnouncedLength
import Synapse.Gateway.Writes

/-!
# The bounds of the receiver's copies

Every copy out of a received frame is a range of its data array, and two
subtractions of unsigned numbers say how long a copy is. This file lists them
for each place of the forwarder in the order of the source, and determines when all of
them are as intended: a range runs forward inside the array, a difference does not
wrap around.
-/

namespace Synapse

/-- What the receiver computes from the fields of a frame. -/
inductive FrameAccess where
  | copy (first last : ℕ)
  | subtract (minuend subtrahend : ℕ)
deriving DecidableEq

def FrameAccess.Safe : FrameAccess → Prop
  | copy first last => first ≤ last ∧ last ≤ 8
  | subtract minuend subtrahend => subtrahend ≤ minuend

/-- The test of the reassembly loop on the frame which it has read. -/
def MultiFrame.Expects (frame : MultiFrame) (cfFrame : CanFrame) : Prop :=
  cfFrame.data[0]! &&& 0xF0 = 0x20 ∧ cfFrame.data[0]! &&& 0x0F = frame.expectedSeqNum

instance (frame : MultiFrame) (cfFrame : CanFrame) : Decidable (frame.Expects cfFrame) :=
  inferInstanceAs (Decidable (_ ∧ _))

def singleFrameAccesses (frame : CanFrame) : List FrameAccess :=
  let len := frame.data[0]! &&& 0x0F
  if len = 0 ∨ len > 7 then [] else [.copy 1 (1 + len.toNat)]

def firstFrameAccesses (firstFrame : CanFrame) : List FrameAccess :=
  [.copy 2 firstFrame.canDlc.toNat]

def MultiFrame.accesses (frame : MultiFrame) : CanRead → List FrameAccess
  | .failed => []
  | .frame cfFrame =>
      if frame.Expects cfFrame.toCanFrame then
        [.subtract frame.totalSize.toNat frame.udsRxBuffer.length,
          .subtract cfFrame.canDlc.toNat 1,
          .copy 1 (1 + frame.bytesToCopy cfFrame.toCanFrame)]
      else []

def dispatchAccesses (rxFrame : ReceivedFrame) : List FrameAccess :=
  if rxFrame.pciType = 3 then [.copy 0 rxFrame.canDlc.toNat]
  else if rxFrame.pciType = 0 then singleFrameAccesses rxFrame.toCanFrame
  else if rxFrame.pciType = 1 then firstFrameAccesses rxFrame.toCanFrame
  else []

def forwarderAccesses : ForwarderPc → CanRead → List FrameAccess
  | .dispatch, .frame rxFrame => dispatchAccesses rxFrame
  | .reassembling frame, read => frame.accesses read
  | _, _ => []

/-- A First Frame carries its two control bytes, and an expected Consecutive Frame its one. -/
def HasControlBytes : ForwarderPc → CanRead → Prop
  | .dispatch, .frame rxFrame => rxFrame.pciType = 1 → 2 ≤ rxFrame.canDlc.toNat
  | .reassembling frame, .frame cfFrame =>
      frame.Expects cfFrame.toCanFrame → 1 ≤ cfFrame.canDlc.toNat
  | _, _ => True

/-! ## The accesses are those of the model -/

theorem not_expects_iff {frame : MultiFrame} {cfFrame : CanFrame} :
    ¬frame.Expects cfFrame ↔
      (cfFrame.data[0]! &&& 0xF0 ≠ 0x20 ∨ cfFrame.data[0]! &&& 0x0F ≠ frame.expectedSeqNum) :=
  not_and_or

theorem range_eq_none_iff (frame : CanFrame) (first last : ℕ) :
    frame.range first last = none ↔ ¬(FrameAccess.copy first last).Safe := by
  rw [CanFrame.range, FrameAccess.Safe]
  split
  next inside => simp [inside]
  next outside => simp [outside]

theorem forwarderLoopHead_ne (sessionActive : Bool) :
    forwarderLoopHead sessionActive ≠ .outOfBounds := by
  cases sessionActive <;> simp [forwarderLoopHead]

theorem forwardResponse_ne (input : ForwarderInput) (udsResponse : List UInt8) :
    (forwardResponse input udsResponse).1 ≠ .outOfBounds := by
  rw [forwardResponse]
  split
  · simp
  · split
    · simp
    · split <;> simp

theorem continueReassembly_eq_iff (input : ForwarderInput) (reassembly : Reassembly) :
    (continueReassembly input reassembly).1 = .outOfBounds ↔ reassembly = .outOfBounds := by
  cases reassembly with
  | reading frame => simp [continueReassembly]
  | returned response => simp [continueReassembly, forwardResponse_ne]
  | outOfBounds => simp [continueReassembly]

theorem MultiFrame.loopTest_ne (frame : MultiFrame) : frame.loopTest ≠ .outOfBounds := by
  rw [loopTest]
  split <;> simp

/-- Some copy of a list of accesses is not a forward range inside the data array. -/
def HasUnsafeCopy (accesses : List FrameAccess) : Prop :=
  ∃ first last, .copy first last ∈ accesses ∧ ¬(FrameAccess.copy first last).Safe

theorem not_hasUnsafeCopy_nil : ¬HasUnsafeCopy [] := by
  rintro ⟨first, last, copyMem, _⟩
  simp at copyMem

theorem hasUnsafeCopy_singleton {first last : ℕ} :
    HasUnsafeCopy [.copy first last] ↔ ¬(FrameAccess.copy first last).Safe := by
  simp [HasUnsafeCopy]

theorem MultiFrame.start_eq_outOfBounds_iff (firstFrame : CanFrame) :
    start firstFrame = .outOfBounds ↔ HasUnsafeCopy (firstFrameAccesses firstFrame) := by
  rw [firstFrameAccesses, hasUnsafeCopy_singleton, ← range_eq_none_iff firstFrame, start]
  split
  next unsafe_ => simp [unsafe_]
  next bytes safe => simp [safe, loopTest_ne]

theorem MultiFrame.onRead_eq_outOfBounds_iff (frame : MultiFrame) (read : CanRead) :
    frame.onRead read = .outOfBounds ↔ HasUnsafeCopy (frame.accesses read) := by
  cases read with
  | failed => simp [onRead, accesses, not_hasUnsafeCopy_nil]
  | frame cfFrame =>
      by_cases expected : frame.Expects cfFrame.toCanFrame
      · have copies : HasUnsafeCopy (frame.accesses (.frame cfFrame)) ↔
            cfFrame.range 1 (1 + frame.bytesToCopy cfFrame.toCanFrame) = none := by
          rw [accesses, if_pos expected, range_eq_none_iff]
          simp [HasUnsafeCopy]
        rw [copies, onRead, if_neg (not_expects_iff.not.mp (not_not.mpr expected))]
        split
        next unsafe_ => simp [unsafe_]
        next bytes safe => simp [safe, loopTest_ne]
      · rw [onRead, if_pos (not_expects_iff.mp expected), accesses, if_neg expected]
        simp [not_hasUnsafeCopy_nil]

theorem isotpHandleSingleFrame_eq_none_iff (frame : CanFrame) :
    isotpHandleSingleFrame frame = none ↔ HasUnsafeCopy (singleFrameAccesses frame) := by
  simp only [isotpHandleSingleFrame, singleFrameAccesses]
  split
  next => simp [not_hasUnsafeCopy_nil]
  next => rw [hasUnsafeCopy_singleton, range_eq_none_iff]

theorem dispatchFrame_outOfBounds_iff (input : ForwarderInput) (rxFrame : ReceivedFrame) :
    (dispatchFrame input rxFrame).1 = .outOfBounds ↔
      HasUnsafeCopy (dispatchAccesses rxFrame) := by
  rw [dispatchFrame, dispatchAccesses]
  split
  · rw [hasUnsafeCopy_singleton, ← range_eq_none_iff rxFrame.toCanFrame]
    split
    next unsafe_ => simp [unsafe_]
    next bytes safe => simp [safe, forwarderLoopHead_ne]
  · split
    · rw [← isotpHandleSingleFrame_eq_none_iff]
      split
      next unsafe_ => simp [unsafe_]
      next response safe => simp [safe, forwardResponse_ne]
    · split
      · rw [← MultiFrame.start_eq_outOfBounds_iff]
        split
        next unsafe_ => simp [unsafe_]
        next => exact continueReassembly_eq_iff input _
      · simp [forwarderLoopHead_ne, not_hasUnsafeCopy_nil]

/-- The forwarder of the model stops being defined exactly at an unsafe copy. -/
theorem forwarderStep_outOfBounds_iff {pc : ForwarderPc} (defined : pc ≠ .outOfBounds)
    (input : ForwarderInput) :
    (forwarderStep pc input).1 = .outOfBounds ↔
      HasUnsafeCopy (forwarderAccesses pc input.read) := by
  cases pc with
  | dispatch =>
      simp only [forwarderStep]
      cases input.read with
      | failed => simp [forwarderLoopHead_ne, forwarderAccesses, not_hasUnsafeCopy_nil]
      | frame rxFrame => exact dispatchFrame_outOfBounds_iff input rxFrame
  | reassembling frame =>
      rw [forwarderStep, continueReassembly_eq_iff]
      exact frame.onRead_eq_outOfBounds_iff input.read
  | stopped => simp [forwarderStep, forwarderAccesses, not_hasUnsafeCopy_nil]
  | outOfBounds => exact absurd rfl defined

/-! ## When all accesses are safe -/

theorem singleFrameAccesses_safe (frame : CanFrame) :
    ∀ access ∈ singleFrameAccesses frame, access.Safe := by
  intro access accessMem
  simp only [singleFrameAccesses] at accessMem
  split at accessMem
  next => simp at accessMem
  next admissible =>
    have inside := (singleFrameLength_admissible_iff _).mp admissible
    rw [List.mem_singleton] at accessMem
    rw [accessMem]
    exact ⟨by omega, by omega⟩

theorem dispatchAccesses_safe_iff (rxFrame : ReceivedFrame) :
    (∀ access ∈ dispatchAccesses rxFrame, access.Safe) ↔
      (rxFrame.pciType = 1 → 2 ≤ rxFrame.canDlc.toNat) := by
  have fits := rxFrame.canDlc_le
  rw [dispatchAccesses]
  split
  next flowControl => simp [FrameAccess.Safe, fits, flowControl]
  next =>
    split
    next single =>
      refine iff_of_true (singleFrameAccesses_safe rxFrame.toCanFrame) ?_
      simp [single]
    next =>
      split
      next first => simp [firstFrameAccesses, FrameAccess.Safe, fits, first]
      next other => simp [other]

theorem MultiFrame.accesses_safe_iff {frame : MultiFrame}
    (unfinished : frame.udsRxBuffer.length < frame.totalSize.toNat) (cfFrame : ReceivedFrame) :
    (∀ access ∈ frame.accesses (.frame cfFrame), access.Safe) ↔
      (frame.Expects cfFrame.toCanFrame → 1 ≤ cfFrame.canDlc.toNat) := by
  have fits := cfFrame.canDlc_le
  rw [accesses]
  by_cases expected : frame.Expects cfFrame.toCanFrame
  · rw [if_pos expected]
    constructor
    · intro safe _
      exact safe (.subtract cfFrame.canDlc.toNat 1) (by simp)
    · intro hasControl
      have pci := hasControl expected
      have copied := frame.bytesToCopy_eq pci
      simp only [List.forall_mem_cons, FrameAccess.Safe]
      refine ⟨by omega, pci, ⟨by omega, by omega⟩, by simp⟩
  · simp [expected]

theorem forwarderAccesses_safe_iff {pc : ForwarderPc} (bounded : pc.Bounded) (read : CanRead) :
    (∀ access ∈ forwarderAccesses pc read, access.Safe) ↔ HasControlBytes pc read := by
  cases pc with
  | dispatch =>
      cases read with
      | failed => simp [forwarderAccesses, HasControlBytes]
      | frame rxFrame => exact dispatchAccesses_safe_iff rxFrame
  | reassembling frame =>
      cases read with
      | failed => simp [forwarderAccesses, MultiFrame.accesses, HasControlBytes]
      | frame cfFrame => exact MultiFrame.accesses_safe_iff bounded.2 cfFrame
  | stopped => simp [forwarderAccesses, HasControlBytes]
  | outOfBounds => simp [forwarderAccesses, HasControlBytes]

/-- All copies of a run stay inside the frames and no difference wraps around if and only if
every First Frame and every expected Consecutive Frame has its control bytes. -/
theorem canToDoipForwarder_safe_iff (inputs : List ForwarderInput) :
    canToDoipForwarder.EveryStep
        (fun pc input => ∀ access ∈ forwarderAccesses pc input.read, access.Safe)
        .dispatch inputs ↔
      canToDoipForwarder.EveryStep (fun pc input => HasControlBytes pc input.read)
        .dispatch inputs := by
  apply canToDoipForwarder.everyStep_iff_of_invariant ForwarderPc.Bounded
  · intro pc bounded input
    exact (forwarderStep_writesMessages bounded input).1
  · intro pc bounded input
    exact forwarderAccesses_safe_iff bounded input.read
  · trivial

/-- A First Frame of one byte. -/
def bareFirstFrame : ReceivedFrame :=
  .oneByte #v[0x10, 0, 0, 0, 0, 0, 0, 0]

theorem bareFirstFrame_unsafe :
    ¬canToDoipForwarder.EveryStep
      (fun pc input => ∀ access ∈ forwarderAccesses pc input.read, access.Safe)
      .dispatch [liveFrame bareFirstFrame] := by
  rintro ⟨safe, _⟩
  have forward := safe (.copy 2 1) (by decide)
  exact absurd forward.1 (by decide)

end Synapse
