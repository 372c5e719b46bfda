import Synapse.IsoTp.AnnouncedLength
import Synapse.Gateway.Demultiplexing

/-!
# When the forwarder waits in its own loop

A First Frame takes the forwarder into the reassembly loop, and the reads behind it
decide when it comes back: the loop ends when nothing is missing, and at the first
read which is not the Consecutive Frame it expects. This file says in terms of the
frames alone behind which reads the forwarder waits in its own loop, for a session
which goes on.
-/

namespace Synapse

/-- The reads of a session which goes on and in which every tester write succeeds. -/
def liveReads (reads : List CanRead) : List ForwarderInput :=
  reads.map fun read => .live read true

theorem liveReads_append (first second : List CanRead) :
    liveReads (first ++ second) = liveReads first ++ liveReads second :=
  List.map_append

theorem stateAfter_liveReads_cons (pc : ForwarderPc) (read : CanRead) (reads : List CanRead) :
    canToDoipForwarder.stateAfter pc (liveReads (read :: reads)) =
      canToDoipForwarder.stateAfter (canToDoipForwarder.step pc (.live read true)).1
        (liveReads reads) := rfl

/-! ## The reads of a reassembly -/

/-- The read brings the control bytes of its frame. -/
def CanRead.BringsControl : CanRead → Prop
  | .failed => True
  | .frame rxFrame =>
      1 ≤ rxFrame.canDlc.toNat ∧ (rxFrame.pciType = 1 → 2 ≤ rxFrame.canDlc.toNat)

def CanRead.StartsReassembly : CanRead → Prop
  | .failed => False
  | .frame rxFrame => rxFrame.pciType = 1

def CanRead.ContinuesReassembly (seqNum : ℕ) : CanRead → Prop
  | .failed => False
  | .frame cfFrame => cfFrame.IsConsecutive seqNum

/-- The reads of a reassembly which expects the sequence number `seqNum` and misses `missing`
bytes: Consecutive Frames in sequence until nothing is missing, or up to the first read which
breaks the sequence. -/
inductive ReassemblyReads : ℕ → ℕ → List CanRead → Prop where
  | complete {seqNum : ℕ} : ReassemblyReads seqNum 0 []
  | broken {seqNum missing : ℕ} {read : CanRead} (misses : 0 < missing)
      (unexpected : ¬read.ContinuesReassembly seqNum) : ReassemblyReads seqNum missing [read]
  | next {seqNum missing : ℕ} {cfFrame : ReceivedFrame} {reads : List CanRead}
      (misses : 0 < missing) (expected : cfFrame.IsConsecutive seqNum)
      (later : ReassemblyReads ((seqNum + 1) % 16) (missing - (cfFrame.canDlc.toNat - 1)) reads) :
      ReassemblyReads seqNum missing (.frame cfFrame :: reads)

/-- Every reassembly which a First Frame starts has come to its end, completed or broken; between
the reassemblies other reads may stand. -/
inductive Settled : List CanRead → Prop where
  | nil : Settled []
  | own {read : CanRead} {later : List CanRead} (other : ¬read.StartsReassembly)
      (settled : Settled later) : Settled (read :: later)
  | reassembly {firstFrame : ReceivedFrame} {reads later : List CanRead}
      (first : firstFrame.pciType = 1)
      (reassembles : ReassemblyReads 1 (firstFrame.ffDl - (firstFrame.canDlc.toNat - 2)) reads)
      (settled : Settled later) : Settled (.frame firstFrame :: (reads ++ later))

/-- The number of bytes which a reassembly still misses. -/
def MultiFrame.missing (frame : MultiFrame) : ℕ :=
  frame.totalSize.toNat - frame.udsRxBuffer.length

theorem MultiFrame.missing_appendData (frame : MultiFrame) (cfFrame : ReceivedFrame) :
    (frame.appendData (cfFrame.dataBytes 1)).missing =
      frame.missing - (cfFrame.canDlc.toNat - 1) := by
  simp only [missing, appendData, List.length_append, List.length_take, cfFrame.length_dataBytes]
  omega

/-- Where the forwarder stands behind the condition of the reassembly loop. -/
def afterLoopTest (frame : MultiFrame) : ForwarderPc :=
  if frame.missing = 0 then .dispatch else .reassembling frame

theorem afterLoopTest_of_misses {frame : MultiFrame} (misses : 0 < frame.missing) :
    afterLoopTest frame = .reassembling frame :=
  if_neg (Nat.ne_of_gt misses)

theorem forwardResponse_live_fst (read : CanRead) (udsResponse : List UInt8) :
    (forwardResponse (.live read true) udsResponse).1 = .dispatch := by
  by_cases empty : udsResponse = []
  · simp [forwardResponse, ForwarderInput.live, empty]
  · rw [forwardResponse_live empty]

theorem continueReassembly_loopTest (read : CanRead) (frame : MultiFrame) :
    (continueReassembly (.live read true) frame.loopTest).1 = afterLoopTest frame := by
  rw [MultiFrame.loopTest, afterLoopTest, MultiFrame.missing]
  split
  next unfinished => rw [if_neg (by omega), continueReassembly]
  next finished =>
    rw [if_pos (by omega)]
    exact forwardResponse_live_fst read frame.udsRxBuffer

/-! ## One read -/

theorem step_of_expected {frame : MultiFrame} {cfFrame : ReceivedFrame}
    (seqLt : frame.expectedSeqNum.toNat < 16) (pci : 1 ≤ cfFrame.canDlc.toNat)
    (expected : cfFrame.IsConsecutive frame.expectedSeqNum.toNat) :
    (canToDoipForwarder.step (.reassembling frame) (.live (.frame cfFrame) true)).1 =
      afterLoopTest (frame.appendData (cfFrame.dataBytes 1)) := by
  change (continueReassembly (.live (.frame cfFrame) true) (frame.onRead (.frame cfFrame))).1 = _
  rw [MultiFrame.onRead_of_isConsecutive seqLt pci expected, continueReassembly_loopTest]

theorem step_of_unexpected {frame : MultiFrame} {read : CanRead}
    (seqLt : frame.expectedSeqNum.toNat < 16)
    (unexpected : ¬read.ContinuesReassembly frame.expectedSeqNum.toNat) :
    (canToDoipForwarder.step (.reassembling frame) (.live read true)).1 = .dispatch := by
  change (continueReassembly (.live read true) (frame.onRead read)).1 = _
  cases read with
  | failed => rfl
  | frame cfFrame =>
      rw [MultiFrame.onRead_of_not_isConsecutive seqLt unexpected]
      rfl

theorem dispatchFrame_of_start {input : ForwarderInput} {rxFrame : ReceivedFrame}
    {frame : MultiFrame} (first : rxFrame.pciType = 1)
    (startEq : MultiFrame.start rxFrame.toCanFrame = frame.loopTest) :
    (dispatchFrame input rxFrame).1 = (continueReassembly input frame.loopTest).1 := by
  rw [dispatchFrame, if_neg (by rw [first]; decide), if_neg (by rw [first]; decide),
    if_pos first, startEq, MultiFrame.loopTest]
  by_cases unfinished : frame.udsRxBuffer.length < frame.totalSize.toNat
  · rw [if_pos unfinished]
  · rw [if_neg unfinished]

theorem step_of_firstFrame {firstFrame : ReceivedFrame} (first : firstFrame.pciType = 1)
    (control : 2 ≤ firstFrame.canDlc.toNat) :
    ∃ frame, (canToDoipForwarder.step .dispatch (.live (.frame firstFrame) true)).1 =
        afterLoopTest frame ∧
      frame.expectedSeqNum.toNat = 1 ∧
      frame.missing = firstFrame.ffDl - (firstFrame.canDlc.toNat - 2) := by
  refine ⟨{
    totalSize := MultiFrame.announcedSize firstFrame.toCanFrame
    udsRxBuffer := firstFrame.dataBytes 2
    expectedSeqNum := 1 }, ?_, rfl, ?_⟩
  · rw [← continueReassembly_loopTest (.frame firstFrame)]
    exact dispatchFrame_of_start first (MultiFrame.start_of_control control)
  · rw [MultiFrame.missing, firstFrame.length_dataBytes, firstFrame.toNat_announcedSize]

/-- A Single Frame has a payload inside its data array, if only an empty one. -/
theorem exists_isotpHandleSingleFrame (frame : CanFrame) :
    ∃ udsResponse, isotpHandleSingleFrame frame = some udsResponse := by
  rw [isotpHandleSingleFrame]
  split
  next => exact ⟨[], rfl⟩
  next admissible =>
    have inside := (singleFrameLength_admissible_iff _).mp admissible
    exact ⟨_, if_pos ⟨by omega, by omega⟩⟩

theorem step_of_other {read : CanRead} (other : ¬read.StartsReassembly) :
    (canToDoipForwarder.step .dispatch (.live read true)).1 = .dispatch := by
  cases read with
  | failed => rfl
  | frame rxFrame =>
      change (dispatchFrame (.live (.frame rxFrame) true) rxFrame).1 = _
      have notFirst : rxFrame.pciType ≠ 1 := other
      by_cases flowControl : rxFrame.pciType = 3
      · rw [dispatchFrame_of_flowControl flowControl]
        rfl
      · rw [dispatchFrame, if_neg flowControl, if_neg notFirst]
        split
        next =>
          rcases exists_isotpHandleSingleFrame rxFrame.toCanFrame with ⟨udsResponse, handled⟩
          rw [handled]
          exact forwardResponse_live_fst _ udsResponse
        next => rfl

/-! ## A whole reassembly -/

/-- The reads of a reassembly lead from its loop condition back to the forwarder's own loop. -/
theorem dispatch_of_reassemblyReads {seqNum missing : ℕ} {reads : List CanRead}
    (reassembles : ReassemblyReads seqNum missing reads)
    (control : ∀ read ∈ reads, read.BringsControl) {frame : MultiFrame} (seqLt : seqNum < 16)
    (seqEq : frame.expectedSeqNum.toNat = seqNum) (missingEq : frame.missing = missing) :
    canToDoipForwarder.stateAfter (afterLoopTest frame) (liveReads reads) = .dispatch := by
  induction reassembles generalizing frame with
  | complete => exact if_pos missingEq
  | broken misses unexpected =>
      subst seqEq missingEq
      rw [afterLoopTest_of_misses misses, stateAfter_liveReads_cons,
        step_of_unexpected seqLt unexpected]
      rfl
  | @next seqNum missing cfFrame reads misses expected _ ih =>
      subst seqEq missingEq
      rcases List.forall_mem_cons.mp control with ⟨controlHere, controlLater⟩
      rw [afterLoopTest_of_misses misses, stateAfter_liveReads_cons,
        step_of_expected seqLt controlHere.1 expected]
      apply ih controlLater
      · exact Nat.mod_lt _ (by omega)
      · exact frame.expectedSeqNum_appendData _
      · exact frame.missing_appendData cfFrame

/-- Reads which lead from a loop condition back to the forwarder's own loop begin with the reads of
the reassembly. -/
theorem exists_reassemblyReads {reads : List CanRead}
    (control : ∀ read ∈ reads, read.BringsControl) {frame : MultiFrame}
    (seqLt : frame.expectedSeqNum.toNat < 16)
    (waiting : canToDoipForwarder.stateAfter (afterLoopTest frame) (liveReads reads) =
      .dispatch) :
    ∃ reassembled later, reads = reassembled ++ later ∧
      ReassemblyReads frame.expectedSeqNum.toNat frame.missing reassembled ∧
      canToDoipForwarder.stateAfter .dispatch (liveReads later) = .dispatch := by
  induction reads generalizing frame with
  | nil =>
      by_cases complete : frame.missing = 0
      · exact ⟨[], [], rfl, complete ▸ .complete, rfl⟩
      · rw [afterLoopTest, if_neg complete] at waiting
        cases waiting
  | cons read reads ih =>
      rcases List.forall_mem_cons.mp control with ⟨controlHere, controlLater⟩
      rcases Nat.eq_zero_or_pos frame.missing with complete | misses
      · rw [afterLoopTest, if_pos complete] at waiting
        exact ⟨[], read :: reads, rfl, complete ▸ .complete, waiting⟩
      · rw [afterLoopTest_of_misses misses, stateAfter_liveReads_cons] at waiting
        by_cases expected : read.ContinuesReassembly frame.expectedSeqNum.toNat
        · cases read with
          | failed => exact absurd expected id
          | frame cfFrame =>
              have seqEq := frame.expectedSeqNum_appendData (cfFrame.dataBytes 1)
              rw [step_of_expected seqLt controlHere.1 expected] at waiting
              rcases ih controlLater (by omega) waiting with
                ⟨reassembled, later, rfl, reassembles, waitingLater⟩
              rw [seqEq, frame.missing_appendData] at reassembles
              exact ⟨.frame cfFrame :: reassembled, later, rfl,
                .next misses expected reassembles, waitingLater⟩
        · rw [step_of_unexpected seqLt expected] at waiting
          exact ⟨[read], reads, rfl, .broken misses expected, waiting⟩

/-! ## All reads -/

theorem dispatch_of_settled {reads : List CanRead} (settled : Settled reads)
    (control : ∀ read ∈ reads, read.BringsControl) :
    canToDoipForwarder.stateAfter .dispatch (liveReads reads) = .dispatch := by
  induction settled with
  | nil => rfl
  | own other _ ih =>
      rw [stateAfter_liveReads_cons, step_of_other other]
      exact ih (List.forall_mem_cons.mp control).2
  | reassembly first reassembles _ ih =>
      rcases List.forall_mem_cons.mp control with ⟨controlFirst, controlBehind⟩
      rcases List.forall_mem_append.mp controlBehind with ⟨controlReads, controlLater⟩
      rcases step_of_firstFrame first (controlFirst.2 first) with
        ⟨frame, stepEq, seqEq, missingEq⟩
      rw [stateAfter_liveReads_cons, stepEq, liveReads_append, Transducer.stateAfter_append,
        dispatch_of_reassemblyReads reassembles controlReads (by decide) seqEq missingEq]
      exact ih controlLater

theorem settled_of_dispatch {reads : List CanRead}
    (control : ∀ read ∈ reads, read.BringsControl)
    (waiting : canToDoipForwarder.stateAfter .dispatch (liveReads reads) = .dispatch) :
    Settled reads := by
  -- The reads behind a reassembly are no tail of the list, but they are fewer.
  induction count : reads.length using Nat.strong_induction_on generalizing reads with
  | _ length ih =>
      cases reads with
      | nil => exact .nil
      | cons read reads =>
          rcases List.forall_mem_cons.mp control with ⟨controlHere, controlLater⟩
          rw [stateAfter_liveReads_cons] at waiting
          rw [List.length_cons] at count
          by_cases first : read.StartsReassembly
          · cases read with
            | failed => exact absurd first id
            | frame firstFrame =>
                rcases step_of_firstFrame first (controlHere.2 first) with
                  ⟨frame, stepEq, seqEq, missingEq⟩
                rw [stepEq] at waiting
                rcases exists_reassemblyReads controlLater (by omega) waiting with
                  ⟨reassembled, later, rfl, reassembles, waitingLater⟩
                rw [seqEq, missingEq] at reassembles
                rw [List.length_append] at count
                apply Settled.reassembly first reassembles
                apply ih later.length (by omega) _ waitingLater rfl
                exact (List.forall_mem_append.mp controlLater).2
          · rw [step_of_other first] at waiting
            exact .own first (ih reads.length (by omega) controlLater waiting rfl)

/-- The forwarder waits in its own loop exactly behind reads whose reassemblies have all ended, when
the frames bring their control bytes. -/
theorem dispatch_iff_settled {reads : List CanRead}
    (control : ∀ read ∈ reads, read.BringsControl) :
    canToDoipForwarder.stateAfter .dispatch (liveReads reads) = .dispatch ↔ Settled reads :=
  ⟨settled_of_dispatch control, fun settled => dispatch_of_settled settled control⟩

end Synapse
