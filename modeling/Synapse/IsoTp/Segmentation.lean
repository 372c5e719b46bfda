import Synapse.IsoTp.Receive

/-!
# ISO-TP segmentation

A message travels as one Single Frame, or as a First Frame which announces its
length followed by Consecutive Frames numbered modulo sixteen. `Segmentation`
says which frames carry which message, without reference to how a sender or
a receiver computes them: padding behind the carried bytes is arbitrary, and the
last Consecutive Frame may be short or padded.

The receiver inverts this relation: from the start of a segmentation it returns
exactly the message and leaves exactly what follows the frames.
-/

namespace Synapse

/-- `frames` carry `rest` as Consecutive Frames whose first sequence number is `seqNum`. -/
inductive ConsecutiveFrames : (seqNum : ℕ) → (rest : List UInt8) → List ReceivedFrame → Prop where
  | done (seqNum : ℕ) : ConsecutiveFrames seqNum [] []
  | next {seqNum : ℕ} {rest : List UInt8} {pci : UInt8} {frame : ReceivedFrame}
      {frames : List ReceivedFrame} (restNe : rest ≠ []) (pciEq : pci.toNat = 0x20 + seqNum)
      (carries : frame.Carries [pci] (rest.take 7))
      (later : ConsecutiveFrames ((seqNum + 1) % 16) (rest.drop 7) frames) :
      ConsecutiveFrames seqNum rest (frame :: frames)

/-- `frames` are a complete and well-formed transmission of `message`. -/
inductive Segmentation : (message : List UInt8) → List ReceivedFrame → Prop where
  | single {message : List UInt8} {pci : UInt8} {frame : ReceivedFrame}
      (nonempty : 1 ≤ message.length) (short : message.length ≤ 7)
      (pciEq : pci.toNat = message.length) (carries : frame.Carries [pci] message) :
      Segmentation message [frame]
  | multi {message : List UInt8} {high low : UInt8} {firstFrame : ReceivedFrame}
      {frames : List ReceivedFrame} (long : 8 ≤ message.length) (fits : message.length ≤ 4095)
      (highEq : high.toNat = 0x10 + message.length / 256)
      (lowEq : low.toNat = message.length % 256)
      (carries : firstFrame.Carries [high, low] (message.take 6))
      (later : ConsecutiveFrames 1 (message.drop 6) frames) :
      Segmentation message (firstFrame :: frames)

namespace Segmentation

theorem nonempty {message : List UInt8} {frames : List ReceivedFrame}
    (segmentation : Segmentation message frames) : message ≠ [] := by
  rintro rfl
  cases segmentation with
  | single nonempty => simp at nonempty
  | multi long => simp at long

theorem length_le {message : List UInt8} {frames : List ReceivedFrame}
    (segmentation : Segmentation message frames) : message.length ≤ 4095 := by
  cases segmentation with
  | single _ short => omega
  | multi _ fits => exact fits

end Segmentation

/-! ## The receiver on a Single Frame -/

theorem singleFrameLength_admissible_iff (len : UInt8) :
    ¬(len = 0 ∨ len > 7) ↔ 1 ≤ len.toNat ∧ len.toNat ≤ 7 := by
  rw [← UInt8.toNat_inj, gt_iff_lt, UInt8.lt_iff_toNat_lt]
  simp only [UInt8.reduceToNat]
  omega

theorem isotpHandleSingleFrame_of_carries {frame : CanFrame} {pci : UInt8}
    {message : List UInt8} (nonempty : 1 ≤ message.length) (short : message.length ≤ 7)
    (pciEq : pci.toNat = message.length) (carries : frame.Carries [pci] message) :
    isotpHandleSingleFrame frame = some message := by
  have lenEq : (frame.data[0]! &&& 0x0F).toNat = message.length := by
    rw [carries.data_zero, Bytes.toNat_and_lowMask]
    omega
  have inRange : ¬(frame.data[0]! &&& 0x0F = 0 ∨ frame.data[0]! &&& 0x0F > 7) := by
    rw [singleFrameLength_admissible_iff, lenEq]
    exact ⟨nonempty, short⟩
  simp only [isotpHandleSingleFrame, if_neg inRange, lenEq]
  exact carries.range_eq

theorem pciType_of_single {frame : CanFrame} {pci : UInt8} {message : List UInt8}
    (short : message.length ≤ 7) (pciEq : pci.toNat = message.length)
    (carries : frame.Carries [pci] message) : frame.pciType = 0 := by
  rw [CanFrame.pciType_eq_iff, carries.data_zero]
  simp only [UInt8.reduceToNat]
  omega

/-! ## The receiver on a First Frame -/

theorem pciType_of_multi {frame : CanFrame} {high low : UInt8} {message : List UInt8}
    (fits : message.length ≤ 4095) (highEq : high.toNat = 0x10 + message.length / 256)
    (carries : frame.Carries [high, low] (message.take 6)) : frame.pciType = 1 := by
  rw [CanFrame.pciType_eq_iff, carries.data_zero]
  simp only [UInt8.reduceToNat]
  omega

namespace MultiFrame

theorem announcedSize_of_carries {frame : CanFrame} {high low : UInt8} {message : List UInt8}
    (fits : message.length ≤ 4095) (highEq : high.toNat = 0x10 + message.length / 256)
    (lowEq : low.toNat = message.length % 256)
    (carries : frame.Carries [high, low] (message.take 6)) :
    (announcedSize frame).toNat = message.length := by
  rw [announcedSize, Bytes.toNat_twelveBits, carries.data_zero, carries.data_one]
  omega

/-- Behind a well-formed First Frame the loop waits with the first six bytes. -/
theorem start_of_carries {frame : ReceivedFrame} {high low : UInt8} {message : List UInt8}
    (long : 8 ≤ message.length) (fits : message.length ≤ 4095)
    (highEq : high.toNat = 0x10 + message.length / 256)
    (lowEq : low.toNat = message.length % 256)
    (carries : frame.Carries [high, low] (message.take 6)) :
    start frame.toCanFrame = .reading {
      totalSize := announcedSize frame.toCanFrame
      udsRxBuffer := message.take 6
      expectedSeqNum := 1 } := by
  have sizeEq := announcedSize_of_carries fits highEq lowEq carries
  have takeLength : (message.take 6).length = 6 := by
    rw [List.length_take]
    omega
  have dlcEq : frame.canDlc.toNat = 8 := by
    have atMost := frame.canDlc_le
    have atLeast := carries.1
    simp only [List.length_cons, List.length_nil, takeLength] at atLeast
    omega
  have rangeEq : frame.toCanFrame.range 2 8 = some (message.take 6) := by
    simpa [takeLength] using carries.range_eq
  simp only [start, dlcEq, rangeEq, loopTest]
  rw [if_pos (by rw [sizeEq, takeLength]; omega)]

end MultiFrame

/-! ## The reassembly loop on Consecutive Frames -/

/-- What the reassembly loop holds when `rest` of `message` is still to come. -/
structure MultiFrame.Awaits (frame : MultiFrame) (message : List UInt8) (seqNum : ℕ)
    (rest : List UInt8) : Prop where
  totalSize_eq : frame.totalSize.toNat = message.length
  split : message = frame.udsRxBuffer ++ rest
  seqNum_eq : frame.expectedSeqNum.toNat = seqNum

namespace MultiFrame

theorem loopTest_of_awaits {frame : MultiFrame} {message rest : List UInt8} {seqNum : ℕ}
    (awaits : frame.Awaits message seqNum rest) :
    frame.loopTest = if rest = [] then .returned message else .reading frame := by
  have lengths := congrArg List.length awaits.split
  rw [List.length_append] at lengths
  by_cases finished : rest = []
  · subst finished
    have bufferEq : message = frame.udsRxBuffer := by simpa using awaits.split
    rw [loopTest, if_pos rfl, if_neg (by rw [awaits.totalSize_eq, bufferEq]; omega), bufferEq]
  · have restPos := List.length_pos_iff.mpr finished
    rw [loopTest, if_neg finished, if_pos (by rw [awaits.totalSize_eq]; omega)]

theorem bytesToCopy_of_carries {frame : MultiFrame} {cfFrame : ReceivedFrame}
    {message rest : List UInt8} {seqNum : ℕ} {pci : UInt8} (fits : message.length ≤ 4095)
    (awaits : frame.Awaits message seqNum rest)
    (carries : cfFrame.Carries [pci] (rest.take 7)) :
    frame.bytesToCopy cfFrame.toCanFrame = (rest.take 7).length := by
  have lengths := congrArg List.length awaits.split
  have onBus := carries.1
  have atMost := cfFrame.canDlc_le
  rw [List.length_append] at lengths
  simp only [List.length_singleton, List.length_take] at onBus
  have remaining : (UInt16.ofNat (frame.totalSize.toNat - frame.udsRxBuffer.length)).toNat =
      rest.length := by
    rw [UInt16.toNat_ofNat', awaits.totalSize_eq]
    omega
  have carried : (cfFrame.canDlc.toUInt16 - 1).toNat = cfFrame.canDlc.toNat - 1 := by
    rw [UInt16.toNat_sub_of_le]
    · simp
    · rw [UInt16.le_iff_toNat_le]
      simp only [UInt16.reduceToNat, UInt8.toNat_toUInt16]
      omega
  rw [bytesToCopy, List.length_take, remaining, carried]
  omega

/-- One Consecutive Frame in order: the loop takes its bytes and tests its condition. -/
theorem onRead_of_carries {frame : MultiFrame} {cfFrame : ReceivedFrame}
    {message rest : List UInt8} {seqNum : ℕ} {pci : UInt8} (fits : message.length ≤ 4095)
    (awaits : frame.Awaits message seqNum rest) (seqLt : seqNum < 16)
    (pciEq : pci.toNat = 0x20 + seqNum)
    (carries : cfFrame.Carries [pci] (rest.take 7)) :
    ∃ next : MultiFrame, next.Awaits message ((seqNum + 1) % 16) (rest.drop 7) ∧
      frame.onRead (.frame cfFrame) = next.loopTest := by
  have highOk : cfFrame.data[0]! &&& 0xF0 = 0x20 := by
    rw [← UInt8.toNat_inj, carries.data_zero, Bytes.toNat_and_highMask]
    simp only [UInt8.reduceToNat]
    omega
  have lowOk : cfFrame.data[0]! &&& 0x0F = frame.expectedSeqNum := by
    rw [← UInt8.toNat_inj, carries.data_zero, Bytes.toNat_and_lowMask, awaits.seqNum_eq]
    omega
  have copied := bytesToCopy_of_carries fits awaits carries
  have rangeEq : cfFrame.toCanFrame.range 1
      (1 + frame.bytesToCopy cfFrame.toCanFrame) = some (rest.take 7) := by
    rw [copied]
    exact carries.range_eq
  refine ⟨{ frame with
    udsRxBuffer := frame.udsRxBuffer ++ rest.take 7
    expectedSeqNum := (frame.expectedSeqNum + 1) % 16 }, ⟨awaits.totalSize_eq, ?_, ?_⟩, ?_⟩
  · simpa [List.append_assoc] using awaits.split
  · have seqEq := awaits.seqNum_eq
    simp only [UInt8.toNat_mod, UInt8.toNat_add, UInt8.reduceToNat, seqEq]
    omega
  · simp only [onRead, highOk, lowOk, rangeEq]
    simp

/-- The loop returns the message at the end of its Consecutive Frames, and reads no further. -/
theorem receive_loopTest_of_consecutiveFrames {message rest : List UInt8} {seqNum : ℕ}
    {frames : List ReceivedFrame} (fits : message.length ≤ 4095)
    (sent : ConsecutiveFrames seqNum rest frames) (seqLt : seqNum < 16) {frame : MultiFrame}
    (awaits : frame.Awaits message seqNum rest) (reads : List CanRead) :
    frame.loopTest.receive (frames.map CanRead.frame ++ reads) = .returned message reads := by
  induction sent generalizing frame with
  | done seqNum =>
      rw [loopTest_of_awaits awaits, if_pos rfl, Reassembly.receive_returned]
      rfl
  | next restNe pciEq carries later ih =>
      rw [loopTest_of_awaits awaits, if_neg restNe]
      rcases onRead_of_carries fits awaits seqLt pciEq carries with ⟨next, nextAwaits, readEq⟩
      simp only [List.map_cons, List.cons_append, Reassembly.receive, readEq]
      apply ih
      · exact Nat.mod_lt _ (by omega)
      · exact nextAwaits

end MultiFrame

theorem MultiFrame.start_awaits {frame : ReceivedFrame} {high low : UInt8}
    {message : List UInt8} (long : 8 ≤ message.length) (fits : message.length ≤ 4095)
    (highEq : high.toNat = 0x10 + message.length / 256)
    (lowEq : low.toNat = message.length % 256)
    (carries : frame.Carries [high, low] (message.take 6)) :
    ∃ started : MultiFrame, started.Awaits message 1 (message.drop 6) ∧
      MultiFrame.start frame.toCanFrame = .reading started ∧
      started.loopTest = .reading started := by
  have awaits : MultiFrame.Awaits {
      totalSize := announcedSize frame.toCanFrame
      udsRxBuffer := message.take 6
      expectedSeqNum := 1 } message 1 (message.drop 6) := by
    refine ⟨announcedSize_of_carries fits highEq lowEq carries, ?_, rfl⟩
    exact (List.take_append_drop 6 message).symm
  refine ⟨_, awaits, MultiFrame.start_of_carries long fits highEq lowEq carries, ?_⟩
  rw [MultiFrame.loopTest_of_awaits awaits, if_neg]
  intro finished
  have lengths := congrArg List.length finished
  simp only [List.length_drop, List.length_nil] at lengths
  omega

/-- The receiver inverts segmentation and consumes exactly the frames of the message. -/
theorem isotpReceive_of_segmentation {message : List UInt8} {frames : List ReceivedFrame}
    (segmentation : Segmentation message frames) (reads : List CanRead) :
    isotpReceive (frames.map CanRead.frame ++ reads) = .returned message reads := by
  cases segmentation with
  | single nonempty short pciEq carries =>
      simp only [List.map_cons, List.map_nil, List.cons_append, List.nil_append, isotpReceive,
        pciType_of_single short pciEq carries,
        isotpHandleSingleFrame_of_carries nonempty short pciEq carries]
      rfl
  | multi long fits highEq lowEq carries later =>
      rcases MultiFrame.start_awaits long fits highEq lowEq carries with
        ⟨started, awaits, startEq, testEq⟩
      have received := MultiFrame.receive_loopTest_of_consecutiveFrames fits later (by omega)
        awaits reads
      rw [testEq] at received
      simp only [List.map_cons, List.cons_append, isotpReceive,
        pciType_of_multi fits highEq carries, isotpHandleMultiFrame, startEq, received]
      rfl

end Synapse
