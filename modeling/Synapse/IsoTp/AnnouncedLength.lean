import Synapse.IsoTp.Receive

/-!
# The announced length of a received message

The First Frame announces a length and already carries data. The reassembly loop
compares the two before every read, and copies no more than what is missing.
This file gives the message which a First Frame and the frames behind it spell,
and determines when the reassembly returns exactly that message.
-/

namespace Synapse

namespace CanFrame

/-- The frame is a Consecutive Frame with this sequence number. -/
def IsConsecutive (frame : CanFrame) (seqNum : ℕ) : Prop :=
  frame.data[0]!.toNat = 0x20 + seqNum

instance (frame : CanFrame) (seqNum : ℕ) : Decidable (frame.IsConsecutive seqNum) :=
  inferInstanceAs (Decidable (_ = _))

/-- The length field of a First Frame. -/
def ffDl (firstFrame : CanFrame) : ℕ :=
  firstFrame.data[0]!.toNat % 16 * 256 + firstFrame.data[1]!.toNat

theorem toNat_announcedSize (firstFrame : CanFrame) :
    (MultiFrame.announcedSize firstFrame).toNat = firstFrame.ffDl :=
  Bytes.toNat_twelveBits _ _

end CanFrame

/-- Consecutive Frames with the sequence numbers from `seqNum` on. -/
def Numbered : ℕ → List ReceivedFrame → Prop
  | _, [] => True
  | seqNum, cfFrame :: frames =>
      cfFrame.IsConsecutive seqNum ∧ Numbered ((seqNum + 1) % 16) frames

def consecutiveData (frames : List ReceivedFrame) : List UInt8 :=
  frames.flatMap fun cfFrame => cfFrame.dataBytes 1

theorem consecutiveData_concat (frames : List ReceivedFrame) (cfFrame : ReceivedFrame) :
    consecutiveData (frames ++ [cfFrame]) = consecutiveData frames ++ cfFrame.dataBytes 1 := by
  rw [consecutiveData, consecutiveData, List.flatMap_append, List.flatMap_singleton]

theorem numbered_concat {seqNum : ℕ} {frames : List ReceivedFrame} {cfFrame : ReceivedFrame}
    (seqLt : seqNum < 16) :
    Numbered seqNum (frames ++ [cfFrame]) ↔
      Numbered seqNum frames ∧ cfFrame.IsConsecutive ((seqNum + frames.length) % 16) := by
  induction frames generalizing seqNum with
  | nil => simp [Numbered, Nat.mod_eq_of_lt seqLt]
  | cons first frames ih =>
      have shifted : ((seqNum + 1) % 16 + frames.length) % 16 =
          (seqNum + (first :: frames).length) % 16 := by
        rw [List.length_cons]
        omega
      rw [List.cons_append, Numbered, Numbered, ih (Nat.mod_lt _ (by omega)), shifted, and_assoc]

/-- The reads start with numbered Consecutive Frames which complete `buffer` to a message of
`size` bytes, and end with `rest`. -/
structure Completes (buffer : List UInt8) (seqNum size : ℕ) (reads rest : List CanRead)
    (response : List UInt8) : Prop where
  length_eq : response.length = size
  content : ∃ frames, reads = frames.map (CanRead.frame ·) ++ rest ∧ Numbered seqNum frames ∧
    response = (buffer ++ consecutiveData frames).take size

/-! ## One pass of the loop -/

namespace MultiFrame

theorem bytesToCopy_eq (frame : MultiFrame) {cfFrame : CanFrame}
    (pci : 1 ≤ cfFrame.canDlc.toNat) :
    frame.bytesToCopy cfFrame =
      min (frame.totalSize.toNat - frame.udsRxBuffer.length) (cfFrame.canDlc.toNat - 1) := by
  have sizeLt := frame.totalSize.toNat_lt
  have dlcLt := cfFrame.canDlc.toNat_lt
  have one : (1 : UInt16) ≤ cfFrame.canDlc.toUInt16 := by
    rw [UInt16.le_iff_toNat_le]
    simpa using pci
  rw [bytesToCopy, UInt16.toNat_ofNat', UInt16.toNat_sub_of_le _ _ one,
    Nat.mod_eq_of_lt (by omega)]
  simp

theorem bytesToCopy_of_empty (frame : MultiFrame) {cfFrame : CanFrame}
    (empty : cfFrame.canDlc = 0) :
    frame.bytesToCopy cfFrame = frame.totalSize.toNat - frame.udsRxBuffer.length := by
  have sizeLt := frame.totalSize.toNat_lt
  rw [bytesToCopy, empty, UInt16.toNat_ofNat']
  change min _ 65535 = _
  omega

theorem range_bytesToCopy {frame : MultiFrame} {cfFrame : ReceivedFrame}
    (pci : 1 ≤ cfFrame.canDlc.toNat) :
    cfFrame.range 1 (1 + frame.bytesToCopy cfFrame.toCanFrame) =
      some ((cfFrame.dataBytes 1).take (frame.totalSize.toNat - frame.udsRxBuffer.length)) := by
  have fits := cfFrame.canDlc_le
  rw [frame.bytesToCopy_eq pci, CanFrame.range, if_pos (by omega), CanFrame.dataBytes,
    List.drop_take, List.drop_take, List.take_take, Nat.add_sub_cancel_left]

/-- A First Frame with its two control bytes leads to the loop with the bytes behind them. -/
theorem start_of_control {firstFrame : ReceivedFrame} (control : 2 ≤ firstFrame.canDlc.toNat) :
    start firstFrame.toCanFrame = loopTest {
      totalSize := announcedSize firstFrame.toCanFrame
      udsRxBuffer := firstFrame.dataBytes 2
      expectedSeqNum := 1 } := by
  rw [start, firstFrame.range_dataBytes control]

/-- The loop state behind a Consecutive Frame which carries `bytes`. -/
def appendData (frame : MultiFrame) (bytes : List UInt8) : MultiFrame where
  totalSize := frame.totalSize
  udsRxBuffer :=
    frame.udsRxBuffer ++ bytes.take (frame.totalSize.toNat - frame.udsRxBuffer.length)
  expectedSeqNum := (frame.expectedSeqNum + 1) % 16

theorem isConsecutive_iff {seqNum : UInt8} {cfFrame : CanFrame} (seqLt : seqNum.toNat < 16) :
    cfFrame.IsConsecutive seqNum.toNat ↔
      ¬(cfFrame.data[0]! &&& 0xF0 ≠ 0x20 ∨ cfFrame.data[0]! &&& 0x0F ≠ seqNum) := by
  rw [not_or, not_not, not_not, ← UInt8.toNat_inj, ← UInt8.toNat_inj, Bytes.toNat_and_highMask,
    Bytes.toNat_and_lowMask, CanFrame.IsConsecutive]
  simp only [UInt8.reduceToNat]
  omega

theorem onRead_of_isConsecutive {frame : MultiFrame} {cfFrame : ReceivedFrame}
    (seqLt : frame.expectedSeqNum.toNat < 16) (pci : 1 ≤ cfFrame.canDlc.toNat)
    (expected : cfFrame.IsConsecutive frame.expectedSeqNum.toNat) :
    frame.onRead (.frame cfFrame) = (frame.appendData (cfFrame.dataBytes 1)).loopTest := by
  rw [onRead, if_neg ((isConsecutive_iff seqLt).mp expected), range_bytesToCopy pci]
  rfl

theorem onRead_of_not_isConsecutive {frame : MultiFrame} {cfFrame : ReceivedFrame}
    (seqLt : frame.expectedSeqNum.toNat < 16)
    (unexpected : ¬cfFrame.IsConsecutive frame.expectedSeqNum.toNat) :
    frame.onRead (.frame cfFrame) = .returned [] := by
  rw [isConsecutive_iff seqLt, not_not] at unexpected
  rw [onRead, if_pos unexpected]

/-- A pass of the loop ends the call, or appends the data of the expected Consecutive Frame. -/
theorem onRead_cases {frame : MultiFrame} {cfFrame : ReceivedFrame}
    (seqLt : frame.expectedSeqNum.toNat < 16) (pci : 1 ≤ cfFrame.canDlc.toNat) :
    frame.onRead (.frame cfFrame) = .returned [] ∨
      (cfFrame.IsConsecutive frame.expectedSeqNum.toNat ∧
        frame.onRead (.frame cfFrame) = (frame.appendData (cfFrame.dataBytes 1)).loopTest) := by
  by_cases expected : cfFrame.IsConsecutive frame.expectedSeqNum.toNat
  · exact Or.inr ⟨expected, onRead_of_isConsecutive seqLt pci expected⟩
  · exact Or.inl (onRead_of_not_isConsecutive seqLt expected)

theorem expectedSeqNum_appendData (frame : MultiFrame) (bytes : List UInt8) :
    (frame.appendData bytes).expectedSeqNum.toNat = (frame.expectedSeqNum.toNat + 1) % 16 := by
  simp only [appendData, UInt8.toNat_mod, UInt8.toNat_add, UInt8.reduceToNat]
  omega

/-! ## The whole loop -/

/-- Whatever the reassembly loop returns completes its buffer to the announced length. -/
theorem completes_of_receive {frame : MultiFrame} {reads rest : List CanRead}
    {response : List UInt8} (seqLt : frame.expectedSeqNum.toNat < 16)
    (unfinished : frame.udsRxBuffer.length < frame.totalSize.toNat)
    (pci : ∀ cfFrame, CanRead.frame cfFrame ∈ reads → 1 ≤ cfFrame.canDlc.toNat)
    (returned : (Reassembly.reading frame).receive reads = .returned response rest)
    (nonempty : response ≠ []) :
    Completes frame.udsRxBuffer frame.expectedSeqNum.toNat frame.totalSize.toNat reads rest
      response := by
  induction reads generalizing frame with
  | nil => simp [Reassembly.receive] at returned
  | cons read reads ih =>
      rw [Reassembly.receive] at returned
      cases read with
      | failed =>
          simp only [onRead, Reassembly.receive_returned, Received.returned.injEq] at returned
          exact absurd returned.1.symm nonempty
      | frame cfFrame =>
          have pciHere := pci cfFrame List.mem_cons_self
          have pciLater : ∀ later, CanRead.frame later ∈ reads → 1 ≤ later.canDlc.toNat := by
            intro later laterMem
            exact pci later (List.mem_cons_of_mem _ laterMem)
          rcases onRead_cases seqLt pciHere with aborted | ⟨consecutive, appended⟩
          · rw [aborted, Reassembly.receive_returned, Received.returned.injEq] at returned
            exact absurd returned.1.symm nonempty
          · have nextSeq := expectedSeqNum_appendData frame (cfFrame.dataBytes 1)
            rw [appended, loopTest] at returned
            split at returned
            next open_ =>
              have copied : (cfFrame.dataBytes 1).take
                  (frame.totalSize.toNat - frame.udsRxBuffer.length) = cfFrame.dataBytes 1 := by
                apply List.take_of_length_le
                simp only [appendData, List.length_append, List.length_take] at open_
                omega
              have tail := ih (by rw [nextSeq]; exact Nat.mod_lt _ (by omega)) open_ pciLater
                returned
              rcases tail.content with ⟨frames, readsEq, numbered, contentEq⟩
              refine ⟨tail.length_eq, cfFrame :: frames, ?_, ⟨consecutive, ?_⟩, ?_⟩
              · rw [readsEq]
                rfl
              · rwa [← nextSeq]
              · rw [contentEq]
                simp [appendData, copied, consecutiveData]
            next closed =>
              rw [Reassembly.receive_returned, Received.returned.injEq] at returned
              rcases returned with ⟨rfl, rfl⟩
              refine ⟨?_, [cfFrame], rfl, ⟨consecutive, trivial⟩, ?_⟩
              · simp only [appendData, List.length_append, List.length_take] at closed ⊢
                omega
              · simp only [appendData, consecutiveData, List.flatMap_cons, List.flatMap_nil,
                  List.append_nil, List.take_append]
                rw [List.take_of_length_le (Nat.le_of_lt unfinished)]

end MultiFrame

/-- The reassembly returns messages of exactly the announced length and content if and only if
the First Frame does not carry more bytes than it announces. -/
theorem isotpHandleMultiFrame_completes_iff {firstFrame : ReceivedFrame} {reads : List CanRead}
    (control : 2 ≤ firstFrame.canDlc.toNat)
    (pci : ∀ cfFrame, CanRead.frame cfFrame ∈ reads → 1 ≤ cfFrame.canDlc.toNat) :
    (∀ response rest,
        isotpHandleMultiFrame firstFrame.toCanFrame reads = .returned response rest →
        response ≠ [] →
        Completes (firstFrame.dataBytes 2) 1 firstFrame.ffDl reads rest response) ↔
      firstFrame.canDlc.toNat - 2 ≤ firstFrame.ffDl := by
  have startEq := MultiFrame.start_of_control control
  have lengthEq := firstFrame.length_dataBytes 2
  have sizeEq := firstFrame.toNat_announcedSize
  have firstSeqLt : (1 : UInt8).toNat < 16 := by decide
  simp only [isotpHandleMultiFrame, startEq, MultiFrame.loopTest, sizeEq]
  constructor
  · intro exact_
    by_contra tooLong
    have closed : ¬(firstFrame.dataBytes 2).length < firstFrame.ffDl := by omega
    rw [if_neg closed] at exact_
    have nonempty : firstFrame.dataBytes 2 ≠ [] := by
      intro empty
      rw [empty, List.length_nil] at lengthEq
      omega
    have completes := exact_ _ _ (Reassembly.receive_returned _ _) nonempty
    have length := completes.length_eq
    omega
  · intro fits response rest returned nonempty
    split at returned
    next unfinished =>
      have completes := MultiFrame.completes_of_receive firstSeqLt (by rwa [sizeEq]) pci returned
        nonempty
      rwa [sizeEq] at completes
    next closed =>
      rw [Reassembly.receive_returned, Received.returned.injEq] at returned
      rcases returned with ⟨rfl, rfl⟩
      refine ⟨by omega, [], rfl, trivial, ?_⟩
      rw [consecutiveData, List.flatMap_nil, List.append_nil, List.take_of_length_le (by omega)]

def announcesEight : ReceivedFrame :=
  .full #v[0x10, 0x08, 0x62, 0xF1, 0x90, 0x41, 0x42, 0x43]

def carriesTwo : ReceivedFrame where
  canId := udsResponseCanId
  canDlc := 3
  data := #v[0x21, 0x44, 0x45, 0, 0, 0, 0, 0]
  canDlc_le := by decide

theorem isotpHandleMultiFrame_announcesEight :
    (∀ response rest,
        isotpHandleMultiFrame announcesEight.toCanFrame [.frame carriesTwo] =
          .returned response rest →
        response ≠ [] →
        Completes (announcesEight.dataBytes 2) 1 announcesEight.ffDl [.frame carriesTwo] rest
          response) ↔
      announcesEight.canDlc.toNat - 2 ≤ announcesEight.ffDl := by
  apply isotpHandleMultiFrame_completes_iff
  · decide
  · intro cfFrame cfMem
    rw [List.mem_singleton, CanRead.frame.injEq] at cfMem
    rw [cfMem]
    decide

/-- A First Frame which announces three bytes and carries six. -/
def announcesThree : ReceivedFrame :=
  .full #v[0x10, 0x03, 0x7F, 0x22, 0x31, 0xAA, 0xBB, 0xCC]

theorem not_completes_announcesThree :
    announcesThree.pciType = 1 ∧ announcesThree.ffDl = 3 ∧
      isotpHandleMultiFrame announcesThree.toCanFrame [] =
        .returned [0x7F, 0x22, 0x31, 0xAA, 0xBB, 0xCC] [] ∧
      ¬Completes (announcesThree.dataBytes 2) 1 announcesThree.ffDl [] []
        [0x7F, 0x22, 0x31, 0xAA, 0xBB, 0xCC] := by
  refine ⟨by decide, by decide, by decide, ?_⟩
  intro completes
  have lengthEq := completes.length_eq
  revert lengthEq
  decide

end Synapse
