import Synapse.Library.Transducer
import Synapse.IsoTp.AnnouncedLength

/-!
# The reassembly against any peer

The reassembly loop is driven by the frames of the controller. A frame which it does not
expect ends it, and an expected one is taken off what is missing by the bytes
copied from it. This file shows for which controllers the loop comes to its end that way:
an expected frame need not carry a byte, and then nothing is taken off.
-/

namespace Synapse

open Transducer

/-- The reassembly loop over the results of its reads; it emits nothing. -/
def reassemblyLoop : Transducer Reassembly CanRead Empty where
  step
    | .reading frame, read => (frame.onRead read, [])
    | .returned response, _ => (.returned response, [])
    | .outOfBounds, _ => (.outOfBounds, [])

theorem reassemblyLoop_returned (response : List UInt8) (reads : List CanRead) :
    reassemblyLoop.stateAfter (.returned response) reads = .returned response := by
  apply (Transducer.run_of_absorbing _ _).1
  intro read _
  rfl

theorem reassemblyLoop_outOfBounds (reads : List CanRead) :
    reassemblyLoop.stateAfter .outOfBounds reads = .outOfBounds := by
  apply (Transducer.run_of_absorbing _ _).1
  intro read _
  rfl

theorem receive_returned_iff (state : Reassembly) (reads : List CanRead)
    (response : List UInt8) :
    (∃ rest, state.receive reads = .returned response rest) ↔
      reassemblyLoop.stateAfter state reads = .returned response := by
  induction reads generalizing state with
  | nil => cases state <;> simp [Reassembly.receive]
  | cons read reads ih =>
      cases state with
      | reading frame => exact ih (frame.onRead read)
      | returned other => simp [reassemblyLoop_returned]
      | outOfBounds => simp [reassemblyLoop_outOfBounds]

theorem receive_blocked_iff (state : Reassembly) (reads : List CanRead) :
    state.receive reads = .blocked ↔
      ∃ frame, reassemblyLoop.stateAfter state reads = .reading frame := by
  induction reads generalizing state with
  | nil => cases state <;> simp [Reassembly.receive]
  | cons read reads ih =>
      cases state with
      | reading frame => exact ih (frame.onRead read)
      | returned other => simp [reassemblyLoop_returned]
      | outOfBounds => simp [reassemblyLoop_outOfBounds]

/-- A pass of the loop accepts the frame and gets longer, or ends the call. -/
def MultiFrame.Advances (frame : MultiFrame) (cfFrame : ReceivedFrame) : Prop :=
  if cfFrame.IsConsecutive frame.expectedSeqNum.toNat then
    ∃ next : MultiFrame, frame.udsRxBuffer.length < next.udsRxBuffer.length ∧
      frame.onRead (.frame cfFrame) = next.loopTest
  else frame.onRead (.frame cfFrame) = .returned []

namespace MultiFrame

variable {frame next : MultiFrame} {cfFrame : ReceivedFrame}

theorem eq_of_loopTest_reading (reads : next.loopTest = .reading frame) : next = frame := by
  rw [loopTest] at reads
  split at reads
  next => exact Reassembly.reading.inj reads
  next => simp at reads

/-- A data length of zero wraps around, and the copy takes whatever is missing. -/
theorem onRead_of_wrapped (seqLt : frame.expectedSeqNum.toNat < 16)
    (expected : cfFrame.IsConsecutive frame.expectedSeqNum.toNat) (empty : cfFrame.canDlc = 0) :
    (frame.totalSize.toNat - frame.udsRxBuffer.length ≤ 7 →
      ∃ next : MultiFrame, frame.onRead (.frame cfFrame) = next.loopTest ∧
        next.totalSize = frame.totalSize ∧ next.udsRxBuffer.length =
          frame.udsRxBuffer.length + (frame.totalSize.toNat - frame.udsRxBuffer.length)) ∧
    (7 < frame.totalSize.toNat - frame.udsRxBuffer.length →
      frame.onRead (.frame cfFrame) = .outOfBounds) := by
  rw [onRead, if_neg ((isConsecutive_iff seqLt).mp expected), bytesToCopy_of_empty _ empty,
    CanFrame.range]
  constructor
  · intro fits
    rw [if_pos (by omega)]
    refine ⟨_, rfl, rfl, ?_⟩
    simp only [List.length_append, List.length_drop, List.length_take, Vector.length_toList]
    omega
  · intro long
    rw [if_neg (by omega)]

/-- An expected frame with one byte leaves the buffer as it is. -/
theorem advances_iff (seqLt : frame.expectedSeqNum.toNat < 16)
    (unfinished : frame.udsRxBuffer.length < frame.totalSize.toNat) :
    frame.Advances cfFrame ↔
      (cfFrame.IsConsecutive frame.expectedSeqNum.toNat →
        2 ≤ cfFrame.canDlc.toNat ∨
          (cfFrame.canDlc = 0 ∧ frame.totalSize.toNat - frame.udsRxBuffer.length ≤ 7)) := by
  rw [Advances]
  split
  next expected =>
    rw [forall_prop_of_true expected]
    by_cases empty : cfFrame.canDlc = 0
    · rcases onRead_of_wrapped seqLt expected empty with ⟨fits, leaves⟩
      have dlcEq : cfFrame.canDlc.toNat = 0 := by rw [empty]; rfl
      constructor
      · rintro ⟨next, longer, onReadEq⟩
        right
        refine ⟨empty, ?_⟩
        by_contra long
        rw [leaves (by omega), loopTest] at onReadEq
        split at onReadEq <;> simp at onReadEq
      · intro admissible
        have short : frame.totalSize.toNat - frame.udsRxBuffer.length ≤ 7 := by omega
        rcases fits short with ⟨next, onReadEq, _, lengthEq⟩
        exact ⟨next, by omega, onReadEq⟩
    · have pci : 1 ≤ cfFrame.canDlc.toNat := by
        rw [← UInt8.toNat_inj] at empty
        exact Nat.pos_of_ne_zero empty
      have length := cfFrame.length_dataBytes 1
      rw [onRead_of_isConsecutive seqLt pci expected]
      constructor
      · rintro ⟨next, longer, onReadEq⟩
        left
        by_contra short
        have noData : cfFrame.dataBytes 1 = [] := by
          rw [← List.length_eq_zero_iff]
          omega
        have same : (frame.appendData (cfFrame.dataBytes 1)).udsRxBuffer = frame.udsRxBuffer := by
          rw [appendData, noData, List.take_nil, List.append_nil]
        have reads : (frame.appendData (cfFrame.dataBytes 1)).loopTest =
            .reading (frame.appendData (cfFrame.dataBytes 1)) := by
          apply if_pos
          rw [same]
          exact unfinished
        rw [reads] at onReadEq
        rw [eq_of_loopTest_reading onReadEq.symm, same] at longer
        exact Nat.lt_irrefl _ longer
      · intro admissible
        have carries : 2 ≤ cfFrame.canDlc.toNat := by
          rcases admissible with carries | ⟨zero, _⟩
          · exact carries
          · exact absurd zero empty
        refine ⟨_, ?_, rfl⟩
        simp only [appendData, List.length_append, List.length_take]
        omega
  next unexpected =>
    exact iff_of_true (onRead_of_not_isConsecutive seqLt unexpected)
      fun expected => absurd expected unexpected

end MultiFrame

section Receiving

variable {firstFrame : ReceivedFrame} {peer : ℕ → ReceivedFrame}

def firstReads (peer : ℕ → ReceivedFrame) (count : ℕ) : List CanRead :=
  (firstInputs peer count).map (CanRead.frame ·)

def reassemblyAfter (firstFrame : ReceivedFrame) (peer : ℕ → ReceivedFrame) (count : ℕ) :
    Reassembly :=
  reassemblyLoop.stateAfter (MultiFrame.start firstFrame.toCanFrame) (firstReads peer count)

/-- The reassembly returns within as many frames as bytes are announced, and every frame which
it accepts on the way adds to the buffer. -/
structure ReassemblyEnds (firstFrame : ReceivedFrame) (peer : ℕ → ReceivedFrame) : Prop where
  returns : ∃ response rest,
    isotpHandleMultiFrame firstFrame.toCanFrame (firstReads peer firstFrame.ffDl) =
      .returned response rest
  advances : ∀ count frame, reassemblyAfter firstFrame peer count = .reading frame →
    frame.Advances (peer count)

def missingBytes (firstFrame : ReceivedFrame) (frames : List ReceivedFrame) : ℕ :=
  firstFrame.ffDl - (firstFrame.dataBytes 2 ++ consecutiveData frames).length

/-- The First Frame is complete, and each frame which continues the message brings a part of
what is missing. A frame with a data length of zero counts as one with all seven bytes. -/
structure BringsData (firstFrame : ReceivedFrame) (peer : ℕ → ReceivedFrame) : Prop where
  control : 2 ≤ firstFrame.canDlc.toNat
  data : ∀ count, Numbered 1 (firstInputs peer (count + 1)) →
    (∀ cfFrame ∈ firstInputs peer count, 2 ≤ cfFrame.canDlc.toNat) →
    0 < missingBytes firstFrame (firstInputs peer count) →
    2 ≤ (peer count).canDlc.toNat ∨
      ((peer count).canDlc = 0 ∧ missingBytes firstFrame (firstInputs peer count) ≤ 7)

theorem firstReads_succ (peer : ℕ → ReceivedFrame) (count : ℕ) :
    firstReads peer (count + 1) = firstReads peer count ++ [.frame (peer count)] := by
  rw [firstReads, firstInputs_succ, List.map_append]
  rfl

theorem reassemblyAfter_succ (firstFrame : ReceivedFrame) (peer : ℕ → ReceivedFrame)
    (count : ℕ) :
    reassemblyAfter firstFrame peer (count + 1) =
      (reassemblyLoop.step (reassemblyAfter firstFrame peer count) (.frame (peer count))).1 := by
  rw [reassemblyAfter, firstReads_succ, Transducer.stateAfter_concat]
  rfl

/-! ## The loop state behind numbered frames -/

/-- The loop state behind a First Frame and numbered Consecutive Frames. -/
def afterFrames (firstFrame : ReceivedFrame) (frames : List ReceivedFrame) : MultiFrame where
  totalSize := MultiFrame.announcedSize firstFrame.toCanFrame
  udsRxBuffer := firstFrame.dataBytes 2 ++ consecutiveData frames
  expectedSeqNum := UInt8.ofNat ((1 + frames.length) % 16)

theorem toNat_expectedSeqNum_afterFrames (firstFrame : ReceivedFrame)
    (frames : List ReceivedFrame) :
    (afterFrames firstFrame frames).expectedSeqNum.toNat = (1 + frames.length) % 16 := by
  rw [afterFrames, UInt8.toNat_ofNat']
  omega

theorem missing_afterFrames (firstFrame : ReceivedFrame) (frames : List ReceivedFrame) :
    (afterFrames firstFrame frames).totalSize.toNat -
        (afterFrames firstFrame frames).udsRxBuffer.length =
      missingBytes firstFrame frames := by
  change (MultiFrame.announcedSize firstFrame.toCanFrame).toNat - _ = _
  rw [CanFrame.toNat_announcedSize]
  rfl

theorem loopTest_afterFrames {frames : List ReceivedFrame}
    (open_ : 0 < missingBytes firstFrame frames) :
    (afterFrames firstFrame frames).loopTest = .reading (afterFrames firstFrame frames) := by
  have missing := missing_afterFrames firstFrame frames
  exact if_pos (by omega)

theorem missingBytes_concat (firstFrame : ReceivedFrame) (frames : List ReceivedFrame)
    (cfFrame : ReceivedFrame) :
    missingBytes firstFrame (frames ++ [cfFrame]) =
      missingBytes firstFrame frames - (cfFrame.canDlc.toNat - 1) := by
  simp only [missingBytes, consecutiveData_concat, List.length_append, cfFrame.length_dataBytes]
  omega

/-- A numbered frame is appended, and ends the loop with the last of what is missing. -/
theorem onRead_afterFrames {frames : List ReceivedFrame} {cfFrame : ReceivedFrame}
    (pci : 1 ≤ cfFrame.canDlc.toNat)
    (expected : cfFrame.IsConsecutive ((1 + frames.length) % 16)) :
    (0 < missingBytes firstFrame (frames ++ [cfFrame]) →
      (afterFrames firstFrame frames).onRead (.frame cfFrame) =
        .reading (afterFrames firstFrame (frames ++ [cfFrame]))) ∧
    (missingBytes firstFrame (frames ++ [cfFrame]) = 0 →
      ∃ response, (afterFrames firstFrame frames).onRead (.frame cfFrame) =
        .returned response) := by
  have seqEq := toNat_expectedSeqNum_afterFrames firstFrame frames
  have missing := missing_afterFrames firstFrame frames
  have lowered := missingBytes_concat firstFrame frames cfFrame
  have length := cfFrame.length_dataBytes 1
  rw [MultiFrame.onRead_of_isConsecutive (by omega) pci (by rwa [seqEq])]
  constructor
  · intro open_
    have appended : (afterFrames firstFrame frames).appendData (cfFrame.dataBytes 1) =
        afterFrames firstFrame (frames ++ [cfFrame]) := by
      rw [MultiFrame.appendData, missing, List.take_of_length_le (by omega)]
      simp only [afterFrames, MultiFrame.mk.injEq, true_and]
      constructor
      · rw [consecutiveData_concat, List.append_assoc]
      · rw [← UInt8.toNat_inj]
        simp only [List.length_append, List.length_singleton, UInt8.toNat_mod, UInt8.toNat_add,
          UInt8.toNat_ofNat', UInt8.reduceToNat]
        omega
    rw [appended]
    exact loopTest_afterFrames open_
  · intro closed
    refine ⟨_, if_neg ?_⟩
    simp only [MultiFrame.appendData, List.length_append, List.length_take]
    omega

/-- While bytes are missing, numbered frames leave the loop where their data puts it. -/
theorem reassemblyAfter_numbered (control : 2 ≤ firstFrame.canDlc.toNat) {count : ℕ}
    (numbered : Numbered 1 (firstInputs peer count))
    (pci : ∀ cfFrame ∈ firstInputs peer count, 1 ≤ cfFrame.canDlc.toNat)
    (open_ : 0 < missingBytes firstFrame (firstInputs peer count)) :
    reassemblyAfter firstFrame peer count =
      .reading (afterFrames firstFrame (firstInputs peer count)) := by
  induction count with
  | zero =>
      change MultiFrame.start firstFrame.toCanFrame = _
      rw [← loopTest_afterFrames open_, MultiFrame.start_of_control control]
      simp [afterFrames, firstInputs, consecutiveData]
  | succ count ih =>
      rw [firstInputs_succ] at numbered pci open_ ⊢
      rcases (numbered_concat (by decide)).mp numbered with ⟨numberedBefore, expected⟩
      have pciBefore : ∀ cfFrame ∈ firstInputs peer count, 1 ≤ cfFrame.canDlc.toNat := by
        intro cfFrame cfMem
        exact pci cfFrame (List.mem_append_left _ cfMem)
      have pciHere : 1 ≤ (peer count).canDlc.toNat :=
        pci _ (List.mem_append_right _ (List.mem_singleton_self _))
      have openBefore : 0 < missingBytes firstFrame (firstInputs peer count) := by
        rw [missingBytes_concat] at open_
        omega
      rw [reassemblyAfter_succ, ih numberedBefore pciBefore openBefore]
      exact (onRead_afterFrames pciHere expected).1 open_

theorem reassemblyAfter_of_carries (control : 2 ≤ firstFrame.canDlc.toNat) {count : ℕ}
    (numbered : Numbered 1 (firstInputs peer count))
    (carries : ∀ cfFrame ∈ firstInputs peer count, 2 ≤ cfFrame.canDlc.toNat)
    (open_ : 0 < missingBytes firstFrame (firstInputs peer count)) :
    reassemblyAfter firstFrame peer count =
      .reading (afterFrames firstFrame (firstInputs peer count)) := by
  apply reassemblyAfter_numbered control numbered _ open_
  intro cfFrame cfMem
  exact Nat.le_of_succ_le (carries cfFrame cfMem)

theorem length_consecutiveData_ge {frames : List ReceivedFrame}
    (carries : ∀ cfFrame ∈ frames, 2 ≤ cfFrame.canDlc.toNat) :
    frames.length ≤ (consecutiveData frames).length := by
  induction frames with
  | nil => exact Nat.le_refl _
  | cons cfFrame frames ih =>
      rcases List.forall_mem_cons.mp carries with ⟨carriesHere, carriesLater⟩
      have here := cfFrame.length_dataBytes 1
      have later := ih carriesLater
      rw [consecutiveData] at later ⊢
      rw [List.flatMap_cons, List.length_append, List.length_cons]
      omega

theorem unfinished_afterFrames {frames : List ReceivedFrame}
    (open_ : 0 < missingBytes firstFrame frames) :
    (afterFrames firstFrame frames).udsRxBuffer.length <
      (afterFrames firstFrame frames).totalSize.toNat := by
  have missing := missing_afterFrames firstFrame frames
  omega

theorem seqNumLt_afterFrames (firstFrame : ReceivedFrame) (frames : List ReceivedFrame) :
    (afterFrames firstFrame frames).expectedSeqNum.toNat < 16 := by
  rw [toNat_expectedSeqNum_afterFrames]
  exact Nat.mod_lt _ (by omega)

namespace BringsData

theorem numbered_succ_iff (peer : ℕ → ReceivedFrame) (count : ℕ) :
    Numbered 1 (firstInputs peer (count + 1)) ↔
      Numbered 1 (firstInputs peer count) ∧
        (peer count).IsConsecutive
          (afterFrames firstFrame (firstInputs peer count)).expectedSeqNum.toNat := by
  rw [firstInputs_succ, numbered_concat (by decide), toNat_expectedSeqNum_afterFrames]

/-- Every frame ends the loop or continues the message. -/
theorem returned_or_numbered (brings : BringsData firstFrame peer) (count : ℕ) :
    (∃ response, reassemblyAfter firstFrame peer count = .returned response) ∨
      (Numbered 1 (firstInputs peer count) ∧
        (∀ cfFrame ∈ firstInputs peer count, 2 ≤ cfFrame.canDlc.toNat) ∧
        0 < missingBytes firstFrame (firstInputs peer count)) := by
  induction count with
  | zero =>
      by_cases open_ : 0 < missingBytes firstFrame []
      · exact Or.inr ⟨trivial, by simp [firstInputs], open_⟩
      · left
        change ∃ response, MultiFrame.start firstFrame.toCanFrame = _
        rw [MultiFrame.start_of_control brings.control]
        refine ⟨_, if_neg ?_⟩
        change ¬(firstFrame.dataBytes 2).length <
          (MultiFrame.announcedSize firstFrame.toCanFrame).toNat
        rw [CanFrame.toNat_announcedSize]
        simp only [missingBytes, consecutiveData, List.flatMap_nil, List.append_nil] at open_
        omega
  | succ count ih =>
      rw [reassemblyAfter_succ]
      rcases ih with ⟨response, returned⟩ | ⟨numbered, carries, open_⟩
      · rw [returned]
        exact Or.inl ⟨response, rfl⟩
      · have seqLt := seqNumLt_afterFrames firstFrame (firstInputs peer count)
        rw [reassemblyAfter_of_carries brings.control numbered carries open_]
        change (∃ response, (afterFrames _ _).onRead (.frame (peer count)) = _) ∨ _
        by_cases expected : (peer count).IsConsecutive
            (afterFrames firstFrame (firstInputs peer count)).expectedSeqNum.toNat
        · have numberedNext := (numbered_succ_iff peer count).mpr ⟨numbered, expected⟩
          rcases brings.data count numberedNext carries open_ with carriesNext | ⟨empty, short⟩
          · rw [toNat_expectedSeqNum_afterFrames] at expected
            rcases onRead_afterFrames (by omega) expected with ⟨_, ends⟩
            rw [← firstInputs_succ] at ends
            by_cases openNext : 0 < missingBytes firstFrame (firstInputs peer (count + 1))
            · refine Or.inr ⟨numberedNext, ?_, openNext⟩
              rw [firstInputs_succ]
              intro cfFrame cfMem
              rcases List.mem_append.mp cfMem with before | here
              · exact carries cfFrame before
              · rw [List.mem_singleton.mp here]
                exact carriesNext
            · exact Or.inl (ends (by omega))
          · left
            rw [← missing_afterFrames] at short open_
            rcases (MultiFrame.onRead_of_wrapped seqLt expected empty).1 short with
              ⟨next, onReadEq, sizeEq, lengthEq⟩
            rw [onReadEq]
            refine ⟨_, if_neg ?_⟩
            rw [sizeEq, lengthEq]
            omega
        · exact Or.inl ⟨[], MultiFrame.onRead_of_not_isConsecutive seqLt expected⟩

end BringsData

/-- The reassembly ends by itself if and only if every frame brings data. -/
theorem reassemblyEnds_iff : ReassemblyEnds firstFrame peer ↔ BringsData firstFrame peer := by
  constructor
  · intro ends
    have control : 2 ≤ firstFrame.canDlc.toNat := by
      by_contra short
      rcases ends.returns with ⟨response, rest, returned⟩
      have undefined : MultiFrame.start firstFrame.toCanFrame = .outOfBounds := by
        rw [MultiFrame.start, CanFrame.range, if_neg (by omega)]
      rw [isotpHandleMultiFrame, undefined, Reassembly.receive_outOfBounds] at returned
      simp at returned
    refine ⟨control, ?_⟩
    intro count numberedNext carries open_
    rcases (BringsData.numbered_succ_iff peer count).mp numberedNext with ⟨numbered, expected⟩
    have advances := ends.advances count _
      (reassemblyAfter_of_carries control numbered carries open_)
    rw [MultiFrame.advances_iff (seqNumLt_afterFrames _ _) (unfinished_afterFrames open_),
      missing_afterFrames] at advances
    exact advances expected
  · intro brings
    constructor
    · rw [isotpHandleMultiFrame]
      rcases brings.returned_or_numbered firstFrame.ffDl with
        ⟨response, returned⟩ | ⟨_, carries, open_⟩
      · exact ⟨response, (receive_returned_iff _ _ _).mpr returned⟩
      · have enough := length_consecutiveData_ge carries
        rw [length_firstInputs] at enough
        rw [missingBytes, List.length_append] at open_
        omega
    · intro count frame reading
      rcases brings.returned_or_numbered count with
        ⟨response, returned⟩ | ⟨numbered, carries, open_⟩
      · rw [returned] at reading
        simp at reading
      · rw [reassemblyAfter_of_carries brings.control numbered carries open_,
          Reassembly.reading.injEq] at reading
        rw [← reading,
          MultiFrame.advances_iff (seqNumLt_afterFrames _ _) (unfinished_afterFrames open_),
          missing_afterFrames]
        intro expected
        exact brings.data count
          ((BringsData.numbered_succ_iff peer count).mpr ⟨numbered, expected⟩) carries open_

/-- The frames of a controller which counts on and never sends a data byte. -/
def datalessFrame (index : ℕ) : ReceivedFrame :=
  .oneByte #v[UInt8.ofNat (0x20 + (index + 1) % 16), 0, 0, 0, 0, 0, 0, 0]

theorem numbered_datalessFrame (count : ℕ) : Numbered 1 (firstInputs datalessFrame count) := by
  induction count with
  | zero => trivial
  | succ count ih =>
      rw [firstInputs_succ]
      refine (numbered_concat (by decide)).mpr ⟨ih, ?_⟩
      rw [length_firstInputs, CanFrame.IsConsecutive]
      change (UInt8.ofNat (0x20 + (count + 1) % 16)).toNat = _
      rw [UInt8.toNat_ofNat']
      omega

theorem consecutiveData_datalessFrame (count : ℕ) :
    consecutiveData (firstInputs datalessFrame count) = [] := by
  induction count with
  | zero => rfl
  | succ count ih =>
      rw [firstInputs_succ, consecutiveData_concat, ih]
      rfl

/-- The reassembly never returns, however many of the frames it reads. -/
theorem not_reassemblyEnds_datalessFrame :
    announcesEight.pciType = 1 ∧
      (∀ count, isotpHandleMultiFrame announcesEight.toCanFrame
        (firstReads datalessFrame count) = .blocked) ∧
      ¬ReassemblyEnds announcesEight datalessFrame := by
  have blocked : ∀ count, isotpHandleMultiFrame announcesEight.toCanFrame
      (firstReads datalessFrame count) = .blocked := by
    intro count
    apply (receive_blocked_iff _ _).mpr
    refine ⟨_, reassemblyAfter_numbered (by decide) (numbered_datalessFrame count) ?_ ?_⟩
    · intro cfFrame cfMem
      rcases List.mem_map.mp cfMem with ⟨index, _, rfl⟩
      exact Nat.le_refl 1
    · rw [missingBytes, consecutiveData_datalessFrame]
      decide
  refine ⟨by decide, blocked, ?_⟩
  intro ends
  rcases ends.returns with ⟨response, rest, returned⟩
  rw [blocked] at returned
  simp at returned

end Receiving

end Synapse
