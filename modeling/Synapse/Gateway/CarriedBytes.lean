import Mathlib.Data.List.Forall2
import Synapse.Gateway.Bounds
import Synapse.Gateway.Delivery

/-!
# Bytes which a frame does not carry

The data array of a received frame has eight bytes, of which `canDlc` were on
the bus. This file compares runs of the forwarder on frames which differ in the other
bytes only, and determines for which streams of frames all these runs have the same
effects.
-/

namespace Synapse

open LockedStream

/-- The frames are the same on the bus. -/
structure SameOnBus (first second : ReceivedFrame) : Prop where
  canId : first.canId = second.canId
  canDlc : first.canDlc = second.canDlc
  carried : first.dataBytes 0 = second.dataBytes 0

def SameRead : CanRead → CanRead → Prop
  | .failed, .failed => True
  | .frame first, .frame second => SameOnBus first second
  | _, _ => False

structure SameInput (first second : ForwarderInput) : Prop where
  read : SameRead first.read second.read
  sessionActive : first.sessionActive = second.sessionActive
  clientWriteOk : first.clientWriteOk = second.clientWriteOk

/-- The same messages to the tester, pushes and answers to First Frames. -/
structure SameEffects (first second : List GatewayAction) : Prop where
  messages : writes first = writes second
  pushes : pushedFlowControls first = pushedFlowControls second
  answers : flowControlsSent first = flowControlsSent second

/-- Whatever the surroundings do, frames which are the same on the bus have the same effects,
and the run stays defined. -/
def DependsOnCarried (pc : ForwarderPc) (reads : List CanRead) : Prop :=
  ∀ first second, first.map ForwarderInput.read = reads → List.Forall₂ SameInput first second →
    canToDoipForwarder.stateAfter pc first ≠ .outOfBounds ∧
    canToDoipForwarder.stateAfter pc second ≠ .outOfBounds ∧
    SameEffects (canToDoipForwarder.output pc first) (canToDoipForwarder.output pc second)

/-- The length field of a Single Frame. -/
def CanFrame.sfDl (frame : CanFrame) : ℕ :=
  frame.data[0]!.toNat % 16

/-- The bytes which the forwarder reads of a frame are on the bus. -/
def CarriesWhatIsRead : ForwarderPc → CanRead → Prop
  | .dispatch, .frame rxFrame =>
      1 ≤ rxFrame.canDlc.toNat ∧
        (rxFrame.pciType = 0 → rxFrame.sfDl ≤ 7 → 1 + rxFrame.sfDl ≤ rxFrame.canDlc.toNat) ∧
        (rxFrame.pciType = 1 → 2 ≤ rxFrame.canDlc.toNat)
  | .reassembling _, .frame cfFrame => 1 ≤ cfFrame.canDlc.toNat
  | _, _ => True

/-! ## The relations -/

namespace SameOnBus

theorem refl (frame : ReceivedFrame) : SameOnBus frame frame :=
  ⟨rfl, rfl, rfl⟩

variable {first second : ReceivedFrame}

theorem data_eq (same : SameOnBus first second) {index : ℕ}
    (inside : index < first.canDlc.toNat) : first.data[index]! = second.data[index]! := by
  have fits := first.canDlc_le
  have fitsSecond := second.canDlc_le
  have insideSecond : index < second.canDlc.toNat := by rwa [← same.canDlc]
  have bytes := congrArg (fun carried => carried[index]?) same.carried
  simp only [CanFrame.dataBytes, List.drop_zero, List.getElem?_take, inside, insideSecond,
    if_true] at bytes
  simpa [show index < 8 by omega] using bytes

theorem range_eq (same : SameOnBus first second) {start last : ℕ}
    (inside : last ≤ first.canDlc.toNat) : first.range start last = second.range start last := by
  have insideSecond : last ≤ second.canDlc.toNat := by rwa [← same.canDlc]
  have bytes := congrArg (List.take last) same.carried
  simp only [CanFrame.dataBytes, List.drop_zero, List.take_take, Nat.min_eq_left inside,
    Nat.min_eq_left insideSecond] at bytes
  rw [CanFrame.range, CanFrame.range, bytes]

theorem pciType_eq (same : SameOnBus first second) (inside : 1 ≤ first.canDlc.toNat) :
    first.pciType = second.pciType := by
  rw [CanFrame.pciType, CanFrame.pciType, same.data_eq inside]

end SameOnBus

theorem SameRead.refl (read : CanRead) : SameRead read read := by
  cases read with
  | failed => trivial
  | frame frame => exact SameOnBus.refl frame

theorem SameInput.refl (input : ForwarderInput) : SameInput input input :=
  ⟨SameRead.refl input.read, rfl, rfl⟩

namespace SameEffects

variable {first second third common : List GatewayAction}

theorem refl (actions : List GatewayAction) : SameEffects actions actions :=
  ⟨rfl, rfl, rfl⟩

theorem symm (same : SameEffects first second) : SameEffects second first :=
  ⟨same.messages.symm, same.pushes.symm, same.answers.symm⟩

theorem trans (same : SameEffects first second) (later : SameEffects second third) :
    SameEffects first third :=
  ⟨same.messages.trans later.messages, same.pushes.trans later.pushes,
    same.answers.trans later.answers⟩

theorem append_left (same : SameEffects first second) :
    SameEffects (common ++ first) (common ++ second) := by
  refine ⟨?_, ?_, ?_⟩
  · rw [writes_append, writes_append, same.messages]
  · rw [pushedFlowControls_append, pushedFlowControls_append, same.pushes]
  · rw [flowControlsSent_append, flowControlsSent_append, same.answers]

theorem of_append_left (same : SameEffects (common ++ first) (common ++ second)) :
    SameEffects first second := by
  refine ⟨?_, ?_, ?_⟩
  · simpa only [writes_append, List.append_cancel_left_eq] using same.messages
  · simpa only [pushedFlowControls_append, List.append_cancel_left_eq] using same.pushes
  · simpa only [flowControlsSent_append, List.append_cancel_left_eq] using same.answers

theorem of_append_right (same : SameEffects (first ++ common) (second ++ common)) :
    SameEffects first second := by
  refine ⟨?_, ?_, ?_⟩
  · simpa only [writes_append, List.append_cancel_right_eq] using same.messages
  · simpa only [pushedFlowControls_append, List.append_cancel_right_eq] using same.pushes
  · simpa only [flowControlsSent_append, List.append_cancel_right_eq] using same.answers

end SameEffects

/-! ## Frames which carry what is read -/

section Carried

variable {first second : ReceivedFrame}

theorem isotpHandleSingleFrame_of_same (same : SameOnBus first second)
    (pci : 1 ≤ first.canDlc.toNat)
    (carries : first.sfDl ≤ 7 → 1 + first.sfDl ≤ first.canDlc.toNat) :
    ∃ response, isotpHandleSingleFrame first.toCanFrame = some response ∧
      isotpHandleSingleFrame second.toCanFrame = some response := by
  have fits := first.canDlc_le
  have lenEq : (first.data[0]! &&& 0x0F).toNat = first.sfDl := Bytes.toNat_and_lowMask _
  simp only [isotpHandleSingleFrame, ← same.data_eq pci]
  split
  next => exact ⟨[], rfl, rfl⟩
  next admissible =>
    rw [singleFrameLength_admissible_iff, lenEq] at admissible
    have inside := carries admissible.2
    rw [lenEq, ← same.range_eq inside, CanFrame.range, if_pos (by omega)]
    exact ⟨_, rfl, rfl⟩

theorem start_of_same (same : SameOnBus first second) (control : 2 ≤ first.canDlc.toNat) :
    MultiFrame.start first.toCanFrame = MultiFrame.start second.toCanFrame := by
  have sizeEq : MultiFrame.announcedSize first.toCanFrame =
      MultiFrame.announcedSize second.toCanFrame := by
    rw [MultiFrame.announcedSize, MultiFrame.announcedSize, same.data_eq (by omega),
      same.data_eq control]
  rw [MultiFrame.start, MultiFrame.start, sizeEq, ← same.canDlc, same.range_eq (Nat.le_refl _)]

theorem onRead_of_same (frame : MultiFrame) (same : SameOnBus first second)
    (pci : 1 ≤ first.canDlc.toNat) :
    frame.onRead (.frame first) = frame.onRead (.frame second) := by
  have copied := frame.bytesToCopy_eq pci
  have copiedSecond : frame.bytesToCopy second.toCanFrame = frame.bytesToCopy first.toCanFrame := by
    rw [MultiFrame.bytesToCopy, MultiFrame.bytesToCopy, same.canDlc]
  rw [MultiFrame.onRead, MultiFrame.onRead, ← same.data_eq pci, copiedSecond,
    same.range_eq (by omega)]

theorem dispatchFrame_of_same {input other : ForwarderInput}
    (sessionActive : input.sessionActive = other.sessionActive)
    (clientWriteOk : input.clientWriteOk = other.clientWriteOk) (same : SameOnBus first second)
    (carries : CarriesWhatIsRead .dispatch (.frame first)) :
    dispatchFrame input first = dispatchFrame other second := by
  rcases carries with ⟨pci, single, multi⟩
  have forwarded : forwardResponse input = forwardResponse other := by
    funext response
    rw [forwardResponse, forwardResponse, sessionActive, clientWriteOk]
  have continued : continueReassembly input = continueReassembly other := by
    funext reassembly
    cases reassembly with
    | reading frame => rfl
    | returned response => exact congrFun forwarded response
    | outOfBounds => rfl
  rw [dispatchFrame, dispatchFrame, ← same.pciType_eq pci, ← same.canDlc,
    same.range_eq (Nat.le_refl _), sessionActive]
  split
  next => rfl
  next =>
    split
    next isSingle =>
      rcases isotpHandleSingleFrame_of_same same pci (single isSingle) with
        ⟨response, handled, handledSecond⟩
      rw [handled, handledSecond]
      exact congrFun forwarded response
    next =>
      split
      next isMulti => rw [start_of_same same (multi isMulti), continued]
      next => rfl

end Carried

/-- One step on frames which are the same on the bus: the same state and the same actions. -/
theorem forwarderStep_of_same {pc : ForwarderPc} {input other : ForwarderInput}
    (same : SameInput input other) (carries : CarriesWhatIsRead pc input.read) :
    forwarderStep pc input = forwarderStep pc other := by
  rcases input with ⟨read, sessionActive, clientWriteOk⟩
  rcases other with ⟨readSecond, _, _⟩
  rcases same with ⟨sameRead, rfl, rfl⟩
  cases read with
  | failed =>
      cases readSecond with
      | failed => rfl
      | frame second => exact sameRead.elim
  | frame first =>
      cases readSecond with
      | failed => exact sameRead.elim
      | frame second =>
          cases pc with
          | dispatch => exact dispatchFrame_of_same rfl rfl sameRead carries
          | reassembling frame =>
              rw [forwarderStep, forwarderStep, onRead_of_same frame sameRead carries]
              cases frame.onRead (.frame second) <;> rfl
          | stopped => rfl
          | outOfBounds => rfl

theorem hasControlBytes_of_carries {pc : ForwarderPc} {read : CanRead}
    (carries : CarriesWhatIsRead pc read) : HasControlBytes pc read := by
  cases pc with
  | dispatch =>
      cases read with
      | failed => trivial
      | frame rxFrame => exact carries.2.2
  | reassembling frame =>
      cases read with
      | failed => trivial
      | frame cfFrame => exact fun _ => carries
  | stopped => trivial
  | outOfBounds => trivial

theorem forwarderStep_defined {pc : ForwarderPc} {input : ForwarderInput}
    (defined : pc ≠ .outOfBounds) (bounded : pc.Bounded)
    (carries : CarriesWhatIsRead pc input.read) :
    (forwarderStep pc input).1 ≠ .outOfBounds := by
  intro reached
  have safe := (forwarderAccesses_safe_iff bounded input.read).mpr
    (hasControlBytes_of_carries carries)
  rcases (forwarderStep_outOfBounds_iff defined input).mp reached with
    ⟨first, last, copyMem, unsafe_⟩
  exact unsafe_ (safe _ copyMem)

/-! ## The surroundings only stop the forwarder -/

theorem forwardResponse_pc (input : ForwarderInput) (udsResponse : List UInt8) :
    (forwardResponse input udsResponse).1 = .dispatch ∨
      (forwardResponse input udsResponse).1 = .stopped := by
  rw [forwardResponse]
  split
  · exact Or.inr rfl
  · split
    · exact Or.inl rfl
    · split
      · exact Or.inl rfl
      · exact Or.inr rfl

theorem forwardResponse_live_pc (read : CanRead) (udsResponse : List UInt8) :
    (forwardResponse (.live read true) udsResponse).1 = .dispatch := by
  by_cases empty : udsResponse = []
  · simp [forwardResponse, ForwarderInput.live, empty]
  · rw [forwardResponse_live empty]

theorem forwarderLoopHead_pc (sessionActive : Bool) :
    forwarderLoopHead sessionActive = .dispatch ∨ forwarderLoopHead sessionActive = .stopped := by
  cases sessionActive with
  | true => exact Or.inl rfl
  | false => exact Or.inr rfl

theorem continueReassembly_pc (input : ForwarderInput) (reassembly : Reassembly) :
    (continueReassembly input reassembly).1 =
        (continueReassembly (.live input.read true) reassembly).1 ∨
      (continueReassembly input reassembly).1 = .stopped := by
  cases reassembly with
  | reading frame => exact Or.inl rfl
  | returned response =>
      simp only [continueReassembly]
      rw [forwardResponse_live_pc]
      exact forwardResponse_pc input response
  | outOfBounds => exact Or.inl rfl

theorem dispatchFrame_pc (input : ForwarderInput) (rxFrame : ReceivedFrame) :
    (dispatchFrame input rxFrame).1 = (dispatchFrame (.live input.read true) rxFrame).1 ∨
      (dispatchFrame input rxFrame).1 = .stopped := by
  rw [dispatchFrame, dispatchFrame]
  split
  next =>
    split
    next => exact Or.inl rfl
    next => exact forwarderLoopHead_pc input.sessionActive
  next =>
    split
    next =>
      split
      next => exact Or.inl rfl
      next response _ =>
        rw [forwardResponse_live_pc]
        exact forwardResponse_pc input response
    next =>
      split
      next =>
        split
        next => exact Or.inl rfl
        next => exact continueReassembly_pc input _
      next => exact forwarderLoopHead_pc input.sessionActive

/-- In any surroundings, a step leads where it leads in a live session or stops the thread. -/
theorem forwarderStep_pc (pc : ForwarderPc) (input : ForwarderInput) :
    (forwarderStep pc input).1 = (forwarderStep pc (.live input.read true)).1 ∨
      (forwarderStep pc input).1 = .stopped := by
  cases pc with
  | dispatch =>
      simp only [forwarderStep, ForwarderInput.live]
      cases input.read with
      | failed => exact forwarderLoopHead_pc input.sessionActive
      | frame rxFrame => exact dispatchFrame_pc input rxFrame
  | reassembling frame => exact continueReassembly_pc input (frame.onRead input.read)
  | stopped => exact Or.inr rfl
  | outOfBounds => exact Or.inl rfl

/-- Runs on frames which carry what is read of them. -/
theorem dependsOnCarried_of_everyStep {pc : ForwarderPc} {reads : List CanRead}
    (defined : pc ≠ .outOfBounds) (bounded : pc.Bounded)
    (carries : canToDoipForwarder.EveryStep (fun pc input => CarriesWhatIsRead pc input.read)
      pc (liveReads reads)) : DependsOnCarried pc reads := by
  intro first second readsEq same
  induction same generalizing pc reads with
  | nil => exact ⟨defined, defined, SameEffects.refl _⟩
  | @cons input other first second sameInput sameLater ih =>
      subst readsEq
      rcases carries with ⟨carriesHere, carriesLater⟩
      have stepEq : canToDoipForwarder.step pc other = canToDoipForwarder.step pc input :=
        (forwarderStep_of_same sameInput carriesHere).symm
      rw [Transducer.stateAfter_cons, Transducer.stateAfter_cons, Transducer.output_cons,
        Transducer.output_cons, stepEq]
      rcases forwarderStep_pc pc input with live | stopped
      · have nextBounded := (forwarderStep_writesMessages bounded input).1
        have nextDefined : (forwarderStep pc input).1 ≠ .outOfBounds :=
          forwarderStep_defined defined bounded carriesHere
        have nextCarries : canToDoipForwarder.EveryStep
            (fun pc input => CarriesWhatIsRead pc input.read)
            (canToDoipForwarder.step pc input).1 (liveReads (first.map ForwarderInput.read)) := by
          change canToDoipForwarder.EveryStep _ (forwarderStep pc input).1 _
          rw [live]
          exact carriesLater
        rcases ih nextDefined nextBounded nextCarries rfl with ⟨defined, definedSecond, effects⟩
        exact ⟨defined, definedSecond, effects.append_left⟩
      · change (canToDoipForwarder.step pc input).1 = .stopped at stopped
        rw [stopped, (run_stopped first).1, (run_stopped first).2, (run_stopped second).1,
          (run_stopped second).2]
        exact ⟨by simp, by simp, SameEffects.refl _⟩

/-! ## Frames which differ off the bus -/

/-- The frame with another byte in its data array. -/
def ReceivedFrame.setByte (frame : ReceivedFrame) (index : ℕ) (byte : UInt8) : ReceivedFrame where
  canId := frame.canId
  canDlc := frame.canDlc
  data := frame.data.setIfInBounds index byte
  canDlc_le := frame.canDlc_le

theorem sameOnBus_setByte {frame : ReceivedFrame} {index : ℕ}
    (offBus : frame.canDlc.toNat ≤ index) (byte : UInt8) :
    SameOnBus frame (frame.setByte index byte) := by
  refine ⟨rfl, rfl, ?_⟩
  simp only [CanFrame.dataBytes, List.drop_zero, ReceivedFrame.setByte, Vector.toList_setIfInBounds]
  rw [List.take_set_of_le offBus]

theorem sameRead_setByte {frame : ReceivedFrame} {index : ℕ}
    (offBus : frame.canDlc.toNat ≤ index) (byte : UInt8) :
    SameRead (.frame frame) (.frame (frame.setByte index byte)) :=
  sameOnBus_setByte offBus byte

theorem data_setByte (frame : ReceivedFrame) (index : ℕ) (byte : UInt8) {other : ℕ}
    (inside : other < 8) :
    (frame.setByte index byte).data[other]! =
      if index = other then byte else frame.data[other]! := by
  simp [ReceivedFrame.setByte, Vector.getElem_setIfInBounds, inside]

theorem pciType_setByte (frame : ReceivedFrame) (byte : UInt8) :
    (frame.setByte 0 byte).pciType.toNat = byte.toNat / 16 := by
  rw [CanFrame.toNat_pciType, data_setByte frame 0 byte (by decide), if_pos rfl]

theorem finalUdsPayload_inj {first second : List UInt8} (lengths : first.length = second.length)
    (same : finalUdsPayload first = finalUdsPayload second) : first = second := by
  cases first with
  | nil =>
      rw [List.length_nil, eq_comm, List.length_eq_zero_iff] at lengths
      exact lengths.symm
  | cons firstByte rest =>
      cases second with
      | nil => simp at lengths
      | cons secondByte restSecond =>
          have sizes := congrArg List.length same
          rcases finalUdsPayload_cons firstByte rest with ⟨_, _, eq⟩ | ⟨_, eq⟩
          · rcases finalUdsPayload_cons secondByte restSecond with ⟨_, _, eqSecond⟩ | ⟨_, eqSecond⟩
            · rw [← eq, same, eqSecond]
            · simp only [eq, eqSecond, List.length_cons] at sizes lengths
              omega
          · rcases finalUdsPayload_cons secondByte restSecond with ⟨_, _, eqSecond⟩ | ⟨_, eqSecond⟩
            · simp only [eq, eqSecond, List.length_cons] at sizes lengths
              omega
            · rw [eq, eqSecond, List.cons.injEq] at same
              exact same.2

theorem forwardedMessage_inj {first second : List UInt8} (lengths : first.length = second.length)
    (same : forwardedMessage first = forwardedMessage second) : first = second := by
  apply finalUdsPayload_inj lengths
  rw [← drop_diagnosticMessage (finalUdsPayload first),
    ← drop_diagnosticMessage (finalUdsPayload second)]
  exact congrArg _ same

namespace DependsOnCarried

variable {pc next : ForwarderPc} {read other another : CanRead} {reads : List CanRead}
  {actions otherActions : List GatewayAction}

theorem tail (depends : DependsOnCarried pc (read :: reads)) :
    DependsOnCarried (forwarderStep pc (.live read true)).1 reads := by
  intro first second readsEq same
  have whole := depends (.live read true :: first) (.live read true :: second)
    (by rw [List.map_cons, readsEq]; rfl) (.cons (SameInput.refl _) same)
  exact ⟨whole.1, whole.2.1, whole.2.2.of_append_left⟩

theorem variant (depends : DependsOnCarried pc (read :: reads)) (same : SameRead read other) :
    canToDoipForwarder.stateAfter pc (liveReads (other :: reads)) ≠ .outOfBounds ∧
      SameEffects (canToDoipForwarder.output pc (liveReads (read :: reads)))
        (canToDoipForwarder.output pc (liveReads (other :: reads))) := by
  have readsEq : (liveReads (read :: reads)).map ForwarderInput.read = read :: reads := by
    rw [liveReads, List.map_map]
    exact List.map_id _
  have pairwise : List.Forall₂ SameInput (liveReads (read :: reads)) (liveReads (other :: reads)) :=
    .cons ⟨same, rfl, rfl⟩ (List.forall₂_same.mpr fun input _ => SameInput.refl input)
  exact (depends _ _ readsEq pairwise).2

theorem variant_defined (depends : DependsOnCarried pc (read :: reads))
    (same : SameRead read other) :
    (forwarderStep pc (.live other true)).1 ≠ .outOfBounds := by
  intro reached
  apply (depends.variant same).1
  change canToDoipForwarder.stateAfter (forwarderStep pc (.live other true)).1 (liveReads reads) = _
  rw [reached]
  exact (run_outOfBounds _).1

/-- Two frames which are the same on the bus act in the same way where they lead to one state. -/
theorem variants (depends : DependsOnCarried pc (read :: reads)) (same : SameRead read other)
    (sameSecond : SameRead read another)
    (stepEq : forwarderStep pc (.live other true) = (next, actions))
    (stepEqSecond : forwarderStep pc (.live another true) = (next, otherActions)) :
    SameEffects actions otherActions := by
  have effects := (depends.variant same).2.symm.trans (depends.variant sameSecond).2
  have run := (canToDoipForwarder.run_of_step stepEq (liveReads reads)).2
  have runSecond := (canToDoipForwarder.run_of_step stepEqSecond (liveReads reads)).2
  change SameEffects (canToDoipForwarder.output pc (.live other true :: liveReads reads))
    (canToDoipForwarder.output pc (.live another true :: liveReads reads)) at effects
  rw [run, runSecond] at effects
  exact effects.of_append_right

end DependsOnCarried

/-! ## Sequence numbers -/

def Reassembly.SeqNumLt : Reassembly → Prop
  | .reading frame => frame.expectedSeqNum.toNat < 16
  | _ => True

def ForwarderPc.SeqNumLt : ForwarderPc → Prop
  | .reassembling frame => frame.expectedSeqNum.toNat < 16
  | _ => True

theorem MultiFrame.loopTest_seqNumLt {frame : MultiFrame}
    (seqLt : frame.expectedSeqNum.toNat < 16) : frame.loopTest.SeqNumLt := by
  rw [loopTest]
  split
  · exact seqLt
  · trivial

theorem MultiFrame.start_seqNumLt (firstFrame : CanFrame) : (start firstFrame).SeqNumLt := by
  rw [start]
  split
  · trivial
  · apply loopTest_seqNumLt
    change (1 : UInt8).toNat < 16
    decide

theorem MultiFrame.onRead_seqNumLt (frame : MultiFrame) (read : CanRead) :
    (frame.onRead read).SeqNumLt := by
  cases read with
  | failed => trivial
  | frame cfFrame =>
      rw [onRead]
      split
      · trivial
      · split
        · trivial
        · apply loopTest_seqNumLt
          change ((frame.expectedSeqNum + 1) % 16).toNat < 16
          rw [UInt8.toNat_mod]
          exact Nat.mod_lt _ (by decide)

theorem continueReassembly_seqNumLt (input : ForwarderInput) {reassembly : Reassembly}
    (seqNumLt : reassembly.SeqNumLt) : (continueReassembly input reassembly).1.SeqNumLt := by
  cases reassembly with
  | reading frame => exact seqNumLt
  | returned response =>
      rcases forwardResponse_pc input response with pcEq | pcEq
      · rw [continueReassembly, pcEq]
        trivial
      · rw [continueReassembly, pcEq]
        trivial
  | outOfBounds => trivial

theorem forwarderLoopHead_seqNumLt (sessionActive : Bool) :
    (forwarderLoopHead sessionActive).SeqNumLt := by
  cases sessionActive <;> trivial

theorem forwarderStep_seqNumLt (pc : ForwarderPc) (input : ForwarderInput) :
    (forwarderStep pc input).1.SeqNumLt := by
  cases pc with
  | dispatch =>
      simp only [forwarderStep]
      split
      · exact forwarderLoopHead_seqNumLt _
      next rxFrame _ =>
        rcases dispatchFrame_cases input rxFrame with stepEq | ⟨_, stepEq⟩ | ⟨response, _, stepEq⟩ |
          stepEq | stepEq
        · rw [stepEq]
          trivial
        · rw [stepEq]
          exact forwarderLoopHead_seqNumLt _
        · rw [stepEq]
          have returned : (Reassembly.returned response).SeqNumLt := trivial
          exact continueReassembly_seqNumLt input returned
        · rw [stepEq]
          exact continueReassembly_seqNumLt input (MultiFrame.start_seqNumLt _)
        · rw [stepEq]
          exact forwarderLoopHead_seqNumLt _
  | reassembling frame =>
      exact continueReassembly_seqNumLt input (frame.onRead_seqNumLt input.read)
  | stopped => trivial
  | outOfBounds => trivial

/-! ## Frames which do not carry what is read -/

section Missing

variable {rxFrame : ReceivedFrame} {frame : MultiFrame} {reads : List CanRead}

/-- Without a byte on the bus, the frame may be a flow control or not. -/
theorem DependsOnCarried.carries_pci
    (depends : DependsOnCarried .dispatch (.frame rxFrame :: reads)) :
    1 ≤ rxFrame.canDlc.toNat := by
  by_contra missing
  have offBus : rxFrame.canDlc.toNat ≤ 0 := by omega
  have flowControl : (rxFrame.setByte 0 0x30).pciType = 3 := by
    rw [← UInt8.toNat_inj, pciType_setByte]
    rfl
  have stray : (rxFrame.setByte 0 0x40).pciType = 4 := by
    rw [← UInt8.toNat_inj, pciType_setByte]
    rfl
  have effects := depends.variants (sameRead_setByte offBus 0x30) (sameRead_setByte offBus 0x40)
    (dispatchFrame_of_flowControl flowControl)
    (dispatchFrame_of_stray (Or.inr (UInt8.le_of_eq stray.symm)))
  have pushes := effects.pushes
  simp [pushedFlowControls, pushed?] at pushes

theorem range_last {first last : ℕ} {bytes : List UInt8} {canFrame : CanFrame}
    (rangeEq : canFrame.range first (last + 1) = some bytes) (forward : first ≤ last) :
    bytes[last - first]? = some canFrame.data[last]! := by
  have inside := (length_of_range rangeEq).2
  rw [CanFrame.range, if_pos (by omega), Option.some.injEq] at rangeEq
  rw [← rangeEq, List.getElem?_drop, List.getElem?_take, if_pos (by omega),
    Nat.add_sub_cancel' forward]
  simp [show last < 8 by omega]

theorem isotpHandleSingleFrame_of_sfDl {canFrame : CanFrame} (positive : 1 ≤ canFrame.sfDl)
    (short : canFrame.sfDl ≤ 7) :
    ∃ response, isotpHandleSingleFrame canFrame = some response ∧
      canFrame.range 1 (canFrame.sfDl + 1) = some response := by
  have lenEq : (canFrame.data[0]! &&& 0x0F).toNat = canFrame.sfDl := Bytes.toNat_and_lowMask _
  have admissible : ¬(canFrame.data[0]! &&& 0x0F = 0 ∨ canFrame.data[0]! &&& 0x0F > 7) := by
    rw [singleFrameLength_admissible_iff, lenEq]
    exact ⟨positive, short⟩
  simp only [isotpHandleSingleFrame, if_neg admissible, lenEq, Nat.add_comm 1]
  rw [CanFrame.range, if_pos (by omega)]
  exact ⟨_, rfl, rfl⟩

theorem step_of_single {response : List UInt8} (single : rxFrame.pciType = 0)
    (handled : isotpHandleSingleFrame rxFrame.toCanFrame = some response)
    (nonempty : response ≠ []) :
    forwarderStep .dispatch (.live (.frame rxFrame) true) =
      (.dispatch, writeLocked (forwardedMessage response)) := by
  change dispatchFrame _ rxFrame = _
  rw [dispatchFrame, single, handled]
  exact forwardResponse_live nonempty

/-- The response in a Single Frame ends with the byte which its length points to. -/
theorem step_of_sfDl (single : rxFrame.pciType = 0) (positive : 1 ≤ rxFrame.sfDl)
    (short : rxFrame.sfDl ≤ 7) :
    ∃ response : List UInt8, response.length = rxFrame.sfDl ∧
      response[rxFrame.sfDl - 1]? = some rxFrame.data[rxFrame.sfDl]! ∧
      forwarderStep .dispatch (.live (.frame rxFrame) true) =
        (.dispatch, writeLocked (forwardedMessage response)) := by
  rcases isotpHandleSingleFrame_of_sfDl positive short with ⟨response, handled, rangeEq⟩
  have length := (length_of_range rangeEq).1
  have nonempty : response ≠ [] := by
    rintro rfl
    simp at length
    omega
  exact ⟨response, by omega, range_last rangeEq positive, step_of_single single handled nonempty⟩

/-- A Single Frame which is shorter than it says may end with any byte. -/
theorem DependsOnCarried.carries_single
    (depends : DependsOnCarried .dispatch (.frame rxFrame :: reads))
    (single : rxFrame.pciType = 0) (short : rxFrame.sfDl ≤ 7) :
    1 + rxFrame.sfDl ≤ rxFrame.canDlc.toNat := by
  by_contra missing
  have pci := depends.carries_pci
  have positive : 1 ≤ rxFrame.sfDl := by omega
  have notZero : rxFrame.sfDl ≠ 0 := by omega
  have offBus : rxFrame.canDlc.toNat ≤ rxFrame.sfDl := by omega
  have inside : rxFrame.sfDl < 8 := by omega
  let other := rxFrame.setByte rxFrame.sfDl (rxFrame.data[rxFrame.sfDl]! + 1)
  have sameFirst : other.data[0]! = rxFrame.data[0]! := by
    rw [data_setByte rxFrame _ _ (by decide), if_neg notZero]
  have otherLast : other.data[rxFrame.sfDl]! = rxFrame.data[rxFrame.sfDl]! + 1 := by
    rw [data_setByte rxFrame _ _ inside, if_pos rfl]
  have otherDl : other.sfDl = rxFrame.sfDl := by rw [CanFrame.sfDl, sameFirst, CanFrame.sfDl]
  have otherSingle : other.pciType = 0 := by rw [CanFrame.pciType, sameFirst, ← single]; rfl
  rcases step_of_sfDl single positive short with ⟨response, length, last, stepEq⟩
  rcases step_of_sfDl otherSingle (by rwa [otherDl]) (by rwa [otherDl]) with
    ⟨otherResponse, otherLength, lastOther, otherStepEq⟩
  have effects := depends.variants (SameRead.refl _) (sameRead_setByte offBus _) stepEq otherStepEq
  have messages := effects.messages
  rw [writes_writeLocked, writes_writeLocked, List.cons.injEq] at messages
  have responses := forwardedMessage_inj (by omega) messages.1
  rw [otherDl, ← responses, last, otherLast, Option.some.injEq] at lastOther
  simp at lastOther

theorem DependsOnCarried.carries_first
    (depends : DependsOnCarried .dispatch (.frame rxFrame :: reads))
    (first : rxFrame.pciType = 1) : 2 ≤ rxFrame.canDlc.toNat := by
  by_contra missing
  apply depends.variant_defined (SameRead.refl _)
  rw [forwarderStep_outOfBounds_iff (by simp)]
  refine ⟨2, rxFrame.canDlc.toNat, ?_, ?_⟩
  · simp [ForwarderInput.live, forwarderAccesses, dispatchAccesses, first, firstFrameAccesses]
  · intro safe
    exact missing safe.1

/-- The data length zero wraps around, and the loop copies all which is missing. -/
theorem MultiFrame.onRead_of_empty
    (unfinished : frame.udsRxBuffer.length < frame.totalSize.toNat)
    (expected : ¬(rxFrame.data[0]! &&& 0xF0 ≠ 0x20 ∨
      rxFrame.data[0]! &&& 0x0F ≠ frame.expectedSeqNum))
    (empty : rxFrame.canDlc = 0) :
    frame.onRead (.frame rxFrame) = .outOfBounds ∨
      ∃ response, response ≠ [] ∧ frame.onRead (.frame rxFrame) = .returned response := by
  rw [onRead, if_neg expected, bytesToCopy_of_empty _ empty]
  split
  next => exact Or.inl rfl
  next bytes rangeEq =>
    right
    have length := (length_of_range rangeEq).1
    refine ⟨frame.udsRxBuffer ++ bytes, ?_, ?_⟩
    · intro none_
      rw [(List.append_eq_nil_iff.mp none_).2, List.length_nil] at length
      omega
    · apply if_neg
      simp only [List.length_append]
      omega

/-- Without a byte on the bus, the frame may complete the message or abort the reassembly. -/
theorem DependsOnCarried.carries_consecutive
    (bounded : (ForwarderPc.reassembling frame).Bounded)
    (seqNumLt : (ForwarderPc.reassembling frame).SeqNumLt)
    (depends : DependsOnCarried (.reassembling frame) (.frame rxFrame :: reads)) :
    1 ≤ rxFrame.canDlc.toNat := by
  by_contra missing
  have seqLt : frame.expectedSeqNum.toNat < 16 := seqNumLt
  have offBus : rxFrame.canDlc.toNat ≤ 0 := by omega
  have empty : rxFrame.canDlc = 0 := by
    rw [← UInt8.toNat_inj]
    exact Nat.le_zero.mp offBus
  let pci := UInt8.ofNat (0x20 + frame.expectedSeqNum.toNat)
  have expected : (rxFrame.setByte 0 pci).IsConsecutive frame.expectedSeqNum.toNat := by
    rw [CanFrame.IsConsecutive, data_setByte rxFrame 0 pci (by decide), if_pos rfl,
      UInt8.toNat_ofNat']
    omega
  have abortStep : forwarderStep (.reassembling frame)
      (.live (.frame (rxFrame.setByte 0 0)) true) = (.dispatch, []) := by
    change continueReassembly _ (frame.onRead (.frame (rxFrame.setByte 0 0))) = _
    rw [MultiFrame.onRead, data_setByte rxFrame 0 0 (by decide), if_pos rfl, if_pos (by simp)]
    rfl
  rcases MultiFrame.onRead_of_empty bounded.2 ((MultiFrame.isConsecutive_iff seqLt).mp expected)
    empty with undefined | ⟨response, nonempty, returned⟩
  · apply depends.variant_defined (sameRead_setByte offBus pci)
    rw [forwarderStep, continueReassembly_eq_iff]
    exact undefined
  · have completeStep : forwarderStep (.reassembling frame)
        (.live (.frame (rxFrame.setByte 0 pci)) true) =
          (.dispatch, writeLocked (forwardedMessage response)) := by
      change continueReassembly _ (frame.onRead (.frame (rxFrame.setByte 0 pci))) = _
      rw [returned]
      exact forwardResponse_live nonempty
    have effects := depends.variants (sameRead_setByte offBus 0) (sameRead_setByte offBus pci)
      abortStep completeStep
    have messages := effects.messages
    rw [writes_writeLocked] at messages
    simp at messages

theorem DependsOnCarried.carries {pc : ForwarderPc} {read : CanRead} (bounded : pc.Bounded)
    (seqNumLt : pc.SeqNumLt) (depends : DependsOnCarried pc (read :: reads)) :
    CarriesWhatIsRead pc read := by
  cases read with
  | failed => cases pc <;> trivial
  | frame rxFrame =>
      cases pc with
      | dispatch => exact ⟨depends.carries_pci, depends.carries_single, depends.carries_first⟩
      | reassembling frame => exact DependsOnCarried.carries_consecutive bounded seqNumLt depends
      | stopped => trivial
      | outOfBounds => trivial

theorem everyStep_of_dependsOnCarried {pc : ForwarderPc} (bounded : pc.Bounded)
    (seqNumLt : pc.SeqNumLt) (depends : DependsOnCarried pc reads) :
    canToDoipForwarder.EveryStep (fun pc input => CarriesWhatIsRead pc input.read) pc
      (liveReads reads) := by
  induction reads generalizing pc with
  | nil => trivial
  | cons read reads ih =>
      refine ⟨depends.carries bounded seqNumLt, ?_⟩
      apply ih
      · exact (forwarderStep_writesMessages bounded _).1
      · exact forwarderStep_seqNumLt pc _
      · exact depends.tail

end Missing

/-- The effects of a stream depend on nothing but the carried bytes if and only if every frame
carries the bytes which the forwarder reads where it meets the frame. -/
theorem dependsOnCarried_iff (reads : List CanRead) :
    DependsOnCarried .dispatch reads ↔
      canToDoipForwarder.EveryStep (fun pc input => CarriesWhatIsRead pc input.read) .dispatch
        (liveReads reads) := by
  constructor
  · exact everyStep_of_dependsOnCarried trivial trivial
  · exact dependsOnCarried_of_everyStep (by simp) trivial

/-- A Single Frame of one byte which announces one more; the next byte is left from before. -/
def staleSingleFrame (stale : UInt8) : ReceivedFrame :=
  .oneByte #v[0x01, stale, 0, 0, 0, 0, 0, 0]

theorem staleSingleFrame_forwarded :
    SameOnBus (staleSingleFrame 0x7E) (staleSingleFrame 0x41) ∧
      writes (canToDoipForwarder.output .dispatch [liveFrame (staleSingleFrame 0x7E)]) ≠
        writes (canToDoipForwarder.output .dispatch [liveFrame (staleSingleFrame 0x41)]) := by
  refine ⟨⟨rfl, rfl, rfl⟩, by decide⟩

end Synapse
