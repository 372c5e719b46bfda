import Synapse.Gateway.Forwarder

/-!
# Flow control among the responses

Flow-control frames and responses arrive on the same socket. The forwarder's
own loop sorts them, but the reassembly loop takes every frame it did not expect
as the end of the response, flow-control frames included. This file shows that
the two logical streams are kept apart exactly when no flow-control frame arrives
inside a reassembly.
-/

namespace Synapse

def ForwarderInput.flowControl? (input : ForwarderInput) : Option ReceivedFrame :=
  match input.read with
  | .failed => none
  | .frame rxFrame => if rxFrame.pciType = 3 then some rxFrame else none

/-- The bytes of the flow-control frames in a stream of inputs. -/
def flowControlFrames (inputs : List ForwarderInput) : List (List UInt8) :=
  (inputs.filterMap ForwarderInput.flowControl?).map fun rxFrame => rxFrame.dataBytes 0

/-- The stream with its flow-control frames deleted. -/
def withoutFlowControl (inputs : List ForwarderInput) : List ForwarderInput :=
  inputs.filter fun input => input.flowControl?.isNone

/-- Once the session has ended it stays ended. -/
def SessionEndsOnce (inputs : List ForwarderInput) : Prop :=
  inputs.Pairwise fun earlier later => later.sessionActive = true → earlier.sessionActive = true

/-- Every flow-control frame is pushed once and in order, and the messages written to the tester
are those which the stream without flow-control frames leads to. -/
def Demultiplexed (inputs : List ForwarderInput) : Prop :=
  pushedFlowControls (canToDoipForwarder.output .dispatch inputs) = flowControlFrames inputs ∧
    LockedStream.writes (canToDoipForwarder.output .dispatch inputs) =
      LockedStream.writes (canToDoipForwarder.output .dispatch (withoutFlowControl inputs))

/-- Every flow-control frame arrives while the forwarder waits in its own loop. Inputs behind the
end of the thread are no reads of the thread: a frame which stays on the socket is not pushed
either, and so the condition excludes it. -/
def FlowControlAtDispatch (pc : ForwarderPc) (inputs : List ForwarderInput) : Prop :=
  canToDoipForwarder.EveryStep (fun pc input => input.flowControl?.isSome → pc = .dispatch) pc
    inputs

theorem flowControlAtDispatch_cons {pc : ForwarderPc} {input : ForwarderInput}
    {inputs : List ForwarderInput} : FlowControlAtDispatch pc (input :: inputs) ↔
      (input.flowControl?.isSome → pc = .dispatch) ∧
        FlowControlAtDispatch (canToDoipForwarder.step pc input).1 inputs :=
  Iff.rfl

/-! ## The pushes -/

theorem step_of_flowControl {input : ForwarderInput} {rxFrame : ReceivedFrame}
    (flowControl : input.flowControl? = some rxFrame) :
    canToDoipForwarder.step .dispatch input = (forwarderLoopHead input.sessionActive,
      [.other (.pushFlowControl (rxFrame.dataBytes 0))]) := by
  change forwarderStep .dispatch input = _
  cases readEq : input.read with
  | failed => simp [ForwarderInput.flowControl?, readEq] at flowControl
  | frame received =>
      simp only [ForwarderInput.flowControl?, readEq] at flowControl
      split at flowControl
      next kind =>
        rw [Option.some.injEq] at flowControl
        subst flowControl
        simp only [forwarderStep, readEq]
        exact dispatchFrame_of_flowControl kind
      next => simp at flowControl

/-- Only a flow-control frame in the forwarder's own loop makes it push something. -/
theorem step_pushes (pc : ForwarderPc) (input : ForwarderInput)
    (other : input.flowControl? = none ∨ pc ≠ .dispatch) :
    pushedFlowControls (canToDoipForwarder.step pc input).2 = [] := by
  change pushedFlowControls (forwarderStep pc input).2 = []
  cases pc with
  | dispatch =>
      have noFlowControl : input.flowControl? = none := by simpa using other
      cases readEq : input.read with
      | failed =>
          simp only [forwarderStep, readEq]
          rfl
      | frame rxFrame =>
          simp only [forwarderStep, readEq]
          apply dispatchFrame_pushes
          intro kind
          simp [ForwarderInput.flowControl?, readEq, kind] at noFlowControl
  | reassembling frame => exact continueReassembly_pushes _ _
  | stopped => rfl
  | outOfBounds => rfl

theorem length_pushes_le (pc : ForwarderPc) (inputs : List ForwarderInput) :
    (pushedFlowControls (canToDoipForwarder.output pc inputs)).length ≤
      (flowControlFrames inputs).length := by
  induction inputs generalizing pc with
  | nil => exact Nat.le_refl 0
  | cons input inputs ih =>
      have later := ih (canToDoipForwarder.step pc input).1
      rw [Transducer.output_cons, pushedFlowControls_append, List.length_append]
      cases flowControl : input.flowControl? with
      | none =>
          have now := step_pushes pc input (Or.inl flowControl)
          simpa [now, flowControlFrames, flowControl] using later
      | some rxFrame =>
          have now : (pushedFlowControls (canToDoipForwarder.step pc input).2).length ≤ 1 := by
            by_cases own : pc = .dispatch
            · subst own
              rw [step_of_flowControl flowControl]
              exact Nat.le_refl 1
            · simp [step_pushes pc input (Or.inr own)]
          simp only [flowControlFrames, List.filterMap_cons, flowControl, List.map_cons,
            List.length_cons] at later ⊢
          omega

/-- The pushes are right exactly when every flow-control frame arrives in the own loop. -/
theorem pushes_eq_iff (pc : ForwarderPc) (inputs : List ForwarderInput) :
    pushedFlowControls (canToDoipForwarder.output pc inputs) = flowControlFrames inputs ↔
      FlowControlAtDispatch pc inputs := by
  induction inputs generalizing pc with
  | nil =>
      constructor
      · intro _
        trivial
      · intro _
        rfl
  | cons input inputs ih =>
      have later := ih (canToDoipForwarder.step pc input).1
      rw [Transducer.output_cons, pushedFlowControls_append, flowControlAtDispatch_cons]
      cases flowControl : input.flowControl? with
      | none =>
          have now := step_pushes pc input (Or.inl flowControl)
          simpa [now, flowControlFrames, flowControl] using later
      | some rxFrame =>
          by_cases own : pc = .dispatch
          · subst own
            have now : pushedFlowControls (canToDoipForwarder.step .dispatch input).2 =
                [rxFrame.dataBytes 0] := by
              rw [step_of_flowControl flowControl]
              rfl
            simpa [now, flowControlFrames, flowControl] using later
          · have now := step_pushes pc input (Or.inr own)
            have atMost := length_pushes_le (canToDoipForwarder.step pc input).1 inputs
            constructor
            · intro same
              have lengths := congrArg List.length same
              simp only [now, flowControlFrames, flowControl, List.filterMap_cons,
                List.map_cons, List.length_cons, List.nil_append] at lengths atMost
              omega
            · rintro ⟨atDispatch, _⟩
              exact absurd (atDispatch rfl) own

/-! ## The responses -/

theorem forwardResponse_of_inactive {input : ForwarderInput} (udsResponse : List UInt8)
    (ended : input.sessionActive = false) :
    forwardResponse input udsResponse = (.stopped, []) := by
  simp [forwardResponse, ended]

theorem continueReassembly_of_inactive {input : ForwarderInput} (reassembly : Reassembly)
    (ended : input.sessionActive = false) : (continueReassembly input reassembly).2 = [] := by
  cases reassembly with
  | reading frame => rfl
  | returned udsResponse => rw [continueReassembly, forwardResponse_of_inactive udsResponse ended]
  | outOfBounds => rfl

theorem writes_step_of_inactive (pc : ForwarderPc) {input : ForwarderInput}
    (ended : input.sessionActive = false) :
    LockedStream.writes (canToDoipForwarder.step pc input).2 = [] := by
  cases pc with
  | dispatch =>
      change LockedStream.writes (forwarderStep .dispatch input).2 = []
      simp only [forwarderStep]
      split
      · rfl
      next rxFrame _ =>
        rcases dispatchFrame_cases input rxFrame with stepEq | ⟨_, stepEq⟩ | ⟨response, _, stepEq⟩ |
          stepEq | stepEq
        · rw [stepEq]
          rfl
        · rw [stepEq]
          rfl
        · rw [stepEq, forwardResponse_of_inactive _ ended]
          rfl
        · rw [stepEq, LockedStream.writes_other, continueReassembly_of_inactive _ ended]
          rfl
        · rw [stepEq]
          rfl
  | reassembling frame =>
      change LockedStream.writes (continueReassembly input (frame.onRead input.read)).2 = []
      rw [continueReassembly_of_inactive _ ended]
      rfl
  | stopped => rfl
  | outOfBounds => rfl

theorem writes_of_inactive (pc : ForwarderPc) {inputs : List ForwarderInput}
    (ended : ∀ input ∈ inputs, input.sessionActive = false) :
    LockedStream.writes (canToDoipForwarder.output pc inputs) = [] := by
  induction inputs generalizing pc with
  | nil => rfl
  | cons input inputs ih =>
      rcases List.forall_mem_cons.mp ended with ⟨endedNow, endedLater⟩
      have now := writes_step_of_inactive pc endedNow
      have later := ih (canToDoipForwarder.step pc input).1 endedLater
      rw [Transducer.output_cons, LockedStream.writes_append, now, later]
      rfl

/-- Flow-control frames in the forwarder's own loop do not touch the responses. -/
theorem writes_withoutFlowControl {pc : ForwarderPc} {inputs : List ForwarderInput}
    (endsOnce : SessionEndsOnce inputs) (atDispatch : FlowControlAtDispatch pc inputs) :
    LockedStream.writes (canToDoipForwarder.output pc inputs) =
      LockedStream.writes (canToDoipForwarder.output pc (withoutFlowControl inputs)) := by
  induction inputs generalizing pc with
  | nil => rfl
  | cons input inputs ih =>
      rcases List.pairwise_cons.mp endsOnce with ⟨endsNow, endsLater⟩
      have later := ih endsLater atDispatch.2
      cases flowControl : input.flowControl? with
      | none =>
          have keep :
              withoutFlowControl (input :: inputs) = input :: withoutFlowControl inputs := by
            simp [withoutFlowControl, flowControl]
          rw [keep, Transducer.output_cons, Transducer.output_cons, LockedStream.writes_append,
            LockedStream.writes_append]
          exact congrArg _ later
      | some rxFrame =>
          -- The deleted frame moves the thread at most to its end, where nothing is written.
          have own : pc = .dispatch := atDispatch.1 (by simp [flowControl])
          subst own
          have stepEq := step_of_flowControl flowControl
          have delete : withoutFlowControl (input :: inputs) = withoutFlowControl inputs := by
            simp [withoutFlowControl, flowControl]
          rw [stepEq] at later
          rw [delete, (canToDoipForwarder.run_of_step stepEq inputs).2,
            LockedStream.writes_append, later]
          cases active : input.sessionActive with
          | true => rfl
          | false =>
              have ended : ∀ next ∈ inputs, next.sessionActive = false := by
                intro next nextMem
                have monotone := endsNow next nextMem
                rw [active] at monotone
                simpa using monotone
              have endedLeft : ∀ next ∈ withoutFlowControl inputs,
                  next.sessionActive = false := by
                intro next nextMem
                exact ended next (List.mem_of_mem_filter nextMem)
              rw [writes_of_inactive _ endedLeft, writes_of_inactive _ endedLeft]
              rfl

/-- The two logical streams are kept apart exactly when every flow-control frame arrives while the
forwarder waits in its own loop. -/
theorem demultiplexed_iff {inputs : List ForwarderInput} (endsOnce : SessionEndsOnce inputs) :
    Demultiplexed inputs ↔ FlowControlAtDispatch .dispatch inputs := by
  constructor
  · intro demultiplexed
    exact (pushes_eq_iff _ _).mp demultiplexed.1
  · intro atDispatch
    exact ⟨(pushes_eq_iff _ _).mpr atDispatch, writes_withoutFlowControl endsOnce atDispatch⟩

def pacedResponse : List ForwarderInput :=
  [liveFrame (.full #v[0x30, 0, 0, 0, 0, 0, 0, 0]),
    liveFrame (.full #v[0x10, 8, 0x62, 0xF1, 0x90, 1, 2, 3]),
    liveFrame (.full #v[0x21, 4, 5, 0, 0, 0, 0, 0])]

theorem demultiplexed_pacedResponse : Demultiplexed pacedResponse := by
  have endsOnce : SessionEndsOnce pacedResponse := by
    simp [SessionEndsOnce, pacedResponse, liveFrame, ForwarderInput.live]
  refine (demultiplexed_iff endsOnce).mpr ⟨fun _ => rfl, fun _ => rfl, ?_, trivial⟩
  intro flowControl
  exact absurd flowControl (by decide)

/-- A response of two frames with a flow-control frame in between. -/
def interruptedResponse : List ForwarderInput :=
  [liveFrame (.full #v[0x10, 8, 0x62, 0xF1, 0x90, 1, 2, 3]),
    liveFrame (.full #v[0x30, 0, 0, 0, 0, 0, 0, 0]),
    liveFrame (.full #v[0x21, 4, 5, 0, 0, 0, 0, 0])]

/-- A flow-control frame inside a reassembly is lost, and with it the response. -/
theorem not_demultiplexed_interruptedResponse :
    SessionEndsOnce interruptedResponse ∧
      pushedFlowControls (canToDoipForwarder.output .dispatch interruptedResponse) = [] ∧
      LockedStream.writes (canToDoipForwarder.output .dispatch interruptedResponse) = [] ∧
      ¬Demultiplexed interruptedResponse := by
  refine ⟨by simp [SessionEndsOnce, interruptedResponse, liveFrame, ForwarderInput.live],
    by decide, by decide, ?_⟩
  rintro ⟨pushes, _⟩
  revert pushes
  decide

end Synapse
