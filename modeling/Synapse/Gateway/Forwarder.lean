import Synapse.Library.Transducer
import Synapse.IsoTp.Segmentation
import Synapse.Gateway.Action

/-!
# The forwarder thread

`can_to_doip_forwarder` reads CAN frames and writes diagnostic messages to the
tester. It blocks at two places, in its own loop and inside the reassembly loop
of `isotp_handle_multi_frame`; between two reads it runs through without
waiting. The thread is therefore a transducer whose state is the place of the
next read, and whose outputs are its actions in program order.

Besides the frame, an input carries the value of `session_active` which the
thread sees until its next read, and the result of the write to the tester
socket, should this read complete a response.
-/

namespace Synapse

/-- Where the forwarder thread stands. -/
inductive ForwarderPc where
  | dispatch
  | reassembling (frame : MultiFrame)
  | stopped
  /-- A copy left the data array of a frame; the source gives the rest no meaning. -/
  | outOfBounds
deriving DecidableEq

def ForwarderPc.isReading : ForwarderPc → Bool
  | .dispatch => true
  | .reassembling _ => true
  | .stopped => false
  | .outOfBounds => false

/-- What the surroundings answer to the forwarder from one read to the next. -/
structure ForwarderInput where
  read : CanRead
  sessionActive : Bool
  clientWriteOk : Bool

def ForwarderInput.live (read : CanRead) (clientWriteOk : Bool) : ForwarderInput :=
  ⟨read, true, clientWriteOk⟩

def forwarderLoopHead (sessionActive : Bool) : ForwarderPc :=
  if sessionActive then .dispatch else .stopped

/-- The payload forwarded for a response: responses which do not start with a response service
identifier are made answers to a read by identifier. -/
def finalUdsPayload (udsResponse : List UInt8) : List UInt8 :=
  match udsResponse with
  | [] => []
  | firstByte :: _ =>
      if firstByte ≥ 0x40 ∧ firstByte ≤ 0x7F then udsResponse else 0x62 :: udsResponse

/-- A response is forwarded as it is if it starts with a response service identifier, and behind
the prefix byte otherwise. -/
theorem finalUdsPayload_cons (firstByte : UInt8) (rest : List UInt8) :
    (0x40 ≤ firstByte ∧ firstByte ≤ 0x7F ∧
        finalUdsPayload (firstByte :: rest) = firstByte :: rest) ∨
      (¬(0x40 ≤ firstByte ∧ firstByte ≤ 0x7F) ∧
        finalUdsPayload (firstByte :: rest) = 0x62 :: firstByte :: rest) := by
  by_cases passes : 0x40 ≤ firstByte ∧ firstByte ≤ 0x7F
  · exact Or.inl ⟨passes.1, passes.2, if_pos passes⟩
  · exact Or.inr ⟨passes, if_neg passes⟩

theorem length_finalUdsPayload_le (udsResponse : List UInt8) :
    (finalUdsPayload udsResponse).length ≤ udsResponse.length + 1 := by
  cases udsResponse with
  | nil => exact Nat.zero_le 1
  | cons firstByte rest =>
      rcases finalUdsPayload_cons firstByte rest with ⟨_, _, same⟩ | ⟨_, prefixed⟩
      · rw [same]
        omega
      · rw [prefixed, List.length_cons]

def forwardedMessage (udsResponse : List UInt8) : List UInt8 :=
  diagnosticMessage (finalUdsPayload udsResponse)

/-- The part of the loop behind the dispatch. -/
def forwardResponse (input : ForwarderInput) (udsResponse : List UInt8) :
    ForwarderPc × List GatewayAction :=
  if input.sessionActive = false then (.stopped, [])
  else if udsResponse = [] then (.dispatch, [])
  else if input.clientWriteOk then (.dispatch, writeLocked (forwardedMessage udsResponse))
  else
    (.stopped, [.acquire, .other .clientWriteFailed, .other .endSession, .release])

/-- Go on reading inside the reassembly loop, or with what it has returned. -/
def continueReassembly (input : ForwarderInput) :
    Reassembly → ForwarderPc × List GatewayAction
  | .reading frame => (.reassembling frame, [])
  | .returned udsResponse => forwardResponse input udsResponse
  | .outOfBounds => (.outOfBounds, [])

/-- The dispatch on a frame read in the forwarder's own loop. -/
def dispatchFrame (input : ForwarderInput) (rxFrame : ReceivedFrame) :
    ForwarderPc × List GatewayAction :=
  if rxFrame.pciType = 3 then
    match rxFrame.range 0 rxFrame.canDlc.toNat with
    | none => (.outOfBounds, [])
    | some bytes => (forwarderLoopHead input.sessionActive, [.other (.pushFlowControl bytes)])
  else if rxFrame.pciType = 0 then
    match isotpHandleSingleFrame rxFrame.toCanFrame with
    | none => (.outOfBounds, [])
    | some udsResponse => forwardResponse input udsResponse
  else if rxFrame.pciType = 1 then
    match MultiFrame.start rxFrame.toCanFrame with
    | .outOfBounds => (.outOfBounds, [])
    | started =>
        let (pc, actions) := continueReassembly input started
        (pc, .other (.sendFlowControl isotpFlowControlFrame) :: actions)
  else (forwarderLoopHead input.sessionActive, [])

def forwarderStep (pc : ForwarderPc) (input : ForwarderInput) :
    ForwarderPc × List GatewayAction :=
  match pc with
  | .dispatch =>
      match input.read with
      | .failed => (forwarderLoopHead input.sessionActive, [])
      | .frame rxFrame => dispatchFrame input rxFrame
  | .reassembling frame => continueReassembly input (frame.onRead input.read)
  | .stopped => (.stopped, [])
  | .outOfBounds => (.outOfBounds, [])

/-- The forwarder thread over a stream of reads. -/
def canToDoipForwarder : Transducer ForwarderPc ForwarderInput GatewayAction where
  step := forwarderStep

/-! ## What a step emits -/

theorem forwardResponse_pushes (input : ForwarderInput) (udsResponse : List UInt8) :
    pushedFlowControls (forwardResponse input udsResponse).2 = [] := by
  simp only [forwardResponse]
  split
  · rfl
  · split
    · rfl
    · split <;> rfl

theorem continueReassembly_pushes (input : ForwarderInput) (reassembly : Reassembly) :
    pushedFlowControls (continueReassembly input reassembly).2 = [] := by
  cases reassembly with
  | reading frame => rfl
  | returned udsResponse => exact forwardResponse_pushes input udsResponse
  | outOfBounds => rfl

theorem dispatchFrame_of_flowControl {input : ForwarderInput} {rxFrame : ReceivedFrame}
    (flowControl : rxFrame.pciType = 3) :
    dispatchFrame input rxFrame = (forwarderLoopHead input.sessionActive,
      [.other (.pushFlowControl (rxFrame.dataBytes 0))]) := by
  rw [dispatchFrame, if_pos flowControl, rxFrame.range_dataBytes (Nat.zero_le _)]

/-- Everything the dispatch can lead to. -/
theorem dispatchFrame_cases (input : ForwarderInput) (rxFrame : ReceivedFrame) :
    dispatchFrame input rxFrame = (.outOfBounds, []) ∨
    (rxFrame.pciType = 3 ∧ dispatchFrame input rxFrame =
      (forwarderLoopHead input.sessionActive, [.other (.pushFlowControl (rxFrame.dataBytes 0))])) ∨
    (∃ udsResponse, isotpHandleSingleFrame rxFrame.toCanFrame = some udsResponse ∧
      dispatchFrame input rxFrame = forwardResponse input udsResponse) ∨
    (dispatchFrame input rxFrame =
      ((continueReassembly input (MultiFrame.start rxFrame.toCanFrame)).1,
        .other (.sendFlowControl isotpFlowControlFrame) ::
          (continueReassembly input (MultiFrame.start rxFrame.toCanFrame)).2)) ∨
    dispatchFrame input rxFrame = (forwarderLoopHead input.sessionActive, []) := by
  by_cases flowControl : rxFrame.pciType = 3
  · right; left
    exact ⟨flowControl, dispatchFrame_of_flowControl flowControl⟩
  · rw [dispatchFrame, if_neg flowControl]
    split
    next =>
      split
      next => exact Or.inl rfl
      next udsResponse handled =>
        right; right; left
        exact ⟨udsResponse, handled, rfl⟩
    next =>
      split
      next =>
        split
        next => exact Or.inl rfl
        next =>
          right; right; right; left
          rfl
      next =>
        right; right; right; right
        rfl

theorem dispatchFrame_pushes {input : ForwarderInput} {rxFrame : ReceivedFrame}
    (other : rxFrame.pciType ≠ 3) : pushedFlowControls (dispatchFrame input rxFrame).2 = [] := by
  rcases dispatchFrame_cases input rxFrame with stepEq | ⟨kind, _⟩ | ⟨udsResponse, _, stepEq⟩ |
    stepEq | stepEq
  · rw [stepEq]
    rfl
  · exact absurd kind other
  · rw [stepEq]
    apply forwardResponse_pushes
  · rw [stepEq]
    exact continueReassembly_pushes input (MultiFrame.start rxFrame.toCanFrame)
  · rw [stepEq]
    rfl

theorem pciType_ne_of_stray {rxFrame : ReceivedFrame}
    (stray : rxFrame.pciType = 2 ∨ 4 ≤ rxFrame.pciType) :
    rxFrame.pciType ≠ 0 ∧ rxFrame.pciType ≠ 1 ∧ rxFrame.pciType ≠ 3 := by
  refine ⟨?_, ?_, ?_⟩
  all_goals
    rintro kind
    rw [kind] at stray
    revert stray
    decide

theorem dispatchFrame_of_stray {input : ForwarderInput} {rxFrame : ReceivedFrame}
    (stray : rxFrame.pciType = 2 ∨ 4 ≤ rxFrame.pciType) :
    dispatchFrame input rxFrame = (forwarderLoopHead input.sessionActive, []) := by
  rcases pciType_ne_of_stray stray with ⟨notZero, notOne, notThree⟩
  rw [dispatchFrame, if_neg notThree, if_neg notZero, if_neg notOne]

theorem run_stopped (inputs : List ForwarderInput) :
    canToDoipForwarder.stateAfter .stopped inputs = .stopped ∧
      canToDoipForwarder.output .stopped inputs = [] :=
  canToDoipForwarder.run_of_absorbing fun _ _ => rfl

theorem run_outOfBounds (inputs : List ForwarderInput) :
    canToDoipForwarder.stateAfter .outOfBounds inputs = .outOfBounds ∧
      canToDoipForwarder.output .outOfBounds inputs = [] :=
  canToDoipForwarder.run_of_absorbing fun _ _ => rfl

/-! ## One complete message -/

def liveFrame (frame : ReceivedFrame) : ForwarderInput :=
  .live (.frame frame) true

theorem forwardResponse_live {read : CanRead} {udsResponse : List UInt8}
    (nonempty : udsResponse ≠ []) :
    forwardResponse (.live read true) udsResponse =
      (.dispatch, writeLocked (forwardedMessage udsResponse)) := by
  simp [forwardResponse, ForwarderInput.live, nonempty]

/-- Inside a reassembly, the Consecutive Frames still to come complete the message. -/
theorem run_consecutiveFrames {message rest : List UInt8} {seqNum : ℕ}
    {frames : List ReceivedFrame} (fits : message.length ≤ 4095)
    (sent : ConsecutiveFrames seqNum rest frames) (restNe : rest ≠ []) (seqLt : seqNum < 16)
    {frame : MultiFrame} (awaits : frame.Awaits message seqNum rest) :
    canToDoipForwarder.stateAfter (.reassembling frame) (frames.map liveFrame) = .dispatch ∧
      canToDoipForwarder.output (.reassembling frame) (frames.map liveFrame) =
        writeLocked (forwardedMessage message) := by
  induction sent generalizing frame with
  | done => exact absurd rfl restNe
  | @next seqNum rest pci cfFrame frames _ pciEq carries later ih =>
      rcases MultiFrame.onRead_of_carries fits awaits seqLt pciEq carries with
        ⟨next, nextAwaits, readEq⟩
      have stepEq : canToDoipForwarder.step (.reassembling frame) (liveFrame cfFrame) =
          continueReassembly (liveFrame cfFrame) next.loopTest := by
        rw [← readEq]
        rfl
      rw [List.map_cons, Transducer.stateAfter_cons, Transducer.output_cons, stepEq,
        MultiFrame.loopTest_of_awaits nextAwaits]
      by_cases finished : rest.drop 7 = []
      · have messageNe : message ≠ [] := by
          intro empty
          have lengths := congrArg List.length awaits.split
          have restPos := List.length_pos_iff.mpr restNe
          rw [empty, List.length_append, List.length_nil] at lengths
          omega
        rw [finished] at later
        cases later with
        | done =>
            rw [if_pos finished]
            simp only [continueReassembly, liveFrame, forwardResponse_live messageNe]
            exact ⟨rfl, List.append_nil _⟩
        | next laterNe => exact absurd rfl laterNe
      · rw [if_neg finished]
        apply ih
        · exact finished
        · exact Nat.mod_lt _ (by omega)
        · exact nextAwaits

/-- What the forwarder does for one complete message: the answer to a First Frame if there is
one, and one diagnostic message. -/
def messageActions (message : List UInt8) : List GatewayAction :=
  (if message.length ≤ 7 then [] else [.other (.sendFlowControl isotpFlowControlFrame)]) ++
    writeLocked (forwardedMessage message)

/-- From its own loop, the forwarder delivers a complete message and is back in its own loop. -/
theorem run_segmentation {message : List UInt8} {frames : List ReceivedFrame}
    (segmentation : Segmentation message frames) :
    canToDoipForwarder.stateAfter .dispatch (frames.map liveFrame) = .dispatch ∧
      canToDoipForwarder.output .dispatch (frames.map liveFrame) = messageActions message := by
  have messageNe := segmentation.nonempty
  cases segmentation with
  | @single pci frame nonempty short pciEq carries =>
      have stepEq : canToDoipForwarder.step .dispatch (liveFrame frame) =
          (.dispatch, writeLocked (forwardedMessage message)) := by
        change dispatchFrame (liveFrame frame) frame = _
        rw [dispatchFrame, pciType_of_single short pciEq carries,
          isotpHandleSingleFrame_of_carries nonempty short pciEq carries]
        exact forwardResponse_live messageNe
      have run := canToDoipForwarder.run_of_step stepEq []
      rw [List.map_cons, List.map_nil, run.1, run.2, messageActions, if_pos short]
      exact ⟨rfl, List.append_nil _⟩
  | @multi high low firstFrame frames long fits highEq lowEq carries later =>
      rcases MultiFrame.start_awaits long fits highEq lowEq carries with
        ⟨started, awaits, startEq, _⟩
      have stepEq : canToDoipForwarder.step .dispatch (liveFrame firstFrame) =
          (.reassembling started, [.other (.sendFlowControl isotpFlowControlFrame)]) := by
        change dispatchFrame (liveFrame firstFrame) firstFrame = _
        rw [dispatchFrame, pciType_of_multi fits highEq carries, startEq]
        rfl
      have restNe : message.drop 6 ≠ [] := by
        intro finished
        rw [List.drop_eq_nil_iff] at finished
        omega
      have remaining := run_consecutiveFrames fits later restNe (by omega) awaits
      have run := canToDoipForwarder.run_of_step stepEq (frames.map liveFrame)
      rw [List.map_cons, run.1, run.2, remaining.1, remaining.2, messageActions,
        if_neg (by omega)]
      exact ⟨rfl, rfl⟩

end Synapse
