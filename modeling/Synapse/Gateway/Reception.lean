import Synapse.Gateway.Delivery
import Synapse.Gateway.TesterStream

/-!
# The forwarder as a receiver

The forwarder does not call `isotp_receive` but repeats its logic inside its own loop, since
it has to sort out flow-control frames. This file shows that nothing is lost by that: the
responses which the forwarder writes to the tester are those which `isotp_receive` returns
when it is called over and over on the same reads, without the empty ones. This holds for
every stream of reads, broken messages and frames of any kind included, and for the
messages which leave the gateway in every one of its runs.
-/

namespace Synapse

open LockedStream

/-! ## Calling the receiver over and over -/

theorem Reassembly.length_rest_le {state : Reassembly} {reads rest : List CanRead}
    {response : List UInt8} (receives : state.receive reads = .returned response rest) :
    rest.length ≤ reads.length := by
  induction reads generalizing state with
  | nil =>
      cases state with
      | reading frame => simp [Reassembly.receive] at receives
      | returned other =>
          simp only [receive_returned, Received.returned.injEq] at receives
          rw [← receives.2]
      | outOfBounds => simp at receives
  | cons read reads ih =>
      cases state with
      | reading frame => exact Nat.le_succ_of_le (ih receives)
      | returned other =>
          simp only [receive_returned, Received.returned.injEq] at receives
          rw [← receives.2]
      | outOfBounds => simp at receives

/-- A call which returns has taken at least one read. -/
theorem length_rest_lt {reads rest : List CanRead} {response : List UInt8}
    (receives : isotpReceive reads = .returned response rest) : rest.length < reads.length := by
  cases reads with
  | nil => simp [isotpReceive] at receives
  | cons read reads =>
      apply Nat.lt_succ_of_le
      cases read with
      | failed =>
          simp only [isotpReceive, Received.returned.injEq] at receives
          rw [receives.2]
      | frame rxFrame =>
          simp only [isotpReceive] at receives
          split at receives
          · split at receives
            · simp at receives
            · simp only [Received.returned.injEq] at receives
              rw [receives.2]
          · split at receives
            · exact Reassembly.length_rest_le receives
            · simp only [Received.returned.injEq] at receives
              rw [receives.2]

/-- What the calls of `isotpReceive` return, up to the one which is still waiting. -/
def receiveAll (reads : List CanRead) : List (List UInt8) :=
  match _receives : isotpReceive reads with
  | .returned response rest => response :: receiveAll rest
  | _ => []
termination_by reads.length
decreasing_by exact length_rest_lt _receives

theorem receiveAll_of_returned {reads rest : List CanRead} {response : List UInt8}
    (receives : isotpReceive reads = .returned response rest) :
    receiveAll reads = response :: receiveAll rest := by
  rw [receiveAll]
  split
  next other otherRest otherReceives =>
    rw [receives, Received.returned.injEq] at otherReceives
    rw [otherReceives.1, otherReceives.2]
  next otherwise => exact absurd receives (otherwise response rest)

theorem receiveAll_of_not_returned {reads : List CanRead}
    (open_ : ∀ response rest, isotpReceive reads ≠ .returned response rest) :
    receiveAll reads = [] := by
  rw [receiveAll]
  split
  next response rest receives => exact absurd receives (open_ response rest)
  next => rfl

/-- The messages which bring responses to the tester; an empty response is not forwarded. -/
def forwardedAll (responses : List (List UInt8)) : List (List UInt8) :=
  (responses.filter (· ≠ [])).map forwardedMessage

theorem forwardedAll_cons (response : List UInt8) (responses : List (List UInt8)) :
    forwardedAll (response :: responses) =
      forwardedAll [response] ++ forwardedAll responses := by
  simp only [forwardedAll, ← List.map_append, ← List.filter_append, List.singleton_append]

/-- What a call brings to the tester, and what the calls behind it do. -/
def Received.forwarded (forwardRest : List CanRead → List (List UInt8)) :
    Received → List (List UInt8)
  | .returned response rest => forwardedAll [response] ++ forwardRest rest
  | _ => []

/-! ## The forwarder over a live session -/

/-- What the forwarder writes from one of its places on. -/
def forwarderWrites (pc : ForwarderPc) (inputs : List ForwarderInput) : List (List UInt8) :=
  writes (canToDoipForwarder.output pc inputs)

theorem forwarderWrites_cons (pc : ForwarderPc) (input : ForwarderInput)
    (inputs : List ForwarderInput) :
    forwarderWrites pc (input :: inputs) =
      writes (forwarderStep pc input).2 ++ forwarderWrites (forwarderStep pc input).1 inputs := by
  rw [forwarderWrites, Transducer.output_cons, writes_append]
  rfl

theorem forwardResponse_writes (read : CanRead) (response : List UInt8) :
    (forwardResponse (.live read true) response).1 = .dispatch ∧
      writes (forwardResponse (.live read true) response).2 = forwardedAll [response] := by
  by_cases empty : response = []
  · subst empty
    exact ⟨rfl, rfl⟩
  · rw [forwardResponse_live empty]
    simp [forwardedAll, empty]

/-- A reassembly which goes on brings to the tester what the receiving call returns. -/
theorem continueReassembly_forwards (read : CanRead) (state : Reassembly)
    (reads : List CanRead) :
    writes (continueReassembly (.live read true) state).2 ++
        forwarderWrites (continueReassembly (.live read true) state).1 (liveReads reads) =
      (state.receive reads).forwarded fun rest => forwarderWrites .dispatch (liveReads rest) := by
  have returns : ∀ (read : CanRead) (response : List UInt8) (reads : List CanRead),
      writes (continueReassembly (.live read true) (.returned response)).2 ++
          forwarderWrites (continueReassembly (.live read true) (.returned response)).1
            (liveReads reads) =
        forwardedAll [response] ++ forwarderWrites .dispatch (liveReads reads) := by
    intro read response reads
    rw [continueReassembly, (forwardResponse_writes read response).1,
      (forwardResponse_writes read response).2]
  have leaves : ∀ inputs, forwarderWrites .outOfBounds inputs = [] := by
    intro inputs
    rw [forwarderWrites, (run_outOfBounds inputs).2]
    rfl
  induction reads generalizing read state with
  | nil =>
      cases state with
      | reading frame => rfl
      | returned response =>
          rw [Reassembly.receive_returned]
          exact returns read response []
      | outOfBounds => rfl
  | cons nextRead reads ih =>
      cases state with
      | reading frame =>
          change forwarderWrites (.reassembling frame)
            (.live nextRead true :: liveReads reads) = _
          rw [forwarderWrites_cons]
          exact ih nextRead (frame.onRead nextRead)
      | returned response =>
          rw [Reassembly.receive_returned]
          exact returns read response (nextRead :: reads)
      | outOfBounds =>
          rw [Reassembly.receive_outOfBounds]
          exact leaves _

/-- From its own loop the forwarder brings to the tester what one receiving call returns, and
then it is in its own loop again. -/
theorem dispatch_forwards (reads : List CanRead) :
    forwarderWrites .dispatch (liveReads reads) =
      (isotpReceive reads).forwarded fun rest => forwarderWrites .dispatch (liveReads rest) := by
  cases reads with
  | nil => rfl
  | cons read reads =>
      change forwarderWrites .dispatch (.live read true :: liveReads reads) = _
      rw [forwarderWrites_cons]
      cases read with
      | failed => rfl
      | frame rxFrame =>
          change writes (dispatchFrame _ rxFrame).2 ++
            forwarderWrites (dispatchFrame _ rxFrame).1 (liveReads reads) = _
          rw [isotpReceive]
          by_cases flowControl : rxFrame.pciType = 3
          · rw [dispatchFrame_of_flowControl flowControl, flowControl, if_neg (by decide),
              if_neg (by decide)]
            rfl
          · rw [dispatchFrame, if_neg flowControl]
            by_cases single : rxFrame.pciType = 0
            · rw [if_pos single, if_pos single]
              cases isotpHandleSingleFrame rxFrame.toCanFrame with
              | none =>
                  simp only [Received.forwarded, forwarderWrites, (run_outOfBounds _).2]
                  rfl
              | some response =>
                  simp only [Received.forwarded, (forwardResponse_writes _ response).1,
                    (forwardResponse_writes _ response).2]
            · rw [if_neg single, if_neg single]
              by_cases first : rxFrame.pciType = 1
              · rw [if_pos first, if_pos first, isotpHandleMultiFrame,
                  ← continueReassembly_forwards (.frame rxFrame)]
                cases MultiFrame.start rxFrame.toCanFrame <;> rfl
              · rw [if_neg first, if_neg first]
                rfl

/-- In a live session the forwarder writes what the receiver returns, call by call. -/
theorem forwarderWrites_eq_receiveAll (reads : List CanRead) :
    forwarderWrites .dispatch (liveReads reads) = forwardedAll (receiveAll reads) := by
  rw [dispatch_forwards]
  cases receives : isotpReceive reads with
  | returned response rest =>
      rw [receiveAll_of_returned receives, forwardedAll_cons,
        ← forwarderWrites_eq_receiveAll rest]
      rfl
  | blocked =>
      rw [receiveAll_of_not_returned (by simp [receives])]
      rfl
  | outOfBounds =>
      rw [receiveAll_of_not_returned (by simp [receives])]
      rfl
termination_by reads.length
decreasing_by exact length_rest_lt receives

/-! ## Sessions which end -/

/-- A pass does what it does in a live session, or it ends the thread without a write. -/
def LiveOrStopped (pass live : ForwarderPc × List GatewayAction) : Prop :=
  (pass.1 = live.1 ∧ writes pass.2 = writes live.2) ∨ (pass.1 = .stopped ∧ writes pass.2 = [])

theorem forwarderLoopHead_live (sessionActive : Bool) {actions : List GatewayAction}
    (silent : writes actions = []) :
    LiveOrStopped (forwarderLoopHead sessionActive, actions) (.dispatch, actions) := by
  cases sessionActive with
  | true => exact Or.inl ⟨rfl, rfl⟩
  | false => exact Or.inr ⟨rfl, silent⟩

theorem forwardResponse_liveOrStopped (input : ForwarderInput) (response : List UInt8) :
    LiveOrStopped (forwardResponse input response)
      (forwardResponse (.live input.read true) response) := by
  rw [forwardResponse]
  split
  next => exact Or.inr ⟨rfl, rfl⟩
  next =>
    split
    next empty =>
      subst empty
      exact Or.inl ⟨rfl, rfl⟩
    next nonempty =>
      rw [forwardResponse_live nonempty]
      split
      next => exact Or.inl ⟨rfl, rfl⟩
      next => exact Or.inr ⟨rfl, rfl⟩

theorem continueReassembly_liveOrStopped (input : ForwarderInput) (state : Reassembly) :
    LiveOrStopped (continueReassembly input state)
      (continueReassembly (.live input.read true) state) := by
  cases state with
  | reading frame => exact Or.inl ⟨rfl, rfl⟩
  | returned response => exact forwardResponse_liveOrStopped input response
  | outOfBounds => exact Or.inl ⟨rfl, rfl⟩

theorem dispatchFrame_liveOrStopped (input : ForwarderInput) (rxFrame : ReceivedFrame) :
    LiveOrStopped (dispatchFrame input rxFrame)
      (dispatchFrame (.live input.read true) rxFrame) := by
  rw [dispatchFrame, dispatchFrame]
  split
  next =>
    rw [rxFrame.range_dataBytes (Nat.zero_le _)]
    exact forwarderLoopHead_live input.sessionActive rfl
  next =>
    split
    next =>
      cases isotpHandleSingleFrame rxFrame.toCanFrame with
      | none => exact Or.inl ⟨rfl, rfl⟩
      | some response => exact forwardResponse_liveOrStopped input response
    next =>
      split
      next =>
        have continues :=
          continueReassembly_liveOrStopped input (MultiFrame.start rxFrame.toCanFrame)
        cases startEq : MultiFrame.start rxFrame.toCanFrame with
        | outOfBounds => exact Or.inl ⟨rfl, rfl⟩
        | _ =>
            rw [startEq] at continues
            exact continues
      next => exact forwarderLoopHead_live input.sessionActive rfl

theorem forwarderStep_liveOrStopped (pc : ForwarderPc) (input : ForwarderInput) :
    LiveOrStopped (forwarderStep pc input) (forwarderStep pc (.live input.read true)) := by
  cases pc with
  | dispatch =>
      rcases input with ⟨read, sessionActive, clientWriteOk⟩
      cases read with
      | failed => exact forwarderLoopHead_live sessionActive rfl
      | frame rxFrame => exact dispatchFrame_liveOrStopped _ rxFrame
  | reassembling frame => exact continueReassembly_liveOrStopped input (frame.onRead input.read)
  | stopped => exact Or.inl ⟨rfl, rfl⟩
  | outOfBounds => exact Or.inl ⟨rfl, rfl⟩

/-- However the session ends, what is written is a part of what a live session writes. -/
theorem forwarderWrites_prefix_live (pc : ForwarderPc) (inputs : List ForwarderInput) :
    forwarderWrites pc inputs <+: forwarderWrites pc (liveReads (inputs.map (·.read))) := by
  induction inputs generalizing pc with
  | nil => exact List.nil_prefix
  | cons input inputs ih =>
      rw [forwarderWrites_cons, List.map_cons]
      change _ <+: forwarderWrites pc
        (.live input.read true :: liveReads (inputs.map (·.read)))
      rw [forwarderWrites_cons]
      rcases forwarderStep_liveOrStopped pc input with ⟨sameState, sameWrites⟩ |
        ⟨stopped, silent⟩
      · rw [sameState, sameWrites, List.prefix_append_right_inj]
        apply ih
      · rw [stopped, silent, forwarderWrites, (run_stopped inputs).2]
        exact List.nil_prefix

/-- The messages of the forwarder, written and unwritten, are the first ones of those which the
receiver would have had it write; while the session is live they are all of them. -/
theorem forwarder_writes_received {gateway : Gateway} (whole : Whole gateway) :
    gateway.tester.sentBy .forwarder ++ gateway.tester.pending .forwarder <+:
        forwardedAll (receiveAll (gateway.forwarderInputs.map (·.read))) ∧
      ((∀ input ∈ gateway.forwarderInputs, input = .live input.read true) →
        gateway.tester.sentBy .forwarder ++ gateway.tester.pending .forwarder =
          forwardedAll (receiveAll (gateway.forwarderInputs.map (·.read)))) := by
  rw [whole.accounted .forwarder]
  change forwarderWrites .dispatch gateway.forwarderInputs <+: _ ∧
    (_ → forwarderWrites .dispatch gateway.forwarderInputs = _)
  rw [← forwarderWrites_eq_receiveAll]
  refine ⟨forwarderWrites_prefix_live .dispatch gateway.forwarderInputs, ?_⟩
  intro live
  have same : liveReads (gateway.forwarderInputs.map (·.read)) = gateway.forwarderInputs := by
    rw [liveReads, List.map_map]
    calc gateway.forwarderInputs.map _
        = gateway.forwarderInputs.map id := by
          apply List.map_congr_left
          intro input inputMem
          exact (live input inputMem).symm
      _ = gateway.forwarderInputs := List.map_id _
  rw [same]

end Synapse
