import Synapse.Gateway.Forwarder
import Synapse.Gateway.Session

/-!
# What the threads write to the tester

Both threads write only under the mutex, and everything they write is a complete
DoIP message: the three layouts announce the length they occupy, and no
response is longer than the twelve bits of a First Frame can say. The session
thread writes one answer for each request it recognises.
-/

namespace Synapse

open LockedStream

/-! ## The lengths of responses -/

/-- The buffer of a reassembly stays below the length a First Frame can announce. -/
def Reassembly.Bounded : Reassembly → Prop
  | .reading frame =>
      frame.totalSize.toNat ≤ 4095 ∧ frame.udsRxBuffer.length < frame.totalSize.toNat
  | .returned response => response.length ≤ 4095
  | .outOfBounds => True

theorem length_of_range {frame : CanFrame} {first last : ℕ} {bytes : List UInt8}
    (rangeEq : frame.range first last = some bytes) :
    bytes.length = last - first ∧ last ≤ 8 := by
  rw [CanFrame.range] at rangeEq
  split at rangeEq
  next inside =>
    rw [Option.some.injEq] at rangeEq
    subst rangeEq
    simp only [List.length_drop, List.length_take, Vector.length_toList]
    omega
  next => simp at rangeEq

theorem MultiFrame.loopTest_bounded {frame : MultiFrame}
    (sizeLe : frame.totalSize.toNat ≤ 4095) (bufferLe : frame.udsRxBuffer.length ≤ 4095) :
    frame.loopTest.Bounded := by
  rw [loopTest]
  split
  next unfinished => exact ⟨sizeLe, unfinished⟩
  next => exact bufferLe

theorem MultiFrame.start_bounded (firstFrame : CanFrame) : (start firstFrame).Bounded := by
  rw [start]
  split
  next => trivial
  next bytes rangeEq =>
    apply loopTest_bounded
    · change (announcedSize firstFrame).toNat ≤ 4095
      have lowLt := firstFrame.data[1]!.toNat_lt
      rw [announcedSize, Bytes.toNat_twelveBits]
      omega
    · have lengths := length_of_range rangeEq
      change bytes.length ≤ 4095
      omega

theorem MultiFrame.bytesToCopy_le (frame : MultiFrame) (cfFrame : CanFrame) :
    frame.bytesToCopy cfFrame ≤ frame.totalSize.toNat - frame.udsRxBuffer.length := by
  apply Nat.le_trans (Nat.min_le_left _ _)
  rw [UInt16.toNat_ofNat']
  exact Nat.mod_le _ _

theorem MultiFrame.onRead_bounded {frame : MultiFrame} (read : CanRead)
    (bounded : (Reassembly.reading frame).Bounded) : (frame.onRead read).Bounded := by
  rcases bounded with ⟨sizeLe, unfinished⟩
  cases read with
  | failed => exact Nat.zero_le _
  | frame cfFrame =>
      rw [onRead]
      split
      next => exact Nat.zero_le _
      next =>
        split
        next => trivial
        next bytes rangeEq =>
          apply loopTest_bounded
          · exact sizeLe
          · have lengths := length_of_range rangeEq
            have copied := frame.bytesToCopy_le cfFrame.toCanFrame
            change (frame.udsRxBuffer ++ bytes).length ≤ 4095
            rw [List.length_append]
            omega

theorem length_isotpHandleSingleFrame {frame : CanFrame} {response : List UInt8}
    (handled : isotpHandleSingleFrame frame = some response) : response.length ≤ 4095 := by
  simp only [isotpHandleSingleFrame] at handled
  split at handled
  next =>
    rw [Option.some.injEq] at handled
    subst handled
    exact Nat.zero_le _
  next =>
    have lengths := length_of_range handled
    omega

/-! ## What the threads write -/

/-- The actions keep the lock discipline and write complete messages only. -/
structure WritesMessages (actions : List GatewayAction) : Prop where
  disciplined : Disciplined false actions
  messages : ∀ bytes ∈ writes actions, IsMessage bytes

theorem WritesMessages.nil : WritesMessages [] where
  disciplined := rfl
  messages := by simp

theorem WritesMessages.other {actions : List GatewayAction} (effect : Effect)
    (rest : WritesMessages actions) : WritesMessages (.other effect :: actions) where
  disciplined := rest.disciplined
  messages := rest.messages

theorem WritesMessages.append {first second : List GatewayAction}
    (firstWrites : WritesMessages first) (secondWrites : WritesMessages second) :
    WritesMessages (first ++ second) where
  disciplined := firstWrites.disciplined.append secondWrites.disciplined
  messages := by
    intro bytes bytesMem
    rw [writes_append, List.mem_append] at bytesMem
    rcases bytesMem with firstMem | secondMem
    · exact firstWrites.messages bytes firstMem
    · exact secondWrites.messages bytes secondMem

theorem WritesMessages.writeLocked {bytes : List UInt8} (message : IsMessage bytes) :
    WritesMessages (writeLocked bytes) where
  disciplined := disciplined_writeLocked bytes
  messages := by
    intro written writtenMem
    rw [writes_writeLocked, List.mem_singleton] at writtenMem
    rwa [writtenMem]

theorem writesMessages_endSession : WritesMessages [.other .endSession] :=
  .other _ .nil

theorem isMessage_forwardedMessage {udsResponse : List UInt8}
    (fits : udsResponse.length ≤ 4095) : IsMessage (forwardedMessage udsResponse) := by
  have atMost := length_finalUdsPayload_le udsResponse
  apply isMessage_diagnosticMessage
  omega

theorem forwardResponse_writesMessages (input : ForwarderInput) {udsResponse : List UInt8}
    (fits : udsResponse.length ≤ 4095) :
    WritesMessages (forwardResponse input udsResponse).2 := by
  rw [forwardResponse]
  split
  · exact .nil
  · split
    · exact .nil
    · split
      · exact .writeLocked (isMessage_forwardedMessage fits)
      · refine ⟨?_, ?_⟩
        · simp [Disciplined]
        · simp

def ForwarderPc.Bounded : ForwarderPc → Prop
  | .reassembling frame => (Reassembly.reading frame).Bounded
  | _ => True

theorem forwardResponse_pc_bounded (input : ForwarderInput) (udsResponse : List UInt8) :
    (forwardResponse input udsResponse).1.Bounded := by
  rw [forwardResponse]
  split
  · trivial
  · split
    · trivial
    · split <;> trivial

theorem continueReassembly_writesMessages (input : ForwarderInput) {reassembly : Reassembly}
    (bounded : reassembly.Bounded) :
    (continueReassembly input reassembly).1.Bounded ∧
      WritesMessages (continueReassembly input reassembly).2 := by
  cases reassembly with
  | reading frame => exact ⟨bounded, .nil⟩
  | returned response =>
      exact ⟨forwardResponse_pc_bounded input response,
        forwardResponse_writesMessages input bounded⟩
  | outOfBounds => exact ⟨trivial, .nil⟩

theorem forwarderLoopHead_bounded (sessionActive : Bool) :
    (forwarderLoopHead sessionActive).Bounded := by
  cases sessionActive <;> trivial

theorem dispatchFrame_writesMessages (input : ForwarderInput) (rxFrame : ReceivedFrame) :
    (dispatchFrame input rxFrame).1.Bounded ∧ WritesMessages (dispatchFrame input rxFrame).2 := by
  rcases dispatchFrame_cases input rxFrame with stepEq | ⟨_, stepEq⟩ | ⟨response, handled, stepEq⟩ |
    stepEq | stepEq
  · rw [stepEq]
    exact ⟨trivial, .nil⟩
  · rw [stepEq]
    exact ⟨forwarderLoopHead_bounded _, .other _ .nil⟩
  · rw [stepEq]
    refine ⟨forwardResponse_pc_bounded input response, ?_⟩
    apply forwardResponse_writesMessages
    exact length_isotpHandleSingleFrame handled
  · have continued := continueReassembly_writesMessages input
      (MultiFrame.start_bounded rxFrame.toCanFrame)
    rw [stepEq]
    exact ⟨continued.1, .other _ continued.2⟩
  · rw [stepEq]
    exact ⟨forwarderLoopHead_bounded _, .nil⟩

/-- One step of the forwarder: its buffer stays bounded and what it writes are messages. -/
theorem forwarderStep_writesMessages {pc : ForwarderPc} (bounded : pc.Bounded)
    (input : ForwarderInput) :
    (forwarderStep pc input).1.Bounded ∧ WritesMessages (forwarderStep pc input).2 := by
  cases pc with
  | dispatch =>
      simp only [forwarderStep]
      split
      · exact ⟨forwarderLoopHead_bounded _, .nil⟩
      · apply dispatchFrame_writesMessages
  | reassembling frame =>
      apply continueReassembly_writesMessages
      exact MultiFrame.onRead_bounded input.read bounded
  | stopped => exact ⟨trivial, .nil⟩
  | outOfBounds => exact ⟨trivial, .nil⟩

theorem sessionLoopHead_writesMessages (sessionActive : Bool) {actions : List GatewayAction}
    (actionsWrite : WritesMessages actions) :
    WritesMessages (sessionLoopHead sessionActive actions).2 := by
  cases sessionActive with
  | true => exact actionsWrite
  | false => exact actionsWrite.append writesMessages_endSession

theorem handleMessage_writesMessages (sessionActive : Bool) (message : DoIPMessage) :
    WritesMessages (handleMessage sessionActive message).2 := by
  rw [handleMessage]
  split
  · apply sessionLoopHead_writesMessages
    exact .writeLocked isMessage_routingActivationResponse
  · split
    · exact sessionLoopHead_writesMessages _ .nil
    · split
      · exact .writeLocked isMessage_positiveAck
      · apply sessionLoopHead_writesMessages
        apply WritesMessages.append
        · exact .writeLocked isMessage_positiveAck
        · exact .other _ .nil

theorem sessionStep_writesMessages (pc : SessionPc) (input : SessionInput) :
    WritesMessages (sessionStep pc input).2 := by
  rcases sessionStep_cases pc input with emits | emits | ⟨message, emits⟩
  · rw [emits]
    exact .nil
  · rw [emits]
    exact writesMessages_endSession
  · rw [emits]
    apply WritesMessages.other
    apply handleMessage_writesMessages

/-! ## One response for each request -/

def recognised? : GatewayAction → Option DoIPMessage
  | .other (.recognised message) => some message
  | _ => none

/-- The messages which a list of actions reports as recognised. -/
def recognisedMessages (actions : List GatewayAction) : List DoIPMessage :=
  actions.filterMap recognised?

/-- The messages with which the session thread answers a message of the tester. -/
def answers (message : DoIPMessage) : List (List UInt8) :=
  if message.payloadType = routingActivationRequestType then [routingActivationResponse]
  else if message.payloadType = diagnosticMessageType then [positiveAck]
  else []

theorem handleMessage_answers (sessionActive : Bool) (message : DoIPMessage) :
    writes (handleMessage sessionActive message).2 = answers message ∧
      recognisedMessages (handleMessage sessionActive message).2 = [] := by
  rw [handleMessage, answers]
  by_cases activation : message.payloadType = routingActivationRequestType
  · rw [if_pos activation, if_pos activation]
    cases sessionActive <;> exact ⟨rfl, rfl⟩
  · rw [if_neg activation, if_neg activation]
    by_cases diagnostic : message.payloadType = diagnosticMessageType
    · rw [if_neg (by simpa using diagnostic), if_pos diagnostic]
      split
      · exact ⟨rfl, rfl⟩
      · cases sessionActive <;> exact ⟨rfl, rfl⟩
    · rw [if_pos diagnostic, if_neg diagnostic]
      cases sessionActive <;> exact ⟨rfl, rfl⟩

/-- One step of the session thread writes the answers to what it recognises. -/
theorem sessionStep_answers (pc : SessionPc) (input : SessionInput) :
    writes (sessionStep pc input).2 =
      (recognisedMessages (sessionStep pc input).2).flatMap answers := by
  rcases sessionStep_cases pc input with emits | emits | ⟨message, emits⟩
  · rw [emits]
    rfl
  · rw [emits]
    rfl
  · have handled := handleMessage_answers input.sessionActive message
    rw [emits]
    change writes (handleMessage input.sessionActive message).2 =
      (message :: recognisedMessages (handleMessage input.sessionActive message).2).flatMap answers
    rw [handled.1, handled.2]
    simp

end Synapse
