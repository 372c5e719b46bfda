import Synapse.Gateway.Settled

/-!
# Delivery of responses

This file follows responses of the controller through the forwarder. A bus which
keeps its messages whole is a list of items, and the forwarder acts on each
of them separately and comes back to its own loop. A message which starts
while a reassembly is still going on is lost. A message which is delivered
reaches the tester unchanged or behind the prefix byte.
-/

namespace Synapse

/-- What a bus without broken messages brings. -/
inductive BusItem where
  | response (message : List UInt8) (frames : List ReceivedFrame)
      (segmentation : Segmentation message frames)
  | timeout
  | flowControl (frame : ReceivedFrame) (kind : frame.pciType = 3)
  | stray (frame : ReceivedFrame) (kind : frame.pciType = 2 ∨ 4 ≤ frame.pciType)

namespace BusItem

def reads : BusItem → List CanRead
  | response _ frames _ => frames.map .frame
  | timeout => [.failed]
  | flowControl frame _ => [.frame frame]
  | stray frame _ => [.frame frame]

/-- What the forwarder is to do about an item. -/
def actions : BusItem → List GatewayAction
  | response message _ _ => messageActions message
  | timeout => []
  | flowControl frame _ => [.other (.pushFlowControl (frame.dataBytes 0))]
  | stray _ _ => []

end BusItem

theorem pciType_of_consecutiveFrames {seqNum : ℕ} {rest : List UInt8}
    {frames : List ReceivedFrame} (sent : ConsecutiveFrames seqNum rest frames)
    (seqLt : seqNum < 16) : ∀ frame ∈ frames, frame.pciType = 2 := by
  induction sent with
  | done => simp
  | @next seqNum rest pci frame frames _ pciEq carries _ ih =>
      intro received receivedMem
      rcases List.mem_cons.mp receivedMem with rfl | laterMem
      · rw [CanFrame.pciType_eq_iff, carries.data_zero]
        simp only [UInt8.reduceToNat]
        omega
      · apply ih
        · exact Nat.mod_lt _ (by omega)
        · exact laterMem

/-- Only the first frame of a message is not a Consecutive Frame. -/
theorem pciType_of_segmentation {message : List UInt8} {frames : List ReceivedFrame}
    (segmentation : Segmentation message frames) :
    ∃ head tail, frames = head :: tail ∧
      head.pciType = (if message.length ≤ 7 then 0 else 1) ∧
      ∀ frame ∈ tail, frame.pciType = 2 := by
  cases segmentation with
  | @single pci frame nonempty short pciEq carries =>
      refine ⟨frame, [], rfl, ?_, by simp⟩
      rw [if_pos short, pciType_of_single short pciEq carries]
  | @multi high low firstFrame frames long fits highEq lowEq carries later =>
      refine ⟨firstFrame, frames, rfl, ?_, pciType_of_consecutiveFrames later (by omega)⟩
      rw [if_neg (by omega), pciType_of_multi fits highEq carries]

/-- The message written for a response is a diagnostic message which carries the payload. -/
theorem exists_forwardedMessage {udsResponse : List UInt8} (fits : udsResponse.length ≤ 4095) :
    ∃ message : DoIPMessage, message.bytes = forwardedMessage udsResponse ∧
      message.payloadType = diagnosticMessageType ∧
      message.udsData = finalUdsPayload udsResponse := by
  have atMost := length_finalUdsPayload_le udsResponse
  apply exists_diagnosticMessage
  omega

/-- What the tester is to receive for a response: one diagnostic message with the response, behind
the prefix byte exactly when its first byte is no response service identifier. -/
def DeliveredAs (response : List UInt8) (message : DoIPMessage) : Prop :=
  message.payloadType = diagnosticMessageType ∧
    ∃ firstByte rest, response = firstByte :: rest ∧
      message.udsData = if 0x40 ≤ firstByte ∧ firstByte ≤ 0x7F then response else 0x62 :: response

theorem exists_deliveredAs {message : List UInt8} {frames : List ReceivedFrame}
    (segmentation : Segmentation message frames) :
    ∃ delivered, DeliveredAs message delivered ∧ delivered.bytes = forwardedMessage message := by
  rcases exists_forwardedMessage segmentation.length_le with
    ⟨delivered, bytesEq, typeEq, dataEq⟩
  refine ⟨delivered, ⟨typeEq, ?_⟩, bytesEq⟩
  rcases List.exists_cons_of_ne_nil segmentation.nonempty with ⟨firstByte, rest, rfl⟩
  exact ⟨firstByte, rest, rfl, dataEq⟩

/-! ## Whole messages -/

theorem onRead_of_pciType {frame : MultiFrame} {cfFrame : ReceivedFrame}
    (other : cfFrame.pciType ≠ 2) : frame.onRead (.frame cfFrame) = .returned [] := by
  have highNe : cfFrame.data[0]! &&& 0xF0 ≠ 0x20 := by
    intro highEq
    have kind := Bytes.toNat_and_highMask cfFrame.data[0]!
    rw [highEq] at kind
    apply other
    rw [CanFrame.pciType_eq_iff]
    simp only [UInt8.reduceToNat] at kind ⊢
    omega
  rw [MultiFrame.onRead, if_pos (Or.inl highNe)]

theorem step_reassembling_of_pciType (frame : MultiFrame) {cfFrame : ReceivedFrame}
    (other : cfFrame.pciType ≠ 2) :
    canToDoipForwarder.step (.reassembling frame) (liveFrame cfFrame) = (.dispatch, []) := by
  change continueReassembly (liveFrame cfFrame) (frame.onRead (.frame cfFrame)) = _
  rw [onRead_of_pciType other]
  rfl

theorem run_strays {frames : List ReceivedFrame} (kind : ∀ frame ∈ frames, frame.pciType = 2) :
    canToDoipForwarder.stateAfter .dispatch (frames.map liveFrame) = .dispatch ∧
      canToDoipForwarder.output .dispatch (frames.map liveFrame) = [] := by
  apply canToDoipForwarder.run_of_absorbing
  intro input inputMem
  rcases List.mem_map.mp inputMem with ⟨frame, frameMem, rfl⟩
  apply dispatchFrame_of_stray
  exact Or.inl (kind frame frameMem)

/-- Outside the forwarder's own loop the frames of a whole message lead to no output. -/
theorem output_of_not_dispatch {message : List UInt8} {frames : List ReceivedFrame}
    (segmentation : Segmentation message frames) {pc : ForwarderPc} (busy : pc ≠ .dispatch) :
    canToDoipForwarder.output pc (frames.map liveFrame) = [] := by
  cases pc with
  | dispatch => exact absurd rfl busy
  | reassembling frame =>
      rcases pciType_of_segmentation segmentation with ⟨head, tail, rfl, headKind, tailKind⟩
      have headOther : head.pciType ≠ 2 := by
        rw [headKind]
        split <;> decide
      have stepEq := step_reassembling_of_pciType frame headOther
      rw [List.map_cons, (canToDoipForwarder.run_of_step stepEq _).2, (run_strays tailKind).2]
      rfl
  | stopped => exact (run_stopped _).2
  | outOfBounds => exact (run_outOfBounds _).2

/-- The frames of a whole message lead to its delivery exactly if the forwarder waits in its own
loop when they begin, whatever it has read before; `dispatch_iff_settled` says behind which frames
it does. -/
theorem delivered_iff_dispatch {message : List UInt8} {frames : List ReceivedFrame}
    (segmentation : Segmentation message frames) (before : List ForwarderInput) :
    (∃ delivered, DeliveredAs message delivered ∧
        LockedStream.writes (canToDoipForwarder.output
          (canToDoipForwarder.stateAfter .dispatch before) (frames.map liveFrame)) =
            [delivered.bytes]) ↔
      canToDoipForwarder.stateAfter .dispatch before = .dispatch := by
  constructor
  · rintro ⟨delivered, _, writesEq⟩
    by_contra busy
    rw [output_of_not_dispatch segmentation busy] at writesEq
    simp [LockedStream.writes] at writesEq
  · intro waiting
    rcases exists_deliveredAs segmentation with ⟨delivered, deliveredAs, bytesEq⟩
    refine ⟨delivered, deliveredAs, ?_⟩
    rw [waiting, (run_segmentation segmentation).2, bytesEq, messageActions,
      LockedStream.writes_append]
    split <;> rfl

def testerPresentFrame : ReceivedFrame :=
  .full #v[2, 0x7E, 0x00, 0, 0, 0, 0, 0]

theorem testerPresentFrame_segmentation : Segmentation [0x7E, 0x00] [testerPresentFrame] :=
  .single (by decide) (by decide) (show (2 : UInt8).toNat = 2 by rfl)
    ⟨by decide, [0, 0, 0, 0, 0], by decide⟩

/-- A response of 20 bytes which breaks off with a Consecutive Frame out of sequence. -/
def brokenResponse : List CanRead := [
  .frame (.full #v[0x10, 20, 0x62, 0xF1, 0x8C, 1, 2, 3]),
  .frame (.full #v[0x21, 4, 5, 6, 7, 8, 9, 10]),
  .frame (.full #v[0x23, 11, 12, 13, 14, 15, 16, 17])]

theorem brokenResponse_control : ∀ read ∈ brokenResponse, read.BringsControl := by
  simp [brokenResponse, CanRead.BringsControl, ReceivedFrame.full]

theorem brokenResponse_settled : Settled brokenResponse := by
  have reassembles : ReassemblyReads 1 14 brokenResponse.tail := by
    apply ReassemblyReads.next (by decide) (by decide)
    apply ReassemblyReads.broken (by decide)
    simp [CanRead.ContinuesReassembly, CanFrame.IsConsecutive, ReceivedFrame.full]
  exact @Settled.reassembly (.full #v[0x10, 20, 0x62, 0xF1, 0x8C, 1, 2, 3]) _ _ (by decide)
    reassembles .nil

/-- Behind the end of a broken response the next one is delivered. -/
theorem testerPresent_delivered :
    ∃ delivered, DeliveredAs [0x7E, 0x00] delivered ∧
      LockedStream.writes (canToDoipForwarder.output
        (canToDoipForwarder.stateAfter .dispatch (liveReads brokenResponse))
        ([testerPresentFrame].map liveFrame)) = [delivered.bytes] :=
  (delivered_iff_dispatch testerPresentFrame_segmentation _).mpr
    ((dispatch_iff_settled brokenResponse_control).mpr brokenResponse_settled)

/-- A response which breaks off behind its First Frame swallows the response behind it. -/
theorem testerPresent_swallowed :
    Segmentation [0x7E, 0x00] [testerPresentFrame] ∧
      LockedStream.writes (canToDoipForwarder.output
        (canToDoipForwarder.stateAfter .dispatch
          [liveFrame (.full #v[0x10, 20, 0x62, 0xF1, 0x90, 1, 2, 3])])
        ([testerPresentFrame].map liveFrame)) = [] :=
  ⟨testerPresentFrame_segmentation, by decide⟩

/-! ## Responses to known services -/

/-- An answer to the service `sid`: positive with the response service identifier or negative. -/
def AnswersService (sid : UInt8) (answer : List UInt8) : Prop :=
  answer.head? = some (sid + 0x40) ∨ answer.head? = some 0x7F

/-- The first byte of an answer to a request service passes the forwarder's range check exactly if
the service is below 0x80 or the answer is negative. -/
theorem passes_iff {sid firstByte : UInt8} (requestSid : sid &&& 0x40 = 0)
    (answers : firstByte = sid + 0x40 ∨ firstByte = 0x7F) :
    (0x40 ≤ firstByte ∧ firstByte ≤ 0x7F) ↔ sid < 0x80 ∨ firstByte = 0x7F := by
  have sidLt := sid.toNat_lt
  rw [Bytes.and_bitSix_eq_zero_iff] at requestSid
  rw [UInt8.le_iff_toNat_le, UInt8.le_iff_toNat_le, UInt8.lt_iff_toNat_lt, ← UInt8.toNat_inj]
  rcases answers with rfl | rfl
  · simp only [UInt8.toNat_add, UInt8.reduceToNat]
    omega
  · simp

/-- The answer to a request service reaches the tester byte for byte exactly if the service is
below 0x80 or the answer is negative. -/
theorem answer_transparent_iff {sid : UInt8} (requestSid : sid &&& 0x40 = 0)
    {answer : List UInt8} {frames : List ReceivedFrame} (answers : AnswersService sid answer)
    (segmentation : Segmentation answer frames) :
    (∃ delivered : DoIPMessage, delivered.payloadType = diagnosticMessageType ∧
        delivered.udsData = answer ∧
        LockedStream.writes (canToDoipForwarder.output .dispatch (frames.map liveFrame)) =
          [delivered.bytes]) ↔
      sid < 0x80 ∨ answer.head? = some 0x7F := by
  rcases exists_forwardedMessage segmentation.length_le with
    ⟨message, bytesEq, typeEq, dataEq⟩
  have writesEq : LockedStream.writes
      (canToDoipForwarder.output .dispatch (frames.map liveFrame)) = [message.bytes] := by
    rw [(run_segmentation segmentation).2, messageActions, LockedStream.writes_append, bytesEq]
    split <;> rfl
  rcases List.exists_cons_of_ne_nil segmentation.nonempty with ⟨firstByte, rest, rfl⟩
  have headEq : firstByte = sid + 0x40 ∨ firstByte = 0x7F := by
    simpa [AnswersService] using answers
  constructor
  · rintro ⟨delivered, _, deliveredData, deliveredWrites⟩
    rw [writesEq, List.cons.injEq] at deliveredWrites
    have same := Framing.Frame.bytes_injective deliveredWrites.1
    subst same
    rw [dataEq] at deliveredData
    rcases finalUdsPayload_cons firstByte rest with ⟨low, high, _⟩ | ⟨_, prefixed⟩
    · rw [List.head?_cons, Option.some.injEq]
      exact (passes_iff requestSid headEq).mp ⟨low, high⟩
    · rw [prefixed] at deliveredData
      have lengths := congrArg List.length deliveredData
      simp at lengths
  · intro known
    refine ⟨message, typeEq, ?_, writesEq⟩
    rcases finalUdsPayload_cons firstByte rest with ⟨_, _, same⟩ | ⟨outside, _⟩
    · rw [dataEq, same]
    · rw [List.head?_cons, Option.some.injEq] at known
      exact absurd ((passes_iff requestSid headEq).mpr known) outside

theorem testerPresent_transparent :
    ∃ delivered : DoIPMessage, delivered.payloadType = diagnosticMessageType ∧
      delivered.udsData = [0x7E, 0x00] ∧
      LockedStream.writes (canToDoipForwarder.output .dispatch
        ([testerPresentFrame].map liveFrame)) = [delivered.bytes] :=
  (answer_transparent_iff (show (0x3E : UInt8) &&& 0x40 = 0 by decide) (Or.inl rfl)
    testerPresentFrame_segmentation).mpr (Or.inl (by decide))

def controlDtcSettingFrame : ReceivedFrame :=
  .full #v[2, 0xC5, 0x02, 0, 0, 0, 0, 0]

/-- The positive response to service 0x85 reaches the tester as an answer to another service. -/
theorem controlDtcSetting_not_transparent :
    (0x85 : UInt8) &&& 0x40 = 0 ∧ AnswersService 0x85 [0xC5, 0x02] ∧
      Segmentation [0xC5, 0x02] [controlDtcSettingFrame] ∧
      LockedStream.writes (canToDoipForwarder.output .dispatch
        ([controlDtcSettingFrame].map liveFrame)) = [diagnosticMessage [0x62, 0xC5, 0x02]] ∧
      ¬∃ delivered : DoIPMessage, delivered.udsData = [0xC5, 0x02] ∧
        LockedStream.writes (canToDoipForwarder.output .dispatch
          ([controlDtcSettingFrame].map liveFrame)) = [delivered.bytes] := by
  have writesEq : LockedStream.writes (canToDoipForwarder.output .dispatch
      ([controlDtcSettingFrame].map liveFrame)) = [diagnosticMessage [0x62, 0xC5, 0x02]] := by
    decide
  refine ⟨by decide, Or.inl (by decide), .single (by decide) (by decide)
    (show (2 : UInt8).toNat = 2 by rfl) ⟨by decide, [0, 0, 0, 0, 0], by decide⟩, writesEq, ?_⟩
  rintro ⟨delivered, dataEq, deliveredWrites⟩
  have fits : 4 + [(0x62 : UInt8), 0xC5, 0x02].length < 2 ^ 32 := by decide
  rcases exists_diagnosticMessage fits with
    ⟨message, bytesEq, _, messageData⟩
  rw [writesEq, List.cons.injEq, ← bytesEq] at deliveredWrites
  have same := Framing.Frame.bytes_injective deliveredWrites.1
  rw [← same, messageData] at dataEq
  revert dataEq
  decide

end Synapse
