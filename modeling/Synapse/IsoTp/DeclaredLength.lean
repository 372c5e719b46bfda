import Synapse.IsoTp.RoundTrip
import Synapse.IsoTp.FailedWrites

/-!
# The declared length of a message

The frame which starts a message tells the receiver how long the message is, in
four bits for a Single Frame and in twelve bits for a First Frame. The length of
a request comes from a 32-bit field of the tester. This file determines for
which request lengths every receiver is told the real length.
-/

namespace Synapse

/-- The message length which a frame declares, if it is a Single Frame with an admissible
length or a First Frame. -/
def declaredLength (frame : CanFrame) : Option ℕ :=
  if frame.pciType = 0 then
    if frame.data[0]! &&& 0x0F = 0 ∨ frame.data[0]! &&& 0x0F > 7 then none
    else some (frame.data[0]! &&& 0x0F).toNat
  else if frame.pciType = 1 then some (MultiFrame.announcedSize frame).toNat
  else none

/-- A sending function fails without having put a frame on the bus. -/
def Silent (outcome : SendOutcome) : Prop :=
  outcome.ok = false ∧ writtenFrames outcome.events = []

/-- The first frame which a sending call puts on the bus declares the length of the data, or the
call fails without having put one there; and no frame on the bus declares another length. -/
structure DeclaresLength (data : List UInt8) (outcome : SendOutcome) : Prop where
  starts : (∃ frame, (writtenFrames outcome.events).head? = some frame ∧
      declaredLength frame = some data.length) ∨
    Silent outcome
  truthful : ∀ frame ∈ writtenFrames outcome.events, ∀ length,
    declaredLength frame = some length → length = data.length

section Lengths

variable {env : SendEnv} {canId : UInt32} {data : List UInt8}

theorem data_zero_overwrite (array : Vector UInt8 8) (byte : UInt8) (control bytes : List UInt8) :
    (overwrite array (byte :: control ++ bytes))[0]! = byte := by
  rw [getElem!_overwrite array _ (by decide)]
  rfl

theorem data_one_overwrite (array : Vector UInt8 8) (byte second : UInt8) (bytes : List UInt8) :
    (overwrite array ([byte, second] ++ bytes))[1]! = second := by
  rw [getElem!_overwrite array _ (by decide)]
  rfl

theorem declaredLength_singleFrame (short : data.length ≤ 7) :
    declaredLength (singleFrame env canId data) =
      if data.length = 0 then none else some data.length := by
  have pciEq : (singleFrame env canId data).data[0]!.toNat = data.length := by
    rw [singleFrame, data_zero_overwrite, UInt8.toNat_or, UInt8.toNat_ofNat']
    simp
    omega
  have lenEq : ((singleFrame env canId data).data[0]! &&& 0x0F).toNat = data.length := by
    rw [Bytes.toNat_and_lowMask, pciEq]
    omega
  have kind : (singleFrame env canId data).pciType = 0 := by
    rw [CanFrame.pciType_eq_iff, pciEq]
    simp only [UInt8.reduceToNat]
    omega
  have guard : ((singleFrame env canId data).data[0]! &&& 0x0F = 0 ∨
      (singleFrame env canId data).data[0]! &&& 0x0F > 7) ↔ data.length = 0 := by
    rw [← not_iff_not, singleFrameLength_admissible_iff, lenEq]
    omega
  simp only [declaredLength, if_pos kind, guard, lenEq]

/-- A First Frame declares the length of its data modulo 4096. -/
theorem declaredLength_firstFrame :
    declaredLength (firstFrame env canId data) = some (data.length % 4096) := by
  have highEq : (firstFrame env canId data).data[0]!.toNat = 0x10 + data.length / 256 % 16 := by
    rw [firstFrame, data_zero_overwrite, toNat_firstFrameHigh]
  have lowEq : (firstFrame env canId data).data[1]!.toNat = data.length % 256 := by
    rw [firstFrame, data_one_overwrite, toNat_firstFrameLow]
  have notSingle : (firstFrame env canId data).pciType ≠ 0 := by
    rw [Ne, CanFrame.pciType_eq_iff, highEq]
    simp only [UInt8.reduceToNat]
    omega
  have kind : (firstFrame env canId data).pciType = 1 := by
    rw [CanFrame.pciType_eq_iff, highEq]
    simp only [UInt8.reduceToNat]
    omega
  rw [declaredLength, if_neg notSingle, if_pos kind, MultiFrame.announcedSize,
    Bytes.toNat_twelveBits, highEq, lowEq, Option.some.injEq]
  omega

theorem declaredLength_consecutiveFrame (progress : Progress) :
    declaredLength (consecutiveFrame env canId data progress) = none := by
  have pciEq : (consecutiveFrame env canId data progress).data[0]!.toNat =
      0x20 + progress.seqNum.toNat % 16 := by
    rw [consecutiveFrame, data_zero_overwrite, UInt8.toNat_or, Bytes.toNat_and_lowMask]
    apply Bytes.or_eq_add_of_lt
    · rfl
    · exact Nat.mod_lt _ (by omega)
  have notSingle : (consecutiveFrame env canId data progress).pciType ≠ 0 := by
    rw [Ne, CanFrame.pciType_eq_iff, pciEq]
    simp only [UInt8.reduceToNat]
    omega
  have notFirst : (consecutiveFrame env canId data progress).pciType ≠ 1 := by
    rw [Ne, CanFrame.pciType_eq_iff, pciEq]
    simp only [UInt8.reduceToNat]
    omega
  rw [declaredLength, if_neg notSingle, if_neg notFirst]

/-! ## Which frames a sending call can write -/

theorem mem_attemptedFrames_of_mem_writtenFrames {events : List SendEvent} {frame : CanFrame}
    (written : frame ∈ writtenFrames events) : frame ∈ attemptedFrames events := by
  rcases List.mem_filterMap.mp written with ⟨event, eventMem, eventEq⟩
  refine List.mem_filterMap.mpr ⟨event, eventMem, ?_⟩
  cases event with
  | canWrite sent accepted =>
      simp only [SendEvent.written?] at eventEq
      split at eventEq
      · exact eventEq
      · simp at eventEq
  | sleep microseconds => simp [SendEvent.written?] at eventEq

theorem sendBlock_attempts {stminUs frames : ℕ} {progress : Progress} {frame : CanFrame}
    (attempt : frame ∈ attemptedFrames
      (sendBlock env canId data stminUs frames progress).events) :
    ∃ offset, frame = consecutiveFrame env canId data offset := by
  induction frames generalizing progress with
  | zero => simp [sendBlock] at attempt
  | succ frames ih =>
      simp only [sendBlock] at attempt
      split at attempt
      · split at attempt
        · rw [attemptedFrames_canWrite, attemptedFrames_append,
            (frames_pause _ stminUs).1, List.nil_append, List.mem_cons] at attempt
          rcases attempt with now | later
          · exact ⟨progress, now⟩
          · exact ih later
        · simp only [attemptedFrames_canWrite, attemptedFrames_nil, List.mem_singleton] at attempt
          exact ⟨progress, attempt⟩
      · simp at attempt

theorem isotpSendConsecutiveFrames_attempts {progress : Progress}
    {queued : Option (List UInt8)} {frame : CanFrame}
    (attempt : frame ∈ attemptedFrames
      (isotpSendConsecutiveFrames env canId data progress queued).events) :
    ∃ offset, frame = consecutiveFrame env canId data offset := by
  simp only [isotpSendConsecutiveFrames] at attempt
  split at attempt
  · simp at attempt
  · split at attempt
    · simp at attempt
    · split at attempt
      · simp at attempt
      · exact sendBlock_attempts attempt

theorem sendLoop_attempts {script : List (Option (List UInt8))} {progress : Progress}
    {frame : CanFrame}
    (attempt : frame ∈ attemptedFrames (sendLoop env canId data progress script).events) :
    ∃ offset, frame = consecutiveFrame env canId data offset := by
  induction script generalizing progress with
  | nil => simp [sendLoop] at attempt
  | cons queued script ih =>
      simp only [sendLoop] at attempt
      split at attempt
      · split at attempt
        · rw [attemptedFrames_append, List.mem_append] at attempt
          rcases attempt with now | later
          · exact isotpSendConsecutiveFrames_attempts now
          · exact ih later
        · exact isotpSendConsecutiveFrames_attempts attempt
      · simp at attempt

/-- The first frame of the message is the first one on the bus, if its write is accepted. -/
theorem head_writtenFrames (accepted : env.accepts 0 = true)
    (script : List (Option (List UInt8))) :
    (writtenFrames (isotpSend env canId data script).events).head? =
      some (if data.length ≤ 7 then singleFrame env canId data
        else firstFrame env canId data) := by
  by_cases short : data.length ≤ 7
  · simp [isotpSend, short, isotpSendSingleFrame, accepted]
  · simp [isotpSend, short, isotpSendMultiFrame, isotpSendFirstFrame, accepted]

/-- When the write of the first frame is rejected, only Consecutive Frames get onto the bus, and
they declare nothing. -/
theorem declaredLength_of_rejected (rejected : env.accepts 0 = false)
    {script : List (Option (List UInt8))} {frame : CanFrame}
    (written : frame ∈ writtenFrames (isotpSend env canId data script).events) :
    declaredLength frame = none := by
  by_cases short : data.length ≤ 7
  · simp [isotpSend, short, isotpSendSingleFrame, rejected] at written
  · simp only [isotpSend, if_neg short, isotpSendMultiFrame, isotpSendFirstFrame, rejected,
      writtenFrames_rejected] at written
    rcases sendLoop_attempts (mem_attemptedFrames_of_mem_writtenFrames written) with
      ⟨offset, rfl⟩
    exact declaredLength_consecutiveFrame offset

theorem declares_of_mem {script : List (Option (List UInt8))} {frame : CanFrame} {length : ℕ}
    (attempt : frame ∈ attemptedFrames (isotpSend env canId data script).events)
    (declares : declaredLength frame = some length) :
    declaredLength (if data.length ≤ 7 then singleFrame env canId data
      else firstFrame env canId data) = some length := by
  by_cases short : data.length ≤ 7
  · simp only [isotpSend, if_pos short, isotpSendSingleFrame, attemptedFrames_canWrite,
      attemptedFrames_nil, List.mem_singleton] at attempt
    rw [if_pos short, ← attempt, declares]
  · simp only [isotpSend, if_neg short, isotpSendMultiFrame, isotpSendFirstFrame,
      attemptedFrames_canWrite, List.mem_cons] at attempt
    rw [if_neg short]
    rcases attempt with first | later
    · rw [← first, declares]
    · rcases sendLoop_attempts later with ⟨offset, rfl⟩
      rw [declaredLength_consecutiveFrame] at declares
      simp at declares

/-! ## Calls which put no frame on the bus -/

/-- The flow control, its absence or the next write ends a message of several frames before its
first Consecutive Frame is on the bus. -/
def StopsBeforeData (env : SendEnv) : List (Option (List UInt8)) → Prop
  | [] => True
  | queued :: script =>
      match waitForFlowControl queued with
      | none => True
      | some fcFrame =>
          if fcFrame[0]! &&& 0x0F = 1 then StopsBeforeData env script
          else if fcFrame[0]! &&& 0x0F > 1 then True
          else env.accepts 6 = false

/-- A block starts with the frame for the present offset, accepted or not. -/
theorem silent_sendBlock (env : SendEnv) (canId : UInt32) (stminUs : ℕ) {frames : ℕ}
    {progress : Progress} (framesPos : 0 < frames)
    (unfinished : progress.bytesSent < data.length) :
    if env.accepts progress.bytesSent then
      writtenFrames (sendBlock env canId data stminUs frames progress).events ≠ []
    else Silent (sendBlock env canId data stminUs frames progress).toSendOutcome := by
  rcases Nat.exists_eq_succ_of_ne_zero (Nat.ne_of_gt framesPos) with ⟨later, rfl⟩
  cases accepted : env.accepts progress.bytesSent with
  | true => simp [sendBlock, unfinished, accepted]
  | false => simp [sendBlock, unfinished, accepted, Silent]

/-- The loop is silent exactly if its first block writes nothing and fails or is followed by a
silent rest. -/
theorem silent_sendLoop_cons {queued : Option (List UInt8)} {script : List (Option (List UInt8))}
    {progress : Progress} {block : SendResult} (unfinished : progress.bytesSent < data.length)
    (blockEq : isotpSendConsecutiveFrames env canId data progress queued = block) :
    Silent (sendLoop env canId data progress (queued :: script)).toSendOutcome ↔
      writtenFrames block.events = [] ∧ (block.ok = true →
        Silent (sendLoop env canId data block.progress script).toSendOutcome) := by
  cases blockOk : block.ok with
  | true =>
      simp only [sendLoop, unfinished, blockEq, blockOk, if_true, Silent, writtenFrames_append,
        List.append_eq_nil_iff]
      tauto
  | false => simp [sendLoop, unfinished, blockEq, blockOk, Silent]

/-- The loop fails without a frame on the bus exactly if something stops it before the data. -/
theorem silent_sendLoop_iff (env : SendEnv) (canId : UInt32)
    (script : List (Option (List UInt8))) {progress : Progress}
    (offset : progress.bytesSent = 6) (unfinished : 6 < data.length) :
    Silent (sendLoop env canId data progress script).toSendOutcome ↔
      StopsBeforeData env script := by
  induction script with
  | nil => simp [sendLoop, StopsBeforeData, Silent, offset, unfinished]
  | cons queued script ih =>
      have unfinishedHere : progress.bytesSent < data.length := by omega
      rw [StopsBeforeData]
      cases received : waitForFlowControl queued with
      | none =>
          have blockEq : isotpSendConsecutiveFrames env canId data progress queued =
              ⟨⟨false, []⟩, progress⟩ := by
            rw [isotpSendConsecutiveFrames, received]
          simp [silent_sendLoop_cons unfinishedHere blockEq]
      | some fcFrame =>
          by_cases wait : fcFrame[0]! &&& 0x0F = 1
          · have blockEq : isotpSendConsecutiveFrames env canId data progress queued =
                ⟨⟨true, [.sleep 100000]⟩, progress⟩ := by
              rw [isotpSendConsecutiveFrames, received]
              exact if_pos wait
            simp only [wait, if_true]
            simpa [silent_sendLoop_cons unfinishedHere blockEq] using ih
          · by_cases abort : fcFrame[0]! &&& 0x0F > 1
            · have blockEq : isotpSendConsecutiveFrames env canId data progress queued =
                  ⟨⟨false, []⟩, progress⟩ := by
                simp only [isotpSendConsecutiveFrames, received, wait, abort, if_false, if_true]
              simp only [wait, abort, if_false, if_true]
              simp [silent_sendLoop_cons unfinishedHere blockEq]
            · have blockEq : isotpSendConsecutiveFrames env canId data progress queued =
                  sendBlock env canId data (stminMicroseconds fcFrame[2]!)
                    (framesToSendInBlock fcFrame[1]!) progress := by
                simp only [isotpSendConsecutiveFrames, received, wait, abort, if_false]
              have block := silent_sendBlock env canId (stminMicroseconds fcFrame[2]!)
                (framesToSendInBlock_pos fcFrame[1]!) unfinishedHere
              simp only [wait, abort, if_false]
              rw [silent_sendLoop_cons unfinishedHere blockEq]
              rw [offset] at block
              generalize sendBlock env canId data (stminMicroseconds fcFrame[2]!)
                (framesToSendInBlock fcFrame[1]!) progress = sent at block ⊢
              cases accepted : env.accepts 6 with
              | true =>
                  rw [if_pos accepted] at block
                  simp [block]
              | false =>
                  rw [if_neg (by simp [accepted])] at block
                  simp [block.1, block.2]

/-- The call fails without a frame on the bus exactly if its first write is rejected and nothing
follows. -/
theorem silent_isotpSend_iff {script : List (Option (List UInt8))} :
    Silent (isotpSend env canId data script) ↔
      env.accepts 0 = false ∧ (data.length ≤ 7 ∨ StopsBeforeData env script) := by
  cases accepted : env.accepts 0 with
  | true =>
      by_cases short : data.length ≤ 7
      · simp [isotpSend, short, isotpSendSingleFrame, accepted, Silent]
      · simp [isotpSend, short, isotpSendMultiFrame, isotpSendFirstFrame, accepted, Silent]
  | false =>
      by_cases short : data.length ≤ 7
      · simp [isotpSend, short, isotpSendSingleFrame, accepted, Silent]
      · have offset : progressAfterFirstFrame.bytesSent = 6 := rfl
        have loop := silent_sendLoop_iff env canId script offset
          (show 6 < data.length by omega)
        simpa [isotpSend, short, isotpSendMultiFrame, isotpSendFirstFrame, accepted, Silent]
          using loop

/-! ## The lengths told to the receivers -/

theorem declares_iff :
    declaredLength (if data.length ≤ 7 then singleFrame env canId data
      else firstFrame env canId data) = some data.length ↔
        1 ≤ data.length ∧ data.length ≤ 4095 := by
  split
  next short =>
    rw [declaredLength_singleFrame short]
    split
    · simp
      omega
    · simp
      omega
  next =>
    rw [declaredLength_firstFrame, Option.some.injEq]
    omega

theorem starts_iff {script : List (Option (List UInt8))} :
    ((∃ frame, (writtenFrames (isotpSend env canId data script).events).head? = some frame ∧
        declaredLength frame = some data.length) ∨
      Silent (isotpSend env canId data script)) ↔
      (env.accepts 0 = true ∧ 1 ≤ data.length ∧ data.length ≤ 4095) ∨
        (env.accepts 0 = false ∧ (data.length ≤ 7 ∨ StopsBeforeData env script)) := by
  rw [silent_isotpSend_iff]
  cases accepted : env.accepts 0 with
  | true =>
      simp only [head_writtenFrames accepted, Option.some.injEq, exists_eq_left', declares_iff,
        true_and, Bool.true_eq_false, false_and]
  | false =>
      have silent : ¬∃ frame,
          (writtenFrames (isotpSend env canId data script).events).head? = some frame ∧
            declaredLength frame = some data.length := by
        rintro ⟨frame, first, declares⟩
        rw [declaredLength_of_rejected accepted (List.mem_of_head? first)] at declares
        simp at declares
      simp only [silent, true_and, Bool.false_eq_true, false_and, false_or]

/-- Every receiver is told the real length exactly for the requests of one to 4095 bytes whose first
frame is accepted; when it is rejected, exactly if no other frame gets onto the bus either. -/
theorem declaresLength_iff (env : SendEnv) (canId : UInt32) (data : List UInt8)
    (script : List (Option (List UInt8))) :
    DeclaresLength data (isotpSend env canId data script) ↔
      (env.accepts 0 = true ∧ 1 ≤ data.length ∧ data.length ≤ 4095) ∨
        (env.accepts 0 = false ∧ (data.length ≤ 7 ∨ StopsBeforeData env script)) := by
  constructor
  · intro declares
    exact starts_iff.mp declares.starts
  · intro condition
    refine ⟨starts_iff.mpr condition, ?_⟩
    intro frame written length lengthEq
    rcases condition with ⟨_, admissible⟩ | ⟨rejected, _⟩
    · have told := declares_of_mem (mem_attemptedFrames_of_mem_writtenFrames written) lengthEq
      rw [declares_iff.mpr admissible, Option.some.injEq] at told
      exact told.symm
    · rw [declaredLength_of_rejected rejected written] at lengthEq
      simp at lengthEq

/-- A request of 4096 bytes is announced as one of length zero, an empty request is sent as a Single
Frame whose length no receiver accepts, and of a request whose First Frame is rejected only the
Consecutive Frame gets onto the bus, with success reported. -/
theorem not_declaresLength_4096_empty_and_rejected :
    ¬DeclaresLength (List.replicate 4096 0x3E)
        (isotpSend acceptingEnv 0x7E0 (List.replicate 4096 0x3E) []) ∧
      ¬DeclaresLength [] (isotpSend acceptingEnv 0x7E0 [] []) ∧
      (isotpSend rejectsFirstFrame 0x7E0 eightByteRequest [some [0x30, 0x00, 0x00]]).ok = true ∧
      ¬DeclaresLength eightByteRequest
        (isotpSend rejectsFirstFrame 0x7E0 eightByteRequest [some [0x30, 0x00, 0x00]]) := by
  refine ⟨?_, ?_, by decide, ?_⟩
  · intro declares
    rcases starts_iff.mp declares.starts with ⟨_, _, fits⟩ | ⟨rejected, _⟩
    · rw [List.length_replicate] at fits
      omega
    · simp [acceptingEnv] at rejected
  · intro declares
    rcases starts_iff.mp declares.starts with ⟨_, nonempty, _⟩ | ⟨rejected, _⟩
    · rw [List.length_nil] at nonempty
      omega
    · simp [acceptingEnv] at rejected
  · intro declares
    rcases starts_iff.mp declares.starts with ⟨accepted, _⟩ | ⟨_, short | stops⟩
    · simp [rejectsFirstFrame] at accepted
    · simp [eightByteRequest] at short
    · have granted : waitForFlowControl (some [0x30, 0x00, 0x00]) =
          some #v[0x30, 0, 0, 0, 0, 0, 0, 0] := by
        decide
      simp [StopsBeforeData, granted, rejectsFirstFrame] at stops
      exact absurd stops (by decide)

end Lengths

end Synapse
