import Synapse.IsoTp.Segmentation
import Synapse.IsoTp.Send

/-!
# Transmission is a segmentation

The Consecutive Frames which a message needs from an offset on depend on the
message alone. This file shows that a successful `isotpSend` passes exactly these
frames to `write`, whatever flow-control frames paced it, and that they
are a segmentation of the message. With the receiver's inversion of segmentations
this gives the round trip.
-/

namespace Synapse

section Frames

variable (env : SendEnv) (canId : UInt32) (data : List UInt8)

/-- The Consecutive Frames which carry the data from the present offset to its end. -/
def consecutiveFrames (progress : Progress) : List CanFrame :=
  if progress.bytesSent < data.length then
    consecutiveFrame env canId data progress :: consecutiveFrames (progress.advance data)
  else []
termination_by data.length - progress.bytesSent
decreasing_by
  simp only [Progress.advance, bytesToSendInFrame]
  omega

def messageFrames : List CanFrame :=
  if data.length ≤ 7 then [singleFrame env canId data]
  else firstFrame env canId data :: consecutiveFrames env canId data progressAfterFirstFrame

end Frames

section Transmission

variable {env : SendEnv} {canId : UInt32} {data : List UInt8}

theorem consecutiveFrames_of_lt {progress : Progress}
    (unfinished : progress.bytesSent < data.length) :
    consecutiveFrames env canId data progress =
      consecutiveFrame env canId data progress ::
        consecutiveFrames env canId data (progress.advance data) := by
  rw [consecutiveFrames, if_pos unfinished]

theorem consecutiveFrames_of_le {progress : Progress}
    (finished : data.length ≤ progress.bytesSent) :
    consecutiveFrames env canId data progress = [] := by
  rw [consecutiveFrames, if_neg (Nat.not_lt.mpr finished)]

theorem frames_pause (more : Prop) [Decidable more] (stminUs : ℕ) :
    attemptedFrames (if more then [SendEvent.sleep stminUs] else []) = [] ∧
      writtenFrames (if more then [SendEvent.sleep stminUs] else []) = [] := by
  split <;> exact ⟨rfl, rfl⟩

/-- A block which succeeds writes the next frames of the message, and all are accepted. -/
theorem sendBlock_frames {stminUs frames : ℕ} {progress : Progress}
    (ok : (sendBlock env canId data stminUs frames progress).ok = true) :
    let block := sendBlock env canId data stminUs frames progress
    attemptedFrames block.events ++ consecutiveFrames env canId data block.progress =
        consecutiveFrames env canId data progress ∧
      writtenFrames block.events = attemptedFrames block.events := by
  induction frames generalizing progress with
  | zero => exact ⟨rfl, rfl⟩
  | succ frames ih =>
      simp only [sendBlock] at ok ⊢
      by_cases unfinished : progress.bytesSent < data.length
      · by_cases accepted : env.accepts progress.bytesSent = true
        · simp only [unfinished, accepted, if_true] at ok ⊢
          rcases ih ok with ⟨attempted, written⟩
          have noPause := frames_pause ((progress.advance data).bytesSent < data.length) stminUs
          constructor
          · rw [consecutiveFrames_of_lt unfinished, ← attempted, attemptedFrames_canWrite,
              attemptedFrames_append, noPause.1]
            rfl
          · rw [attemptedFrames_canWrite, writtenFrames_accepted, attemptedFrames_append,
              writtenFrames_append, noPause.1, noPause.2, written]
        · simp [unfinished, accepted] at ok
      · simp only [unfinished, if_false]
        exact ⟨rfl, rfl⟩

/-- Acting on one flow-control frame writes the next frames of the message or none. -/
theorem isotpSendConsecutiveFrames_frames {progress : Progress} {queued : Option (List UInt8)}
    (ok : (isotpSendConsecutiveFrames env canId data progress queued).ok = true) :
    let block := isotpSendConsecutiveFrames env canId data progress queued
    attemptedFrames block.events ++ consecutiveFrames env canId data block.progress =
        consecutiveFrames env canId data progress ∧
      writtenFrames block.events = attemptedFrames block.events := by
  simp only [isotpSendConsecutiveFrames] at ok ⊢
  split at ok
  next => simp at ok
  next fcFrame received =>
    by_cases wait : fcFrame[0]! &&& 0x0F = 1
    · simp only [wait, if_true]
      exact ⟨rfl, rfl⟩
    · by_cases abort : fcFrame[0]! &&& 0x0F > 1
      · rw [if_neg wait, if_pos abort] at ok
        contradiction
      · simp only [wait, abort, if_false] at ok ⊢
        exact sendBlock_frames ok

/-- A loop which succeeds writes all the remaining frames of the message. -/
theorem sendLoop_frames {script : List (Option (List UInt8))} {progress : Progress}
    (ok : (sendLoop env canId data progress script).ok = true) :
    attemptedFrames (sendLoop env canId data progress script).events =
        consecutiveFrames env canId data progress ∧
      writtenFrames (sendLoop env canId data progress script).events =
        attemptedFrames (sendLoop env canId data progress script).events := by
  induction script generalizing progress with
  | nil =>
      have finished : data.length ≤ progress.bytesSent := by simpa [sendLoop] using ok
      rw [consecutiveFrames_of_le finished]
      exact ⟨rfl, rfl⟩
  | cons queued script ih =>
      simp only [sendLoop] at ok ⊢
      by_cases unfinished : progress.bytesSent < data.length
      · by_cases blockOk :
            (isotpSendConsecutiveFrames env canId data progress queued).ok = true
        · simp only [unfinished, blockOk, if_true] at ok ⊢
          rcases isotpSendConsecutiveFrames_frames blockOk with ⟨attempted, written⟩
          rcases ih ok with ⟨laterAttempted, laterWritten⟩
          rw [attemptedFrames_append, writtenFrames_append, written, laterWritten,
            laterAttempted, attempted]
          exact ⟨rfl, rfl⟩
        · simp [unfinished, blockOk] at ok
      · simp only [unfinished, if_false]
        rw [consecutiveFrames_of_le (Nat.not_lt.mp unfinished)]
        exact ⟨rfl, rfl⟩

/-- A successful call passes exactly the frames of the message to `write`. -/
theorem isotpSend_attemptedFrames {script : List (Option (List UInt8))}
    (ok : (isotpSend env canId data script).ok = true) :
    attemptedFrames (isotpSend env canId data script).events = messageFrames env canId data := by
  by_cases short : data.length ≤ 7
  · simp only [isotpSend, messageFrames, if_pos short]
    rfl
  · simp only [isotpSend, messageFrames, if_neg short] at ok ⊢
    have later := (sendLoop_frames ok).1
    simp only [isotpSendMultiFrame, isotpSendFirstFrame]
    rw [← later]
    rfl

theorem isotpSend_writtenFrames {script : List (Option (List UInt8))}
    (accepts : ∀ offset, env.accepts offset = true)
    (ok : (isotpSend env canId data script).ok = true) :
    writtenFrames (isotpSend env canId data script).events = messageFrames env canId data := by
  rw [← isotpSend_attemptedFrames ok]
  by_cases short : data.length ≤ 7
  · simp [isotpSend, short, isotpSendSingleFrame, accepts]
  · simp only [isotpSend, if_neg short] at ok ⊢
    have later := (sendLoop_frames ok).2
    simp only [isotpSendMultiFrame, isotpSendFirstFrame, accepts, writtenFrames_accepted,
      attemptedFrames_canWrite, later]

/-! ## The frames of a message are a segmentation -/

theorem toNat_bytesToSendInFrame (progress : Progress) :
    (UInt8.ofNat (bytesToSendInFrame data progress + 1)).toNat =
      bytesToSendInFrame data progress + 1 := by
  rw [UInt8.toNat_ofNat']
  simp only [bytesToSendInFrame]
  omega

/-- The bytes in a Consecutive Frame are the next seven, or what is left. -/
theorem take_bytesToSendInFrame (progress : Progress) :
    (data.drop progress.bytesSent).take (bytesToSendInFrame data progress) =
      (data.drop progress.bytesSent).take 7 := by
  rw [List.take_eq_take_iff]
  simp only [bytesToSendInFrame, List.length_drop]
  omega

theorem drop_advance (progress : Progress) :
    data.drop (progress.advance data).bytesSent = (data.drop progress.bytesSent).drop 7 := by
  rw [List.drop_drop]
  simp only [Progress.advance, bytesToSendInFrame]
  by_cases full : 7 ≤ data.length - progress.bytesSent
  · rw [Nat.min_eq_left full]
  · rw [List.drop_of_length_le (by omega), List.drop_of_length_le (by omega)]

theorem toNat_advance_seqNum (progress : Progress) :
    (progress.advance data).seqNum.toNat = (progress.seqNum.toNat + 1) % 16 := by
  simp only [Progress.advance, UInt8.toNat_mod, UInt8.toNat_add, UInt8.reduceToNat]
  omega

theorem toNat_cfPci {seqNum : UInt8} (seqLt : seqNum.toNat < 16) :
    (0x20 ||| (seqNum &&& 0x0F) : UInt8).toNat = 0x20 + seqNum.toNat := by
  rw [UInt8.toNat_or, Bytes.toNat_and_lowMask, Nat.mod_eq_of_lt seqLt]
  apply Bytes.or_eq_add_of_lt
  · rfl
  · exact seqLt

/-- The Consecutive Frames from an offset on carry the rest of the message. -/
theorem consecutiveFrames_spec (env : SendEnv) (canId : UInt32) (data : List UInt8)
    (progress : Progress) (seqLt : progress.seqNum.toNat < 16) :
    ∃ received : List ReceivedFrame,
      received.map ReceivedFrame.toCanFrame = consecutiveFrames env canId data progress ∧
        ConsecutiveFrames progress.seqNum.toNat (data.drop progress.bytesSent) received := by
  -- The receiver counts modulo sixteen, and so does the sender, whose counter stays below it.
  induction progress using consecutiveFrames.induct data with
  | case1 progress unfinished ih =>
      have nextLt : (progress.advance data).seqNum.toNat < 16 := by
        rw [toNat_advance_seqNum]
        omega
      rcases ih nextLt with ⟨received, receivedEq, later⟩
      have dlcEq : (consecutiveFrame env canId data progress).canDlc.toNat =
          bytesToSendInFrame data progress + 1 := toNat_bytesToSendInFrame progress
      have atMost : bytesToSendInFrame data progress ≤ 7 := Nat.min_le_left _ _
      have takeLength : ((data.drop progress.bytesSent).take 7).length =
          bytesToSendInFrame data progress := by
        simp [bytesToSendInFrame]
      refine ⟨⟨consecutiveFrame env canId data progress, by omega⟩ :: received, ?_, ?_⟩
      · rw [List.map_cons, receivedEq, consecutiveFrames_of_lt unfinished]
      · refine .next ?_ (toNat_cfPci seqLt) ?_ ?_
        · intro empty
          rw [List.drop_eq_nil_iff] at empty
          omega
        · apply carries_overwrite
          · rw [← take_bytesToSendInFrame]
            rfl
          · rw [takeLength, List.length_singleton]
            omega
          · rw [takeLength, List.length_singleton, dlcEq]
            omega
        · rw [toNat_advance_seqNum, drop_advance] at later
          exact later
  | case2 progress finished =>
      refine ⟨[], ?_, ?_⟩
      · rw [consecutiveFrames_of_le (Nat.not_lt.mp finished), List.map_nil]
      · rw [List.drop_of_length_le (Nat.not_lt.mp finished)]
        exact .done _

theorem toNat_firstFrameHigh :
    (UInt8.ofNat (0x10 ||| ((data.length >>> 8) &&& 0x0F))).toNat =
      0x10 + data.length / 256 % 16 := by
  have masked : (data.length >>> 8) &&& 0x0F = data.length / 256 % 16 := by
    rw [show (0x0F : ℕ) = 2 ^ 4 - 1 by rfl, Nat.and_two_pow_sub_one_eq_mod _ 4,
      Nat.shiftRight_eq_div_pow]
  rw [UInt8.toNat_ofNat', masked, Bytes.or_eq_add_of_lt (by decide) (by omega)]
  omega

theorem toNat_firstFrameLow :
    (UInt8.ofNat (data.length &&& 0xFF)).toNat = data.length % 256 := by
  rw [UInt8.toNat_ofNat', show (0xFF : ℕ) = 2 ^ 8 - 1 by rfl,
    Nat.and_two_pow_sub_one_eq_mod _ 8]
  omega

/-- The frames of a message of admissible length are a segmentation of it. -/
theorem messageFrames_segmentation (env : SendEnv) (canId : UInt32) {data : List UInt8}
    (nonempty : 1 ≤ data.length) (fits : data.length ≤ 4095) :
    ∃ received : List ReceivedFrame,
      received.map ReceivedFrame.toCanFrame = messageFrames env canId data ∧
        Segmentation data received := by
  by_cases short : data.length ≤ 7
  · have pciEq : (0x00 ||| UInt8.ofNat data.length : UInt8).toNat = data.length := by
      rw [UInt8.toNat_or, UInt8.toNat_ofNat']
      simp
      omega
    have dlcEq : (singleFrame env canId data).canDlc.toNat = data.length + 1 := by
      simp only [singleFrame, UInt8.toNat_ofNat']
      omega
    refine ⟨[⟨singleFrame env canId data, by omega⟩], ?_, ?_⟩
    · simp [messageFrames, short]
    · refine .single nonempty short pciEq (carries_overwrite rfl ?_ ?_)
      · rw [List.length_singleton]
        omega
      · rw [List.length_singleton, dlcEq]
        omega
  · have takeLength : (data.take 6).length = 6 := by
      rw [List.length_take]
      omega
    have dlcLe : (firstFrame env canId data).canDlc.toNat ≤ 8 := Nat.le_refl 8
    have highEq : (UInt8.ofNat (0x10 ||| ((data.length >>> 8) &&& 0x0F))).toNat =
        0x10 + data.length / 256 := by
      rw [toNat_firstFrameHigh]
      omega
    rcases consecutiveFrames_spec env canId data progressAfterFirstFrame (by decide) with
      ⟨received, receivedEq, later⟩
    refine ⟨⟨firstFrame env canId data, dlcLe⟩ :: received, ?_, ?_⟩
    · simp [messageFrames, short, receivedEq]
    · refine .multi (by omega) fits highEq toNat_firstFrameLow
        (carries_overwrite rfl ?_ ?_) later
      · rw [takeLength]
        exact Nat.le_refl 8
      · rw [takeLength]
        exact Nat.le_refl 8

/-- Reassembly undoes segmentation: the receiver returns the message which a successful call sent
and consumes exactly the frames written, and these do not depend on the flow control. -/
theorem isotpReceive_isotpSend (env : SendEnv) (canId : UInt32) (data : List UInt8)
    (script : List (Option (List UInt8))) (nonempty : 1 ≤ data.length)
    (fits : data.length ≤ 4095) (accepts : ∀ offset, env.accepts offset = true)
    (ok : (isotpSend env canId data script).ok = true) :
    ∃ received : List ReceivedFrame,
      received.map ReceivedFrame.toCanFrame =
          writtenFrames (isotpSend env canId data script).events ∧
        (∀ reads, isotpReceive (received.map CanRead.frame ++ reads) = .returned data reads) ∧
        ∀ otherScript, (isotpSend env canId data otherScript).ok = true →
          writtenFrames (isotpSend env canId data otherScript).events =
            writtenFrames (isotpSend env canId data script).events := by
  rcases messageFrames_segmentation env canId nonempty fits with
    ⟨received, receivedEq, segmentation⟩
  refine ⟨received, ?_, isotpReceive_of_segmentation segmentation, ?_⟩
  · rw [receivedEq, isotpSend_writtenFrames accepts ok]
  · intro otherScript otherOk
    rw [isotpSend_writtenFrames accepts otherOk, isotpSend_writtenFrames accepts ok]

/-- The round trip of a message of two frames, with a Wait frame before the block. -/
theorem isotpReceive_isotpSend_waiting :
    ∃ received : List ReceivedFrame,
      received.map ReceivedFrame.toCanFrame = writtenFrames (isotpSend acceptingEnv udsRequestCanId
        [0x2E, 0xF1, 0x90, 1, 2, 3, 4, 5] [some [0x31], some [0x30, 1, 0]]).events ∧
        (∀ reads, isotpReceive (received.map CanRead.frame ++ reads) =
          .returned [0x2E, 0xF1, 0x90, 1, 2, 3, 4, 5] reads) ∧
        ∀ otherScript, (isotpSend acceptingEnv udsRequestCanId
            [0x2E, 0xF1, 0x90, 1, 2, 3, 4, 5] otherScript).ok = true →
          writtenFrames (isotpSend acceptingEnv udsRequestCanId
              [0x2E, 0xF1, 0x90, 1, 2, 3, 4, 5] otherScript).events =
            writtenFrames (isotpSend acceptingEnv udsRequestCanId
              [0x2E, 0xF1, 0x90, 1, 2, 3, 4, 5] [some [0x31], some [0x30, 1, 0]]).events :=
  isotpReceive_isotpSend acceptingEnv udsRequestCanId [0x2E, 0xF1, 0x90, 1, 2, 3, 4, 5]
    [some [0x31], some [0x30, 1, 0]] (by decide) (by decide) (fun _ => rfl) (by decide)

end Transmission

end Synapse
