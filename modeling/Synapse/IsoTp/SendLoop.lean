import Mathlib.Algebra.Order.Floor.Div
import Synapse.Library.Transducer
import Synapse.IsoTp.RoundTrip

/-!
# The loop of the sender

The outer loop of `isotpSendMultiFrame` is a transducer over the outcomes of its
waits for flow control. This view keeps what the outcome of a whole call does not
tell: after how many flow-control frames the loop has returned, and which frames
it writes between two of them.

What a flow-control frame means is defined here on its bytes, and one lemma for each
meaning says what the sender does about it.
-/

namespace Synapse

/-! ## Flow control -/

inductive FlowControl where
  /-- No frame before the timeout, a malformed one, an overflow or a reserved status. -/
  | stop
  | wait
  | continueToSend (blockSize : UInt8)
deriving DecidableEq

/-- What the outcome of a wait for flow control tells the sender; a block size which the frame
does not carry is zero. -/
def flowControl : Option (List UInt8) → FlowControl
  | some (pci :: bytes) =>
      if pci.toNat / 16 = 3 then
        if pci.toNat % 16 = 0 then .continueToSend (bytes.headD 0)
        else if pci.toNat % 16 = 1 then .wait
        else .stop
      else .stop
  | _ => .stop

def isWait (queued : Option (List UInt8)) : Bool :=
  flowControl queued = .wait

/-- The flow-control frame which asks to wait. -/
def waitFrame : List UInt8 :=
  [0x31, 0x00, 0x00]

def continueFrame : List UInt8 :=
  [0x30, 0x00, 0x00]

theorem highNibble_eq_iff (pci : UInt8) : pci &&& 0xF0 = 0x30 ↔ pci.toNat / 16 = 3 := by
  rw [← UInt8.toNat_inj, Bytes.toNat_and_highMask]
  change _ = 48 ↔ _
  omega

theorem waitForFlowControl_cons (pci : UInt8) (bytes : List UInt8) :
    waitForFlowControl (some (pci :: bytes)) =
      if pci.toNat / 16 = 3 then some (overwrite (Vector.replicate 8 0) (pci :: bytes))
      else none := by
  by_cases isFlowControl : pci.toNat / 16 = 3
  · rw [waitForFlowControl, if_neg (by simpa using (highNibble_eq_iff pci).mpr isFlowControl),
      if_pos isFlowControl]
  · rw [waitForFlowControl, if_pos (by simpa using mt (highNibble_eq_iff pci).mp isFlowControl),
      if_neg isFlowControl]

section Sending

variable (env : SendEnv) (canId : UInt32) (data : List UInt8)

/-- What the sender does about each outcome of a wait. -/
theorem isotpSendConsecutiveFrames_cases (progress : Progress) (queued : Option (List UInt8)) :
    (flowControl queued = .stop ∧
      isotpSendConsecutiveFrames env canId data progress queued = ⟨⟨false, []⟩, progress⟩) ∨
    (flowControl queued = .wait ∧
      isotpSendConsecutiveFrames env canId data progress queued =
        ⟨⟨true, [.sleep 100000]⟩, progress⟩) ∨
    (∃ blockSize stminUs, flowControl queued = .continueToSend blockSize ∧
      isotpSendConsecutiveFrames env canId data progress queued =
        sendBlock env canId data stminUs (framesToSendInBlock blockSize) progress) := by
  match queued with
  | none => exact Or.inl ⟨rfl, rfl⟩
  | some [] => exact Or.inl ⟨rfl, rfl⟩
  | some (pci :: bytes) =>
      by_cases isFlowControl : pci.toNat / 16 = 3
      · have received := waitForFlowControl_cons pci bytes
        rw [if_pos isFlowControl] at received
        have pciEq : (overwrite (Vector.replicate 8 0) (pci :: bytes))[0]! = pci := by
          rw [getElem!_overwrite _ _ (by decide)]
          rfl
        have blockSizeEq : (overwrite (Vector.replicate 8 0) (pci :: bytes))[1]! =
            bytes.headD 0 := by
          rw [getElem!_overwrite _ _ (by decide)]
          cases bytes <;> rfl
        have statusEq : (pci &&& 0x0F).toNat = pci.toNat % 16 := Bytes.toNat_and_lowMask pci
        simp only [flowControl, if_pos isFlowControl, isotpSendConsecutiveFrames, received, pciEq,
          blockSizeEq, ← UInt8.toNat_inj, gt_iff_lt, UInt8.lt_iff_toNat_lt, statusEq,
          UInt8.reduceToNat]
        by_cases continues : pci.toNat % 16 = 0
        · right; right
          rw [if_pos continues, if_neg (by omega), if_neg (by omega)]
          exact ⟨_, _, rfl, rfl⟩
        · rw [if_neg continues]
          by_cases waits : pci.toNat % 16 = 1
          · right; left
            rw [if_pos waits, if_pos waits]
            exact ⟨rfl, rfl⟩
          · left
            rw [if_neg waits, if_neg waits, if_pos (by omega)]
            exact ⟨rfl, rfl⟩
      · left
        simp only [flowControl, if_neg isFlowControl, isotpSendConsecutiveFrames,
          waitForFlowControl_cons]
        exact ⟨trivial, trivial⟩

/-! ## The outer loop -/

/-- Where the outer loop stands: inside a wait, or behind its end. -/
inductive SendPc where
  | waiting (progress : Progress)
  | returned (ok : Bool)
deriving DecidableEq

/-- The condition of the outer loop. -/
def sendTest (progress : Progress) : SendPc :=
  if progress.bytesSent < data.length then .waiting progress else .returned true

def sendLoopStep : SendPc → Option (List UInt8) → SendPc × List SendEvent
  | .waiting progress, queued =>
      let block := isotpSendConsecutiveFrames env canId data progress queued
      (if block.ok then sendTest data block.progress else .returned false, block.events)
  | .returned ok, _ => (.returned ok, [])

/-- The outer loop over the outcomes of its waits. -/
def sendMachine : Transducer SendPc (Option (List UInt8)) SendEvent where
  step := sendLoopStep env canId data

theorem sendMachine_returned (ok : Bool) (script : List (Option (List UInt8))) :
    (sendMachine env canId data).stateAfter (.returned ok) script = .returned ok ∧
      (sendMachine env canId data).output (.returned ok) script = [] := by
  apply Transducer.run_of_absorbing
  intro queued _
  rfl

variable {env canId data}

/-! ## The frames of a block -/

theorem length_consecutiveFrames (progress : Progress) :
    (consecutiveFrames env canId data progress).length =
      (data.length - progress.bytesSent) ⌈/⌉ 7 := by
  rw [Nat.ceilDiv_eq_add_pred_div]
  fun_induction consecutiveFrames env canId data progress with
  | case1 progress unfinished ih =>
      have advanced : (progress.advance data).bytesSent =
          progress.bytesSent + min 7 (data.length - progress.bytesSent) := rfl
      rw [List.length_cons, ih]
      omega
  | case2 progress finished =>
      rw [List.length_nil]
      omega

/-- A block which succeeds takes the next frames of the message, as many as it may. -/
theorem sendBlock_drop {stminUs frames : ℕ} {progress : Progress}
    (ok : (sendBlock env canId data stminUs frames progress).ok = true) :
    let block := sendBlock env canId data stminUs frames progress
    consecutiveFrames env canId data block.progress =
      (consecutiveFrames env canId data progress).drop frames := by
  induction frames generalizing progress with
  | zero => rfl
  | succ frames ih =>
      simp only [sendBlock] at ok ⊢
      by_cases unfinished : progress.bytesSent < data.length
      · by_cases accepted : env.accepts progress.bytesSent = true
        · simp only [unfinished, accepted, if_true] at ok ⊢
          rw [consecutiveFrames_of_lt unfinished, List.drop_succ_cons]
          exact ih ok
        · simp [unfinished, accepted] at ok
      · simp only [unfinished, if_false]
        rw [consecutiveFrames_of_le (Nat.not_lt.mp unfinished), List.drop_nil]

/-! ## Calls and the machine -/

/-- The First Frame of a long message leaves something to send. -/
theorem unfinished_of_long (long : ¬data.length ≤ 7) :
    progressAfterFirstFrame.bytesSent < data.length := by
  change 6 < data.length
  omega

/-- The loop of the call is the machine, and a script which is used up is a timeout. -/
theorem sendLoop_eq_sendMachine (env : SendEnv) (canId : UInt32) (data : List UInt8)
    (progress : Progress) (script : List (Option (List UInt8))) :
    ((sendLoop env canId data progress script).ok = true ↔
      (sendMachine env canId data).stateAfter (sendTest data progress) script = .returned true) ∧
    (sendLoop env canId data progress script).events =
      (sendMachine env canId data).output (sendTest data progress) script := by
  induction script generalizing progress with
  | nil =>
      rw [sendLoop, sendTest]
      split
      next unfinished => simp [unfinished]
      next finished => simp [finished]
  | cons queued script ih =>
      simp only [sendLoop, sendTest]
      split
      next unfinished =>
        rw [Transducer.stateAfter_cons, Transducer.output_cons]
        simp only [sendMachine, sendLoopStep]
        split
        next blockOk =>
          rcases ih (isotpSendConsecutiveFrames env canId data progress queued).progress with
            ⟨laterOk, laterEvents⟩
          exact ⟨laterOk, congrArg _ laterEvents⟩
        next failed =>
          rcases sendMachine_returned env canId data false script with ⟨stateEq, outputEq⟩
          simp only [sendMachine] at stateEq outputEq
          rw [stateEq, outputEq, List.append_nil]
          simp [failed]
      next =>
        rcases sendMachine_returned env canId data true (queued :: script) with
          ⟨stateEq, outputEq⟩
        rw [stateEq, outputEq]
        exact ⟨iff_of_true rfl rfl, rfl⟩

end Sending

end Synapse
