import Mathlib.Data.ENat.Basic
import Synapse.IsoTp.SendLoop

/-!
# Flow control paces the sender

A flow-control frame grants the sender a block, asks it to wait, or stops it. This
file states what that means for the frames of a message, with a derivation for each course
of a transmission, and shows that the loop of the sender writes its frames in no other way
as long as its writes succeed.
-/

namespace Synapse

/-- A transmission of the `remaining` frames over a script of flow-control outcomes: the
frames written behind each outcome which is taken, and the value returned, if it is. -/
inductive Paced :
    List CanFrame → List (Option (List UInt8)) → List (List CanFrame) → Option Bool → Prop where
  | finished {script : List (Option (List UInt8))} : Paced [] script [] (some true)
  | waiting {remaining : List CanFrame} (unfinished : remaining ≠ []) : Paced remaining [] [] none
  | stop {remaining : List CanFrame} {queued : Option (List UInt8)}
      {script : List (Option (List UInt8))} (unfinished : remaining ≠ [])
      (stops : flowControl queued = .stop) :
      Paced remaining (queued :: script) [[]] (some false)
  | wait {remaining : List CanFrame} {queued : Option (List UInt8)}
      {script : List (Option (List UInt8))} {rounds : List (List CanFrame)}
      {result : Option Bool} (unfinished : remaining ≠ []) (waits : flowControl queued = .wait)
      (later : Paced remaining script rounds result) :
      Paced remaining (queued :: script) ([] :: rounds) result
  | block {remaining : List CanFrame} {queued : Option (List UInt8)}
      {script : List (Option (List UInt8))} {rounds : List (List CanFrame)}
      {result : Option Bool} {blockSize : UInt8} (unfinished : remaining ≠ [])
      (continues : flowControl queued = .continueToSend blockSize) (limited : blockSize ≠ 0)
      (later : Paced (remaining.drop blockSize.toNat) script rounds result) :
      Paced remaining (queued :: script) (remaining.take blockSize.toNat :: rounds) result
  | unlimited {remaining : List CanFrame} {queued : Option (List UInt8)}
      {script : List (Option (List UInt8))} (unfinished : remaining ≠ [])
      (continues : flowControl queued = .continueToSend 0) :
      Paced remaining (queued :: script) [remaining] (some true)

/-- The frames which a block size grants; zero grants them all. -/
def grantedBlock (blockSize : UInt8) : ℕ∞ :=
  if blockSize = 0 then ⊤ else blockSize.toNat

/-- The frames granted before the first outcome which stops the sender. -/
def granted : List (Option (List UInt8)) → ℕ∞
  | [] => 0
  | queued :: script =>
      match flowControl queued with
      | .stop => 0
      | .wait => granted script
      | .continueToSend blockSize => grantedBlock blockSize + granted script

/-- A transmission succeeds if and only if all of its frames are granted. -/
theorem Paced.result_iff {remaining : List CanFrame} {script : List (Option (List UInt8))}
    {rounds : List (List CanFrame)} {result : Option Bool}
    (paced : Paced remaining script rounds result) :
    result = some true ↔ (remaining.length : ℕ∞) ≤ granted script := by
  induction paced with
  | finished => simp
  | waiting unfinished => simpa [granted] using unfinished
  | stop unfinished stops => simpa [granted, stops] using unfinished
  | wait unfinished waits later ih => simpa [granted, waits] using ih
  | block unfinished continues limited later ih =>
      simp only [granted, continues, grantedBlock, if_neg limited]
      rw [ih, List.length_drop, ENat.natCast_sub]
      exact tsub_le_iff_left
  | unlimited unfinished continues => simp [granted, continues, grantedBlock]

section Sending

variable (env : SendEnv) (canId : UInt32) (data : List UInt8)

def SendPc.result? : SendPc → Option Bool
  | .waiting _ => none
  | .returned ok => some ok

/-- The frames which the loop writes behind each outcome which it takes. -/
def sendRounds : SendPc → List (Option (List UInt8)) → List (List CanFrame)
  | .waiting progress, queued :: script =>
      let next := sendLoopStep env canId data (.waiting progress) queued
      writtenFrames next.2 :: sendRounds next.1 script
  | _, _ => []

/-- The transmission obeys flow control: behind the First Frame, the frames are written as
the outcomes grant them, and the call succeeds when they are all granted. -/
structure ObeysFlowControl (script : List (Option (List UInt8))) : Prop where
  paced : Paced (consecutiveFrames env canId data progressAfterFirstFrame) script
    (sendRounds env canId data (sendTest data progressAfterFirstFrame) script)
    ((sendMachine env canId data).stateAfter (sendTest data progressAfterFirstFrame)
      script).result?
  written : writtenFrames (isotpSend env canId data script).events =
    firstFrame env canId data ::
      (sendRounds env canId data (sendTest data progressAfterFirstFrame) script).flatten
  succeeds : (isotpSend env canId data script).ok = true ↔
    ((data.length - 6) ⌈/⌉ 7 : ℕ) ≤ granted script

variable {env}

theorem sendBlock_ok (accepts : ∀ offset, env.accepts offset = true) (stminUs frames : ℕ)
    (progress : Progress) : (sendBlock env canId data stminUs frames progress).ok = true := by
  induction frames generalizing progress with
  | zero => rfl
  | succ frames ih =>
      simp only [sendBlock, accepts, if_true]
      split
      · exact ih _
      · rfl

variable {canId data}

/-- A block writes the next frames of the message, as many as it may. -/
theorem sendBlock_take (accepts : ∀ offset, env.accepts offset = true) (stminUs frames : ℕ)
    (progress : Progress) :
    writtenFrames (sendBlock env canId data stminUs frames progress).events =
      (consecutiveFrames env canId data progress).take frames := by
  have ok := sendBlock_ok canId data accepts stminUs frames progress
  rcases sendBlock_frames ok with ⟨attempted, written⟩
  have dropped := sendBlock_drop ok
  rw [dropped] at attempted
  rw [written, ← List.append_left_inj ((consecutiveFrames env canId data progress).drop frames),
    attempted, List.take_append_drop]

theorem sendRounds_returned (ok : Bool) (script : List (Option (List UInt8))) :
    sendRounds env canId data (.returned ok) script = [] := by
  cases script <;> rfl

theorem bytesSent_of_consecutiveFrames_eq_nil {progress : Progress}
    (none_ : consecutiveFrames env canId data progress = []) :
    ¬progress.bytesSent < data.length := by
  intro unfinished
  rw [consecutiveFrames_of_lt unfinished] at none_
  exact List.cons_ne_nil _ _ none_

/-- Nothing more is taken when nothing is left of the message. -/
theorem sendRounds_finished (env : SendEnv) (canId : UInt32) {progress : Progress}
    (finished : ¬progress.bytesSent < data.length) (script : List (Option (List UInt8))) :
    sendRounds env canId data (sendTest data progress) script = [] ∧
      ((sendMachine env canId data).stateAfter (sendTest data progress) script).result? =
        some true := by
  rw [sendTest, if_neg finished, (sendMachine_returned env canId data true script).1,
    sendRounds_returned]
  exact ⟨rfl, rfl⟩

theorem paced_of_finished (env : SendEnv) (canId : UInt32) {progress : Progress}
    (finished : ¬progress.bytesSent < data.length) (script : List (Option (List UInt8))) :
    Paced (consecutiveFrames env canId data progress) script
      (sendRounds env canId data (sendTest data progress) script)
      ((sendMachine env canId data).stateAfter (sendTest data progress) script).result? := by
  rcases sendRounds_finished env canId finished script with ⟨roundsEq, resultEq⟩
  rw [consecutiveFrames_of_le (Nat.not_lt.mp finished), roundsEq, resultEq]
  exact .finished

/-- The loop, entered with its progress, writes what is left of the message as it is granted. -/
theorem sendRounds_paced (canId : UInt32) (accepts : ∀ offset, env.accepts offset = true)
    (short : data.length ≤ 4095) (progress : Progress) (script : List (Option (List UInt8))) :
    Paced (consecutiveFrames env canId data progress) script
      (sendRounds env canId data (sendTest data progress) script)
      ((sendMachine env canId data).stateAfter (sendTest data progress) script).result? := by
  induction script generalizing progress with
  | nil =>
      by_cases unfinished : progress.bytesSent < data.length
      · rw [consecutiveFrames_of_lt unfinished, sendTest, if_pos unfinished]
        exact .waiting (List.cons_ne_nil _ _)
      · exact paced_of_finished env canId unfinished []
  | cons queued script ih =>
      by_cases unfinished : progress.bytesSent < data.length
      · have remaining : consecutiveFrames env canId data progress ≠ [] := by
          rw [consecutiveFrames_of_lt unfinished]
          exact List.cons_ne_nil _ _
        rw [sendTest, if_pos unfinished, Transducer.stateAfter_cons]
        change Paced _ _
          (writtenFrames (sendLoopStep env canId data (.waiting progress) queued).2 ::
            sendRounds env canId data (sendLoopStep env canId data (.waiting progress) queued).1
              script)
          ((sendMachine env canId data).stateAfter
            (sendLoopStep env canId data (.waiting progress) queued).1 script).result?
        rw [sendLoopStep]
        rcases isotpSendConsecutiveFrames_cases env canId data progress queued with
          ⟨stops, blockEq⟩ | ⟨waits, blockEq⟩ | ⟨blockSize, stminUs, continues, blockEq⟩
        · rw [blockEq]
          dsimp only
          rw [if_neg Bool.false_ne_true, sendRounds_returned,
            (sendMachine_returned env canId data false script).1]
          exact .stop remaining stops
        · rw [blockEq]
          exact .wait remaining waits (ih progress)
        · rw [blockEq]
          have ok := sendBlock_ok canId data accepts stminUs (framesToSendInBlock blockSize)
            progress
          have dropped := sendBlock_drop ok
          dsimp only at dropped ⊢
          rw [if_pos ok, sendBlock_take accepts]
          by_cases limited : blockSize = 0
          · subst limited
            have all : (consecutiveFrames env canId data progress).length ≤
                framesToSendInBlock 0 := by
              rw [length_consecutiveFrames, Nat.ceilDiv_eq_add_pred_div]
              change _ ≤ 4095
              omega
            rw [List.drop_of_length_le all] at dropped
            rcases sendRounds_finished env canId
              (bytesSent_of_consecutiveFrames_eq_nil dropped) script with ⟨roundsEq, resultEq⟩
            rw [List.take_of_length_le all, roundsEq, resultEq]
            exact .unlimited remaining continues
          · have size : framesToSendInBlock blockSize = blockSize.toNat := if_neg limited
            rw [size] at dropped ⊢
            apply Paced.block remaining continues limited
            rw [← dropped]
            exact ih _
      · exact paced_of_finished env canId unfinished (queued :: script)

theorem writtenFrames_output (pc : SendPc) (script : List (Option (List UInt8))) :
    writtenFrames ((sendMachine env canId data).output pc script) =
      (sendRounds env canId data pc script).flatten := by
  induction script generalizing pc with
  | nil => cases pc <;> rfl
  | cons queued script ih =>
      cases pc with
      | waiting progress =>
          rw [Transducer.output_cons, writtenFrames_append, ih]
          rfl
      | returned ok =>
          rw [(sendMachine_returned env canId data ok (queued :: script)).2]
          rfl

/-- While all writes succeed, flow control alone decides what is written when. -/
theorem isotpSend_obeysFlowControl (accepts : ∀ offset, env.accepts offset = true)
    (long : 8 ≤ data.length) (short : data.length ≤ 4095)
    (script : List (Option (List UInt8))) : ObeysFlowControl env canId data script := by
  have paced := sendRounds_paced canId accepts short progressAfterFirstFrame script
  have multiFrame : isotpSend env canId data script = isotpSendMultiFrame env canId data script :=
    if_neg (by omega)
  rcases sendLoop_eq_sendMachine env canId data progressAfterFirstFrame script with
    ⟨okIff, eventsEq⟩
  refine ⟨paced, ?_, ?_⟩
  · rw [multiFrame, isotpSendMultiFrame, isotpSendFirstFrame, accepts, writtenFrames_accepted,
      eventsEq, writtenFrames_output]
  · have resultIff := paced.result_iff
    rw [length_consecutiveFrames] at resultIff
    change _ ↔ (((data.length - progressAfterFirstFrame.bytesSent) ⌈/⌉ 7 : ℕ) : ℕ∞) ≤ _
    rw [multiFrame, isotpSendMultiFrame, ← resultIff, okIff]
    cases (sendMachine env canId data).stateAfter (sendTest data progressAfterFirstFrame)
      script with
    | waiting progress => simp [SendPc.result?]
    | returned ok => simp [SendPc.result?]

/-- A block of two frames, a wait and the rest of the message. -/
theorem isotpSend_obeysFlowControl_blocks :
    ObeysFlowControl acceptingEnv udsRequestCanId (List.replicate 30 0x55)
      [some [0x30, 0x02], some waitFrame, some continueFrame] :=
  isotpSend_obeysFlowControl (fun _ => rfl) (by decide) (by decide) _

end Sending

end Synapse
