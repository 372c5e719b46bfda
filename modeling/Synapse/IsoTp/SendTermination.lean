import Synapse.IsoTp.SendLoop

/-!
# The sender against any peer

The outer loop of the sender is driven by the flow-control frames of the controller.
Every one of them which is not a wait ends the loop or takes a frame of the message off what
is left. A wait is retried without a limit, so a controller which only ever sends waits
holds the sender for good.
-/

namespace Synapse

open Transducer

section Sending

variable {env : SendEnv} {canId : UInt32} {data : List UInt8}

def SendPc.Returned (pc : SendPc) : Prop :=
  ∃ ok, pc = .returned ok

/-- `isotpSendMultiFrame` has returned after it has taken `count` flow-control frames. -/
def SendReturnsAfter (env : SendEnv) (canId : UInt32) (data : List UInt8)
    (peer : ℕ → Option (List UInt8)) (count : ℕ) : Prop :=
  ((sendMachine env canId data).stateAfter (sendTest data progressAfterFirstFrame)
    (firstInputs peer count)).Returned

/-- The Consecutive Frames which are still to be written. -/
def framesLeft (env : SendEnv) (canId : UInt32) (data : List UInt8) : SendPc → ℕ
  | .waiting progress => (consecutiveFrames env canId data progress).length
  | .returned _ => 0

def SendPc.Unfinished (data : List UInt8) : SendPc → Prop
  | .waiting progress => progress.bytesSent < data.length
  | .returned _ => True

theorem sendTest_unfinished (data : List UInt8) (progress : Progress) :
    (sendTest data progress).Unfinished data := by
  rw [sendTest]
  split
  next unfinished => exact unfinished
  next => trivial

theorem framesLeft_sendTest (progress : Progress) :
    framesLeft env canId data (sendTest data progress) =
      (consecutiveFrames env canId data progress).length := by
  rw [sendTest]
  split
  next => rfl
  next finished =>
    rw [consecutiveFrames_of_le (Nat.not_lt.mp finished)]
    rfl

/-- Every flow-control frame but a wait ends the loop or takes a frame off what is left. -/
theorem sendLoopStep_lowers {pc : SendPc} (queued : Option (List UInt8))
    (unfinished : pc.Unfinished data) (running : ¬pc.Returned) :
    (sendLoopStep env canId data pc queued).1.Returned ∨
      framesLeft env canId data (sendLoopStep env canId data pc queued).1 +
          (if !isWait queued then 1 else 0) ≤
        framesLeft env canId data pc := by
  cases pc with
  | returned ok => exact absurd ⟨ok, rfl⟩ running
  | waiting progress =>
      have positive : 0 < framesLeft env canId data (.waiting progress) := by
        rw [framesLeft, consecutiveFrames_of_lt unfinished]
        exact Nat.succ_pos _
      rw [sendLoopStep]
      rcases isotpSendConsecutiveFrames_cases env canId data progress queued with
        ⟨_, blockEq⟩ | ⟨waits, blockEq⟩ | ⟨blockSize, stminUs, continues, blockEq⟩
      · left
        rw [blockEq]
        exact ⟨false, rfl⟩
      · right
        rw [blockEq]
        change framesLeft env canId data (sendTest data progress) + _ ≤ _
        rw [framesLeft_sendTest, isWait, waits]
        exact Nat.le_refl _
      · rw [blockEq]
        by_cases ok : (sendBlock env canId data stminUs (framesToSendInBlock blockSize)
          progress).ok = true
        · right
          have blockPos := framesToSendInBlock_pos blockSize
          rw [if_pos ok, framesLeft_sendTest, sendBlock_drop ok, List.length_drop]
          rw [framesLeft] at positive ⊢
          split <;> omega
        · left
          rw [if_neg ok]
          exact ⟨false, rfl⟩

theorem sendLoopStep_unfinished (env : SendEnv) (canId : UInt32) (pc : SendPc)
    (queued : Option (List UInt8)) :
    (sendLoopStep env canId data pc queued).1.Unfinished data := by
  cases pc with
  | returned ok => trivial
  | waiting progress =>
      rw [sendLoopStep]
      dsimp only
      split
      · apply sendTest_unfinished
      · trivial

/-- Among waits alone the loop stays where it is. -/
theorem sendMachine_waits {progress : Progress} (unfinished : progress.bytesSent < data.length)
    {script : List (Option (List UInt8))} (waits : ∀ queued ∈ script, isWait queued = true) :
    (sendMachine env canId data).stateAfter (.waiting progress) script = .waiting progress := by
  induction script with
  | nil => rfl
  | cons queued script ih =>
      rcases List.forall_mem_cons.mp waits with ⟨waitsNow, waitsLater⟩
      have isWaiting : flowControl queued = .wait := by simpa [isWait] using waitsNow
      have stepEq : (sendLoopStep env canId data (.waiting progress) queued).1 =
          .waiting progress := by
        rw [sendLoopStep]
        rcases isotpSendConsecutiveFrames_cases env canId data progress queued with
          ⟨stops, _⟩ | ⟨_, blockEq⟩ | ⟨blockSize, stminUs, continues, _⟩
        · simp [isWaiting] at stops
        · rw [blockEq]
          exact if_pos unfinished
        · simp [isWaiting] at continues
      rw [Transducer.stateAfter_cons]
      change (sendMachine env canId data).stateAfter
        (sendLoopStep env canId data (.waiting progress) queued).1 script = _
      rw [stepEq]
      exact ih waitsLater

theorem not_sendReturnsAfter_of_waits (long : 8 ≤ data.length) {peer : ℕ → Option (List UInt8)}
    {count : ℕ} (waits : ∀ index < count, isWait (peer index) = true) :
    ¬SendReturnsAfter env canId data peer count := by
  have unfinished := unfinished_of_long (Nat.not_le.mpr long)
  have onlyWaits : ∀ queued ∈ firstInputs peer count, isWait queued = true := by
    intro queued queuedMem
    rcases List.mem_map.mp queuedMem with ⟨index, indexMem, rfl⟩
    exact waits index (List.mem_range.mp indexMem)
  rintro ⟨ok, returned⟩
  rw [sendTest, if_pos unfinished, sendMachine_waits unfinished onlyWaits] at returned
  simp at returned

/-- The loop returns at the latest with as many flow-control frames other than waits as there
are Consecutive Frames, but never among waits alone. -/
theorem isotpSendMultiFrame_returns (long : 8 ≤ data.length) (peer : ℕ → Option (List UInt8))
    (count : ℕ) :
    ((data.length - 6) ⌈/⌉ 7 ≤ (firstInputs peer count).countP (fun queued => !isWait queued) →
      SendReturnsAfter env canId data peer count) ∧
    ((∀ index < count, isWait (peer index) = true) →
      ¬SendReturnsAfter env canId data peer count) := by
  constructor
  · intro enough
    apply (sendMachine env canId data).halted_of_measure SendPc.Returned
      (SendPc.Unfinished data) (fun queued => !isWait queued) (framesLeft env canId data)
    · rintro _ queued ⟨ok, rfl⟩
      exact ⟨ok, rfl⟩
    · intro pc queued _
      exact sendLoopStep_unfinished env canId pc queued
    · intro pc unfinished running
      cases pc with
      | returned ok => exact absurd ⟨ok, rfl⟩ running
      | waiting progress =>
          rw [framesLeft, consecutiveFrames_of_lt unfinished]
          exact Nat.succ_pos _
    · intro pc queued unfinished running
      exact sendLoopStep_lowers queued unfinished running
    · apply sendTest_unfinished
    · rw [framesLeft_sendTest, length_consecutiveFrames]
      exact enough
  · intro waits
    exact not_sendReturnsAfter_of_waits long waits

def eightBytes : List UInt8 :=
  [0x2E, 0xF1, 0x90, 0x01, 0x02, 0x03, 0x04, 0x05]

theorem isotpSendMultiFrame_returns_continued :
    SendReturnsAfter acceptingEnv udsRequestCanId eightBytes
      (fun index => some (if index = 0 then waitFrame else continueFrame)) 2 :=
  (isotpSendMultiFrame_returns (by decide) _ 2).1 (by decide)

/-- No bound holds for all peers: one of them only ever asks to wait. -/
theorem isotpSendMultiFrame_unbounded :
    ¬∃ bound : ℕ → ℕ, ∀ env canId (data : List UInt8) (peer : ℕ → List UInt8),
      8 ≤ data.length → (∀ index, (peer index).headD 0 >>> 4 = 3) →
        SendReturnsAfter env canId data (fun index => some (peer index)) (bound data.length) := by
  rintro ⟨bound, returns⟩
  have returned := returns acceptingEnv udsRequestCanId eightBytes (fun _ => waitFrame) (by decide)
    (fun _ => by decide)
  revert returned
  apply not_sendReturnsAfter_of_waits (by decide)
  intro index _
  decide

end Sending

end Synapse
