import Synapse.IsoTp.SendLoop

/-!
# Failed writes

A message is written by three functions. The ones for a Single Frame and for
Consecutive Frames return what their writes return, and the loops above them give up
with the first write which fails. The function for the First Frame returns nothing. This
file determines for which messages a failed write nevertheless ends the call and is
reported.
-/

namespace Synapse

def SendEvent.rejected : SendEvent → Bool
  | .canWrite _ accepted => !accepted
  | .sleep _ => false

/-- Nothing is passed to `write` behind a write which has failed. -/
def StopsAtFailure (events : List SendEvent) : Prop :=
  events.Pairwise fun earlier later => earlier.rejected = true → later.frame? = none

instance (events : List SendEvent) : Decidable (StopsAtFailure events) :=
  inferInstanceAs (Decidable (events.Pairwise _))

/-- The call succeeds when all frames of the message have been accepted, and only then, and
a failed write ends the message. -/
structure FailuresReported (env : SendEnv) (canId : UInt32) (data : List UInt8)
    (script : List (Option (List UInt8))) : Prop where
  reported : (isotpSend env canId data script).ok = true ↔
    writtenFrames (isotpSend env canId data script).events = messageFrames env canId data
  stops : StopsAtFailure (isotpSend env canId data script).events

/-- The first outcome other than a wait lets the sender continue. -/
def continuesFirst : List (Option (List UInt8)) → Bool
  | [] => false
  | queued :: script =>
      match flowControl queued with
      | .stop => false
      | .wait => continuesFirst script
      | .continueToSend _ => true

/-! ## Event lists -/

theorem frame_eq_none_of_attemptedFrames {events : List SendEvent} :
    (∀ event ∈ events, event.frame? = none) ↔ attemptedFrames events = [] := by
  rw [attemptedFrames, List.filterMap_eq_nil_iff]

theorem stopsAtFailure_of_accepted {events : List SendEvent}
    (accepted : ∀ event ∈ events, event.rejected = false) : StopsAtFailure events := by
  apply List.Pairwise.imp_of_mem _ (List.pairwise_of_forall fun _ _ => trivial)
  intro earlier later earlierMem _ _ rejected
  simp [accepted earlier earlierMem] at rejected

theorem stopsAtFailure_append {first second : List SendEvent}
    (accepted : ∀ event ∈ first, event.rejected = false) (stops : StopsAtFailure second) :
    StopsAtFailure (first ++ second) := by
  refine List.pairwise_append.mpr ⟨stopsAtFailure_of_accepted accepted, stops, ?_⟩
  intro earlier earlierMem later _ rejected
  simp [accepted earlier earlierMem] at rejected

section Sending

variable {env : SendEnv} {canId : UInt32} {data : List UInt8}

/-- How the sending functions leave their message: the accepted frames and the ones which are
left are the message, and a failure ends it before its last frame. -/
structure Reports (env : SendEnv) (canId : UInt32) (data : List UInt8) (progress : Progress)
    (result : SendResult) : Prop where
  written : writtenFrames result.events ++ consecutiveFrames env canId data result.progress =
    consecutiveFrames env canId data progress
  unfinished : result.ok = false → result.progress.bytesSent < data.length
  accepted : result.ok = true → ∀ event ∈ result.events, event.rejected = false
  stops : StopsAtFailure result.events

namespace Reports

theorem nil {progress : Progress} {ok : Bool}
    (unfinished : ok = false → progress.bytesSent < data.length) :
    Reports env canId data progress ⟨⟨ok, []⟩, progress⟩ :=
  ⟨rfl, unfinished, by simp, List.Pairwise.nil⟩

/-- A part without a failure, and behind it the rest of the message. -/
theorem append {progress next : Progress} {later : SendResult} (events : List SendEvent)
    (accepted : ∀ event ∈ events, event.rejected = false)
    (written : writtenFrames events ++ consecutiveFrames env canId data next =
      consecutiveFrames env canId data progress)
    (reports : Reports env canId data next later) :
    Reports env canId data progress { later with events := events ++ later.events } where
  written := by
    rw [writtenFrames_append, List.append_assoc, reports.written, written]
  unfinished := reports.unfinished
  accepted ok event eventMem := by
    rcases List.mem_append.mp eventMem with before | behind
    · exact accepted event before
    · exact reports.accepted ok event behind
  stops := stopsAtFailure_append accepted reports.stops

end Reports

theorem sendBlock_reports (stminUs frames : ℕ) (progress : Progress) :
    Reports env canId data progress (sendBlock env canId data stminUs frames progress) := by
  induction frames generalizing progress with
  | zero => exact .nil (by simp)
  | succ frames ih =>
      rw [sendBlock]
      by_cases unfinished : progress.bytesSent < data.length
      · by_cases accepted : env.accepts progress.bytesSent = true
        · simp only [unfinished, accepted, if_true]
          refine Reports.append (.canWrite _ true :: _) ?_ ?_ (ih (progress.advance data))
          · rw [List.forall_mem_cons]
            refine ⟨rfl, ?_⟩
            split <;> simp [SendEvent.rejected]
          · have noPause := frames_pause ((progress.advance data).bytesSent < data.length) stminUs
            rw [writtenFrames_accepted, noPause.2, consecutiveFrames_of_lt unfinished]
            rfl
        · simp only [unfinished, accepted, if_true]
          exact ⟨rfl, fun _ => unfinished, by simp, List.pairwise_singleton _ _⟩
      · simp only [unfinished, if_false]
        exact .nil (by simp)

theorem isotpSendConsecutiveFrames_reports (env : SendEnv) (canId : UInt32)
    {progress : Progress} (unfinished : progress.bytesSent < data.length)
    (queued : Option (List UInt8)) :
    Reports env canId data progress
      (isotpSendConsecutiveFrames env canId data progress queued) := by
  rcases isotpSendConsecutiveFrames_cases env canId data progress queued with
    ⟨_, blockEq⟩ | ⟨_, blockEq⟩ | ⟨blockSize, stminUs, _, blockEq⟩
  · rw [blockEq]
    exact .nil fun _ => unfinished
  · rw [blockEq]
    exact ⟨rfl, by simp, by simp [SendEvent.rejected], List.pairwise_singleton _ _⟩
  · rw [blockEq]
    exact sendBlock_reports stminUs _ progress

theorem sendLoop_reports (env : SendEnv) (canId : UInt32) (data : List UInt8)
    (progress : Progress) (script : List (Option (List UInt8))) :
    Reports env canId data progress (sendLoop env canId data progress script) := by
  induction script generalizing progress with
  | nil => exact .nil (by simp)
  | cons queued script ih =>
      rw [sendLoop]
      split
      next unfinished =>
        have block := isotpSendConsecutiveFrames_reports env canId unfinished queued
        dsimp only
        split
        next ok => exact Reports.append _ (block.accepted ok) block.written (ih _)
        next => exact block
      next => exact .nil (by simp)

theorem sendLoop_ok_iff (env : SendEnv) (canId : UInt32) (data : List UInt8)
    (progress : Progress) (script : List (Option (List UInt8))) :
    (sendLoop env canId data progress script).ok = true ↔
      writtenFrames (sendLoop env canId data progress script).events =
        consecutiveFrames env canId data progress := by
  constructor
  · intro ok
    rcases sendLoop_frames ok with ⟨attempted, written⟩
    rw [written, attempted]
  · intro all
    by_contra failed
    have reports := sendLoop_reports env canId data progress script
    have written := reports.written
    rw [consecutiveFrames_of_lt (reports.unfinished (Bool.eq_false_iff.mpr failed)), all] at written
    simp at written

/-- The loop passes a frame to `write` when it is let to continue. -/
theorem sendLoop_attempted_iff (env : SendEnv) (canId : UInt32) {progress : Progress}
    (unfinished : progress.bytesSent < data.length) (script : List (Option (List UInt8))) :
    attemptedFrames (sendLoop env canId data progress script).events = [] ↔
      continuesFirst script = false := by
  induction script with
  | nil => exact iff_of_true rfl rfl
  | cons queued script ih =>
      rw [sendLoop, if_pos unfinished]
      rcases isotpSendConsecutiveFrames_cases env canId data progress queued with
        ⟨stops, blockEq⟩ | ⟨waits, blockEq⟩ | ⟨blockSize, stminUs, continues, blockEq⟩
      · rw [blockEq, continuesFirst, stops]
        exact iff_of_true rfl rfl
      · rw [blockEq, continuesFirst, waits]
        exact ih
      · have attempts : attemptedFrames
            (sendBlock env canId data stminUs (framesToSendInBlock blockSize) progress).events ≠
              [] := by
          obtain ⟨frames, framesEq⟩ :=
            Nat.exists_eq_succ_of_ne_zero (framesToSendInBlock_pos blockSize).ne'
          rw [framesEq, sendBlock, if_pos unfinished]
          dsimp only
          split <;> simp
        rw [blockEq, continuesFirst, continues]
        refine iff_of_false ?_ (by simp)
        dsimp only
        split
        next =>
          rw [attemptedFrames_append]
          intro none_
          exact attempts (List.append_eq_nil_iff.mp none_).1
        next => exact attempts

/-! ## Whole messages -/

theorem isotpSend_of_long (env : SendEnv) (canId : UInt32) (long : ¬data.length ≤ 7)
    (script : List (Option (List UInt8))) :
    isotpSend env canId data script =
        ⟨(sendLoop env canId data progressAfterFirstFrame script).ok,
          .canWrite (firstFrame env canId data) (env.accepts 0) ::
            (sendLoop env canId data progressAfterFirstFrame script).events⟩ ∧
      messageFrames env canId data = firstFrame env canId data ::
        consecutiveFrames env canId data progressAfterFirstFrame :=
  ⟨if_neg long, if_neg long⟩

theorem failuresReported_of_short (env : SendEnv) (canId : UInt32) (short : data.length ≤ 7)
    (script : List (Option (List UInt8))) : FailuresReported env canId data script := by
  have single : isotpSend env canId data script = isotpSendSingleFrame env canId data :=
    if_pos short
  have frames : messageFrames env canId data = [singleFrame env canId data] := if_pos short
  constructor
  · rw [single, frames, isotpSendSingleFrame]
    cases env.accepts 0 <;> simp
  · rw [single]
    exact List.pairwise_singleton _ _

theorem failuresReported_of_accepted (canId : UInt32) (long : ¬data.length ≤ 7)
    (accepted : env.accepts 0 = true) (script : List (Option (List UInt8))) :
    FailuresReported env canId data script := by
  rcases isotpSend_of_long env canId long script with ⟨outcomeEq, frames⟩
  constructor
  · rw [outcomeEq, frames, accepted, writtenFrames_accepted, List.cons.injEq, eq_self, true_and]
    exact sendLoop_ok_iff env canId data progressAfterFirstFrame script
  · rw [outcomeEq, accepted]
    exact List.pairwise_cons.mpr ⟨by simp [SendEvent.rejected],
      (sendLoop_reports env canId data progressAfterFirstFrame script).stops⟩

/-- The result of the First Frame's write is lost, and only the controller can end the call. -/
theorem failuresReported_iff_of_rejected (canId : UInt32) (long : ¬data.length ≤ 7)
    (rejected : env.accepts 0 = false) (script : List (Option (List UInt8))) :
    FailuresReported env canId data script ↔ continuesFirst script = false := by
  have unfinished := unfinished_of_long long
  have reports := sendLoop_reports env canId data progressAfterFirstFrame script
  rcases isotpSend_of_long env canId long script with ⟨outcomeEq, frames⟩
  rw [rejected] at outcomeEq
  rw [← sendLoop_attempted_iff env canId unfinished]
  constructor
  · intro failuresReported
    have stops := failuresReported.stops
    rw [outcomeEq] at stops
    rw [← frame_eq_none_of_attemptedFrames]
    intro event eventMem
    exact (List.pairwise_cons.mp stops).1 event eventMem rfl
  · intro none_
    constructor
    · apply iff_of_false
      · intro ok
        rw [outcomeEq] at ok
        have all := (sendLoop_frames ok).1
        rw [none_, consecutiveFrames_of_lt unfinished] at all
        simp at all
      · intro all
        have lengths := congrArg List.length reports.written
        rw [outcomeEq, writtenFrames_rejected, frames] at all
        rw [all, List.length_append, List.length_cons] at lengths
        omega
    · rw [outcomeEq]
      refine List.pairwise_cons.mpr ⟨?_, reports.stops⟩
      intro event eventMem _
      exact frame_eq_none_of_attemptedFrames.mpr none_ event eventMem

end Sending

/-- A failed write ends the message and is reported, unless it is the one of a First Frame
and the sender is let to continue. -/
theorem failuresReported_iff (env : SendEnv) (canId : UInt32) (data : List UInt8)
    (script : List (Option (List UInt8))) :
    FailuresReported env canId data script ↔
      data.length ≤ 7 ∨ env.accepts 0 = true ∨ continuesFirst script = false := by
  by_cases short : data.length ≤ 7
  · exact iff_of_true (failuresReported_of_short env canId short script) (Or.inl short)
  · rw [or_iff_right short]
    cases accepted : env.accepts 0 with
    | true =>
        exact iff_of_true (failuresReported_of_accepted canId short accepted script) (Or.inl rfl)
    | false =>
        rw [or_iff_right Bool.false_ne_true]
        exact failuresReported_iff_of_rejected canId short accepted script

def rejectsFirstFrame : SendEnv where
  stack := fun _ => Vector.replicate 8 0
  accepts := fun offset => offset ≠ 0

def eightByteRequest : List UInt8 :=
  [0x2E, 0xF1, 0x90, 0x56, 0x49, 0x4E, 0x30, 0x31]

/-- The Consecutive Frame is written without its First Frame, and the call reports success. -/
theorem not_failuresReported_rejectsFirstFrame :
    let outcome := isotpSend rejectsFirstFrame udsRequestCanId eightByteRequest
      [some [0x30, 0x01, 0x00]]
    outcome.ok = true ∧
      firstFrame rejectsFirstFrame udsRequestCanId eightByteRequest ∉ writtenFrames outcome.events ∧
      ¬FailuresReported rejectsFirstFrame udsRequestCanId eightByteRequest
        [some [0x30, 0x01, 0x00]] := by
  refine ⟨by decide, by decide, ?_⟩
  intro failuresReported
  have stops := failuresReported.stops
  revert stops
  decide

end Synapse
