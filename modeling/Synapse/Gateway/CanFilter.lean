import Synapse.Gateway.CarriedBytes

/-!
# The filter of the gateway's CAN socket

The socket of a session has one filter, and neither the forwarder nor the
reassembly looks at the identifier of a frame again. This file compares what the
forwarder does on the frames which pass the filter with what it does on the frames of
the controller alone.
-/

namespace Synapse

open LockedStream

/-- The filter which `setup_can_socket` installs. -/
def rfilter : CanFilter where
  canId := udsResponseCanId
  canMask := canSffMask

def CanRead.isFromEcu (read : CanRead) : Bool :=
  read.canId?.all (· == udsResponseCanId)

/-- The standard data frames of the controller. -/
def fromEcu (traffic : List CanRead) : List CanRead :=
  traffic.filter CanRead.isFromEcu

/-- The inputs of a forwarder whose surroundings answer `env index` behind the read `index`. -/
def answered (env : ℕ → Bool × Bool) (reads : List CanRead) : List ForwarderInput :=
  reads.mapIdx fun index read => ⟨read, (env index).1, (env index).2⟩

/-- In all surroundings, the frames of the controller alone have the effects of the traffic. -/
def OnlyEcuSpeaks (traffic : List CanRead) : Prop :=
  ∀ env, SameEffects
    (canToDoipForwarder.output .dispatch (answered env (rfilter.received traffic)))
    (canToDoipForwarder.output .dispatch (answered env (fromEcu traffic)))

theorem rfilter_passes_ecu : rfilter.passes udsResponseCanId = true := by
  decide

theorem received_eq_fromEcu {traffic : List CanRead}
    (foreign : ∀ canId, some canId ∈ traffic.map CanRead.canId? → rfilter.passes canId = true →
      canId = udsResponseCanId) : rfilter.received traffic = fromEcu traffic := by
  apply List.filter_congr
  intro read readMem
  cases read with
  | failed => rfl
  | frame rxFrame =>
      have idMem : some rxFrame.canId ∈ traffic.map CanRead.canId? :=
        List.mem_map.mpr ⟨.frame rxFrame, readMem, rfl⟩
      have only := foreign rxFrame.canId idMem
      change rfilter.passes rxFrame.canId = (rxFrame.canId == udsResponseCanId)
      by_cases same : rxFrame.canId = udsResponseCanId
      · rw [same, rfilter_passes_ecu]
        rfl
      · rw [Bool.eq_false_iff.mpr (mt only same)]
        exact (beq_eq_false_iff_ne.mpr same).symm

/-! ## A foreign frame which passes -/

/-- A read without effect, with a given identifier: no frame, or one of an unused type. -/
def quietRead : Option UInt32 → CanRead
  | none => .failed
  | some canId => .frame { ReceivedFrame.full (Vector.replicate 8 0x40) with canId := canId }

/-- A complete response, with a given identifier. -/
def speakingFrame (canId : UInt32) : ReceivedFrame :=
  { ReceivedFrame.full #v[0x02, 0x7E, 0x01, 0, 0, 0, 0, 0] with canId := canId }

theorem canId?_quietRead (canId : Option UInt32) : (quietRead canId).canId? = canId := by
  cases canId <;> rfl

theorem step_quietRead (canId : Option UInt32) :
    canToDoipForwarder.step .dispatch (.live (quietRead canId) true) = (.dispatch, []) := by
  cases canId with
  | none => rfl
  | some canId =>
      apply dispatchFrame_of_stray
      right
      change (4 : UInt8) ≤ ((Vector.replicate 8 (0x40 : UInt8))[0]! &&& 0xF0) >>> 4
      decide

theorem run_quietReads (ids : List (Option UInt32)) (keep : CanRead → Bool) :
    canToDoipForwarder.stateAfter .dispatch (liveReads ((ids.map quietRead).filter keep)) =
        .dispatch ∧
      canToDoipForwarder.output .dispatch (liveReads ((ids.map quietRead).filter keep)) = [] := by
  apply canToDoipForwarder.run_of_absorbing
  intro input inputMem
  rcases List.mem_map.mp inputMem with ⟨read, readMem, rfl⟩
  rcases List.mem_map.mp (List.mem_of_mem_filter readMem) with ⟨canId, _, rfl⟩
  exact step_quietRead canId

/-- Quiet reads around a frame in the forwarder's own loop add nothing. -/
theorem output_amongQuietReads (before after : List (Option UInt32)) (keep : CanRead → Bool)
    (reads : List CanRead)
    (returns : canToDoipForwarder.stateAfter .dispatch (liveReads reads) = .dispatch) :
    canToDoipForwarder.output .dispatch (liveReads ((before.map quietRead).filter keep ++
        (reads ++ (after.map quietRead).filter keep))) =
      canToDoipForwarder.output .dispatch (liveReads reads) := by
  rw [liveReads_append, liveReads_append, Transducer.output_append, Transducer.output_append,
    (run_quietReads before keep).1, (run_quietReads before keep).2, returns,
    (run_quietReads after keep).2, List.nil_append, List.append_nil]

theorem answered_live (reads : List CanRead) :
    answered (fun _ => (true, true)) reads = liveReads reads := by
  apply List.ext_getElem
  · simp [answered, liveReads]
  · intro index _ _
    simp [answered, liveReads, ForwarderInput.live]

theorem step_speakingFrame (canId : UInt32) :
    canToDoipForwarder.step .dispatch (liveFrame (speakingFrame canId)) =
      (.dispatch, writeLocked (forwardedMessage [0x7E, 0x01])) := by
  apply step_of_single
  · change ((speakingFrame 0).data[0]! &&& 0xF0) >>> 4 = 0
    decide
  · change isotpHandleSingleFrame (speakingFrame 0).toCanFrame = _
    decide
  · decide

/-- One foreign frame which passes is enough for traffic in which it is heard. -/
theorem not_onlyEcuSpeaks_of_passes (before after : List (Option UInt32)) {canId : UInt32}
    (passes : rfilter.passes canId = true) (foreign : canId ≠ udsResponseCanId) :
    ¬OnlyEcuSpeaks
      (before.map quietRead ++ .frame (speakingFrame canId) :: after.map quietRead) := by
  intro only
  have heard : rfilter.received
      (before.map quietRead ++ .frame (speakingFrame canId) :: after.map quietRead) =
        (before.map quietRead).filter rfilter.delivers ++
          ([.frame (speakingFrame canId)] ++ (after.map quietRead).filter rfilter.delivers) := by
    have kept : rfilter.delivers (.frame (speakingFrame canId)) = true := passes
    rw [CanFilter.received, List.filter_append, List.filter_cons_of_pos kept]
    rfl
  have unheard : fromEcu
      (before.map quietRead ++ .frame (speakingFrame canId) :: after.map quietRead) =
        (before.map quietRead).filter CanRead.isFromEcu ++
          ([] ++ (after.map quietRead).filter CanRead.isFromEcu) := by
    have dropped : ¬(CanRead.frame (speakingFrame canId)).isFromEcu = true := by
      intro same
      exact foreign (eq_of_beq same)
    rw [fromEcu, List.filter_append, List.filter_cons_of_neg dropped]
    rfl
  have speaks := canToDoipForwarder.run_of_step (step_speakingFrame canId) []
  have returns : canToDoipForwarder.stateAfter .dispatch
      (liveReads [.frame (speakingFrame canId)]) = .dispatch := speaks.1
  have messages := (only fun _ => (true, true)).messages
  rw [answered_live, answered_live, heard, unheard,
    output_amongQuietReads before after _ _ returns, output_amongQuietReads before after _ [] rfl]
    at messages
  change writes (canToDoipForwarder.output .dispatch [liveFrame (speakingFrame canId)]) = []
    at messages
  rw [speaks.2] at messages
  simp at messages

/-- Frames which are not standard data frames of the controller have no influence, whatever all
frames carry, if and only if the filter lets none of them pass. -/
theorem onlyEcuSpeaks_iff (ids : List (Option UInt32)) :
    (∀ traffic, traffic.map CanRead.canId? = ids → OnlyEcuSpeaks traffic) ↔
      ∀ canId, some canId ∈ ids → rfilter.passes canId = true → canId = udsResponseCanId := by
  constructor
  · intro only canId idMem passes
    by_contra foreign
    rcases List.append_of_mem idMem with ⟨before, after, rfl⟩
    apply not_onlyEcuSpeaks_of_passes before after passes foreign
    apply only
    have quietIds : ∀ ids : List (Option UInt32), (ids.map quietRead).map CanRead.canId? = ids := by
      intro ids
      rw [List.map_map]
      exact List.map_id'' canId?_quietRead ids
    rw [List.map_append, List.map_cons, quietIds, quietIds]
    rfl
  · intro foreign traffic idsEq env
    rw [received_eq_fromEcu (by rwa [idsEq])]
    exact SameEffects.refl _

/-- An extended identifier whose low eleven bits are those of the controller. -/
def extendedCanId : UInt32 := 0x98DAF7E8

theorem extendedFrame_speaks :
    rfilter.passes extendedCanId = true ∧ extendedCanId ≠ udsResponseCanId ∧
      ¬OnlyEcuSpeaks [.frame (speakingFrame extendedCanId)] := by
  refine ⟨by decide, by decide, ?_⟩
  exact not_onlyEcuSpeaks_of_passes [] [] (by decide) (by decide)

end Synapse
