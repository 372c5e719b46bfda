import Synapse.Veh.ControlService

/-!
# The control servers

Two servers put control requests on the CAN bus and answer them. The unified server
fills a frame of the socket interface itself; the control server goes through
`CanInterface` and its own frame type. This file embeds both from the request to the
answer, with the results of the socket calls as parameters, and determines when the
answer tells the truth and when both servers write the same frame. A copy over the
end of an array has no result.
-/

namespace Synapse

/-- One call of `write` on the CAN socket. -/
structure CanWrite where
  frame : CanFrame
  accepted : Bool
deriving DecidableEq

/-- What a server does with one request. -/
structure Served where
  writes : List CanWrite
  response : Option UInt8
deriving DecidableEq

def zeroData : Vector UInt8 8 :=
  Vector.replicate 8 0

/-- `memcpy` into the start of a data array. -/
def memcpy (array : Vector UInt8 8) (source : List UInt8) (count : ℕ) :
    Option (Vector UInt8 8) :=
  if count ≤ 8 ∧ count ≤ source.length then some (overwrite array (source.take count)) else none

/-! ## The unified server -/

namespace VehUnifiedServer

/-- The frame for a request; bytes which do not fit are left out. -/
def controlFrame (cmdType : UInt8) (cmdValue : List UInt8) : CanFrame :=
  let len := 1 + cmdValue.length
  let canDlc : UInt8 := if len > 8 then 8 else UInt8.ofNat len
  { canId := vehControlCanId
    canDlc := canDlc
    data := overwrite zeroData (cmdType :: cmdValue.take (canDlc.toNat - 1)) }

def onControlRequest (canTxFd : ℤ) (writeAccepts : Bool) : List UInt8 → Served
  | [] => ⟨[], none⟩
  | cmdType :: cmdValue =>
      let writes := if canTxFd ≥ 0 then [⟨controlFrame cmdType cmdValue, writeAccepts⟩] else []
      ⟨writes, some vehRespOk⟩

end VehUnifiedServer

/-! ## The control server -/

/-- The `CanFrame` structure of the repository. -/
structure VehCanFrame where
  id : UInt32
  dlc : UInt8
  data : Vector UInt8 8

inductive InitOutcome where
  | socketFailed
  | ioctlFailed
  | bindFailed
  | opened
deriving DecidableEq

/-- The answers of the socket calls during one request. -/
structure CanCalls where
  init : InitOutcome
  writeAccepts : Bool

structure CanInterface where
  isOpen : Bool
deriving DecidableEq

namespace CanInterface

/-- A socket which is not bound stays open when the initialisation fails. -/
def init : InitOutcome → Bool × CanInterface
  | .socketFailed => (false, ⟨false⟩)
  | .ioctlFailed => (false, ⟨true⟩)
  | .bindFailed => (false, ⟨true⟩)
  | .opened => (true, ⟨true⟩)

def sendFrame (can : CanInterface) (calls : CanCalls) (frame : VehCanFrame) :
    Option (List CanWrite) :=
  if can.isOpen = false then some []
  else do
    let data ← memcpy zeroData frame.data.toList frame.dlc.toNat
    some [⟨⟨frame.id, frame.dlc, data⟩, calls.writeAccepts⟩]

end CanInterface

namespace VehControlServer

def vehCanSend (can : CanInterface) (calls : CanCalls) (canId : UInt16) (data : List UInt8) :
    Option (CanInterface × List CanWrite) :=
  let (ready, can) := if can.isOpen then (true, can) else CanInterface.init calls.init
  if ready = false then some (can, [])
  else do
    let copied ← memcpy zeroData data data.length
    let frame : VehCanFrame := ⟨canId.toUInt32, UInt8.ofNat data.length, copied⟩
    let writes ← can.sendFrame calls frame
    some (can, writes)

def handleCommand (can : CanInterface) (calls : CanCalls) (cmdType : UInt8)
    (cmdValue : List UInt8) : Option (CanInterface × List CanWrite) :=
  vehCanSend can calls vehControlCanId.toUInt16 (cmdType :: cmdValue)

def onRequest (can : CanInterface) (calls : CanCalls) :
    List UInt8 → Option (CanInterface × Served)
  | [] => some (can, ⟨[], none⟩)
  | cmdType :: cmdValue => do
      let (can, writes) ← handleCommand can calls cmdType cmdValue
      some (can, ⟨writes, some vehRespOk⟩)

end VehControlServer

/-! ## The frame of a request -/

/-- The frame which carries a whole request. -/
def requestFrame (payload : List UInt8) : CanFrame where
  canId := vehControlCanId
  canDlc := UInt8.ofNat payload.length
  data := overwrite zeroData payload

section Frame

variable {payload : List UInt8}

theorem dataBytes_requestFrame (fits : payload.length ≤ 8) :
    (requestFrame payload).dataBytes 0 = payload := by
  have dlcEq : (requestFrame payload).canDlc.toNat = payload.length := by
    rw [requestFrame, UInt8.toNat_ofNat']
    omega
  rw [CanFrame.dataBytes, dlcEq, requestFrame, toList_overwrite _ fits, List.take_left',
    List.drop_zero]
  rfl

theorem controlFrame_of_fits {cmdType : UInt8} {cmdValue : List UInt8}
    (fits : (cmdType :: cmdValue).length ≤ 8) :
    VehUnifiedServer.controlFrame cmdType cmdValue = requestFrame (cmdType :: cmdValue) := by
  rw [List.length_cons] at fits
  have short : ¬cmdValue.length + 1 > 8 := by omega
  have whole : cmdValue.take ((UInt8.ofNat (cmdValue.length + 1)).toNat - 1) = cmdValue := by
    apply List.take_of_length_le
    rw [UInt8.toNat_ofNat']
    omega
  simp only [VehUnifiedServer.controlFrame, Nat.add_comm 1, if_neg short, whole, requestFrame,
    List.length_cons]

theorem length_dataBytes_controlFrame (cmdType : UInt8) (cmdValue : List UInt8) :
    ((VehUnifiedServer.controlFrame cmdType cmdValue).dataBytes 0).length ≤ 8 := by
  simp only [CanFrame.dataBytes, List.drop_zero, List.length_take, Vector.length_toList]
  omega

theorem memcpy_overwrite (fits : payload.length ≤ 8) :
    memcpy zeroData (overwrite zeroData payload).toList payload.length =
      some (overwrite zeroData payload) := by
  rw [memcpy, if_pos ⟨fits, by rw [Vector.length_toList]; exact fits⟩, toList_overwrite _ fits,
    List.take_left']
  rfl

end Frame

/-! ## When the answer is true -/

/-- Some accepted frame carries exactly the request. -/
def OnTheBus (payload : List UInt8) (writes : List CanWrite) : Prop :=
  ∃ write ∈ writes, write.accepted = true ∧ write.frame.canId = vehControlCanId ∧
    write.frame.dataBytes 0 = payload

/-- The request is answered, and with OK only if it is on the bus. -/
def TruthfulAnswer (payload : List UInt8) (served : Served) : Prop :=
  ∃ code, served.response = some code ∧ (code = vehRespOk → OnTheBus payload served.writes)

section Answers

variable {payload : List UInt8}

theorem truthfulAnswer_ok_iff {writes : List CanWrite} :
    TruthfulAnswer payload ⟨writes, some vehRespOk⟩ ↔ OnTheBus payload writes := by
  constructor
  · rintro ⟨code, codeEq, onTheBus⟩
    exact onTheBus (Option.some.inj codeEq).symm
  · intro onTheBus
    exact ⟨vehRespOk, rfl, fun _ => onTheBus⟩

theorem onTheBus_singleton_iff {frame : CanFrame} {accepted : Bool}
    (canId : frame.canId = vehControlCanId) :
    OnTheBus payload [⟨frame, accepted⟩] ↔ accepted = true ∧ frame.dataBytes 0 = payload := by
  simp [OnTheBus, canId]

theorem not_onTheBus_nil : ¬OnTheBus payload [] := by
  simp [OnTheBus]

theorem VehUnifiedServer.truthful_iff (nonempty : payload ≠ []) (canTxFd : ℤ)
    (writeAccepts : Bool) :
    TruthfulAnswer payload (onControlRequest canTxFd writeAccepts payload) ↔
      0 ≤ canTxFd ∧ writeAccepts = true ∧ payload.length ≤ 8 := by
  cases payload with
  | nil => exact absurd rfl nonempty
  | cons cmdType cmdValue =>
      simp only [onControlRequest]
      rw [truthfulAnswer_ok_iff]
      split
      next isOpen =>
        rw [onTheBus_singleton_iff rfl]
        constructor
        · rintro ⟨accepted, whole⟩
          have atMost := length_dataBytes_controlFrame cmdType cmdValue
          rw [whole] at atMost
          exact ⟨isOpen, accepted, atMost⟩
        · rintro ⟨_, accepted, fits⟩
          rw [controlFrame_of_fits fits]
          exact ⟨accepted, dataBytes_requestFrame fits⟩
      next isClosed => exact iff_of_false not_onTheBus_nil (fun cond => isClosed cond.1)

namespace VehControlServer

/-- With an open socket, a request which fits is written as one frame. -/
theorem sendFrame_of_fits (calls : CanCalls) (fits : payload.length ≤ 8) :
    CanInterface.sendFrame ⟨true⟩ calls
        ⟨vehControlCanId.toUInt16.toUInt32, UInt8.ofNat payload.length,
          overwrite zeroData payload⟩ =
      some [⟨requestFrame payload, calls.writeAccepts⟩] := by
  have dlcEq : (UInt8.ofNat payload.length).toNat = payload.length := by
    rw [UInt8.toNat_ofNat']
    omega
  have idEq : vehControlCanId.toUInt16.toUInt32 = vehControlCanId := by decide
  simp only [CanInterface.sendFrame, dlcEq, memcpy_overwrite fits, idEq]
  rfl

theorem memcpy_whole (payload : List UInt8) :
    memcpy zeroData payload payload.length =
      if payload.length ≤ 8 then some (overwrite zeroData payload) else none := by
  rw [memcpy]
  simp

theorem ensureOpen_of_opens {can : CanInterface} {calls : CanCalls}
    (opens : can.isOpen = true ∨ calls.init = .opened) :
    (if can.isOpen then (true, can) else CanInterface.init calls.init) = (true, ⟨true⟩) := by
  rcases can with ⟨isOpen⟩
  cases isOpen with
  | true => rfl
  | false =>
      rcases opens with already | opened
      · simp at already
      · rw [opened]
        rfl

theorem vehCanSend_of_opens {can : CanInterface} {calls : CanCalls}
    (opens : can.isOpen = true ∨ calls.init = .opened) :
    vehCanSend can calls vehControlCanId.toUInt16 payload =
      if payload.length ≤ 8 then some (⟨true⟩, [⟨requestFrame payload, calls.writeAccepts⟩])
      else none := by
  simp only [vehCanSend, ensureOpen_of_opens opens, memcpy_whole, Bool.true_eq_false, if_false]
  by_cases fits : payload.length ≤ 8
  · simp only [if_pos fits, Option.bind_eq_bind, Option.bind_some, sendFrame_of_fits calls fits]
  · simp only [if_neg fits]
    rfl

theorem vehCanSend_of_not_opens {can : CanInterface} {calls : CanCalls}
    (opens : ¬(can.isOpen = true ∨ calls.init = .opened)) (data : List UInt8) (canId : UInt16) :
    vehCanSend can calls canId data = some ((CanInterface.init calls.init).2, []) := by
  rcases not_or.mp opens with ⟨closed, fails⟩
  have failed : (CanInterface.init calls.init).1 = false := by
    cases outcome : calls.init with
    | socketFailed => rfl
    | ioctlFailed => rfl
    | bindFailed => rfl
    | opened => exact absurd outcome fails
  simp only [vehCanSend, if_neg closed, failed]
  rfl

/-- Everything which the control server does with a request. -/
theorem onRequest_cases (nonempty : payload ≠ []) (can : CanInterface) (calls : CanCalls) :
    (¬(can.isOpen = true ∨ calls.init = .opened) ∧
      onRequest can calls payload =
        some ((CanInterface.init calls.init).2, ⟨[], some vehRespOk⟩)) ∨
    ((can.isOpen = true ∨ calls.init = .opened) ∧
      onRequest can calls payload =
        if payload.length ≤ 8 then
          some (⟨true⟩, ⟨[⟨requestFrame payload, calls.writeAccepts⟩], some vehRespOk⟩)
        else none) := by
  cases payload with
  | nil => exact absurd rfl nonempty
  | cons cmdType cmdValue =>
      simp only [onRequest, handleCommand]
      by_cases opens : can.isOpen = true ∨ calls.init = .opened
      · right
        refine ⟨opens, ?_⟩
        rw [vehCanSend_of_opens opens]
        split
        · rfl
        · rfl
      · left
        refine ⟨opens, ?_⟩
        rw [vehCanSend_of_not_opens opens]
        rfl

theorem truthful_iff (nonempty : payload ≠ []) (can : CanInterface) (calls : CanCalls) :
    (∃ next served, onRequest can calls payload = some (next, served) ∧
        TruthfulAnswer payload served) ↔
      (can.isOpen = true ∨ calls.init = .opened) ∧ calls.writeAccepts = true ∧
        payload.length ≤ 8 := by
  rcases onRequest_cases nonempty can calls with ⟨opens, servedEq⟩ | ⟨opens, servedEq⟩
  · refine iff_of_false ?_ (fun cond => opens cond.1)
    rintro ⟨next, served, servedAs, truthful⟩
    rw [servedEq, Option.some.injEq, Prod.mk.injEq] at servedAs
    rw [← servedAs.2, truthfulAnswer_ok_iff] at truthful
    exact not_onTheBus_nil truthful
  · rw [servedEq]
    constructor
    · rintro ⟨next, served, servedAs, truthful⟩
      split at servedAs
      next fits =>
        rw [Option.some.injEq, Prod.mk.injEq] at servedAs
        rw [← servedAs.2, truthfulAnswer_ok_iff, onTheBus_singleton_iff rfl] at truthful
        exact ⟨opens, truthful.1, fits⟩
      next => simp at servedAs
    · rintro ⟨_, accepted, fits⟩
      refine ⟨_, _, if_pos fits, ?_⟩
      rw [truthfulAnswer_ok_iff, onTheBus_singleton_iff rfl]
      exact ⟨accepted, dataBytes_requestFrame fits⟩

end VehControlServer

/-- Both servers answer truthfully exactly if the socket is open, takes the frame, and the request
fits into one frame. -/
theorem controlServers_truthful_iff (nonempty : payload ≠ []) (canTxFd : ℤ) (writeAccepts : Bool)
    (can : CanInterface) (calls : CanCalls) :
    (TruthfulAnswer payload (VehUnifiedServer.onControlRequest canTxFd writeAccepts payload) ↔
      0 ≤ canTxFd ∧ writeAccepts = true ∧ payload.length ≤ 8) ∧
    ((∃ next served, VehControlServer.onRequest can calls payload = some (next, served) ∧
        TruthfulAnswer payload served) ↔
      (can.isOpen = true ∨ calls.init = .opened) ∧ calls.writeAccepts = true ∧
        payload.length ≤ 8) :=
  ⟨VehUnifiedServer.truthful_iff nonempty canTxFd writeAccepts,
    VehControlServer.truthful_iff nonempty can calls⟩

/-! ## When both servers write the same frame -/

/-- With open sockets which take every frame, the control server stays inside its buffers and
writes the frame of the unified server. -/
def SameFrame (payload : List UInt8) (canTxFd : ℤ) (can : CanInterface) (calls : CanCalls) :
    Prop :=
  ∃ next response frame unified,
    VehControlServer.onRequest can calls payload = some (next, ⟨[⟨frame, true⟩], response⟩) ∧
    (VehUnifiedServer.onControlRequest canTxFd true payload).writes = [⟨unified, true⟩] ∧
    frame.canId = unified.canId ∧ frame.canDlc = unified.canDlc ∧ frame.canDlc.toNat ≤ 8 ∧
    frame.dataBytes 0 = unified.dataBytes 0

/-- The servers are interchangeable exactly for the requests which fit into one frame. -/
theorem sameFrame_iff (nonempty : payload ≠ []) {canTxFd : ℤ} (unifiedOpen : 0 ≤ canTxFd)
    {can : CanInterface} (isOpen : can.isOpen = true) {calls : CanCalls}
    (accepts : calls.writeAccepts = true) :
    SameFrame payload canTxFd can calls ↔ payload.length ≤ 8 := by
  rcases VehControlServer.onRequest_cases nonempty can calls with ⟨closed, _⟩ | ⟨_, servedEq⟩
  · exact absurd (Or.inl isOpen) closed
  · rw [SameFrame, servedEq]
    constructor
    · rintro ⟨next, response, frame, unified, servedAs, _⟩
      by_contra tooLong
      rw [if_neg tooLong] at servedAs
      simp at servedAs
    · intro fits
      have unifiedEq : (VehUnifiedServer.onControlRequest canTxFd true payload).writes =
          [⟨requestFrame payload, true⟩] := by
        cases payload with
        | nil => exact absurd rfl nonempty
        | cons cmdType cmdValue =>
            simp only [VehUnifiedServer.onControlRequest, if_pos unifiedOpen,
              controlFrame_of_fits fits]
      have dlcEq : (requestFrame payload).canDlc.toNat = payload.length := by
        rw [requestFrame, UInt8.toNat_ofNat']
        omega
      rw [if_pos fits, accepts]
      refine ⟨_, _, _, _, rfl, unifiedEq, rfl, rfl, ?_, rfl⟩
      rw [dlcEq]
      exact fits

end Answers

/-- A password of eight characters, one more than a frame carries. -/
def longPassword : List UInt8 :=
  [0x05, 0x73, 0x65, 0x63, 0x72, 0x65, 0x74, 0x31, 0x32]

def driveForward : List UInt8 :=
  [0x01, 0x08]

theorem controlServers_truthful_driveForward :
    (TruthfulAnswer driveForward (VehUnifiedServer.onControlRequest 3 true driveForward) ↔
      0 ≤ (3 : ℤ) ∧ true = true ∧ driveForward.length ≤ 8) ∧
    ((∃ next served, VehControlServer.onRequest ⟨false⟩ ⟨.opened, true⟩ driveForward =
          some (next, served) ∧ TruthfulAnswer driveForward served) ↔
      ((⟨false⟩ : CanInterface).isOpen = true ∨ InitOutcome.opened = .opened) ∧ true = true ∧
        driveForward.length ≤ 8) :=
  controlServers_truthful_iff (by decide) 3 true ⟨false⟩ ⟨.opened, true⟩

/-- Neither server looks at the result of `write` when it answers. -/
theorem rejected_write_answered_ok :
    (VehUnifiedServer.onControlRequest 3 false driveForward).response = some vehRespOk ∧
      ¬TruthfulAnswer driveForward (VehUnifiedServer.onControlRequest 3 false driveForward) ∧
      VehControlServer.onRequest ⟨true⟩ ⟨.opened, false⟩ driveForward =
        some (⟨true⟩, ⟨[⟨requestFrame driveForward, false⟩], some vehRespOk⟩) ∧
      ¬TruthfulAnswer driveForward ⟨[⟨requestFrame driveForward, false⟩], some vehRespOk⟩ := by
  refine ⟨rfl, ?_, by decide, ?_⟩
  · rw [VehUnifiedServer.truthful_iff (by decide)]
    decide
  · rw [truthfulAnswer_ok_iff, onTheBus_singleton_iff rfl]
    decide

theorem sameFrame_driveForward :
    SameFrame driveForward 3 ⟨true⟩ ⟨.opened, true⟩ ↔ driveForward.length ≤ 8 :=
  sameFrame_iff (by decide) (by decide) rfl rfl

/-- The unified server cuts the password off, the control server copies over the end of its
frame. -/
theorem not_sameFrame_longPassword :
    (VehUnifiedServer.onControlRequest 3 true longPassword).response = some vehRespOk ∧
      VehControlServer.onRequest ⟨true⟩ ⟨.opened, true⟩ longPassword = none ∧
      ¬SameFrame longPassword 3 ⟨true⟩ ⟨.opened, true⟩ := by
  have undefined : VehControlServer.onRequest ⟨true⟩ ⟨.opened, true⟩ longPassword = none := by
    decide
  refine ⟨rfl, undefined, ?_⟩
  rintro ⟨next, response, frame, unified, servedAs, _⟩
  rw [undefined] at servedAs
  simp at servedAs

end Synapse
