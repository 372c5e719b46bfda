import Synapse.Can

/-!
# The status service

Status frames of the vehicle become events, and the Qt client turns an event into a
signal. This file gives the shared numbering of the events, the two publishers from
the CAN socket to the event payload and the decoder of the Qt client, and compares what
the client emits with the status frames on the bus.
-/

namespace Synapse

def vehStatusCanId : UInt32 := 0x310

def canEffFlag : UInt32 := 0x80000000

inductive StatusType where
  | aebState
  | autoparkState
  | tofDistance
  | authState
deriving DecidableEq

def StatusType.toByte : StatusType → UInt8
  | .aebState => 0x01
  | .autoparkState => 0x02
  | .tofDistance => 0x03
  | .authState => 0x04

def StatusType.all : List StatusType :=
  [.aebState, .autoparkState, .tofDistance, .authState]

def StatusType.ofByte? (byte : UInt8) : Option StatusType :=
  all.find? fun statusType => statusType.toByte == byte

/-- The signals of the Qt client. -/
inductive Signal where
  | aebStateChanged (active : Bool)
  | autoparkStateChanged (state : UInt8)
  | tofChanged (mm : UInt32)
  | authStateChanged (ok : Bool)
deriving DecidableEq

/-- Three bytes, most significant first, put together with shifts. -/
def bigEndian24 (high middle low : UInt8) : UInt32 :=
  (high.toUInt32 <<< 16) ||| (middle.toUInt32 <<< 8) ||| low.toUInt32

/-- The Qt client on an event payload. -/
def VsClientThread.onEvent (data : List UInt8) : Option Signal :=
  if data.length < 2 then none
  else
    match StatusType.ofByte? data[0]! with
    | some .aebState => some (.aebStateChanged (data[1]! != 0x00))
    | some .autoparkState => some (.autoparkStateChanged data[1]!)
    | some .tofDistance =>
        if data.length ≥ 4 then some (.tofChanged (bigEndian24 data[1]! data[2]! data[3]!))
        else none
    | some .authState => some (.authStateChanged (data[1]! != 0x00))
    | none => none

/-! ## The publishers -/

namespace VehUnifiedServer

/-- The filter of the listener; the server goes on when it cannot be installed. -/
def statusFilter : CanFilter where
  canId := vehStatusCanId
  canMask := canSffMask

def publishStatus (type : UInt8) (val : List UInt8) : List UInt8 :=
  type :: val

/-- One pass of the listener loop: the payload which it publishes, if any. -/
def listen : CanRead → Option (List UInt8)
  | .failed => none
  | .frame frame =>
      if frame.canId &&& canEffFlag = 0 ∧ frame.canId = vehStatusCanId ∧ frame.canDlc ≥ 2 then
        let statusType := frame.data[0]!
        if statusType = 0x03 ∧ frame.canDlc ≥ 4 then
          some (publishStatus statusType ((frame.data.toList.take 4).drop 1))
        else some (publishStatus statusType (frame.dataBytes 1))
      else none

def canListenerLoop (filterInstalled : Bool) (traffic : List CanRead) : List (List UInt8) :=
  (if filterInstalled then statusFilter.received traffic else traffic).filterMap listen

end VehUnifiedServer

namespace VehStatusPublisher

def makePayload (type : UInt8) (val : List UInt8) : List UInt8 :=
  type :: val

/-- One pass of the publisher's loop: the payload which it publishes, if any. -/
def publishOnce : CanRead → Option (List UInt8)
  | .failed => none
  | .frame frame =>
      if frame.canId = 0x310 ∧ frame.canDlc ≥ 2 then
        some (makePayload frame.data[0]! (frame.dataBytes 1))
      else none

def publishLoop (traffic : List CanRead) : List (List UInt8) :=
  traffic.filterMap publishOnce

end VehStatusPublisher

/-! ## The reference -/

/-- What a status frame of the vehicle means. -/
def statusSignal (frame : ReceivedFrame) : Option Signal :=
  if frame.data[0]! = 1 then some (.aebStateChanged (decide (frame.data[1]! ≠ 0)))
  else if frame.data[0]! = 2 then some (.autoparkStateChanged frame.data[1]!)
  else if frame.data[0]! = 3 then
    if 4 ≤ frame.canDlc.toNat then
      some (.tofChanged (UInt32.ofNat
        (Bytes.ofBigEndian [frame.data[1]!, frame.data[2]!, frame.data[3]!])))
    else none
  else if frame.data[0]! = 4 then some (.authStateChanged (decide (frame.data[1]! ≠ 0)))
  else none

/-- The signal of one read: only standard frames with the status identifier and a value count. -/
def referenceSignal : CanRead → Option Signal
  | .failed => none
  | .frame frame =>
      if frame.canId = 0x310 ∧ 2 ≤ frame.canDlc.toNat then statusSignal frame else none

section Signals

variable {frame : ReceivedFrame}

theorem bigEndian24_eq (high middle low : UInt8) :
    bigEndian24 high middle low = UInt32.ofNat (Bytes.ofBigEndian [high, middle, low]) := by
  have highLt := high.toNat_lt
  have middleLt := middle.toNat_lt
  have lowLt := low.toNat_lt
  rw [← UInt32.toNat_inj, bigEndian24, Bytes.toNat_threeBytes, UInt32.toNat_ofNat']
  simp only [Bytes.ofBigEndian, List.foldl_cons, List.foldl_nil]
  omega

theorem bne_zero_eq (byte : UInt8) : (byte != 0x00) = decide (byte ≠ 0) := by
  by_cases zero : byte = 0 <;> simp [zero]

theorem statusType_cases (type : UInt8) :
    type = 1 ∧ StatusType.ofByte? type = some .aebState ∨
    type = 2 ∧ StatusType.ofByte? type = some .autoparkState ∨
    type = 3 ∧ StatusType.ofByte? type = some .tofDistance ∨
    type = 4 ∧ StatusType.ofByte? type = some .authState ∨
    (type ≠ 1 ∧ type ≠ 2 ∧ type ≠ 3 ∧ type ≠ 4) ∧ StatusType.ofByte? type = none := by
  by_cases one : type = 1
  · rw [one]
    decide
  · by_cases two : type = 2
    · rw [two]
      decide
    · by_cases three : type = 3
      · rw [three]
        decide
      · by_cases four : type = 4
        · rw [four]
          decide
        · right; right; right; right
          refine ⟨⟨one, two, three, four⟩, ?_⟩
          simp [StatusType.ofByte?, StatusType.all, StatusType.toByte, Ne.symm one, Ne.symm two,
            Ne.symm three, Ne.symm four]

theorem getElem!_dataBytes {index : ℕ} (carried : index < frame.canDlc.toNat) :
    (frame.dataBytes 0)[index]! = frame.data[index]! := by
  have fits := frame.canDlc_le
  have inside : index < (frame.dataBytes 0).length := by
    rw [frame.length_dataBytes]
    exact carried
  simp only [getElem!_pos, inside, show index < 8 by omega]
  simp [CanFrame.dataBytes]

/-- The whole data of a status frame, decoded. -/
theorem onEvent_dataBytes (carried : 2 ≤ frame.canDlc.toNat) :
    VsClientThread.onEvent (frame.data[0]! :: frame.dataBytes 1) = statusSignal frame := by
  have length := frame.length_dataBytes 0
  rw [← frame.dataBytes_cons (show 0 < frame.canDlc.toNat by omega), VsClientThread.onEvent,
    if_neg (by omega), getElem!_dataBytes (by omega), getElem!_dataBytes (by omega), statusSignal]
  rcases statusType_cases frame.data[0]! with ⟨type, kind⟩ | ⟨type, kind⟩ | ⟨type, kind⟩ |
    ⟨type, kind⟩ | ⟨⟨one, two, three, four⟩, kind⟩
  · rw [kind, type, bne_zero_eq]
    rfl
  · rw [kind, type]
    rfl
  · rw [kind, type]
    by_cases long : 4 ≤ frame.canDlc.toNat
    · rw [getElem!_dataBytes (by omega), getElem!_dataBytes (by omega), if_pos long,
        ← bigEndian24_eq]
      exact if_pos (by omega)
    · rw [if_neg long]
      exact if_neg (by omega)
  · rw [kind, type, bne_zero_eq]
    rfl
  · rw [kind, if_neg one, if_neg two, if_neg three, if_neg four]

/-- A distance cut to three bytes is decoded like the whole data. -/
theorem onEvent_cut (type : frame.data[0]! = 3) (long : 4 ≤ frame.canDlc.toNat) :
    VsClientThread.onEvent (frame.data[0]! :: (frame.data.toList.take 4).drop 1) =
      statusSignal frame := by
  have cut : (frame.data.toList.take 4).drop 1 =
      [frame.data[1]!, frame.data[2]!, frame.data[3]!] := by
    apply List.ext_getElem
    · simp
    · intro index indexLt _
      simp only [List.length_drop, List.length_take, Vector.length_toList] at indexLt
      have small : index = 0 ∨ index = 1 ∨ index = 2 := by omega
      rcases small with rfl | rfl | rfl <;> simp
  rw [cut, type, statusSignal, type]
  simp only [if_pos long, ← bigEndian24_eq]
  rfl

theorem listen_signal (read : CanRead) :
    (VehUnifiedServer.listen read).bind VsClientThread.onEvent = referenceSignal read := by
  cases read with
  | failed => rfl
  | frame frame =>
      have dlcIff : frame.canDlc ≥ 2 ↔ 2 ≤ frame.canDlc.toNat := UInt8.le_iff_toNat_le
      have longIff : frame.canDlc ≥ 4 ↔ 4 ≤ frame.canDlc.toNat := UInt8.le_iff_toNat_le
      rw [VehUnifiedServer.listen, referenceSignal]
      by_cases status : frame.canId = 0x310 ∧ 2 ≤ frame.canDlc.toNat
      · have standard : frame.canId &&& canEffFlag = 0 := by
          rw [status.1]
          decide
        rw [if_pos status, if_pos ⟨standard, status.1, dlcIff.mpr status.2⟩]
        by_cases distance : frame.data[0]! = 0x03 ∧ frame.canDlc ≥ 4
        · simp only [if_pos distance]
          exact onEvent_cut distance.1 (longIff.mp distance.2)
        · simp only [if_neg distance]
          exact onEvent_dataBytes status.2
      · rw [if_neg status, if_neg (fun cond => status ⟨cond.2.1, dlcIff.mp cond.2.2⟩)]
        rfl

theorem publishOnce_signal (read : CanRead) :
    (VehStatusPublisher.publishOnce read).bind VsClientThread.onEvent = referenceSignal read := by
  cases read with
  | failed => rfl
  | frame frame =>
      have dlcIff : frame.canDlc ≥ 2 ↔ 2 ≤ frame.canDlc.toNat := UInt8.le_iff_toNat_le
      rw [VehStatusPublisher.publishOnce, referenceSignal]
      by_cases status : frame.canId = 0x310 ∧ 2 ≤ frame.canDlc.toNat
      · rw [if_pos status, if_pos ⟨status.1, dlcIff.mpr status.2⟩]
        exact onEvent_dataBytes status.2
      · rw [if_neg status, if_neg (fun cond => status ⟨cond.1, dlcIff.mp cond.2⟩)]
        rfl

/-- A frame which the filter keeps back has no signal. -/
theorem referenceSignal_of_not_delivered {read : CanRead}
    (keptBack : VehUnifiedServer.statusFilter.delivers read = false) :
    referenceSignal read = none := by
  cases read with
  | failed => rfl
  | frame frame =>
      apply if_neg
      intro status
      change VehUnifiedServer.statusFilter.passes frame.canId = false at keptBack
      rw [status.1] at keptBack
      revert keptBack
      decide

end Signals

theorem filterMap_received (traffic : List CanRead) :
    (VehUnifiedServer.statusFilter.received traffic).filterMap referenceSignal =
      traffic.filterMap referenceSignal := by
  induction traffic with
  | nil => rfl
  | cons read traffic ih =>
      rw [CanFilter.received] at ih ⊢
      cases delivered : VehUnifiedServer.statusFilter.delivers read with
      | true => rw [List.filter_cons_of_pos delivered, List.filterMap_cons, List.filterMap_cons, ih]
      | false =>
          rw [List.filter_cons_of_neg (by simp [delivered]), ih, List.filterMap_cons,
            referenceSignal_of_not_delivered delivered]

/-- Through either publisher, the Qt client emits exactly the signals of the status frames. -/
theorem statusPublishers_signals (filterInstalled : Bool) (traffic : List CanRead) :
    (VehUnifiedServer.canListenerLoop filterInstalled traffic).filterMap
        VsClientThread.onEvent = traffic.filterMap referenceSignal ∧
      (VehStatusPublisher.publishLoop traffic).filterMap VsClientThread.onEvent =
        traffic.filterMap referenceSignal := by
  have listens : ∀ reads : List CanRead, (reads.filterMap VehUnifiedServer.listen).filterMap
      VsClientThread.onEvent = reads.filterMap referenceSignal := by
    intro reads
    rw [List.filterMap_filterMap]
    exact List.filterMap_congr fun read _ => listen_signal read
  constructor
  · rw [VehUnifiedServer.canListenerLoop, listens]
    cases filterInstalled with
    | true => exact filterMap_received traffic
    | false => rfl
  · rw [VehStatusPublisher.publishLoop, List.filterMap_filterMap]
    exact List.filterMap_congr fun read _ => publishOnce_signal read

end Synapse
