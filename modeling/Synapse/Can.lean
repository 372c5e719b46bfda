import Synapse.Library.Bytes

/-!
# CAN frames

This file gives the classic CAN frame of the socket interface and the accesses
which the gateway makes to its data array. Copies out of the array are partial:
a range which is reversed or leaves the array is not defined in the source
language, and the model keeps that visible instead of choosing a value.
-/

namespace Synapse

/-- The `can_frame` structure of the socket interface. -/
structure CanFrame where
  canId : UInt32
  canDlc : UInt8
  /-- The data array; the bytes from `canDlc` on are not on the bus. -/
  data : Vector UInt8 8
deriving DecidableEq

namespace CanFrame

/-- The protocol control information in the high nibble of the first data byte. -/
def pciType (frame : CanFrame) : UInt8 :=
  (frame.data[0]! &&& 0xF0) >>> 4

/-- The bytes `data[first..last)`, when this is a forward range inside the array. -/
def range (frame : CanFrame) (first last : ℕ) : Option (List UInt8) :=
  if first ≤ last ∧ last ≤ 8 then some ((frame.data.toList.take last).drop first) else none

/-- The data array starts with `control` and `bytes`, and both are on the bus. -/
def Carries (frame : CanFrame) (control bytes : List UInt8) : Prop :=
  control.length + bytes.length ≤ frame.canDlc.toNat ∧
    ∃ padding, frame.data.toList = control ++ bytes ++ padding

/-- The bytes on the bus behind the first `control` ones. -/
def dataBytes (frame : CanFrame) (control : ℕ) : List UInt8 :=
  (frame.data.toList.take frame.canDlc.toNat).drop control

theorem toNat_pciType (frame : CanFrame) : frame.pciType.toNat = frame.data[0]!.toNat / 16 :=
  Bytes.toNat_highNibble _

theorem pciType_eq_iff (frame : CanFrame) (kind : UInt8) :
    frame.pciType = kind ↔ frame.data[0]!.toNat / 16 = kind.toNat := by
  rw [← UInt8.toNat_inj, toNat_pciType]

theorem Carries.data_zero {frame : CanFrame} {byte : UInt8} {control bytes : List UInt8}
    (carries : frame.Carries (byte :: control) bytes) : frame.data[0]! = byte := by
  rcases carries.2 with ⟨padding, dataEq⟩
  have first : frame.data.toList[0]? = some byte := by simp [dataEq]
  simpa [Vector.get] using first

theorem Carries.data_one {frame : CanFrame} {byte second : UInt8} {control bytes : List UInt8}
    (carries : frame.Carries (byte :: second :: control) bytes) : frame.data[1]! = second := by
  rcases carries.2 with ⟨padding, dataEq⟩
  have first : frame.data.toList[1]? = some second := by simp [dataEq]
  simpa [Vector.get] using first

theorem Carries.range_eq {frame : CanFrame} {control bytes : List UInt8}
    (carries : frame.Carries control bytes) :
    frame.range control.length (control.length + bytes.length) = some bytes := by
  rcases carries.2 with ⟨padding, dataEq⟩
  have total := congrArg List.length dataEq
  simp only [Vector.length_toList, List.length_append] at total
  rw [range, if_pos (by omega), dataEq, ← List.length_append, List.take_left', List.drop_left]
  rfl

end CanFrame

/-- A frame which `read` delivers: the kernel reports at most eight data bytes. -/
structure ReceivedFrame extends CanFrame where
  canDlc_le : canDlc.toNat ≤ 8
deriving DecidableEq

theorem ReceivedFrame.length_dataBytes (frame : ReceivedFrame) (control : ℕ) :
    (frame.dataBytes control).length = frame.canDlc.toNat - control := by
  have fits := frame.canDlc_le
  simp only [CanFrame.dataBytes, List.length_drop, List.length_take, Vector.length_toList]
  omega

theorem ReceivedFrame.range_dataBytes (frame : ReceivedFrame) {control : ℕ}
    (carried : control ≤ frame.canDlc.toNat) :
    frame.range control frame.canDlc.toNat = some (frame.dataBytes control) :=
  if_pos ⟨carried, frame.canDlc_le⟩

theorem ReceivedFrame.dataBytes_cons (frame : ReceivedFrame) {control : ℕ}
    (carried : control < frame.canDlc.toNat) :
    frame.dataBytes control = frame.data[control]! :: frame.dataBytes (control + 1) := by
  have fits := frame.canDlc_le
  have inside : control < (frame.data.toList.take frame.canDlc.toNat).length := by
    simp only [List.length_take, Vector.length_toList]
    omega
  rw [CanFrame.dataBytes, List.drop_eq_getElem_cons inside, CanFrame.dataBytes]
  simp [show control < 8 by omega]

/-- The identifier of the frames which the controller sends to the gateway. -/
def udsResponseCanId : UInt32 := 0x7E8

def ReceivedFrame.full (data : Vector UInt8 8) : ReceivedFrame where
  canId := udsResponseCanId
  canDlc := 8
  data := data
  canDlc_le := Nat.le_refl 8

/-- A frame which carries a single byte, with the rest of its data array. -/
def ReceivedFrame.oneByte (data : Vector UInt8 8) : ReceivedFrame where
  canId := udsResponseCanId
  canDlc := 1
  data := data
  canDlc_le := by decide

/-- The result of one `read` on the CAN socket. -/
inductive CanRead where
  /-- The result is not positive: no frame before the receive timeout, or an error. -/
  | failed
  | frame (frame : ReceivedFrame)
deriving DecidableEq

/-! ## Filters -/

/-- The bits of an identifier which a standard frame uses. -/
def canSffMask : UInt32 := 0x7FF

/-- The `can_filter` structure of the socket interface. -/
structure CanFilter where
  canId : UInt32
  canMask : UInt32

/-- The rule by which the kernel passes a frame to a socket; identifiers are compared with the
flag bits which they contain. -/
def CanFilter.passes (filter : CanFilter) (canId : UInt32) : Bool :=
  canId &&& filter.canMask == filter.canId &&& filter.canMask

/-- The identifier of a frame on the bus, or nothing for a receive timeout. -/
def CanRead.canId? : CanRead → Option UInt32
  | .failed => none
  | .frame rxFrame => some rxFrame.canId

def CanFilter.delivers (filter : CanFilter) (read : CanRead) : Bool :=
  read.canId?.all filter.passes

/-- What a socket with this filter delivers of the traffic on the bus. -/
def CanFilter.received (filter : CanFilter) (traffic : List CanRead) : List CanRead :=
  traffic.filter filter.delivers

/-! ## Filled frames -/

/-- Write the first bytes of a data array whose other bytes keep their value. -/
def overwrite (array : Vector UInt8 8) (bytes : List UInt8) : Vector UInt8 8 :=
  Vector.ofFn fun index => bytes.getD index (array.get index)

theorem getElem!_overwrite (array : Vector UInt8 8) (bytes : List UInt8) {index : ℕ}
    (inside : index < 8) :
    (overwrite array bytes)[index]! = bytes.getD index array[index]! := by
  simp [overwrite, inside, Vector.get]

theorem toList_overwrite (array : Vector UInt8 8) {bytes : List UInt8}
    (fits : bytes.length ≤ 8) :
    (overwrite array bytes).toList = bytes ++ array.toList.drop bytes.length := by
  apply List.ext_getElem
  · simp
    omega
  · intro index indexLt _
    simp only [Vector.length_toList] at indexLt
    by_cases inside : index < bytes.length
    · simp [overwrite, inside]
    · simp [overwrite, inside, Vector.get,
        List.getElem_append_right (Nat.le_of_not_lt inside)]
      congr 1
      omega

/-- A frame filled from its start carries what was written into it. -/
theorem carries_overwrite {frame : CanFrame} {array : Vector UInt8 8}
    {control bytes : List UInt8}
    (dataEq : frame.data = overwrite array (control ++ bytes))
    (fits : control.length + bytes.length ≤ 8)
    (onBus : control.length + bytes.length ≤ frame.canDlc.toNat) :
    frame.Carries control bytes := by
  refine ⟨onBus, array.toList.drop (control ++ bytes).length, ?_⟩
  rw [dataEq, toList_overwrite array (by simpa using fits)]

end Synapse
