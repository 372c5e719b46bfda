import Synapse.Can

/-!
# ISO-TP reception

This file embeds the receiving half of the transport protocol as the gateway
implements it. The reassembly loop of `isotpHandleMultiFrame` is given by
its local variables, what one pass of the loop does with one `read`, and
the recursion over the results of the reads. Copies which leave a frame's data
array are kept as the separate outcome `outOfBounds`.
-/

namespace Synapse

/-- The identifier of the frames which the gateway sends to the controller. -/
def udsRequestCanId : UInt32 := 0x7E0

/-- The payload of a Single Frame, or nothing if its length field is out of range. -/
def isotpHandleSingleFrame (frame : CanFrame) : Option (List UInt8) :=
  let len := frame.data[0]! &&& 0x0F
  if len = 0 ∨ len > 7 then some [] else frame.range 1 (1 + len.toNat)

/-- The frame sent on every First Frame: continue to send, no block limit, 10 ms apart. -/
def isotpFlowControlFrame : CanFrame where
  canId := udsRequestCanId
  canDlc := 8
  data := #v[0x30, 0x00, 0x0A, 0, 0, 0, 0, 0]

/-- The local variables of `isotpHandleMultiFrame`. -/
structure MultiFrame where
  totalSize : UInt16
  udsRxBuffer : List UInt8
  expectedSeqNum : UInt8
deriving DecidableEq

inductive Reassembly where
  | reading (frame : MultiFrame)
  /-- The function has returned; an aborted reassembly returns the empty vector. -/
  | returned (response : List UInt8)
  | outOfBounds
deriving DecidableEq

namespace MultiFrame

/-- The loop condition: read on while the buffer is shorter than the announced length. -/
def loopTest (frame : MultiFrame) : Reassembly :=
  if frame.udsRxBuffer.length < frame.totalSize.toNat then .reading frame
  else .returned frame.udsRxBuffer

def announcedSize (firstFrame : CanFrame) : UInt16 :=
  ((firstFrame.data[0]! &&& 0x0F).toUInt16 <<< 8) ||| firstFrame.data[1]!.toUInt16

/-- The part of `isotpHandleMultiFrame` before its first `read`. -/
def start (firstFrame : CanFrame) : Reassembly :=
  match firstFrame.range 2 firstFrame.canDlc.toNat with
  | none => .outOfBounds
  | some bytes =>
      loopTest {
        totalSize := announcedSize firstFrame
        udsRxBuffer := bytes
        expectedSeqNum := 1 }

/-- The number of bytes which the loop copies from a Consecutive Frame. -/
def bytesToCopy (frame : MultiFrame) (cfFrame : CanFrame) : ℕ :=
  -- Both operands of `std::min` are `uint16_t`, so a data length of zero wraps around.
  min (UInt16.ofNat (frame.totalSize.toNat - frame.udsRxBuffer.length)).toNat
    (cfFrame.canDlc.toUInt16 - 1).toNat

/-- The body of the reassembly loop, with the loop condition tested behind it. -/
def onRead (frame : MultiFrame) : CanRead → Reassembly
  | .failed => .returned []
  | .frame cfFrame =>
      if cfFrame.data[0]! &&& 0xF0 ≠ 0x20 ∨ cfFrame.data[0]! &&& 0x0F ≠ frame.expectedSeqNum then
        .returned []
      else
        match cfFrame.range 1 (1 + frame.bytesToCopy cfFrame.toCanFrame) with
        | none => .outOfBounds
        | some bytes =>
            loopTest { frame with
              udsRxBuffer := frame.udsRxBuffer ++ bytes
              expectedSeqNum := (frame.expectedSeqNum + 1) % 16 }

end MultiFrame

inductive Received where
  | blocked
  | returned (response : List UInt8) (rest : List CanRead)
  | outOfBounds
deriving DecidableEq

/-- Run the reassembly loop over the results of its reads. -/
def Reassembly.receive : Reassembly → List CanRead → Received
  | .returned response, reads => .returned response reads
  | .outOfBounds, _ => .outOfBounds
  | .reading _, [] => .blocked
  | .reading frame, read :: reads => (frame.onRead read).receive reads

@[simp]
theorem Reassembly.receive_returned (response : List UInt8) (reads : List CanRead) :
    (Reassembly.returned response).receive reads = .returned response reads := by
  cases reads <;> rfl

@[simp]
theorem Reassembly.receive_outOfBounds (reads : List CanRead) :
    Reassembly.outOfBounds.receive reads = .outOfBounds := by
  cases reads <;> rfl

def isotpHandleMultiFrame (firstFrame : CanFrame) (reads : List CanRead) : Received :=
  (MultiFrame.start firstFrame).receive reads

/-- Receive one message: dispatch on the frame type of the first frame. -/
def isotpReceive : List CanRead → Received
  | [] => .blocked
  | .failed :: reads => .returned [] reads
  | .frame rxFrame :: reads =>
      if rxFrame.pciType = 0 then
        match isotpHandleSingleFrame rxFrame.toCanFrame with
        | none => .outOfBounds
        | some response => .returned response reads
      else if rxFrame.pciType = 1 then isotpHandleMultiFrame rxFrame.toCanFrame reads
      else .returned [] reads

end Synapse
