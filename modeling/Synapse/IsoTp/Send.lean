import Synapse.Can

/-!
# ISO-TP transmission

This file embeds the sending half of the transport protocol. A call of
`isotpSend` interacts with the outside through its `write` calls on the CAN
socket and through the flow-control queue; what they return is given by
a `SendEnv` and by a script of queue outcomes. A script which is used up behaves
like a queue which stays empty until the timeout.

Every frame of a message starts at its own offset in the data, so the results
of the writes and the indeterminate bytes of the local frame variables are
indexed by that offset.
-/

namespace Synapse

/-- What the surroundings of one `isotpSend` call decide. -/
structure SendEnv where
  /-- The bytes which the frame variable for an offset holds before it is filled. -/
  stack : ℕ → Vector UInt8 8
  accepts : ℕ → Bool

def acceptingEnv : SendEnv where
  stack := fun _ => Vector.replicate 8 0
  accepts := fun _ => true

inductive SendEvent where
  | canWrite (frame : CanFrame) (accepted : Bool)
  | sleep (microseconds : ℕ)
deriving DecidableEq

def SendEvent.frame? : SendEvent → Option CanFrame
  | .canWrite frame _ => some frame
  | .sleep _ => none

def SendEvent.written? : SendEvent → Option CanFrame
  | .canWrite frame accepted => if accepted then some frame else none
  | .sleep _ => none

/-- The frames passed to `write`, in order. -/
def attemptedFrames (events : List SendEvent) : List CanFrame :=
  events.filterMap SendEvent.frame?

def writtenFrames (events : List SendEvent) : List CanFrame :=
  events.filterMap SendEvent.written?

@[simp]
theorem attemptedFrames_nil : attemptedFrames [] = [] := rfl

@[simp]
theorem attemptedFrames_canWrite (frame : CanFrame) (accepted : Bool) (events : List SendEvent) :
    attemptedFrames (.canWrite frame accepted :: events) = frame :: attemptedFrames events := rfl

@[simp]
theorem attemptedFrames_sleep (microseconds : ℕ) (events : List SendEvent) :
    attemptedFrames (.sleep microseconds :: events) = attemptedFrames events := rfl

@[simp]
theorem attemptedFrames_append (first second : List SendEvent) :
    attemptedFrames (first ++ second) = attemptedFrames first ++ attemptedFrames second :=
  List.filterMap_append

@[simp]
theorem writtenFrames_nil : writtenFrames [] = [] := rfl

@[simp]
theorem writtenFrames_accepted (frame : CanFrame) (events : List SendEvent) :
    writtenFrames (.canWrite frame true :: events) = frame :: writtenFrames events := rfl

@[simp]
theorem writtenFrames_rejected (frame : CanFrame) (events : List SendEvent) :
    writtenFrames (.canWrite frame false :: events) = writtenFrames events := rfl

@[simp]
theorem writtenFrames_sleep (microseconds : ℕ) (events : List SendEvent) :
    writtenFrames (.sleep microseconds :: events) = writtenFrames events := rfl

@[simp]
theorem writtenFrames_append (first second : List SendEvent) :
    writtenFrames (first ++ second) = writtenFrames first ++ writtenFrames second :=
  List.filterMap_append

structure Progress where
  bytesSent : ℕ
  seqNum : UInt8
deriving DecidableEq

structure SendOutcome where
  ok : Bool
  events : List SendEvent

/-- How a sending function returns which also moves the progress counters. -/
structure SendResult extends SendOutcome where
  progress : Progress

/-- The flow-control frame handed to the sender: nothing on a timeout or a malformed entry,
otherwise the entry in a zeroed data array. -/
def waitForFlowControl : Option (List UInt8) → Option (Vector UInt8 8)
  | none => none
  | some [] => none
  | some (pci :: bytes) =>
      if pci &&& 0xF0 ≠ 0x30 then none
      else some (overwrite (Vector.replicate 8 0) (pci :: bytes))

/-- The minimal pause between frames, in microseconds; reserved values ask for none. -/
def stminMicroseconds (stminRaw : UInt8) : ℕ :=
  if stminRaw ≤ 0x7F then stminRaw.toNat * 1000
  else if 0xF1 ≤ stminRaw ∧ stminRaw ≤ 0xF9 then (stminRaw.toNat - 0xF0) * 100
  else 0

/-- The block length used when the receiver does not limit it. -/
def maxConsecutiveFramesInBlock : ℕ := 4095

def framesToSendInBlock (blockSize : UInt8) : ℕ :=
  if blockSize = 0 then maxConsecutiveFramesInBlock else blockSize.toNat

theorem framesToSendInBlock_pos (blockSize : UInt8) : 0 < framesToSendInBlock blockSize := by
  rw [framesToSendInBlock]
  split
  · decide
  next nonzero =>
    rw [← UInt8.toNat_inj] at nonzero
    exact Nat.pos_of_ne_zero nonzero

section Sending

variable (env : SendEnv) (canId : UInt32) (data : List UInt8)

def bytesToSendInFrame (progress : Progress) : ℕ :=
  min 7 (data.length - progress.bytesSent)

def consecutiveFrame (progress : Progress) : CanFrame where
  canId := canId
  canDlc := UInt8.ofNat (bytesToSendInFrame data progress + 1)
  data := overwrite (env.stack progress.bytesSent)
    ([0x20 ||| (progress.seqNum &&& 0x0F)] ++
      (data.drop progress.bytesSent).take (bytesToSendInFrame data progress))

def Progress.advance (progress : Progress) : Progress where
  bytesSent := progress.bytesSent + bytesToSendInFrame data progress
  seqNum := (progress.seqNum + 1) % 16

/-- The frame loop of one block: at most the given number of Consecutive Frames. -/
def sendBlock (stminUs : ℕ) : ℕ → Progress → SendResult
  | 0, progress => ⟨⟨true, []⟩, progress⟩
  | frames + 1, progress =>
      if progress.bytesSent < data.length then
        let cfFrame := consecutiveFrame env canId data progress
        if env.accepts progress.bytesSent then
          let next := progress.advance data
          let pause := if next.bytesSent < data.length then [SendEvent.sleep stminUs] else []
          let later := sendBlock stminUs frames next
          { later with events := .canWrite cfFrame true :: (pause ++ later.events) }
        else ⟨⟨false, [.canWrite cfFrame false]⟩, progress⟩
      else ⟨⟨true, []⟩, progress⟩

/-- Wait for a flow-control frame and act on it: send a block, wait on, or give up. -/
def isotpSendConsecutiveFrames (progress : Progress) (queued : Option (List UInt8)) :
    SendResult :=
  match waitForFlowControl queued with
  | none => ⟨⟨false, []⟩, progress⟩
  | some fcFrame =>
      let flowStatus := fcFrame[0]! &&& 0x0F
      if flowStatus = 1 then ⟨⟨true, [.sleep 100000]⟩, progress⟩
      else if flowStatus > 1 then ⟨⟨false, []⟩, progress⟩
      else
        sendBlock env canId data (stminMicroseconds fcFrame[2]!)
          (framesToSendInBlock fcFrame[1]!) progress

/-- The outer loop of `isotpSendMultiFrame` over the outcomes of the flow-control queue. -/
def sendLoop : Progress → List (Option (List UInt8)) → SendResult
  | progress, [] => ⟨⟨!decide (progress.bytesSent < data.length), []⟩, progress⟩
  | progress, queued :: script =>
      if progress.bytesSent < data.length then
        let block := isotpSendConsecutiveFrames env canId data progress queued
        if block.ok then
          let later := sendLoop block.progress script
          { later with events := block.events ++ later.events }
        else block
      else ⟨⟨true, []⟩, progress⟩

def firstFrame : CanFrame where
  canId := canId
  canDlc := 8
  data := overwrite (env.stack 0)
    ([UInt8.ofNat (0x10 ||| ((data.length >>> 8) &&& 0x0F)), UInt8.ofNat (data.length &&& 0xFF)] ++
      data.take 6)

def progressAfterFirstFrame : Progress where
  bytesSent := 6
  seqNum := 1

/-- Write the First Frame; the result of the write is not looked at. -/
def isotpSendFirstFrame : SendEvent :=
  .canWrite (firstFrame env canId data) (env.accepts 0)

def isotpSendMultiFrame (script : List (Option (List UInt8))) : SendOutcome :=
  let later := sendLoop env canId data progressAfterFirstFrame script
  ⟨later.ok, isotpSendFirstFrame env canId data :: later.events⟩

def singleFrame : CanFrame where
  canId := canId
  canDlc := UInt8.ofNat (data.length + 1)
  data := overwrite (env.stack 0) ([0x00 ||| UInt8.ofNat data.length] ++ data)

def isotpSendSingleFrame : SendOutcome :=
  ⟨env.accepts 0, [.canWrite (singleFrame env canId data) (env.accepts 0)]⟩

def isotpSend (script : List (Option (List UInt8))) : SendOutcome :=
  if data.length ≤ 7 then isotpSendSingleFrame env canId data
  else isotpSendMultiFrame env canId data script

end Sending

end Synapse
