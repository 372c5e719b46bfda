import Synapse.Library.LockedStream
import Synapse.IsoTp.Send
import Synapse.DoIP.Message

/-!
# Actions of the gateway threads

The two threads of a session share the tester socket, the flow-control queue
and the session flag. This file gives the actions by which a thread touches
them. Writing to the tester socket is an action on a stream behind
`client_socket_mutex`; everything else is an `Effect`.
-/

namespace Synapse

/-- What a gateway thread does besides writing to the tester socket. -/
inductive Effect where
  | pushFlowControl (bytes : List UInt8)
  | sendFlowControl (frame : CanFrame)
  | clientWriteFailed
  | endSession
  | recognised (message : DoIPMessage)
  | isotpSend (request : List UInt8)
  | isotp (event : SendEvent)

abbrev GatewayAction := LockedStream.Action UInt8 Effect

/-- Write a message to the tester socket under a lock guard. -/
def writeLocked (bytes : List UInt8) : List GatewayAction :=
  [.acquire, .write bytes, .release]

def pushed? : GatewayAction → Option (List UInt8)
  | .other (.pushFlowControl bytes) => some bytes
  | _ => none

def pushedFlowControls (actions : List GatewayAction) : List (List UInt8) :=
  actions.filterMap pushed?

def flowControlSent? : GatewayAction → Option CanFrame
  | .other (.sendFlowControl frame) => some frame
  | _ => none

/-- The frames by which a list of actions answers First Frames. -/
def flowControlsSent (actions : List GatewayAction) : List CanFrame :=
  actions.filterMap flowControlSent?

@[simp]
theorem pushedFlowControls_append (first second : List GatewayAction) :
    pushedFlowControls (first ++ second) =
      pushedFlowControls first ++ pushedFlowControls second :=
  List.filterMap_append

@[simp]
theorem flowControlsSent_append (first second : List GatewayAction) :
    flowControlsSent (first ++ second) = flowControlsSent first ++ flowControlsSent second :=
  List.filterMap_append

@[simp]
theorem writes_writeLocked (bytes : List UInt8) :
    LockedStream.writes (writeLocked bytes) = [bytes] := rfl

@[simp]
theorem pushedFlowControls_writeLocked (bytes : List UInt8) :
    pushedFlowControls (writeLocked bytes) = [] := rfl

@[simp]
theorem flowControlsSent_writeLocked (bytes : List UInt8) :
    flowControlsSent (writeLocked bytes) = [] := rfl

theorem disciplined_writeLocked (bytes : List UInt8) :
    LockedStream.Disciplined false (writeLocked bytes) := by
  simp [writeLocked, LockedStream.Disciplined]

end Synapse
