import Synapse.Library.Transducer
import Synapse.Library.TransitionSystem
import Synapse.Library.Recording
import Synapse.Library.Framing
import Synapse.Library.LockedStream
import Synapse.Library.Inevitable
import Synapse.Library.Bytes
import Synapse.Can
import Synapse.IsoTp.Receive
import Synapse.IsoTp.Segmentation
import Synapse.IsoTp.Send
import Synapse.IsoTp.RoundTrip
import Synapse.IsoTp.AnnouncedLength
import Synapse.IsoTp.SendLoop
import Synapse.IsoTp.SendTermination
import Synapse.IsoTp.Pacing
import Synapse.IsoTp.FailedWrites
import Synapse.IsoTp.DeclaredLength
import Synapse.IsoTp.ReassemblyTermination
import Synapse.DoIP.Message
import Synapse.Gateway.Action
import Synapse.Gateway.Forwarder
import Synapse.Gateway.Demultiplexing
import Synapse.Gateway.Settled
import Synapse.Gateway.Delivery
import Synapse.Gateway.Session
import Synapse.Gateway.Chunking
import Synapse.Gateway.Requests
import Synapse.Gateway.PayloadRange
import Synapse.Gateway.System
import Synapse.Gateway.Descriptors
import Synapse.Gateway.FlowControl
import Synapse.Gateway.Writes
import Synapse.Gateway.TesterStream
import Synapse.Gateway.Bounds
import Synapse.Gateway.CarriedBytes
import Synapse.Gateway.CanFilter
import Synapse.Gateway.Ecu
import Synapse.Gateway.Calls
import Synapse.Gateway.Acknowledgement
import Synapse.Gateway.Steps
import Synapse.Gateway.FlowControlQueue
import Synapse.Gateway.Reception
import Synapse.Gateway.TesterView
import Synapse.Gateway.Shutdown
import Synapse.Gateway.BusSteps
import Synapse.Gateway.RequestFrames
import Synapse.Gateway.RequestDelivery
import Synapse.Veh.ControlService
import Synapse.Veh.ControlServers
import Synapse.Veh.CanInterface
import Synapse.Veh.StatusService
import Synapse.Veh.StatusPublisher
import Synapse.Veh.VehicleControlGui
import Synapse.Veh.StatusClients
import Synapse.Veh.EventBounds
import Synapse.Veh.CommandClients
import Synapse.Veh.Console
import Synapse.Veh.MainWindow
import Synapse.Veh.Panel
import Synapse.Veh.StatusDisplay
import Synapse.Veh.WindowLog
import Synapse.Veh.UnifiedServer
import Synapse.Veh.ServerShutdown
import Synapse.Veh.VehCli
import Synapse.Veh.Logger
import Synapse.Veh.Dashboard
