import EigerDetector.Library.Multipart
import EigerDetector.Library.Program
import EigerDetector.Library.Coupling
import EigerDetector.Library.Transition
import EigerDetector.Fan.Handling
import EigerDetector.Fan.Assertions
import EigerDetector.Fan.Replies
import EigerDetector.Fan.Session
import EigerDetector.Fan.FrameCounts
import EigerDetector.Fan.Reconfiguration
import EigerDetector.Fan.Closing
import EigerDetector.Fan.FanOut
import EigerDetector.Fan.Control
import EigerDetector.Fan.Operation
import EigerDetector.Fan.Dispatch
import EigerDetector.Fan.Latching
import EigerDetector.Fan.Sockets
import EigerDetector.Fan.Atomicity
import EigerDetector.Broker.Order
import EigerDetector.Decoder.Process
import EigerDetector.Decoder.Parts
import EigerDetector.Decoder.Pool
import EigerDetector.Decoder.Receiver
import EigerDetector.Decoder.Ownership
import EigerDetector.Decoder.Sends
import EigerDetector.Decoder.Emission
import EigerDetector.Decoder.Tagging
import EigerDetector.Plugin.Process
import EigerDetector.Plugin.Survival
import EigerDetector.Broker.Counting
import EigerDetector.Broker.Framing
import EigerDetector.Library.BlockCyclic
import EigerDetector.Fan.Connections
import EigerDetector.Library.Tracking
import EigerDetector.Fan.Reception
import EigerDetector.Fan.Threads
import EigerDetector.Fan.Phases
import EigerDetector.Fan.Startup
import EigerDetector.Fan.Distribution
import EigerDetector.Library.Join
import EigerDetector.Meta.Writer
import EigerDetector.Control.Stale
import EigerDetector.Control.Acquisition
import EigerDetector.Decoder.Statistics
import EigerDetector.Decoder.Texts
import EigerDetector.Decoder.Following
import EigerDetector.Decoder.Isolation
import EigerDetector.Decoder.Numbering
import EigerDetector.Interface.AcquisitionID
import EigerDetector.Interface.FrameNumber
import EigerDetector.Fan.MoreFlag
import EigerDetector.Fan.Shutdown
import EigerDetector.Fan.Cache
import EigerDetector.Fan.Store
import EigerDetector.Fan.OneShot
import EigerDetector.Control.Start
import EigerDetector.Control.Survival
import EigerDetector.Control.Armed
import EigerDetector.Control.Requests
import EigerDetector.Control.Status
import EigerDetector.Control.Loops
import EigerDetector.Control.Workers
import EigerDetector.Control.LiveImages
import EigerDetector.Control.Fetching
import EigerDetector.Library.Template
import EigerDetector.Deploy.Templates
import EigerDetector.Deploy.OdinDeploy
import EigerDetector.Deploy.Ports
import EigerDetector.Interface.Contract
import EigerDetector.Pipeline.Receivers
import EigerDetector.Pipeline.Images
import EigerDetector.Meta.Handlers
import EigerDetector.Simulator.Recording
import EigerDetector.Simulator.FrameSimulator
import EigerDetector.Pipeline.Simulated
import EigerDetector.Pipeline.Brokered
import EigerDetector.Plugin.Headers
import EigerDetector.Pipeline.Acquisition
import EigerDetector.Control.HvReset
import EigerDetector.Library.Pool
import EigerDetector.Control.Construction
import EigerDetector.Control.Provenance
import EigerDetector.Control.Served
import EigerDetector.Control.Triggers
import EigerDetector.Deploy.ControlServer
