import AotDrone.Lib.Run
import AotDrone.Lib.Binary64
import AotDrone.Fc.ControllerFacts
import AotDrone.Fc.MainLoop
import AotDrone.Fc.LoopFacts
import AotDrone.Fc.Arming
import AotDrone.Fc.Takeoff
import AotDrone.Fc.Failsafe
import AotDrone.Json.Value
import AotDrone.Backend.Schema
import AotDrone.Backend.TelSchema
import AotDrone.Backend.VisSchema
import AotDrone.Backend.SchemaContract
import AotDrone.Backend.State
import AotDrone.Json.Loads
import AotDrone.Json.Reader
import AotDrone.Json.ReadNode
import AotDrone.Json.ReadDumps
import AotDrone.Backend.Ingest
import AotDrone.Json.Dumps
import AotDrone.Backend.CmdSchema
import AotDrone.Backend.CmdBridge
import AotDrone.Vision.Payload
import AotDrone.Vision.Pipeline
import AotDrone.Link.AltitudeSign
import AotDrone.Fc.ScanFacts
import AotDrone.Link.ReadBack
import AotDrone.Link.MemberLookup
import AotDrone.Link.CmdFrame
import AotDrone.Link.CmdReader
import AotDrone.Json.LoadsScalars
import AotDrone.Link.CmdAccepted
import AotDrone.Link.CmdSeq
import AotDrone.Link.Restart
import AotDrone.Fc.FrameCodec
import AotDrone.Link.Framing
import AotDrone.Fc.MspFraming
import AotDrone.Fc.MspStream
import AotDrone.Fc.MspRcSink
import AotDrone.Fc.ArmSwitch
import AotDrone.Link.CmdRead
import AotDrone.Link.SetpointNames
import AotDrone.Backend.FrameSize
import AotDrone.Backend.Deliverable
import AotDrone.Link.Disarm
import AotDrone.Link.Datagram
import AotDrone.Json.Syntax
import AotDrone.Fc.ValueScan
import AotDrone.Fc.MemberScan
import AotDrone.Fc.CmdReading
import AotDrone.Json.ReadNode
import AotDrone.Json.ReadDumps
import AotDrone.Link.VisDatagram
import AotDrone.Fc.Telemetry
import AotDrone.Link.TelDatagram
import AotDrone.Webapp.Envelope
import AotDrone.Webapp.Overlay
import AotDrone.Webapp.WsClient
import AotDrone.Webapp.AfterStop
import AotDrone.Webapp.Superseded
import AotDrone.Webapp.App
import AotDrone.Webapp.ModeIntents
import AotDrone.Backend.EnvelopeOrder
import AotDrone.Backend.BridgeLoop
import AotDrone.Backend.SeqRound
import AotDrone.Link.SeqOrder
import AotDrone.Fc.SetRawRc
import AotDrone.Fc.Landing
import AotDrone.Fc.RefusedFrame
import AotDrone.Fc.TakeoffProfile
import AotDrone.Fc.Follow
import AotDrone.Fc.TrackingRuns
import AotDrone.Backend.Broadcast
import AotDrone.Link.EnvelopeText
import AotDrone.Webapp.Updates
import AotDrone.Link.UpdateData
import AotDrone.Link.LinkStatusData
import AotDrone.Backend.Station
import AotDrone.Link.Understood
import AotDrone.Vision.Grace
import AotDrone.Link.TrackConfidence
import AotDrone.Link.NanConfidence
import AotDrone.Vision.TrackerBox
import AotDrone.Backend.HeaderText
import AotDrone.Backend.PostFrame
import AotDrone.Backend.WsQueues
import AotDrone.Backend.RateLimit
import AotDrone.Vision.Camera
import AotDrone.Lib.EventLoop
import AotDrone.Webapp.Page
import AotDrone.Webapp.Backoff
import AotDrone.Fc.ReadLog
import AotDrone.Fc.ReadTokens
import AotDrone.Fc.ReadBounds
import AotDrone.Lib.Overlap
import AotDrone.Vision.Overlap
import AotDrone.Fc.OpLog
import AotDrone.Fc.OpBounds
import AotDrone.Lib.Simulation
import AotDrone.Webapp.Stream
import AotDrone.Webapp.Coalescing
import AotDrone.Webapp.Histories
import AotDrone.Webapp.WarningRows
import AotDrone.Webapp.Alerts
import AotDrone.Lib.Spacing
import AotDrone.Backend.Broadcaster
import AotDrone.Backend.Thinning
import AotDrone.Vision.RunLoop
import AotDrone.Vision.Cadence
import AotDrone.Backend.ApiToken
import AotDrone.Vision.LogBucket
import AotDrone.Vision.FramePusher
import AotDrone.Lib.PrefixCode
import AotDrone.Lib.Replace
import AotDrone.Backend.FrameServer
import AotDrone.Link.FramePath
import AotDrone.Backend.VideoStream
import AotDrone.Fc.FakeSink
import AotDrone.Link.RcListener
import AotDrone.Link.CmdConnections
import AotDrone.Fc.BootProbe
import AotDrone.Fc.ServerThreads
import AotDrone.Link.VisPath
