import CameraBridge.Bridge.Basic
import CameraBridge.Bridge.Frames
import CameraBridge.Bridge.Listener
import CameraBridge.Bridge.Policy
import CameraBridge.Bridge.Publish
import CameraBridge.Bridge.Report
import CameraBridge.Bridge.Requests
import CameraBridge.Bridge.Run
import CameraBridge.Bridge.Transfers
import CameraBridge.Bridge.Writer
import CameraBridge.Bytes
import CameraBridge.Channel
import CameraBridge.Clock
import CameraBridge.Config.Basic
import CameraBridge.Config.CanId
import CameraBridge.Config.Load
import CameraBridge.Config.Open
import CameraBridge.Config.Timing
import CameraBridge.Control
import CameraBridge.Daemon.Basic
import CameraBridge.Daemon.Options
import CameraBridge.Demux
import CameraBridge.Device
import CameraBridge.Envelope
import CameraBridge.Frame.Header
import CameraBridge.Frame.Split
import CameraBridge.Gate.Basic
import CameraBridge.Gate.Session
import CameraBridge.HardwareInfo
import CameraBridge.Hold
import CameraBridge.Link.Bus
import CameraBridge.Link.Camera
import CameraBridge.Link.Error
import CameraBridge.Link.Feed
import CameraBridge.Link.Segments
import CameraBridge.Main
import CameraBridge.Message
import CameraBridge.Proofs.Bridge.Attendance
import CameraBridge.Proofs.Bridge.Blocks
import CameraBridge.Proofs.Bridge.BodyReplies
import CameraBridge.Proofs.Bridge.CameraSide
import CameraBridge.Proofs.Bridge.CameraToHost
import CameraBridge.Proofs.Bridge.Footprint
import CameraBridge.Proofs.Bridge.FrameAccounts
import CameraBridge.Proofs.Bridge.Gathering
import CameraBridge.Proofs.Bridge.Gating
import CameraBridge.Proofs.Bridge.Hearing
import CameraBridge.Proofs.Bridge.HostDelivery
import CameraBridge.Proofs.Bridge.HostDemands
import CameraBridge.Proofs.Bridge.HostDesk
import CameraBridge.Proofs.Bridge.HostFrames
import CameraBridge.Proofs.Bridge.HostPassage
import CameraBridge.Proofs.Bridge.HostPayloads
import CameraBridge.Proofs.Bridge.HostPlaces
import CameraBridge.Proofs.Bridge.HostProgress
import CameraBridge.Proofs.Bridge.HostQueues
import CameraBridge.Proofs.Bridge.HostRun
import CameraBridge.Proofs.Bridge.HostService
import CameraBridge.Proofs.Bridge.Lifecycle
import CameraBridge.Proofs.Bridge.LinkUse
import CameraBridge.Proofs.Bridge.Queues
import CameraBridge.Proofs.Bridge.ReplyChannel
import CameraBridge.Proofs.Bridge.ReplyConservation
import CameraBridge.Proofs.Bridge.ReplyPermit
import CameraBridge.Proofs.Bridge.Schedule
import CameraBridge.Proofs.Bridge.Sources
import CameraBridge.Proofs.Bridge.StartupQueries
import CameraBridge.Proofs.Bridge.Straddle
import CameraBridge.Proofs.Bridge.Stride
import CameraBridge.Proofs.Bridge.Unending
import CameraBridge.Proofs.Bridge.WriterTopics
import CameraBridge.Proofs.Bridge.Writing
import CameraBridge.Proofs.Config.Identifiers
import CameraBridge.Proofs.Device.Announcing
import CameraBridge.Proofs.Framing.Reading
import CameraBridge.Proofs.Framing.RoundTrip
import CameraBridge.Proofs.Framing.Shape
import CameraBridge.Proofs.Gate.Access
import CameraBridge.Proofs.Gate.Flight
import CameraBridge.Proofs.Gate.Ledger
import CameraBridge.Proofs.Gate.Patience
import CameraBridge.Proofs.Gate.SingleFlight
import CameraBridge.Proofs.Reassembly.History
import CameraBridge.Proofs.Reassembly.Observation
import CameraBridge.Proofs.Reception.Calls
import CameraBridge.Proofs.Reception.Custody
import CameraBridge.Proofs.Reception.Discipline
import CameraBridge.Proofs.Reception.Outstanding
import CameraBridge.Proofs.Reception.Readings
import CameraBridge.Proofs.Reception.Sending
import CameraBridge.Proofs.Reception.Transfers
import CameraBridge.Proofs.Reception.Turns
import CameraBridge.Proofs.Record.Envelopes
import CameraBridge.Proofs.Record.RoundTrip
import CameraBridge.Proofs.Replies.Demux
import CameraBridge.Proofs.Replies.HardwareInfo
import CameraBridge.Proofs.Replies.StatusLists
import CameraBridge.Proofs.Topic.Custody
import CameraBridge.Proofs.Topic.Delivery
import CameraBridge.Proofs.Topic.Lock
import CameraBridge.Proofs.Topic.Order
import CameraBridge.Proofs.Topic.Passage
import CameraBridge.Proofs.Topic.Result
import CameraBridge.Proofs.Topic.Serving
import CameraBridge.Proofs.Topic.Single
import CameraBridge.Proofs.Topic.Turns
import CameraBridge.Proofs.Trace
import CameraBridge.Reassembly
import CameraBridge.Reception.Basic
import CameraBridge.Reception.Session
import CameraBridge.Record.Field
import CameraBridge.Record.Varint
import CameraBridge.Reply
import CameraBridge.Status
import CameraBridge.Text.Hex
import CameraBridge.Text.Numeral
import CameraBridge.Text.Utf8
import CameraBridge.Text.WhiteSpace
import CameraBridge.Toml.Document
import CameraBridge.Toml.Number
import CameraBridge.Toml.Reader
import CameraBridge.Toml.Text
import CameraBridge.Toml.Value
import CameraBridge.Topic.Basic
import CameraBridge.Topic.Session
