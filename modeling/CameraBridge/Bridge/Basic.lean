import CameraBridge.Bridge.Policy
import CameraBridge.Config.Timing
import CameraBridge.Demux
import CameraBridge.Gate.Basic
import CameraBridge.Link.Bus
import CameraBridge.Link.Camera
import CameraBridge.Reception.Basic
import CameraBridge.Reply
import CameraBridge.Topic.Basic

/-!
The state of a running bridge: the device, gates and permits that its workers share, the topics
between them, the links, and where each worker stands. Workers stand only where they may have to
wait; what they do between two such places is one move.
-/

namespace CameraBridge

/-- A large reply on its way to the host, with its grant of the reply permit. -/
structure OutboundReply where
  data : Bytes
  grant : Nat
  deriving DecidableEq

/-- The worker that writes to the camera. -/
inductive Writer where
  | idle
  /-- It has these messages to write, one command or the frames of one payload. -/
  | sending (rest : List Message)
  /-- The link's write of a message is under way; it will be accepted or not. -/
  | writing (message : Message) (accepted : Bool) (rest : List Message)
  | awaiting (message : Message) (wait : AckWait) (rest : List Message)
  | naming (publication : Publication OutboundReply)
  | stopped
  deriving DecidableEq

/-- The worker that reacts to the camera's events. -/
inductive Listener where
  /-- It waits for an event, for silence at most until the given moment. -/
  | listening (silence : Option Time)
  /-- It forwards a notification and has still to look into it. -/
  | forwarding (channel : Channel) (data : Bytes) (publication : Publication Message)
  | replying (publication : Publication OutboundReply)
  | stopped
  deriving DecidableEq

inductive Startup where
  | sleeping (moment : Time)
  | querying (rest : List Message)
  | publishing (publication : Publication Message) (rest : List Message)
  deriving DecidableEq

/-- The worker that takes the host's frames. -/
inductive Ingress where
  | listening
  | submitting (publication : Publication Message)
  | refusing (publication : Publication CanFrame)
  | stopped
  deriving DecidableEq

/-- The worker that turns notifications into frames. -/
inductive Mapper where
  | listening
  | publishing (publication : Publication CanFrame)
  | stopped
  deriving DecidableEq

/-- The worker that shows the device state. -/
inductive Heartbeat where
  | ticking (due : Time)
  | publishing (publication : Publication CanFrame) (due : Time)
  | stopped
  deriving DecidableEq

/-- The worker that writes frames to the bus. -/
inductive Egress where
  | listening
  /-- The frame is on the bus at one moment and given up at the other. -/
  | sending (frame : CanFrame) (ready deadline : Time)
  | stopped
  deriving DecidableEq

/-- The worker that receives the host's payloads. -/
inductive Intake where
  | receiving (phase : ReceptionPhase)
  | publishing (publication : Publication InboundPayload)
  | resting (moment : Time)
  | stopped
  deriving DecidableEq

/-- The worker that acts on the host's payloads. -/
inductive Consumer where
  | listening
  | commanding (publication : Publication Message) (hold : Nat)
  | batching (publication : Publication (List Message)) (hold : Nat)
  | stopped
  deriving DecidableEq

inductive Transmitter where
  | listening
  /-- The reply is sent at one moment and given up at the other. -/
  | sending (reply : OutboundReply) (ready deadline : Time)
  | stopped
  deriving DecidableEq

/-- Why a large reply was not queued. -/
inductive ReplyError where
  | busy
  | publish (cause : PublishError)
  deriving DecidableEq

def ReplyError.message : ReplyError → String
  | .busy => ReplyPermits.busyMessage
  | .publish cause => cause.message

inductive Request where
  | submitting (publication : Publication Message)
  | replying (publication : Publication OutboundReply)
  | busSending (frame : CanFrame) (ready : Time)
  deriving DecidableEq

inductive Response where
  | submitted (result : Except PublishError Unit)
  | replied (result : Except ReplyError Unit)
  | written (result : Except CameraError Unit)
  | sent (result : Except LinkError Unit)

/-- A running bridge with all its links. -/
structure Bridge where
  now : Time := 0
  timing : Timing := {}
  device : Device := {}
  gates : WriteGates := {}
  permits : ReplyPermits := {}
  camera : Camera := {}
  bus : Bus := {}
  hostLink : SegmentLink := {}
  replyLink : ReplyLink := {}
  receiver : Receiver := { permitTimeout := 0 }
  reassembler : Reassembler := .idle
  commands : Topic Message := { name := "outgoing-command" }
  /-- Frames of host payloads, one queue place a payload. -/
  batches : Topic (List Message) := { name := "outgoing-batch" }
  canFrames : Topic CanFrame := { name := "outgoing-can-frame" }
  replies : Topic Message := { name := "incoming-reply" }
  inbound : Topic InboundPayload := { name := "isotp-inbound" }
  outbound : Topic OutboundReply := { name := "isotp-outbound" }
  writer : Writer := .idle
  listener : Listener := .listening none
  startup : Option Startup := none
  ingress : Ingress := .listening
  mapper : Mapper := .listening
  heartbeat : Heartbeat := .ticking 0
  egress : Egress := .listening
  intake : Intake := .receiving (.opening none)
  consumer : Consumer := .listening
  transmitter : Transmitter := .listening
  calls : List (Call Request Response) := []

namespace Bridge

/-- Every topic's first subscriber is the worker that the topic serves. -/
def workerSubscriber : Nat := 0

end Bridge

end CameraBridge
