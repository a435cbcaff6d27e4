import CameraBridge.Bridge.Frames
import CameraBridge.Bridge.Listener
import CameraBridge.Bridge.Requests
import CameraBridge.Bridge.Transfers
import CameraBridge.Bridge.Writer

/-!
The bridge as a system of tasks: nine workers, the startup queries of the present connection, and
the calls from outside.
-/

namespace CameraBridge

/-! ### When waits end by themselves -/

def Writer.deadlines : Writer → List Time
  | .awaiting _ wait _ => wait.deadline?.toList
  | .naming publication => [publication.deadline]
  | _ => []

def Listener.deadlines : Listener → List Time
  | .listening silence => silence.toList
  | .forwarding _ _ publication => [publication.deadline]
  | .replying publication => [publication.deadline]
  | .stopped => []

def Startup.deadlines : Startup → List Time
  | .sleeping moment => [moment]
  | .querying _ => []
  | .publishing publication _ => [publication.deadline]

def Ingress.deadlines : Ingress → List Time
  | .submitting publication => [publication.deadline]
  | .refusing publication => [publication.deadline]
  | _ => []

def Mapper.deadlines : Mapper → List Time
  | .publishing publication => [publication.deadline]
  | _ => []

def Heartbeat.deadlines : Heartbeat → List Time
  | .ticking due => [due]
  | .publishing publication _ => [publication.deadline]
  | .stopped => []

def Egress.deadlines : Egress → List Time
  | .sending _ ready deadline => [ready, deadline]
  | _ => []

def Intake.deadlines : Intake → List Time
  | .receiving phase => phase.deadline?.toList
  | .publishing publication => [publication.deadline]
  | .resting moment => [moment]
  | .stopped => []

def Consumer.deadlines : Consumer → List Time
  | .commanding publication _ => [publication.deadline]
  | .batching publication _ => [publication.deadline]
  | _ => []

def Transmitter.deadlines : Transmitter → List Time
  | .sending _ ready deadline => [ready, deadline]
  | _ => []

def Request.deadline : Request → Time
  | .submitting publication => publication.deadline
  | .replying publication => publication.deadline
  | .busSending _ ready => ready

namespace Bridge

inductive Task where
  | writer
  | listener
  | ingress
  | mapper
  | heartbeat
  | egress
  | intake
  | consumer
  | transmitter
  | startup
  | call (number : Nat)
  deriving DecidableEq

def step (task : Task) (bridge : Bridge) : Option Bridge :=
  match task with
  | .writer => bridge.stepWriter
  | .listener => bridge.stepListener
  | .ingress => bridge.stepIngress
  | .mapper => bridge.stepMapper
  | .heartbeat => bridge.stepHeartbeat
  | .egress => bridge.stepEgress
  | .intake => bridge.stepIntake
  | .consumer => bridge.stepConsumer
  | .transmitter => bridge.stepTransmitter
  | .startup => bridge.stepStartup
  | .call number => bridge.stepCall number

def tasks (bridge : Bridge) : List Task :=
  [.writer, .listener, .ingress, .mapper, .heartbeat, .egress, .intake, .consumer, .transmitter,
    .startup] ++ (List.range bridge.calls.length).map .call

def deadlines (bridge : Bridge) : List Time :=
  bridge.writer.deadlines ++ bridge.listener.deadlines ++
    (bridge.startup.map Startup.deadlines).getD [] ++ bridge.ingress.deadlines ++
    bridge.mapper.deadlines ++ bridge.heartbeat.deadlines ++ bridge.egress.deadlines ++
    bridge.intake.deadlines ++ bridge.consumer.deadlines ++ bridge.transmitter.deadlines ++
    bridge.calls.filterMap fun
      | .running request => some request.deadline
      | .finished _ => none

def system : System Bridge where
  tasks bridge := bridge.tasks.map step
  now bridge := bridge.now
  setNow now bridge := { bridge with now }
  deadlines := deadlines

/-! ### The start -/

structure OpenLinks where
  camera : Bool := true
  bus : Bool := true

/-- Starts a bridge: each worker is subscribed to its topic before any task moves. -/
def start (timing : Timing) (queueDepth : Nat) (state : DeviceState) (links : OpenLinks) : Bridge :=
  let bridge : Bridge := {}
  { bridge with
    timing
    device := Device.ofState state
    camera := { events := { isOpen := links.camera } }
    bus := { incoming := { isOpen := links.bus } }
    receiver := { permitTimeout := timing.isotpPermitTimeout }
    commands := (bridge.commands.subscribe queueDepth).2
    batches := (bridge.batches.subscribe queueDepth).2
    canFrames := (bridge.canFrames.subscribe queueDepth).2
    replies := (bridge.replies.subscribe queueDepth).2
    inbound := (bridge.inbound.subscribe queueDepth).2
    outbound := (bridge.outbound.subscribe queueDepth).2
    listener := if links.camera then .listening timing.idle? else .stopped
    ingress := if links.bus then .listening else .stopped }.beginReception

end Bridge

end CameraBridge
