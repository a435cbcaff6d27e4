import CameraBridge.Bridge.Listener
import CameraBridge.Bridge.Writer

/-!
Use of a running bridge from outside: calls that may wait, taps on the frames for the bus, and its
end.
-/

namespace CameraBridge.Bridge

/-! ### Calls -/

def addCall (call : Call Request Response) (bridge : Bridge) : Bridge :=
  { bridge with calls := bridge.calls ++ [call] }

def submit (message : Message) (bridge : Bridge) : Bridge :=
  match bridge.beginCommand message with
  | .ok (publication, bridge) => bridge.addCall (.running (.submitting publication))
  | .error cause => bridge.addCall (.finished (.submitted (.error cause)))

def sendLargeReply (channel : Channel) (body : Bytes) (bridge : Bridge) : Bridge :=
  match bridge.beginOutbound channel body with
  | .ok (publication, bridge) => bridge.addCall (.running (.replying publication))
  | .error cause => bridge.addCall (.finished (.replied (.error cause)))

def writeCamera (channel : Channel) (data : Bytes) (bridge : Bridge) : Bridge :=
  let (result, camera) := bridge.camera.write channel data
  { bridge with camera }.addCall (.finished (.written result))

def sendOnBus (frame : CanFrame) (bridge : Bridge) : Bridge :=
  bridge.addCall (.running (.busSending frame (bridge.now + bridge.bus.latency)))

def setCall (number : Nat) (call : Call Request Response) (bridge : Bridge) : Bridge :=
  { bridge with calls := bridge.calls.set number call }

def stepCall (number : Nat) (bridge : Bridge) : Option Bridge :=
  match bridge.calls[number]? with
  | some (.running (.submitting publication)) =>
      match bridge.stepCommand publication with
      | none => none
      | some (bridge, .going publication _) =>
          some (bridge.setCall number (.running (.submitting publication)))
      | some (bridge, .finished result) =>
          some (bridge.setCall number (.finished (.submitted result)))
  | some (.running (.replying publication)) =>
      match bridge.stepOutbound publication with
      | none => none
      | some (bridge, .going publication _) =>
          some (bridge.setCall number (.running (.replying publication)))
      | some (bridge, .finished result) =>
          some (bridge.setCall number (.finished (.replied (result.mapError .publish))))
  | some (.running (.busSending frame ready)) =>
      if bridge.now < ready then none
      else
        let (result, bus) := bridge.bus.send frame
        some ({ bridge with bus }.setCall number (.finished (.sent result)))
  | _ => none

/-! ### Taps -/

def tap (capacity : Nat) (bridge : Bridge) : Nat × Bridge :=
  let (subscriber, canFrames) := bridge.canFrames.subscribe capacity
  (subscriber, { bridge with canFrames })

def readTap (subscriber : Nat) (bridge : Bridge) : List CanFrame × Bridge :=
  match bridge.canFrames.queue? subscriber with
  | none => ([], bridge)
  | some queue =>
      let canFrames := { bridge.canFrames with
        queues := bridge.canFrames.queues.set subscriber { queue with items := [] } }
      (queue.items, { bridge with canFrames })

def dropTap (subscriber : Nat) (bridge : Bridge) : Bridge :=
  { bridge with canFrames := bridge.canFrames.close subscriber }

/-! ### The end -/

def untaken {Content : Type} (topic : Topic Content) : List Content :=
  ((topic.queue? workerSubscriber).map Queue.items).getD []

def stopWriter (bridge : Bridge) : Bridge :=
  let bridge := match bridge.writer with
    | .naming publication => bridge.abandonOutbound publication
    | .awaiting message .. =>
        { bridge with gates := bridge.gates.modify message.channel (Gate.leave writerWaiter) }
    | _ => bridge
  { bridge with
    commands := bridge.commands.close workerSubscriber
    batches := bridge.batches.close workerSubscriber
    writer := .stopped }

def stopListener (bridge : Bridge) : Bridge :=
  let bridge := match bridge.listener with
    | .forwarding _ _ publication => bridge.abandonReply publication
    | .replying publication => bridge.abandonOutbound publication
    | _ => bridge
  { bridge with
    camera := { bridge.camera with events := bridge.camera.events.shut }
    listener := .stopped }

def stopIngress (bridge : Bridge) : Bridge :=
  let bridge := match bridge.ingress with
    | .submitting publication => bridge.abandonCommand publication
    | .refusing publication => bridge.abandonFrame publication
    | _ => bridge
  { bridge with
    bus := { bridge.bus with incoming := bridge.bus.incoming.shut }
    ingress := .stopped }

def stopMapper (bridge : Bridge) : Bridge :=
  let bridge := match bridge.mapper with
    | .publishing publication => bridge.abandonFrame publication
    | _ => bridge
  { bridge with replies := bridge.replies.close workerSubscriber, mapper := .stopped }

def stopHeartbeat (bridge : Bridge) : Bridge :=
  let bridge := match bridge.heartbeat with
    | .publishing publication _ => bridge.abandonFrame publication
    | _ => bridge
  { bridge with heartbeat := .stopped }

def stopEgress (bridge : Bridge) : Bridge :=
  { bridge with canFrames := bridge.canFrames.close workerSubscriber, egress := .stopped }

def stopIntake (bridge : Bridge) : Bridge :=
  let bridge := match bridge.intake with
    | .publishing publication => bridge.abandonInbound publication
    | _ => bridge
  { bridge with intake := .stopped }

def stopConsumer (bridge : Bridge) : Bridge :=
  let bridge := match bridge.consumer with
    | .commanding publication hold =>
        { bridge.abandonCommand publication with receiver := bridge.receiver.modify hold Hold.drop }
    | .batching publication hold =>
        { bridge.abandonBatch publication with receiver := bridge.receiver.modify hold Hold.drop }
    | _ => bridge
  { bridge with
    receiver := (untaken bridge.inbound).foldl
      (fun receiver payload => receiver.modify payload.hold Hold.drop) bridge.receiver
    inbound := bridge.inbound.close workerSubscriber
    consumer := .stopped }

def stopTransmitter (bridge : Bridge) : Bridge :=
  let bridge := match bridge.transmitter with
    | .sending reply .. => { bridge with permits := bridge.permits.modify reply.grant Hold.drop }
    | _ => bridge
  { bridge with
    permits := (untaken bridge.outbound).foldl
      (fun permits reply => permits.modify reply.grant Hold.drop) bridge.permits
    outbound := bridge.outbound.close workerSubscriber
    transmitter := .stopped }

/-- Stops all workers. Calls from outside go on and find nobody served by the topics. -/
def shutdown (bridge : Bridge) : Bridge :=
  bridge.cancelStartup.stopWriter.stopListener.stopIngress.stopMapper.stopHeartbeat.stopEgress
    |>.stopIntake.stopConsumer.stopTransmitter

end CameraBridge.Bridge
