import CameraBridge.Bridge.Publish

/-!
The workers on the transfer side: the host's payloads are received, handed over and acted on one at
a time, and large replies are sent one at a time.
-/

namespace CameraBridge.Bridge

/-! ### Receiving -/

def intakeRest : Time := 100

def beginReception (bridge : Bridge) : Bridge :=
  match bridge.receiver.begin bridge.now with
  | .ok (phase, receiver) => { bridge with receiver, intake := .receiving phase }
  | .error _ => { bridge with intake := .resting (bridge.now + intakeRest) }

def afterReception (result : Except ReceptionError InboundPayload) (bridge : Bridge) : Bridge :=
  match result with
  | .ok payload =>
      let (publication, bridge) := bridge.beginInbound payload
      { bridge with intake := .publishing publication }
  | .error .busy => bridge.beginReception
  | .error (.link .connectionClosed) => { bridge with intake := .stopped }
  | .error _ => { bridge with intake := .resting (bridge.now + intakeRest) }

/-- The intake's move. A reception that only begins its wait anew without any patience waits. -/
def stepIntake (bridge : Bridge) : Option Bridge :=
  match bridge.intake with
  | .receiving phase =>
      match bridge.receiver.step bridge.now bridge.hostLink phase with
      | none => none
      | some (hostLink, receiver, .going phase) =>
          some { bridge with hostLink, receiver, intake := .receiving phase }
      | some (hostLink, receiver, .finished result) =>
          let after := { bridge with hostLink, receiver }.afterReception result
          if after.intake = bridge.intake then none else some after
  | .publishing publication =>
      match bridge.stepInbound publication with
      | none => none
      | some (bridge, .going publication _) => some { bridge with intake := .publishing publication }
      | some (bridge, .finished _) => some bridge.beginReception
  | .resting moment => if bridge.now < moment then none else some bridge.beginReception
  | .stopped => none

/-! ### Acting on payloads -/

def finishPayload (hold : Nat) (bridge : Bridge) : Bridge :=
  { bridge with
    receiver := bridge.receiver.modify hold fun hold => hold.release.drop
    consumer := .listening }

/-- Acts on a payload; one that asks for nothing is released at once. -/
def consume (payload : InboundPayload) (bridge : Bridge) : Bridge :=
  match Dispatch.ofPayload payload.data with
  | .error _ => bridge.finishPayload payload.hold
  | .ok (.command message) =>
      match bridge.beginCommand message with
      | .ok (publication, bridge) =>
          { bridge with consumer := .commanding publication payload.hold }
      | .error _ => bridge.finishPayload payload.hold
  | .ok (.batch messages) =>
      match bridge.beginBatch messages with
      | .ok (publication, bridge) => { bridge with consumer := .batching publication payload.hold }
      | .error _ => bridge.finishPayload payload.hold
  | .ok (.credentials credentials) =>
      { bridge with device := bridge.device.update credentials.store }.finishPayload payload.hold

def stepConsumer (bridge : Bridge) : Option Bridge :=
  match bridge.consumer with
  | .listening =>
      (bridge.inbound.receive workerSubscriber).map fun (payload, inbound) =>
        { bridge with inbound }.consume payload
  | .commanding publication hold =>
      match bridge.stepCommand publication with
      | none => none
      | some (bridge, .going publication _) =>
          some { bridge with consumer := .commanding publication hold }
      | some (bridge, .finished _) => some (bridge.finishPayload hold)
  | .batching publication hold =>
      match bridge.stepBatch publication with
      | none => none
      | some (bridge, .going publication _) =>
          some { bridge with consumer := .batching publication hold }
      | some (bridge, .finished _) => some (bridge.finishPayload hold)
  | .stopped => none

/-! ### Sending large replies -/

def finishReply (reply : OutboundReply) (bridge : Bridge) : Bridge :=
  { bridge with
    permits := bridge.permits.modify reply.grant fun hold => hold.release.drop
    transmitter := .listening }

/-- Begins to send a reply; a failing link refuses it at once. -/
def transmit (reply : OutboundReply) (bridge : Bridge) : Bridge :=
  if bridge.replyLink.failing then bridge.finishReply reply
  else
    { bridge with
      transmitter := .sending reply (bridge.now + bridge.replyLink.latency)
        (bridge.now + bridge.timing.isotpSendTimeout) }

def stepTransmitter (bridge : Bridge) : Option Bridge :=
  match bridge.transmitter with
  | .listening =>
      (bridge.outbound.receive workerSubscriber).map fun (reply, outbound) =>
        { bridge with outbound }.transmit reply
  | .sending reply ready deadline =>
      if ready ≤ bridge.now then
        some ({ bridge with replyLink := bridge.replyLink.complete reply.data }.finishReply reply)
      else if deadline ≤ bridge.now then some (bridge.finishReply reply)
      else none
  | .stopped => none

end CameraBridge.Bridge
