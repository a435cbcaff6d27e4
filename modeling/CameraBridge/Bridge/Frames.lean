import CameraBridge.Bridge.Publish

/-!
The workers on the CAN side: the host's frames become commands, notifications and the device state
become frames, and frames go to the bus.
-/

namespace CameraBridge.Bridge

def refuse (bridge : Bridge) : Bridge :=
  let (publication, bridge) := bridge.beginFrame CanFrame.errorFrame
  { bridge with ingress := .refusing publication }

/-- Takes a frame of the host: a command on its channel, or the error frame if that is not allowed.
Frames with other identifiers mean nothing. -/
def onFrame (frame : CanFrame) (bridge : Bridge) : Bridge :=
  match Channel.ofInputId? frame.id with
  | none => bridge
  | some channel =>
      match Message.make channel frame.payload with
      | .error _ => bridge
      | .ok message =>
          match bridge.beginCommand message with
          | .ok (publication, bridge) => { bridge with ingress := .submitting publication }
          | .error _ => bridge.refuse

def stepIngress (bridge : Bridge) : Option Bridge :=
  match bridge.ingress with
  | .listening =>
      match bridge.bus.incoming.unread with
      | [] => none
      | frame :: rest =>
          let incoming := { bridge.bus.incoming with unread := rest }
          some ({ bridge with bus := { bridge.bus with incoming } }.onFrame frame)
  | .submitting publication =>
      match bridge.stepCommand publication with
      | none => none
      | some (bridge, .going publication _) => some { bridge with ingress := .submitting publication }
      | some (bridge, .finished _) => some { bridge with ingress := .listening }
  | .refusing publication =>
      match bridge.stepFrame publication with
      | none => none
      | some (bridge, .going publication _) => some { bridge with ingress := .refusing publication }
      | some (bridge, .finished _) => some { bridge with ingress := .listening }
  | .stopped => none

/-- Begins to answer a notification on the bus; the control channel has no answers. -/
def mapReply (message : Message) (bridge : Bridge) : Bridge :=
  match ReplyFrame.ofNotification? message.channel message.payload with
  | none => bridge
  | some reply =>
      let (publication, bridge) := bridge.beginFrame reply.frame
      { bridge with mapper := .publishing publication }

def stepMapper (bridge : Bridge) : Option Bridge :=
  match bridge.mapper with
  | .listening =>
      (bridge.replies.receive workerSubscriber).map fun (message, replies) =>
        { bridge with replies }.mapReply message
  | .publishing publication =>
      match bridge.stepFrame publication with
      | none => none
      | some (bridge, .going publication _) => some { bridge with mapper := .publishing publication }
      | some (bridge, .finished _) => some { bridge with mapper := .listening }
  | .stopped => none

def heartbeatTolerance : Time := 5

/-- When the heartbeat after one that was due and noticed at the given moments is due. -/
def nextHeartbeat (due noticed interval : Time) : Time :=
  if due + heartbeatTolerance < noticed then noticed + interval else due + interval

def stepHeartbeat (bridge : Bridge) : Option Bridge :=
  match bridge.heartbeat with
  | .ticking due =>
      if bridge.now < due then none
      else
        let next := nextHeartbeat due bridge.now bridge.timing.heartbeat
        let (publication, bridge) := bridge.beginFrame (CanFrame.heartbeat bridge.device)
        some { bridge with heartbeat := .publishing publication next }
  | .publishing publication due =>
      match bridge.stepFrame publication with
      | none => none
      | some (bridge, .going publication _) =>
          some { bridge with heartbeat := .publishing publication due }
      | some (bridge, .finished _) => some { bridge with heartbeat := .ticking due }
  | .stopped => none

def stepEgress (bridge : Bridge) : Option Bridge :=
  match bridge.egress with
  | .listening =>
      (bridge.canFrames.receive workerSubscriber).map fun (frame, canFrames) =>
        { bridge with
          canFrames
          egress := .sending frame (bridge.now + bridge.bus.latency)
            (bridge.now + bridge.timing.canSendTimeout) }
  | .sending frame ready deadline =>
      if ready ≤ bridge.now then
        some { bridge with bus := (bridge.bus.send frame).2, egress := .listening }
      else if deadline ≤ bridge.now then some { bridge with egress := .listening }
      else none
  | .stopped => none

end CameraBridge.Bridge
