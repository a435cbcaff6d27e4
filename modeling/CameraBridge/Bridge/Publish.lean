import CameraBridge.Bridge.Basic

/-!
Publications on the bridge's topics. Commands and batches are checked against the device state when
they are published. The holds of payloads and the grants of replies follow their messages: a queue
that takes one is a further holder, and a publication that ends is a holder no more.
-/

namespace CameraBridge.Bridge

/-! ### Commands -/

def beginCommand (message : Message) (bridge : Bridge) :
    Except PublishError (Publication Message × Bridge) :=
  (Publication.begin (message.isAllowed bridge.device) bridge.now bridge.timing.publishTimeout message
    bridge.commands).map fun (publication, commands) => (publication, { bridge with commands })

def stepCommand (publication : Publication Message) (bridge : Bridge) :
    Option (Bridge × Progress Message) :=
  (publication.step bridge.now bridge.commands).map fun (commands, progress) =>
    ({ bridge with commands }, progress)

/-! ### Batches -/

/-- Begins to queue the frames of a payload for the camera, if they are allowed now. -/
def beginBatch (messages : List Message) (bridge : Bridge) :
    Except PublishError (Publication (List Message) × Bridge) :=
  (Publication.begin (Message.areAllowed messages bridge.device) bridge.now
    bridge.timing.publishTimeout messages bridge.batches).map fun (publication, batches) =>
      (publication, { bridge with batches })

def stepBatch (publication : Publication (List Message)) (bridge : Bridge) :
    Option (Bridge × Progress (List Message)) :=
  (publication.step bridge.now bridge.batches).map fun (batches, progress) =>
    ({ bridge with batches }, progress)

/-! ### CAN frames -/

def beginFrame (frame : CanFrame) (bridge : Bridge) : Publication CanFrame × Bridge :=
  let (publication, canFrames) :=
    Publication.start bridge.now bridge.timing.publishTimeout frame bridge.canFrames
  (publication, { bridge with canFrames })

def stepFrame (publication : Publication CanFrame) (bridge : Bridge) :
    Option (Bridge × Progress CanFrame) :=
  (publication.step bridge.now bridge.canFrames).map fun (canFrames, progress) =>
    ({ bridge with canFrames }, progress)

/-! ### Notifications that are answered on the bus -/

def beginReply (message : Message) (bridge : Bridge) : Publication Message × Bridge :=
  let (publication, replies) :=
    Publication.start bridge.now bridge.timing.publishTimeout message bridge.replies
  (publication, { bridge with replies })

def stepReply (publication : Publication Message) (bridge : Bridge) :
    Option (Bridge × Progress Message) :=
  (publication.step bridge.now bridge.replies).map fun (replies, progress) =>
    ({ bridge with replies }, progress)

/-! ### Host payloads -/

def follow {Content : Type} (progress : Progress Content) (hold : Hold) : Hold :=
  match progress with
  | .going _ true => hold.share
  | .going _ false => hold
  | .finished _ => hold.drop

def beginInbound (payload : InboundPayload) (bridge : Bridge) : Publication InboundPayload × Bridge :=
  let (publication, inbound) :=
    Publication.start bridge.now bridge.timing.publishTimeout payload bridge.inbound
  (publication, { bridge with inbound })

def stepInbound (publication : Publication InboundPayload) (bridge : Bridge) :
    Option (Bridge × Progress InboundPayload) :=
  (publication.step bridge.now bridge.inbound).map fun (inbound, progress) =>
    ({ bridge with
        inbound
        receiver := bridge.receiver.modify publication.message.hold (follow progress) }, progress)

/-! ### Large replies -/

/-- Begins to queue a body for the host, unless a large reply is on its way. -/
def beginOutbound (channel : Channel) (body : Bytes) (bridge : Bridge) :
    Except ReplyError (Publication OutboundReply × Bridge) :=
  match bridge.permits.acquire with
  | none => .error .busy
  | some (grant, permits) =>
      let (publication, outbound) :=
        Publication.start bridge.now bridge.timing.publishTimeout
          ⟨(Envelope.toChannel channel body).toBytes, grant⟩ bridge.outbound
      .ok (publication, { bridge with permits, outbound })

def stepOutbound (publication : Publication OutboundReply) (bridge : Bridge) :
    Option (Bridge × Progress OutboundReply) :=
  (publication.step bridge.now bridge.outbound).map fun (outbound, progress) =>
    ({ bridge with
        outbound
        permits := bridge.permits.modify publication.message.grant (follow progress) }, progress)

/-! ### Publications that stop before their end -/

def abandonCommand (publication : Publication Message) (bridge : Bridge) : Bridge :=
  { bridge with commands := publication.abandon bridge.commands }

def abandonBatch (publication : Publication (List Message)) (bridge : Bridge) : Bridge :=
  { bridge with batches := publication.abandon bridge.batches }

def abandonFrame (publication : Publication CanFrame) (bridge : Bridge) : Bridge :=
  { bridge with canFrames := publication.abandon bridge.canFrames }

def abandonReply (publication : Publication Message) (bridge : Bridge) : Bridge :=
  { bridge with replies := publication.abandon bridge.replies }

def abandonInbound (publication : Publication InboundPayload) (bridge : Bridge) : Bridge :=
  { bridge with
    inbound := publication.abandon bridge.inbound
    receiver := bridge.receiver.modify publication.message.hold Hold.drop }

def abandonOutbound (publication : Publication OutboundReply) (bridge : Bridge) : Bridge :=
  { bridge with
    outbound := publication.abandon bridge.outbound
    permits := bridge.permits.modify publication.message.grant Hold.drop }

end CameraBridge.Bridge
