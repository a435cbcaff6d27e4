import CameraBridge.Device
import CameraBridge.Link.Error
import CameraBridge.Link.Feed

/-!
The camera's end of the link, simulated: it records writes, acknowledges them at once if it is told
to, and answers the requests it knows with notifications.
-/

namespace CameraBridge

/-- Events of the link to the camera. -/
inductive CameraEvent where
  | advertisement (status : AdvertisedStatus) (name : Option String)
  | connected
  | subscribed (channel : Channel)
  | unsubscribed (channel : Channel)
  | notification (channel : Channel) (data : Bytes)
  /-- The last write on a channel was taken, with a status. -/
  | writeComplete (channel : Channel) (status : UInt8)
  | authFailed
  | disconnected
  deriving DecidableEq

structure CannedResponse where
  channel : Channel
  request : Bytes
  frames : List Bytes

structure Camera where
  reachable : Bool := true
  /-- Every write is completed at once. -/
  autoAck : Bool := true
  controlFailing : Bool := false
  responses : List CannedResponse := []
  /-- Writes so far, the newest first. -/
  writes : List (Channel × Bytes) := []
  forgetCalls : Nat := 0
  forceCalls : Nat := 0
  events : Feed CameraEvent := {}

namespace Camera

def raise (event : CameraEvent) (camera : Camera) : Camera :=
  { camera with events := camera.events.push event }

def raiseAll (events : List CameraEvent) (camera : Camera) : Camera :=
  { camera with events := camera.events.pushAll events }

/-- The notifications that answer a request: the first response that fits counts. -/
def answer (channel : Channel) (request : Bytes) (camera : Camera) : List CameraEvent :=
  match camera.responses.find? fun response =>
      response.channel = channel && response.request = request with
  | some response => response.frames.map (.notification channel)
  | none => []

def write (channel : Channel) (data : Bytes) (camera : Camera) : Except CameraError Unit × Camera :=
  if !channel.isBle then (.error (.noCharacteristic channel), camera)
  else if !camera.reachable then (.error .notConnected, camera)
  else
    let completion := if camera.autoAck then [CameraEvent.writeComplete channel 0] else []
    (.ok (),
      { camera with writes := (channel, data) :: camera.writes }.raiseAll
        (completion ++ camera.answer channel data))

def forgetPairing (camera : Camera) : Camera :=
  if camera.controlFailing then camera else { camera with forgetCalls := camera.forgetCalls + 1 }

def forceConnect (camera : Camera) : Camera :=
  if camera.controlFailing then camera else { camera with forceCalls := camera.forceCalls + 1 }

end Camera

end CameraBridge
