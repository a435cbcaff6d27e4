import CameraBridge.Bridge.Publish

/-!
The worker that writes to the camera, one acknowledged write after the other. Commands go before
payloads, and the frames of a payload are written together. Before each write the connection is
looked at again: what was queued for a camera that is no longer connected is dropped.
-/

namespace CameraBridge.Bridge

def writerWaiter : Nat := 0

def runControl (command : Control) (bridge : Bridge) : Bridge :=
  match command with
  | .forgetPairing => { bridge with camera := bridge.camera.forgetPairing, writer := .idle }
  | .forceConnect => { bridge with camera := bridge.camera.forceConnect, writer := .idle }
  | .requestName =>
      match bridge.beginOutbound .control (Utf8.encode (bridge.device.state.name.getD "")) with
      | .ok (publication, bridge) => { bridge with writer := .naming publication }
      | .error _ => { bridge with writer := .idle }

def takeCommand (message : Message) (bridge : Bridge) : Bridge :=
  if message.channel = .control then
    match Control.ofMessage? message with
    | some command => bridge.runControl command
    | none => { bridge with writer := .idle }
  else { bridge with writer := .sending [message] }

def takeQueued (bridge : Bridge) : Option Bridge :=
  match bridge.commands.receive workerSubscriber with
  | some (message, commands) => some ({ bridge with commands }.takeCommand message)
  | none =>
      (bridge.batches.receive workerSubscriber).map fun (messages, batches) =>
        { bridge with batches, writer := .sending messages }

def callWrite (message : Message) (rest : List Message) (bridge : Bridge) : Bridge :=
  let (result, camera) := bridge.camera.write message.channel message.payload
  { bridge with
    gates := bridge.gates.begin message.channel
    camera
    writer := .writing message result.isOk rest }

/-- Goes on after the link's write: a message that went out is waited for. -/
def afterWrite (message : Message) (accepted : Bool) (rest : List Message) (bridge : Bridge) : Bridge :=
  if accepted then
    { bridge with
      gates := bridge.gates.modify message.channel (Gate.enqueue writerWaiter)
      writer := .awaiting message (.timed (bridge.now + bridge.timing.bleAckTimeout)) rest }
  else
    { bridge with
      gates := bridge.gates.cancel message.channel
      writer := .sending rest }

def stepWriter (bridge : Bridge) : Option Bridge :=
  match bridge.writer with
  | .idle => bridge.takeQueued
  | .sending [] => some { bridge with writer := .idle }
  | .sending (message :: rest) =>
      if bridge.device.isConnected then some (bridge.callWrite message rest)
      else some { bridge with writer := .idle }
  | .writing message accepted rest => some (bridge.afterWrite message accepted rest)
  | .awaiting message wait rest =>
      match bridge.gates.stepWait bridge.now writerWaiter message.channel wait with
      | none => none
      | some (gates, .inl wait) => some { bridge with gates, writer := .awaiting message wait rest }
      | some (gates, .inr _) => some { bridge with gates, writer := .sending rest }
  | .naming publication =>
      match bridge.stepOutbound publication with
      | none => none
      | some (bridge, .going publication _) => some { bridge with writer := .naming publication }
      | some (bridge, .finished _) => some { bridge with writer := .idle }
  | .stopped => none

end CameraBridge.Bridge
