import CameraBridge.Bridge.Publish

/-!
The worker that reacts to the camera's events, and the queries that follow a connection. Events are
handled one after the other; silence makes the bridge forget a camera that is not connected.
-/

namespace CameraBridge.Bridge

/-! ### Startup queries -/

def startupMessages : List Message :=
  startupQueries.filterMap fun (channel, body) => (Message.make channel body).toOption

def cancelStartup (bridge : Bridge) : Bridge :=
  let bridge := match bridge.startup with
    | some (.publishing publication _) => bridge.abandonCommand publication
    | _ => bridge
  { bridge with startup := none }

/-- Schedules the queries of a new connection in place of those of an earlier one. -/
def scheduleStartup (bridge : Bridge) : Bridge :=
  { bridge.cancelStartup with
    startup := some (.sleeping (bridge.now + bridge.timing.startupQueryDelay)) }

def stepStartup (bridge : Bridge) : Option Bridge :=
  match bridge.startup with
  | none => none
  | some (.sleeping moment) =>
      if bridge.now < moment then none
      else some { bridge with startup := some (.querying startupMessages) }
  | some (.querying []) => some { bridge with startup := none }
  | some (.querying (message :: rest)) =>
      match bridge.beginCommand message with
      | .ok (publication, bridge) =>
          some { bridge with startup := some (.publishing publication rest) }
      | .error _ => some { bridge with startup := some (.querying rest) }
  | some (.publishing publication rest) =>
      match bridge.stepCommand publication with
      | none => none
      | some (bridge, .going publication _) =>
          some { bridge with startup := some (.publishing publication rest) }
      | some (bridge, .finished _) => some { bridge with startup := some (.querying rest) }

/-! ### Events -/

def listen (bridge : Bridge) : Bridge :=
  { bridge with listener := .listening (bridge.timing.idle?.map (bridge.now + ·)) }

def updateDevice (change : DeviceState → DeviceState) (bridge : Bridge) : Bridge :=
  { bridge with device := bridge.device.update change }

def applyEvent (event : ConnectionEvent) (bridge : Bridge) : Bridge :=
  { bridge with device := bridge.device.apply event }

def forwardBody (channel : Channel) (data : Bytes) (assembled : Assembled) (bridge : Bridge) : Bridge :=
  if assembled.isLarge data then
    match bridge.beginOutbound channel assembled.body with
    | .ok (publication, bridge) => { bridge with listener := .replying publication }
    | .error _ => bridge.listen
  else bridge.listen

/-- Looks into a notification: a body that it completes is learnt from and forwarded. -/
def gatherNotification (channel : Channel) (data : Bytes) (bridge : Bridge) : Bridge :=
  let (reassembler, outcome) := bridge.reassembler.push channel data
  let bridge := { bridge with reassembler }
  match outcome with
  | .ok (some assembled) =>
      { bridge with device := (Demuxed.ofReply assembled bridge.device).2 }.forwardBody
        channel data assembled
  | _ => bridge.listen

/-- Handles a notification: one that starts a message is answered on the bus first. -/
def onNotification (channel : Channel) (data : Bytes) (bridge : Bridge) : Bridge :=
  match forwarded? channel data with
  | some message =>
      let (publication, bridge) := bridge.beginReply message
      { bridge with listener := .forwarding channel data publication }
  | none => bridge.gatherNotification channel data

def onEvent (event : CameraEvent) (bridge : Bridge) : Bridge :=
  match event with
  | .advertisement status name =>
      let bridge := bridge.applyEvent (.advertised status)
      let bridge := match name with
        | some name => bridge.updateDevice fun state => { state with name := some name }
        | none => bridge
      bridge.listen
  | .connected => (bridge.applyEvent .connected).scheduleStartup.listen
  | .subscribed channel => { bridge with gates := bridge.gates.setSubscribed channel true }.listen
  | .unsubscribed channel => { bridge with gates := bridge.gates.setSubscribed channel false }.listen
  | .notification channel data => bridge.onNotification channel data
  | .writeComplete channel _ => { bridge with gates := bridge.gates.complete channel }.listen
  | .authFailed => (bridge.applyEvent .authFailed).listen
  | .disconnected =>
      let bridge := (bridge.applyEvent .disconnected).cancelStartup
      { bridge with gates := bridge.gates.reset, reassembler := bridge.reassembler.reset }.listen

def onSilence (bridge : Bridge) : Bridge :=
  if bridge.device.connectivity = .connected ∨ bridge.device.connectivity = .unknown then bridge.listen
  else { bridge.applyEvent .idleTimeout with reassembler := bridge.reassembler.reset }.listen

def stepListener (bridge : Bridge) : Option Bridge :=
  match bridge.listener with
  | .listening silence =>
      match bridge.camera.events.unread with
      | event :: rest =>
          let events := { bridge.camera.events with unread := rest }
          some ({ bridge with camera := { bridge.camera with events } }.onEvent event)
      | [] =>
          match silence with
          | some moment => if bridge.now < moment then none else some bridge.onSilence
          | none => none
  | .forwarding channel data publication =>
      match bridge.stepReply publication with
      | none => none
      | some (bridge, .going publication _) =>
          some { bridge with listener := .forwarding channel data publication }
      | some (bridge, .finished _) => some (bridge.gatherNotification channel data)
  | .replying publication =>
      match bridge.stepOutbound publication with
      | none => none
      | some (bridge, .going publication _) => some { bridge with listener := .replying publication }
      | some (bridge, .finished _) => some bridge.listen
  | .stopped => none

end CameraBridge.Bridge
