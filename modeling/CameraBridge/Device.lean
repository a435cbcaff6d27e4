import CameraBridge.Bytes

/-!
The camera as the bridge sees it. The state is changed under one owner; the connectivity after a
change is then announced to whoever watches it. Change and announcement are two separate halves,
`Device.mutate` and `Device.announce`; the whole of both is `Device.update`.
-/

namespace CameraBridge

inductive Connectivity where
  | unknown
  | offline
  | online
  | connected
  | pairing
  | needPairing
  deriving DecidableEq, Inhabited

def Connectivity.wire : Connectivity → UInt8
  | .unknown => 0
  | .offline => 1
  | .online => 2
  | .connected => 3
  | .pairing => 4
  | .needPairing => 5

/-- What the camera says about itself in its advertisements. -/
inductive AdvertisedStatus where
  | offline
  | online
  | pairing
  deriving DecidableEq

def AdvertisedStatus.connectivity : AdvertisedStatus → Connectivity
  | .offline => .offline
  | .online => .online
  | .pairing => .pairing

/-- Events in the life of a connection. -/
inductive ConnectionEvent where
  | advertised (status : AdvertisedStatus)
  | connected
  | authFailed
  /-- Nothing was heard from the camera for the idle window. -/
  | idleTimeout
  | disconnected
  deriving DecidableEq

def ConnectionEvent.forgetsName : ConnectionEvent → Bool
  | .idleTimeout | .disconnected => true
  | _ => false

/-- Connectivity after an event. A connected camera does not advertise, so that a late advertisement
changes nothing. -/
def Connectivity.next (connectivity : Connectivity) : ConnectionEvent → Connectivity
  | .advertised status => if connectivity = .connected then connectivity else status.connectivity
  | .connected => .connected
  | .authFailed => .needPairing
  | .idleTimeout | .disconnected => .unknown

/-- What the camera reports about its hardware. -/
structure ModelInfo where
  modelNumber : Nat := 0
  modelName : String := ""
  firmwareVersion : String := ""
  serialNumber : String := ""
  apSsid : String := ""
  apMac : String := ""
  deriving DecidableEq

/-- All that the bridge knows about the camera. -/
structure DeviceState where
  connectivity : Connectivity := .unknown
  battery : UInt8 := 0
  videoCount : Nat := 0
  recording : Bool := false
  name : Option String := none
  wifiSsid : Option String := none
  wifiPassword : Option String := none
  modelInfo : Option ModelInfo := none
  deriving DecidableEq

namespace DeviceState

/-- The four bytes of the heartbeat; counts above 255 are shown as 255. -/
def heartbeat (state : DeviceState) : Bytes :=
  [state.connectivity.wire, if state.recording then 1 else 0, state.battery,
    UInt8.ofNat (min state.videoCount 255)]

def next (state : DeviceState) (event : ConnectionEvent) : DeviceState :=
  { state with
    connectivity := state.connectivity.next event
    name := if event.forgetsName then none else state.name }

end DeviceState

/-- The device state together with the connectivity that watchers see. -/
structure Device where
  state : DeviceState := {}
  announced : Connectivity := .unknown
  announcements : Nat := 0
  deriving DecidableEq

namespace Device

/-- A device in a given state, which counts as announced. -/
def ofState (state : DeviceState) : Device :=
  { state, announced := state.connectivity }

def connectivity (device : Device) : Connectivity := device.state.connectivity

def isConnected (device : Device) : Bool := device.connectivity = .connected

/-- First half of a change: the state itself. The second half announces `connectivity` as it is
after this one. -/
def mutate (change : DeviceState → DeviceState) (device : Device) : Device :=
  { device with state := change device.state }

/-- Second half of a change: watchers are told if the connectivity is another one than before. -/
def announce (connectivity : Connectivity) (device : Device) : Device :=
  if device.announced = connectivity then device
  else { device with announced := connectivity, announcements := device.announcements + 1 }

def update (change : DeviceState → DeviceState) (device : Device) : Device :=
  let mutated := device.mutate change
  mutated.announce mutated.connectivity

def apply (event : ConnectionEvent) (device : Device) : Device :=
  device.update fun state => state.next event

theorem announce_state (connectivity : Connectivity) (device : Device) :
    (device.announce connectivity).state = device.state := by
  unfold announce
  split <;> rfl

theorem announce_announced (connectivity : Connectivity) (device : Device) :
    (device.announce connectivity).announced = connectivity := by
  unfold announce
  split <;> simp_all

@[simp] theorem update_state (change : DeviceState → DeviceState) (device : Device) :
    (device.update change).state = change device.state := by
  simp [update, mutate, announce_state]

@[simp] theorem apply_state (event : ConnectionEvent) (device : Device) :
    (device.apply event).state = device.state.next event := by
  simp [apply]

theorem update_announced (change : DeviceState → DeviceState) (device : Device) :
    (device.update change).announced = (device.update change).connectivity := by
  simp [update, announce_announced, connectivity, announce_state]

end Device

end CameraBridge
