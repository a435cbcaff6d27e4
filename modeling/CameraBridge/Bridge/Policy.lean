import CameraBridge.Control
import CameraBridge.Device
import CameraBridge.Envelope
import CameraBridge.Frame.Split
import CameraBridge.Reassembly

/-!
What the bridge does with what it is given, before any waiting: which commands may be queued, what a
host's payload asks for, and which replies of the camera are forwarded in which form.
-/

namespace CameraBridge

/-- Whether a message may be queued for the camera: local commands always, all others while the
camera is connected. -/
def Message.isAllowed (message : Message) (device : Device) : Bool :=
  message.channel = .control || device.isConnected

/-- Whether the frames of a payload may be queued for the camera: there are some, and each is
allowed. -/
def Message.areAllowed (messages : List Message) (device : Device) : Bool :=
  !messages.isEmpty && messages.all fun message => message.isAllowed device

/-- Why a host's payload asks for nothing. -/
inductive DispatchError where
  | envelope (cause : EnvelopeError)
  | message (cause : MessageError)
  | frame (cause : FrameError)
  deriving DecidableEq

inductive Dispatch where
  | command (message : Message)
  | batch (messages : List Message)
  | credentials (credentials : WifiCredentials)
  deriving DecidableEq

def Dispatch.ofPayload (payload : Bytes) : Except DispatchError Dispatch := do
  let envelope ← (Envelope.ofBytes payload).mapError .envelope
  match ← envelope.destination.mapError .envelope with
  | .channel .control =>
      return .command (← (Message.make .control envelope.data).mapError .message)
  | .channel channel => return .batch (← (Frame.messages channel envelope.data).mapError .frame)
  | .wifiCredentials => return .credentials (← envelope.credentials.mapError .envelope)

def WifiCredentials.store (credentials : WifiCredentials) (state : DeviceState) : DeviceState :=
  { state with wifiSsid := some credentials.ssid, wifiPassword := some credentials.password }

/-- The notification as a message, if it is answered on the bus: it starts a message, and it is no
longer than one write. -/
def forwarded? (channel : Channel) (data : Bytes) : Option Message :=
  match Header.read data with
  | .ok (.start ..) => (Message.make channel data).toOption
  | _ => none

/-- Whether a body goes out as a large reply, too: it came in several frames, or in one that no CAN
frame holds. -/
def Assembled.isLarge (assembled : Assembled) (data : Bytes) : Bool :=
  1 < assembled.frames || maxFrame < data.length

end CameraBridge
