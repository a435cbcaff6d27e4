import CameraBridge.Message

/-!
Commands for the bridge itself. Each is one byte on the control channel.
-/

namespace CameraBridge

inductive Control where
  | forgetPairing
  /-- Connects although the camera does not advertise itself as online. -/
  | forceConnect
  /-- Sends the camera's name back as a large reply. -/
  | requestName
  deriving DecidableEq

namespace Control

def byte : Control → UInt8
  | .forgetPairing => 0xDA
  | .forceConnect => 0xAF
  | .requestName => 0xBB

def ofByte? (value : UInt8) : Option Control :=
  if value = 0xDA then some .forgetPairing
  else if value = 0xAF then some .forceConnect
  else if value = 0xBB then some .requestName
  else none

/-- Reads a message; it has to be exactly one byte on the control channel. -/
def ofMessage? (message : Message) : Option Control :=
  match message.channel, message.payload with
  | .control, [value] => ofByte? value
  | _, _ => none

def toMessage (command : Control) : Message :=
  Message.control command.byte

theorem ofMessage?_toMessage (command : Control) : ofMessage? command.toMessage = some command := by
  cases command <;> rfl

end Control

end CameraBridge
