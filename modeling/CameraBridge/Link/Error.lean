import CameraBridge.Channel

/-!
Failures of the links.
-/

namespace CameraBridge

/-- Failures of the CAN bus and the transfer links. -/
inductive LinkError where
  | connectionFailed (reason : String)
  | connectionClosed
  | sendFailed (reason : String)
  | receiveFailed (reason : String)
  | timeout (reason : String)
  | invalidConfig (reason : String)
  deriving DecidableEq

def LinkError.message : LinkError → String
  | .connectionFailed reason => "Connection failed: " ++ reason
  | .connectionClosed => "Connection closed"
  | .sendFailed reason => "Send failed: " ++ reason
  | .receiveFailed reason => "Receive failed: " ++ reason
  | .timeout reason => "Timeout: " ++ reason
  | .invalidConfig reason => "Invalid configuration: " ++ reason

inductive CameraError where
  | notConnected
  | noCharacteristic (channel : Channel)
  | operationFailed (reason : String)
  deriving DecidableEq

def CameraError.message : CameraError → String
  | .notConnected => "BLE link not connected"
  | .noCharacteristic channel => "Channel " ++ channel.name ++ " has no BLE characteristic"
  | .operationFailed reason => "BLE operation failed: " ++ reason

end CameraBridge
