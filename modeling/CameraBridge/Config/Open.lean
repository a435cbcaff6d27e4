import CameraBridge.Config.Basic
import CameraBridge.Link.Bus

/-!
Opening the links that a configuration names. This library reaches no network interface: whatever
the name of one, it is not there.
-/

namespace CameraBridge

def LinkError.missingInterface (interface : String) : LinkError :=
  .connectionFailed ("there is no interface " ++ interface)

/-- A transfer link on a network interface: what it listens to, and what it sends under. -/
structure TransferSocket where
  interface : String
  receiveId : UInt16
  sendId : UInt16
  deriving DecidableEq

namespace TransferSocket

def checkId (id : UInt16) : Except LinkError Unit :=
  if CanId.maxStandard < id then
    .error (.invalidConfig ("Invalid standard CAN ID: 0x" ++ Hex.upper id.toNat))
  else .ok ()

/-- Describes a transfer link; the identifier it listens to is checked first. -/
def make (interface : String) (receiveId sendId : UInt16) : Except LinkError TransferSocket := do
  checkId receiveId
  checkId sendId
  return { interface, receiveId, sendId }

def connect (socket : TransferSocket) : Except LinkError ReplyLink :=
  .error (.missingInterface socket.interface)

end TransferSocket

namespace Config

def openBus (config : Config) : Except LinkError Bus :=
  match config.can with
  | .simulated _ => .ok {}
  | .network interface => .error (.missingInterface interface)

/-- Opens the two transfer links and hands on the one for large replies. The identifiers are read
first, even if no simulated link needs them. -/
def openTransferLinks (config : Config) : Except LinkError ReplyLink := do
  let ids ← config.transfers.read
  match config.can with
  | .simulated latency => return { latency }
  | .network interface =>
      let _ ← (← TransferSocket.make interface ids.inbound ids.inboundFlow).connect
      (← TransferSocket.make interface ids.replyFlow ids.reply).connect

end Config

end CameraBridge
