import CameraBridge.Clock
import CameraBridge.Link.Error
import CameraBridge.Link.Feed
import CameraBridge.Message

/-!
The CAN bus and the link for large replies, simulated: both record what was sent, may fail, and may
take their time.
-/

namespace CameraBridge

structure Bus where
  failing : Bool := false
  /-- How long a send takes before the frame is on the bus. -/
  latency : Time := 0
  /-- Frames sent so far, the newest first. -/
  sent : List CanFrame := []
  incoming : Feed CanFrame := {}

def Bus.send (frame : CanFrame) (bus : Bus) : Except LinkError Unit × Bus :=
  if bus.failing then (.error (.sendFailed "bus off"), bus)
  else (.ok (), { bus with sent := frame :: bus.sent })

structure ReplyLink where
  failing : Bool := false
  latency : Time := 0
  /-- Payloads sent so far, the newest first. -/
  sent : List Bytes := []

def ReplyLink.complete (data : Bytes) (link : ReplyLink) : ReplyLink :=
  { link with sent := data :: link.sent }

end CameraBridge
