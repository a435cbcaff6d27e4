import CameraBridge.Device
import CameraBridge.Message

/-!
Frames for the host: a reply of the camera that fits goes out under its channel's reply identifier,
one that does not is replaced by the fixed error frame, and the device state goes out as heartbeat.
-/

namespace CameraBridge

/-- Why a reply did not map cleanly. -/
inductive ReplyWarning where
  /-- The first byte does not describe the frame's length. -/
  | lengthMismatch (declared : UInt8) (length : Nat)
  | oversize (length : Nat)
  deriving DecidableEq

/-- The frame that answers the host, and what was odd about it. -/
structure ReplyFrame where
  frame : CanFrame
  warning : Option ReplyWarning

namespace ReplyFrame

/-- What a notification's first byte gives away: it should count the bytes after it. -/
def lengthWarning (payload : Bytes) : Option ReplyWarning :=
  match payload with
  | [] => none
  | declared :: rest =>
      if declared.toNat = rest.length then none
      else some (.lengthMismatch declared payload.length)

/-- The frame for a notification; the control channel has no replies. -/
def ofNotification? (channel : Channel) (payload : Bytes) : Option ReplyFrame :=
  channel.replyId?.map fun id =>
    if maxFrame < payload.length then ⟨CanFrame.errorFrame, some (.oversize payload.length)⟩
    else ⟨CanFrame.raw id (UInt8.ofNat payload.length) payload, lengthWarning payload⟩

end ReplyFrame

def CanFrame.heartbeat (device : Device) : CanFrame :=
  CanFrame.raw CanId.heartbeat 4 device.state.heartbeat

end CameraBridge
