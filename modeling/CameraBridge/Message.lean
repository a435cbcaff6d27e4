import CameraBridge.Bytes
import CameraBridge.Channel
import CameraBridge.Text.Hex

/-!
Logical messages and CAN frames: what the links exchange. A message fits into one write of a
characteristic and a frame into one CAN frame; both bounds are part of the types.
-/

namespace CameraBridge

def maxWrite : Nat := 20

def maxFrame : Nat := 8

/-- Why a message or frame cannot be built. -/
inductive MessageError where
  | payloadTooLong (length limit : Nat)
  | invalidCanId (id : UInt16)
  deriving DecidableEq

def MessageError.message : MessageError → String
  | .payloadTooLong length limit =>
      s!"Payload of {length} bytes exceeds the {limit}-byte limit"
  | .invalidCanId id =>
      "CAN id 0x" ++ Hex.upper id.toNat ++ " is not an 11-bit identifier"

/-- One write's worth of data on a channel. -/
structure Message where
  channel : Channel
  payload : Bytes
  fits : payload.length ≤ maxWrite
  deriving DecidableEq

namespace Message

def make (channel : Channel) (payload : Bytes) : Except MessageError Message :=
  if fits : payload.length ≤ maxWrite then .ok ⟨channel, payload, fits⟩
  else .error (.payloadTooLong payload.length maxWrite)

theorem make_payload (message : Message) : make message.channel message.payload = .ok message := by
  simp [make, message.fits]

def control (value : UInt8) : Message :=
  ⟨.control, [value], by simp [maxWrite]⟩

end Message

/-- Classic CAN frames. The data always fill eight bytes, of which the first `dlc` count. -/
structure CanFrame where
  id : UInt16
  dlc : UInt8
  data : Bytes
  width : data.length = maxFrame
  deriving DecidableEq

namespace CanFrame

/-- Fills data up with zeros, or cuts them, to the width of a frame. -/
def pad (data : Bytes) : Bytes :=
  (data ++ List.replicate maxFrame 0).take maxFrame

theorem pad_length (data : Bytes) : (pad data).length = maxFrame := by
  simp [pad]

def raw (id : UInt16) (dlc : UInt8) (data : Bytes) : CanFrame :=
  ⟨id, dlc, pad data, pad_length data⟩

/-- Builds a frame; the identifier is checked before the length. -/
def make (id : UInt16) (data : Bytes) : Except MessageError CanFrame :=
  if CanId.maxStandard < id then .error (.invalidCanId id)
  else if maxFrame < data.length then .error (.payloadTooLong data.length maxFrame)
  else .ok (raw id (UInt8.ofNat data.length) data)

def errorFrame : CanFrame := raw CanId.errorReply 1 [0xFF]

theorem errorFrame_eq : errorFrame = ⟨0x740, 1, [0xFF, 0, 0, 0, 0, 0, 0, 0], rfl⟩ := rfl

/-- The bytes that count; a length code above eight counts as eight. -/
def payload (frame : CanFrame) : Bytes :=
  frame.data.take frame.dlc.toNat

theorem payload_length_le (frame : CanFrame) : frame.payload.length ≤ maxFrame := by
  simp only [payload, List.length_take, frame.width]
  omega

end CanFrame

end CameraBridge
