import CameraBridge.Status
import CameraBridge.Text.Utf8

/-!
Hardware info: the camera's description of itself, seven fields of a length and as many bytes, and
a reserved part behind them. Texts end at their first zero byte.
-/

namespace CameraBridge.HardwareInfo

def feature : UInt8 := 0x3C

def reserved : Nat := 11

def takeField (name : String) (bytes : Bytes) : Except StatusError (Bytes × Bytes) :=
  match bytes with
  | [] => .error (.truncated name)
  | length :: rest =>
      if rest.length < length.toNat then .error (.truncated name)
      else .ok (rest.take length.toNat, rest.drop length.toNat)

def text (value : Bytes) : String :=
  Utf8.lossy (value.takeWhile (· != 0))

def takeText (name : String) (bytes : Bytes) : Except StatusError (String × Bytes) :=
  (takeField name bytes).map fun (value, rest) => (text value, rest)

def takeModelNumber (bytes : Bytes) : Except StatusError (Nat × Bytes) := do
  let (value, rest) ← takeField "model number" bytes
  if 4 < value.length then .error (.invalidLength "model number" value.length)
  else .ok (Bytes.bigEndian value, rest)

/-- Reads the payload of a hardware info reply, and whether exactly the reserved part was left. -/
def read (bytes : Bytes) : Except StatusError (ModelInfo × Bool) := do
  let (modelNumber, rest) ← takeModelNumber bytes
  let (modelName, rest) ← takeText "model name" rest
  let (_, rest) ← takeField "deprecated" rest
  let (firmwareVersion, rest) ← takeText "firmware version" rest
  let (serialNumber, rest) ← takeText "serial number" rest
  let (apSsid, rest) ← takeText "ap ssid" rest
  let (apMac, rest) ← takeText "ap mac" rest
  return ({ modelNumber, modelName, firmwareVersion, serialNumber, apSsid, apMac },
    rest.length == reserved)

end CameraBridge.HardwareInfo
