import CameraBridge.Channel
import CameraBridge.Record.Field

/-!
Envelopes: the records that the host and the bridge exchange as large payloads. An envelope holds a
target tag and data; the target is a channel or the store of Wi-Fi credentials, whose data are a
record of their own.
-/

namespace CameraBridge

/-- Why a payload is no envelope, or has no target. -/
inductive EnvelopeError where
  | decode (cause : Record.Error)
  | unknownTarget (target : UInt32)
  deriving DecidableEq

def EnvelopeError.message : EnvelopeError → String
  | .decode cause =>
      "Envelope decode failed: failed to decode Protobuf message: " ++ cause.message
  | .unknownTarget target => "Unknown envelope target " ++ toString target.toNat

def Record.decode (schema : List Record.Rule) (bytes : Bytes) :
    Except EnvelopeError (List Record.Entry) :=
  (Record.read schema bytes).mapError .decode

structure WifiCredentials where
  ssid : String
  password : String
  deriving DecidableEq

namespace WifiCredentials

def schema : List Record.Rule :=
  [⟨1, "WifiCredentials.ssid", .text⟩, ⟨2, "WifiCredentials.password", .text⟩]

def toBytes (credentials : WifiCredentials) : Bytes :=
  Record.encodeBlob 1 (Utf8.encode credentials.ssid) ++
    Record.encodeBlob 2 (Utf8.encode credentials.password)

def ofBytes (bytes : Bytes) : Except EnvelopeError WifiCredentials :=
  (Record.decode schema bytes).map fun entries => ⟨Record.text 1 entries, Record.text 2 entries⟩

end WifiCredentials

/-- A large payload with its target tag. -/
structure Envelope where
  target : UInt32
  data : Bytes
  deriving DecidableEq

inductive Destination where
  | channel (channel : Channel)
  | wifiCredentials
  deriving DecidableEq

namespace Envelope

def wifiTarget : UInt32 := 0xFE

def toChannel (channel : Channel) (data : Bytes) : Envelope :=
  ⟨UInt32.ofNat channel.wire.toNat, data⟩

def ofCredentials (credentials : WifiCredentials) : Envelope :=
  ⟨wifiTarget, credentials.toBytes⟩

def schema : List Record.Rule :=
  [⟨1, "Envelope.target_channel", .number⟩, ⟨2, "Envelope.data", .blob⟩]

def toBytes (envelope : Envelope) : Bytes :=
  Record.encodeNumber 1 envelope.target ++ Record.encodeBlob 2 envelope.data

def ofBytes (bytes : Bytes) : Except EnvelopeError Envelope :=
  (Record.decode schema bytes).map fun entries => ⟨Record.number 1 entries, Record.blob 2 entries⟩

/-- Where the data go; all but six tags are refused. -/
def destination (envelope : Envelope) : Except EnvelopeError Destination :=
  if envelope.target = wifiTarget then .ok .wifiCredentials
  else if envelope.target.toNat < 256 then
    match Channel.ofWire? (UInt8.ofNat envelope.target.toNat) with
    | some channel => .ok (.channel channel)
    | none => .error (.unknownTarget envelope.target)
  else .error (.unknownTarget envelope.target)

def credentials (envelope : Envelope) : Except EnvelopeError WifiCredentials :=
  WifiCredentials.ofBytes envelope.data

end Envelope

end CameraBridge
