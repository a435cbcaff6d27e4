import CameraBridge.Channel
import CameraBridge.Device

/-!
Status lists: the camera's answer to status queries, a row of entries of an identifier, a length and
as many bytes. Three identifiers are understood; all others are kept as they are.
-/

namespace CameraBridge

/-- Why a reply of the camera cannot be read. -/
inductive StatusError where
  | truncated (field : String)
  | invalidLength (field : String) (length : Nat)
  deriving DecidableEq

def StatusError.message : StatusError → String
  | .truncated field => "Reply truncated while reading " ++ field
  | .invalidLength field length => s!"Field {field} has invalid length {length}"

inductive StatusValue where
  | recording (on : Bool)
  | videoCount (count : Nat)
  | battery (percent : UInt8)
  | other (id : UInt8) (value : Bytes)
  deriving DecidableEq

/-! ### First body bytes of the replies that carry a status list -/

namespace StatusQuery

def get : UInt8 := 0x13
def register : UInt8 := 0x53
def notify : UInt8 := 0x93

end StatusQuery

namespace StatusValue

def recordingId : UInt8 := 10
def videoCountId : UInt8 := 39
def batteryId : UInt8 := 70

def ofEntry (id : UInt8) (value : Bytes) : Except StatusError StatusValue :=
  if id = recordingId then
    match value with
    | [] => .error (.invalidLength "status" 0)
    | flag :: _ => .ok (.recording (0 < flag.toNat))
  else if id = batteryId then
    match value with
    | [] => .error (.invalidLength "status" 0)
    | percent :: _ => .ok (.battery percent)
  else if id = videoCountId then
    if 4 < value.length then .error (.invalidLength "video count" value.length)
    else .ok (.videoCount (Bytes.bigEndian value))
  else .ok (.other id value)

def readList (bytes : Bytes) : Except StatusError (List StatusValue) :=
  match bytes with
  | [] => .ok []
  | [_] => .error (.truncated "status header")
  | id :: length :: rest =>
      if rest.length < length.toNat then .error (.truncated "status value")
      else match ofEntry id (rest.take length.toNat) with
        | .error cause => .error cause
        | .ok value => (readList (rest.drop length.toNat)).map (value :: ·)
termination_by bytes.length
decreasing_by simp only [List.length_drop, List.length_cons]; omega

def isKnown : StatusValue → Bool
  | .other .. => false
  | _ => true

def apply (value : StatusValue) (state : DeviceState) : DeviceState :=
  match value with
  | .recording on => { state with recording := on }
  | .videoCount count => { state with videoCount := count }
  | .battery percent => { state with battery := percent }
  | .other .. => state

def applyAll (values : List StatusValue) (state : DeviceState) : DeviceState :=
  values.foldl (fun state value => value.apply state) state

end StatusValue

/-- What is asked of the camera once a connection is up: registration for the three values, each
value once, and the hardware. -/
def startupQueries : List (Channel × Bytes) :=
  [(.query, [0x04, StatusQuery.register, StatusValue.recordingId, StatusValue.videoCountId,
      StatusValue.batteryId]),
    (.query, [0x02, StatusQuery.get, StatusValue.videoCountId]),
    (.query, [0x02, StatusQuery.get, StatusValue.batteryId]),
    (.query, [0x02, StatusQuery.get, StatusValue.recordingId]),
    (.cmd, [0x01, 0x3C])]

end CameraBridge
