/-!
The camera's channels and the CAN identifiers bound to them. Four channels are backed by a pair of
characteristics of the camera; the fifth, local one carries commands for the bridge itself and
never reaches the camera.
-/

namespace CameraBridge

inductive Channel where
  | cmd
  | settings
  | query
  | net
  | control
  deriving DecidableEq, Inhabited

/-! ### Identifiers of the bridge's CAN frames -/

namespace CanId

def heartbeat : UInt16 := 0x734
def errorReply : UInt16 := 0x740
def maxStandard : UInt16 := 0x7FF

def transferIn : UInt16 := 0x753
def transferInFlow : UInt16 := 0x763
def replyOut : UInt16 := 0x783
def replyOutFlow : UInt16 := 0x784

end CanId

namespace Channel

def ble : List Channel := [.cmd, .settings, .query, .net]

def wire : Channel → UInt8
  | .cmd => 0
  | .settings => 1
  | .query => 2
  | .net => 3
  | .control => 0xFF

/-- Reads a tag; all but five values name no channel. -/
def ofWire? (value : UInt8) : Option Channel :=
  if value = 0 then some .cmd
  else if value = 1 then some .settings
  else if value = 2 then some .query
  else if value = 3 then some .net
  else if value = 0xFF then some .control
  else none

theorem ofWire?_wire (channel : Channel) : ofWire? channel.wire = some channel := by
  cases channel <;> decide

def bleIndex? : Channel → Option (Fin 4)
  | .cmd => some 0
  | .settings => some 1
  | .query => some 2
  | .net => some 3
  | .control => none

def isBle (channel : Channel) : Bool :=
  channel.bleIndex?.isSome

def ofInputId? (id : UInt16) : Option Channel :=
  if id = 0x772 then some .cmd
  else if id = 0x774 then some .settings
  else if id = 0x776 then some .query
  else if id = 0x778 then some .net
  else if id = 0x77A then some .control
  else none

def replyId? : Channel → Option UInt16
  | .cmd => some 0x773
  | .settings => some 0x775
  | .query => some 0x777
  | .net => some 0x779
  | .control => none

def name : Channel → String
  | .cmd => "cmd"
  | .settings => "settings"
  | .query => "query"
  | .net => "net"
  | .control => "control"

end Channel

end CameraBridge
