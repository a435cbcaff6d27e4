import CameraBridge.Link.Error
import CameraBridge.Text.Numeral
import CameraBridge.Text.WhiteSpace

/-!
Identifiers of CAN frames as texts: decimal numerals, or hexadecimal ones after `0x`, with white
space around them. An identifier has eleven bits.
-/

namespace CameraBridge.CanId

/-- The base of a numeral, and the numeral without the mark of its base. -/
def splitBase : List Char → Nat × List Char
  | '0' :: 'x' :: rest => (16, rest)
  | '0' :: 'X' :: rest => (16, rest)
  | text => (10, text)

def invalid (text : String) (fault : Numeral.Fault) : LinkError :=
  .invalidConfig ("Invalid CAN ID '" ++ text ++ "': " ++ fault.message)

def notStandard (text : String) : LinkError :=
  .invalidConfig ("CAN ID '" ++ text ++ "' is not an 11-bit identifier")

/-- Reads an identifier. Numbers of more than sixteen bits are no numerals here. -/
def ofText (text : String) : Except LinkError UInt16 :=
  let trimmed := WhiteSpace.trim text.toList
  let (base, digits) := splitBase trimmed
  match Numeral.read base 0xFFFF digits with
  | .error fault => .error (invalid (String.ofList trimmed) fault)
  | .ok value =>
      if maxStandard.toNat < value then .error (notStandard (String.ofList trimmed))
      else .ok (UInt16.ofNat value)

end CameraBridge.CanId
