/-!
Hexadecimal digits, and numerals with capital digits, as messages show identifiers and header bytes.
-/

namespace CameraBridge.Hex

def digit? (c : Char) : Option Nat :=
  if c.isDigit then some (c.toNat - 48)
  else if 'a' ≤ c && c ≤ 'f' then some (c.toNat - 87)
  else if 'A' ≤ c && c ≤ 'F' then some (c.toNat - 55)
  else none

def upper (value : Nat) : String :=
  String.ofList ((Nat.toDigits 16 value).map Char.toUpper)

/-- The numeral of a number with zeros in front up to a given count of digits. -/
def upperPadded (width value : Nat) : String :=
  let digits := (Nat.toDigits 16 value).map Char.toUpper
  String.ofList (List.replicate (width - digits.length) '0' ++ digits)

end CameraBridge.Hex
