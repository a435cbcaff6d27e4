import CameraBridge.Text.Hex

/-!
Unsigned numerals in a base up to sixteen, of numbers up to a limit. A plus sign may stand in front.
Digits are taken from left to right, so of two faults the first one met counts.
-/

namespace CameraBridge.Numeral

inductive Fault where
  | empty
  | invalidDigit
  | tooLarge
  deriving DecidableEq

def Fault.message : Fault → String
  | .empty => "cannot parse integer from empty string"
  | .invalidDigit => "invalid digit found in string"
  | .tooLarge => "number too large to fit in target type"

def digit? (base : Nat) (c : Char) : Option Nat :=
  (Hex.digit? c).filter (· < base)

def accumulate (base limit : Nat) (value : Nat) : List Char → Except Fault Nat
  | [] => .ok value
  | c :: rest =>
      match digit? base c with
      | none => .error .invalidDigit
      | some digit =>
          if limit < value * base + digit then .error .tooLarge
          else accumulate base limit (value * base + digit) rest

/-- The digits of a numeral: a plus sign does not count, unless it stands alone. -/
def unsigned : List Char → List Char
  | '+' :: first :: rest => first :: rest
  | text => text

def read (base limit : Nat) (text : List Char) : Except Fault Nat :=
  if text.isEmpty then .error .empty else accumulate base limit 0 (unsigned text)

end CameraBridge.Numeral
