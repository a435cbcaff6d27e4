import CameraBridge.Toml.Text

/-!
Numbers and dates of a document. Integers have sixty-four bits. Floats and dates are checked, but
not kept: no setting is one.
-/

namespace CameraBridge.Toml

open Reader

def digits (accepts : Char → Bool) : Reader (List Char) := do
  let first ← one accepts
  let others ← many (one accepts <|> do char '_'; one accepts)
  return first :: others

def ofDigits (base : Nat) (digits : List Char) : Nat :=
  digits.foldl (fun value c => base * value + (Hex.digit? c).getD 0) 0

def sign : Reader Bool := do
  let c ← attempt (one fun c => c == '+' || c == '-')
  return c == some '-'

/-- Reads the digits of a decimal number, which begin with zero only if that is all. -/
def decimalDigits : Reader (List Char) := do
  if (← peek) == some '0' then
    char '0'
    return ['0']
  else digits Char.isDigit

/-- The least natural number that is no integer of a document. -/
def integerBound : Nat := 1 <<< 63

def inRange (value : Int) : Reader Int := fun text =>
  if -integerBound ≤ value ∧ value < integerBound then some (value, text) else none

def basedInteger (mark : String) (base : Nat) (accepts : Char → Bool) : Reader Int := do
  exactly mark
  let found ← digits accepts
  inRange (ofDigits base found)

def decimalInteger : Reader Int := do
  let negative ← sign
  let magnitude := ofDigits 10 (← decimalDigits)
  inRange (if negative then -magnitude else magnitude)

def integer : Reader Int :=
  basedInteger "0x" 16 (fun c => (Hex.digit? c).isSome) <|>
    basedInteger "0o" 8 (fun c => '0' ≤ c && c ≤ '7') <|>
    basedInteger "0b" 2 (fun c => c == '0' || c == '1') <|> decimalInteger

/-! ### Floats -/

def overflowBound : Nat := (1 <<< 1024) - (1 <<< 970)

/-- Whether `mantissa` times a power of ten is rounded to infinity. -/
def overflows (mantissa : Nat) (exponent : Int) : Bool :=
  let places : Int := (Nat.toDigits 10 mantissa).length + exponent
  if mantissa = 0 ∨ places < 300 then false
  else if 320 < places then true
  else if 0 ≤ exponent then overflowBound ≤ mantissa * Nat.pow 10 exponent.toNat
  else overflowBound * Nat.pow 10 (-exponent).toNat ≤ mantissa

def fraction : Reader (List Char) := do
  char '.'
  digits Char.isDigit

def exponent : Reader Int := do
  let _ ← one fun c => c == 'e' || c == 'E'
  let negative ← sign
  let magnitude := ofDigits 10 (← digits Char.isDigit)
  return if negative then -magnitude else magnitude

/-- Reads a decimal float, which has a fraction or a power of ten; positive ones may not round to
infinity. -/
def decimalFloat : Reader Unit := do
  let negative ← sign
  let whole ← decimalDigits
  let places ← attempt fraction
  let power ← if places.isSome then attempt exponent else some <$> exponent
  let decimals := places.getD []
  if !negative && overflows (ofDigits 10 (whole ++ decimals)) (power.getD 0 - decimals.length) then
    fun _ => none

def float : Reader Unit :=
  decimalFloat <|> do
    let _ ← sign
    exactly "inf" <|> exactly "nan"

/-! ### Dates -/

def bounded (width low high : Nat) : Reader Nat := do
  let found ← (List.range width).mapM fun _ => one Char.isDigit
  let value := ofDigits 10 found
  if low ≤ value ∧ value ≤ high then return value else fun _ => none

def isLeapYear (year : Nat) : Bool :=
  year % 4 == 0 && (year % 100 != 0 || year % 400 == 0)

def daysInMonth (year month : Nat) : Nat :=
  if month = 2 then if isLeapYear year then 29 else 28
  else if month = 4 ∨ month = 6 ∨ month = 9 ∨ month = 11 then 30
  else 31

def date : Reader Unit := do
  let year ← bounded 4 0 9999
  char '-'
  let month ← bounded 2 1 12
  char '-'
  let _ ← bounded 2 1 (daysInMonth year month)

/-- Reads a time of a day; a minute may have a leap second. -/
def time : Reader Unit := do
  let _ ← bounded 2 0 23
  char ':'
  let _ ← bounded 2 0 59
  char ':'
  let _ ← bounded 2 0 60
  let _ ← attempt do
    char '.'
    let _ ← one Char.isDigit
    takeWhile Char.isDigit

def offset : Reader Unit :=
  (do let _ ← one fun c => c == 'Z' || c == 'z') <|> do
    let _ ← one fun c => c == '+' || c == '-'
    let _ ← bounded 2 0 23
    char ':'
    let _ ← bounded 2 0 59

def dateTime : Reader Unit :=
  (do
    date
    let _ ← attempt do
      let _ ← one fun c => c == 'T' || c == 't' || c == ' '
      time
      attempt offset) <|> time

end CameraBridge.Toml
