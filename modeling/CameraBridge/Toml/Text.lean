import CameraBridge.Text.Hex
import CameraBridge.Toml.Reader

/-!
Texts of a document: basic ones between quotation marks, with escapes, and literal ones between
apostrophes, each on one line or on several.
-/

namespace CameraBridge.Toml

open Reader

def isPlain (c : Char) : Bool := c == '\t' || (' ' ≤ c && c != '\x7f')

/-- The character with a given number, unless that is none. -/
def scalar? (value : Nat) : Option Char :=
  if value.isValidChar then some (Char.ofNat value) else none

def codePoint : (digits : Nat) → (value : Nat) → Reader Char
  | 0, value => fun text => (scalar? value).map (·, text)
  | digits + 1, value => do
      let c ← one fun c => (Hex.digit? c).isSome
      codePoint digits (16 * value + (Hex.digit? c).getD 0)

def escaped : Reader Char := do
  char '\\'
  let c ← one fun _ => true
  match c with
  | 'b' => return '\x08'
  | 'f' => return '\x0c'
  | 'n' => return '\n'
  | 'r' => return '\r'
  | 't' => return '\t'
  | '\\' => return '\\'
  | '"' => return '"'
  | 'u' => codePoint 4 0
  | 'U' => codePoint 8 0
  | _ => fun _ => none

def basicChar : Reader Char :=
  (one fun c => isPlain c && c != '"' && c != '\\') <|> escaped

def basicText : Reader String := do
  char '"'
  let content ← many basicChar
  char '"'
  return String.ofList content

def literalText : Reader String := do
  char '\''
  let content ← takeWhile fun c => isPlain c && c != '\''
  char '\''
  return String.ofList content

/-! ### Several lines -/

def innerMarks (mark : Char) : Reader (List Char) := do
  let marks ← takeWhile (· == mark)
  if marks.length = 1 ∨ marks.length = 2 then return marks else fun _ => none

/-- Reads the three marks that end a text, with up to two more before them, which belong to it. -/
def closingMarks (mark : Char) : Reader (List Char) := do
  let marks ← takeWhile (· == mark)
  if 3 ≤ marks.length ∧ marks.length ≤ 5 then return marks.drop 3 else fun _ => none

/-- Skips a backslash at the end of a line, and all blanks and ends of lines after it. -/
def continuation : Reader (List Char) := do
  char '\\'
  blanks
  newline
  let _ ← many (newline <|> do let _ ← one isBlank)
  return []

def innerNewline : Reader (List Char) := do
  newline
  return ['\n']

/-- Reads a text on several lines, whose content is read piece by piece. An end of a line right at
the beginning does not count. -/
def linesText (mark : Char) (piece : Reader (List Char)) : Reader String := do
  exactly (String.ofList [mark, mark, mark])
  let _ ← attempt newline
  let pieces ← many (piece <|> innerNewline <|> innerMarks mark)
  let last ← closingMarks mark
  return String.ofList (pieces.flatten ++ last)

def basicLines : Reader String :=
  linesText '"' (continuation <|> do
    let c ← basicChar
    return [c])

def literalLines : Reader String :=
  linesText '\'' do
    let c ← one fun c => isPlain c && c != '\''
    return [c]

def text : Reader String := basicLines <|> basicText <|> literalLines <|> literalText

end CameraBridge.Toml
