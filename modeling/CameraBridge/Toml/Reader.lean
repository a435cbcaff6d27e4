/-!
Readers of text: each takes characters from the front and hands back the rest, or fails. An
alternative begins where the one before it began.
-/

namespace CameraBridge.Toml

abbrev Reader := StateT (List Char) Option

namespace Reader

variable {α : Type}

def one (accepts : Char → Bool) : Reader Char
  | [] => none
  | first :: rest => if accepts first then some (first, rest) else none

def char (expected : Char) : Reader Unit := do
  let _ ← one (· == expected)

def exactly (expected : String) : Reader Unit := fun text =>
  if expected.toList.isPrefixOf text then some ((), text.drop expected.length) else none

def takeWhile (accepts : Char → Bool) : Reader (List Char) := fun text =>
  some (text.takeWhile accepts, text.dropWhile accepts)

def peek : Reader (Option Char) := fun text => some (text.head?, text)

def atEnd : Reader Unit := fun text => if text.isEmpty then some ((), text) else none

def attempt (reader : Reader α) : Reader (Option α) := fun text =>
  match reader text with
  | some (value, rest) => some (some value, rest)
  | none => some (none, text)

/-- Repeats a reader while it succeeds, at most `limit` times. -/
def manyWithin (reader : Reader α) : (limit : Nat) → List Char → List α × List Char
  | 0, text => ([], text)
  | limit + 1, text =>
      match reader text with
      | none => ([], text)
      | some (value, rest) =>
          let (values, rest) := manyWithin reader limit rest
          (value :: values, rest)

/-- Repeats a reader while it succeeds. It takes at least one character each time, so the length of
the text bounds the repetitions. -/
def many (reader : Reader α) : Reader (List α) := fun text =>
  some (manyWithin reader text.length text)

/-- Reads values with separators between them; there may be none. -/
def separated (separator : Reader Unit) (reader : Reader α) : Reader (List α) :=
  (do
    let first ← reader
    let others ← many (do separator; reader)
    return first :: others) <|> pure []

end Reader

/-! ### Blanks -/

open Reader

def isBlank (c : Char) : Bool := c == ' ' || c == '\t'

def blanks : Reader Unit := do
  let _ ← takeWhile isBlank

/-- Takes the end of a line: a line feed, with or without a carriage return before it. -/
def newline : Reader Unit := exactly "\n" <|> exactly "\r\n"

/-- Whether a character may stand in a comment: no control character but the tab. -/
def isCommentChar (c : Char) : Bool := c == '\t' || (' ' ≤ c && c != '\x7f')

def comment : Reader Unit := do
  char '#'
  let _ ← takeWhile isCommentChar

def blankLines : Reader Unit := do
  blanks
  let _ ← many (do
    let _ ← attempt comment
    newline
    blanks)

/-- Takes what may follow an expression on its line, and the line's end. -/
def lineRest : Reader Unit := do
  blanks
  let _ ← attempt comment
  newline <|> atEnd

end CameraBridge.Toml
