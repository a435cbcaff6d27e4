import CameraBridge.Toml.Value

/-!
Whole documents: lines of table headers and of keys with values, which together denote one table.
-/

namespace CameraBridge.Toml

open Reader

/-- How deep values may be nested, and how many parts a key may have, is less than this. -/
def depthLimit : Nat := 80

def isKeyChar (c : Char) : Bool := c.isAlphanum || c == '-' || c == '_'

def simpleKey : Reader String := do
  blanks
  let key ← basicText <|> literalText <|> do
    let first ← one isKeyChar
    let others ← takeWhile isKeyChar
    return String.ofList (first :: others)
  blanks
  return key

/-- Reads a key: the parts before the last one, and that. -/
def key : Reader (List String × String) := do
  let first ← simpleKey
  let others ← many (do char '.'; simpleKey)
  if others.length + 1 < depthLimit then
    let parts := first :: others
    return (parts.dropLast, parts.getLast (List.cons_ne_nil first others))
  else fun _ => none

def binding (value : Reader Value) : Reader Binding := do
  let (path, name) ← key
  char '='
  blanks
  return ⟨path, name, ← value⟩

/-- Reads an array, in which lines may end anywhere and a last comma does not count. -/
def array (value : Reader Value) : Reader Value := do
  char '['
  let items ← separated (char ',') do
    blankLines
    let item ← value
    blankLines
    return item
  if !items.isEmpty then
    let _ ← attempt (char ',')
  blankLines
  char ']'
  return .array items

def inlineTable (value : Reader Value) : Reader Value := do
  char '\x7b'
  let bindings ← separated (char ',') do
    let found ← binding value
    blanks
    return found
  blanks
  char '\x7d'
  match Entries.ofBindings bindings with
  | some entries => return .table (entryValues entries)
  | none => fun _ => none

def plainValue : Reader Value :=
  (Value.text <$> text) <|>
    (do exactly "true"; return .boolean true) <|>
    (do exactly "false"; return .boolean false) <|>
    (do dateTime; return .dateTime) <|>
    (do float; return .float) <|>
    (Value.integer <$> integer)

def value : (depth : Nat) → Reader Value
  | 0 => plainValue
  | depth + 1 => array (value depth) <|> inlineTable (value depth) <|> plainValue

inductive Expression where
  | header (path : List String) (key : String)
  | nextHeader (path : List String) (key : String)
  | binding (binding : Binding)

def nextHeader : Reader Expression := do
  exactly "[["
  let (path, name) ← key
  exactly "]]"
  return .nextHeader path name

def header : Reader Expression := do
  char '['
  let (path, name) ← key
  char ']'
  return .header path name

def line : Reader (Option Expression) := do
  blanks
  let expression ← attempt
    (nextHeader <|> header <|> Expression.binding <$> binding (value (depthLimit - 1)))
  lineRest
  return expression

def lines : (limit : Nat) → Reader (List Expression)
  | 0 => fun _ => none
  | limit + 1 => fun text =>
      if text.isEmpty then some ([], text)
      else (do
        let expression ← line
        return expression.toList ++ (← lines limit)) text

/-- A document being built, and the path to the table that was opened last. -/
structure Draft where
  entries : Entries := []
  current : List String := []

def Draft.add (draft : Draft) : Expression → Option Draft
  | .header path key =>
      (draft.entries.within path (Entries.openTable key)).map fun entries => ⟨entries, path ++ [key]⟩
  | .nextHeader path key =>
      (draft.entries.within path (Entries.openNext key)).map fun entries => ⟨entries, path ++ [key]⟩
  | .binding found =>
      (draft.entries.within draft.current (Entries.insert found.path found.key found.value)).map
        fun entries => { draft with entries }

def dropMark : List Char → List Char
  | '\uFEFF' :: rest => rest
  | text => text

/-- The entries of the table that a text denotes, unless it is no document. -/
def parse? (text : String) : Option (List (String × Value)) := do
  let characters := dropMark text.toList
  let (expressions, _) ← lines (characters.length + 1) characters
  let draft ← expressions.foldlM Draft.add {}
  return entryValues draft.entries

end CameraBridge.Toml
