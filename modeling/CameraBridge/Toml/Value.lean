import CameraBridge.Toml.Number

/-!
Values of a document and the expressions it is made of: table headers and keys with values. Tables
inside a value are built from keys like the document itself.
-/

namespace CameraBridge.Toml

/-- Values. Tables keep the order of their keys. -/
inductive Value where
  | text (content : String)
  | integer (value : Int)
  | boolean (value : Bool)
  | float
  | dateTime
  | array (items : List Value)
  | table (entries : List (String × Value))
  deriving Inhabited

/-- How a table came to be, which decides what may be added to it. -/
inductive Origin where
  | explicit
  | implied
  | dotted
  deriving DecidableEq

/-- What a key names while a document is being built. -/
inductive Node where
  | value (value : Value)
  | table (origin : Origin) (entries : List (String × Node))
  /-- Tables of one name, the newest first. -/
  | tables (newest : List (String × Node)) (earlier : List (List (String × Node)))

abbrev Entries := List (String × Node)

mutual

def Node.toValue : Node → Value
  | .value value => value
  | .table _ entries => .table (entryValues entries)
  | .tables newest earlier => .array (tableValues earlier ++ [.table (entryValues newest)])

def entryValues : List (String × Node) → List (String × Value)
  | [] => []
  | (key, node) :: rest => (key, node.toValue) :: entryValues rest

def tableValues : List (List (String × Node)) → List Value
  | [] => []
  | newest :: earlier => tableValues earlier ++ [.table (entryValues newest)]

end

namespace Entries

def replace (key : String) (node : Node) (entries : Entries) : Entries :=
  entries.map fun entry => if entry.1 = key then (key, node) else entry

/-- Adds a value under a key of one or more parts. Tables on the way must have come from such keys,
too; the value's own key must be new. -/
def insert (path : List String) (key : String) (value : Value) (entries : Entries) : Option Entries :=
  match path with
  | [] =>
      if (entries.lookup key).isSome then none else some (entries ++ [(key, .value value)])
  | step :: rest =>
      match entries.lookup step with
      | none =>
          (insert rest key value []).map fun inner => entries ++ [(step, .table .dotted inner)]
      | some (.value _) => none
      | some (.table .explicit _) => none
      | some (.table .dotted inner) =>
          (insert rest key value inner).map fun inner => entries.replace step (.table .dotted inner)
      | some (.table .implied inner) =>
          if rest.isEmpty then none
          else
            (insert rest key value inner).map fun inner =>
              entries.replace step (.table .implied inner)
      | some (.tables newest earlier) =>
          if rest.isEmpty then none
          else
            (insert rest key value newest).map fun newest =>
              entries.replace step (.tables newest earlier)

/-- Changes the table that a path of headers leads to; missing ones on the way are implied, and of
several tables of one name the newest counts. -/
def within (path : List String) (change : Entries → Option Entries) (entries : Entries) :
    Option Entries :=
  match path with
  | [] => change entries
  | step :: rest =>
      match entries.lookup step with
      | none => (within rest change []).map fun inner => entries ++ [(step, .table .implied inner)]
      | some (.value _) => none
      | some (.table origin inner) =>
          (within rest change inner).map fun inner => entries.replace step (.table origin inner)
      | some (.tables newest earlier) =>
          (within rest change newest).map fun newest => entries.replace step (.tables newest earlier)

/-- Opens a table by its own header. It must be new, or implied so far. -/
def openTable (key : String) (entries : Entries) : Option Entries :=
  match entries.lookup key with
  | none => some (entries ++ [(key, .table .explicit [])])
  | some (.table .implied inner) => some (entries.replace key (.table .explicit inner))
  | some _ => none

def openNext (key : String) (entries : Entries) : Option Entries :=
  match entries.lookup key with
  | none => some (entries ++ [(key, .tables [] [])])
  | some (.tables newest earlier) => some (entries.replace key (.tables [] (newest :: earlier)))
  | some _ => none

end Entries

/-- A key of one or more parts, with its value. -/
structure Binding where
  path : List String
  key : String
  value : Value

def Entries.ofBindings (bindings : List Binding) : Option Entries :=
  bindings.foldlM (fun entries binding => entries.insert binding.path binding.key binding.value) []

end CameraBridge.Toml
