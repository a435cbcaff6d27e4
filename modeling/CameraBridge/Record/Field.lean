import CameraBridge.Record.Varint
import CameraBridge.Text.Utf8

/-!
Records of tagged fields. Every field is a key, which holds a tag and the form of the value, and
the value. A schema lists the fields that are read; any other field is skipped whole, groups with
all that they hold. Values of a known field keep their order, so that a later one can override an
earlier one.
-/

namespace CameraBridge.Record

/-- The forms a value is written in. -/
inductive WireType where
  | varint
  | sixtyFourBit
  | lengthDelimited
  | startGroup
  | endGroup
  | thirtyTwoBit
  deriving DecidableEq

def WireType.code : WireType → Nat
  | .varint => 0
  | .sixtyFourBit => 1
  | .lengthDelimited => 2
  | .startGroup => 3
  | .endGroup => 4
  | .thirtyTwoBit => 5

def WireType.ofCode? : Nat → Option WireType
  | 0 => some .varint
  | 1 => some .sixtyFourBit
  | 2 => some .lengthDelimited
  | 3 => some .startGroup
  | 4 => some .endGroup
  | 5 => some .thirtyTwoBit
  | _ => none

def WireType.name : WireType → String
  | .varint => "Varint"
  | .sixtyFourBit => "SixtyFourBit"
  | .lengthDelimited => "LengthDelimited"
  | .startGroup => "StartGroup"
  | .endGroup => "EndGroup"
  | .thirtyTwoBit => "ThirtyTwoBit"

inductive Error where
  | invalidVarint
  | invalidKey (key : Nat)
  | invalidWireType (code : Nat)
  | invalidTag
  | wireTypeMismatch (actual expected : WireType)
  | bufferUnderflow
  | notUtf8
  | recursionLimit
  | unexpectedEndGroup
  /-- An error in the value of a known field. -/
  | inField (label : String) (cause : Error)
  deriving DecidableEq

def Error.message : Error → String
  | .invalidVarint => "invalid varint"
  | .invalidKey key => s!"invalid key value: {key}"
  | .invalidWireType code => s!"invalid wire type value: {code}"
  | .invalidTag => "invalid tag value: 0"
  | .wireTypeMismatch actual expected =>
      "invalid wire type: " ++ actual.name ++ " (expected " ++ expected.name ++ ")"
  | .bufferUnderflow => "buffer underflow"
  | .notUtf8 => "invalid string value: data is not UTF-8 encoded"
  | .recursionLimit => "recursion limit reached"
  | .unexpectedEndGroup => "unexpected end group tag"
  | .inField label cause => label ++ ": " ++ cause.message

abbrev Reader (α : Type) := Bytes → Except Error (α × Bytes)

def readNumber : Reader Nat := fun bytes =>
  match Varint.read bytes with
  | some found => .ok found
  | none => .error .invalidVarint

def readExactly (count : Nat) : Reader Bytes := fun bytes =>
  if bytes.length < count then .error .bufferUnderflow
  else .ok (bytes.take count, bytes.drop count)

def readBlob : Reader Bytes := fun bytes =>
  match readNumber bytes with
  | .ok (length, rest) => readExactly length rest
  | .error cause => .error cause

structure Key where
  tag : Nat
  wireType : WireType
  deriving DecidableEq

def readKey : Reader Key := fun bytes =>
  match readNumber bytes with
  | .error cause => .error cause
  | .ok (key, rest) =>
      if UInt32.size ≤ key then .error (.invalidKey key)
      else match WireType.ofCode? (key % 8) with
        | none => .error (.invalidWireType (key % 8))
        | some wireType => if key / 8 = 0 then .error .invalidTag else .ok (⟨key / 8, wireType⟩, rest)

theorem readNumber_shorter {bytes rest : Bytes} {value : Nat}
    (found : readNumber bytes = .ok (value, rest)) : rest.length < bytes.length := by
  unfold readNumber at found
  split at found
  · rename_i pair equal
    cases found
    exact Varint.read_shorter equal
  · contradiction

theorem readExactly_shorter {count : Nat} {bytes rest taken : Bytes}
    (found : readExactly count bytes = .ok (taken, rest)) : rest.length ≤ bytes.length := by
  unfold readExactly at found
  split at found
  · contradiction
  · cases found
    simp

theorem readBlob_shorter {bytes rest taken : Bytes}
    (found : readBlob bytes = .ok (taken, rest)) : rest.length < bytes.length := by
  unfold readBlob at found
  split at found
  · rename_i length left equal
    have := readNumber_shorter equal
    have := readExactly_shorter found
    omega
  · contradiction

theorem readKey_shorter {bytes rest : Bytes} {key : Key}
    (found : readKey bytes = .ok (key, rest)) : rest.length < bytes.length := by
  unfold readKey at found
  split at found
  · contradiction
  · rename_i number left equal
    have := readNumber_shorter equal
    repeat' split at found
    all_goals first | contradiction | (cases found; exact this)

/-! ### Skipping -/

def groupLimit : Nat := 100

def skipPlain (wireType : WireType) (bytes : Bytes) : Except Error Bytes :=
  match wireType with
  | .varint => (readNumber bytes).map Prod.snd
  | .sixtyFourBit => (readExactly 8 bytes).map Prod.snd
  | .thirtyTwoBit => (readExactly 4 bytes).map Prod.snd
  | .lengthDelimited => (readBlob bytes).map Prod.snd
  | .startGroup | .endGroup => .error .unexpectedEndGroup

theorem map_snd_eq_ok {α : Type} {result : Except Error (α × Bytes)} {rest : Bytes}
    (found : result.map Prod.snd = .ok rest) : ∃ value, result = .ok (value, rest) := by
  cases result with
  | error cause => simp [Except.map] at found
  | ok pair =>
      simp only [Except.map, Except.ok.injEq] at found
      exact ⟨pair.1, by rw [← found]⟩

theorem skipPlain_shorter {wireType : WireType} {bytes rest : Bytes}
    (found : skipPlain wireType bytes = .ok rest) : rest.length ≤ bytes.length := by
  cases wireType <;> simp only [skipPlain, reduceCtorEq] at found <;>
    obtain ⟨value, equal⟩ := map_snd_eq_ok found
  · exact Nat.le_of_lt (readNumber_shorter equal)
  · exact readExactly_shorter equal
  · exact Nat.le_of_lt (readBlob_shorter equal)
  · exact readExactly_shorter equal

/-- Skips one field inside the opened groups, the innermost one named by `tag`: its end closes it,
the start of another one opens that. -/
def skipInGroup (tag : Nat) (outer : List Nat) : Reader (List Nat) := fun bytes =>
  match readKey bytes with
  | .error cause => .error cause
  | .ok (key, rest) =>
      if key.wireType = .endGroup then
        if key.tag = tag then .ok (outer, rest) else .error .unexpectedEndGroup
      else if groupLimit ≤ outer.length + 1 then .error .recursionLimit
      else if key.wireType = .startGroup then .ok (key.tag :: tag :: outer, rest)
      else match skipPlain key.wireType rest with
        | .error cause => .error cause
        | .ok left => .ok (tag :: outer, left)

theorem skipInGroup_shorter {tag : Nat} {outer opened : List Nat} {bytes rest : Bytes}
    (found : skipInGroup tag outer bytes = .ok (opened, rest)) : rest.length < bytes.length := by
  unfold skipInGroup at found
  split at found
  · contradiction
  · rename_i key after head
    have shorter := readKey_shorter head
    repeat' split at found
    all_goals first | contradiction | cases found
    · exact shorter
    · exact shorter
    · rename_i skipped
      exact Nat.lt_of_le_of_lt (skipPlain_shorter skipped) shorter

/-- Skips up to the end of all opened groups, of which the innermost one comes first. -/
def skipGroups (opened : List Nat) (bytes : Bytes) : Except Error Bytes :=
  match opened with
  | [] => .ok bytes
  | tag :: outer =>
      match _field : skipInGroup tag outer bytes with
      | .error cause => .error cause
      | .ok (still, rest) => skipGroups still rest
termination_by bytes.length
decreasing_by exact skipInGroup_shorter _field

theorem skipGroups_shorter {opened : List Nat} {bytes rest : Bytes}
    (found : skipGroups opened bytes = .ok rest) : rest.length ≤ bytes.length := by
  fun_induction skipGroups opened bytes with
  | case1 => cases found; exact Nat.le_refl _
  | case2 => contradiction
  | case3 _ _ _ _ _ field ih =>
      exact Nat.le_trans (ih found) (Nat.le_of_lt (skipInGroup_shorter field))

def skip (key : Key) (bytes : Bytes) : Except Error Bytes :=
  if key.wireType = .startGroup then skipGroups [key.tag] bytes else skipPlain key.wireType bytes

theorem skip_shorter {key : Key} {bytes rest : Bytes}
    (found : skip key bytes = .ok rest) : rest.length ≤ bytes.length := by
  unfold skip at found
  split at found
  · exact skipGroups_shorter found
  · exact skipPlain_shorter found

/-! ### Known fields -/

inductive Kind where
  | number
  | blob
  | text
  deriving DecidableEq

def Kind.wireType : Kind → WireType
  | .number => .varint
  | .blob | .text => .lengthDelimited

structure Rule where
  tag : Nat
  label : String
  kind : Kind

inductive Value where
  | number (value : UInt32)
  | blob (bytes : Bytes)
  | text (text : String)
  deriving DecidableEq

/-- Reads a value of a kind; of longer numbers the low thirty-two bits count. -/
def readValue (kind : Kind) : Reader Value := fun bytes =>
  match kind with
  | .number => (readNumber bytes).map fun (value, rest) => (.number (UInt32.ofNat value), rest)
  | .blob => (readBlob bytes).map fun (blob, rest) => (.blob blob, rest)
  | .text =>
      match readBlob bytes with
      | .error cause => .error cause
      | .ok (blob, rest) =>
          match Utf8.decode? blob with
          | some text => .ok (.text text, rest)
          | none => .error .notUtf8

theorem readValue_shorter {kind : Kind} {bytes rest : Bytes} {value : Value}
    (found : readValue kind bytes = .ok (value, rest)) : rest.length < bytes.length := by
  cases kind with
  | number =>
      cases equal : readNumber bytes with
      | error cause => simp [readValue, equal, Except.map] at found
      | ok pair =>
          simp only [readValue, equal, Except.map, Except.ok.injEq, Prod.mk.injEq] at found
          exact found.2 ▸ readNumber_shorter equal
  | blob =>
      cases equal : readBlob bytes with
      | error cause => simp [readValue, equal, Except.map] at found
      | ok pair =>
          simp only [readValue, equal, Except.map, Except.ok.injEq, Prod.mk.injEq] at found
          exact found.2 ▸ readBlob_shorter equal
  | text =>
      simp only [readValue] at found
      split at found
      · contradiction
      · rename_i blob left equal
        split at found
        · cases found
          exact readBlob_shorter equal
        · contradiction

abbrev Entry := Nat × Value

/-- Reads one field: an entry, or nothing for a field that the schema does not know. -/
def readField (schema : List Rule) : Reader (Option Entry) := fun bytes =>
  match readKey bytes with
  | .error cause => .error cause
  | .ok (key, rest) =>
      match schema.find? (fun rule => rule.tag == key.tag) with
      | none =>
          match skip key rest with
          | .error cause => .error cause
          | .ok left => .ok (none, left)
      | some rule =>
          if key.wireType = rule.kind.wireType then
            match readValue rule.kind rest with
            | .error cause => .error (.inField rule.label cause)
            | .ok (value, left) => .ok (some (rule.tag, value), left)
          else .error (.inField rule.label (.wireTypeMismatch key.wireType rule.kind.wireType))

theorem readField_shorter {schema : List Rule} {bytes rest : Bytes} {entry : Option Entry}
    (found : readField schema bytes = .ok (entry, rest)) : rest.length < bytes.length := by
  unfold readField at found
  split at found
  · contradiction
  · rename_i key after head
    have shorter := readKey_shorter head
    repeat' split at found
    all_goals first | contradiction | cases found
    · rename_i skipped
      exact Nat.lt_of_le_of_lt (skip_shorter skipped) shorter
    · rename_i read
      exact Nat.lt_trans (readValue_shorter read) shorter

def read (schema : List Rule) (bytes : Bytes) : Except Error (List Entry) :=
  match bytes with
  | [] => .ok []
  | byte :: tail =>
      match _field : readField schema (byte :: tail) with
      | .error cause => .error cause
      | .ok (entry, rest) => (read schema rest).map (entry.toList ++ ·)
termination_by bytes.length
decreasing_by exact readField_shorter _field

/-- The last number of a field; absent numbers are zero. -/
def number (tag : Nat) (entries : List Entry) : UInt32 :=
  entries.foldl (fun last entry =>
    match entry with
    | (found, .number value) => if found = tag then value else last
    | _ => last) 0

/-- The last bytes of a field; absent ones are empty. -/
def blob (tag : Nat) (entries : List Entry) : Bytes :=
  entries.foldl (fun last entry =>
    match entry with
    | (found, .blob value) => if found = tag then value else last
    | _ => last) []

/-- The last text of a field; absent ones are empty. -/
def text (tag : Nat) (entries : List Entry) : String :=
  entries.foldl (fun last entry =>
    match entry with
    | (found, .text value) => if found = tag then value else last
    | _ => last) ""

/-! ### Writing -/

def encodeKey (tag : Nat) (wireType : WireType) : Bytes :=
  Varint.encode (8 * tag + wireType.code)

def encodeNumber (tag : Nat) (value : UInt32) : Bytes :=
  if value = 0 then [] else encodeKey tag .varint ++ Varint.encode value.toNat

/-- Writes bytes with their length; no bytes are left out. -/
def encodeBlob (tag : Nat) (bytes : Bytes) : Bytes :=
  match bytes with
  | [] => []
  | _ => encodeKey tag .lengthDelimited ++ Varint.encode bytes.length ++ bytes

end CameraBridge.Record
