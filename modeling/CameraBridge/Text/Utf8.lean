import CameraBridge.Bytes

/-!
Texts as bytes. A text is written in its one UTF-8 form and read back only from a valid one; a
damaged form can still be read leniently, each longest part that begins like a character but is
none giving one replacement character.
-/

namespace CameraBridge.Utf8

def encode (text : String) : Bytes :=
  text.toByteArray.data.toList

/-- Reads a text from its UTF-8 form; damaged forms are refused. -/
def decode? (bytes : Bytes) : Option String :=
  String.fromUTF8? (ByteArray.mk bytes.toArray)

theorem decode?_encode (text : String) : decode? (encode text) = some text := by
  simp [decode?, encode, String.fromUTF8?, String.fromUTF8, text.isValidUTF8]

def replacement : Char := '\uFFFD'

/-- The character that a byte string begins with, if its first bytes form one. -/
def leading? (bytes : Bytes) : Option Char :=
  (ByteArray.mk (bytes.take 4).toArray).utf8DecodeChar? 0

def isContinuation (byte : UInt8) : Bool :=
  0x80 ≤ byte && byte ≤ 0xBF

/-- Whether a byte may follow the lead byte of a character of three or four bytes: overlong forms,
surrogates and values beyond the last character are excluded by the second byte already. -/
def mayFollow (lead second : UInt8) : Bool :=
  if lead == 0xE0 then 0xA0 ≤ second && second ≤ 0xBF
  else if lead == 0xED then 0x80 ≤ second && second ≤ 0x9F
  else if lead == 0xF0 then 0x90 ≤ second && second ≤ 0xBF
  else if lead == 0xF4 then 0x80 ≤ second && second ≤ 0x8F
  else 0xE1 ≤ lead && lead ≤ 0xF3 && isContinuation second

def damagedTail (lead : UInt8) : Bytes → Nat
  | second :: third :: _ =>
      if mayFollow lead second then
        if 0xF0 ≤ lead && isContinuation third then 2 else 1
      else 0
  | [second] => if mayFollow lead second then 1 else 0
  | [] => 0

def lossyChars (bytes : Bytes) : List Char :=
  match bytes with
  | [] => []
  | lead :: rest =>
      match leading? (lead :: rest) with
      | some character => character :: lossyChars (rest.drop (character.utf8Size - 1))
      | none => replacement :: lossyChars (rest.drop (damagedTail lead rest))
termination_by bytes.length
decreasing_by all_goals simp only [List.length_drop, List.length_cons]; omega

def lossy (bytes : Bytes) : String :=
  String.ofList (lossyChars bytes)

end CameraBridge.Utf8
