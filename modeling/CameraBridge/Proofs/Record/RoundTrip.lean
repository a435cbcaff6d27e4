import CameraBridge.Envelope
import Mathlib.Algebra.Group.Nat.Defs

/-! Records read back as they were written: numbers, keys and values one by one, and envelopes as a
whole. A field that holds its default is not written, and reading finds the default in its place. -/

namespace CameraBridge

namespace Varint

/-- Each byte but the last leaves seven bits less to be read, and the last place has room for one. -/
theorem readWithin_encode (places value : Nat) (rest : Bytes) (bound : value < 2 * 128 ^ places) :
    readWithin (places + 1) (encode value ++ rest) = some (value, rest) := by
  induction places generalizing value with
  | zero =>
      have small : value < 128 := by omega
      have byte : (UInt8.ofNat value).toNat = value :=
        UInt8.toNat_ofNat_of_lt' (show _ < 256 by omega)
      have lowest : ¬ 1 < value := by omega
      rw [encode, if_pos small]
      simp only [List.cons_append, List.nil_append, readWithin, byte, lowest, and_false, if_false,
        if_pos small]
  | succ places ih =>
      by_cases small : value < 128
      · have byte : (UInt8.ofNat value).toNat = value :=
          UInt8.toNat_ofNat_of_lt' (show _ < 256 by omega)
        rw [encode, if_pos small]
        simp only [List.cons_append, List.nil_append, readWithin, byte, Nat.succ_ne_zero, false_and,
          if_false, if_pos small]
      · have byte : (UInt8.ofNat (128 + value % 128)).toNat = 128 + value % 128 :=
          UInt8.toNat_ofNat_of_lt' (show _ < 256 by omega)
        have more : ¬ 128 + value % 128 < 128 := by omega
        have high : value / 128 < 2 * 128 ^ places := by
          rw [Nat.pow_succ] at bound
          omega
        have whole : 128 + value % 128 - 128 + 128 * (value / 128) = value := by omega
        rw [encode, if_neg small, List.cons_append, readWithin]
        simp only [byte, Nat.succ_ne_zero, false_and, if_false, if_neg more, ih (value / 128) high,
          Option.map_some, whole]

theorem read_encode {value : Nat} (bound : value < 2 ^ 64) (rest : Bytes) :
    read (encode value ++ rest) = some (value, rest) :=
  readWithin_encode 9 value rest (by omega)

/-- A number that has more bits than the places hold is not read back. -/
theorem readWithin_encode_long (places value : Nat) (rest : Bytes)
    (long : 2 * 128 ^ places ≤ value) : readWithin (places + 1) (encode value ++ rest) = none := by
  induction places generalizing value with
  | zero =>
      by_cases small : value < 128
      · have byte : (UInt8.ofNat value).toNat = value :=
          UInt8.toNat_ofNat_of_lt' (show _ < 256 by omega)
        have more : 1 < value := by omega
        rw [encode, if_pos small]
        simp only [List.cons_append, List.nil_append, readWithin, byte, more, and_self, if_true]
      · have byte : (UInt8.ofNat (128 + value % 128)).toNat = 128 + value % 128 :=
          UInt8.toNat_ofNat_of_lt' (show _ < 256 by omega)
        have more : 1 < 128 + value % 128 := by omega
        rw [encode, if_neg small, List.cons_append, readWithin]
        simp only [byte, more, and_self, if_true]
  | succ places ih =>
      rw [Nat.pow_succ] at long
      have positive : 0 < 128 ^ places := Nat.pow_pos (by decide)
      have small : ¬ value < 128 := by omega
      have byte : (UInt8.ofNat (128 + value % 128)).toNat = 128 + value % 128 :=
        UInt8.toNat_ofNat_of_lt' (show _ < 256 by omega)
      have more : ¬ 128 + value % 128 < 128 := by omega
      have high : 2 * 128 ^ places ≤ value / 128 := by omega
      rw [encode, if_neg small, List.cons_append, readWithin]
      simp only [byte, Nat.succ_ne_zero, false_and, if_false, if_neg more, ih (value / 128) high,
        Option.map_none]

theorem read_encode_long {value : Nat} (long : 2 ^ 64 ≤ value) (rest : Bytes) :
    read (encode value ++ rest) = none :=
  readWithin_encode_long 9 value rest (by omega)

theorem readWithin_lt {places value : Nat} {bytes rest : Bytes}
    (found : readWithin (places + 1) bytes = some (value, rest)) : value < 2 * 128 ^ places := by
  induction places generalizing bytes value with
  | zero =>
      cases bytes with
      | nil => cases found
      | cons byte tail =>
          simp only [readWithin, true_and] at found
          split at found
          · cases found
          · split at found
            · cases found
              omega
            · cases found
  | succ places ih =>
      cases bytes with
      | nil => cases found
      | cons byte tail =>
          simp only [readWithin, Nat.succ_ne_zero, false_and, if_false] at found
          have positive : 0 < 128 ^ places := Nat.pow_pos (by decide)
          have width : byte.toNat < 256 := byte.toNat_lt
          rw [Nat.pow_succ]
          split at found
          · cases found
            omega
          · obtain ⟨⟨high, left⟩, inner, same⟩ := Option.map_eq_some_iff.mp found
            obtain ⟨rfl, rfl⟩ := Prod.mk.inj same
            have bound := ih inner
            omega

theorem read_lt {value : Nat} {bytes rest : Bytes} (found : read bytes = some (value, rest)) :
    value < 2 ^ 64 := by
  have bound := @readWithin_lt 9 value bytes rest found
  omega

end Varint

namespace Record

theorem readNumber_encode {value : Nat} (bound : value < 2 ^ 64) (rest : Bytes) :
    readNumber (Varint.encode value ++ rest) = .ok (value, rest) := by
  rw [readNumber, Varint.read_encode bound]

theorem readBlob_encode {bytes : Bytes} (bound : bytes.length < 2 ^ 64) (rest : Bytes) :
    readBlob (Varint.encode bytes.length ++ (bytes ++ rest)) = .ok (bytes, rest) := by
  have within : ¬ (bytes ++ rest).length < bytes.length := by
    rw [List.length_append]
    omega
  rw [readBlob, readNumber_encode bound]
  simp only [readExactly, if_neg within, List.take_left, List.drop_left]

theorem readKey_encode {tag : Nat} (positive : 0 < tag) (small : tag < 2 ^ 29) (wireType : WireType)
    (rest : Bytes) : readKey (encodeKey tag wireType ++ rest) = .ok (⟨tag, wireType⟩, rest) := by
  have code : wireType.code < 8 := by cases wireType <;> decide
  have known : WireType.ofCode? wireType.code = some wireType := by cases wireType <;> rfl
  have fits : ¬ UInt32.size ≤ 8 * tag + wireType.code := by
    simp only [UInt32.size]
    omega
  have form : (8 * tag + wireType.code) % 8 = wireType.code := by omega
  have name : (8 * tag + wireType.code) / 8 = tag := by omega
  have nonzero : tag ≠ 0 := by omega
  rw [readKey, encodeKey, readNumber_encode (by omega)]
  simp only [if_neg fits, form, known, name, if_neg nonzero]

/-- Where one field is read, the others follow. -/
theorem read_field {schema : List Rule} {bytes rest : Bytes} {entry : Option Entry}
    (field : readField schema bytes = .ok (entry, rest)) :
    read schema bytes = (read schema rest).map (entry.toList ++ ·) := by
  cases bytes with
  | nil => simp [readField, readKey, readNumber, Varint.read, Varint.readWithin] at field
  | cons byte tail =>
      rw [read]
      split
      · next failed => rw [field] at failed; cases failed
      · next found =>
          rw [field] at found
          cases found
          rfl

variable {schema : List Rule} {rule : Rule}

/-- A number of a known field is one entry, unless it is zero. -/
theorem read_encodeNumber (positive : 0 < rule.tag) (small : rule.tag < 2 ^ 29)
    (known : schema.find? (fun other => other.tag == rule.tag) = some rule)
    (kind : rule.kind = .number) (value : UInt32) (rest : Bytes) :
    read schema (encodeNumber rule.tag value ++ rest) = (read schema rest).map
      ((if value = 0 then [] else [(rule.tag, .number value)]) ++ ·) := by
  by_cases zero : value = 0
  · simp only [encodeNumber, if_pos zero, List.nil_append]
    cases read schema rest <;> rfl
  · have bound : value.toNat < 2 ^ 64 := by
      have fits := value.toNat_lt
      omega
    have field : readField schema (encodeNumber rule.tag value ++ rest) =
        .ok (some (rule.tag, .number value), rest) := by
      rw [encodeNumber, if_neg zero, List.append_assoc, readField,
        readKey_encode positive small]
      simp only [known, kind, Kind.wireType, if_true, readValue, readNumber_encode bound]
      simp [Except.map]
    rw [read_field field, if_neg zero]
    rfl

/-- Bytes that are written with their length are read by the rule of their field. -/
theorem readField_encodeBlob (positive : 0 < rule.tag) (small : rule.tag < 2 ^ 29)
    (known : schema.find? (fun other => other.tag == rule.tag) = some rule)
    (delimited : rule.kind.wireType = .lengthDelimited) {bytes : Bytes}
    (nonempty : bytes ≠ []) (rest : Bytes) :
    readField schema (encodeBlob rule.tag bytes ++ rest) =
      match readValue rule.kind (Varint.encode bytes.length ++ (bytes ++ rest)) with
      | .error cause => .error (.inField rule.label cause)
      | .ok (value, left) => .ok (some (rule.tag, value), left) := by
  have written : encodeBlob rule.tag bytes =
      encodeKey rule.tag .lengthDelimited ++ Varint.encode bytes.length ++ bytes := by
    cases bytes with
    | nil => exact absurd rfl nonempty
    | cons byte tail => rfl
  rw [written, List.append_assoc, List.append_assoc, readField, readKey_encode positive small]
  cases found : readValue rule.kind (Varint.encode bytes.length ++ (bytes ++ rest)) with
  | error cause => simp [known, delimited, found]
  | ok pair => simp [known, delimited, found]

/-- A value that is written with its length is one entry, unless there are no bytes of it. -/
theorem read_delimited (positive : 0 < rule.tag) (small : rule.tag < 2 ^ 29)
    (known : schema.find? (fun other => other.tag == rule.tag) = some rule)
    (delimited : rule.kind.wireType = .lengthDelimited) {bytes rest : Bytes} {value : Value}
    (found : readValue rule.kind (Varint.encode bytes.length ++ (bytes ++ rest)) =
      .ok (value, rest)) :
    read schema (encodeBlob rule.tag bytes ++ rest) = (read schema rest).map
      ((if bytes = [] then [] else [(rule.tag, value)]) ++ ·) := by
  by_cases empty : bytes = []
  · subst empty
    simp only [encodeBlob, List.nil_append, if_true]
    cases read schema rest <;> rfl
  · have field := readField_encodeBlob positive small known delimited empty rest
    rw [found] at field
    rw [read_field field, if_neg empty]
    rfl

/-- Bytes of a known field are one entry, unless there are none. -/
theorem read_encodeBlob (positive : 0 < rule.tag) (small : rule.tag < 2 ^ 29)
    (known : schema.find? (fun other => other.tag == rule.tag) = some rule)
    (kind : rule.kind = .blob) {bytes : Bytes} (bound : bytes.length < 2 ^ 64) (rest : Bytes) :
    read schema (encodeBlob rule.tag bytes ++ rest) = (read schema rest).map
      ((if bytes = [] then [] else [(rule.tag, .blob bytes)]) ++ ·) := by
  refine read_delimited positive small known (by rw [kind]; rfl) ?_
  simp only [kind, readValue, readBlob_encode bound, Except.map]

/-- A text of a known field is one entry, unless it is empty. -/
theorem read_encodeText (positive : 0 < rule.tag) (small : rule.tag < 2 ^ 29)
    (known : schema.find? (fun other => other.tag == rule.tag) = some rule)
    (kind : rule.kind = .text) {text : String} (bound : (Utf8.encode text).length < 2 ^ 64)
    (rest : Bytes) :
    read schema (encodeBlob rule.tag (Utf8.encode text) ++ rest) = (read schema rest).map
      ((if Utf8.encode text = [] then [] else [(rule.tag, .text text)]) ++ ·) := by
  refine read_delimited positive small known (by rw [kind]; rfl) ?_
  simp only [kind, readValue, readBlob_encode bound, Utf8.decode?_encode]

end Record

namespace Envelope

open Record in
/-- An envelope is read back whole, whichever of its fields hold their defaults. -/
theorem ofBytes_toBytes (envelope : Envelope) (bound : envelope.data.length < 2 ^ 64) :
    ofBytes envelope.toBytes = .ok envelope := by
  obtain ⟨target, data⟩ := envelope
  have numbers := @read_encodeNumber schema ⟨1, "Envelope.target_channel", .number⟩ (by decide)
    (by decide) rfl rfl target (encodeBlob 2 data)
  have blobs := @read_encodeBlob schema ⟨2, "Envelope.data", .blob⟩ (by decide) (by decide) rfl rfl
    data bound []
  rw [List.append_nil, Record.read] at blobs
  rw [ofBytes, toBytes, decode, numbers, blobs]
  by_cases zero : target = 0 <;> by_cases empty : data = [] <;>
    simp only [zero, empty, if_true, if_false] <;> rfl

theorem destination_toChannel (channel : Channel) (data : Bytes) :
    (toChannel channel data).destination = .ok (.channel channel) := by
  cases channel <;> rfl

end Envelope

end CameraBridge
