import CameraBridge.HardwareInfo
import CameraBridge.Proofs.Replies.StatusLists
import Mathlib.Data.List.TakeWhile

namespace CameraBridge

/-! The fields of hardware info. Whatever the bytes are, they divide into the seven fields in their
order and a rest, or there is a first field that is not there as a whole. Reading says which. -/

/-! ### Texts that are read leniently -/

namespace Utf8

theorem encode_eq_flatMap (text : String) :
    encode text = text.toList.flatMap String.utf8EncodeChar := by
  rw [encode, ← String.utf8Encode_toList, List.utf8Encode, List.toList_data_toByteArray]

theorem leading?_encoded (c : Char) (rest : Bytes) :
    leading? (String.utf8EncodeChar c ++ rest) = some c := by
  have front : (String.utf8EncodeChar c ++ rest).take 4 =
      String.utf8EncodeChar c ++ rest.take (4 - c.utf8Size) := by
    rw [List.take_append, String.length_utf8EncodeChar, List.take_of_length_le]
    rw [String.length_utf8EncodeChar]
    exact Char.utf8Size_le_four c
  have whole : ByteArray.mk (String.utf8EncodeChar c ++ rest.take (4 - c.utf8Size)).toArray =
      [c].utf8Encode ++ (rest.take (4 - c.utf8Size)).toByteArray := by
    rw [List.utf8Encode_singleton, ← List.toByteArray_append]
    exact ByteArray.ext (List.data_toByteArray).symm
  rw [leading?, front, whole, List.utf8DecodeChar?_utf8Encode_singleton_append]

/-- Characters that come whole are read as they are, whatever follows them. -/
theorem lossyChars_encoded (characters : List Char) (rest : Bytes) :
    lossyChars (characters.flatMap String.utf8EncodeChar ++ rest) =
      characters ++ lossyChars rest := by
  induction characters with
  | nil => rfl
  | cons c later ih =>
      have size := String.length_utf8EncodeChar c
      rw [List.flatMap_cons, List.append_assoc]
      cases encoded : String.utf8EncodeChar c with
      | nil =>
          rw [encoded] at size
          exact absurd size.symm (Nat.ne_of_gt c.utf8Size_pos)
      | cons lead tail =>
          have leads := leading?_encoded c (later.flatMap String.utf8EncodeChar ++ rest)
          rw [encoded, List.cons_append] at leads
          rw [encoded, List.length_cons] at size
          rw [List.cons_append, lossyChars, leads]
          simp only [← size, Nat.add_sub_cancel, List.drop_left, ih, List.cons_append]

theorem lossy_encode (text : String) : lossy (encode text) = text := by
  have read := lossyChars_encoded text.toList []
  rw [List.append_nil, ← encode_eq_flatMap] at read
  rw [lossy, read]
  simp [lossyChars]

end Utf8

namespace HardwareInfo

/-- A field: a value whose length is told by one byte. -/
structure Field where
  value : Bytes
  fits : value.length < 256

namespace Field

def bytes (field : Field) : Bytes :=
  UInt8.ofNat field.value.length :: field.value

/-- The bytes of fields, one after the other. -/
def listed (fields : List Field) : Bytes := fields.flatMap bytes

@[simp] theorem listed_nil : listed [] = [] := rfl

@[simp] theorem listed_cons (field : Field) (later : List Field) :
    listed (field :: later) = field.bytes ++ listed later := rfl

/-- The text that a field shows: its bytes before the first zero, read leniently. -/
def Shows (field : Field) (text : String) : Prop :=
  ∃ shown hidden, field.value = shown ++ hidden ∧ 0 ∉ shown ∧
    (∀ byte, hidden.head? = some byte → byte = 0) ∧ text = Utf8.lossy shown

/-- A number comes with its most significant byte first. -/
def Denotes (field : Field) (number : Nat) : Prop :=
  number = Nat.ofDigits 256 (field.value.reverse.map UInt8.toNat)

end Field

/-- The fields in their order. The model number has at most 32 bits, and what the third field says is of
no interest. -/
structure Fields where
  modelNumber : Field
  modelName : Field
  deprecated : Field
  firmwareVersion : Field
  serialNumber : Field
  apSsid : Field
  apMac : Field
  short : modelNumber.value.length ≤ 4

namespace Fields

def names : List String :=
  ["model number", "model name", "deprecated", "firmware version", "serial number", "ap ssid",
    "ap mac"]

def toList (fields : Fields) : List Field :=
  [fields.modelNumber, fields.modelName, fields.deprecated, fields.firmwareVersion,
    fields.serialNumber, fields.apSsid, fields.apMac]

/-- What the fields say. -/
structure Describe (fields : Fields) (info : ModelInfo) : Prop where
  modelNumber : fields.modelNumber.Denotes info.modelNumber
  modelName : fields.modelName.Shows info.modelName
  firmwareVersion : fields.firmwareVersion.Shows info.firmwareVersion
  serialNumber : fields.serialNumber.Shows info.serialNumber
  apSsid : fields.apSsid.Shows info.apSsid
  apMac : fields.apMac.Shows info.apMac

end Fields

/-- No whole field is there: there is nothing, or less than the first byte tells. -/
inductive Lacks : Bytes → Prop where
  | missing : Lacks []
  | short {length : UInt8} {rest : Bytes} (fewer : rest.length < length.toNat) :
      Lacks (length :: rest)

/-- Why bytes are no hardware info, by the first field that is at fault. -/
inductive Fails : Bytes → StatusError → Prop where
  | truncated {before : List Field} {name : String} {rest : Bytes}
      (next : Fields.names[before.length]? = some name)
      (short : ∀ number, before.head? = some number → number.value.length ≤ 4)
      (lacks : Lacks rest) : Fails (Field.listed before ++ rest) (.truncated name)
  | long {number : Field} (excess : 4 < number.value.length) (rest : Bytes) :
      Fails (number.bytes ++ rest) (.invalidLength "model number" number.value.length)

variable {name : String} {bytes rest : Bytes} {field : Field} {fields : Fields}

/-! ### One field -/

theorem takeField_bytes (name : String) (field : Field) (rest : Bytes) :
    takeField name (field.bytes ++ rest) = .ok (field.value, rest) := by
  have length : (UInt8.ofNat field.value.length).toNat = field.value.length :=
    UInt8.toNat_ofNat_of_lt' field.fits
  have whole : ¬ (field.value ++ rest).length < field.value.length := by
    simp
  simp only [Field.bytes, List.cons_append, takeField, length, if_neg whole, List.take_left,
    List.drop_left]

theorem takeField_lacks (name : String) (lacks : Lacks rest) :
    takeField name rest = .error (.truncated name) := by
  cases lacks with
  | missing => rfl
  | short fewer => simp only [takeField, if_pos fewer]

theorem field_or_lacks (bytes : Bytes) :
    (∃ field rest, bytes = Field.bytes field ++ rest) ∨ Lacks bytes := by
  cases bytes with
  | nil => exact .inr .missing
  | cons length rest =>
      by_cases fewer : rest.length < length.toNat
      · exact .inr (.short fewer)
      · have size : (rest.take length.toNat).length = length.toNat := by
          rw [List.length_take]
          omega
        have fits : (rest.take length.toNat).length < 256 := by
          rw [size]
          exact length.toNat_lt
        exact .inl ⟨⟨rest.take length.toNat, fits⟩, rest.drop length.toNat,
          by simp [Field.bytes, size]⟩

theorem bytes_append_inj {other : Field} {later : Bytes}
    (same : field.bytes ++ rest = other.bytes ++ later) : field = other ∧ rest = later := by
  have first := takeField_bytes "" field rest
  rw [same, takeField_bytes] at first
  obtain ⟨values, rfl⟩ := Prod.mk.inj (Except.ok.inj first)
  obtain ⟨value, fits⟩ := field
  obtain rfl : other.value = value := values
  exact ⟨rfl, rfl⟩

/-- A text field shows one text, the one that is read. -/
theorem shows_iff {shown : String} : field.Shows shown ↔ shown = text field.value := by
  constructor
  · rintro ⟨front, hidden, parts, nonzero, cut, rfl⟩
    have whole : ∀ byte ∈ front, (byte != 0) = true := by
      intro byte member
      exact bne_iff_ne.mpr fun zero => nonzero (zero ▸ member)
    have ended : hidden.takeWhile (· != 0) = [] := by
      cases hidden with
      | nil => rfl
      | cons byte later => rw [cut byte rfl]; rfl
    rw [text, parts, List.takeWhile_append_of_pos whole, ended, List.append_nil]
  · rintro rfl
    refine ⟨field.value.takeWhile (· != 0), field.value.dropWhile (· != 0),
      List.takeWhile_append_dropWhile.symm, ?_, ?_, rfl⟩
    · intro zero
      simpa using List.mem_takeWhile_imp zero
    · intro byte first
      have stopped := List.head?_dropWhile_not (· != (0 : UInt8)) field.value
      rw [first] at stopped
      simpa using stopped

theorem text_encode {written : String} (nonzero : 0 ∉ Utf8.encode written) :
    text (Utf8.encode written) = written := by
  have whole : (Utf8.encode written).takeWhile (· != 0) = Utf8.encode written := by
    refine List.takeWhile_eq_self_iff.mpr fun byte member => ?_
    exact bne_iff_ne.mpr fun zero => nonzero (zero ▸ member)
  rw [text, whole, Utf8.lossy_encode]

/-! ### Several fields -/

/-- Takes a field for each name. -/
def takeFields : List String → Bytes → Except StatusError (List Bytes × Bytes)
  | [], bytes => .ok ([], bytes)
  | name :: later, bytes => do
      let (value, rest) ← takeField name bytes
      let (values, rest) ← takeFields later rest
      return (value :: values, rest)

def assemble (modelNumber : Nat) : List Bytes → Option ModelInfo
  | [modelName, _, firmwareVersion, serialNumber, apSsid, apMac] =>
      some {
        modelNumber
        modelName := text modelName
        firmwareVersion := text firmwareVersion
        serialNumber := text serialNumber
        apSsid := text apSsid
        apMac := text apMac }
  | _ => none

theorem takeText_bind {Result : Type} (name : String) (bytes : Bytes)
    (next : String × Bytes → Except StatusError Result) :
    takeText name bytes >>= next =
      takeField name bytes >>= fun (value, rest) => next (text value, rest) := by
  rw [takeText]
  cases takeField name bytes <;> rfl

theorem read_eq (bytes : Bytes) : read bytes = do
    let (modelNumber, rest) ← takeModelNumber bytes
    let (values, rest) ← takeFields Fields.names.tail rest
    return ((assemble modelNumber values).getD {}, rest.length == reserved) := by
  simp only [read, Fields.names, List.tail_cons, takeFields, takeText_bind, bind_assoc, pure_bind]
  rfl

theorem takeFields_listed (names : List String) (listed : List Field)
    (count : listed.length = names.length) (rest : Bytes) :
    takeFields names (Field.listed listed ++ rest) = .ok (listed.map Field.value, rest) := by
  induction names generalizing listed with
  | nil =>
      obtain rfl := List.eq_nil_of_length_eq_zero count
      rfl
  | cons name names ih =>
      obtain ⟨field, later, rfl⟩ := List.exists_cons_of_length_eq_add_one count
      have others := ih later (Nat.succ.inj count)
      rw [Field.listed_cons, List.append_assoc, takeFields, takeField_bytes]
      simp only [bind, Except.bind, others]
      rfl

theorem takeFields_lacks (names : List String) (before : List Field)
    (next : names[before.length]? = some name) (lacks : Lacks rest) :
    takeFields names (Field.listed before ++ rest) = .error (.truncated name) := by
  induction before generalizing names with
  | nil =>
      cases names with
      | nil => cases next
      | cons first later =>
          obtain rfl := Option.some.inj next
          rw [Field.listed_nil, List.nil_append, takeFields, takeField_lacks first lacks]
          rfl
  | cons field before ih =>
      cases names with
      | nil => cases next
      | cons first later =>
          have others := ih later next
          rw [Field.listed_cons, List.append_assoc, takeFields, takeField_bytes]
          simp only [bind, Except.bind, others]

/-- Bytes divide into as many fields as are wanted and a rest, or there is a first one that is
lacking. -/
theorem divide (names : List String) (bytes : Bytes) :
    (∃ listed rest, bytes = Field.listed listed ++ rest ∧ listed.length = names.length) ∨
      ∃ before name rest, bytes = Field.listed before ++ rest ∧ names[before.length]? = some name ∧
        Lacks rest := by
  induction names generalizing bytes with
  | nil => exact .inl ⟨[], bytes, rfl, rfl⟩
  | cons name later ih =>
      obtain ⟨field, rest, rfl⟩ | lacks := field_or_lacks bytes
      · obtain ⟨listed, after, rfl, count⟩ | ⟨before, missing, after, rfl, next, lacks⟩ := ih rest
        · exact .inl ⟨field :: listed, after, by simp, by simp [count]⟩
        · exact .inr ⟨field :: before, missing, after, by simp, by simpa using next, lacks⟩
      · exact .inr ⟨[], name, bytes, rfl, rfl, lacks⟩

/-! ### Hardware info -/

/-- What is read from the fields. -/
def Fields.info (fields : Fields) : ModelInfo where
  modelNumber := Bytes.bigEndian fields.modelNumber.value
  modelName := text fields.modelName.value
  firmwareVersion := text fields.firmwareVersion.value
  serialNumber := text fields.serialNumber.value
  apSsid := text fields.apSsid.value
  apMac := text fields.apMac.value

theorem describe_iff {info : ModelInfo} : fields.Describe info ↔ info = fields.info := by
  constructor
  · rintro ⟨number, name, firmware, serial, ssid, mac⟩
    obtain ⟨_, _, _, _, _, _⟩ := info
    simp only [shows_iff] at name firmware serial ssid mac
    simp only [Field.Denotes, ← Bytes.bigEndian_eq_ofDigits] at number
    simp only [Fields.info, number, name, firmware, serial, ssid, mac]
  · rintro rfl
    exact ⟨Bytes.bigEndian_eq_ofDigits _, shows_iff.mpr rfl, shows_iff.mpr rfl, shows_iff.mpr rfl,
      shows_iff.mpr rfl, shows_iff.mpr rfl⟩

theorem takeModelNumber_bytes {number : Field} (short : number.value.length ≤ 4) (rest : Bytes) :
    takeModelNumber (number.bytes ++ rest) = .ok (Bytes.bigEndian number.value, rest) := by
  simp only [takeModelNumber, takeField_bytes, bind, Except.bind, if_neg (Nat.not_lt.mpr short)]

theorem read_listed (fields : Fields) (rest : Bytes) :
    read (Field.listed fields.toList ++ rest) = .ok (fields.info, rest.length == reserved) := by
  have taken := takeFields_listed Fields.names.tail fields.toList.tail rfl rest
  rw [read_eq, Fields.toList, Field.listed_cons, List.append_assoc,
    takeModelNumber_bytes fields.short]
  simp only [Fields.toList, List.tail_cons] at taken
  simp only [bind, Except.bind, taken]
  rfl

theorem read_fails {cause : StatusError} (fails : Fails bytes cause) : read bytes = .error cause := by
  cases fails with
  | long excess rest =>
      simp only [read, takeModelNumber, takeField_bytes, bind, Except.bind, if_pos excess]
  | @truncated before name rest next short lacks =>
      rw [read_eq]
      cases before with
      | nil =>
          obtain rfl := Option.some.inj next
          rw [Field.listed_nil, List.nil_append, takeModelNumber, takeField_lacks _ lacks]
          rfl
      | cons number before =>
          have taken := takeFields_lacks Fields.names.tail before next lacks
          rw [Field.listed_cons, List.append_assoc, takeModelNumber_bytes (short number rfl)]
          simp only [bind, Except.bind, taken]

/-- Either the seven fields are there, or one is at fault. -/
theorem fields_or_fails (bytes : Bytes) :
    (∃ (fields : Fields) (rest : Bytes), bytes = Field.listed fields.toList ++ rest) ∨
      ∃ cause, Fails bytes cause := by
  obtain ⟨listed, rest, rfl, count⟩ | ⟨before, name, rest, rfl, next, lacks⟩ :=
    divide Fields.names bytes
  · match listed, count with
    | [number, name, deprecated, firmware, serial, ssid, mac], _ =>
        by_cases short : number.value.length ≤ 4
        · exact .inl ⟨⟨number, name, deprecated, firmware, serial, ssid, mac, short⟩, rest, rfl⟩
        · rw [Field.listed_cons, List.append_assoc]
          exact .inr ⟨_, .long (Nat.lt_of_not_le short) _⟩
  · by_cases short : ∀ number, before.head? = some number → number.value.length ≤ 4
    · exact .inr ⟨_, .truncated next short lacks⟩
    · simp only [not_forall] at short
      obtain ⟨number, first, excess⟩ := short
      obtain ⟨later, rfl⟩ := List.head?_eq_some_iff.mp first
      rw [Field.listed_cons, List.append_assoc]
      exact .inr ⟨_, .long (Nat.lt_of_not_le excess) _⟩

theorem read_ok_iff {info : ModelInfo} {exact : Bool} :
    read bytes = .ok (info, exact) ↔
      ∃ (fields : Fields) (rest : Bytes), bytes = Field.listed fields.toList ++ rest ∧
        fields.Describe info ∧ (exact = true ↔ rest.length = 11) := by
  constructor
  · intro found
    obtain ⟨fields, rest, rfl⟩ | ⟨cause, fails⟩ := fields_or_fails bytes
    · cases (read_listed fields rest).symm.trans found
      exact ⟨fields, rest, rfl, describe_iff.mpr rfl, beq_iff_eq⟩
    · cases (read_fails fails).symm.trans found
  · rintro ⟨fields, rest, rfl, describe, flag⟩
    have same : exact = (rest.length == reserved) := Bool.eq_iff_iff.mpr (flag.trans beq_iff_eq.symm)
    rw [read_listed, describe_iff.mp describe, same]

theorem read_error_iff {cause : StatusError} : read bytes = .error cause ↔ Fails bytes cause := by
  constructor
  · intro refused
    obtain ⟨fields, rest, rfl⟩ | ⟨other, fails⟩ := fields_or_fails bytes
    · cases (read_listed fields rest).symm.trans refused
    · cases (read_fails fails).symm.trans refused
      exact fails
  · exact read_fails

theorem Fields.Describe.modelNumber_lt {info : ModelInfo} (describe : fields.Describe info) :
    info.modelNumber < 2 ^ 32 := by
  rw [describe.modelNumber]
  exact Bytes.ofDigits_lt fields.short

/-- Hardware info is read exactly if its seven fields are there, and comes to what these say. Otherwise
the first field that is at fault is named. -/
theorem hardware_info_by_fields :
    (∀ bytes : Bytes,
      (∀ info exact, read bytes = .ok (info, exact) ↔
        ∃ (fields : Fields) (rest : Bytes), bytes = Field.listed fields.toList ++ rest ∧
          fields.Describe info ∧ (exact = true ↔ rest.length = 11)) ∧
      ∀ cause, read bytes = .error cause ↔ Fails bytes cause) ∧
    (∀ (fields : Fields) info, fields.Describe info → info.modelNumber < 2 ^ 32) ∧
    ∀ (written shown : String) (fits : (Utf8.encode written).length < 256),
      0 ∉ Utf8.encode written → (Field.Shows ⟨Utf8.encode written, fits⟩ shown ↔ shown = written) := by
  refine ⟨fun bytes => ⟨fun info exact => read_ok_iff, fun cause => read_error_iff⟩,
    fun fields info => Fields.Describe.modelNumber_lt, fun written shown fits nonzero => ?_⟩
  rw [shows_iff, text_encode nonzero]

def heroFields : Fields where
  modelNumber := ⟨[0, 0, 0, 0x3E], by decide⟩
  modelName := ⟨Utf8.encode "HERO12 Bl", by decide +kernel⟩
  deprecated := ⟨[0xFF], by decide⟩
  firmwareVersion := ⟨Utf8.encode "H23.1", by decide +kernel⟩
  serialNumber := ⟨Utf8.encode "C34", by decide +kernel⟩
  apSsid := ⟨Utf8.encode "GP12", by decide +kernel⟩
  apMac := ⟨Utf8.encode "ab", by decide +kernel⟩
  short := by decide

/-- All seven fields and the reserved part; two fields of which the second is cut off; and a model number
that is too long. -/
theorem hardware_info_by_fields_of_hero :
    (0 ∉ Utf8.encode "HERO12 Bl" ∧ read (Field.listed heroFields.toList ++ List.replicate 11 0) =
      .ok (⟨62, "HERO12 Bl", "H23.1", "C34", "GP12", "ab"⟩, true)) ∧
      read [1, 0x3E, 20, 0x48] = .error (.truncated "model name") ∧
      read [5, 0, 0, 0, 0, 0] = .error (.invalidLength "model number" 5) := by
  obtain ⟨reads, -, shows⟩ := hardware_info_by_fields
  refine ⟨⟨by decide +kernel, ?_⟩, ?_, ?_⟩
  · refine ((reads _).1 _ _).mpr ⟨heroFields, _, rfl, ⟨rfl, ?_, ?_, ?_, ?_, ?_⟩, by decide⟩
    · exact (shows "HERO12 Bl" _ _ (by decide +kernel)).mpr rfl
    · exact (shows "H23.1" _ _ (by decide +kernel)).mpr rfl
    · exact (shows "C34" _ _ (by decide +kernel)).mpr rfl
    · exact (shows "GP12" _ _ (by decide +kernel)).mpr rfl
    · exact (shows "ab" _ _ (by decide +kernel)).mpr rfl
  · exact ((reads _).2 _).mpr
      (@Fails.truncated [⟨[0x3E], by decide⟩] "model name" [20, 0x48] rfl (by simp) (.short (by decide)))
  · exact ((reads _).2 _).mpr (@Fails.long ⟨[0, 0, 0, 0, 0], by decide⟩ (by decide) [])

end HardwareInfo

end CameraBridge
