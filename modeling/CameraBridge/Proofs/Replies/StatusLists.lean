import CameraBridge.Status
import Mathlib.Data.List.Forall2
import Mathlib.Data.List.Induction
import Mathlib.Data.Nat.Digits.Defs

namespace CameraBridge

/-! The grammar of status lists. The bytes of a list divide into its entries in one way only, so that
reading finds the values of these entries or the first place where the grammar is broken. -/

theorem Bytes.bigEndian_eq_ofDigits (bytes : Bytes) :
    bigEndian bytes = Nat.ofDigits 256 (bytes.reverse.map UInt8.toNat) := by
  induction bytes using List.reverseRecOn with
  | nil => rfl
  | append_singleton bytes byte ih =>
      rw [bigEndian_append_singleton, ih, List.reverse_concat, List.map_cons, Nat.ofDigits_cons]
      exact Nat.add_comm _ _

/-- Four bytes are enough for no more than 32 bits. -/
theorem Bytes.ofDigits_lt {bytes : Bytes} (short : bytes.length ≤ 4) :
    Nat.ofDigits 256 (bytes.reverse.map UInt8.toNat) < 2 ^ 32 := by
  have digits : ∀ digit ∈ bytes.reverse.map UInt8.toNat, digit < 256 := by
    intro digit member
    obtain ⟨byte, -, rfl⟩ := List.mem_map.mp member
    exact byte.toNat_lt
  have below := Nat.ofDigits_lt_base_pow_length (by decide) digits
  rw [List.length_map, List.length_reverse] at below
  exact Nat.lt_of_lt_of_le below (Nat.pow_le_pow_right (by decide) short)

/-- An entry of a status list: an identifier, and a value whose length is told by one byte. -/
structure StatusEntry where
  id : UInt8
  value : Bytes
  fits : value.length < 256
  deriving DecidableEq

namespace StatusEntry

def bytes (entry : StatusEntry) : Bytes :=
  entry.id :: UInt8.ofNat entry.value.length :: entry.value

/-- The bytes of entries, one after the other. -/
def listed (entries : List StatusEntry) : Bytes := entries.flatMap bytes

@[simp] theorem listed_nil : listed [] = [] := rfl

@[simp] theorem listed_cons (entry : StatusEntry) (rest : List StatusEntry) :
    listed (entry :: rest) = entry.bytes ++ listed rest := rfl

/-- What an entry says. Numbers come with their most significant byte first. -/
inductive Means : StatusEntry → StatusValue → Prop where
  | recording {flag : UInt8} {rest : Bytes} {fits : (flag :: rest).length < 256} :
      Means ⟨10, flag :: rest, fits⟩ (.recording (0 < flag.toNat))
  | battery {percent : UInt8} {rest : Bytes} {fits : (percent :: rest).length < 256} :
      Means ⟨70, percent :: rest, fits⟩ (.battery percent)
  | videoCount {value : Bytes} {fits : value.length < 256} (short : value.length ≤ 4) :
      Means ⟨39, value, fits⟩ (.videoCount (Nat.ofDigits 256 (value.reverse.map UInt8.toNat)))
  | other {id : UInt8} {value : Bytes} {fits : value.length < 256} (unknown : id ∉ [10, 39, 70]) :
      Means ⟨id, value, fits⟩ (.other id value)

/-- Recording and battery have a value, and a count is a number of at most 32 bits. -/
def IsGrammatical (entry : StatusEntry) : Prop :=
  (entry.id = 10 ∨ entry.id = 70 → entry.value ≠ []) ∧ (entry.id = 39 → entry.value.length ≤ 4)

instance (entry : StatusEntry) : Decidable entry.IsGrammatical :=
  inferInstanceAs (Decidable (_ ∧ _))

end StatusEntry

/-- How bytes can break the grammar of entries at their beginning. -/
inductive StatusError.Breaks : Bytes → StatusError → Prop where
  | header (byte : UInt8) : Breaks [byte] (.truncated "status header")
  | value {id length : UInt8} {rest : Bytes} (short : rest.length < length.toNat) :
      Breaks (id :: length :: rest) (.truncated "status value")
  | empty {entry : StatusEntry} (known : entry.id = 10 ∨ entry.id = 70) (nothing : entry.value = [])
      (later : Bytes) : Breaks (entry.bytes ++ later) (.invalidLength "status" entry.value.length)
  | long {entry : StatusEntry} (count : entry.id = 39) (excess : 4 < entry.value.length)
      (later : Bytes) :
      Breaks (entry.bytes ++ later) (.invalidLength "video count" entry.value.length)

namespace StatusEntry

open StatusValue (ofEntry readList)

variable {entry : StatusEntry} {value : StatusValue}

/-! ### One entry -/

theorem isGrammatical_iff : entry.IsGrammatical ↔ ∃ value, entry.Means value := by
  obtain ⟨id, content, fits⟩ := entry
  constructor
  · rintro ⟨nonempty, short⟩
    by_cases recording : id = 10
    · subst recording
      obtain ⟨flag, rest, rfl⟩ := List.exists_cons_of_ne_nil (nonempty (.inl rfl))
      exact ⟨_, .recording⟩
    · by_cases battery : id = 70
      · subst battery
        obtain ⟨percent, rest, rfl⟩ := List.exists_cons_of_ne_nil (nonempty (.inr rfl))
        exact ⟨_, .battery⟩
      · by_cases count : id = 39
        · subst count
          exact ⟨_, .videoCount (short rfl)⟩
        · exact ⟨_, .other (by simp [recording, battery, count])⟩
  · rintro ⟨value, means⟩
    cases means with
    | recording | battery => exact ⟨fun _ => List.cons_ne_nil _ _, by simp⟩
    | videoCount short => exact ⟨by simp, fun _ => short⟩
    | other unknown =>
        simp only [List.mem_cons, List.not_mem_nil, or_false, not_or] at unknown
        exact ⟨fun known => by simp [unknown] at known, fun count => absurd count unknown.2.1⟩

theorem Means.ofEntry (means : entry.Means value) : ofEntry entry.id entry.value = .ok value := by
  cases means with
  | recording | battery => rfl
  | videoCount short =>
      simp only [StatusValue.ofEntry, StatusValue.recordingId, StatusValue.batteryId,
        StatusValue.videoCountId, if_neg (Nat.not_lt.mpr short), Bytes.bigEndian_eq_ofDigits]
      rfl
  | other unknown =>
      simp only [List.mem_cons, List.not_mem_nil, or_false, not_or] at unknown
      simp only [StatusValue.ofEntry, StatusValue.recordingId, StatusValue.batteryId,
        StatusValue.videoCountId, unknown, if_false]

theorem readList_entry (entry : StatusEntry) (later : Bytes) :
    readList (entry.bytes ++ later) =
      (ofEntry entry.id entry.value).bind fun value => (readList later).map (value :: ·) := by
  have length : (UInt8.ofNat entry.value.length).toNat = entry.value.length :=
    UInt8.toNat_ofNat_of_lt' entry.fits
  have whole : ¬ (entry.value ++ later).length < entry.value.length := by
    simp
  rw [bytes, List.cons_append, List.cons_append, readList, length, if_neg whole, List.take_left,
    List.drop_left]
  cases ofEntry entry.id entry.value <;> rfl

/-- Entries that are understood are read before all that follows. -/
theorem readList_append {entries : List StatusEntry} {values : List StatusValue}
    (mean : List.Forall₂ Means entries values) (later : Bytes) :
    readList (listed entries ++ later) = (readList later).map (values ++ ·) := by
  induction mean with
  | nil => cases read : readList later <;> simp [read, Except.map]
  | cons means _ ih =>
      rw [listed_cons, List.append_assoc, readList_entry, means.ofEntry, ih]
      cases readList later <;> rfl

/-! ### Where the grammar is broken -/

theorem readList_breaks {rest : Bytes} {cause : StatusError} (breaks : cause.Breaks rest) :
    readList rest = .error cause := by
  cases breaks with
  | header byte => rw [readList]
  | value short => rw [readList, if_pos short]
  | @empty entry known nothing later =>
      obtain ⟨id, content, fits⟩ := entry
      obtain rfl : content = [] := nothing
      rw [readList_entry]
      rcases known with rfl | rfl <;> rfl
  | @long entry count excess later =>
      obtain ⟨id, content, fits⟩ := entry
      obtain rfl : id = 39 := count
      rw [readList_entry]
      simp only [ofEntry, StatusValue.recordingId, StatusValue.batteryId, StatusValue.videoCountId,
        if_pos excess]
      rfl

/-- An entry that is not grammatical breaks a list at this place. -/
theorem breaks_of_not (broken : ¬ entry.IsGrammatical) (later : Bytes) :
    ∃ cause : StatusError, cause.Breaks (entry.bytes ++ later) := by
  by_cases nonempty : entry.id = 10 ∨ entry.id = 70 → entry.value ≠ []
  · have long : ¬ (entry.id = 39 → entry.value.length ≤ 4) := fun short => broken ⟨nonempty, short⟩
    rw [Classical.not_imp] at long
    exact ⟨_, .long long.1 (Nat.lt_of_not_le long.2) later⟩
  · rw [Classical.not_imp, not_not] at nonempty
    exact ⟨_, .empty nonempty.1 nonempty.2 later⟩

/-- Bytes begin with an entry, or break the grammar at once, or there are none. -/
theorem next (bytes : Bytes) :
    bytes = [] ∨ (∃ cause : StatusError, cause.Breaks bytes) ∨
      ∃ entry later, bytes = StatusEntry.bytes entry ++ later ∧ entry.IsGrammatical := by
  match bytes with
  | [] => exact .inl rfl
  | [byte] => exact .inr (.inl ⟨_, .header byte⟩)
  | id :: length :: rest =>
      by_cases short : rest.length < length.toNat
      · exact .inr (.inl ⟨_, .value short⟩)
      · have size : (rest.take length.toNat).length = length.toNat := by
          rw [List.length_take]
          omega
        have fits : (rest.take length.toNat).length < 256 := by
          rw [size]
          exact length.toNat_lt
        have split : id :: length :: rest =
            StatusEntry.bytes ⟨id, rest.take length.toNat, fits⟩ ++ rest.drop length.toNat := by
          simp [StatusEntry.bytes, size]
        by_cases grammatical : StatusEntry.IsGrammatical ⟨id, rest.take length.toNat, fits⟩
        · exact .inr (.inr ⟨_, _, split, grammatical⟩)
        · rw [split]
          exact .inr (.inl (breaks_of_not grammatical _))

/-- Bytes divide into grammatical entries and a rest that is empty or breaks the grammar. -/
theorem divide (bytes : Bytes) : ∃ entries rest,
    bytes = listed entries ++ rest ∧ (∀ entry ∈ entries, entry.IsGrammatical) ∧
      (rest = [] ∨ ∃ cause : StatusError, cause.Breaks rest) := by
  induction size : bytes.length using Nat.strongRecOn generalizing bytes with
  | ind size ih =>
      subst size
      obtain empty | broken | ⟨entry, later, rfl, grammatical⟩ := next bytes
      · exact ⟨[], bytes, rfl, by simp, .inl empty⟩
      · exact ⟨[], bytes, rfl, by simp, .inr broken⟩
      · have shorter : later.length < (StatusEntry.bytes entry ++ later).length := by
          simp [StatusEntry.bytes]
          omega
        obtain ⟨entries, rest, rfl, others, ended⟩ := ih _ shorter later rfl
        refine ⟨entry :: entries, rest, by simp, ?_, ended⟩
        intro other member
        rcases List.mem_cons.mp member with rfl | later
        · exact grammatical
        · exact others other later

/-! ### One way to divide -/

theorem bytes_append_inj {entry other : StatusEntry} {later rest : Bytes}
    (same : entry.bytes ++ later = other.bytes ++ rest) : entry = other ∧ later = rest := by
  obtain ⟨id, content, fits⟩ := entry
  obtain ⟨otherId, otherContent, otherFits⟩ := other
  simp only [bytes, List.cons_append, List.cons.injEq] at same
  obtain ⟨rfl, lengths, tails⟩ := same
  have length : content.length = otherContent.length := by
    rw [← UInt8.toNat_ofNat_of_lt' fits, lengths, UInt8.toNat_ofNat_of_lt' otherFits]
  obtain ⟨rfl, rfl⟩ := List.append_inj tails length
  exact ⟨rfl, rfl⟩

theorem listed_inj {entries others : List StatusEntry}
    (same : listed entries = listed others) : entries = others := by
  induction entries generalizing others with
  | nil =>
      cases others with
      | nil => rfl
      | cons => cases same
  | cons entry rest ih =>
      cases others with
      | nil => cases same
      | cons other more =>
          obtain ⟨rfl, remaining⟩ := bytes_append_inj same
          rw [ih remaining]

theorem means_exist {entries : List StatusEntry}
    (grammatical : ∀ entry ∈ entries, entry.IsGrammatical) :
    ∃ values, List.Forall₂ Means entries values := by
  induction entries with
  | nil => exact ⟨[], .nil⟩
  | cons entry rest ih =>
      obtain ⟨value, means⟩ := isGrammatical_iff.mp (grammatical entry List.mem_cons_self)
      obtain ⟨values, mean⟩ := ih fun other member => grammatical other (List.mem_cons_of_mem _ member)
      exact ⟨value :: values, .cons means mean⟩

theorem grammatical_of_mean {entries : List StatusEntry} {values : List StatusValue}
    (mean : List.Forall₂ Means entries values) : ∀ entry ∈ entries, entry.IsGrammatical := by
  induction mean with
  | nil => simp
  | cons means _ ih =>
      intro entry member
      rcases List.mem_cons.mp member with rfl | later
      · exact isGrammatical_iff.mpr ⟨_, means⟩
      · exact ih entry later

theorem Means.count_lt {count : Nat} (means : entry.Means (.videoCount count)) : count < 2 ^ 32 := by
  cases means with
  | videoCount short => exact Bytes.ofDigits_lt short

/-! ### Whole lists -/

theorem readList_listed {entries : List StatusEntry} {values : List StatusValue}
    (mean : List.Forall₂ Means entries values) :
    readList (listed entries) = .ok values := by
  have read := readList_append mean []
  rw [List.append_nil] at read
  rw [read, readList]
  simp [Except.map]

theorem readList_broken {entries : List StatusEntry} {rest : Bytes} {cause : StatusError}
    (grammatical : ∀ entry ∈ entries, entry.IsGrammatical) (breaks : cause.Breaks rest) :
    readList (listed entries ++ rest) = .error cause := by
  obtain ⟨values, mean⟩ := means_exist grammatical
  rw [readList_append mean, readList_breaks breaks]
  rfl

/-- A list is read if it divides into grammatical entries, and then it comes to what these say. -/
theorem readList_ok_iff {bytes : Bytes} {values : List StatusValue} :
    readList bytes = .ok values ↔
      ∃ entries, bytes = listed entries ∧ List.Forall₂ Means entries values := by
  constructor
  · intro read
    obtain ⟨entries, rest, rfl, grammatical, rfl | ⟨cause, breaks⟩⟩ := divide bytes
    · obtain ⟨others, mean⟩ := means_exist grammatical
      rw [List.append_nil] at read ⊢
      cases (readList_listed mean).symm.trans read
      exact ⟨entries, rfl, mean⟩
    · rw [readList_broken grammatical breaks] at read
      cases read
  · rintro ⟨entries, rfl, mean⟩
    exact readList_listed mean

theorem readList_error_iff {bytes : Bytes} {cause : StatusError} :
    readList bytes = .error cause ↔
      ∃ entries rest, bytes = listed entries ++ rest ∧
        (∀ entry ∈ entries, entry.IsGrammatical) ∧ cause.Breaks rest := by
  constructor
  · intro read
    obtain ⟨entries, rest, rfl, grammatical, rfl | ⟨other, breaks⟩⟩ := divide bytes
    · obtain ⟨values, mean⟩ := means_exist grammatical
      rw [List.append_nil, readList_listed mean] at read
      cases read
    · cases (readList_broken grammatical breaks).symm.trans read
      exact ⟨entries, rest, rfl, grammatical, breaks⟩
  · rintro ⟨entries, rest, rfl, grammatical, breaks⟩
    exact readList_broken grammatical breaks

theorem readList_each {entries : List StatusEntry} {values : List StatusValue}
    (mean : List.Forall₂ Means entries values) :
    entries.mapM (fun entry => readList entry.bytes) = .ok (values.map fun value => [value]) := by
  induction mean with
  | nil => rfl
  | @cons entry value _ _ means _ ih =>
      have alone := readList_listed (.cons means .nil)
      rw [listed_cons, listed_nil, List.append_nil] at alone
      rw [List.mapM_cons, alone, ih]
      rfl

/-- Reading accepts exactly the lists of grammatical entries, and nothing is missing from what it finds
or added to it. Any other bytes are refused for the first place that breaks the grammar. -/
theorem readList_by_grammar :
    (∀ bytes : Bytes,
      (∀ values, readList bytes = .ok values ↔
        ∃ entries, bytes = listed entries ∧ List.Forall₂ Means entries values) ∧
      ((∃ values, readList bytes = .ok values) ↔
        ∃ entries, bytes = listed entries ∧
          ∀ entry ∈ entries, entry.IsGrammatical) ∧
      ∀ cause, readList bytes = .error cause ↔
        ∃ entries rest, bytes = listed entries ++ rest ∧
          (∀ entry ∈ entries, entry.IsGrammatical) ∧ cause.Breaks rest) ∧
      (∀ entries others : List StatusEntry,
        listed entries = listed others → entries = others) ∧
      (∀ (entry : StatusEntry) count, entry.Means (.videoCount count) → count < 2 ^ 32) ∧
      ∀ entries : List StatusEntry, (∀ entry ∈ entries, entry.IsGrammatical) →
        ∃ parts, entries.mapM (fun entry => readList entry.bytes) = .ok parts ∧
          readList (listed entries) = .ok parts.flatten := by
  refine ⟨fun bytes => ⟨fun values => readList_ok_iff, ?_, fun cause => readList_error_iff⟩,
    fun _ _ => listed_inj, fun _ _ => Means.count_lt, ?_⟩
  · constructor
    · rintro ⟨values, read⟩
      obtain ⟨entries, rfl, mean⟩ := readList_ok_iff.mp read
      exact ⟨entries, rfl, grammatical_of_mean mean⟩
    · rintro ⟨entries, rfl, grammatical⟩
      obtain ⟨values, mean⟩ := means_exist grammatical
      exact ⟨values, readList_listed mean⟩
  · intro entries grammatical
    obtain ⟨values, mean⟩ := means_exist grammatical
    refine ⟨_, readList_each mean, ?_⟩
    rw [readList_listed mean, ← List.flatMap_def, List.flatMap_singleton']

/-- Recording, three hundred videos, 88 percent, and an entry that is not understood. -/
def fourEntries : List StatusEntry :=
  [⟨10, [1], by decide⟩, ⟨39, [1, 0x2C], by decide⟩, ⟨70, [88], by decide⟩,
    ⟨99, [0xAA, 0xBB], by decide⟩]

theorem readList_by_grammar_of_four :
    (∀ entry ∈ fourEntries, entry.IsGrammatical) ∧
      (∃ parts, fourEntries.mapM (fun entry => readList entry.bytes) = .ok parts ∧
        readList (listed fourEntries) = .ok parts.flatten) ∧
      readList [10, 1, 1, 39, 2, 1, 0x2C, 70, 1, 88, 99, 2, 0xAA, 0xBB] =
        .ok [.recording true, .videoCount 300, .battery 88, .other 99 [0xAA, 0xBB]] ∧
      readList (listed fourEntries ++ [39, 4, 0, 1]) = .error (.truncated "status value") := by
  have grammatical : ∀ entry ∈ fourEntries, entry.IsGrammatical := by decide
  refine ⟨grammatical, readList_by_grammar.2.2.2 fourEntries grammatical, ?_, ?_⟩
  · exact ((readList_by_grammar.1 _).1 _).mpr ⟨fourEntries, rfl,
      .cons .recording (.cons (.videoCount (by decide)) (.cons .battery
        (.cons (.other (by decide)) .nil)))⟩
  · exact ((readList_by_grammar.1 _).2.2 _).mpr
      ⟨fourEntries, [39, 4, 0, 1], rfl, grammatical, .value (by decide)⟩

end StatusEntry

end CameraBridge
