import CameraBridge.Config.CanId
import Mathlib.Data.List.Forall2
import Mathlib.Data.List.TakeWhile
import Mathlib.Data.Nat.Digits.Defs
import Mathlib.Tactic.IntervalCases

namespace CameraBridge

/-! The texts that name identifiers of CAN frames: numerals of at most eleven bits in one of two bases,
with white space around them. All others are refused, and those that are numerals of up to sixteen bits
for a reason of their own. -/

/-! ### White space on both sides -/

namespace WhiteSpace

/-- What is left of a text without the white space on both sides. -/
structure Trims (text trimmed : List Char) : Prop where
  parts : ∃ front back, text = front ++ trimmed ++ back ∧ (∀ c ∈ front, contains c = true) ∧
    ∀ c ∈ back, contains c = true
  first : ∀ c, trimmed.head? = some c → contains c = false
  last : ∀ c, trimmed.getLast? = some c → contains c = false

variable {text trimmed : List Char}

theorem dropWhile_head? {c : Char} (first : (text.dropWhile contains).head? = some c) :
    contains c = false := by
  have plain := List.head?_dropWhile_not contains text
  rwa [first] at plain

/-- White space is dropped up to the first character that is none. -/
theorem dropWhile_append {front rest : List Char} (white : ∀ c ∈ front, contains c = true)
    (plain : ∀ c, rest.head? = some c → contains c = false) :
    (front ++ rest).dropWhile contains = rest := by
  rw [List.dropWhile_append_of_pos white]
  cases rest with
  | nil => rfl
  | cons c later => exact trimStart_eq_self (plain c rfl)

theorem trims_trim (text : List Char) : Trims text (trim text) where
  parts := by
    refine ⟨text.takeWhile contains, ((trimStart text).reverse.takeWhile contains).reverse,
      ?_, fun c member => List.mem_takeWhile_imp member,
      fun c member => List.mem_takeWhile_imp (List.mem_reverse.mp member)⟩
    rw [List.append_assoc, trim, trimEnd_append_takeWhile, takeWhile_append_trimStart]
  first := by
    intro c first
    have front : (trimStart text).head? = some c := by
      rw [← trimEnd_append_takeWhile (trimStart text), List.head?_append]
      simp only [trim] at first
      rw [first, Option.some_or]
    exact dropWhile_head? front
  last := by
    intro c last
    rw [trim, trimEnd, List.getLast?_reverse] at last
    exact dropWhile_head? last

/-- There is only one way to trim a text. -/
theorem Trims.eq (trims : Trims text trimmed) : trimmed = trim text := by
  obtain ⟨⟨front, back, rfl, before, behind⟩, first, last⟩ := trims
  rw [trim, trimStart, trimEnd, List.append_assoc]
  cases trimmed with
  | nil =>
      have white : ∀ c ∈ front ++ back, contains c = true := List.forall_mem_append.mpr ⟨before, behind⟩
      rw [List.nil_append, List.dropWhile_eq_nil_iff.mpr white]
      rfl
  | cons c rest =>
      have begun : ∀ other, (c :: rest ++ back).head? = some other → contains other = false := first
      have unended : ∀ other, (c :: rest).reverse.head? = some other → contains other = false :=
        fun other ended => last other (List.head?_reverse ▸ ended)
      rw [dropWhile_append before begun, List.reverse_append,
        dropWhile_append (fun other member => behind other (List.mem_reverse.mp member)) unended,
        List.reverse_reverse]

theorem trims_iff : Trims text trimmed ↔ trimmed = trim text :=
  ⟨Trims.eq, fun same => same ▸ trims_trim text⟩

end WhiteSpace

/-! ### Digits -/

namespace Hex

/-- Whether a character writes a digit. The digits above nine are letters, in either case. -/
def Writes (c : Char) (digit : Nat) : Prop :=
  c = Nat.digitChar digit ∨ c = (Nat.digitChar digit).toUpper

instance (c : Char) (digit : Nat) : Decidable (Writes c digit) :=
  inferInstanceAs (Decidable (_ ∨ _))

variable {c : Char} {digit : Nat}

theorem digit?_ascii (read : digit? c = some digit) : c.toNat < 128 := by
  unfold digit? at read
  split at read
  · next decimal =>
      simp only [Char.isDigit, Bool.and_eq_true, decide_eq_true_eq] at decimal
      exact Nat.lt_of_le_of_lt decimal.2 (by decide)
  · split at read
    · next small =>
        simp only [Bool.and_eq_true, decide_eq_true_eq] at small
        exact Nat.lt_of_le_of_lt small.2 (by decide)
    · split at read
      · next capital =>
          simp only [Bool.and_eq_true, decide_eq_true_eq] at capital
          exact Nat.lt_of_le_of_lt capital.2 (by decide)
      · cases read

theorem digit?_eq_some_iff : digit? c = some digit ↔ digit < 16 ∧ Writes c digit := by
  constructor
  · intro read
    have sound : ∀ code < 128, ∀ found ∈ digit? (Char.ofNat code),
        found < 16 ∧ Writes (Char.ofNat code) found := by
      decide +kernel
    have here := sound c.toNat (digit?_ascii read) digit
    rw [Char.ofNat_toNat] at here
    exact here read
  · rintro ⟨small, writes⟩
    interval_cases digit <;> rcases writes with rfl | rfl <;> decide

end Hex

namespace Numeral

def IsDigit (base : Nat) (c : Char) (digit : Nat) : Prop :=
  digit < base ∧ Hex.Writes c digit

/-- Digits, the most significant one first, and the number that they denote. -/
def Denotes (base : Nat) (text : List Char) (value : Nat) : Prop :=
  ∃ digits, List.Forall₂ (IsDigit base) text digits ∧ digits ≠ [] ∧
    value = Nat.ofDigits base digits.reverse

/-- A numeral is its digits, and a plus sign may stand in front of them. -/
def Writes (base : Nat) (text : List Char) (value : Nat) : Prop :=
  ∃ sign digits, text = sign ++ digits ∧ (sign = [] ∨ sign = ['+']) ∧ Denotes base digits value

variable {base limit value : Nat} {text : List Char}

theorem digit?_eq_some_iff {c : Char} {digit : Nat} (small : base ≤ 16) :
    digit? base c = some digit ↔ IsDigit base c digit := by
  simp only [digit?, Option.filter_eq_some_iff, Hex.digit?_eq_some_iff, decide_eq_true_eq, IsDigit]
  constructor
  · rintro ⟨⟨-, writes⟩, within⟩
    exact ⟨within, writes⟩
  · rintro ⟨within, writes⟩
    exact ⟨⟨Nat.lt_of_lt_of_le within small, writes⟩, within⟩

/-- A character is only one digit. -/
theorem digits_cons_iff {c : Char} {rest : List Char} {digit : Nat} {digits : List Nat}
    (small : base ≤ 16) (read : digit? base c = some digit) :
    List.Forall₂ (IsDigit base) (c :: rest) digits ↔
      ∃ later, List.Forall₂ (IsDigit base) rest later ∧ digits = digit :: later := by
  rw [List.forall₂_cons_left_iff]
  constructor
  · rintro ⟨other, later, isDigit, written, rfl⟩
    have same := (digit?_eq_some_iff small).mpr isDigit
    obtain rfl := Option.some.inj (read.symm.trans same)
    exact ⟨later, written, rfl⟩
  · rintro ⟨later, written, rfl⟩
    exact ⟨digit, later, (digit?_eq_some_iff small).mp read, written, rfl⟩

theorem not_digits_cons {c : Char} {rest : List Char} {digits : List Nat} (small : base ≤ 16)
    (read : digit? base c = none) : ¬ List.Forall₂ (IsDigit base) (c :: rest) digits := by
  rw [List.forall₂_cons_left_iff]
  rintro ⟨digit, later, isDigit, -⟩
  rw [(digit?_eq_some_iff small).mpr isDigit] at read
  cases read

/-- A number that digits follow denotes what it would as digits in front of them. -/
theorem ofDigits_after (base start digit : Nat) (rest : List Nat) :
    start * base ^ (digit :: rest).length + Nat.ofDigits base (digit :: rest).reverse =
      (start * base + digit) * base ^ rest.length + Nat.ofDigits base rest.reverse := by
  rw [List.reverse_cons, Nat.ofDigits_append, Nat.ofDigits_singleton, List.length_reverse,
    List.length_cons, Nat.pow_succ]
  ring

theorem accumulate_eq_ok_iff {start : Nat} (positive : 0 < base) (small : base ≤ 16)
    (below : start ≤ limit) :
    accumulate base limit start text = .ok value ↔
      ∃ digits, List.Forall₂ (IsDigit base) text digits ∧
        value = start * base ^ digits.length + Nat.ofDigits base digits.reverse ∧
        value ≤ limit := by
  -- The induction is on the text, from any number read so far.
  induction text generalizing start with
  | nil =>
      simp only [accumulate, Except.ok.injEq, List.forall₂_nil_left_iff]
      constructor
      · rintro rfl
        exact ⟨[], rfl, by simp, below⟩
      · rintro ⟨digits, rfl, rfl, -⟩
        simp
  | cons c rest ih =>
      cases read : digit? base c with
      | none => simp only [accumulate, read, not_digits_cons small read, reduceCtorEq, false_and,
          exists_false]
      | some digit =>
          simp only [accumulate, read, digits_cons_iff small read]
          by_cases excess : limit < start * base + digit
          · rw [if_pos excess]
            simp only [reduceCtorEq, false_iff, not_exists]
            rintro digits ⟨⟨later, -, rfl⟩, rfl, fits⟩
            rw [ofDigits_after] at fits
            have grown := Nat.le_mul_of_pos_right (start * base + digit)
              (Nat.pow_pos (n := later.length) positive)
            omega
          · rw [if_neg excess, ih (Nat.le_of_not_lt excess)]
            constructor
            · rintro ⟨later, written, rfl, fits⟩
              exact ⟨digit :: later, ⟨later, written, rfl⟩, (ofDigits_after ..).symm, fits⟩
            · rintro ⟨digits, ⟨later, written, rfl⟩, rfl, fits⟩
              exact ⟨later, written, ofDigits_after .., fits⟩

theorem accumulate_zero_eq_ok_iff (positive : 0 < base) (small : base ≤ 16) (nonempty : text ≠ []) :
    accumulate base limit 0 text = .ok value ↔ Denotes base text value ∧ value ≤ limit := by
  rw [accumulate_eq_ok_iff positive small (Nat.zero_le limit)]
  simp only [Nat.zero_mul, Nat.zero_add]
  constructor
  · rintro ⟨digits, written, rfl, fits⟩
    refine ⟨⟨digits, written, ?_, rfl⟩, fits⟩
    rintro rfl
    exact nonempty (List.forall₂_nil_right_iff.mp written)
  · rintro ⟨⟨digits, written, -, rfl⟩, fits⟩
    exact ⟨digits, written, rfl, fits⟩

theorem Denotes.nonempty (denotes : Denotes base text value) : text ≠ [] := by
  rintro rfl
  obtain ⟨digits, written, nonempty, -⟩ := denotes
  exact nonempty (List.forall₂_nil_left_iff.mp written)

/-- There is nothing but digits. -/
theorem Denotes.each (denotes : Denotes base text value) (small : base ≤ 16) {c : Char}
    (member : c ∈ text) : digit? base c ≠ none := by
  obtain ⟨digits, written, -⟩ := denotes
  induction written with
  | nil => cases member
  | @cons first digit rest digits isDigit _ ih =>
      rcases List.mem_cons.mp member with rfl | later
      · rw [(digit?_eq_some_iff small).mpr isDigit]
        exact Option.some_ne_none digit
      · exact ih later

theorem not_denotes_plus {rest : List Char} (small : base ≤ 16) :
    ¬ Denotes base ('+' :: rest) value :=
  fun denotes => denotes.each small List.mem_cons_self rfl

/-- A text that begins with a plus sign has its digits behind it. -/
theorem writes_plus_iff {rest : List Char} (small : base ≤ 16) :
    Writes base ('+' :: rest) value ↔ Denotes base rest value := by
  constructor
  · rintro ⟨sign, digits, parts, rfl | rfl, denotes⟩
    · rw [List.nil_append] at parts
      rw [← parts] at denotes
      exact absurd denotes (not_denotes_plus small)
    · cases parts
      exact denotes
  · intro denotes
    exact ⟨['+'], rest, rfl, .inr rfl, denotes⟩

theorem writes_iff_of_unsigned (unsigned : ∀ rest, text ≠ '+' :: rest) :
    Writes base text value ↔ Denotes base text value := by
  constructor
  · rintro ⟨sign, digits, rfl, rfl | rfl, denotes⟩
    · exact denotes
    · exact absurd rfl (unsigned digits)
  · intro denotes
    exact ⟨[], text, rfl, .inl rfl, denotes⟩

theorem Writes.nonempty (writes : Writes base text value) : text ≠ [] := by
  obtain ⟨sign, digits, rfl, -, denotes⟩ := writes
  exact List.append_ne_nil_of_right_ne_nil sign denotes.nonempty

/-- A numeral is read if it is one, and if it denotes no more than the limit. -/
theorem read_eq_ok_iff (positive : 0 < base) (small : base ≤ 16) :
    read base limit text = .ok value ↔ Writes base text value ∧ value ≤ limit := by
  unfold read unsigned
  split
  · next empty =>
      simp only [reduceCtorEq, false_iff, not_and]
      exact fun writes => absurd (List.isEmpty_iff.mp empty) writes.nonempty
  · next nonempty =>
      split
      · next first rest =>
          rw [writes_plus_iff small, accumulate_zero_eq_ok_iff positive small (List.cons_ne_nil _ _)]
      · next unsigned =>
          rw [accumulate_zero_eq_ok_iff positive small (fun empty => nonempty (by rw [empty]; rfl))]
          -- Only a plus sign that stands alone is left where the text may begin with one.
          by_cases alone : text = ['+']
          · subst alone
            simp only [writes_plus_iff small, not_denotes_plus small, false_and, false_iff, not_and]
            exact fun denotes => absurd rfl denotes.nonempty
          · rw [writes_iff_of_unsigned]
            rintro rest rfl
            cases rest with
            | nil => exact alone rfl
            | cons first later => exact unsigned first later rfl

end Numeral

/-! ### Identifiers -/

namespace CanId

/-- The mark of a base in front of a numeral. -/
inductive Mark : Nat → List Char → Prop where
  | decimal : Mark 10 []
  | hexadecimal {x : Char} (letter : x = 'x' ∨ x = 'X') : Mark 16 ['0', x]

/-- A numeral with the mark of its base names a number. -/
def Names (text : List Char) (value : Nat) : Prop :=
  ∃ base mark numeral, text = mark ++ numeral ∧ Mark base mark ∧ Numeral.Writes base numeral value

variable {text : List Char} {value : Nat}

/-- What begins like a hexadecimal numeral is no decimal one. -/
theorem names_iff_of_letter {x : Char} (letter : x = 'x' ∨ x = 'X') {rest : List Char} :
    Names ('0' :: x :: rest) value ↔ Numeral.Writes 16 rest value := by
  constructor
  · rintro ⟨base, mark, numeral, parts, marked, writes⟩
    cases marked with
    | decimal =>
        have undigit : Numeral.digit? 10 x = none := by rcases letter with rfl | rfl <;> rfl
        rw [List.nil_append] at parts
        rw [← parts, Numeral.writes_iff_of_unsigned (by simp)] at writes
        exact absurd undigit (writes.each (by decide) (by simp))
    | hexadecimal =>
        cases parts
        exact writes
  · exact fun writes => ⟨16, _, rest, rfl, .hexadecimal letter, writes⟩

theorem names_iff :
    Names text value ↔ Numeral.Writes (splitBase text).1 (splitBase text).2 value := by
  unfold splitBase
  split
  · exact names_iff_of_letter (.inl rfl)
  · exact names_iff_of_letter (.inr rfl)
  · next small capital =>
      constructor
      · rintro ⟨base, mark, numeral, rfl, marked, writes⟩
        cases marked with
        | decimal => exact writes
        | hexadecimal letter =>
            rcases letter with rfl | rfl
            · exact absurd rfl (small numeral)
            · exact absurd rfl (capital numeral)
      · exact fun writes => ⟨10, [], text, rfl, .decimal, writes⟩

theorem read_eq_ok_iff :
    Numeral.read (splitBase text).1 0xFFFF (splitBase text).2 = .ok value ↔
      Names text value ∧ value ≤ 0xFFFF := by
  have base : (splitBase text).1 = 16 ∨ (splitBase text).1 = 10 := by
    unfold splitBase
    split
    · exact .inl rfl
    · exact .inl rfl
    · exact .inr rfl
  rw [names_iff, Numeral.read_eq_ok_iff (by omega) (by omega)]

theorem notStandard_ne_invalid (text other : String) (fault : Numeral.Fault) :
    notStandard text ≠ invalid other fault := by
  intro same
  have reasons := congrArg String.toList (LinkError.invalidConfig.inj same)
  simp only [String.toList_append, String.append_assoc] at reasons
  exact absurd (List.cons.inj reasons).1 (by decide)

variable {text : String}

theorem ofText_of_names (names : Names (WhiteSpace.trim text.toList) value) (fits : value ≤ 0xFFFF) :
    ofText text = if value ≤ 0x7FF then .ok (UInt16.ofNat value)
      else .error (notStandard (String.ofList (WhiteSpace.trim text.toList))) := by
  have read := read_eq_ok_iff.mpr ⟨names, fits⟩
  have limit : maxStandard.toNat = 0x7FF := rfl
  simp only [ofText, read, limit]
  by_cases eleven : value ≤ 0x7FF
  · rw [if_pos eleven, if_neg (Nat.not_lt.mpr eleven)]
  · rw [if_neg eleven, if_pos (Nat.lt_of_not_le eleven)]

/-- There is a number of up to sixteen bits that a text names, or the text is refused as no numeral. -/
theorem named_or_refused (text : String) :
    (∃ value, Names (WhiteSpace.trim text.toList) value ∧ value ≤ 0xFFFF) ∨
      (∀ value, Names (WhiteSpace.trim text.toList) value → 0xFFFF < value) ∧
        ∃ fault, ofText text =
          .error (invalid (String.ofList (WhiteSpace.trim text.toList)) fault) := by
  cases read : Numeral.read (splitBase (WhiteSpace.trim text.toList)).1 0xFFFF
      (splitBase (WhiteSpace.trim text.toList)).2 with
  | ok value => exact .inl ⟨value, read_eq_ok_iff.mp read⟩
  | error fault =>
      refine .inr ⟨fun value names => ?_, fault, by simp only [ofText, read]⟩
      by_contra fits
      cases (read_eq_ok_iff.mpr ⟨names, Nat.le_of_not_lt fits⟩).symm.trans read

theorem names_of_ofText {id : UInt16} (read : ofText text = .ok id) :
    Names (WhiteSpace.trim text.toList) id.toNat ∧ id.toNat ≤ 0x7FF := by
  obtain ⟨value, names, fits⟩ | ⟨-, fault, refused⟩ := named_or_refused text
  · rw [ofText_of_names names fits] at read
    split at read
    · next standard =>
        cases read
        rw [UInt16.toNat_ofNat_of_lt' (Nat.lt_of_le_of_lt standard (by decide))]
        exact ⟨names, standard⟩
    · cases read
  · cases refused.symm.trans read

theorem names_of_notStandard {shown : String} (refused : ofText text = .error (notStandard shown)) :
    ∃ value, Names (WhiteSpace.trim text.toList) value ∧ 0x800 ≤ value ∧ value ≤ 0xFFFF := by
  obtain ⟨value, names, fits⟩ | ⟨-, fault, invalid⟩ := named_or_refused text
  · rw [ofText_of_names names fits] at refused
    split at refused
    · cases refused
    · next excess => exact ⟨value, names, Nat.lt_of_not_le excess, fits⟩
  · exact absurd (Except.error.inj (refused.symm.trans invalid)) (notStandard_ne_invalid _ _ fault)

theorem nameless_of_invalid {shown : String} {fault : Numeral.Fault}
    (refused : ofText text = .error (invalid shown fault)) :
    ∀ value, Names (WhiteSpace.trim text.toList) value → 0xFFFF < value := by
  intro value names
  by_contra fits
  rw [ofText_of_names names (Nat.le_of_not_lt fits)] at refused
  split at refused
  · cases refused
  · exact notStandard_ne_invalid _ _ fault (Except.error.inj refused)

/-- A text names an identifier if it is a numeral of at most eleven bits, with the mark of its base in
front of it and white space around it. Any other text is refused, and if it is a numeral of up to
sixteen bits, then for that it is too large. -/
theorem identifier_by_numeral (text : String) :
    ∃ trimmed, (∀ other, WhiteSpace.Trims text.toList other ↔ other = trimmed) ∧
      (∀ id, ofText text = .ok id ↔ Names trimmed id.toNat ∧ id.toNat ≤ 0x7FF) ∧
      (ofText text = .error (.invalidConfig
          ("CAN ID '" ++ String.ofList trimmed ++ "' is not an 11-bit identifier")) ↔
        ∃ value, Names trimmed value ∧ 0x800 ≤ value ∧ value ≤ 0xFFFF) ∧
      ((∃ fault : Numeral.Fault, ofText text = .error (.invalidConfig
          ("Invalid CAN ID '" ++ String.ofList trimmed ++ "': " ++ fault.message))) ↔
        ∀ value, Names trimmed value → 0xFFFF < value) := by
  refine ⟨WhiteSpace.trim text.toList, fun other => WhiteSpace.trims_iff, fun id => ?_, ?_, ?_⟩
  · constructor
    · exact names_of_ofText
    · rintro ⟨names, standard⟩
      rw [ofText_of_names names (by omega), if_pos standard, UInt16.ofNat_toNat]
  · constructor
    · exact names_of_notStandard
    · rintro ⟨value, names, excess, fits⟩
      rw [ofText_of_names names fits, if_neg (by omega)]
      rfl
  · constructor
    · rintro ⟨fault, refused⟩
      exact nameless_of_invalid refused
    · intro nameless
      obtain ⟨value, names, fits⟩ | ⟨-, refused⟩ := named_or_refused text
      · exact absurd fits (Nat.not_le.mpr (nameless value names))
      · exact refused

example : ofText " 0X+7fF\t" = .ok 0x7FF := by decide +kernel

end CanId

end CameraBridge
