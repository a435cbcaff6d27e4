/-!
The characters that count as white space around a setting: all those with the Unicode property
White_Space. Trimming drops them on both sides and nothing else: the text is what was dropped in
front, the trimmed text, and what was dropped behind.
-/

namespace CameraBridge.WhiteSpace

def contains (c : Char) : Bool :=
  ('\t' ≤ c && c ≤ '\r') || c == ' ' || c == '\u0085' || c == '\u00A0' || c == '\u1680' ||
    ('\u2000' ≤ c && c ≤ '\u200A') || c == '\u2028' || c == '\u2029' || c == '\u202F' ||
    c == '\u205F' || c == '\u3000'

theorem contains_of_isWhitespace {c : Char} (white : c.isWhitespace = true) : contains c = true := by
  simp only [Char.isWhitespace, Bool.or_eq_true, decide_eq_true_eq] at white
  rcases white with ((rfl | rfl) | rfl) | rfl <;> decide

def trimStart (text : List Char) : List Char := text.dropWhile contains

def trimEnd (text : List Char) : List Char := (text.reverse.dropWhile contains).reverse

def trim (text : List Char) : List Char := trimEnd (trimStart text)

theorem takeWhile_append_trimStart (text : List Char) :
    text.takeWhile contains ++ trimStart text = text :=
  List.takeWhile_append_dropWhile

theorem trimEnd_append_takeWhile (text : List Char) :
    trimEnd text ++ (text.reverse.takeWhile contains).reverse = text := by
  rw [trimEnd, ← List.reverse_append, List.takeWhile_append_dropWhile, List.reverse_reverse]

theorem trimStart_eq_self {c : Char} {rest : List Char} (plain : contains c = false) :
    trimStart (c :: rest) = c :: rest := by
  rw [trimStart, List.dropWhile_cons_of_neg (by rw [plain]; decide)]

theorem trimEnd_eq_self {front : List Char} {c : Char} (plain : contains c = false) :
    trimEnd (front ++ [c]) = front ++ [c] := by
  rw [trimEnd, List.reverse_append, List.reverse_singleton, List.singleton_append,
    List.dropWhile_cons_of_neg (by rw [plain]; decide), List.reverse_cons, List.reverse_reverse]

end CameraBridge.WhiteSpace
