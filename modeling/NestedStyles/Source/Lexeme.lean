import NestedStyles.Text.Alphabetic
import NestedStyles.Text.Numeric

/-!
# Lexemes

The character classes of the stylesheet language, and for each kind of lexeme the
cut that takes the longest one off the front of a text.
-/

namespace NestedStyles.Source

/-- The blank characters: space, tab, carriage return and line feed. -/
def isBlank (c : Char) : Bool :=
  c = ' ' || c = '\t' || c = '\r' || c = '\n'

/-- The characters an identifier may start with. -/
def isIdentStart (c : Char) : Bool :=
  Text.isAlphabetic c || c = '_' || c = '-'

/-- The characters an identifier may go on with. -/
def isIdentPart (c : Char) : Bool :=
  Text.isAlphabetic c || Text.isNumeric c || c = '_' || c = '-'

/-- Splits off one given character. -/
def splitChar (c : Char) : List Char → Option (List Char × List Char)
  | first :: rest => if first = c then some ([first], rest) else none
  | [] => none

/-- Splits off a first character of one class and the longest run of characters
of another class behind it. -/
def splitWord (starts goesOn : Char → Bool) : List Char → Option (List Char × List Char)
  | first :: rest =>
      if starts first then
        some (first :: rest.takeWhile goesOn, rest.dropWhile goesOn)
      else
        none
  | [] => none

/-- Splits off the longest run of digits. -/
def splitDigits : List Char → Option (List Char × List Char) :=
  splitWord Char.isDigit Char.isDigit

/-- Splits off a leading minus sign, if there is one. -/
def splitSign : List Char → List Char × List Char
  | '-' :: rest => (['-'], rest)
  | input => ([], input)

/-- Splits off a decimal point with at least one digit behind it, if there is
one. -/
def splitFraction : List Char → List Char × List Char
  | '.' :: rest =>
      match splitDigits rest with
      | some (digits, rest) => ('.' :: digits, rest)
      | none => ([], '.' :: rest)
  | input => ([], input)

/-- Splits off a number: an optional sign, digits, and an optional fraction. -/
def splitNumber (input : List Char) : Option (List Char × List Char) :=
  let (sign, unsigned) := splitSign input
  (splitDigits unsigned).map fun (digits, rest) =>
    let (fraction, rest) := splitFraction rest
    (sign ++ digits ++ fraction, rest)

/-- Splits off the text of a comment: all that stands before the first closing
mark. -/
def splitCommentText : List Char → Option (List Char × List Char)
  | '*' :: '/' :: rest => some ([], '*' :: '/' :: rest)
  | c :: rest => (splitCommentText rest).map fun (text, rest) => (c :: text, rest)
  | [] => none

section Splitting

theorem splitChar_eq_some_iff {c : Char} {input text rest : List Char} :
    splitChar c input = some (text, rest) ↔ text = [c] ∧ input = c :: rest := by
  match input with
  | [] => simp [splitChar]
  | first :: tail =>
      rw [splitChar]
      split <;> grind

/-- A word is a first character with the longest run of others behind it. -/
theorem splitWord_eq_some_iff {starts goesOn : Char → Bool} {input text rest : List Char} :
    splitWord starts goesOn input = some (text, rest) ↔
      ∃ first tail, input = first :: tail ∧ starts first ∧
        text = first :: tail.takeWhile goesOn ∧ rest = tail.dropWhile goesOn := by
  match input with
  | [] => simp [splitWord]
  | first :: tail =>
      rw [splitWord]
      split <;> grind

theorem append_of_splitWord {starts goesOn : Char → Bool} {input text rest : List Char}
    (taken : splitWord starts goesOn input = some (text, rest)) : text ++ rest = input := by
  obtain ⟨first, tail, rfl, _, rfl, rfl⟩ := splitWord_eq_some_iff.1 taken
  rw [List.cons_append, List.takeWhile_append_dropWhile]

theorem append_splitSign (input : List Char) :
    (splitSign input).1 ++ (splitSign input).2 = input := by
  fun_cases splitSign input <;> simp

theorem append_splitFraction (input : List Char) :
    (splitFraction input).1 ++ (splitFraction input).2 = input := by
  fun_cases splitFraction input with
  | case1 rest digits rest' taken => simp [append_of_splitWord taken]
  | case2 rest taken => simp
  | case3 input _ => simp

/-- A number is an optional sign, digits, and an optional fraction. -/
theorem splitNumber_eq_some_iff {input text rest : List Char} :
    splitNumber input = some (text, rest) ↔
      ∃ digits tail, splitDigits (splitSign input).2 = some (digits, tail) ∧
        (splitSign input).1 ++ digits ++ (splitFraction tail).1 = text ∧
        (splitFraction tail).2 = rest := by
  simp [splitNumber]

theorem append_of_splitNumber {input text rest : List Char}
    (taken : splitNumber input = some (text, rest)) : text ++ rest = input := by
  obtain ⟨digits, tail, run, rfl, rfl⟩ := splitNumber_eq_some_iff.1 taken
  rw [List.append_assoc, append_splitFraction, List.append_assoc, append_of_splitWord run,
    append_splitSign]

theorem append_of_splitCommentText {input text rest : List Char}
    (taken : splitCommentText input = some (text, rest)) : text ++ rest = input := by
  fun_induction splitCommentText input generalizing text rest with
  | case1 tail =>
      obtain ⟨rfl, rfl⟩ := Prod.mk.injEq .. ▸ Option.some.injEq .. ▸ taken
      rfl
  | case2 c tail _ ih =>
      obtain ⟨⟨text', rest'⟩, found, same⟩ := Option.map_eq_some_iff.1 taken
      obtain ⟨rfl, rfl⟩ := Prod.mk.injEq .. ▸ same
      rw [List.cons_append, ih found]
  | case3 => simp at taken

end Splitting

/-- A way to take a text off the front of another. What it takes and what it
leaves stand together as before. -/
structure Cut where
  split : List Char → Option (List Char × List Char)
  append_of_split : ∀ {input text rest}, split input = some (text, rest) → text ++ rest = input

namespace Cut

/-- Cuts one given character. -/
def char (c : Char) : Cut where
  split := splitChar c
  append_of_split taken := by
    obtain ⟨rfl, rfl⟩ := splitChar_eq_some_iff.1 taken
    rfl

/-- Cuts a run of blank characters. -/
def space : Cut where
  split := splitWord isBlank isBlank
  append_of_split := append_of_splitWord

/-- Cuts an identifier. -/
def ident : Cut where
  split := splitWord isIdentStart isIdentPart
  append_of_split := append_of_splitWord

/-- Cuts a number without a unit. -/
def number : Cut where
  split := splitNumber
  append_of_split := append_of_splitNumber

/-- Cuts the text of a comment. -/
def commentText : Cut where
  split := splitCommentText
  append_of_split := append_of_splitCommentText

/-- A cut that never takes the empty text. -/
def TakesSome (cut : Cut) : Prop :=
  ∀ ⦃input text rest⦄, cut.split input = some (text, rest) → text ≠ []

theorem takesSome_char (c : Char) : (char c).TakesSome := by
  intro input text rest taken
  obtain ⟨rfl, rfl⟩ := splitChar_eq_some_iff.1 taken
  simp

theorem takesSome_space : space.TakesSome := by
  intro input text rest taken
  obtain ⟨first, tail, rfl, _, rfl, rfl⟩ := splitWord_eq_some_iff.1 taken
  simp

theorem takesSome_ident : ident.TakesSome := by
  intro input text rest taken
  obtain ⟨first, tail, rfl, _, rfl, rfl⟩ := splitWord_eq_some_iff.1 taken
  simp

theorem takesSome_number : number.TakesSome := by
  intro input text rest taken
  obtain ⟨digits, tail, run, rfl, rfl⟩ := splitNumber_eq_some_iff.1 taken
  obtain ⟨first, _, _, _, rfl, _⟩ := splitWord_eq_some_iff.1 run
  simp

end Cut

end NestedStyles.Source
