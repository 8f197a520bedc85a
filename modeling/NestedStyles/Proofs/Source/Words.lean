import Mathlib.Data.List.TakeWhile
import NestedStyles.Source.Lexeme

/-!
# Words of the stylesheet language

Each cut takes exactly the texts of its kind: what it takes is such a text, and it
takes such a text whole whenever the text behind it cannot prolong it.
-/

namespace NestedStyles.Source

/-- A text that does not start with a character of a class. -/
def Stops (goesOn : Char → Bool) (text : List Char) : Prop :=
  ∀ c ∈ text.head?, goesOn c = false

@[simp] theorem stops_nil (goesOn : Char → Bool) : Stops goesOn [] := by
  intro c member
  cases member

@[simp] theorem stops_cons {goesOn : Char → Bool} {c : Char} {text : List Char} :
    Stops goesOn (c :: text) ↔ goesOn c = false := by
  unfold Stops
  rw [List.head?_cons]
  exact ⟨fun stops => stops c rfl, fun stops d member => Option.some.inj member ▸ stops⟩

theorem Stops.mono {goesOn goesOn' : Char → Bool} {text : List Char} (stops : Stops goesOn text)
    (narrower : ∀ c, goesOn' c → goesOn c) : Stops goesOn' text := by
  intro c member
  refine Bool.eq_false_iff.2 fun continues => ?_
  have stopped := stops c member
  rw [narrower c continues] at stopped
  contradiction

theorem Stops.left {goesOn : Char → Bool} {first second : List Char}
    (stops : Stops goesOn (first ++ second)) : Stops goesOn first := by
  cases first with
  | nil => exact stops_nil goesOn
  | cons c first => exact stops_cons.2 (stops_cons.1 stops)

/-- A text that starts with a character of a class. -/
def Starts (opens : Char → Bool) (text : List Char) : Prop :=
  ∃ c tail, text = c :: tail ∧ opens c

theorem starts_cons {opens : Char → Bool} {c : Char} {text : List Char} :
    Starts opens (c :: text) ↔ opens c := by
  constructor
  · rintro ⟨_, _, same, starts⟩
    exact (List.cons.inj same).1 ▸ starts
  · intro starts
    exact ⟨c, text, rfl, starts⟩

theorem Starts.append {opens : Char → Bool} {text : List Char} (starts : Starts opens text)
    (rest : List Char) : Starts opens (text ++ rest) := by
  obtain ⟨c, tail, rfl, opened⟩ := starts
  exact starts_cons.2 opened

theorem Starts.mono {opens opens' : Char → Bool} {text : List Char} (starts : Starts opens text)
    (wider : ∀ c, opens c → opens' c) : Starts opens' text := by
  obtain ⟨c, tail, rfl, opened⟩ := starts
  exact starts_cons.2 (wider c opened)

theorem Starts.common {opens opens' : Char → Bool} {text : List Char}
    (first : Starts opens text) (second : Starts opens' text) : ∃ c, opens c ∧ opens' c := by
  obtain ⟨c, tail, rfl, opened⟩ := first
  exact ⟨c, opened, starts_cons.1 second⟩

theorem Starts.stops {opens goesOn : Char → Bool} {text : List Char} (starts : Starts opens text)
    (apart : ∀ c, opens c → goesOn c = false) : Stops goesOn text := by
  obtain ⟨c, tail, rfl, opened⟩ := starts
  exact stops_cons.2 (apart c opened)

theorem Starts.stops_append {opens goesOn : Char → Bool} {text : List Char}
    (starts : Starts opens text) (stops : Stops goesOn text) (rest : List Char) :
    Stops goesOn (text ++ rest) := by
  obtain ⟨c, tail, rfl, _⟩ := starts
  exact stops_cons.2 (stops_cons.1 stops)

/-- A first character of one class, with characters of another class behind it. -/
def IsWord (starts goesOn : Char → Bool) : List Char → Prop
  | [] => False
  | first :: rest => starts first ∧ ∀ c ∈ rest, goesOn c

theorem IsWord.forall {goesOn : Char → Bool} {text : List Char} (word : IsWord goesOn goesOn text) :
    ∀ c ∈ text, goesOn c := by
  obtain _ | ⟨first, rest⟩ := text
  · exact word.elim
  · exact List.forall_mem_cons.2 word

theorem IsWord.starts {opens goesOn : Char → Bool} {text : List Char}
    (word : IsWord opens goesOn text) : Starts opens text := by
  obtain _ | ⟨first, rest⟩ := text
  · exact word.elim
  · exact starts_cons.2 word.1

/-- The texts of blank space. -/
abbrev IsBlankText : List Char → Prop := IsWord isBlank isBlank

/-- The texts of identifiers. -/
abbrev IsIdentText : List Char → Prop := IsWord isIdentStart isIdentPart

/-- Runs of digits. -/
abbrev IsDigits : List Char → Prop := IsWord Char.isDigit Char.isDigit

/-- The texts of numbers: an optional sign, digits, and an optional fraction. -/
def IsNumberText (text : List Char) : Prop :=
  ∃ sign whole fraction, text = sign ++ whole ++ fraction ∧ (sign = [] ∨ sign = ['-']) ∧
    IsDigits whole ∧ (fraction = [] ∨ ∃ digits, IsDigits digits ∧ fraction = '.' :: digits)

/-- The characters that a number may start with. -/
def opensNumber (c : Char) : Bool := c == '-' || c.isDigit

theorem IsNumberText.starts {text : List Char} (number : IsNumberText text) :
    Starts opensNumber text := by
  obtain ⟨sign, whole, fraction, rfl, signed, digits, _⟩ := number
  rcases signed with rfl | rfl
  · refine (digits.starts.append fraction).mono fun c digit => ?_
    rw [opensNumber, digit, Bool.or_true]
  · exact starts_cons.2 rfl

/-- A text that starts with a decimal point and a digit. -/
def StartsFraction : List Char → Prop
  | '.' :: c :: _ => c.isDigit
  | _ => False

/-- The texts of comments: those without the mark that ends a comment. -/
def IsCommentText (text : List Char) : Prop := ¬ ['*', '/'] <:+: text

/-- A text that starts with a minus sign and a digit. -/
def StartsNegative : List Char → Prop
  | '-' :: c :: _ => c.isDigit
  | _ => False

/-- A text that starts with a minus sign, digits, and a character that a unit may start
with. -/
def StartsNegativeDimension (text : List Char) : Prop :=
  ∃ digits c rest, text = '-' :: digits ++ c :: rest ∧ IsDigits digits ∧ isIdentStart c

section Cuts

/-- A word is taken exactly if it is the longest one at the front of the input. -/
theorem splitWord_iff {starts goesOn : Char → Bool} {input text rest : List Char} :
    splitWord starts goesOn input = some (text, rest) ↔
      IsWord starts goesOn text ∧ Stops goesOn rest ∧ input = text ++ rest := by
  rw [splitWord_eq_some_iff]
  constructor
  · rintro ⟨first, tail, rfl, start, rfl, rfl⟩
    refine ⟨⟨start, fun c member => List.mem_takeWhile_imp member⟩, ?_, ?_⟩
    · intro c member
      have stopped := List.head?_dropWhile_not goesOn tail
      rw [member] at stopped
      exact stopped
    · rw [List.cons_append, List.takeWhile_append_dropWhile]
  · rintro ⟨word, stops, rfl⟩
    obtain _ | ⟨first, tail⟩ := text
    · exact word.elim
    · have ends : rest.takeWhile goesOn = [] ∧ rest.dropWhile goesOn = rest := by
        obtain _ | ⟨c, rest⟩ := rest
        · exact ⟨rfl, rfl⟩
        · have stops := stops_cons.1 stops
          simp [stops]
      refine ⟨first, tail ++ rest, rfl, word.1, ?_, ?_⟩
      · rw [List.takeWhile_append_of_pos word.2, ends.1, List.append_nil]
      · rw [List.dropWhile_append_of_pos word.2, ends.2]

/-- No word is taken exactly where none starts. -/
theorem splitWord_eq_none_iff {starts goesOn : Char → Bool} {input : List Char} :
    splitWord starts goesOn input = none ↔ Stops starts input := by
  obtain _ | ⟨first, tail⟩ := input
  · simp [splitWord]
  · rw [splitWord, stops_cons]
    split <;> simp_all

/-- Digits have no sign in front of them. -/
theorem splitSign_digits {digits : List Char} (run : IsDigits digits) (rest : List Char) :
    splitSign (digits ++ rest) = ([], digits ++ rest) := by
  obtain _ | ⟨first, tail⟩ := digits
  · exact run.elim
  · rw [List.cons_append]
    refine splitSign.eq_2 _ fun after signed => ?_
    obtain ⟨rfl, _⟩ := List.cons.inj signed
    have digit : Char.isDigit '-' = true := run.1
    contradiction

/-- No fraction is taken where none starts. -/
theorem splitFraction_of_not {rest : List Char} (absent : ¬ StartsFraction rest) :
    splitFraction rest = ([], rest) := by
  fun_cases splitFraction rest with
  | case1 rest digits rest' taken =>
      obtain ⟨first, tail, rfl, digit, _⟩ := splitWord_eq_some_iff.1 taken
      exact absurd digit absent
  | case2 rest taken => rfl
  | case3 => rfl

/-- A number is taken whole if neither a digit nor a fraction follows it. -/
theorem splitNumber_append {text rest : List Char} (number : IsNumberText text)
    (noDigit : Stops Char.isDigit rest) (noFraction : ¬ StartsFraction rest) :
    splitNumber (text ++ rest) = some (text, rest) := by
  obtain ⟨sign, whole, fraction, rfl, signed, digits, ending⟩ := number
  have unsigned : splitSign (sign ++ whole ++ fraction ++ rest) =
      (sign, whole ++ (fraction ++ rest)) := by
    rcases signed with rfl | rfl
    · rw [List.nil_append, List.append_assoc]
      exact splitSign_digits digits _
    · rw [List.append_assoc, List.append_assoc]
      rfl
  have run : splitDigits (whole ++ (fraction ++ rest)) = some (whole, fraction ++ rest) := by
    refine splitWord_iff.2 ⟨digits, ?_, rfl⟩
    rcases ending with rfl | ⟨places, _, rfl⟩
    · exact noDigit
    · exact stops_cons.2 rfl
  have point : splitFraction (fraction ++ rest) = (fraction, rest) := by
    rcases ending with rfl | ⟨places, decimals, rfl⟩
    · exact splitFraction_of_not noFraction
    · have taken : splitDigits (places ++ rest) = some (places, rest) :=
        splitWord_iff.2 ⟨decimals, noDigit, rfl⟩
      rw [List.cons_append, splitFraction, taken]
  refine splitNumber_eq_some_iff.2 ⟨whole, fraction ++ rest, ?_, ?_, ?_⟩
  · rw [unsigned, run]
  · rw [unsigned, point]
  · rw [point]

/-- What is taken as a number is one. -/
theorem isNumberText_of_splitNumber {input text rest : List Char}
    (taken : splitNumber input = some (text, rest)) : IsNumberText text := by
  obtain ⟨whole, tail, run, rfl, rfl⟩ := splitNumber_eq_some_iff.1 taken
  refine ⟨(splitSign input).1, whole, (splitFraction tail).1, rfl, ?_,
    (splitWord_iff.1 run).1, ?_⟩
  · fun_cases splitSign input with
    | case1 => exact Or.inr rfl
    | case2 => exact Or.inl rfl
  · fun_cases splitFraction tail with
    | case1 rest digits rest' decimals =>
        exact Or.inr ⟨digits, (splitWord_iff.1 decimals).1, rfl⟩
    | case2 => exact Or.inl rfl
    | case3 => exact Or.inl rfl

/-- The text of a comment goes exactly to the first mark that ends one. -/
theorem splitCommentText_iff {input text rest : List Char} :
    splitCommentText input = some (text, rest) ↔
      IsCommentText text ∧ ['*', '/'] <+: rest ∧ input = text ++ rest := by
  unfold IsCommentText
  constructor
  · intro taken
    rw [← and_assoc]
    refine ⟨?_, (append_of_splitCommentText taken).symm⟩
    fun_induction splitCommentText input generalizing text rest with
    | case1 tail =>
        obtain ⟨rfl, rfl⟩ := Prod.mk.injEq .. ▸ Option.some.injEq .. ▸ taken
        simp
    | case2 c tail goesOn ih =>
        obtain ⟨⟨text', rest'⟩, found, same⟩ := Option.map_eq_some_iff.1 taken
        obtain ⟨rfl, rfl⟩ := Prod.mk.injEq .. ▸ same
        refine ⟨?_, (ih found).2⟩
        rw [List.infix_cons_iff]
        rintro (⟨later, ends⟩ | inside)
        · obtain ⟨rfl, rfl⟩ := List.cons.inj ends
          exact goesOn _ rfl (append_of_splitCommentText found).symm
        · exact (ih found).1 inside
    | case3 => simp at taken
  · rintro ⟨unended, ⟨later, rfl⟩, rfl⟩
    induction text with
    | nil => rfl
    | cons c text ih =>
        rw [List.infix_cons_iff, not_or] at unended
        have goesOn : ∀ after, c = '*' → text ++ (['*', '/'] ++ later) = '/' :: after → False := by
          rintro after rfl same
          obtain _ | ⟨d, text⟩ := text
          · simp at same
          · obtain ⟨rfl, _⟩ := List.cons.inj same
            exact unended.1 ⟨text, rfl⟩
        rw [List.cons_append, splitCommentText.eq_2 _ _ goesOn, ih unended.2]
        rfl

theorem splitNumber_eq_none_iff {input : List Char} :
    splitNumber input = none ↔ Stops Char.isDigit (splitSign input).2 := by
  rw [← splitWord_eq_none_iff]
  exact Option.map_eq_none_iff

end Cuts

section Characters

theorem isIdentPart_of_isIdentStart {c : Char} (starts : isIdentStart c) : isIdentPart c := by
  unfold isIdentStart at starts
  unfold isIdentPart
  grind

theorem toNat_of_isDigit {c : Char} (digit : c.isDigit) : 48 ≤ c.toNat ∧ c.toNat ≤ 57 := by
  simpa [Char.isDigit, UInt32.le_iff_toNat_le] using digit

/-- Digits are ASCII and among the characters that identifiers go on with. -/
theorem isIdentPart_of_isDigit {c : Char} (digit : c.isDigit) : isIdentPart c := by
  have ascii : c.toNat < 0x80 := by
    have := toNat_of_isDigit digit
    omega
  have numeric : Text.isNumeric c := by
    rw [Text.isNumeric, Text.CharClass.contains_iff, if_pos ascii]
    exact digit
  simp [isIdentPart, numeric]

/-- No identifier starts with a digit: digits are ASCII, and no ASCII digit is alphabetic. -/
theorem isIdentStart_eq_false_of_isDigit {c : Char} (digit : c.isDigit) :
    isIdentStart c = false := by
  have bounds := toNat_of_isDigit digit
  have ascii : c.toNat < 0x80 := by omega
  have letter : c.isAlpha = false := by
    have code : c.val.toNat = c.toNat := rfl
    change (decide (c.val ≥ 'A'.val ∧ c.val ≤ 'Z'.val) ||
      decide (c.val ≥ 'a'.val) && decide (c.val ≤ 'z'.val)) = false
    simp [UInt32.le_iff_toNat_le]
    omega
  have mark : c ≠ '_' ∧ c ≠ '-' := by
    constructor <;> rintro rfl <;> simp at bounds
  have unlisted : ¬ Text.isAlphabetic c := by
    rw [Text.isAlphabetic, Text.CharClass.contains_iff, if_pos ascii]
    exact Bool.eq_false_iff.1 letter
  simp [isIdentStart, unlisted, mark]

theorem isDigit_eq_false_of_isIdentStart {c : Char} (starts : isIdentStart c) :
    c.isDigit = false := by
  refine Bool.eq_false_iff.2 fun digit => ?_
  rw [isIdentStart_eq_false_of_isDigit digit] at starts
  contradiction

theorem isIdentPart_eq_false_of_isBlank {c : Char} (blank : isBlank c) :
    isIdentPart c = false := by
  simp only [isBlank, Bool.or_eq_true, decide_eq_true_eq] at blank
  rcases blank with ((rfl | rfl) | rfl) | rfl <;> decide

theorem isBlank_eq_false_of_isIdentPart {c : Char} (part : isIdentPart c) :
    isBlank c = false := by
  refine Bool.eq_false_iff.2 fun blank => ?_
  rw [isIdentPart_eq_false_of_isBlank blank] at part
  contradiction

theorem isIdentPart_of_opensNumber {c : Char} (opens : opensNumber c) : isIdentPart c := by
  rcases Bool.or_eq_true_iff.1 opens with minus | digit
  · obtain rfl := eq_of_beq minus
    rfl
  · exact isIdentPart_of_isDigit digit

/-- No fraction starts with a character of identifiers. -/
theorem not_startsFraction_of_isIdentPart {c : Char} (part : isIdentPart c) (text : List Char) :
    ¬ StartsFraction (c :: text) := by
  unfold StartsFraction
  split
  · next same =>
      obtain ⟨rfl, _⟩ := List.cons.inj same
      exact absurd part (by decide)
  · exact id

end Characters

section Identifiers

/-- A number in front of an identifier needs a minus sign to start with. -/
theorem splitSign_ident {text rest : List Char} (ident : IsIdentText text) :
    (∃ tail, text = '-' :: tail ∧ splitSign (text ++ rest) = (['-'], tail ++ rest)) ∨
      splitSign (text ++ rest) = ([], text ++ rest) ∧ Stops Char.isDigit (text ++ rest) ∧
        ¬ StartsNegative text := by
  obtain _ | ⟨first, tail⟩ := text
  · exact ident.elim
  · by_cases signed : first = '-'
    · subst signed
      exact Or.inl ⟨tail, rfl, rfl⟩
    · refine Or.inr ⟨?_, stops_cons.2 (isDigit_eq_false_of_isIdentStart ident.1), ?_⟩
      · exact splitSign.eq_2 _ fun after same => signed (List.cons.inj same).1
      · unfold StartsNegative
        split
        · next same => exact absurd (List.cons.inj same).1 signed
        · exact id

/-- An identifier is no number exactly if it does not start as one. -/
theorem splitNumber_ident_eq_none_iff {text rest : List Char} (ident : IsIdentText text)
    (stops : Stops Char.isDigit rest) :
    splitNumber (text ++ rest) = none ↔ ¬ StartsNegative text := by
  rw [splitNumber_eq_none_iff]
  rcases splitSign_ident ident with ⟨tail, rfl, sign⟩ | ⟨sign, digitless, plain⟩
  · rw [sign]
    obtain _ | ⟨second, tail⟩ := tail
    · exact iff_of_true stops id
    · rw [List.cons_append, stops_cons]
      exact Bool.eq_false_iff
  · rw [sign]
    exact iff_of_true digitless plain

/-- An identifier that does not start as a dimension leaves no unit behind its number. -/
theorem stops_of_splitNumber_ident {text rest number tail : List Char}
    (ident : IsIdentText text) (plain : ¬ StartsNegativeDimension text)
    (stops : Stops isIdentPart rest) (noFraction : ¬ StartsFraction rest)
    (taken : splitNumber (text ++ rest) = some (number, tail)) : Stops isIdentStart tail := by
  obtain ⟨digits, behind, run, _, rfl⟩ := splitNumber_eq_some_iff.1 taken
  rcases splitSign_ident ident with ⟨name, rfl, sign⟩ | ⟨sign, digitless, _⟩
  · rw [sign] at run
    obtain ⟨digitsOnly, noDigit, split⟩ := splitWord_iff.1 run
    -- The digits end inside the identifier, since no digit follows it.
    obtain ⟨unit, rfl, rfl⟩ : ∃ unit, name = digits ++ unit ∧ behind = unit ++ rest := by
      rcases List.append_eq_append_iff.1 split with ⟨more, rfl, rfl⟩ | within
      · obtain _ | ⟨c, more⟩ := more
        · exact ⟨[], by rw [List.append_nil, List.append_nil], rfl⟩
        · have digit : c.isDigit := digitsOnly.forall c (by simp)
          rw [List.cons_append, stops_cons, isIdentPart_of_isDigit digit] at stops
          contradiction
      · exact within
    obtain _ | ⟨c, unit⟩ := unit
    · rw [List.nil_append, splitFraction_of_not noFraction]
      exact stops.mono fun _ => isIdentPart_of_isIdentStart
    · have part : isIdentPart c := ident.2 c (by simp)
      rw [List.cons_append, splitFraction_of_not (not_startsFraction_of_isIdentPart part _),
        stops_cons]
      refine Bool.eq_false_iff.2 fun starts => plain ?_
      exact ⟨digits, c, unit, rfl, digitsOnly, starts⟩
  · rw [sign] at run
    rw [splitDigits, splitWord_eq_none_iff.2 digitless] at run
    contradiction

/-- A text that starts as a negative dimension has a number in front, with a unit behind it. -/
theorem exists_splitNumber_of_startsNegativeDimension {text : List Char}
    (dimension : StartsNegativeDimension text) (rest : List Char) :
    ∃ number tail, splitNumber (text ++ rest) = some (number, tail) ∧
      ¬ Stops isIdentStart tail := by
  obtain ⟨digits, c, tail, rfl, run, starts⟩ := dimension
  refine ⟨'-' :: digits, c :: (tail ++ rest), ?_, ?_⟩
  · rw [List.append_assoc]
    refine splitNumber_append ⟨['-'], digits, [], ?_, Or.inr rfl, run, Or.inl rfl⟩
      (stops_cons.2 (isDigit_eq_false_of_isIdentStart starts))
      (not_startsFraction_of_isIdentPart (isIdentPart_of_isIdentStart starts) _)
    rw [List.append_nil]
    rfl
  · rw [stops_cons, starts]
    exact Bool.noConfusion

end Identifiers

end NestedStyles.Source
