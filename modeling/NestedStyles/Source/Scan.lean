import NestedStyles.Source.Lexeme
import NestedStyles.Source.Unread
import NestedStyles.Tree.Node

/-!
# Scanning

A reader takes a value off the front of the unread text or declines, in which
case another reader may try the same text. Readers know the position of every
suffix of the source, so the nodes they build know where they start.

A reader `Advances` when it takes at least one character whenever it succeeds,
and `NeverGrows` when it at least puts nothing back. These are what make
repeated reading come to an end.
-/

namespace NestedStyles.Source

/-- Gives the position at which each unread end of a source starts. -/
abbrev Locator := Unread → Position

/-- Reads a value off the front of the unread text, or declines. -/
abbrev ReadM := ReaderT Locator (StateT Unread Option)

/-- The position of the unread text. -/
def here : ReadM Position := fun locate input => some (locate input, input)

/-- Takes the text that a cut finds. -/
def take (cut : Cut) : ReadM String := fun _ input =>
  match taken : cut.split input.text with
  | some (text, rest) =>
      some (String.ofList text, input.drop text rest (cut.append_of_split taken))
  | none => none

/-- Passes over one given character. -/
def skip (c : Char) : ReadM Unit := do
  let _ ← take (.char c)

/-- Reads a leaf whose text is what a cut finds. -/
def leaf (kind : Kind) (cut : Cut) : ReadM Node := do
  let start ← here
  let text ← take cut
  return .leaf kind text start

/-- Reads a branch that starts where its children's reader starts. -/
def branch (kind : Kind) (children : ReadM (List Node)) : ReadM Node := do
  let start ← here
  let children ← children
  return .branch kind children start

/-- A reader that takes at least one character whenever it succeeds. -/
def Advances {α : Type} (reader : ReadM α) : Prop :=
  ∀ ⦃locate input value rest⦄,
    reader locate input = some (value, rest) → rest.text.length < input.text.length

/-- A reader that puts no characters back. -/
def NeverGrows {α : Type} (reader : ReadM α) : Prop :=
  ∀ ⦃locate input value rest⦄,
    reader locate input = some (value, rest) → rest.text.length ≤ input.text.length

section Progress

variable {α β : Type} {reader other : ReadM α} {next : α → ReadM β}

/-- A sequence of readers succeeds when both of its parts do. -/
theorem bind_eq_some_iff {locate : Locator} {input rest : Unread} {value : β} :
    (reader >>= next) locate input = some (value, rest) ↔
      ∃ first between, reader locate input = some (first, between) ∧
        next first locate between = some (value, rest) := by
  change (reader locate input).bind (fun taken => next taken.1 locate taken.2) = _ ↔ _
  rw [Option.bind_eq_some_iff]
  exact ⟨fun ⟨taken, read, followed⟩ => ⟨taken.1, taken.2, read, followed⟩,
    fun ⟨first, between, read, followed⟩ => ⟨(first, between), read, followed⟩⟩

/-- The second reader is tried on the same text when the first one declines. -/
theorem orElse_apply (locate : Locator) (input : Unread) :
    (reader <|> other) locate input = (reader locate input).or (other locate input) := by
  change (reader locate input <|> other locate input) = _
  cases reader locate input <;> rfl

/-- An optional reader never declines. -/
theorem optional_apply (locate : Locator) (input : Unread) :
    (optional reader) locate input =
      match reader locate input with
      | some (value, rest) => some (some value, rest)
      | none => some (none, input) := by
  change ((reader locate input).bind _ <|> _) = _
  cases reader locate input <;> rfl

theorem Advances.neverGrows (advances : Advances reader) : NeverGrows reader :=
  fun _ _ _ _ read => Nat.le_of_lt (advances read)

theorem neverGrows_pure (value : α) : NeverGrows (pure value) := by
  intro locate input value' rest read
  obtain ⟨rfl, rfl⟩ := Prod.mk.injEq .. ▸ Option.some.injEq .. ▸ read
  exact Nat.le_refl _

theorem NeverGrows.bind (first : NeverGrows reader)
    (second : ∀ value, NeverGrows (next value)) : NeverGrows (reader >>= next) := by
  intro locate input value rest read
  obtain ⟨_, _, before, after⟩ := bind_eq_some_iff.1 read
  exact Nat.le_trans (second _ after) (first before)

/-- A reader advances if its first step does and the later ones put nothing back. -/
theorem Advances.bind (first : Advances reader)
    (second : ∀ value, NeverGrows (next value)) : Advances (reader >>= next) := by
  intro locate input value rest read
  obtain ⟨_, _, before, after⟩ := bind_eq_some_iff.1 read
  exact Nat.lt_of_le_of_lt (second _ after) (first before)

theorem Advances.map (advances : Advances reader) (transform : α → β) :
    Advances (transform <$> reader) :=
  advances.bind fun value => neverGrows_pure (transform value)

/-- A reader advances if a later step does and the first one puts nothing back. -/
theorem NeverGrows.bind_advances (first : NeverGrows reader)
    (second : ∀ value, Advances (next value)) : Advances (reader >>= next) := by
  intro locate input value rest read
  obtain ⟨_, _, before, after⟩ := bind_eq_some_iff.1 read
  exact Nat.lt_of_lt_of_le (second _ after) (first before)

theorem Advances.orElse (first : Advances reader) (second : Advances other) :
    Advances (reader <|> other) := by
  intro locate input value rest read
  rw [orElse_apply, Option.or_eq_some_iff] at read
  rcases read with read | ⟨_, read⟩
  · exact first read
  · exact second read

theorem NeverGrows.optional (never : NeverGrows reader) : NeverGrows (optional reader) := by
  intro locate input value rest read
  rw [optional_apply] at read
  split at read
  · next value' rest' taken =>
      obtain ⟨rfl, rfl⟩ := Prod.mk.injEq .. ▸ Option.some.injEq .. ▸ read
      exact never taken
  · obtain ⟨rfl, rfl⟩ := Prod.mk.injEq .. ▸ Option.some.injEq .. ▸ read
    exact Nat.le_refl _

end Progress

theorem neverGrows_here : NeverGrows here := by
  intro locate input value rest read
  obtain ⟨rfl, rfl⟩ := Prod.mk.injEq .. ▸ Option.some.injEq .. ▸ read
  exact Nat.le_refl _

/-- What a cut takes is the text that it splits off the input. -/
theorem take_eq_some_iff {cut : Cut} {locate : Locator} {input rest : Unread}
    {value : String} :
    take cut locate input = some (value, rest) ↔
      ∃ text, cut.split input.text = some (text, rest.text) ∧ String.ofList text = value := by
  unfold take
  split
  · next text rest' taken =>
      rw [Unread.drop_eq, taken, Option.some.injEq, Prod.mk.injEq]
      constructor
      · rintro ⟨rfl, rfl⟩
        exact ⟨text, rfl, rfl⟩
      · rintro ⟨text', same, rfl⟩
        obtain ⟨rfl, rfl⟩ := Prod.mk.injEq .. ▸ Option.some.injEq .. ▸ same
        exact ⟨rfl, Unread.ofList_text rest⟩
  · next taken => simp [taken]

theorem neverGrows_take (cut : Cut) : NeverGrows (take cut) := by
  intro locate input value rest read
  obtain ⟨text, taken, _⟩ := take_eq_some_iff.1 read
  rw [← cut.append_of_split taken, List.length_append]
  omega

/-- Cuts that never take the empty text advance. -/
theorem Cut.TakesSome.advances_take {cut : Cut} (takes : cut.TakesSome) :
    Advances (take cut) := by
  intro locate input value rest read
  obtain ⟨text, taken, _⟩ := take_eq_some_iff.1 read
  have := List.length_pos_iff.2 (takes taken)
  rw [← cut.append_of_split taken, List.length_append]
  omega

theorem advances_skip (c : Char) : Advances (skip c) :=
  (Cut.takesSome_char c).advances_take.bind fun _ => neverGrows_pure _

theorem Cut.TakesSome.advances_leaf {cut : Cut} (takes : cut.TakesSome) (kind : Kind) :
    Advances (leaf kind cut) :=
  neverGrows_here.bind_advances fun _ =>
    takes.advances_take.bind fun _ => neverGrows_pure _

theorem advances_branch (kind : Kind) {children : ReadM (List Node)}
    (advances : Advances children) : Advances (branch kind children) :=
  neverGrows_here.bind_advances fun _ => advances.bind fun _ => neverGrows_pure _

/-- Everything a reader takes until it declines, and the text that is left. -/
def takeAll {α : Type} (reader : ReadM α) (advances : Advances reader) (locate : Locator)
    (input : Unread) : List α × Unread :=
  match read : reader locate input with
  | none => ([], input)
  | some (value, rest) =>
      have : rest.text.length < input.text.length := advances read
      let (values, rest) := takeAll reader advances locate rest
      (value :: values, rest)
termination_by input.text.length

/-- Reads as often as the reader succeeds. -/
def many {α : Type} (reader : ReadM α) (advances : Advances reader) : ReadM (List α) :=
  fun locate input => some (takeAll reader advances locate input)

/-- Repetition puts no characters back. -/
theorem length_takeAll_le {α : Type} (reader : ReadM α) (advances : Advances reader)
    (locate : Locator) (input : Unread) :
    (takeAll reader advances locate input).2.text.length ≤ input.text.length := by
  fun_induction takeAll reader advances locate input with
  | case1 input _ => exact Nat.le_refl _
  | case2 input value rest read shorter values rest' taken ih =>
      rw [taken] at ih
      exact Nat.le_trans ih (Nat.le_of_lt shorter)

theorem neverGrows_many {α : Type} (reader : ReadM α) (advances : Advances reader) :
    NeverGrows (many reader advances) := by
  intro locate input values rest read
  obtain rfl : (takeAll reader advances locate input).2 = rest :=
    congrArg Prod.snd (Option.some.inj read)
  exact length_takeAll_le reader advances locate input

end NestedStyles.Source
