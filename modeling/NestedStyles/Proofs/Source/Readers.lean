import NestedStyles.Source.Stylesheet

/-!
# What readers do

When each combinator of readers succeeds and with what, and the steps of the loop that
reads items.
-/

namespace NestedStyles.Source

section Readers

variable {α β : Type} {reader other : ReadM α} {locate : Locator} {input rest : Unread}

theorem pure_eq_some_iff {value result : α} :
    (pure value : ReadM α) locate input = some (result, rest) ↔
      result = value ∧ rest = input := by
  change some (value, input) = some (result, rest) ↔ _
  rw [Option.some.injEq, Prod.mk.injEq, eq_comm, @eq_comm _ input]

theorem here_eq_some_iff {position : Position} :
    here locate input = some (position, rest) ↔ position = locate input ∧ rest = input := by
  change some (locate input, input) = some (position, rest) ↔ _
  rw [Option.some.injEq, Prod.mk.injEq, eq_comm, @eq_comm _ input]

/-- A character is skipped exactly where the input starts with it. -/
theorem skip_eq_some_iff {c : Char} :
    skip c locate input = some ((), rest) ↔ input.text = c :: rest.text := by
  unfold skip
  rw [bind_eq_some_iff]
  constructor
  · rintro ⟨text, between, read, done⟩
    obtain ⟨_, rfl⟩ := pure_eq_some_iff.1 done
    obtain ⟨_, taken, _⟩ := take_eq_some_iff.1 read
    exact (splitChar_eq_some_iff.1 taken).2
  · intro starts
    exact ⟨_, rest, take_eq_some_iff.2 ⟨[c], splitChar_eq_some_iff.2 ⟨rfl, starts⟩, rfl⟩,
      pure_eq_some_iff.2 ⟨rfl, rfl⟩⟩

/-- A leaf is read exactly if its cut takes something, and has the position of the input. -/
theorem leaf_eq_some_iff {kind : Kind} {cut : Cut} {node : Node} :
    leaf kind cut locate input = some (node, rest) ↔
      ∃ text, cut.split input.text = some (text, rest.text) ∧
        node = .leaf kind (String.ofList text) (locate input) := by
  unfold leaf
  simp only [bind_eq_some_iff, here_eq_some_iff, take_eq_some_iff, pure_eq_some_iff]
  constructor
  · rintro ⟨_, _, ⟨rfl, rfl⟩, _, _, ⟨text, taken, rfl⟩, rfl, rfl⟩
    exact ⟨text, taken, rfl⟩
  · rintro ⟨text, taken, rfl⟩
    exact ⟨_, _, ⟨rfl, rfl⟩, _, rest, ⟨text, taken, rfl⟩, rfl, rfl⟩

/-- No leaf is read exactly if its cut takes nothing. -/
theorem leaf_eq_none_iff {kind : Kind} {cut : Cut} :
    leaf kind cut locate input = none ↔ cut.split input.text = none := by
  constructor
  · intro declined
    cases taken : cut.split input.text with
    | none => rfl
    | some pair =>
        have read : leaf kind cut locate input = some (_, .ofList pair.2) :=
          leaf_eq_some_iff.2 ⟨pair.1, taken, rfl⟩
        rw [declined] at read
        contradiction
  · intro refused
    cases read : leaf kind cut locate input with
    | none => rfl
    | some result =>
        obtain ⟨_, taken, _⟩ := leaf_eq_some_iff.1 read
        rw [refused] at taken
        contradiction

/-- A branch is read exactly if its children are, and has the position of the input. -/
theorem branch_eq_some_iff {kind : Kind} {reader : ReadM (List Node)} {node : Node} :
    branch kind reader locate input = some (node, rest) ↔
      ∃ children, reader locate input = some (children, rest) ∧
        node = .branch kind children (locate input) := by
  unfold branch
  simp only [bind_eq_some_iff, here_eq_some_iff, pure_eq_some_iff]
  constructor
  · rintro ⟨_, _, ⟨rfl, rfl⟩, children, _, read, rfl, rfl⟩
    exact ⟨children, read, rfl⟩
  · rintro ⟨children, read, rfl⟩
    exact ⟨_, _, ⟨rfl, rfl⟩, children, rest, read, rfl, rfl⟩

theorem map_eq_some_iff {transform : α → β} {result : β} :
    (transform <$> reader) locate input = some (result, rest) ↔
      ∃ value, reader locate input = some (value, rest) ∧ result = transform value := by
  change (reader >>= fun value => pure (transform value)) locate input = _ ↔ _
  simp only [bind_eq_some_iff, pure_eq_some_iff]
  constructor
  · rintro ⟨value, _, read, rfl, rfl⟩
    exact ⟨value, read, rfl⟩
  · rintro ⟨value, read, rfl⟩
    exact ⟨value, rest, read, rfl, rfl⟩

theorem bind_of_eq_some {next : α → ReadM β} {value : α}
    (read : reader locate input = some (value, rest)) :
    (reader >>= next) locate input = next value locate rest := by
  change (reader locate input).bind (fun taken => next taken.1 locate taken.2) = _
  rw [read]
  rfl

theorem orElse_eq_some_iff {value : α} :
    (reader <|> other) locate input = some (value, rest) ↔
      reader locate input = some (value, rest) ∨
        reader locate input = none ∧ other locate input = some (value, rest) := by
  rw [orElse_apply, Option.or_eq_some_iff]

/-- An optional reader takes what there is, and nothing only where there is nothing. -/
theorem optional_eq_some_iff {value : Option α} :
    (optional reader) locate input = some (value, rest) ↔
      (∃ taken, reader locate input = some (taken, rest) ∧ value = some taken) ∨
        reader locate input = none ∧ value = none ∧ rest = input := by
  rw [optional_apply]
  cases read : reader locate input with
  | none => simp [eq_comm]
  | some taken =>
      obtain ⟨found, behind⟩ := taken
      constructor
      · intro same
        obtain ⟨rfl, rfl⟩ := Prod.mk.injEq .. ▸ Option.some.injEq .. ▸ same
        exact Or.inl ⟨found, rfl, rfl⟩
      · rintro (⟨_, same, rfl⟩ | ⟨refused, _⟩)
        · obtain ⟨rfl, rfl⟩ := Prod.mk.injEq .. ▸ Option.some.injEq .. ▸ same
          rfl
        · contradiction

theorem takeAll_of_none {advances : Advances reader} (declined : reader locate input = none) :
    takeAll reader advances locate input = ([], input) := by
  rw [takeAll]
  split <;> simp_all

/-- Repetition goes on behind what is read. -/
theorem takeAll_of_some {advances : Advances reader} {value : α}
    (read : reader locate input = some (value, rest)) :
    takeAll reader advances locate input =
      (value :: (takeAll reader advances locate rest).1,
        (takeAll reader advances locate rest).2) := by
  rw [takeAll]
  split <;> simp_all

end Readers

section Steps

variable {forms : List Form} {locate : Locator} {frames : List Frame} {frame : Frame}
  {items : Array Node} {input rest : Unread}

/-- The loop by its branches: an item, an opening, the end of a block, or the end of all. -/
theorem readItems_eq :
    readItems forms locate frames items input =
      match piece forms locate input with
      | some (.item node, rest) => readItems forms locate frames (items.push node) rest
      | some (.opening opening, rest) =>
          readItems forms locate (⟨items, opening⟩ :: frames) #[] rest
      | none =>
          match frames with
          | [] => if input.text.isEmpty then .ok items else .error input
          | frame :: outer =>
              match skip '}' locate input with
              | some ((), rest) => readItems forms locate outer (frame.close items) rest
              | none => .error input := by
  conv =>
    lhs
    rw [readItems.eq_def]
  split
  · next found => simp only [found]
  · next found => simp only [found]
  · next declined =>
      rw [declined]
      cases frames with
      | nil => rfl
      | cons frame outer =>
          dsimp only
          split
          · next closed => simp only [closed]
          · next refused => simp only [refused]

theorem readItems_item {node : Node}
    (read : piece forms locate input = some (.item node, rest)) :
    readItems forms locate frames items input =
      readItems forms locate frames (items.push node) rest := by
  rw [readItems_eq, read]

/-- An opening keeps the items in front of it aside until its block is closed. -/
theorem readItems_opening {found : Opening}
    (read : piece forms locate input = some (.opening found, rest)) :
    readItems forms locate frames items input =
      readItems forms locate (⟨items, found⟩ :: frames) #[] rest := by
  rw [readItems_eq, read]

/-- Outside of all blocks, reading is done only at the end of the input. -/
theorem readItems_outermost (declined : piece forms locate input = none) :
    readItems forms locate [] items input =
      if input.text.isEmpty then .ok items else .error input := by
  rw [readItems_eq, declined]

/-- A closing brace puts the ruleset behind the items in front of it. -/
theorem readItems_close (declined : piece forms locate input = none)
    (closes : input.text = '}' :: rest.text) :
    readItems forms locate (frame :: frames) items input =
      readItems forms locate frames (frame.close items) rest := by
  have closed : skip '}' locate input = some ((), rest) := skip_eq_some_iff.2 closes
  rw [readItems_eq, declined]
  dsimp only
  rw [closed]

/-- Inside a block, reading fails where there is neither a piece nor a closing brace. -/
theorem readItems_stuck (declined : piece forms locate input = none)
    (refused : skip '}' locate input = none) :
    readItems forms locate (frame :: frames) items input = .error input := by
  rw [readItems_eq, declined]
  dsimp only
  rw [refused]

end Steps

end NestedStyles.Source
