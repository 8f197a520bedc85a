import Mathlib.Data.List.Perm.Basic
import NestedStyles.Proofs.Source.Forms

/-!
# Reading by descent

Another way to read a stylesheet: a ruleset's reader reads the items of its block by itself, at
every depth with an order of the forms of its own. An attempt at a form ends in one of three ways:
it reads an item, declines so that another form may be tried, or fails because a ruleset opened
and does not end. At most one form does not decline (`attempt_unique`), so the order in which they
are tried is of no account, and reading by descent does what the loop with its stack does
(`readItems_eq_readLevel_bind`).
-/

namespace NestedStyles.Source

/-- How an attempt to read an item off an input ends. -/
inductive Attempt (input : Unread) where
  /-- An item is read, and less is left. -/
  | read (node : Node) (rest : Unread) (shorter : rest.text.length < input.text.length)
  /-- Nothing is read, and another form may be tried. -/
  | declined
  /-- A ruleset opened and does not end; it cannot be read on at the rest. -/
  | failed (stuck : Unread)

/-- The first attempt that does not decline. -/
def Attempt.first {input : Unread} : List (Attempt input) → Attempt input
  | [] => .declined
  | .declined :: more => first more
  | ended :: _ => ended

/-- The items of a level with what is left behind them, or the rest where one of them fails. -/
abbrev Level (input : Unread) : Type :=
  Except Unread (List Node × { rest : Unread // rest.text.length ≤ input.text.length })

/-- Behind a block that was opened and closed, less is left than in front of it. -/
theorem length_behind_block_lt {locate : Locator} {input block closing rest : Unread}
    (inside : block.text.length < input.text.length)
    (within : closing.text.length ≤ block.text.length)
    (closed : skip '}' locate closing = some ((), rest)) :
    rest.text.length < input.text.length :=
  Nat.lt_trans (advances_skip '}' closed) (Nat.lt_of_le_of_lt within inside)

/-- Attempts to read an item of the form, where `level` reads the items of a block. Once a ruleset
has opened, it is read to its end or fails. -/
def Form.attempt (form : Form) (locate : Locator) (input : Unread)
    (level : (block : Unread) → block.text.length < input.text.length → Level block) :
    Attempt input :=
  match taken : form.read locate input with
  | none => .declined
  | some (.item node, rest) => .read node rest (advances_read form taken)
  | some (.opening opening, block) =>
      have inside : block.text.length < input.text.length := advances_read form taken
      match level block inside with
      | .error stuck => .failed stuck
      | .ok (items, ⟨closing, within⟩) =>
          match closed : skip '}' locate closing with
          | none => .failed closing
          | some ((), rest) =>
              .read (opening.close items) rest (length_behind_block_lt inside within closed)

/-- Reads items as long as one of the forms does not decline, at each depth in the given order. -/
def readLevel (orders : Nat → List Form) (locate : Locator) (depth : Nat) (input : Unread) :
    Level input :=
  let attempts := (orders depth).map fun form =>
    form.attempt locate input fun block _ => readLevel orders locate (depth + 1) block
  match Attempt.first attempts with
  | .declined => .ok ([], ⟨input, Nat.le_refl _⟩)
  | .failed stuck => .error stuck
  | .read node rest shorter => do
      let (items, ⟨behind, within⟩) ← readLevel orders locate depth rest
      return (node :: items, ⟨behind, by omega⟩)
termination_by input.text.length

/-- Reads a stylesheet by descent, at each depth trying the forms in the given order. -/
def readByDescent (orders : Nat → List Form) (source : List Char) :
    Except UnexpectedInput Node :=
  let locate := (LineIndex.ofSource source).position
  match readLevel orders locate 0 (.ofList source) with
  | .error stuck => .error (unexpected locate stuck)
  | .ok (items, ⟨rest, _⟩) =>
      if rest.text.isEmpty then .ok (.branch .stylesheet items .origin)
      else .error (unexpected locate rest)

/-- Attempts to read an item of the form at a depth. -/
def attemptAt (orders : Nat → List Form) (locate : Locator) (depth : Nat) (input : Unread)
    (form : Form) : Attempt input :=
  form.attempt locate input fun block _ => readLevel orders locate (depth + 1) block

/-- What an attempt at a form can come to. Once a ruleset has opened, either one of its items
fails, or it is not closed behind its items, or it is read. -/
inductive Ends (orders : Nat → List Form) (locate : Locator) (depth : Nat) (input : Unread)
    (form : Form) : Attempt input → Prop where
  | declined : form.read locate input = none → Ends orders locate depth input form .declined
  | item {node : Node} {rest : Unread} (shorter : rest.text.length < input.text.length) :
      form.read locate input = some (.item node, rest) →
      Ends orders locate depth input form (.read node rest shorter)
  | failsInside {opening : Opening} {block stuck : Unread} :
      form.read locate input = some (.opening opening, block) →
      readLevel orders locate (depth + 1) block = .error stuck →
      Ends orders locate depth input form (.failed stuck)
  | unclosed {opening : Opening} {block closing : Unread} {items : List Node}
      (within : closing.text.length ≤ block.text.length) :
      form.read locate input = some (.opening opening, block) →
      readLevel orders locate (depth + 1) block = .ok (items, ⟨closing, within⟩) →
      skip '}' locate closing = none →
      Ends orders locate depth input form (.failed closing)
  | ruleset {opening : Opening} {block closing rest : Unread} {items : List Node}
      (within : closing.text.length ≤ block.text.length)
      (shorter : rest.text.length < input.text.length) :
      form.read locate input = some (.opening opening, block) →
      readLevel orders locate (depth + 1) block = .ok (items, ⟨closing, within⟩) →
      closing.text = '}' :: rest.text →
      Ends orders locate depth input form (.read (opening.close items) rest shorter)

section Attempts

variable {orders : Nat → List Form} {locate : Locator} {depth : Nat} {input : Unread} {form : Form}

/-- No form reads anything exactly if all attempts decline. -/
theorem Attempt.first_eq_declined_iff {attempts : List (Attempt input)} :
    Attempt.first attempts = .declined ↔ ∀ ended ∈ attempts, ended = .declined := by
  fun_induction Attempt.first attempts with
  | case1 => simp
  | case2 more ih => simp [ih]
  | case3 ended more goesOn =>
      exact ⟨fun same => absurd same goesOn, fun each => each ended List.mem_cons_self⟩

theorem Attempt.first_mem {attempts : List (Attempt input)}
    (ended : Attempt.first attempts ≠ .declined) : Attempt.first attempts ∈ attempts := by
  fun_induction Attempt.first attempts with
  | case1 => contradiction
  | case2 more ih => exact List.mem_cons_of_mem _ (ih ended)
  | case3 => exact List.mem_cons_self

/-- The cases that an attempt runs into, with what was read in each. -/
theorem attemptAt_ends (orders : Nat → List Form) (locate : Locator) (depth : Nat) (input : Unread)
    (form : Form) :
    Ends orders locate depth input form (attemptAt orders locate depth input form) := by
  unfold attemptAt Form.attempt
  split
  · next taken => exact .declined taken
  · next taken => exact .item _ taken
  · next taken =>
      dsimp only
      split
      · next level => exact .failsInside taken level
      · next within level =>
          split
          · next closed => exact .unclosed within taken level closed
          · next closed => exact .ruleset within _ taken level (skip_eq_some_iff.1 closed)

/-- An attempt declines exactly if the form does not read the text, not even as an opening. -/
theorem attemptAt_eq_declined_iff :
    attemptAt orders locate depth input form = .declined ↔ form.read locate input = none := by
  have ends := attemptAt_ends orders locate depth input form
  generalize attemptAt orders locate depth input form = ended at ends
  cases ends <;> simp_all

/-- At most one form does not decline. -/
theorem attempt_unique {other : Form}
    (first : attemptAt orders locate depth input form ≠ .declined)
    (second : attemptAt orders locate depth input other ≠ .declined) : form = other := by
  rw [ne_eq, attemptAt_eq_declined_iff, ← ne_eq, Option.ne_none_iff_exists'] at first second
  obtain ⟨taken, reads⟩ := first
  obtain ⟨taken', reads'⟩ := second
  exact read_unique reads reads'

/-- A level is read by the first attempts that do not decline. -/
theorem readLevel_eq :
    readLevel orders locate depth input =
      match Attempt.first ((orders depth).map (attemptAt orders locate depth input)) with
      | .declined => .ok ([], ⟨input, Nat.le_refl _⟩)
      | .failed stuck => .error stuck
      | .read node rest shorter => do
          let (items, ⟨behind, within⟩) ← readLevel orders locate depth rest
          return (node :: items, ⟨behind, by omega⟩) := by
  rw [readLevel]
  rfl

/-- The first attempt that does not decline is the attempt at one of the forms. -/
theorem exists_ends_of_first {forms : List Form} {ended : Attempt input}
    (first : Attempt.first (forms.map (attemptAt orders locate depth input)) = ended)
    (undeclined : ended ≠ .declined) : ∃ form, Ends orders locate depth input form ended := by
  have member := Attempt.first_mem (ne_of_eq_of_ne first undeclined)
  rw [first] at member
  obtain ⟨form, _, rfl⟩ := List.mem_map.1 member
  exact ⟨form, attemptAt_ends orders locate depth input form⟩

/-- The three ways to read a level: nothing is read there, or one attempt fails, or one attempt
reads an item and the level goes on behind it. -/
theorem readLevel_cases (complete : ∀ depth form, form ∈ orders depth) :
    (∀ form : Form, form.read locate input = none) ∧
        readLevel orders locate depth input = .ok ([], ⟨input, Nat.le_refl _⟩) ∨
    (∃ form stuck, Ends orders locate depth input form (.failed stuck) ∧
        readLevel orders locate depth input = .error stuck) ∨
    ∃ form node rest shorter, Ends orders locate depth input form (.read node rest shorter) ∧
        readLevel orders locate depth input = (do
          let (items, ⟨behind, within⟩) ← readLevel orders locate depth rest
          return (node :: items, ⟨behind, by omega⟩)) := by
  rw [readLevel_eq]
  cases first : Attempt.first ((orders depth).map (attemptAt orders locate depth input)) with
  | declined =>
      refine .inl ⟨fun form => ?_, rfl⟩
      rw [← attemptAt_eq_declined_iff]
      exact Attempt.first_eq_declined_iff.1 first _ (List.mem_map_of_mem (complete depth form))
  | failed stuck =>
      obtain ⟨form, ends⟩ := exists_ends_of_first first nofun
      exact .inr (.inl ⟨form, stuck, ends, rfl⟩)
  | read node rest shorter =>
      obtain ⟨form, ends⟩ := exists_ends_of_first first nofun
      exact .inr (.inr ⟨form, node, rest, shorter, ends, rfl⟩)

end Attempts

section Runs

variable {orders : Nat → List Form} {forms : List Form} {locate : Locator}

/-- Behind a level nothing more is read. -/
theorem read_eq_none_of_readLevel (complete : ∀ depth form, form ∈ orders depth) {depth : Nat}
    {input : Unread} {items : List Node}
    {rest : { rest : Unread // rest.text.length ≤ input.text.length }}
    (level : readLevel orders locate depth input = .ok (items, rest)) (form : Form) :
    form.read locate rest.1 = none := by
  rcases readLevel_cases complete with ⟨declined, same⟩ | ⟨_, stuck, _, same⟩ |
    ⟨_, node, between, shorter, _, same⟩
  · obtain ⟨_, rfl⟩ := Prod.mk.injEq .. ▸ Except.ok.injEq .. ▸ level.symm.trans same
    exact declined form
  · rw [level] at same
    contradiction
  · rw [level] at same
    cases later : readLevel orders locate depth between with
    | error stuck =>
        rw [later] at same
        contradiction
    | ok found =>
        rw [later] at same
        obtain ⟨_, rfl⟩ := Prod.mk.injEq .. ▸ Except.ok.injEq .. ▸ same
        exact read_eq_none_of_readLevel complete later form
termination_by input.text.length

/-- If every form is tried, a level ends only where no form reads anything. -/
theorem piece_eq_none_of_readLevel (complete : ∀ depth form, form ∈ orders depth) {depth : Nat}
    {input : Unread} {items : List Node}
    {rest : { rest : Unread // rest.text.length ≤ input.text.length }}
    (level : readLevel orders locate depth input = .ok (items, rest)) :
    piece forms locate rest.1 = none :=
  piece_eq_none_iff_forall_mem.2 fun form _ => read_eq_none_of_readLevel complete level form

/-- The loop goes through a level as reading by descent does, whatever is open around it and
whatever the orders in which the forms are tried. -/
theorem readItems_eq_readLevel_bind (complete : ∀ depth form, form ∈ orders depth)
    (listed : ∀ form, form ∈ forms) (depth : Nat) (frames : List Frame) (items : Array Node)
    (input : Unread) :
    readItems forms locate frames items input =
      readLevel orders locate depth input >>= fun level =>
        readItems forms locate frames (items ++ level.1.toArray) level.2.1 := by
  have reads {form : Form} {found : Piece} {rest : Unread}
      (read : form.read locate input = some (found, rest)) :
      piece forms locate input = some (found, rest) :=
    piece_eq_some_iff.2 ⟨form, listed form, read⟩
  -- The items of a block are a level off a shorter text, with one more ruleset open.
  have into {form : Form} {opening : Opening} {block : Unread}
      (opened : form.read locate input = some (.opening opening, block)) :
      readItems forms locate frames items input =
        readLevel orders locate (depth + 1) block >>= fun level =>
          readItems forms locate (⟨items, opening⟩ :: frames) (#[] ++ level.1.toArray)
            level.2.1 := by
    have shorter := advances_read form opened
    rw [readItems_opening (reads opened)]
    exact readItems_eq_readLevel_bind complete listed (depth + 1) _ _ block
  rcases readLevel_cases complete with ⟨_, same⟩ | ⟨form, stuck, ends, same⟩ |
    ⟨form, node, between, shorter, ends, same⟩
  · rw [same]
    change _ = readItems forms locate frames (items ++ #[]) input
    rw [Array.append_empty]
  · rw [same]
    cases ends with
    | failsInside opened inside =>
        rw [into opened, inside]
        rfl
    | unclosed within opened inside unclosed =>
        rw [into opened, inside]
        exact readItems_stuck (piece_eq_none_of_readLevel complete inside) unclosed
  · -- Behind the item the level goes on, off a shorter text again.
    have behind : readItems forms locate frames (items.push node) between =
        readLevel orders locate depth input >>= fun level =>
          readItems forms locate frames (items ++ level.1.toArray) level.2.1 := by
      rw [same, readItems_eq_readLevel_bind complete listed depth]
      cases readLevel orders locate depth between with
      | error stuck => rfl
      | ok level =>
          change _ = readItems forms locate frames (items ++ (node :: level.1).toArray) level.2.1
          rw [List.toArray_cons, ← Array.append_assoc, Array.append_singleton]
          rfl
    cases ends with
    | item _ read => rw [readItems_item (reads read), behind]
    | ruleset within _ opened inside closes =>
        rw [into opened, inside, ← behind]
        change readItems forms locate (_ :: frames) (#[] ++ _) _ = _
        rw [readItems_close (piece_eq_none_of_readLevel complete inside) closes,
          Array.empty_append]
        rfl
termination_by input.text.length

/-- Reading by descent gives the tree or the error that the loop gives. -/
theorem readByDescent_eq_readStylesheet (complete : ∀ depth form, form ∈ orders depth)
    (listed : ∀ form, form ∈ forms) (source : List Char) :
    readByDescent orders source = readStylesheet forms source := by
  unfold readByDescent readStylesheet
  dsimp only
  rw [readItems_eq_readLevel_bind complete listed 0]
  generalize (LineIndex.ofSource source).position = locate
  cases level : readLevel orders locate 0 (.ofList source) with
  | error stuck => rfl
  | ok found =>
      obtain ⟨items, rest, within⟩ := found
      have read : (Except.ok (items, ⟨rest, within⟩) : Level (.ofList source)) >>= (fun level =>
          readItems forms locate [] (#[] ++ level.1.toArray) level.2.1) =
          if rest.text.isEmpty then .ok items.toArray else .error rest := by
        change readItems forms locate [] (#[] ++ items.toArray) rest = _
        rw [Array.empty_append, readItems_outermost (piece_eq_none_of_readLevel complete level)]
      rw [read]
      dsimp only
      split <;> rfl

end Runs

/-- On every text at most one form does not decline: the others leave it to be tried, whether that
one reads an item or fails inside a ruleset. So reading by descent gives the same tree or the same
error for every order of the forms, which may differ from depth to depth, and so does the loop. -/
theorem forms_may_be_tried_in_any_order :
    (∀ orders locate depth input form other,
      attemptAt orders locate depth input form ≠ .declined →
      attemptAt orders locate depth input other ≠ .declined → form = other) ∧
    ∀ orders : Nat → List Form, (∀ depth, (orders depth).Perm Form.all) → ∀ source : String,
      readByDescent orders source.toList = Node.ofSource source ∧
      ∀ depth, readStylesheet (orders depth) source.toList = Node.ofSource source := by
  refine ⟨fun _ _ _ _ _ _ first second => attempt_unique first second, ?_⟩
  intro orders permuted source
  have complete (depth : Nat) (form : Form) : form ∈ orders depth :=
    (permuted depth).mem_iff.2 form.mem_all
  have descent := readByDescent_eq_readStylesheet complete Form.mem_all source.toList
  refine ⟨descent, fun depth => ?_⟩
  rw [← readByDescent_eq_readStylesheet complete (complete depth)]
  exact descent

/-- Rulesets first at the even depths and last at the odd ones. -/
def alternating (depth : Nat) : List Form :=
  if depth % 2 = 0 then [.ruleset, .delimiter, .comment, .declaration, .space]
  else [.comment, .declaration, .space, .delimiter, .ruleset]

/-- A declaration and a ruleset that start alike, and a ruleset that does not end. -/
def likeStarts : String := "a : b; a \x7b a : 1; a \x7b"

/-- Under an order that changes with the depth, a ruleset that does not end is reported at the
end of the source, and only the form of rulesets does not decline it. -/
theorem forms_may_be_tried_in_any_order_likeStarts :
    (∀ depth, (alternating depth).Perm Form.all) ∧
    readByDescent alternating likeStarts.toList = .error ⟨⟨1, 22⟩, ""⟩ ∧
    attemptAt alternating (LineIndex.ofSource likeStarts.toList).position 1
      (.ofList "a \x7b".toList) .ruleset ≠ .declined ∧
    attemptAt alternating (LineIndex.ofSource likeStarts.toList).position 1
      (.ofList "a \x7b".toList) .declaration = .declined := by
  have permuted (depth : Nat) : (alternating depth).Perm Form.all := by
    unfold alternating
    split <;> decide
  have opened : attemptAt alternating (LineIndex.ofSource likeStarts.toList).position 1
      (.ofList "a \x7b".toList) .ruleset ≠ .declined := by
    rw [ne_eq, attemptAt_eq_declined_iff, ← ne_eq, ← Option.isSome_iff_ne_none]
    decide +kernel
  refine ⟨permuted, ?_, opened, ?_⟩
  · rw [(forms_may_be_tried_in_any_order.2 alternating permuted likeStarts).1]
    decide +kernel
  · by_contra undeclined
    exact absurd (forms_may_be_tried_in_any_order.1 _ _ _ _ _ _ opened undeclined) (by decide)

end NestedStyles.Source
