import Mathlib.Data.List.Infix
import NestedStyles.Proofs.Source.ReadingBack

/-!
# Where reading gets stuck

Reading takes complete items, and openings of rulesets with complete items behind each.
It gets stuck where no form of item is read, and the innermost ruleset is not closed or, with
none open, the text does not end. Whatever the text, reading comes to where nothing more is
read (`exists_descends`), and the loop with its stack is there too
(`Descends.exists_readItems`). Main statement: reading fails exactly if it gets stuck, at one
place only, and the error points at that place and shows the line behind it.
-/

namespace NestedStyles

namespace Source

/-- Complete items are taken off the input, one behind the other. -/
inductive ReadsItems (locate : Locator) : Unread → Unread → Prop where
  | nil (input : Unread) : ReadsItems locate input input
  | item {form : Form} {node : Node} {input between rest : Unread} :
      form.read locate input = some (.item node, between) →
      ReadsItems locate between rest → ReadsItems locate input rest
  | ruleset {found : Opening} {input block closing between rest : Unread} :
      opening locate input = some (found, block) → ReadsItems locate block closing →
      closing.text = '}' :: between.text → ReadsItems locate between rest →
      ReadsItems locate input rest

/-- Complete items are taken off the input, and then as many openings as the depth says, each
with complete items behind it. -/
inductive Descends (locate : Locator) : Nat → Unread → Unread → Prop where
  | level {input rest : Unread} : ReadsItems locate input rest → Descends locate 0 input rest
  | into {found : Opening} {depth : Nat} {input between block rest : Unread} :
      ReadsItems locate input between → opening locate between = some (found, block) →
      Descends locate depth block rest → Descends locate (depth + 1) input rest

/-- A place in a source where reading cannot go on, with so many rulesets open. -/
structure StuckAt (source before rest : List Char) (opened : Nat) : Prop where
  split : before ++ rest = source
  descends : Descends (LineIndex.ofSource source).position opened (.ofList source) (.ofList rest)
  unreadable : ∀ form : Form, form.read (LineIndex.ofSource source).position (.ofList rest) = none
  unclosed : 0 < opened → rest.head? ≠ some '}'
  unfinished : opened = 0 → rest ≠ []

section Runs

variable {locate : Locator} {depth : Nat} {input between block rest : Unread} {found : Opening}

theorem readItems_of_item {form : Form} {node : Node} {frames : List Frame} {items : Array Node}
    (read : form.read locate input = some (.item node, rest)) :
    readItems Form.all locate frames items input =
      readItems Form.all locate frames (items.push node) rest :=
  readItems_item (piece_eq_some_iff.2 ⟨form, form.mem_all, read⟩)

theorem readItems_of_opening {frames : List Frame} {items : Array Node}
    (read : opening locate input = some (found, rest)) :
    readItems Form.all locate frames items input =
      readItems Form.all locate (⟨items, found⟩ :: frames) #[] rest :=
  readItems_opening (piece_eq_some_iff.2
    ⟨.ruleset, Form.mem_all _, read_opening_iff.2 ⟨rfl, read⟩⟩)

theorem piece_eq_none_of_closing (closes : input.text = '}' :: rest.text) :
    piece Form.all locate input = none := by
  rw [← input.ofList_text, closes]
  exact Closes.piece_eq_none (.inr ⟨rest.text, rfl⟩) locate

/-- The loop goes through complete items and leaves the open rulesets as they are. -/
theorem ReadsItems.exists_readItems (reads : ReadsItems locate input rest) (frames : List Frame)
    (items : Array Node) :
    ∃ items', readItems Form.all locate frames items input =
      readItems Form.all locate frames items' rest := by
  induction reads generalizing frames items with
  | nil input => exact ⟨items, rfl⟩
  | item read _ ih =>
      rw [readItems_of_item read]
      exact ih frames _
  | ruleset opened _ closes _ inside behind =>
      obtain ⟨inner, taken⟩ := inside (⟨items, _⟩ :: frames) #[]
      rw [readItems_of_opening opened, taken,
        readItems_close (piece_eq_none_of_closing closes) closes]
      exact behind frames _

/-- The loop has one more ruleset open for every opening that it passes. -/
theorem Descends.exists_readItems (descends : Descends locate depth input rest)
    (frames : List Frame) (items : Array Node) :
    ∃ frames' items', frames'.length = frames.length + depth ∧
      readItems Form.all locate frames items input =
        readItems Form.all locate frames' items' rest := by
  induction descends generalizing frames items with
  | level reads =>
      obtain ⟨items', same⟩ := reads.exists_readItems frames items
      exact ⟨frames, items', rfl, same⟩
  | @into found depth input between block rest reads opened _ ih =>
      obtain ⟨items', same⟩ := reads.exists_readItems frames items
      obtain ⟨frames', inner, deeper, taken⟩ := ih (⟨items', found⟩ :: frames) #[]
      refine ⟨frames', inner, ?_, ?_⟩
      · rw [deeper, List.length_cons]
        omega
      · rw [same, readItems_of_opening opened, taken]

/-- The loop fails where nothing is read and the level does not end. -/
theorem readItems_eq_error {frames : List Frame} {items : Array Node}
    (unreadable : ∀ form : Form, form.read locate rest = none)
    (unclosed : 0 < frames.length → rest.text.head? ≠ some '}')
    (unfinished : frames.length = 0 → rest.text ≠ []) :
    readItems Form.all locate frames items rest = .error rest := by
  have declined := piece_eq_none_iff.2 unreadable
  cases frames with
  | nil =>
      rw [readItems_outermost declined, if_neg]
      rw [List.isEmpty_iff]
      exact unfinished rfl
  | cons frame frames =>
      apply readItems_stuck declined
      cases closed : skip '}' locate rest with
      | none => rfl
      | some behind =>
          have closes := skip_eq_some_iff.1 closed
          rw [closes] at unclosed
          exact absurd rfl (unclosed (Nat.succ_pos _))

end Runs

section Progress

variable {locate : Locator} {depth : Nat} {input between block closing rest : Unread}
  {found : Opening}

/-- An item may stand in front of what a descent reads. -/
theorem Descends.item {form : Form} {node : Node}
    (read : form.read locate input = some (.item node, between))
    (descends : Descends locate depth between rest) : Descends locate depth input rest := by
  cases descends with
  | level reads => exact .level (.item read reads)
  | into reads opened inside => exact .into (.item read reads) opened inside

/-- A complete ruleset may stand in front of what a descent reads. -/
theorem Descends.ruleset (opened : opening locate input = some (found, block))
    (inside : ReadsItems locate block closing) (closes : closing.text = '}' :: between.text)
    (descends : Descends locate depth between rest) : Descends locate depth input rest := by
  cases descends with
  | level reads => exact .level (.ruleset opened inside closes reads)
  | into reads further deeper => exact .into (.ruleset opened inside closes reads) further deeper

theorem isSuffix_of_opening (opened : opening locate input = some (found, block)) :
    block.text <:+ input.text := by
  obtain ⟨_, _, _, brace, mirrors, starts, _⟩ := taken_opening opened
  rw [mirrors.text, starts]
  exact (List.suffix_cons _ _).trans (List.suffix_append _ _)

theorem ReadsItems.isSuffix (reads : ReadsItems locate input rest) :
    rest.text <:+ input.text := by
  induction reads with
  | nil input => exact List.suffix_rfl
  | item read _ ih =>
      apply ih.trans
      rw [(taken_item read).mirrors.text]
      exact List.suffix_append _ _
  | ruleset opened _ closes _ inside behind =>
      rw [closes] at inside
      apply behind.trans
      exact ((List.suffix_cons _ _).trans inside).trans (isSuffix_of_opening opened)

theorem Descends.isSuffix (descends : Descends locate depth input rest) :
    rest.text <:+ input.text := by
  induction descends with
  | level reads => exact reads.isSuffix
  | into reads opened _ ih => exact (ih.trans (isSuffix_of_opening opened)).trans reads.isSuffix

/-- Reading comes to where nothing more is read, and no closing brace goes on with the
innermost ruleset that is open. -/
theorem exists_descends (locate : Locator) (input : Unread) :
    ∃ depth rest, Descends locate depth input rest ∧
      (∀ form : Form, form.read locate rest = none) ∧
      (0 < depth → rest.text.head? ≠ some '}') := by
  -- Behind a ruleset reading goes on where the block ends, so the induction is on the length.
  induction length : input.text.length using Nat.strong_induction_on generalizing input with
  | _ n ih =>
      subst length
      rcases read : piece Form.all locate input with _ | ⟨node | found, between⟩
      · exact ⟨0, input, .level (.nil input), piece_eq_none_iff.1 read,
          fun deep => absurd deep (Nat.lt_irrefl 0)⟩
      · obtain ⟨form, _, reads⟩ := exists_form_of_piece read
        obtain ⟨depth, rest, descends, stuck⟩ := ih _ (advances_piece _ read) between rfl
        exact ⟨depth, rest, descends.item reads, stuck⟩
      · obtain ⟨form, _, reads⟩ := exists_form_of_piece read
        have opened := (read_opening_iff.1 reads).2
        have shorter := advances_opening opened
        obtain ⟨depth, closing, descends, unreadable, unclosed⟩ := ih _ shorter between rfl
        by_cases closes : depth = 0 ∧ closing.text.head? = some '}'
        · obtain ⟨rfl, brace⟩ := closes
          obtain ⟨behind, closes⟩ := List.head?_eq_some_iff.1 brace
          obtain ⟨inside⟩ := descends
          have nearer := inside.isSuffix.length_le
          rw [closes, List.length_cons] at nearer
          obtain ⟨depth, rest, descends, stuck⟩ := ih behind.length (by omega) (.ofList behind) rfl
          exact ⟨depth, rest, descends.ruleset opened inside closes, stuck⟩
        · refine ⟨depth + 1, closing, .into (.nil input) opened descends, unreadable, fun _ => ?_⟩
          intro brace
          by_cases flat : depth = 0
          · exact closes ⟨flat, brace⟩
          · exact unclosed (Nat.pos_of_ne_zero flat) brace

end Progress

section Lines

variable {c : Char} {line text : List Char}

/-- The first line of a text, which goes to its end, to a carriage return with a line feed, or
to a line feed alone. -/
def IsFirstLine (line text : List Char) : Prop :=
  '\n' ∉ line ∧
    (text = line ∨ (∃ tail, text = line ++ '\r' :: '\n' :: tail) ∨
      line.getLast? ≠ some '\r' ∧ ∃ tail, text = line ++ '\n' :: tail)

/-- A character goes on with the line unless a line ending starts there. -/
theorem firstLine_cons (goesOn : c ≠ '\n') (unbroken : c = '\r' → text.head? ≠ some '\n') :
    firstLine (c :: text) = c :: firstLine text := by
  apply firstLine.eq_4
  · exact goesOn
  · rintro tail rfl rfl
    exact unbroken rfl rfl

/-- The line that is reported is the first one. -/
theorem isFirstLine_firstLine (text : List Char) : IsFirstLine (firstLine text) text := by
  fun_induction firstLine text with
  | case1 => exact ⟨List.not_mem_nil, .inl rfl⟩
  | case2 rest => exact ⟨List.not_mem_nil, .inr (.inr ⟨by simp, rest, rfl⟩)⟩
  | case3 rest => exact ⟨List.not_mem_nil, .inr (.inl ⟨rest, rfl⟩)⟩
  | case4 c rest goesOn unbroken ih =>
      obtain ⟨single, ends⟩ := ih
      refine ⟨?_, ?_⟩
      · rw [List.mem_cons, not_or]
        exact ⟨Ne.symm goesOn, single⟩
      · rcases ends with whole | ⟨tail, broken⟩ | ⟨plain, tail, broken⟩
        · exact .inl (congrArg (c :: ·) whole)
        · exact .inr (.inl ⟨tail, congrArg (c :: ·) broken⟩)
        · refine .inr (.inr ⟨?_, tail, congrArg (c :: ·) broken⟩)
          cases line : firstLine rest with
          | nil =>
              rw [line] at broken
              intro last
              exact unbroken tail (Option.some.inj last) broken
          | cons first more =>
              rw [List.getLast?_cons_cons, ← line]
              exact plain

/-- A text has only one first line: the line feed that ends it is the first one, and a carriage
return in front of that one never belongs to it. -/
theorem IsFirstLine.eq_firstLine (isFirst : IsFirstLine line text) : line = firstLine text := by
  induction line generalizing text with
  | nil =>
      obtain ⟨_, rfl | ⟨tail, rfl⟩ | ⟨_, tail, rfl⟩⟩ := isFirst
      · rfl
      · rfl
      · rfl
  | cons c line ih =>
      obtain ⟨single, ends⟩ := isFirst
      obtain ⟨goesOn, later⟩ := not_or.1 (List.mem_cons.not.1 single)
      have inside {tail : List Char} (ends : c = '\r' → line = [] → tail.head? ≠ some '\n') :
          c = '\r' → (line ++ tail).head? ≠ some '\n' := by
        intro broken
        cases line with
        | nil => exact ends broken rfl
        | cons first more =>
            intro same
            exact later (Option.some.inj same ▸ List.mem_cons_self)
      rcases ends with rfl | ⟨tail, rfl⟩ | ⟨plain, tail, rfl⟩
      · have unbroken := @inside [] fun _ _ => by simp
        rw [List.append_nil] at unbroken
        rw [firstLine_cons (Ne.symm goesOn) unbroken, ← ih ⟨later, .inl rfl⟩]
      · have unbroken := @inside ('\r' :: '\n' :: tail) fun _ _ => by simp
        rw [List.cons_append, firstLine_cons (Ne.symm goesOn) unbroken,
          ← ih ⟨later, .inr (.inl ⟨tail, rfl⟩)⟩]
      · have unbroken : c = '\r' → (line ++ '\n' :: tail).head? ≠ some '\n' := by
          apply inside
          rintro rfl rfl
          exact absurd rfl plain
        have still : line.getLast? ≠ some '\r' := by
          cases line with
          | nil => simp
          | cons first more => rwa [List.getLast?_cons_cons] at plain
        rw [List.cons_append, firstLine_cons (Ne.symm goesOn) unbroken,
          ← ih ⟨later, .inr (.inr ⟨still, tail, rfl⟩)⟩]

end Lines

section Errors

variable {source : String} {before rest : List Char} {opened : Nat} {error : UnexpectedInput}

/-- The loop stops where reading is stuck. -/
theorem StuckAt.readItems_eq {source : List Char} (stuck : StuckAt source before rest opened) :
    readItems Form.all (LineIndex.ofSource source).position [] #[] (.ofList source) =
      .error (.ofList rest) := by
  obtain ⟨frames, items, depth, same⟩ := stuck.descends.exists_readItems [] #[]
  rw [List.length_nil, Nat.zero_add] at depth
  rw [same]
  exact readItems_eq_error stuck.unreadable (depth ▸ stuck.unclosed) (depth ▸ stuck.unfinished)

/-- Reading gets stuck in one place only: both rests are the one with which it fails. -/
theorem StuckAt.unique {source before' rest' : List Char} {opened' : Nat}
    (first : StuckAt source before rest opened) (second : StuckAt source before' rest' opened') :
    before = before' ∧ rest = rest' := by
  have same := first.readItems_eq.symm.trans second.readItems_eq
  obtain rfl : rest = rest' := congrArg Unread.text (Except.error.inj same)
  exact ⟨List.append_cancel_right (first.split.trans second.split.symm), rfl⟩

/-- The error points at the place where reading is stuck. -/
theorem StuckAt.ofSource_eq (stuck : StuckAt source.toList before rest opened) :
    Node.ofSource source =
      .error ⟨.behind before, String.ofList ((firstLine rest).take shownLength)⟩ := by
  have position : (LineIndex.ofSource source.toList).position (.ofList rest) = .behind before := by
    rw [← stuck.split]
    exact LineIndex.position_ofSource before rest
  unfold Node.ofSource readStylesheet
  dsimp only
  rw [stuck.readItems_eq, ← position]
  rfl

/-- A source that cannot be read has a place where reading is stuck. -/
theorem exists_stuckAt (failed : Node.ofSource source = .error error) :
    ∃ before rest opened, StuckAt source.toList before rest opened := by
  obtain ⟨opened, rest, descends, unreadable, unclosed⟩ :=
    exists_descends (LineIndex.ofSource source.toList).position (.ofList source.toList)
  obtain ⟨before, split⟩ := descends.isSuffix
  rw [← rest.ofList_text] at descends unreadable
  refine ⟨before, rest.text, opened, split, descends, unreadable, unclosed, ?_⟩
  rintro rfl ended
  -- With no ruleset open at the end of the text, the loop would have succeeded.
  obtain ⟨frames, items, depth, same⟩ := descends.exists_readItems [] #[]
  obtain rfl := List.eq_nil_of_length_eq_zero depth
  rw [readItems_outermost (piece_eq_none_iff.2 unreadable), Unread.text_ofList, ended] at same
  unfold Node.ofSource readStylesheet at failed
  dsimp only at failed
  rw [same] at failed
  cases failed

theorem stops_isBlank_of_unreadable {locate : Locator} {input : Unread}
    (unreadable : Form.space.read locate input = none) : Stops isBlank input.text := by
  have refused : space locate input = none := by
    rw [Option.eq_none_iff_forall_ne_some] at unreadable ⊢
    intro taken read
    exact unreadable (.item taken.1, taken.2) (map_item_eq_some_iff.2 read)
  exact splitWord_eq_none_iff.1 (leaf_eq_none_iff.1 refused)

/-- Behind the place where reading is stuck there is a line to show, unless the source ends
there. -/
theorem StuckAt.firstLine_eq_nil_iff {source : List Char}
    (stuck : StuckAt source before rest opened) : firstLine rest = [] ↔ rest = [] := by
  have solid : Stops isBlank rest := stops_isBlank_of_unreadable (stuck.unreadable .space)
  cases rest with
  | nil => exact Iff.rfl
  | cons c tail =>
      rw [stops_cons] at solid
      have noFeed : c ≠ '\n' := by
        rintro rfl
        cases solid
      have noReturn : c ≠ '\r' := by
        rintro rfl
        cases solid
      rw [firstLine_cons noFeed fun same => absurd same noReturn]
      simp

end Errors

end Source

namespace Node

open Source

/-- Reading fails exactly if it gets stuck. The place is unique, and the error gives its line
and column and shows the line behind it, up to 24 characters. Nothing is shown exactly if the
source ends with a ruleset open. -/
theorem ofSource_fails_where_stuck (source : String) :
    (∀ error, ofSource source = .error error ↔
      ∃ before rest opened, StuckAt source.toList before rest opened ∧
        error.position = .behind before ∧
        ∃ line, IsFirstLine line rest ∧ error.found = String.ofList (line.take 24)) ∧
    (∀ before rest opened before' rest' opened',
      StuckAt source.toList before rest opened → StuckAt source.toList before' rest' opened' →
        before = before' ∧ rest = rest') ∧
    ∀ error before rest opened, ofSource source = .error error →
      StuckAt source.toList before rest opened →
        (error.found = "" ↔ rest = [] ∧ 0 < opened) := by
  refine ⟨?_, ?_, ?_⟩
  · intro error
    constructor
    · intro failed
      obtain ⟨before, rest, opened, stuck⟩ := exists_stuckAt failed
      obtain rfl := Except.error.inj (failed.symm.trans stuck.ofSource_eq)
      exact ⟨before, rest, opened, stuck, rfl, firstLine rest, isFirstLine_firstLine rest, rfl⟩
    · rintro ⟨before, rest, opened, stuck, position, line, isFirst, found⟩
      obtain rfl := isFirst.eq_firstLine
      obtain ⟨_, _⟩ := error
      cases position
      cases found
      exact stuck.ofSource_eq
  · intro before rest opened before' rest' opened' first second
    exact first.unique second
  · intro error before rest opened failed stuck
    obtain rfl := Except.error.inj (failed.symm.trans stuck.ofSource_eq)
    have shown : String.ofList ((firstLine rest).take shownLength) = "" ↔ firstLine rest = [] := by
      rw [← String.ofList_nil, String.ofList_inj, List.take_eq_nil_iff]
      exact or_iff_right (by decide)
    rw [shown, stuck.firstLine_eq_nil_iff]
    refine ⟨fun ended => ⟨ended, ?_⟩, And.left⟩
    exact Nat.pos_of_ne_zero fun flat => stuck.unfinished flat ended

/-- A ruleset in a ruleset, with a line that is no item. -/
def strayWords : String := ".a\x7b\n .b\x7bé:1;\r\n  c d\r\n\x7d\x7d"

/-- Two words that are no item, on the third line and inside two rulesets. -/
theorem ofSource_fails_where_stuck_strayWords :
    ofSource strayWords = .error ⟨⟨3, 3⟩, "c d"⟩ ∧
      ∃ opened, StuckAt strayWords.toList ".a\x7b\n .b\x7bé:1;\r\n  ".toList
        "c d\r\n\x7d\x7d".toList opened := by
  have failed : ofSource strayWords = .error ⟨⟨3, 3⟩, "c d"⟩ := by decide +kernel
  obtain ⟨before, rest, opened, stuck, position, _⟩ :=
    ((ofSource_fails_where_stuck strayWords).1 _).1 failed
  have only : ∀ before ∈ strayWords.toList.inits, ⟨3, 3⟩ = Position.behind before →
      before = ".a\x7b\n .b\x7bé:1;\r\n  ".toList := by decide +kernel
  obtain rfl := only before ((List.mem_inits _ _).2 ⟨rest, stuck.split⟩) position
  obtain rfl : rest = "c d\r\n\x7d\x7d".toList :=
    List.append_cancel_left (stuck.split.trans (by decide +kernel))
  exact ⟨failed, opened, stuck⟩

end Node

end NestedStyles
