import NestedStyles.Proofs.Program.FromSource
import NestedStyles.Proofs.Table.Overriding

/-!
# Expressible programs

The programs that a source can be written for: each name, value and selector is a text that
the readers accept. For every sort of text there is a node of the grammar with that source
text, and the other way round, so what a tree spells out is expressible unless a node
offends (`isExpressible_of_compiled`).
-/

namespace NestedStyles

namespace Source

/-- A text that a cut takes in full. -/
def Cut.TakesWhole (cut : Cut) (text : String) : Prop :=
  cut.split text.toList = some (text.toList, [])

/-- A number with a unit. -/
def IsDimensionText (text : String) : Prop :=
  ∃ number unit, Cut.number.TakesWhole number ∧ Cut.ident.TakesWhole unit ∧ text = number ++ unit

/-- A name behind the sign of variables. -/
def IsVariableText (text : String) : Prop :=
  ∃ name, (Cut.ident.TakesWhole name ∨ IsDimensionText name) ∧ text = sigil.toString ++ name

/-- The text of a value. An identifier that starts as a number does is none. -/
def IsValueText (text : String) : Prop :=
  IsVariableText text ∨ Cut.number.TakesWhole text ∨ IsDimensionText text ∨
    Cut.ident.TakesWhole text ∧ ¬ StartsNegative text.toList

/-- A type or a class. -/
def IsSelectorText (text : String) : Prop :=
  Cut.ident.TakesWhole text ∨ ∃ name, Cut.ident.TakesWhole name ∧ text = "." ++ name

end Source

open Source

/-- A ruleset that a source can be written for. -/
inductive Ruleset.IsExpressible : Ruleset → Prop where
  | intro {selectors : SelectorGroup} {declarations : Declarations} {nested : List Ruleset} :
      selectors ≠ [] → (∀ selector ∈ selectors, IsSelectorText selector) →
      (∀ entry ∈ declarations.entries, Cut.ident.TakesWhole entry.1 ∧ IsValueText entry.2) →
      (∀ ruleset ∈ nested, IsExpressible ruleset) →
      IsExpressible ⟨selectors, declarations, nested⟩

/-- A program that a source can be written for. The names in a table are distinct by
themselves. -/
structure Program.IsExpressible (program : Program) : Prop where
  definitions : ∀ entry ∈ program.initializer.entries,
    IsVariableText entry.1 ∧ IsValueText entry.2
  rulesets : ∀ ruleset ∈ program.rulesets, ruleset.IsExpressible

namespace Source

section Words

theorem takesWhole_ident_iff {text : String} :
    Cut.ident.TakesWhole text ↔ IsIdentText text.toList := by
  refine splitWord_iff.trans ⟨And.left, fun word => ⟨word, stops_nil _, ?_⟩⟩
  rw [List.append_nil]

theorem takesWhole_number_iff {text : String} :
    Cut.number.TakesWhole text ↔ IsNumberText text.toList := by
  refine ⟨isNumberText_of_splitNumber, fun number => ?_⟩
  have taken := splitNumber_append number (stops_nil _) id
  rwa [List.append_nil] at taken

/-- An identifier that starts as a dimension does is one. -/
theorem isDimensionText_of_startsNegativeDimension {text : String}
    (ident : IsIdentText text.toList) (negative : StartsNegativeDimension text.toList) :
    IsDimensionText text := by
  obtain ⟨digits, c, rest, split, run, starts⟩ := negative
  have number : IsNumberText ('-' :: digits) :=
    ⟨['-'], digits, [], (List.append_nil _).symm, .inr rfl, run, .inl rfl⟩
  have unit : IsIdentText (c :: rest) := by
    refine ⟨starts, fun d member => ?_⟩
    rw [split] at ident
    exact ident.2 d (by simp [member])
  refine ⟨String.ofList ('-' :: digits), String.ofList (c :: rest), ?_, ?_, ?_⟩
  · exact takesWhole_number_iff.2 (by rwa [String.toList_ofList])
  · exact takesWhole_ident_iff.2 (by rwa [String.toList_ofList])
  · rw [← String.ofList_append, ← split, String.ofList_toList]

end Words

section Texts

variable {node : Node} {text : String}

/-- A leaf without marks can hold every text of its sort. -/
theorem exists_leaf_iff {kind : Kind} {texts : List Char → Prop} (unmarked : kind.IsUnmarked) :
    (∃ node, IsLeaf kind texts node ∧ node.sourceText = text) ↔ texts text.toList := by
  have sourceText (text : String) (start : Position) :
      (Node.leaf kind text start).sourceText = text := by
    rw [Node.sourceText, source_leaf unmarked, String.ofList_toList]
  constructor
  · rintro ⟨_, ⟨start, word⟩, rfl⟩
    rwa [sourceText]
  · intro word
    exact ⟨_, .intro .unknown word, sourceText text .unknown⟩

theorem takesWhole_ident_iff_exists :
    Cut.ident.TakesWhole text ↔ ∃ node, IsIdent node ∧ node.sourceText = text :=
  takesWhole_ident_iff.trans (exists_leaf_iff ⟨rfl, rfl⟩).symm

theorem takesWhole_number_iff_exists :
    Cut.number.TakesWhole text ↔ ∃ node, IsNumber node ∧ node.sourceText = text :=
  takesWhole_number_iff.trans (exists_leaf_iff ⟨rfl, rfl⟩).symm

theorem sourceText_dimension (number unit : Node) (start : Position) :
    (Node.branch .dimension [number, unit] start).sourceText =
      number.sourceText ++ unit.sourceText := by
  simp [Node.sourceText_branch, Kind.openingMark, Kind.closingMark]

/-- Dimension texts are the source texts of dimensions. -/
theorem isDimensionText_iff :
    IsDimensionText text ↔ ∃ node, IsDimension node ∧ node.sourceText = text := by
  constructor
  · rintro ⟨_, _, number, unit, rfl⟩
    obtain ⟨_, isNumber, rfl⟩ := takesWhole_number_iff_exists.1 number
    obtain ⟨_, isUnit, rfl⟩ := takesWhole_ident_iff_exists.1 unit
    exact ⟨_, .intro .unknown isNumber isUnit, sourceText_dimension ..⟩
  · rintro ⟨_, ⟨start, isNumber, isUnit⟩, rfl⟩
    exact ⟨_, _, takesWhole_number_iff_exists.2 ⟨_, isNumber, rfl⟩,
      takesWhole_ident_iff_exists.2 ⟨_, isUnit, rfl⟩, sourceText_dimension ..⟩

/-- Variable texts are the source texts of variables. -/
theorem isVariableText_iff :
    IsVariableText text ↔ ∃ node, IsVariable node ∧ node.sourceText = text := by
  have ofDimension {name : String} (dimension : IsDimensionText name) :
      ∃ node, IsVariable node ∧ node.sourceText = sigil.toString ++ name := by
    obtain ⟨_, isDimension, rfl⟩ := isDimensionText_iff.1 dimension
    exact ⟨_, .dimension .unknown isDimension, Node.sourceText_variableName ..⟩
  constructor
  · rintro ⟨name, ident | dimension, rfl⟩
    · have word := takesWhole_ident_iff.1 ident
      -- The reader of variables prefers a dimension to an identifier.
      by_cases negative : StartsNegativeDimension name.toList
      · exact ofDimension (isDimensionText_of_startsNegativeDimension word negative)
      · obtain ⟨_, isIdent, rfl⟩ := (@exists_leaf_iff name .ident
          (fun text => IsIdentText text ∧ ¬ StartsNegativeDimension text) ⟨rfl, rfl⟩).2
            ⟨word, negative⟩
        exact ⟨_, .ident .unknown isIdent, Node.sourceText_variableName ..⟩
    · exact ofDimension dimension
  · rintro ⟨_, @⟨name, start, isDimension⟩ | @⟨name, start, isIdent⟩, rfl⟩
    · exact ⟨_, .inr (isDimensionText_iff.2 ⟨name, isDimension, rfl⟩),
        Node.sourceText_variableName ..⟩
    · have word := ((exists_leaf_iff ⟨rfl, rfl⟩).1 ⟨name, isIdent, rfl⟩).1
      exact ⟨_, .inl (takesWhole_ident_iff.2 word), Node.sourceText_variableName ..⟩

/-- Value texts are the source texts of terms. A term that is an identifier does not start as a
number does, or it would have been read as a number with a unit. -/
theorem isValueText_iff_exists_term :
    IsValueText text ↔ ∃ term, IsTerm term ∧ term.sourceText = text := by
  constructor
  · rintro (isVariable | isNumber | isDimension | ⟨isIdent, plain⟩)
    · obtain ⟨term, isVariable, same⟩ := isVariableText_iff.1 isVariable
      exact ⟨term, .variableName isVariable, same⟩
    · obtain ⟨term, isNumber, same⟩ := takesWhole_number_iff_exists.1 isNumber
      exact ⟨term, .number isNumber, same⟩
    · obtain ⟨term, isDimension, same⟩ := isDimensionText_iff.1 isDimension
      exact ⟨term, .dimension isDimension, same⟩
    · obtain ⟨term, isIdent, same⟩ := (@exists_leaf_iff text .ident
        (fun text => IsIdentText text ∧ ¬ StartsNegative text) ⟨rfl, rfl⟩).2
          ⟨takesWhole_ident_iff.1 isIdent, plain⟩
      exact ⟨term, .ident isIdent, same⟩
  · rintro ⟨term, isTerm, same⟩
    cases isTerm with
    | variableName isVariable => exact .inl (isVariableText_iff.2 ⟨term, isVariable, same⟩)
    | number isNumber => exact .inr (.inl (takesWhole_number_iff_exists.2 ⟨term, isNumber, same⟩))
    | dimension isDimension =>
        exact .inr (.inr (.inl (isDimensionText_iff.2 ⟨term, isDimension, same⟩)))
    | ident isIdent =>
        obtain ⟨word, plain⟩ := (exists_leaf_iff ⟨rfl, rfl⟩).1 ⟨term, isIdent, same⟩
        exact .inr (.inr (.inr ⟨takesWhole_ident_iff.2 word, plain⟩))

/-- Value texts are the source texts of values. -/
theorem isValueText_iff :
    IsValueText text ↔ ∃ node, IsValue node ∧ node.sourceText = text := by
  rw [isValueText_iff_exists_term]
  constructor
  · rintro ⟨term, isTerm, rfl⟩
    exact ⟨_, .intro .unknown isTerm, Node.sourceText_unmarked ⟨rfl, rfl⟩ ..⟩
  · rintro ⟨_, @⟨term, start, isTerm⟩, rfl⟩
    exact ⟨term, isTerm, (Node.sourceText_unmarked ⟨rfl, rfl⟩ ..).symm⟩

end Texts

section Innocent

variable {node : Node} {around : List Kind}

/-- A declaration that may stand inside a block names a property. -/
theorem IsDeclaration.isExpressible (shape : IsDeclaration node)
    (innocent : inspect (node.sites (.block :: around)) = .ok ()) :
    Cut.ident.TakesWhole node.spelledDeclaration.1 ∧ IsValueText node.spelledDeclaration.2 := by
  obtain ⟨property, value, declares⟩ := shape.exists_declares
  have harmless : ¬ Site.Offends ⟨.block :: around, node⟩ :=
    inspect_eq_ok_iff.1 innocent _ (node.mem_sites_self _)
  rw [declares.inspected _ harmless] at innocent
  rw [declares.spelled]
  refine ⟨?_, isValueText_iff.2 ⟨value, declares.isValue, rfl⟩⟩
  have taken := declares.isProperty.propertyText_eq around
  rw [vet_of_ok innocent] at taken
  cases declares.isProperty with
  | variableName start isVariable => cases isVariable <;> cases taken
  | @ident name start isIdent =>
      rw [Node.sourceText_unmarked ⟨rfl, rfl⟩]
      exact takesWhole_ident_iff_exists.2 ⟨name, isIdent, rfl⟩

/-- A declaration that may stand at the top level names a variable. -/
theorem IsDeclaration.isExpressible_definition (shape : IsDeclaration node)
    (innocent : inspect (node.sites [.stylesheet]) = .ok ()) :
    IsVariableText node.spelledDeclaration.1 ∧ IsValueText node.spelledDeclaration.2 := by
  obtain ⟨property, value, declares⟩ := shape.exists_declares
  have harmless : ¬ Site.Offends ⟨[.stylesheet], node⟩ :=
    inspect_eq_ok_iff.1 innocent _ (node.mem_sites_self _)
  rw [declares.spelled]
  refine ⟨?_, isValueText_iff.2 ⟨value, declares.isValue, rfl⟩⟩
  have names := declares.names
  cases declares.isProperty with
  | @variableName name start isVariable =>
      rw [Node.sourceText_unmarked ⟨rfl, rfl⟩]
      exact isVariableText_iff.2 ⟨name, isVariable, rfl⟩
  | @ident name start isIdent =>
      have plain : node.NamesPlainProperty := by
        rw [Node.NamesPlainProperty, names]
        refine ⟨_, List.mem_singleton_self _, name, List.mem_singleton_self _, ?_⟩
        cases isIdent
        rfl
      exact absurd (.inr (.inr (.inr ⟨declares.kind, rfl, plain⟩))) harmless

/-- A simple selector that does not offend is no id, so its text is that of a type or a
class. -/
theorem IsSimpleSelector.isSelectorText (shape : IsSimpleSelector node)
    (innocent : inspect (node.sites around) = .ok ()) : IsSelectorText node.sourceText := by
  cases shape with
  | @ofClass name start isIdent =>
      exact .inr ⟨_, takesWhole_ident_iff_exists.2 ⟨name, isIdent, rfl⟩,
        Node.sourceText_classSelector ..⟩
  | ofId start isIdent =>
      have harmless := inspect_eq_ok_iff.1 innocent _ (Node.mem_sites_self ..)
      exact absurd (.inr (.inl rfl)) harmless
  | @ofType name start isIdent =>
      rw [Node.sourceText_unmarked ⟨rfl, rfl⟩]
      exact .inl (takesWhole_ident_iff_exists.2 ⟨name, isIdent, rfl⟩)

/-- The alternatives among the parts of a selector are its simple selectors. -/
theorem IsSelectorPart.isSimpleSelector (part : IsSelectorPart node)
    (alternative : node.IsAlternative) : IsSimpleSelector node := by
  cases part with
  | space isSpace =>
      cases isSpace
      simp [Node.IsAlternative, Node.kind] at alternative
  | comma isComma =>
      cases isComma
      simp [Node.IsAlternative, Node.kind] at alternative
  | simple isSimple => exact isSimple

/-- The alternatives of a selector that may stand in a ruleset are types and classes. -/
theorem IsSelector.isExpressible (shape : IsSelector node)
    (innocent : inspect (node.sites around) = .ok ()) :
    let selectors := (node.children.filter (·.IsAlternative)).map Node.sourceText
    selectors ≠ [] ∧ ∀ selector ∈ selectors, IsSelectorText selector := by
  have areParts := shape.areParts
  obtain @⟨first, others, start, isSimple, _⟩ := shape
  rw [Node.inspect_branch (by decide), Node.inspect_sitesAll_eq_ok_iff] at innocent
  refine ⟨?_, ?_⟩
  · rw [Node.children, isSimple.filter_cons]
    exact List.cons_ne_nil _ _
  · intro selector member
    obtain ⟨part, present, rfl⟩ := List.mem_map.1 member
    obtain ⟨child, alternative⟩ := List.mem_filter.1 present
    exact ((areParts part child).isSimpleSelector (of_decide_eq_true alternative)).isSelectorText
      (innocent part child)

end Innocent

/-- The items of the kind of declarations are the declarations of the grammar. -/
theorem IsItem.isDeclaration {node : Node} (shape : IsItem node)
    (kind : node.kind = .declaration) : IsDeclaration node := by
  cases shape with
  | space isLeaf | comment isLeaf | delimiter isLeaf =>
      cases isLeaf
      cases kind
  | declaration isDeclaration => exact isDeclaration
  | ruleset => cases kind

/-- What a ruleset spells out is expressible if nothing in it offends, by induction on how
deep it is nested. -/
theorem IsItem.isExpressible {node : Node} (shape : IsItem node) (kind : node.kind = .ruleset)
    {around : List Kind} (innocent : inspect (node.sites around) = .ok ()) :
    (Ruleset.spelled node).IsExpressible := by
  induction shape generalizing around with
  | space isLeaf | comment isLeaf | delimiter isLeaf =>
      cases isLeaf
      cases kind
  | declaration isDeclaration =>
      cases isDeclaration
      cases kind
  | @ruleset selector between items blockStart start isSelector blank areItems apart ih =>
      rw [inspect_ruleset blank, inspect_eq_ok_iff, List.forall_mem_append, ← inspect_eq_ok_iff,
        ← inspect_eq_ok_iff, Node.inspect_sitesAll_eq_ok_iff] at innocent
      obtain ⟨selectorInnocent, itemsInnocent⟩ := innocent
      obtain ⟨some, selectors⟩ := isSelector.isExpressible selectorInnocent
      rw [spelled_ruleset isSelector blank]
      refine .intro some selectors ?_ ?_
      · intro entry member
        obtain ⟨item, present, rfl⟩ := List.mem_map.1 (Table.mem_entries_ofList member)
        obtain ⟨inside, isKind⟩ := List.mem_filter.1 present
        have isDeclaration := (areItems item inside).isDeclaration (of_decide_eq_true isKind)
        exact isDeclaration.isExpressible (itemsInnocent item inside)
      · intro ruleset member
        obtain ⟨item, present, rfl⟩ := List.mem_map.1 member
        obtain ⟨inside, isKind⟩ := List.mem_filter.1 present
        exact ih item inside (of_decide_eq_true isKind) (itemsInnocent item inside)

end Source

theorem withSigil_of_isVariableText {text : String} (isVariable : IsVariableText text) :
    withSigil text = text := by
  obtain ⟨name, _, rfl⟩ := isVariable
  rw [withSigil, if_pos (by simp [IsReference])]

/-- Whatever a source compiles to is expressible. -/
theorem isExpressible_of_compiled {source : String} {program : Program}
    (compiled : (Program.ofSource source).run.value = .ok program) : program.IsExpressible := by
  obtain ⟨tree, read⟩ := exists_tree_of_compiled compiled
  obtain ⟨innocent, rfl⟩ := (value_ofSource_eq_ok_iff read).1 compiled
  obtain ⟨@⟨items, start, areItems⟩, _⟩ := readStylesheet_mirrors read
  rw [← inspect_eq_ok_iff, Node.inspect_branch (by decide),
    Node.inspect_sitesAll_eq_ok_iff] at innocent
  refine ⟨?_, ?_⟩
  · intro entry member
    obtain ⟨setting, set, rfl⟩ := Variables.exists_setting_of_mem_entries member
    obtain ⟨item, present, rfl⟩ := List.mem_map.1 set
    obtain ⟨inside, kind⟩ := List.mem_filter.1 present
    have isDeclaration := (areItems.each item inside).isDeclaration (of_decide_eq_true kind)
    have texts := isDeclaration.isExpressible_definition (innocent item inside)
    rwa [withSigil_of_isVariableText texts.1]
  · intro ruleset member
    obtain ⟨item, present, rfl⟩ := List.mem_map.1 member
    obtain ⟨inside, kind⟩ := List.mem_filter.1 present
    exact (areItems.each item inside).isExpressible (of_decide_eq_true kind) (innocent item inside)

end NestedStyles
