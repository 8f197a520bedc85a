import NestedStyles.Proofs.Program.Expressible
import NestedStyles.Proofs.Program.Layout

/-!
# Printed programs

The text of an expressible program is the text of items that spell the program out. They are
built along the program: a node for each name and value, a declaration for each entry of a
table, and a ruleset around the items of its block. Main statement: sources compile to
expressible programs only, and the text of each such program compiles to the program.
-/

namespace NestedStyles

namespace Source

/-- Items that say the declarations and the rulesets of a level, and of which none offends
inside the given kinds. -/
structure PrintsLevel (around : List Kind) (declarations : List (String × String))
    (rulesets : List Ruleset) (items : List Node) : Prop where
  areItems : AreItems items
  innocent : inspect (Node.sitesAll around items) = .ok ()
  declared : (items.filter (·.kind = .declaration)).map Node.spelledDeclaration = declarations
  nested : (items.filter (·.kind = .ruleset)).map Ruleset.spelled = rulesets

/-- A declaration with the text and the meaning of an entry. -/
structure PrintsEntry (around : List Kind) (entry : String × String) (node : Node) : Prop where
  isDeclaration : IsDeclaration node
  innocent : inspect (node.sites around) = .ok ()
  spelled : node.spelledDeclaration = entry
  text : node.source ++ [';'] = (declarationSource entry).toList

/-- An item with the text and the meaning of a ruleset. -/
structure PrintsRuleset (around : List Kind) (ruleset : Ruleset) (node : Node) : Prop where
  isItem : IsItem node
  kind : node.kind = .ruleset
  innocent : inspect (node.sites around) = .ok ()
  spelled : Ruleset.spelled node = ruleset
  text : node.source = ruleset.toSource.toList

theorem blank_none : ∀ space ∈ (none : Option Node), IsSpace space := by
  intro space member
  cases member

section Levels

variable {around : List Kind} {entry : String × String} {entries : List (String × String)}
  {rulesets : List Ruleset} {node : Node} {items : List Node}

theorem printsLevel_nil (around : List Kind) : PrintsLevel around [] [] [] :=
  ⟨areItems_nil, rfl, rfl, rfl⟩

/-- A ruleset may be put in front of the items of a level. -/
theorem PrintsLevel.cons_ruleset (level : PrintsLevel around entries rulesets items)
    (isItem : IsItem node) (kind : node.kind = .ruleset)
    (innocent : inspect (node.sites around) = .ok ()) :
    PrintsLevel around entries (Ruleset.spelled node :: rulesets) (node :: items) where
  areItems := by
    apply level.areItems.cons isItem
    rw [kind]
    exact stops_never _
  innocent := by
    rw [Node.sitesAll, inspect_append, innocent]
    exact level.innocent
  declared := by simp [kind, level.declared]
  nested := by simp [kind, level.nested]

/-- Layout in front of a level says nothing. -/
theorem PrintsLevel.cons_layout (level : PrintsLevel around entries rulesets items)
    (isItem : IsItem node) (layout : ¬ node.IsSignificant)
    (stops : Stops (prolongs node.kind) (Node.sourceAll items)) :
    PrintsLevel around entries rulesets (node :: items) := by
  have noDeclaration : node.kind ≠ .declaration := by
    intro kind
    exact layout (by rw [Node.IsSignificant, kind]; decide)
  have noRuleset : node.kind ≠ .ruleset := by
    intro kind
    exact layout (by rw [Node.IsSignificant, kind]; decide)
  refine ⟨level.areItems.cons isItem stops, ?_, ?_, ?_⟩
  · rw [Node.sitesAll, inspect_append, isItem.isInnocent layout]
    exact level.innocent
  · rw [List.filter_cons_of_neg (by simpa using noDeclaration), level.declared]
  · rw [List.filter_cons_of_neg (by simpa using noRuleset), level.nested]

/-- A declaration may be put in front of items that cannot be read as part of it. -/
theorem PrintsLevel.cons_declaration (level : PrintsLevel around entries rulesets items)
    (prints : PrintsEntry around entry node)
    (stops : Stops isIdentStart (Node.sourceAll items)) :
    PrintsLevel around (entry :: entries) rulesets (node :: items) := by
  obtain ⟨_, _, declares⟩ := prints.isDeclaration.exists_declares
  refine ⟨?_, ?_, ?_, ?_⟩
  · apply level.areItems.cons (.declaration prints.isDeclaration)
    rw [declares.kind]
    exact stops
  · rw [Node.sitesAll, inspect_append, prints.innocent]
    exact level.innocent
  · simp [declares.kind, prints.spelled, level.declared]
  · simp [declares.kind, level.nested]

/-- A declaration with its delimiter may be put in front of any items. -/
theorem PrintsLevel.cons_entry (level : PrintsLevel around entries rulesets items)
    (prints : PrintsEntry around entry node) :
    PrintsLevel around (entry :: entries) rulesets
      (node :: .leaf .declarationDelimiter ";" .unknown :: items) := by
  have isDelimiter : IsMark .declarationDelimiter ';' (.leaf .declarationDelimiter ";" .unknown) :=
    .intro .unknown rfl
  have delimited := level.cons_layout (.delimiter isDelimiter)
    (mt isDelimiter.isSignificant_iff.1 (by decide)) (stops_never _)
  exact delimited.cons_declaration prints (stops_cons.2 rfl)

/-- Rulesets that can be printed each can be printed one behind the other. -/
theorem exists_printsLevel_of_rulesets
    (each : ∀ ruleset ∈ rulesets, ∃ node, PrintsRuleset around ruleset node) :
    ∃ items, PrintsLevel around [] rulesets items ∧
      Node.sourceAll items = (Ruleset.toSourceAll rulesets).toList := by
  induction rulesets with
  | nil => exact ⟨[], printsLevel_nil around, rfl⟩
  | cons ruleset rulesets ih =>
      obtain ⟨⟨node, prints⟩, later⟩ := List.forall_mem_cons.1 each
      obtain ⟨items, level, text⟩ := ih later
      refine ⟨node :: items, ?_, ?_⟩
      · rw [← prints.spelled]
        exact level.cons_ruleset prints.isItem prints.kind prints.innocent
      · rw [Node.sourceAll, Ruleset.toSourceAll, String.toList_append, prints.text, text]

/-- A level is printed entry by entry, and then ruleset by ruleset. -/
theorem exists_printsLevel
    (each : ∀ entry ∈ entries, ∃ node, PrintsEntry around entry node)
    (nested : ∀ ruleset ∈ rulesets, ∃ node, PrintsRuleset around ruleset node) :
    ∃ items, PrintsLevel around entries rulesets items ∧
      Node.sourceAll items =
        (String.join (entries.map declarationSource) ++ Ruleset.toSourceAll rulesets).toList := by
  induction entries with
  | nil =>
      rw [List.map_nil, String.join_nil, String.empty_append]
      exact exists_printsLevel_of_rulesets nested
  | cons entry entries ih =>
      obtain ⟨⟨node, prints⟩, later⟩ := List.forall_mem_cons.1 each
      obtain ⟨items, level, text⟩ := ih later
      refine ⟨_, level.cons_entry prints, ?_⟩
      rw [List.map_cons, String.join_cons, String.append_assoc, String.toList_append, ← prints.text,
        ← text, List.append_assoc]
      rfl

end Levels

section Entries

variable {name value : Node}

/-- A declaration as it is printed. -/
theorem printsEntry_of_parts {around : List Kind} {start : Position}
    (isProperty : IsProperty (.branch .property [name] start)) (isValue : IsValue value)
    (innocent : ∀ node, Declares node (.branch .property [name] start) value →
      inspect (node.sites around) = .ok ()) :
    ∃ node, PrintsEntry around (name.sourceText, value.sourceText) node := by
  have isColon : IsMark .propertyDelimiter ':' (.leaf .propertyDelimiter ":" .unknown) :=
    .intro .unknown rfl
  have blank : ∀ space ∈ some (Node.leaf .space " " .unknown), IsSpace space := by
    intro space member
    obtain rfl := Option.some.inj member
    exact .intro .unknown ⟨rfl, List.forall_mem_nil _⟩
  have declares := declares_of_parts isProperty blank_none isColon blank isValue .unknown
  refine ⟨_, .intro .unknown isProperty blank_none isColon blank isValue, innocent _ declares,
    ?_, ?_⟩
  · rw [declares.spelled, Node.sourceText_unmarked ⟨rfl, rfl⟩]
  · simp [declarationSource, Node.source, Node.sourceAll, Node.sourceText, Kind.openingMark,
      Kind.closingMark]

/-- Every declaration of an expressible block can be printed. -/
theorem exists_printsEntry {entry : String × String} (property : Cut.ident.TakesWhole entry.1)
    (text : IsValueText entry.2) (around : List Kind) :
    ∃ node, PrintsEntry (.block :: around) entry node := by
  obtain ⟨name, isIdent, named⟩ := takesWhole_ident_iff_exists.1 property
  obtain ⟨value, isValue, valued⟩ := isValueText_iff.1 text
  have prints := printsEntry_of_parts (.ident .unknown isIdent) isValue
    fun node declares => declares.inspect_of_isIdent isIdent around
  rwa [named, valued] at prints

/-- Every variable of an expressible program can be printed. -/
theorem exists_printsEntry_definition {entry : String × String}
    (variableName : IsVariableText entry.1) (text : IsValueText entry.2) :
    ∃ node, PrintsEntry [.stylesheet] entry node := by
  obtain ⟨name, isVariable, named⟩ := isVariableText_iff.1 variableName
  obtain ⟨value, isValue, valued⟩ := isValueText_iff.1 text
  have prints := printsEntry_of_parts (.variableName .unknown isVariable) isValue
    fun node declares => declares.inspect_of_isVariable isVariable
  rwa [named, valued] at prints

end Entries

section Selectors

/-- A selector text is the text of a simple selector that does not offend. -/
theorem IsSelectorText.exists_simple {text : String} (isSelectorText : IsSelectorText text) :
    ∃ node, IsSimpleSelector node ∧ node.IsInnocent ∧ node.sourceText = text := by
  have innocent {kind : Kind} (harmless : kind.IsHarmless) {name : Node} (isIdent : IsIdent name) :
      (Node.branch kind [name] .unknown).IsInnocent :=
    Node.isInnocent_branch harmless (List.forall_mem_singleton.2 isIdent.isVerbatim.innocent) _
  rcases isSelectorText with word | ⟨_, word, rfl⟩
  · obtain ⟨name, isIdent, rfl⟩ := takesWhole_ident_iff_exists.1 word
    exact ⟨_, .ofType .unknown isIdent, innocent (by decide) isIdent,
      Node.sourceText_unmarked ⟨rfl, rfl⟩ ..⟩
  · obtain ⟨name, isIdent, rfl⟩ := takesWhole_ident_iff_exists.1 word
    exact ⟨_, .ofClass .unknown isIdent, innocent (by decide) isIdent,
      Node.sourceText_classSelector ..⟩

theorem isAlternative_of_simple {simple : Node} (isSimple : IsSimpleSelector simple) :
    IsAlternative [.leaf .delimiter "," .unknown, simple] :=
  .intro blank_none (.intro .unknown rfl) blank_none isSimple

/-- The alternatives behind the first one, each with its comma. -/
theorem exists_alternatives {selectors : List String}
    (texts : ∀ selector ∈ selectors, IsSelectorText selector) :
    ∃ others : List (List Node), (∀ alternative ∈ others, IsAlternative alternative) ∧
      (∀ part ∈ others.flatten, part.IsInnocent) ∧
      (others.flatten.filter (·.IsAlternative)).map Node.sourceText = selectors ∧
      Node.sourceAll others.flatten = selectors.flatMap fun selector => ',' :: selector.toList := by
  induction selectors with
  | nil => exact ⟨[], List.forall_mem_nil _, List.forall_mem_nil _, rfl, rfl⟩
  | cons selector selectors ih =>
      obtain ⟨first, later⟩ := List.forall_mem_cons.1 texts
      obtain ⟨simple, isSimple, innocent, rfl⟩ := first.exists_simple
      obtain ⟨others, areAlternatives, innocents, spelled, text⟩ := ih later
      have isComma : IsMark .delimiter ',' (.leaf .delimiter "," .unknown) := .intro .unknown rfl
      refine ⟨_ :: others, List.forall_mem_cons.2
        ⟨isAlternative_of_simple isSimple, areAlternatives⟩, ?_, ?_, ?_⟩
      · exact List.forall_mem_cons.2 ⟨isComma.isInnocent (by decide),
          List.forall_mem_cons.2 ⟨innocent, innocents⟩⟩
      · have skipped : (Node.leaf .delimiter "," .unknown :: simple :: others.flatten).filter
            (·.IsAlternative) = (simple :: others.flatten).filter (·.IsAlternative) := rfl
        rw [List.flatten_cons, List.cons_append, List.singleton_append, skipped,
          isSimple.filter_cons, List.map_cons, spelled]
      · rw [List.flatten_cons, List.cons_append, List.singleton_append, Node.sourceAll,
          Node.sourceAll, text, List.flatMap_cons, Node.sourceText, String.toList_ofList]
        rfl

/-- Selectors are written with a comma in front of each but the first. -/
theorem toList_intercalate_comma (first : String) (others : List String) :
    (",".intercalate (first :: others)).toList =
      first.toList ++ others.flatMap fun selector => ',' :: selector.toList := by
  induction others generalizing first with
  | nil => simp
  | cons second others ih =>
      rw [String.intercalate_cons_cons, String.toList_append, String.toList_append, ih,
        List.flatMap_cons, List.append_assoc]
      rfl

/-- A selector as it is printed. -/
theorem exists_selector {selectors : SelectorGroup} (some : selectors ≠ [])
    (texts : ∀ selector ∈ selectors, IsSelectorText selector) :
    ∃ node, IsSelector node ∧ node.IsInnocent ∧
      (node.children.filter (·.IsAlternative)).map Node.sourceText = selectors ∧
      node.source = (",".intercalate selectors).toList := by
  obtain ⟨selector, selectors, rfl⟩ := List.exists_cons_of_ne_nil some
  obtain ⟨first, later⟩ := List.forall_mem_cons.1 texts
  obtain ⟨simple, isSimple, innocent, rfl⟩ := first.exists_simple
  obtain ⟨others, areAlternatives, innocents, spelled, text⟩ := exists_alternatives later
  refine ⟨_, .intro .unknown isSimple areAlternatives, ?_, ?_, ?_⟩
  · exact Node.isInnocent_branch (by decide) (List.forall_mem_cons.2 ⟨innocent, innocents⟩) _
  · rw [Node.children, isSimple.filter_cons, List.map_cons, spelled]
  · rw [toList_intercalate_comma, ← text, Node.sourceText, String.toList_ofList]
    exact List.append_nil _

end Selectors

/-- A ruleset is printed around the items of its block. -/
theorem PrintsLevel.exists_ruleset {around : List Kind} {selectors : SelectorGroup}
    {declarations : Declarations} {nested : List Ruleset} {items : List Node}
    {between : Option Node}
    (level : PrintsLevel (.block :: .ruleset :: around) declarations.entries nested items)
    (some : selectors ≠ []) (texts : ∀ selector ∈ selectors, IsSelectorText selector)
    (blank : ∀ space ∈ between, IsSpace space) :
    ∃ node, IsItem node ∧ node.kind = .ruleset ∧ inspect (node.sites around) = .ok () ∧
      Ruleset.spelled node = ⟨selectors, declarations, nested⟩ ∧
      node.source = (",".intercalate selectors).toList ++
        (Node.sourceAll between.toList ++ '{' :: (Node.sourceAll items ++ ['}'])) := by
  obtain ⟨selector, isSelector, innocent, spelled, text⟩ := exists_selector some texts
  refine ⟨rulesetOf selector between items .unknown .unknown,
    .ruleset .unknown .unknown isSelector blank level.areItems.each level.areItems.apart,
    rfl, ?_, ?_, ?_⟩
  · rw [inspect_ruleset blank, inspect_append, innocent]
    exact level.innocent
  · rw [spelled_ruleset isSelector blank, spelled, level.declared, level.nested,
      Table.ofList_entries]
  · have printed := source_rulesetOf selector between items .unknown .unknown []
    rwa [List.append_nil, text] at printed

end Source

open Source

/-- The text of an expressible ruleset is that of a node which spells it out, by induction on
how deep it is nested. -/
theorem Ruleset.IsExpressible.exists_prints {ruleset : Ruleset}
    (expressible : ruleset.IsExpressible) (around : List Kind) :
    ∃ node, PrintsRuleset around ruleset node := by
  induction expressible generalizing around with
  | @intro selectors declarations nested some texts entries _ ih =>
      obtain ⟨items, level, block⟩ := exists_printsLevel
        (fun entry member => exists_printsEntry (entries entry member).1 (entries entry member).2
          (.ruleset :: around))
        (fun ruleset member => ih ruleset member (.block :: .ruleset :: around))
      obtain ⟨node, isItem, kind, innocent, spelled, text⟩ :=
        level.exists_ruleset some texts blank_none
      refine ⟨node, isItem, kind, innocent, spelled, ?_⟩
      rw [text, block, Ruleset.toSource]
      simp [Node.sourceAll, Table.toSource]

/-- The text of a level that says a program compiles to the program. -/
theorem Source.PrintsLevel.value_ofSource {program : Program} {items : List Node} {source : String}
    (level : PrintsLevel [.stylesheet] program.initializer.entries program.rulesets items)
    (text : Node.sourceAll items = source.toList) :
    (Program.ofSource source).run.value = .ok program := by
  have reads : ReadsAs source.toList (Node.normalizeAll items) := ⟨items, level.areItems, text, rfl⟩
  have innocent : inspect ((Node.branch .stylesheet items .unknown).sites []) = .ok () := by
    rw [Node.inspect_branch (by decide)]
    exact level.innocent
  apply reads.value_eq_ok .unknown
  rw [outcome_ofTree level.areItems.each, vet_of_ok innocent, Program.spelled, Node.childrenOf,
    Node.childrenOf, Node.children, level.declared, level.nested, Variables.ofList_entries]

/-- The text of an expressible program compiles to the program. -/
theorem Program.IsExpressible.value_ofSource {program : Program}
    (expressible : program.IsExpressible) :
    (Program.ofSource program.toSource).run.value = .ok program := by
  obtain ⟨items, level, text⟩ := exists_printsLevel
    (fun entry member => exists_printsEntry_definition (expressible.definitions entry member).1
      (expressible.definitions entry member).2)
    (fun ruleset member => (expressible.rulesets ruleset member).exists_prints [.stylesheet])
  exact level.value_ofSource text

/-- Sources compile to expressible programs only, and the text of each of these compiles to
the program. -/
theorem ofSource_toSource :
    (∀ (source : String) (program : Program),
      (Program.ofSource source).run.value = .ok program → program.IsExpressible) ∧
    ∀ program : Program, program.IsExpressible →
      (Program.ofSource program.toSource).run.value = .ok program :=
  ⟨fun _ _ => isExpressible_of_compiled, fun _ expressible => expressible.value_ofSource⟩

/-- A variable whose name reads as a dimension, and texts with signs in them. -/
def signedTexts : Program where
  initializer := .ofList [("$w", "-5px"), ("$-5px", "1-2")]
  rulesets :=
    [⟨[".a-1", "b"], .ofList [("-c", "$w"), ("d", "-e")],
      [⟨["f"], .ofList [("g", "1.5")], []⟩, ⟨[".h"], ∅, []⟩]⟩]

/-- A program compiled from another layout is printed and compiled again. -/
theorem ofSource_toSource_signedTexts :
    (Program.ofSource
      "$w:-5px $-5px :1-2;.a-1 , b\x7b-c:$w f\x7bg:1.5\x7d.h\x7b\x7d;d:-e\x7d").run.value =
        .ok signedTexts ∧
    signedTexts.toSource =
      "$w: -5px;$-5px: 1-2;.a-1,b\x7b-c: $w;d: -e;f\x7bg: 1.5;\x7d.h\x7b\x7d\x7d" ∧
    signedTexts.IsExpressible ∧
    (Program.ofSource signedTexts.toSource).run.value = .ok signedTexts := by
  have compiled : (Program.ofSource
      "$w:-5px $-5px :1-2;.a-1 , b\x7b-c:$w f\x7bg:1.5\x7d.h\x7b\x7d;d:-e\x7d").run.value =
        .ok signedTexts := eq_ok_of_toOption (by decide +kernel)
  have expressible := ofSource_toSource.1 _ signedTexts compiled
  exact ⟨compiled, by decide +kernel, expressible, ofSource_toSource.2 signedTexts expressible⟩

end NestedStyles
