import NestedStyles.Proofs.Program.Printing
import NestedStyles.Proofs.Render.RuleText

/-!
# Flat sheets as sources

The text of a rule with one selector is a ruleset of its own, so a sheet of such rules is a
source. Reading it back needs only what the rules are made of: the items are built along the
rules, with the blanks of the frame and the line breaks between the rules as layout. Main
statement: the sheet of a program without nested rulesets compiles, and what it compiles to
renders to the same sheet (`css_is_fixed_point`).
-/

namespace NestedStyles

open Source

/-- A rule under a single selector. -/
structure FlatRule where
  selector : String
  declarations : Declarations

namespace FlatRule

/-- The rule as a sheet shows it. -/
def text (rule : FlatRule) : String :=
  ruleText rule.selector (bodyText rule.declarations.entries)

/-- The rule as a ruleset. -/
def toRuleset (rule : FlatRule) : Ruleset := ⟨[rule.selector], rule.declarations, []⟩

/-- Rules that declare something, in texts that the readers accept. -/
structure IsExpressible (rule : FlatRule) : Prop where
  selector : IsSelectorText rule.selector
  declares : rule.declarations.entries ≠ []
  declarations : ∀ entry ∈ rule.declarations.entries,
    Cut.ident.TakesWhole entry.1 ∧ IsValueText entry.2

/-- Rules that refer to no variable. -/
def IsLiteral (rule : FlatRule) : Prop :=
  ∀ entry ∈ rule.declarations.entries, ¬ IsReference entry.2

end FlatRule

namespace Source

section Bodies

variable {around : List Kind} {entry : String × String} {entries : List (String × String)}
  {rulesets : List Ruleset} {node : Node} {items : List Node}

/-- An item other than blank space starts with no blank. -/
theorem IsItem.stops_isBlank (isItem : IsItem node) (solid : node.kind ≠ .space)
    (rest : List Char) : Stops isBlank (node.source ++ rest) := by
  obtain ⟨_, starts⟩ := isItem.starts
  rcases isItem.isSpace_or_stops with isSpace | stops
  · exact absurd isSpace.kind_eq solid
  · exact starts.stops_append stops rest

theorem PrintsEntry.source_eq (prints : PrintsEntry around entry node) :
    node.source = (entry.1 ++ ": " ++ entry.2).toList := by
  have text := prints.text
  rw [declarationSource, String.toList_append] at text
  exact List.append_cancel_right text

theorem PrintsEntry.stops_isBlank (prints : PrintsEntry around entry node) (rest : List Char) :
    Stops isBlank (node.source ++ rest) := by
  apply IsItem.stops_isBlank (.declaration prints.isDeclaration)
  rw [prints.isDeclaration.kind_eq]
  decide

/-- Blank space may be put in front of items that start with no blank. -/
theorem PrintsLevel.cons_space (level : PrintsLevel around entries rulesets items) (text : String)
    (blank : IsBlankText text.toList) (stops : Stops isBlank (Node.sourceAll items)) :
    PrintsLevel around entries rulesets (.leaf .space text .unknown :: items) := by
  have isSpace : IsSpace (.leaf .space text .unknown) := .intro .unknown blank
  exact level.cons_layout (.space isSpace) (mt isSpace.isSignificant_iff.1 (by decide)) stops

/-- The declarations of a rule, with the blank behind them. -/
theorem exists_printsBody (declares : entries ≠ [])
    (each : ∀ entry ∈ entries, ∃ node, PrintsEntry around entry node) :
    ∃ items, PrintsLevel around entries [] items ∧ Stops isBlank (Node.sourceAll items) ∧
      Node.sourceAll items = (bodyText entries ++ " ").toList := by
  induction entries with
  | nil => contradiction
  | cons entry entries ih =>
      obtain ⟨⟨node, prints⟩, later⟩ := List.forall_mem_cons.1 each
      cases entries with
      | nil =>
          have behind : PrintsLevel around [] [] [.leaf .space " " .unknown] :=
            (printsLevel_nil around).cons_space " " ⟨rfl, List.forall_mem_nil _⟩ (stops_nil _)
          refine ⟨_, behind.cons_declaration prints (stops_cons.2 rfl), prints.stops_isBlank _, ?_⟩
          rw [bodyText, List.map_singleton, String.intercalate_singleton, String.toList_append,
            Node.sourceAll, prints.source_eq]
          rfl
      | cons next entries =>
          obtain ⟨items, level, _, text⟩ := ih (List.cons_ne_nil _ _) later
          refine ⟨_, level.cons_entry prints, prints.stops_isBlank _, ?_⟩
          have joined : bodyText (entry :: next :: entries) =
              entry.1 ++ ": " ++ entry.2 ++ ";" ++ bodyText (next :: entries) :=
            String.intercalate_cons_cons
          rw [joined, String.append_assoc, String.toList_append, ← text, String.toList_append,
            ← prints.source_eq, List.append_assoc]
          rfl

end Bodies

end Source

namespace FlatRule

variable {rule : FlatRule} {rules : List FlatRule}

/-- The text of a rule is that of an item which spells its ruleset out. -/
theorem IsExpressible.exists_ruleset (expressible : rule.IsExpressible) (around : List Kind) :
    ∃ node, IsItem node ∧ node.kind = .ruleset ∧ inspect (node.sites around) = .ok () ∧
      Ruleset.spelled node = rule.toRuleset ∧ node.source = rule.text.toList := by
  obtain ⟨items, level, stops, body⟩ := exists_printsBody expressible.declares
    fun entry member => exists_printsEntry (expressible.declarations entry member).1
      (expressible.declarations entry member).2 (.ruleset :: around)
  have isBlank : IsBlankText " ".toList := ⟨rfl, List.forall_mem_nil _⟩
  have blank : ∀ space ∈ some (Node.leaf .space " " .unknown), IsSpace space := by
    intro space member
    obtain rfl := Option.some.inj member
    exact .intro .unknown isBlank
  obtain ⟨node, isItem, kind, innocent, spelled, text⟩ :=
    (level.cons_space " " isBlank stops).exists_ruleset (List.cons_ne_nil rule.selector [])
      (List.forall_mem_singleton.2 expressible.selector) blank
  refine ⟨node, isItem, kind, innocent, spelled, ?_⟩
  rw [text, Node.sourceAll, body, FlatRule.text, ruleText]
  simp [Node.sourceAll, Node.source, Kind.openingMark, Kind.closingMark]

/-- The rules of a sheet, with the line breaks between them. -/
theorem exists_printsLevel (each : ∀ rule ∈ rules, rule.IsExpressible) (around : List Kind) :
    ∃ items, PrintsLevel around [] (rules.map toRuleset) items ∧
      Stops isBlank (Node.sourceAll items) ∧
      Node.sourceAll items = ("\n".intercalate (rules.map text)).toList := by
  induction rules with
  | nil => exact ⟨[], printsLevel_nil around, stops_nil _, rfl⟩
  | cons rule rules ih =>
      obtain ⟨first, later⟩ := List.forall_mem_cons.1 each
      obtain ⟨node, isItem, kind, innocent, spelled, shown⟩ := first.exists_ruleset around
      obtain ⟨items, level, stops, text⟩ := ih later
      have solid : node.kind ≠ .space := by
        rw [kind]
        decide
      rw [List.map_cons, ← spelled]
      cases rules with
      | nil =>
          refine ⟨_, (printsLevel_nil around).cons_ruleset isItem kind innocent,
            isItem.stops_isBlank solid _, ?_⟩
          rw [List.map_singleton, String.intercalate_singleton, ← shown]
          exact List.append_nil _
      | cons next rules =>
          have broken := level.cons_space "\n" ⟨rfl, List.forall_mem_nil _⟩ stops
          refine ⟨_, broken.cons_ruleset isItem kind innocent, isItem.stops_isBlank solid _, ?_⟩
          rw [List.map_cons, List.map_cons, String.intercalate_cons_cons, String.toList_append,
            String.toList_append, ← List.map_cons, ← text, ← shown, List.append_assoc]
          rfl

/-- A sheet of expressible rules compiles to their rulesets. -/
theorem value_ofSource (each : ∀ rule ∈ rules, rule.IsExpressible) :
    (Program.ofSource ("\n".intercalate (rules.map text))).run.value =
      .ok ⟨∅, rules.map toRuleset⟩ := by
  obtain ⟨items, level, _, source⟩ := exists_printsLevel each [.stylesheet]
  exact PrintsLevel.value_ofSource level source

end FlatRule

section Flattening

variable {bindings : Variables} {rulesets : List Ruleset} {block : PlacedBlock} {program : Program}

/-- The rules of a block in their parts. -/
def PlacedBlock.flattened (bindings : Variables) (block : PlacedBlock) : List FlatRule :=
  if block.declarations.isEmpty then []
  else (choices block.groups).map fun choice =>
    ⟨" ".intercalate choice, .ofList (block.resolved bindings)⟩

/-- Looking values up keeps the names of a block distinct and in order. -/
theorem PlacedBlock.entries_ofList_resolved (bindings : Variables) (block : PlacedBlock) :
    (Table.ofList (block.resolved bindings)).entries = block.resolved bindings := by
  have names : (block.resolved bindings).map Prod.fst = block.declarations.names := List.map_map ..
  apply @Table.entries_insertAll ∅
  rw [names]
  exact block.declarations.distinct

/-- The rules of a block are the texts of its rules in parts. -/
theorem PlacedBlock.map_text_flattened (bindings : Variables) (block : PlacedBlock) :
    (block.flattened bindings).map FlatRule.text = block.rules bindings := by
  rw [rules_eq_map_ruleText, flattened]
  split
  · rfl
  · rw [List.map_map]
    apply List.map_congr_left
    intro choice _
    rw [Function.comp_apply, FlatRule.text, entries_ofList_resolved]

/-- Rulesets with nothing nested in them are their own blocks. -/
theorem Ruleset.placedAll_of_flat (flat : ∀ ruleset ∈ rulesets, ruleset.nested = []) :
    placedAll [] rulesets =
      rulesets.map fun ruleset => ⟨[ruleset.selectors], ruleset.declarations⟩ := by
  induction rulesets with
  | nil => rfl
  | cons ruleset rulesets ih =>
      obtain ⟨first, later⟩ := List.forall_mem_cons.1 flat
      obtain ⟨selectors, declarations, nested⟩ := ruleset
      obtain rfl : nested = [] := first
      rw [placedAll, ih later]
      rfl

/-- Where no variable is set to a reference, no value stands for one. -/
theorem Variables.not_isReference_meaning
    (literal : ∀ entry ∈ bindings.entries, ¬ IsReference entry.2) {value : String}
    (bound : ¬ bindings.Lacks value) : ¬ IsReference (bindings.meaning value) := by
  unfold meaning
  split
  · next reference =>
      cases lookup : bindings.get? value with
      | none => exact absurd ⟨reference, Table.get?_eq_none_iff.1 lookup⟩ bound
      | some found => exact literal _ (Table.get?_eq_some_iff.1 lookup)
  · assumption

/-- The rules of rulesets in their parts. -/
def flattened (bindings : Variables) (rulesets : List Ruleset) : List FlatRule :=
  (Ruleset.placedAll [] rulesets).flatMap (PlacedBlock.flattened bindings)

theorem map_text_flattened (bindings : Variables) (rulesets : List Ruleset) :
    (flattened bindings rulesets).map FlatRule.text = flatRules bindings rulesets := by
  simp only [flattened, List.map_flatMap, PlacedBlock.map_text_flattened]
  rfl

/-- The rules of a block show what the block declares. -/
theorem PlacedBlock.exists_choice_of_mem_flattened {rule : FlatRule}
    (member : rule ∈ block.flattened bindings) :
    (∃ choice ∈ choices block.groups, rule.selector = " ".intercalate choice) ∧
      rule.declarations.entries = block.resolved bindings ∧ block.resolved bindings ≠ [] := by
  unfold flattened at member
  split at member
  · cases member
  · next declares =>
      obtain ⟨choice, chosen, rfl⟩ := List.mem_map.1 member
      exact ⟨⟨choice, chosen, rfl⟩, block.entries_ofList_resolved bindings,
        block.resolved_ne_nil bindings declares⟩

/-- A choice from a single group is one selector, and so the rules are rulesets that a source can
be written for. -/
theorem Program.IsExpressible.flattened (expressible : program.IsExpressible)
    (flat : ∀ ruleset ∈ program.rulesets, ruleset.nested = []) :
    ∀ rule ∈ flattened program.initializer program.rulesets, rule.IsExpressible := by
  intro rule member
  obtain ⟨block, placed, shown⟩ := List.mem_flatMap.1 member
  obtain ⟨⟨choice, chosen, selector⟩, entries, declares⟩ :=
    PlacedBlock.exists_choice_of_mem_flattened shown
  refine ⟨?_, entries ▸ declares, entries ▸ expressible.resolved placed⟩
  have texts := (expressible.placed block placed).forall_mem_choice chosen
  rw [Ruleset.placedAll_of_flat flat] at placed
  obtain ⟨ruleset, _, rfl⟩ := List.mem_map.1 placed
  obtain ⟨single, _, rfl⟩ : ∃ single ∈ ruleset.selectors, choice = [single] := by
    simpa [choices] using chosen
  rw [selector, String.intercalate_singleton]
  exact texts single List.mem_cons_self

/-- What bound values stand for refers to nothing, if no variable is set to a reference. -/
theorem isLiteral_flattened (cover : bindings.Cover rulesets)
    (literal : ∀ entry ∈ bindings.entries, ¬ IsReference entry.2) :
    ∀ rule ∈ flattened bindings rulesets, rule.IsLiteral := by
  intro rule member
  obtain ⟨block, placed, shown⟩ := List.mem_flatMap.1 member
  obtain ⟨_, entries, _⟩ := PlacedBlock.exists_choice_of_mem_flattened shown
  have bound := Variables.missing?_eq_none_iff_forall.1 (cover block placed)
  unfold FlatRule.IsLiteral
  rw [entries, PlacedBlock.resolved, List.forall_mem_map]
  intro entry declared
  exact Variables.not_isReference_meaning literal (bound entry declared)

end Flattening

namespace FlatRule

variable {rules : List FlatRule}

/-- Rules that are made rulesets again are placed one by one, with nothing around them. -/
theorem placedAll_map_toRuleset (rules : List FlatRule) :
    Ruleset.placedAll [] (rules.map toRuleset) =
      rules.map fun rule => ⟨[[rule.selector]], rule.declarations⟩ := by
  rw [Ruleset.placedAll_of_flat (List.forall_mem_map.2 fun _ _ => rfl), List.map_map]
  rfl

/-- The rulesets of literal rules need no variables. -/
theorem cover_map_toRuleset (each : ∀ rule ∈ rules, rule.IsLiteral) :
    (∅ : Variables).Cover (rules.map toRuleset) := by
  unfold Variables.Cover
  rw [placedAll_map_toRuleset, List.forall_mem_map]
  intro rule member
  apply Variables.missing?_eq_none_iff.2
  intro entry declared reference
  exact absurd reference (each rule member entry declared)

/-- Without variables, the block of a rule's ruleset shows the rule. -/
theorem IsExpressible.rules_eq {rule : FlatRule} (expressible : rule.IsExpressible) :
    PlacedBlock.rules ∅ ⟨[[rule.selector]], rule.declarations⟩ = [rule.text] := by
  have resolved : PlacedBlock.resolved ∅ ⟨[[rule.selector]], rule.declarations⟩ =
      rule.declarations.entries := by
    have meaning (value : String) : (∅ : Variables).meaning value = value := ite_self value
    simp only [PlacedBlock.resolved, meaning, List.map_id']
  have declares : ¬ rule.declarations.isEmpty := mt List.isEmpty_iff.1 expressible.declares
  rw [PlacedBlock.rules_eq_map_ruleText, if_neg declares, resolved]
  rfl

/-- Rules that are made rulesets again are rendered to their texts. -/
theorem flatRules_map_toRuleset (each : ∀ rule ∈ rules, rule.IsExpressible) :
    flatRules ∅ (rules.map toRuleset) = rules.map text := by
  unfold flatRules
  rw [placedAll_map_toRuleset, List.flatMap_map, List.map_eq_flatMap]
  exact List.flatMap_congr fun rule member => (each rule member).rules_eq

end FlatRule

/-- **Flat sheets are fixed points.** If a source compiles to a program that nests no rulesets and
sets no variable to a reference, and the program starts, then the text of its sheet compiles to a
program without variables, which starts with the same sheet. -/
theorem css_is_fixed_point {source : String} {program : Program} {live : LiveSheet}
    (compiled : (Program.ofSource source).run.value = .ok program)
    (flat : ∀ ruleset ∈ program.rulesets, ruleset.nested = [])
    (literal : ∀ entry ∈ program.initializer.entries, ¬ IsReference entry.2)
    (started : (LiveSheet.start program ∅).run.value = .ok live) :
    ∃ again, (Program.ofSource live.sheet.css).run.value = .ok again ∧ again.initializer = ∅ ∧
      ∃ rendered, (LiveSheet.start again ∅).run.value = .ok rendered ∧
        rendered.sheet = live.sheet := by
  have expressible := (isExpressible_of_compiled compiled).flattened flat
  have css : live.sheet.css =
      "\n".intercalate ((flattened program.initializer program.rulesets).map FlatRule.text) := by
    rw [Sheet.css, LiveSheet.toList_rules_of_start started, map_text_flattened]
  obtain ⟨cover, rfl⟩ := LiveSheet.start_eq_ok_iff.1 started
  refine ⟨⟨∅, (flattened program.initializer program.rulesets).map FlatRule.toRuleset⟩, ?_, rfl,
    _, LiveSheet.start_eq_ok_iff.2 ⟨?_, rfl⟩, ?_⟩
  · rw [css]
    exact FlatRule.value_ofSource expressible
  · exact FlatRule.cover_map_toRuleset (isLiteral_flattened cover literal)
  · rw [FlatRule.flatRules_map_toRuleset expressible, map_text_flattened]
    rfl

/-- A negative length in a variable, two alternatives, and a block without declarations. -/
def signedBoxes : Program where
  initializer := .ofList [("$w", "-5px")]
  rulesets := [⟨[".a", "é"], .ofList [("b", "$w"), ("c", "1.5")], []⟩, ⟨["d"], ∅, []⟩,
    ⟨["e"], .ofList [("-f", "g")], []⟩]

/-- A sheet of three rules is compiled and rendered to itself. -/
theorem css_is_fixed_point_signedBoxes :
    (Program.ofSource "$w:-5px;.a,é\x7bb:$w;c:1.5\x7dd\x7b\x7de\x7b-f:g\x7d").run.value =
        .ok signedBoxes ∧
      ∃ live, (LiveSheet.start signedBoxes ∅).run.value = .ok live ∧
        live.sheet.css =
          ".a \x7b b: -5px;c: 1.5 \x7d\né \x7b b: -5px;c: 1.5 \x7d\ne \x7b -f: g \x7d" ∧
        ∃ again, (Program.ofSource live.sheet.css).run.value = .ok again ∧
          again.initializer = ∅ ∧
          ∃ rendered, (LiveSheet.start again ∅).run.value = .ok rendered ∧
            rendered.sheet = live.sheet := by
  have compiled : (Program.ofSource
      "$w:-5px;.a,é\x7bb:$w;c:1.5\x7dd\x7b\x7de\x7b-f:g\x7d").run.value = .ok signedBoxes :=
    eq_ok_of_toOption (by decide +kernel)
  have cover : signedBoxes.initializer.Cover signedBoxes.rulesets := by
    unfold Variables.Cover
    decide
  have started : (LiveSheet.start signedBoxes ∅).run.value = .ok _ :=
    LiveSheet.start_eq_ok_iff.2 ⟨cover, rfl⟩
  refine ⟨compiled, _, started, ?_, css_is_fixed_point compiled ?_ ?_ started⟩
  · decide +kernel
  · decide +kernel
  · decide +kernel

end NestedStyles
