import NestedStyles.Program.OfSource
import NestedStyles.Proofs.Program.Compiling
import NestedStyles.Proofs.Source.Mirroring

/-!
# Compiling sources

A source that can be read and compiled gives the program that its tree spells out.
One that can be read and not compiled gives the report of the first offending node of
its tree, which names a line of the source.
-/

namespace NestedStyles

variable {source : String} {tree : Node}

/-- A readable source compiles to what its tree spells out, unless one of the sites offends. -/
theorem value_ofSource (read : Node.ofSource source = .ok tree) :
    (Program.ofSource source).run.value =
      (vet (tree.sites []) (Program.spelled tree)).mapError .uncompilable := by
  obtain ⟨isStylesheet, _⟩ := Source.readStylesheet_mirrors read
  rw [Program.ofSource, read, ← isStylesheet.outcome_ofTree]
  rfl

/-- What cannot be read is reported as the reader reports it. -/
theorem value_ofSource_of_unreadable {error : UnexpectedInput}
    (unreadable : Node.ofSource source = .error error) :
    (Program.ofSource source).run.value = .error (.unreadable error) := by
  rw [Program.ofSource, unreadable]
  rfl

/-- Only readable sources compile. -/
theorem exists_tree_of_compiled {program : Program}
    (compiled : (Program.ofSource source).run.value = .ok program) :
    ∃ tree, Node.ofSource source = .ok tree := by
  cases read : Node.ofSource source with
  | error error =>
      rw [value_ofSource_of_unreadable read] at compiled
      cases compiled
  | ok tree => exact ⟨tree, rfl⟩

theorem eq_ok_of_toOption {ε α : Type} {result : Except ε α} {value : α}
    (found : result.toOption = some value) : result = .ok value := by
  cases result with
  | error => cases found
  | ok => exact congrArg Except.ok (Option.some.inj found)

/-- A readable source compiles exactly if nothing offends. -/
theorem value_ofSource_eq_ok_iff (read : Node.ofSource source = .ok tree) {program : Program} :
    (Program.ofSource source).run.value = .ok program ↔
      (∀ site ∈ tree.sites [], ¬ site.Offends) ∧ program = Program.spelled tree := by
  rw [value_ofSource read, ← inspect_eq_ok_iff, vet]
  cases inspect (tree.sites []) with
  | error => simp [Except.mapError, bind, Except.bind]
  | ok => simp [Except.mapError, bind, Except.bind, eq_comm]

/-- A readable source fails to compile exactly with the report of the first offence. -/
theorem value_ofSource_eq_error_iff (read : Node.ofSource source = .ok tree)
    {error : CompileError} :
    (Program.ofSource source).run.value = .error (.uncompilable error) ↔
      ∃ site, (tree.sites []).find? (·.Offends) = some site ∧ error = site.report := by
  rw [value_ofSource read, ← inspect_eq_error_iff, vet]
  cases inspect (tree.sites []) with
  | error => simp [Except.mapError, bind, Except.bind]
  | ok => simp [Except.mapError, bind, Except.bind]

/-- Every node that was read from a source stands in it as its own source text. -/
theorem prefix_of_mem_occurrences (read : Node.ofSource source = .ok tree)
    {occurrence : List Char × Node} (member : occurrence ∈ tree.occurrences []) :
    occurrence.1 ++ occurrence.2.source <+: source.toList := by
  obtain ⟨_, text, placed⟩ := Source.readStylesheet_mirrors read
  obtain ⟨after, split, _⟩ := Node.start_of_mem_occurrences placed member
  rw [List.nil_append, List.append_nil, text] at split
  exact ⟨after, by rw [split, List.append_assoc]⟩

/-- Every node that was read from a source has a line. -/
theorem isKnown_start_of_mem_sites (read : Node.ofSource source = .ok tree) {site : Site}
    (member : site ∈ tree.sites []) : site.node.start.IsKnown := by
  obtain ⟨_, _, placed⟩ := Source.readStylesheet_mirrors read
  have listed : site.node ∈ (tree.occurrences []).map Prod.snd := by
    rw [← Node.map_node_sites []]
    exact List.mem_map_of_mem member
  obtain ⟨occurrence, occurs, same⟩ := List.mem_map.1 listed
  obtain ⟨after, _, starts⟩ := Node.start_of_mem_occurrences placed occurs
  rw [← same, starts]
  exact Nat.succ_ne_zero _

namespace CompileError

/-- Where the node at fault starts. -/
def position : CompileError → Position
  | unsupportedConstruct _ _ position => position
  | malformedSelector _ position => position
  | malformedNode _ _ position => position

/-- The node at fault is not what its kind promises. -/
def IsMalformedNode : CompileError → Prop
  | malformedNode .. => True
  | _ => False

end CompileError

namespace Site

theorem position_report (site : Site) : site.report.position = site.node.start := by
  rw [report]
  split <;> rfl

theorem not_isMalformedNode_report (site : Site) : ¬ site.report.IsMalformedNode := by
  rw [report]
  split <;> exact id

end Site

/-- A compiled source keeps its words and its structure. The tree gives the source back, and
every node of it stands in the source as its own source text. In these words the variables
are set as the declarations at the top level stand in the source, and the rulesets are those
of the tree, in order and at every depth. -/
theorem ofSource_verbatim {program : Program} (read : Node.ofSource source = .ok tree)
    (compiled : (Program.ofSource source).run.value = .ok program) :
    (Source.IsStylesheet tree ∧ tree.sourceText = source ∧
      ∀ occurrence ∈ tree.occurrences [],
        occurrence.1 ++ occurrence.2.source <+: source.toList) ∧
      program.initializer =
        .ofList ((tree.childrenOf .declaration).map Node.spelledDeclaration) ∧
      program.rulesets = (tree.childrenOf .ruleset).map Ruleset.spelled := by
  obtain ⟨isStylesheet, text, _⟩ := Source.readStylesheet_mirrors read
  obtain ⟨_, rfl⟩ := (value_ofSource_eq_ok_iff read).1 compiled
  have sourceText : tree.sourceText = source := by
    rw [Node.sourceText, text, String.ofList_toList]
  exact ⟨⟨isStylesheet, sourceText, fun _ => prefix_of_mem_occurrences read⟩, rfl, rfl⟩

/-- A variable, and a ruleset with two alternatives and a ruleset in it. -/
def twoLevels : Program where
  initializer := .ofList [("$w", "1px")]
  rulesets := [⟨[".a", "b"], .ofList [("c", "$w")], [⟨["d"], .ofList [("e", "f")], []⟩]⟩]

/-- A source with two levels compiles to what its tree spells out at both. -/
theorem ofSource_verbatim_twoLevels :
    ∃ tree, Node.ofSource "$w:1px;.a,b\x7bc:$w;d\x7be:f\x7d\x7d" = .ok tree ∧
      (Program.ofSource "$w:1px;.a,b\x7bc:$w;d\x7be:f\x7d\x7d").run.value = .ok twoLevels ∧
      tree.sourceText = "$w:1px;.a,b\x7bc:$w;d\x7be:f\x7d\x7d" ∧
      twoLevels.rulesets = (tree.childrenOf .ruleset).map Ruleset.spelled := by
  have compiled : (Program.ofSource "$w:1px;.a,b\x7bc:$w;d\x7be:f\x7d\x7d").run.value =
      .ok twoLevels := eq_ok_of_toOption (by decide +kernel)
  obtain ⟨tree, read⟩ := exists_tree_of_compiled compiled
  obtain ⟨⟨_, text, _⟩, _, rulesets⟩ := ofSource_verbatim read compiled
  exact ⟨tree, read, compiled, text, rulesets⟩

/-- A readable source compiles exactly if no node of its tree offends, and otherwise fails
with the report of the first node in document order that does. Whatever the source, a
compile error names a line of it and never a malformed node. -/
theorem ofSource_stops_at_first_offence (source : String) :
    (∀ tree, Node.ofSource source = .ok tree →
      ((∃ program, (Program.ofSource source).run.value = .ok program) ↔
        ∀ site ∈ tree.sites [], ¬ site.Offends) ∧
      ∀ site, (tree.sites []).find? (·.Offends) = some site →
        (Program.ofSource source).run.value = .error (.uncompilable site.report)) ∧
    ∀ error, (Program.ofSource source).run.value = .error (.uncompilable error) →
      error.position.line ≠ 0 ∧ ¬ error.IsMalformedNode := by
  refine ⟨?_, ?_⟩
  · intro tree read
    refine ⟨?_, fun site first => (value_ofSource_eq_error_iff read).2 ⟨site, first, rfl⟩⟩
    simp [value_ofSource_eq_ok_iff read]
  · intro error failed
    cases read : Node.ofSource source with
    | error error =>
        rw [value_ofSource_of_unreadable read] at failed
        cases failed
    | ok tree =>
        obtain ⟨site, first, rfl⟩ := (value_ofSource_eq_error_iff read).1 failed
        refine ⟨?_, site.not_isMalformedNode_report⟩
        rw [site.position_report]
        exact isKnown_start_of_mem_sites read (List.mem_of_find?_eq_some first)

/-- A ruleset for an id in another ruleset, with a variable as a property in its block. -/
def nestedId : Node :=
  .branch .stylesheet
    [.branch .ruleset
      [.branch .selector [.branch .classSelector [.leaf .ident "a" ⟨1, 2⟩] ⟨1, 1⟩] ⟨1, 1⟩,
        .branch .block
          [.branch .ruleset
            [.branch .selector [.branch .idSelector [.leaf .ident "b" ⟨1, 5⟩] ⟨1, 4⟩] ⟨1, 4⟩,
              .branch .block
                [.branch .declaration
                  [.branch .property
                      [.branch .variableName [.leaf .ident "c" ⟨1, 8⟩] ⟨1, 7⟩] ⟨1, 7⟩,
                    .leaf .propertyDelimiter ":" ⟨1, 9⟩,
                    .branch .value [.leaf .ident "d" ⟨1, 10⟩] ⟨1, 10⟩]
                  ⟨1, 7⟩]
                ⟨1, 6⟩]
            ⟨1, 4⟩]
          ⟨1, 3⟩]
      ⟨1, 1⟩]
    .origin

/-- The id comes before the variable in its block, and is reported. -/
theorem ofSource_stops_at_first_offence_nestedId :
    Node.ofSource ".a\x7b#b\x7b$c:d\x7d\x7d" = .ok nestedId ∧
      (nestedId.sites []).find? (·.Offends) =
        some ⟨[.selector, .ruleset, .block, .ruleset, .stylesheet],
          .branch .idSelector [.leaf .ident "b" ⟨1, 5⟩] ⟨1, 4⟩⟩ ∧
      (Program.ofSource ".a\x7b#b\x7b$c:d\x7d\x7d").run.value =
        .error (.uncompilable (.malformedSelector .idSelector ⟨1, 4⟩)) := by
  have read : Node.ofSource ".a\x7b#b\x7b$c:d\x7d\x7d" = .ok nestedId :=
    eq_ok_of_toOption (by decide +kernel)
  obtain ⟨_, reported⟩ := (ofSource_stops_at_first_offence _).1 nestedId read
  exact ⟨read, rfl, reported _ rfl⟩

end NestedStyles
