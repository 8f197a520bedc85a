import NestedStyles.Proofs.Program.Layout
import NestedStyles.Proofs.Table.Overriding

/-!
# Concatenated sources

The items of two stylesheets, one after another, spell out the programs of both, one set on
top of the other (`Program.spelled_append`). Main statement: two sources that compile, with
a line feed between them, compile to the rulesets of both and to the variables of the first
with those of the second set on top.
-/

namespace NestedStyles

section Stylesheets

variable (first second : List Node) (firstStart secondStart start : Position)

/-- Stylesheets one after another spell out their programs one on top of the other. -/
theorem Program.spelled_append :
    let program := Program.spelled (.branch .stylesheet first firstStart)
    let addition := Program.spelled (.branch .stylesheet second secondStart)
    Program.spelled (.branch .stylesheet (first ++ second) start) =
      ⟨program.initializer.override addition.initializer,
        program.rulesets ++ addition.rulesets⟩ := by
  dsimp only [Program.spelled, Node.childrenOf, Node.children]
  rw [Variables.override_ofList, List.filter_append, List.filter_append, List.map_append,
    List.map_append, Variables.ofList, Variables.setAll, List.foldl_append]
  rfl

/-- Stylesheets one after another are inspected one after another. -/
theorem inspect_stylesheet_append :
    inspect ((Node.branch .stylesheet (first ++ second) start).sites []) =
      inspect ((Node.branch .stylesheet first firstStart).sites []) >>= fun _ =>
        inspect ((Node.branch .stylesheet second secondStart).sites []) := by
  rw [Node.inspect_branch (by decide), Node.inspect_branch (by decide),
    Node.inspect_branch (by decide), Node.sitesAll_append, inspect_append]

end Stylesheets

namespace Source

/-- A line feed keeps the items of two texts apart. -/
theorem AreItems.readsAs_append {first second : List Node} (areItems : AreItems first)
    (areMore : AreItems second) :
    ReadsAs (Node.sourceAll first ++ '\n' :: Node.sourceAll second)
      (Node.normalizeAll (first ++ second)) := by
  have more : ReadsAs ('\n' :: Node.sourceAll second) (Node.normalizeAll second) :=
    ReadsAs.blank ⟨second, areMore, rfl, rfl⟩ rfl
  rw [Node.normalizeAll_append]
  apply more.append areItems
  intro _ _ _
  exact stops_cons.2 rfl

end Source

/-- Two sources that compile, with a line feed between them, compile to the rulesets of both
and to the variables of the first with those of the second set on top. -/
theorem ofSource_append {first second : String} {program addition : Program}
    (compiled : (Program.ofSource first).run.value = .ok program)
    (added : (Program.ofSource second).run.value = .ok addition) :
    (Program.ofSource (first ++ "\n" ++ second)).run.value =
      .ok ⟨program.initializer.override addition.initializer,
        program.rulesets ++ addition.rulesets⟩ := by
  obtain ⟨tree, read⟩ := exists_tree_of_compiled compiled
  obtain ⟨addedTree, readAdded⟩ := exists_tree_of_compiled added
  obtain ⟨innocent, rfl⟩ := (value_ofSource_eq_ok_iff read).1 compiled
  obtain ⟨innocentAdded, rfl⟩ := (value_ofSource_eq_ok_iff readAdded).1 added
  obtain ⟨@⟨items, start, areItems⟩, text, _⟩ := Source.readStylesheet_mirrors read
  obtain ⟨@⟨more, moreStart, areMore⟩, textAdded, _⟩ := Source.readStylesheet_mirrors readAdded
  have reads : Source.ReadsAs (first ++ "\n" ++ second).toList
      (Node.normalizeAll (items ++ more)) := by
    have apart := areItems.readsAs_append areMore
    rw [Node.source_stylesheet] at text textAdded
    rw [text, textAdded] at apart
    rwa [String.toList_append, String.toList_append, List.append_assoc]
  have each : ∀ item ∈ items ++ more, Source.IsItem item :=
    List.forall_mem_append.2 ⟨areItems.each, areMore.each⟩
  have unharmed : inspect ((Node.branch .stylesheet (items ++ more) start).sites []) = .ok () := by
    rw [inspect_stylesheet_append items more start moreStart start,
      inspect_eq_ok_iff.2 innocent, inspect_eq_ok_iff.2 innocentAdded]
    rfl
  apply reads.value_eq_ok start
  rw [Source.outcome_ofTree each start, vet_of_ok unharmed,
    Program.spelled_append items more start moreStart start]

/-- A variable set again keeps its place, and the first source ends inside a declaration. -/
theorem ofSource_append_unfinished :
    (Program.ofSource "$a:1;$b:2").run.value = .ok ⟨.ofList [("$a", "1"), ("$b", "2")], []⟩ ∧
      (Program.ofSource "$c:3;$a:4;x\x7by:$a\x7d").run.value =
        .ok ⟨.ofList [("$c", "3"), ("$a", "4")], [⟨["x"], .ofList [("y", "$a")], []⟩]⟩ ∧
      (Program.ofSource "$a:1;$b:2\n$c:3;$a:4;x\x7by:$a\x7d").run.value =
        .ok ⟨.ofList [("$a", "4"), ("$b", "2"), ("$c", "3")],
          [⟨["x"], .ofList [("y", "$a")], []⟩]⟩ := by
  have compiled : (Program.ofSource "$a:1;$b:2").run.value =
      .ok ⟨.ofList [("$a", "1"), ("$b", "2")], []⟩ := eq_ok_of_toOption (by decide +kernel)
  have added : (Program.ofSource "$c:3;$a:4;x\x7by:$a\x7d").run.value =
      .ok ⟨.ofList [("$c", "3"), ("$a", "4")], [⟨["x"], .ofList [("y", "$a")], []⟩]⟩ :=
    eq_ok_of_toOption (by decide +kernel)
  have text : "$a:1;$b:2" ++ "\n" ++ "$c:3;$a:4;x\x7by:$a\x7d" =
      "$a:1;$b:2\n$c:3;$a:4;x\x7by:$a\x7d" := by decide
  have merged : (Variables.ofList [("$a", "1"), ("$b", "2")]).override
      (.ofList [("$c", "3"), ("$a", "4")]) =
        .ofList [("$a", "4"), ("$b", "2"), ("$c", "3")] := by decide +kernel
  have both := ofSource_append compiled added
  rw [text, merged] at both
  exact ⟨compiled, added, both⟩

end NestedStyles
