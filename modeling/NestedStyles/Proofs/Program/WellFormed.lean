import NestedStyles.Proofs.Program.Compiling

/-!
# Compiled programs are well formed

A tree that was built by hand may hold any node anywhere. What compiles is well formed all the
same: wherever a name is needed, one was checked for on the way. One item of a level keeps what
has been collected well formed (`Collector.add_eq_ok`), so all items do
(`Collector.foldlM_induction`), and a ruleset is well formed if those in its block are.
Main statement: the rulesets of a compiled program are well formed at every depth.
-/

namespace NestedStyles

/-- Rulesets that lack no selector and no name, at every depth. -/
inductive Ruleset.IsWellFormed : Ruleset → Prop where
  | intro {selectors : SelectorGroup} {declarations : Declarations} {nested : List Ruleset} :
      selectors ≠ [] → (∀ selector ∈ selectors, selector ≠ "") →
      declarations.names.Nodup → (∀ name ∈ declarations.names, name ≠ "") →
      (∀ ruleset ∈ nested, ruleset.IsWellFormed) →
      IsWellFormed ⟨selectors, declarations, nested⟩

/-- What a block holds, with every property named. -/
structure BlockContents.IsWellFormed (contents : BlockContents) : Prop where
  named : ∀ name ∈ contents.declarations.names, name ≠ ""
  nested : ∀ ruleset ∈ contents.nested, ruleset.IsWellFormed

/-- Programs of well-formed rulesets, with the signs of their variables. -/
structure Program.IsWellFormed (program : Program) : Prop where
  distinct : program.initializer.names.Nodup
  signed : ∀ name ∈ program.initializer.names, IsReference name
  rulesets : ∀ ruleset ∈ program.rulesets, ruleset.IsWellFormed

open CompileM

section Successes

variable {ε α β : Type}

theorem bind_eq_ok_iff {first : Except ε α} {next : α → Except ε β} {value : β} :
    first >>= next = .ok value ↔ ∃ middle, first = .ok middle ∧ next middle = .ok value := by
  cases first <;> simp [bind, Except.bind]

/-- What a successful pass over a list returns was taken from its members. -/
theorem exists_of_mem_mapM {take : α → Except ε β} {items : List α} {values : List β}
    (taken : items.mapM take = .ok values) :
    ∀ value ∈ values, ∃ item ∈ items, take item = .ok value := by
  induction items generalizing values with
  | nil =>
      obtain rfl : [] = values := Except.ok.inj taken
      exact List.forall_mem_nil _
  | cons item items ih =>
      rw [List.mapM_cons] at taken
      obtain ⟨first, here, taken⟩ := bind_eq_ok_iff.1 taken
      obtain ⟨others, later, taken⟩ := bind_eq_ok_iff.1 taken
      obtain rfl : first :: others = values := Except.ok.inj taken
      refine List.forall_mem_cons.2 ⟨⟨item, List.mem_cons_self, here⟩, ?_⟩
      intro value member
      obtain ⟨source, present, taken⟩ := ih later value member
      exact ⟨source, List.mem_cons_of_mem item present, taken⟩

end Successes

namespace Node

variable {node : Node}

/-- A name of several parts is checked once they are joined. -/
theorem joined_ne_empty {part : Node → Except CompileError String} {error : CompileError}
    {name : String}
    (named : (do
      let name := String.join (← node.children.mapM part)
      if name = "" then
        throw error
      return name) = Except.ok name) : name ≠ "" := by
  obtain ⟨parts, _, checked⟩ := bind_eq_ok_iff.1 named
  dsimp only at checked
  split at checked
  · cases checked
  · next present =>
      obtain rfl := Except.ok.inj checked
      exact present

/-- A declaration that compiles names its property. -/
theorem declarationText_ne_empty {entry : String × String}
    (declared : node.declarationText = .ok entry) : entry.1 ≠ "" := by
  obtain ⟨parts, _, declared⟩ := bind_eq_ok_iff.1 declared
  obtain ⟨name, named, declared⟩ := bind_eq_ok_iff.1 declared
  obtain ⟨value, _, declared⟩ := bind_eq_ok_iff.1 declared
  obtain rfl := Except.ok.inj declared
  exact joined_ne_empty named

/-- An alternative that compiles has a text. -/
theorem alternative?_ne_empty {text : String} (chosen : node.alternative? = .ok (some text)) :
    text ≠ "" := by
  unfold alternative? at chosen
  split at chosen
  · obtain ⟨name, _, chosen⟩ := bind_eq_ok_iff.1 chosen
    obtain rfl := Option.some.inj (Except.ok.inj chosen)
    simp
  · obtain ⟨name, named, chosen⟩ := bind_eq_ok_iff.1 chosen
    obtain rfl := Option.some.inj (Except.ok.inj chosen)
    exact joined_ne_empty named
  · cases chosen
  · cases chosen

/-- A selector that compiles has alternatives, and each has a text. -/
theorem selectorGroup_ne_nil {group : SelectorGroup} (grouped : node.selectorGroup = .ok group) :
    group ≠ [] ∧ ∀ selector ∈ group, selector ≠ "" := by
  obtain ⟨options, taken, grouped⟩ := bind_eq_ok_iff.1 grouped
  split at grouped
  · cases grouped
  · next some =>
      obtain rfl := Except.ok.inj grouped
      refine ⟨some, ?_⟩
      intro selector member
      obtain ⟨option, among, rfl⟩ := List.mem_filterMap.1 member
      obtain ⟨child, _, chosen⟩ := exists_of_mem_mapM taken _ among
      exact alternative?_ne_empty chosen

end Node

namespace Collector

variable {σ : Type} {collector : Collector σ}

/-- An item is a declaration that says something, or a ruleset that compiles. -/
theorem add_eq_ok {state after : σ} {item : Node}
    (added : (collector.add state item).outcome = .ok after) :
    (∃ entry, collector.text item = .ok entry ∧ after = collector.declare state entry) ∨
      ∃ ruleset, (Ruleset.ofNode item).outcome = .ok ruleset ∧
        after = collector.nest state ruleset := by
  unfold add at added
  split at added
  · rw [outcome_bind] at added
    obtain ⟨entry, said, added⟩ := bind_eq_ok_iff.1 added
    exact .inl ⟨entry, said, (Except.ok.inj added).symm⟩
  · rw [outcome_bind] at added
    obtain ⟨ruleset, compiled, added⟩ := bind_eq_ok_iff.1 added
    exact .inr ⟨ruleset, compiled, (Except.ok.inj added).symm⟩
  · cases added

/-- What declarations and compiled rulesets keep, a whole level keeps. -/
theorem foldlM_induction (Invariant : σ → Prop) {items : List Node}
    (declare : ∀ state entry, ∀ item ∈ items, Invariant state → collector.text item = .ok entry →
      Invariant (collector.declare state entry))
    (nest : ∀ state ruleset, ∀ item ∈ items, Invariant state →
      (Ruleset.ofNode item).outcome = .ok ruleset → Invariant (collector.nest state ruleset))
    {state after : σ} (collected : outcome (items.foldlM collector.add state) = .ok after)
    (initial : Invariant state) : Invariant after := by
  induction items generalizing state with
  | nil =>
      obtain rfl : state = after := Except.ok.inj collected
      exact initial
  | cons item items ih =>
      rw [List.foldlM_cons, outcome_bind] at collected
      obtain ⟨middle, added, collected⟩ := bind_eq_ok_iff.1 collected
      refine ih (fun state entry item member => declare state entry item (.tail _ member))
        (fun state ruleset item member => nest state ruleset item (.tail _ member)) collected ?_
      rcases add_eq_ok added with ⟨entry, said, rfl⟩ | ⟨ruleset, compiled, rfl⟩
      · exact declare state entry item List.mem_cons_self initial said
      · exact nest state ruleset item List.mem_cons_self initial compiled

end Collector

/-- A pair that compiles gives the selectors of its selector and the contents of its block. -/
theorem Ruleset.exists_contents_of_compiled {kind : Kind} {selector block : Node}
    {start : Position} {ruleset : Ruleset}
    (compiled : (Ruleset.ofNode (.branch kind [selector, block] start)).outcome = .ok ruleset) :
    ∃ contents, selector.selectorGroup = .ok ruleset.selectors ∧
      outcome (block.children.foldlM Collector.block.add {}) = .ok contents ∧
      ruleset = ⟨ruleset.selectors, contents.declarations, contents.nested⟩ := by
  rw [outcome_ofNode_pair] at compiled
  split at compiled
  · cases compiled
  · split at compiled
    · cases compiled
    · obtain ⟨selectors, grouped, compiled⟩ := bind_eq_ok_iff.1 compiled
      obtain ⟨contents, collected, compiled⟩ := bind_eq_ok_iff.1 compiled
      obtain rfl := Except.ok.inj compiled
      exact ⟨contents, grouped, collected, rfl⟩

/-- A block is well formed if its rulesets are. -/
theorem BlockContents.isWellFormed_of_collected {items : List Node} {contents : BlockContents}
    (each : ∀ item ∈ items, ∀ ruleset, (Ruleset.ofNode item).outcome = .ok ruleset →
      ruleset.IsWellFormed)
    (collected : outcome (items.foldlM Collector.block.add {}) = .ok contents) :
    contents.IsWellFormed := by
  refine Collector.foldlM_induction IsWellFormed ?_ ?_ collected
    ⟨List.forall_mem_nil _, List.forall_mem_nil _⟩
  · intro contents entry item _ wellFormed said
    refine ⟨?_, wellFormed.nested⟩
    intro name present
    rcases Table.mem_names_insert.1 present with earlier | rfl
    · exact wellFormed.named name earlier
    · exact Node.declarationText_ne_empty said
  · intro contents ruleset item member wellFormed compiled
    exact ⟨wellFormed.named, List.forall_mem_append.2
      ⟨wellFormed.nested, List.forall_mem_singleton.2 (each item member ruleset compiled)⟩⟩

/-- Compiled rulesets are well formed. -/
theorem Ruleset.isWellFormed_of_compiled {node : Node} {ruleset : Ruleset}
    (compiled : (Ruleset.ofNode node).outcome = .ok ruleset) : ruleset.IsWellFormed := by
  induction node using Node.rulesetInduction generalizing ruleset with
  | other node parts =>
      rw [Ruleset.ofNode_eq_throw parts] at compiled
      cases compiled
  | pair kind selector block start ih =>
      obtain ⟨contents, grouped, collected, whole⟩ := exists_contents_of_compiled compiled
      obtain ⟨some, texts⟩ := Node.selectorGroup_ne_nil grouped
      have wellFormed : contents.IsWellFormed :=
        BlockContents.isWellFormed_of_collected (fun item member _ => ih item member) collected
      rw [whole]
      exact .intro some texts contents.declarations.distinct wellFormed.named wellFormed.nested

/-- Whatever tree it comes from, a compiled program is well-formed. -/
theorem Program.isWellFormed_of_compiled {tree : Node} {program : Program}
    (compiled : (ofTree tree).outcome = .ok program) : program.IsWellFormed := by
  refine ⟨program.initializer.distinct, program.initializer.signed, ?_⟩
  rw [outcome_ofTree_eq] at compiled
  split at compiled
  · cases compiled
  · refine Collector.foldlM_induction (∀ ruleset ∈ ·.rulesets, ruleset.IsWellFormed) ?_ ?_
      compiled (List.forall_mem_nil _)
    · intro program entry item _ rulesets _
      exact rulesets
    · intro program ruleset item _ rulesets compiled
      exact List.forall_mem_append.2
        ⟨rulesets, List.forall_mem_singleton.2 (Ruleset.isWellFormed_of_compiled compiled)⟩

end NestedStyles
