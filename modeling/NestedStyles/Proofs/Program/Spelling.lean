import NestedStyles.Program.Basic
import NestedStyles.Proofs.Program.Site
import NestedStyles.Tree.SourceText

/-!
# Programs spelled out

The program that a tree spells out in the very words of its source: names, values
and selectors are source texts of nodes, and rulesets correspond one to one to the
nodes of their kind. Nothing is checked here, so every tree spells out some program.
-/

namespace NestedStyles

namespace Node

/-- The source text of the children of a kind. -/
def textOf (kind : Kind) (node : Node) : String :=
  String.join ((node.childrenOf kind).map sourceText)

/-- The property and the value of a declaration. -/
def spelledDeclaration (node : Node) : String × String :=
  (node.textOf .property, node.textOf .value)

/-- A class, an id or a type selector. -/
def IsAlternative (node : Node) : Prop :=
  node.kind = .classSelector ∨ node.kind = .idSelector ∨ node.kind = .typeSelector

instance (node : Node) : Decidable node.IsAlternative :=
  inferInstanceAs (Decidable (_ ∨ _ ∨ _))

/-- The alternatives of a ruleset's selector. -/
def alternatives (node : Node) : List Node :=
  (node.childrenOf .selector).flatMap fun selector => selector.children.filter (·.IsAlternative)

/-- What the block of a ruleset holds. -/
def blockItems (node : Node) : List Node := (node.childrenOf .block).flatMap children

/-- Children are smaller than their node, so that recursion may go down to them. -/
theorem sizeOf_lt_of_mem_children {node child : Node} (member : child ∈ node.children) :
    sizeOf child < sizeOf node := by
  cases node with
  | leaf kind text start => cases member
  | branch kind children start =>
      have := List.sizeOf_lt_of_mem member
      simp only [branch.sizeOf_spec, Node.children] at this ⊢
      omega

theorem sizeOf_lt_of_mem_blockItems {node item : Node} (member : item ∈ node.blockItems) :
    sizeOf item < sizeOf node := by
  obtain ⟨block, present, inside⟩ := List.mem_flatMap.1 member
  exact Nat.lt_trans (sizeOf_lt_of_mem_children inside)
    (sizeOf_lt_of_mem_children (List.mem_filter.1 present).1)

end Node

/-- The ruleset that a node spells out: the alternatives of its selector, the
declarations of its block, and the rulesets among the items of its block. -/
def Ruleset.spelled (node : Node) : Ruleset :=
  let rulesets := node.blockItems.filter (·.kind = .ruleset)
  { selectors := node.alternatives.map Node.sourceText
    declarations := .ofList
      ((node.blockItems.filter (·.kind = .declaration)).map Node.spelledDeclaration)
    nested := rulesets.attach.map fun ⟨item, _⟩ => Ruleset.spelled item }
termination_by sizeOf node
decreasing_by
  exact Node.sizeOf_lt_of_mem_blockItems (List.mem_filter.1 ‹_›).1

/-- What a ruleset spells out, without the membership proofs of the recursion. -/
theorem Ruleset.spelled_eq (node : Node) :
    Ruleset.spelled node =
      { selectors := node.alternatives.map Node.sourceText
        declarations := .ofList
          ((node.blockItems.filter (·.kind = .declaration)).map Node.spelledDeclaration)
        nested := (node.blockItems.filter (·.kind = .ruleset)).map Ruleset.spelled } := by
  rw [Ruleset.spelled]
  congr 1
  exact List.attach_map_val ..

/-- The program that a stylesheet spells out. -/
def Program.spelled (tree : Node) : Program where
  initializer := .ofList ((tree.childrenOf .declaration).map Node.spelledDeclaration)
  rulesets := (tree.childrenOf .ruleset).map Ruleset.spelled

end NestedStyles
