import NestedStyles.Source.Scan
import NestedStyles.Tree.SourceText

/-!
# Trees in their places

A tree is in its place when every node's position is the one that a locator gives
for the text from that node on.
-/

namespace NestedStyles

/-- A kind whose nodes add no marks of their own to the text. -/
structure Kind.IsUnmarked (kind : Kind) : Prop where
  opening : kind.openingMark = []
  closing : kind.closingMark = []

namespace Node

mutual

/-- The node with the positions it has where `rest` follows it. -/
def place (locate : Source.Locator) (rest : List Char) : Node → Node
  | leaf kind text start =>
      leaf kind text (locate (.ofList ((leaf kind text start).source ++ rest)))
  | branch kind children start =>
      branch kind (placeAll locate (kind.closingMark ++ rest) children)
        (locate (.ofList ((branch kind children start).source ++ rest)))

/-- The nodes with the positions they have where `rest` follows them. -/
def placeAll (locate : Source.Locator) (rest : List Char) : List Node → List Node
  | [] => []
  | node :: nodes => node.place locate (sourceAll nodes ++ rest) :: placeAll locate rest nodes

end

mutual

/-- The node without its positions. -/
def unplaced : Node → Node
  | leaf kind text _ => leaf kind text .unknown
  | branch kind children _ => branch kind (unplacedAll children) .unknown

/-- The nodes without their positions. -/
def unplacedAll : List Node → List Node
  | [] => []
  | node :: nodes => node.unplaced :: unplacedAll nodes

end

mutual

/-- The node and all nodes below it, each with the text in front of it, where `before` is
in front of the whole. -/
def occurrences (before : List Char) : Node → List (List Char × Node)
  | leaf kind text start => [(before, leaf kind text start)]
  | branch kind children start =>
      (before, branch kind children start) ::
        occurrencesAll (before ++ kind.openingMark) children

/-- The occurrences in a list of nodes. -/
def occurrencesAll (before : List Char) : List Node → List (List Char × Node)
  | [] => []
  | node :: nodes => node.occurrences before ++ occurrencesAll (before ++ node.source) nodes

end

theorem sourceAll_append (first second : List Node) :
    sourceAll (first ++ second) = sourceAll first ++ sourceAll second := by
  induction first with
  | nil => rfl
  | cons node nodes ih => rw [List.cons_append, sourceAll, sourceAll, ih, List.append_assoc]

theorem sourceAll_singleton (node : Node) : sourceAll [node] = node.source := by
  rw [sourceAll, sourceAll, List.append_nil]

theorem source_stylesheet (items : List Node) (start : Position) :
    (branch .stylesheet items start).source = sourceAll items := by
  rw [source]
  exact List.append_nil (sourceAll items)

/-- The earlier ones of some nodes have the text of the later ones behind them. -/
theorem placeAll_append (locate : Source.Locator) (rest : List Char)
    (first second : List Node) :
    placeAll locate rest (first ++ second) =
      placeAll locate (sourceAll second ++ rest) first ++ placeAll locate rest second := by
  induction first with
  | nil => rfl
  | cons node nodes ih =>
      rw [List.cons_append, placeAll, placeAll, ih, sourceAll_append, List.append_assoc,
        List.cons_append]

mutual

theorem unplaced_place (locate : Source.Locator) (rest : List Char) :
    (node : Node) → (node.place locate rest).unplaced = node.unplaced
  | leaf .. => rfl
  | branch kind children start => by
      rw [place, unplaced, unplaced, unplacedAll_placeAll]

theorem unplacedAll_placeAll (locate : Source.Locator) (rest : List Char) :
    (nodes : List Node) → unplacedAll (placeAll locate rest nodes) = unplacedAll nodes
  | [] => rfl
  | node :: nodes => by
      rw [placeAll, unplacedAll, unplacedAll, unplaced_place, unplacedAll_placeAll]

end

mutual

/-- In a tree that is in its place, every node starts where the locator puts the text
from it on. -/
theorem start_of_mem_occurrences {locate : Source.Locator} {occurrence : List Char × Node} :
    {node : Node} → {before rest : List Char} → node.place locate rest = node →
      occurrence ∈ node.occurrences before →
      ∃ after, before ++ node.source ++ rest =
          occurrence.1 ++ (occurrence.2.source ++ after) ∧
        occurrence.2.start = locate (.ofList (occurrence.2.source ++ after))
  | leaf kind text start, before, rest, placed, member => by
      rw [occurrences, List.mem_singleton] at member
      subst member
      exact ⟨rest, List.append_assoc .., congrArg Node.start placed.symm⟩
  | branch kind children start, before, rest, placed, member => by
      rw [occurrences, List.mem_cons] at member
      rcases member with rfl | below
      · exact ⟨rest, List.append_assoc .., congrArg Node.start placed.symm⟩
      · have placedBelow : placeAll locate (kind.closingMark ++ rest) children = children :=
          congrArg Node.children placed
        obtain ⟨after, split, starts⟩ := start_of_mem_occurrencesAll placedBelow below
        refine ⟨after, ?_, starts⟩
        rw [← split, source]
        simp only [List.append_assoc]

/-- Where nodes are in their places, so is every node below them: it starts behind the text in
front of it. -/
theorem start_of_mem_occurrencesAll {locate : Source.Locator}
    {occurrence : List Char × Node} :
    {nodes : List Node} → {before rest : List Char} → placeAll locate rest nodes = nodes →
      occurrence ∈ occurrencesAll before nodes →
      ∃ after, before ++ sourceAll nodes ++ rest =
          occurrence.1 ++ (occurrence.2.source ++ after) ∧
        occurrence.2.start = locate (.ofList (occurrence.2.source ++ after))
  | [], _, _, _, member => nomatch member
  | node :: nodes, before, rest, placed, member => by
      rw [placeAll, List.cons.injEq] at placed
      rw [occurrencesAll, List.mem_append] at member
      rw [sourceAll]
      rcases member with inFirst | inLater
      · obtain ⟨after, split, starts⟩ := start_of_mem_occurrences placed.1 inFirst
        refine ⟨after, ?_, starts⟩
        rw [← split]
        simp only [List.append_assoc]
      · obtain ⟨after, split, starts⟩ := start_of_mem_occurrencesAll placed.2 inLater
        refine ⟨after, ?_, starts⟩
        rw [← split]
        simp only [List.append_assoc]

end

end Node

namespace Source

/-- Nodes that stand for the text between two unread ends of a source, and are in
their places there. -/
structure Mirrors (locate : Locator) (nodes : List Node) (input rest : Unread) : Prop where
  text : input.text = Node.sourceAll nodes ++ rest.text
  placed : Node.placeAll locate rest.text nodes = nodes

namespace Mirrors

variable {locate : Locator} {input between rest : Unread}

theorem nil : Mirrors locate [] input input := ⟨rfl, rfl⟩

theorem append {first second : List Node} (before : Mirrors locate first input between)
    (after : Mirrors locate second between rest) :
    Mirrors locate (first ++ second) input rest := by
  constructor
  · rw [Node.sourceAll_append, List.append_assoc, ← after.text, before.text]
  · rw [Node.placeAll_append, ← after.text, before.placed, after.placed]

theorem cons {node : Node} {nodes : List Node} (before : Mirrors locate [node] input between)
    (after : Mirrors locate nodes between rest) : Mirrors locate (node :: nodes) input rest :=
  before.append after

/-- A leaf mirrors its marks and the text between them. -/
theorem leaf {kind : Kind} {text : List Char}
    (split : input.text = kind.openingMark ++ text ++ kind.closingMark ++ rest.text) :
    Mirrors locate [.leaf kind (String.ofList text) (locate input)] input rest := by
  have whole : input.text = Node.sourceAll [.leaf kind (String.ofList text) (locate input)] ++
      rest.text := by
    rw [Node.sourceAll_singleton, Node.source, String.toList_ofList, split]
  refine ⟨whole, ?_⟩
  rw [Node.sourceAll_singleton] at whole
  rw [Node.placeAll, Node.placeAll, Node.place, Node.sourceAll, List.nil_append, ← whole,
    Unread.ofList_text]

/-- A branch mirrors its marks and what its children mirror. -/
theorem branch {kind : Kind} {children : List Node} {behind : Unread}
    (inside : Mirrors locate children between behind)
    (opens : input.text = kind.openingMark ++ between.text)
    (closes : behind.text = kind.closingMark ++ rest.text) :
    Mirrors locate [.branch kind children (locate input)] input rest := by
  have whole : input.text = Node.sourceAll [.branch kind children (locate input)] ++
      rest.text := by
    rw [Node.sourceAll_singleton, Node.source, opens, inside.text, closes]
    simp only [List.append_assoc]
  refine ⟨whole, ?_⟩
  rw [Node.sourceAll_singleton] at whole
  rw [Node.placeAll, Node.placeAll, Node.place, Node.sourceAll, List.nil_append, ← whole,
    Unread.ofList_text, ← closes, inside.placed]

end Mirrors

end Source

end NestedStyles
