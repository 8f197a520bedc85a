import NestedStyles.Tree.Kind

/-!
# Stylesheet trees

A node is a leaf with text or a branch with children, and knows where in a source
it starts. Every kind may occur as either, since trees are also built by hand; what
a kind must look like is for the reader of a tree to decide.
-/

namespace NestedStyles

/-- Where a piece of source starts. Lines and columns count from one; line zero
marks a place that was never read from a source. -/
structure Position where
  line : Nat
  column : Nat
deriving DecidableEq, Repr

namespace Position

/-- The position of a node that was built by hand. -/
def unknown : Position := ⟨0, 0⟩

/-- The position of the first character of every source. -/
def origin : Position := ⟨1, 1⟩

instance : Inhabited Position := ⟨unknown⟩

/-- A position is known when it has a line. -/
def IsKnown (position : Position) : Prop := position.line ≠ 0

instance (position : Position) : Decidable position.IsKnown :=
  inferInstanceAs (Decidable (_ ≠ _))

/-- The position as messages show it. -/
def display (position : Position) : String :=
  if position.IsKnown then s!"{position.line}:{position.column}" else "<unknown>"

end Position

/-- A node of a stylesheet tree. -/
inductive Node where
  | leaf (kind : Kind) (text : String) (start : Position)
  | branch (kind : Kind) (children : List Node) (start : Position)

namespace Node

mutual

/-- Decides whether two nodes agree in kind, content and position. -/
def decideEq : (first second : Node) → Decidable (first = second)
  | leaf kind text start, leaf kind' text' start' =>
      decidable_of_iff (kind = kind' ∧ text = text' ∧ start = start') (by simp)
  | branch kind children start, branch kind' children' start' =>
      have := decideEqAll children children'
      decidable_of_iff (kind = kind' ∧ children = children' ∧ start = start') (by simp)
  | leaf .., branch .. => isFalse (by simp)
  | branch .., leaf .. => isFalse (by simp)

/-- Decides whether two lists of nodes are equal. -/
def decideEqAll : (first second : List Node) → Decidable (first = second)
  | [], [] => isTrue rfl
  | node :: rest, node' :: rest' =>
      have := decideEq node node'
      have := decideEqAll rest rest'
      decidable_of_iff (node = node' ∧ rest = rest') (by simp)
  | [], _ :: _ => isFalse (by simp)
  | _ :: _, [] => isFalse (by simp)

end

instance : DecidableEq Node := decideEq

/-- What the node stands for. -/
def kind : Node → Kind
  | leaf kind .. => kind
  | branch kind .. => kind

/-- Where the node starts. -/
def start : Node → Position
  | leaf _ _ start => start
  | branch _ _ start => start

/-- The text of a leaf. -/
def text? : Node → Option String
  | leaf _ text _ => some text
  | branch .. => none

/-- The children of a branch; a leaf has none. -/
def children : Node → List Node
  | leaf .. => []
  | branch _ children _ => children

/-- Whether the node can take children. -/
def isBranch : Node → Bool
  | leaf .. => false
  | branch .. => true

/-- The node with one more child at the end; a leaf stays as it is. -/
def push (node child : Node) : Node :=
  match node with
  | leaf .. => node
  | branch kind children start => branch kind (children ++ [child]) start

/-- The node at another position. -/
def moveTo (node : Node) (start : Position) : Node :=
  match node with
  | leaf kind text _ => leaf kind text start
  | branch kind children _ => branch kind children start

end Node

end NestedStyles
