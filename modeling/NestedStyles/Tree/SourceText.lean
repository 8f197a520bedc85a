import NestedStyles.Tree.Node

/-!
# The source text of a tree

The characters that a tree was read from: its leaves in order, with the marks
that a node's kind implies and no leaf holds.
-/

namespace NestedStyles

namespace Kind

/-- The mark in front of a node of the kind. -/
def openingMark : Kind → List Char
  | classSelector => ['.']
  | idSelector => ['#']
  | variableName => ['$']
  | block => ['{']
  | comment => ['/', '*']
  | _ => []

/-- The mark behind a node of the kind. -/
def closingMark : Kind → List Char
  | block => ['}']
  | comment => ['*', '/']
  | _ => []

end Kind

namespace Node

mutual

/-- The characters a node stands for. -/
def source : Node → List Char
  | leaf kind text _ => kind.openingMark ++ text.toList ++ kind.closingMark
  | branch kind children _ => kind.openingMark ++ sourceAll children ++ kind.closingMark

/-- The characters a list of nodes stands for. -/
def sourceAll : List Node → List Char
  | [] => []
  | node :: rest => node.source ++ sourceAll rest

end

/-- The source text of a node. -/
def sourceText (node : Node) : String := String.ofList node.source

end Node

end NestedStyles
