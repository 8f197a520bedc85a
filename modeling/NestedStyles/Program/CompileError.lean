import NestedStyles.Tree.Node

/-!
# Compile errors

Why a tree has no program.
-/

namespace NestedStyles

/-- A place in a stylesheet where only some constructs have a meaning. -/
inductive Place where
  | root
  | topLevel
  | definition
  | rulesetSelector
  | rulesetBlock
  | block
  | nestedPropertyName
  | propertyName
  | declarationValue
deriving DecidableEq

namespace Place

/-- The place in words. -/
def text : Place → String
  | root => "as the stylesheet root"
  | topLevel => "at the top level"
  | definition => "at the top level (only variable definitions are allowed)"
  | rulesetSelector => "in place of a ruleset selector"
  | rulesetBlock => "in place of a ruleset block"
  | block => "inside a block"
  | nestedPropertyName => "as a property name inside a block"
  | propertyName => "in a property name"
  | declarationValue => "as a declaration value"

end Place

/-- What keeps a node from being what its kind promises. -/
inductive Flaw where
  | rulesetParts
  | noAlternatives
  | declarationParts
  | noPropertyName
  | valueTerms
  | variableParts
  | dimensionParts
  | noIdentifier
  | noLiteral
deriving DecidableEq

namespace Flaw

/-- The flaw in words. -/
def text : Flaw → String
  | rulesetParts => "expected a selector followed by a block"
  | noAlternatives => "selector has no alternatives"
  | declarationParts => "expected a property followed by a value"
  | noPropertyName => "empty property name"
  | valueTerms => "a value must hold exactly one term"
  | variableParts => "expected an identifier or dimension name"
  | dimensionParts => "expected a number followed by a unit"
  | noIdentifier => "missing identifier"
  | noLiteral => "expected a literal, found child nodes"

end Flaw

/-- Why a tree has no program. Every error names the kind and the position of the
node at fault. -/
inductive CompileError where
  | unsupportedConstruct (kind : Kind) (place : Place) (position : Position)
  | malformedSelector (kind : Kind) (position : Position)
  | malformedNode (kind : Kind) (flaw : Flaw) (position : Position)
deriving DecidableEq

namespace CompileError

/-- The error for a node that has no meaning at its place. -/
def unsupported (node : Node) (place : Place) : CompileError :=
  .unsupportedConstruct node.kind place node.start

/-- The error for a node that is no part of a selector. -/
def notInSelector (node : Node) : CompileError :=
  .malformedSelector node.kind node.start

/-- The error for a node with a flaw. -/
def malformed (node : Node) (flaw : Flaw) : CompileError :=
  .malformedNode node.kind flaw node.start

/-- The error as it is reported. -/
def message : CompileError → String
  | unsupportedConstruct kind place position =>
      s!"unsupported construct `{kind.name}` {place.text} at {position.display}"
  | malformedSelector kind position =>
      s!"malformed selector: cannot interpret `{kind.name}` at {position.display}"
  | malformedNode kind flaw position =>
      s!"malformed `{kind.name}` at {position.display}: {flaw.text}"

end CompileError

end NestedStyles
