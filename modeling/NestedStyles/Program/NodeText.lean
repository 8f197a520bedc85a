import NestedStyles.Program.CompileError
import NestedStyles.Variables

/-!
# Texts of names, values and selectors

What the parts of declarations and selectors say, as text.
-/

namespace NestedStyles

namespace Node

/-- The text of a node that must be a leaf. -/
def literal : Node → Except CompileError String
  | leaf _ text _ => .ok text
  | node => .error (.malformed node .noLiteral)

/-- A number and its unit, written together. -/
def dimensionText (node : Node) : Except CompileError String :=
  match node.children with
  | [number, unit] => do
      let number ← number.literal
      let unit ← unit.literal
      return number ++ unit
  | _ => .error (.malformed node .dimensionParts)

/-- The name of a variable behind its sign. -/
def variableText (node : Node) : Except CompileError String :=
  match node.children with
  | [name] =>
      match name.kind with
      | .ident => return sigil.toString ++ (← name.literal)
      | .dimension => return sigil.toString ++ (← name.dimensionText)
      | _ => .error (.malformed node .variableParts)
  | _ => .error (.malformed node .variableParts)

/-- The one term of a declaration's value. -/
def valueText (node : Node) : Except CompileError String :=
  match node.children with
  | [term] =>
      match term.kind with
      | .ident | .number => term.literal
      | .dimension => term.dimensionText
      | .variableName => term.variableText
      | _ => .error (.unsupported term .declarationValue)
  | _ => .error (.malformed node .valueTerms)

/-- One part of a property name inside a block. -/
def propertyPart (node : Node) : Except CompileError String :=
  match node.kind with
  | .ident => node.literal
  | .variableName => .error (.unsupported node .nestedPropertyName)
  | _ => .error (.unsupported node .propertyName)

/-- A property name inside a block: its parts, written together. -/
def propertyText (node : Node) : Except CompileError String := do
  let name := String.join (← node.children.mapM propertyPart)
  if name = "" then
    throw (.malformed node .noPropertyName)
  return name

/-- One part of the name in a class or type selector. -/
def identPart (node : Node) : Except CompileError String :=
  match node.kind with
  | .ident => node.literal
  | _ => .error (.notInSelector node)

/-- The name in a class or type selector: its parts, written together. -/
def identText (node : Node) : Except CompileError String := do
  let name := String.join (← node.children.mapM identPart)
  if name = "" then
    throw (.malformed node .noIdentifier)
  return name

/-- A child of a selector: an alternative, or a delimiter between two. -/
def alternative? (node : Node) : Except CompileError (Option String) :=
  match node.kind with
  | .classSelector => return some ("." ++ (← node.identText))
  | .typeSelector => return some (← node.identText)
  | .delimiter => return none
  | _ => .error (.notInSelector node)

/-- The alternatives of a selector, of which there must be one. -/
def selectorGroup (node : Node) : Except CompileError (List String) := do
  match (← node.children.mapM alternative?).filterMap id with
  | [] => throw (.malformed node .noAlternatives)
  | group => return group

/-- The property and the value of a declaration. -/
def declarationParts (node : Node) : Except CompileError (Node × Node) :=
  match node.children with
  | [property, value] =>
      if property.kind = .property ∧ value.kind = .value then
        .ok (property, value)
      else
        .error (.malformed node .declarationParts)
  | _ => .error (.malformed node .declarationParts)

/-- A declaration inside a block: its property and its value. -/
def declarationText (node : Node) : Except CompileError (String × String) := do
  let (property, value) ← node.declarationParts
  let name ← property.propertyText
  let value ← value.valueText
  return (name, value)

/-- A declaration at the top level, which must define a variable: the variable
and its value. -/
def definitionText (node : Node) : Except CompileError (String × String) := do
  let (property, value) ← node.declarationParts
  match property.children with
  | [variableName] =>
      if variableName.kind = .variableName then
        let name ← variableName.variableText
        let value ← value.valueText
        return (name, value)
      else
        throw (.unsupported node .definition)
  | _ => throw (.unsupported node .definition)

end Node

end NestedStyles
