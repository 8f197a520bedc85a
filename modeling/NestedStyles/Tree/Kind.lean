/-!
# Kinds of tree nodes
-/

namespace NestedStyles

/-- What a node of a stylesheet tree stands for. A kind outside the fixed list
is kept under its own name and never counts as one of the listed kinds, even if
it is spelled like one. -/
inductive Kind where
  | stylesheet
  | ruleset
  | selector
  | block
  | declaration
  | property
  | value
  | ident
  | classSelector
  | idSelector
  | typeSelector
  | dimension
  | number
  | variableName
  | space
  | declarationDelimiter
  | propertyDelimiter
  | delimiter
  | comment
  | other (name : String)
deriving DecidableEq, Repr

namespace Kind

/-- The kinds of the fixed list. -/
def listed : List Kind :=
  [stylesheet, ruleset, selector, block, declaration, property, value, ident,
    classSelector, idSelector, typeSelector, dimension, number, variableName,
    space, declarationDelimiter, propertyDelimiter, delimiter, comment]

/-- The name that messages and other tools use for a kind. -/
def name : Kind → String
  | stylesheet => "stylesheet"
  | ruleset => "ruleset"
  | selector => "selector"
  | block => "block"
  | declaration => "declaration"
  | property => "property"
  | value => "value"
  | ident => "ident"
  | classSelector => "class"
  | idSelector => "id"
  | typeSelector => "typeSelector"
  | dimension => "dimension"
  | number => "number"
  | variableName => "variable"
  | space => "space"
  | declarationDelimiter => "declarationDelimiter"
  | propertyDelimiter => "propertyDelimiter"
  | delimiter => "delimiter"
  | comment => "multilineComment"
  | other name => name

/-- The listed kind of that name, or else a kind outside the list. -/
def ofName (text : String) : Kind :=
  (listed.find? (·.name = text)).getD (other text)

/-- The kinds that only lay a stylesheet out: blank space and the marks between
and inside declarations. -/
def IsInsignificant (kind : Kind) : Prop :=
  kind = space ∨ kind = declarationDelimiter ∨ kind = propertyDelimiter

instance (kind : Kind) : Decidable kind.IsInsignificant :=
  inferInstanceAs (Decidable (_ ∨ _ ∨ _))

end Kind

end NestedStyles
