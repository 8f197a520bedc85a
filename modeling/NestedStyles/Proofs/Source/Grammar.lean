import Mathlib.Data.List.Chain
import NestedStyles.Proofs.Source.Words
import NestedStyles.Tree.SourceText

/-!
# The grammar of stylesheet trees

Which trees a source can have: the shape of each kind of node, and what may stand
next to what in a list of items. Positions are left open.
-/

namespace NestedStyles.Source

section Shapes

/-- The leaves of a kind with a text of a class. -/
inductive IsLeaf (kind : Kind) (texts : List Char → Prop) : Node → Prop where
  | intro {text : String} (start : Position) :
      texts text.toList → IsLeaf kind texts (.leaf kind text start)

abbrev IsMark (kind : Kind) (c : Char) : Node → Prop := IsLeaf kind (· = [c])
abbrev IsSpace : Node → Prop := IsLeaf .space IsBlankText
abbrev IsComment : Node → Prop := IsLeaf .comment IsCommentText
abbrev IsIdent : Node → Prop := IsLeaf .ident IsIdentText
abbrev IsNumber : Node → Prop := IsLeaf .number IsNumberText

/-- A number with its unit. -/
inductive IsDimension : Node → Prop where
  | intro {number unit : Node} (start : Position) :
      IsNumber number → IsIdent unit → IsDimension (.branch .dimension [number, unit] start)

/-- A variable's name is an identifier unless that reads as a dimension. -/
inductive IsVariable : Node → Prop where
  | dimension {name : Node} (start : Position) :
      IsDimension name → IsVariable (.branch .variableName [name] start)
  | ident {name : Node} (start : Position) :
      IsLeaf .ident (fun text => IsIdentText text ∧ ¬ StartsNegativeDimension text) name →
      IsVariable (.branch .variableName [name] start)

inductive IsProperty : Node → Prop where
  | variableName {name : Node} (start : Position) :
      IsVariable name → IsProperty (.branch .property [name] start)
  | ident {name : Node} (start : Position) :
      IsIdent name → IsProperty (.branch .property [name] start)

/-- The term of a value is an identifier unless that starts as a number does. -/
inductive IsTerm : Node → Prop where
  | variableName {term : Node} : IsVariable term → IsTerm term
  | dimension {term : Node} : IsDimension term → IsTerm term
  | number {term : Node} : IsNumber term → IsTerm term
  | ident {term : Node} :
      IsLeaf .ident (fun text => IsIdentText text ∧ ¬ StartsNegative text) term → IsTerm term

inductive IsValue : Node → Prop where
  | intro {term : Node} (start : Position) :
      IsTerm term → IsValue (.branch .value [term] start)

inductive IsDeclaration : Node → Prop where
  | intro {property colon value : Node} {before after : Option Node} (start : Position) :
      IsProperty property → (∀ space ∈ before, IsSpace space) →
      IsMark .propertyDelimiter ':' colon → (∀ space ∈ after, IsSpace space) →
      IsValue value →
      IsDeclaration (.branch .declaration
        (property :: before.toList ++ colon :: after.toList ++ [value]) start)

inductive IsSimpleSelector : Node → Prop where
  | ofClass {name : Node} (start : Position) :
      IsIdent name → IsSimpleSelector (.branch .classSelector [name] start)
  | ofId {name : Node} (start : Position) :
      IsIdent name → IsSimpleSelector (.branch .idSelector [name] start)
  | ofType {name : Node} (start : Position) :
      IsIdent name → IsSimpleSelector (.branch .typeSelector [name] start)

/-- A comma, the selector behind it, and the blank space around the comma. -/
inductive IsAlternative : List Node → Prop where
  | intro {comma next : Node} {before after : Option Node} :
      (∀ space ∈ before, IsSpace space) → IsMark .delimiter ',' comma →
      (∀ space ∈ after, IsSpace space) → IsSimpleSelector next →
      IsAlternative (before.toList ++ comma :: after.toList ++ [next])

inductive IsSelector : Node → Prop where
  | intro {first : Node} {others : List (List Node)} (start : Position) :
      IsSimpleSelector first → (∀ alternative ∈ others, IsAlternative alternative) →
      IsSelector (.branch .selector (first :: others.flatten) start)

end Shapes

/-- The characters that would prolong an item of a kind: blank space goes on with blank
space, and a declaration with what an identifier may start with. -/
def prolongs : Kind → Char → Bool
  | .space => isBlank
  | .declaration => isIdentStart
  | _ => fun _ => false

/-- An item may directly follow another one that it does not prolong. -/
def MayFollow (first second : Node) : Prop := Stops (prolongs first.kind) second.source

/-- What a stylesheet and a block hold. -/
inductive IsItem : Node → Prop where
  | space {node : Node} : IsSpace node → IsItem node
  | comment {node : Node} : IsComment node → IsItem node
  | delimiter {node : Node} : IsMark .declarationDelimiter ';' node → IsItem node
  | declaration {node : Node} : IsDeclaration node → IsItem node
  | ruleset {selector : Node} {between : Option Node} {items : List Node}
      (blockStart start : Position) :
      IsSelector selector → (∀ space ∈ between, IsSpace space) →
      (∀ item ∈ items, IsItem item) → items.IsChain MayFollow →
      IsItem (.branch .ruleset
        (selector :: between.toList ++ [.branch .block items blockStart]) start)

/-- The items of a stylesheet or of a block: none prolongs the one before it. -/
structure AreItems (items : List Node) : Prop where
  each : ∀ item ∈ items, IsItem item
  apart : items.IsChain MayFollow

theorem areItems_nil : AreItems [] := ⟨List.forall_mem_nil _, .nil⟩

/-- An item may stand in front of items whose text does not prolong it. -/
theorem AreItems.cons {node : Node} {items : List Node} (areItems : AreItems items)
    (isItem : IsItem node) (stops : Stops (prolongs node.kind) (Node.sourceAll items)) :
    AreItems (node :: items) := by
  refine ⟨List.forall_mem_cons.2 ⟨isItem, areItems.each⟩, areItems.apart.cons ?_⟩
  intro next member
  obtain ⟨more, rfl⟩ := List.head?_eq_some_iff.1 member
  exact stops.left

/-- The trees of whole stylesheets. -/
inductive IsStylesheet : Node → Prop where
  | intro {items : List Node} (start : Position) :
      AreItems items → IsStylesheet (.branch .stylesheet items start)

end NestedStyles.Source
