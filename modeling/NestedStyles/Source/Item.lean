import NestedStyles.Source.Scan

/-!
# Items of a stylesheet

The readers for what a stylesheet or a block holds: blank space, comments,
declarations, delimiters, and the openings of rulesets. A ruleset itself is no
single reading step, since its block holds items again; its `Opening` is.
-/

namespace NestedStyles.Source

/-- Reads one given character as a leaf. -/
def mark (kind : Kind) (c : Char) : ReadM Node := leaf kind (.char c)

/-- Reads blank space. -/
def space : ReadM Node := leaf .space .space

/-- Reads an identifier. -/
def ident : ReadM Node := leaf .ident .ident

/-- Reads a number without a unit. -/
def number : ReadM Node := leaf .number .number

/-- Reads a number with its unit. -/
def dimension : ReadM Node :=
  branch .dimension do
    let number ← number
    let unit ← ident
    return [number, unit]

/-- Reads a variable name: a dollar sign and an identifier, which digits may
precede. -/
def variableName : ReadM Node :=
  branch .variableName do
    skip '$'
    let name ← dimension <|> ident
    return [name]

/-- Reads a comment, whose text is what stands between its marks. -/
def comment : ReadM Node := do
  let start ← here
  skip '/'
  skip '*'
  let text ← take .commentText
  skip '*'
  skip '/'
  return .leaf .comment text start

/-- Reads the property of a declaration. -/
def property : ReadM Node :=
  branch .property do
    let name ← variableName <|> ident
    return [name]

/-- Reads the value of a declaration. -/
def value : ReadM Node :=
  branch .value do
    let term ← variableName <|> dimension <|> number <|> ident
    return [term]

/-- Reads a declaration. The delimiter behind it is an item of its own. -/
def declaration : ReadM Node :=
  branch .declaration do
    let property ← property
    let before ← optional space
    let colon ← mark .propertyDelimiter ':'
    let after ← optional space
    let value ← value
    return property :: before.toList ++ colon :: after.toList ++ [value]

/-- Reads a class, an id or a type selector. -/
def simpleSelector : ReadM Node :=
  (branch .classSelector do
    skip '.'
    let name ← ident
    return [name]) <|>
  (branch .idSelector do
    skip '#'
    let name ← ident
    return [name]) <|>
  (branch .typeSelector do
    let name ← ident
    return [name])

/-- Reads a comma and the selector behind it. -/
def alternative : ReadM (List Node) := do
  let before ← optional space
  let comma ← mark .delimiter ','
  let after ← optional space
  let next ← simpleSelector
  return before.toList ++ comma :: after.toList ++ [next]

section Progress

theorem advances_mark (kind : Kind) (c : Char) : Advances (mark kind c) :=
  (Cut.takesSome_char c).advances_leaf kind

theorem advances_space : Advances space :=
  Cut.takesSome_space.advances_leaf .space

theorem neverGrows_optional_space : NeverGrows (optional space) :=
  advances_space.neverGrows.optional

theorem advances_ident : Advances ident :=
  Cut.takesSome_ident.advances_leaf .ident

theorem advances_number : Advances number :=
  Cut.takesSome_number.advances_leaf .number

theorem advances_dimension : Advances dimension :=
  advances_branch .dimension <|
    advances_number.bind fun _ => advances_ident.neverGrows.bind fun _ => neverGrows_pure _

theorem advances_variableName : Advances variableName :=
  advances_branch .variableName <|
    (advances_skip '$').bind fun _ =>
      (advances_dimension.orElse advances_ident).neverGrows.bind fun _ => neverGrows_pure _

theorem advances_comment : Advances comment :=
  neverGrows_here.bind_advances fun _ =>
    (advances_skip '/').bind fun _ =>
      (advances_skip '*').neverGrows.bind fun _ =>
        (neverGrows_take .commentText).bind fun _ =>
          (advances_skip '*').neverGrows.bind fun _ =>
            (advances_skip '/').neverGrows.bind fun _ => neverGrows_pure _

theorem advances_property : Advances property :=
  advances_branch .property <|
    (advances_variableName.orElse advances_ident).bind fun _ => neverGrows_pure _

theorem advances_value : Advances value :=
  advances_branch .value <|
    (advances_variableName.orElse
      (advances_dimension.orElse (advances_number.orElse advances_ident))).bind
        fun _ => neverGrows_pure _

theorem advances_declaration : Advances declaration :=
  advances_branch .declaration <|
    advances_property.bind fun _ =>
      neverGrows_optional_space.bind fun _ =>
        (advances_mark .propertyDelimiter ':').neverGrows.bind fun _ =>
          neverGrows_optional_space.bind fun _ =>
            advances_value.neverGrows.bind fun _ => neverGrows_pure _

/-- A simple selector has at least its mark or the first character of its name. -/
theorem advances_simpleSelector : Advances simpleSelector := by
  have name : Advances (do let name ← ident; return [name] : ReadM (List Node)) :=
    advances_ident.bind fun _ => neverGrows_pure _
  exact
    (advances_branch .classSelector
      ((advances_skip '.').bind fun _ => name.neverGrows)).orElse
    ((advances_branch .idSelector
      ((advances_skip '#').bind fun _ => name.neverGrows)).orElse
    (advances_branch .typeSelector name))

theorem advances_alternative : Advances alternative :=
  neverGrows_optional_space.bind_advances fun _ =>
    (advances_mark .delimiter ',').bind fun _ =>
      neverGrows_optional_space.bind fun _ =>
        advances_simpleSelector.neverGrows.bind fun _ => neverGrows_pure _

end Progress

/-- Reads one or more selectors with commas between them. -/
def selector : ReadM Node :=
  branch .selector do
    let first ← simpleSelector
    let others ← many alternative advances_alternative
    return first :: others.flatten

/-- The part of a ruleset before its block's items. -/
structure Opening where
  /-- Where the ruleset starts. -/
  start : Position
  selector : Node
  /-- The blank space before the block. -/
  space : Option Node
  /-- Where the block starts. -/
  blockStart : Position

/-- The ruleset with that opening and the given items in its block. -/
def Opening.close (opening : Opening) (items : List Node) : Node :=
  .branch .ruleset
    (opening.selector :: opening.space.toList ++ [.branch .block items opening.blockStart])
    opening.start

/-- Reads a ruleset up to and including the brace that opens its block. -/
def opening : ReadM Opening := do
  let start ← here
  let selector ← selector
  let space ← optional space
  let blockStart ← here
  skip '{'
  return { start, selector, space, blockStart }

/-- What one step of reading finds: a whole item, or a ruleset that opens. -/
inductive Piece where
  | item (node : Node)
  | opening (opening : Opening)

/-- The forms that a piece can take. -/
inductive Form where
  | space
  | comment
  | declaration
  | ruleset
  | delimiter
deriving DecidableEq

namespace Form

/-- The forms in the order in which they are tried. -/
def all : List Form := [space, comment, declaration, ruleset, delimiter]

/-- Reads a piece of the form. -/
def read : Form → ReadM Piece
  | space => Piece.item <$> Source.space
  | comment => Piece.item <$> Source.comment
  | declaration => Piece.item <$> Source.declaration
  | ruleset => Piece.opening <$> Source.opening
  | delimiter => Piece.item <$> mark .declarationDelimiter ';'

end Form

/-- Reads a piece of the first form that fits. -/
def piece (forms : List Form) : ReadM Piece := forms.firstM Form.read

theorem advances_selector : Advances selector :=
  advances_branch .selector <|
    advances_simpleSelector.bind fun _ =>
      (neverGrows_many _ advances_alternative).bind fun _ => neverGrows_pure _

/-- An opening has at least its brace. -/
theorem advances_opening : Advances opening :=
  neverGrows_here.bind_advances fun _ =>
    advances_selector.bind fun _ =>
      neverGrows_optional_space.bind fun _ =>
        neverGrows_here.bind fun _ =>
          (advances_skip '{').neverGrows.bind fun _ => neverGrows_pure _

/-- No form reads an empty piece. -/
theorem advances_read (form : Form) : Advances form.read := by
  cases form with
  | space => exact advances_space.map _
  | comment => exact advances_comment.map _
  | declaration => exact advances_declaration.map _
  | ruleset => exact advances_opening.map _
  | delimiter => exact (advances_mark .declarationDelimiter ';').map _

theorem advances_piece (forms : List Form) : Advances (piece forms) := by
  induction forms with
  | nil =>
      intro locate input value rest read
      change none = some (value, rest) at read
      contradiction
  | cons form forms ih => exact (advances_read form).orElse ih

end NestedStyles.Source
