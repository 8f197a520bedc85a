import NestedStyles.Event
import NestedStyles.Render.Scope

/-!
# Rendering

Walks over nested rulesets and inserts their flat rules into a sheet, which holds
rules in the order in which they were inserted: a ruleset's own rules, then those
of the rulesets nested in it. A reference to an unset
variable ends the walk where it stands, with the rules before it inserted and the
rulesets around it still open.
-/

namespace NestedStyles

/-- A flat stylesheet. -/
structure Sheet where
  rules : Array String := #[]
deriving DecidableEq

namespace Sheet

/-- The sheet without rules. -/
def empty : Sheet := {}

instance : EmptyCollection Sheet := ⟨empty⟩

/-- The sheet with one more rule at its end. -/
def insert (sheet : Sheet) (rule : String) : Sheet := ⟨sheet.rules.push rule⟩

/-- How many rules the sheet holds, which is also the index of the next one. -/
def size (sheet : Sheet) : Nat := sheet.rules.size

/-- Whether the sheet holds no rules. -/
def isEmpty (sheet : Sheet) : Bool := sheet.rules.isEmpty

/-- The text of the sheet, one rule after another on lines of their own. -/
def css (sheet : Sheet) : String := "\n".intercalate sheet.rules.toList

end Sheet

/-- How far a walk has come. -/
structure Walk where
  scope : Scope := {}
  sheet : Sheet := ∅

/-- Rendering: changes the walk, reports events and may fail, keeping what was
done before. -/
abbrev RenderM := ExceptT RenderError (StateT Walk Logged)

/-- Changes the scope of the walk. -/
def changeScope (change : Scope → Scope) : RenderM Unit :=
  modify fun walk => { walk with scope := change walk.scope }

/-- The text of a rule. -/
def ruleText (selector body : String) : String :=
  selector ++ " \x7b " ++ body ++ " \x7d"

/-- The text of a rule's declarations. -/
def bodyText (declarations : List (String × String)) : String :=
  ";".intercalate (declarations.map fun (name, value) => name ++ ": " ++ value)

/-- Inserts the rule of one flat selector. -/
def insertRule (body selector : String) : RenderM Unit := do
  let index ← modifyGet fun walk =>
    (walk.sheet.size, { walk with sheet := walk.sheet.insert (ruleText selector body) })
  Logged.report (.ruleInserted index selector)

/-- The declarations with what their values stand for. -/
def Scope.resolveAll (scope : Scope) (declarations : Declarations) :
    Except RenderError (List (String × String)) :=
  declarations.entries.mapM fun (name, value) => do
    let value ← scope.resolve value
    return (name, value)

/-- Inserts the rules of the innermost open ruleset, one for each flat selector.
There are none without declarations, and none if some value cannot be
resolved. -/
def insertRules (declarations : Declarations) : RenderM Unit := do
  if declarations.isEmpty then
    return
  let scope := (← get).scope
  let resolved ← scope.resolveAll declarations
  let body := bodyText resolved
  scope.selectors.forM (insertRule body)

mutual

/-- Renders a ruleset inside those that are open. -/
def Ruleset.render : Ruleset → RenderM Unit
  | ⟨selectors, declarations, nested⟩ => do
      changeScope (·.push selectors)
      insertRules declarations
      Ruleset.renderAll nested
      changeScope Scope.pop

/-- Renders rulesets one after another. -/
def Ruleset.renderAll : List Ruleset → RenderM Unit
  | [] => return
  | ruleset :: rest => do
      ruleset.render
      Ruleset.renderAll rest

end

end NestedStyles
