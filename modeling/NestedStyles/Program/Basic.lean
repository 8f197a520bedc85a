import NestedStyles.Variables

/-!
# Compiled stylesheets

A program is what is left of a stylesheet once its tree has been understood:
initial variables, and rulesets that nest. It can be written as the text of a
stylesheet again, in one fixed layout: the variables first, and in each block the
declarations before the nested rulesets.
-/

namespace NestedStyles

/-- The alternatives of a selector, of which any one may match. -/
abbrev SelectorGroup := List String

/-- A ruleset with the rulesets nested in it. -/
structure Ruleset where
  selectors : SelectorGroup
  declarations : Declarations
  nested : List Ruleset

namespace Ruleset

mutual

/-- Decides whether two rulesets agree at every depth. -/
def decideEq : (first second : Ruleset) → Decidable (first = second)
  | ⟨selectors, declarations, nested⟩, ⟨selectors', declarations', nested'⟩ =>
      have := decideEqAll nested nested'
      decidable_of_iff
        (selectors = selectors' ∧ declarations = declarations' ∧ nested = nested') (by simp)

/-- Decides whether two lists of rulesets are equal. -/
def decideEqAll : (first second : List Ruleset) → Decidable (first = second)
  | [], [] => isTrue rfl
  | ruleset :: rest, ruleset' :: rest' =>
      have := decideEq ruleset ruleset'
      have := decideEqAll rest rest'
      decidable_of_iff (ruleset = ruleset' ∧ rest = rest') (by simp)
  | [], _ :: _ => isFalse (by simp)
  | _ :: _, [] => isFalse (by simp)

end

instance : DecidableEq Ruleset := decideEq

end Ruleset

/-- A compiled stylesheet. -/
structure Program where
  /-- The variables as the stylesheet defines them. -/
  initializer : Variables := ∅
  /-- The outermost rulesets. -/
  rulesets : List Ruleset := []
deriving DecidableEq

namespace Program

/-- The program of an empty stylesheet. -/
def empty : Program := {}

instance : EmptyCollection Program := ⟨empty⟩

end Program

/-- A declaration with the delimiter behind it. -/
def declarationSource (declaration : String × String) : String :=
  declaration.1 ++ ": " ++ declaration.2 ++ ";"

/-- The declarations of a table, one behind the other. -/
def Table.toSource (table : Table) : String :=
  String.join (table.entries.map declarationSource)

mutual

/-- The text of a ruleset. -/
def Ruleset.toSource : Ruleset → String
  | ⟨selectors, declarations, nested⟩ =>
      ",".intercalate selectors ++ "\x7b" ++ declarations.toSource ++
        Ruleset.toSourceAll nested ++ "\x7d"

/-- The text of rulesets, one behind the other. -/
def Ruleset.toSourceAll : List Ruleset → String
  | [] => ""
  | ruleset :: rest => ruleset.toSource ++ Ruleset.toSourceAll rest

end

/-- The text of a stylesheet that compiles to the program, if there is one. -/
def Program.toSource (program : Program) : String :=
  program.initializer.toSource ++ Ruleset.toSourceAll program.rulesets

end NestedStyles
