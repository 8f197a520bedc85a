import NestedStyles.Program.Basic

/-!
# Programs as lists

A program written as one list: its variables, then its rulesets. Such a list may
come from elsewhere, so reading it back can fail.
-/

namespace NestedStyles

/-- A member of a listed program. -/
inductive ProgramUnit where
  | initializer (bindings : Variables)
  | ruleset (ruleset : Ruleset)
deriving DecidableEq

/-- Why a list is no program. -/
inductive ListingFault where
  | noUnits
  | rulesetFirst
  | lateInitializer
deriving DecidableEq

namespace ListingFault

/-- The fault in words. -/
def text : ListingFault → String
  | noUnits => "program has no units"
  | rulesetFirst => "first unit must be the variable initializer"
  | lateInitializer => "variable initializer after the first unit"

end ListingFault

namespace ProgramUnit

/-- The ruleset of a unit behind the first one. -/
def toRuleset : ProgramUnit → Except ListingFault Ruleset
  | ruleset compiled => .ok compiled
  | initializer _ => .error .lateInitializer

end ProgramUnit

namespace Program

/-- The program that a list of units stands for. -/
def ofUnits : List ProgramUnit → Except ListingFault Program
  | [] => .error .noUnits
  | .ruleset _ :: _ => .error .rulesetFirst
  | .initializer bindings :: rest => do
      let rulesets ← rest.mapM ProgramUnit.toRuleset
      return ⟨bindings, rulesets⟩

/-- The program as a list of units. -/
def units (program : Program) : List ProgramUnit :=
  .initializer program.initializer :: program.rulesets.map .ruleset

end Program

end NestedStyles
