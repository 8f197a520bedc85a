import NestedStyles.Program.Listing

/-!
# Scopes

What a declaration sees while it is rendered: the selector groups around it and
the variables in force. It applies under every choice of one selector from each
group, and cannot be rendered if it refers to a variable that is not set.
-/

namespace NestedStyles

/-- Why a program cannot be rendered. -/
inductive RenderError where
  /-- A declaration refers to a variable that is not set. -/
  | unknownVariable (name : String)
  /-- A list of units is no program. -/
  | malformedProgram (fault : ListingFault)
deriving DecidableEq

namespace RenderError

/-- The error as it is reported. -/
def message : RenderError → String
  | unknownVariable name => s!"Unknown variable {name}"
  | malformedProgram fault => s!"malformed program: {fault.text}"

end RenderError

/-- Every selector of the outer list in front of every selector of the inner
list, the outer one varying slowest. -/
def combine (outer inner : List String) : List String :=
  outer.flatMap fun ancestor => inner.map fun descendant => ancestor ++ " " ++ descendant

/-- The flat selectors of a stack of groups, outermost first. -/
def flatSelectors : List SelectorGroup → List String
  | [] => []
  | [group] => group
  | group :: inner => combine group (flatSelectors inner)

/-- The surroundings of a declaration. -/
structure Scope where
  /-- The groups of the open rulesets, outermost first. -/
  groups : List SelectorGroup := []
  /-- The variables in force. -/
  bindings : Variables := ∅
  /-- The variables that overrides start from. -/
  base : Variables := ∅
deriving DecidableEq

namespace Scope

/-- The scope outside of all rulesets, with the given variables. -/
def ofBindings (bindings : Variables) : Scope where
  bindings := bindings
  base := bindings

/-- Enters a ruleset. -/
def push (scope : Scope) (group : SelectorGroup) : Scope :=
  { scope with groups := scope.groups ++ [group] }

/-- Leaves the innermost ruleset, if there is one. -/
def pop (scope : Scope) : Scope :=
  { scope with groups := scope.groups.dropLast }

/-- Leaving a ruleset undoes entering it. -/
@[simp] theorem pop_push (scope : Scope) (group : SelectorGroup) :
    (scope.push group).pop = scope := by
  simp [push, pop]

/-- Leaves all rulesets. -/
def reset (scope : Scope) : Scope := { scope with groups := [] }

/-- How many rulesets are open. -/
def depth (scope : Scope) : Nat := scope.groups.length

/-- The flat selectors of the innermost ruleset. -/
def selectors (scope : Scope) : List String := flatSelectors scope.groups

/-- The base variables with overrides on top, whatever is in force. -/
def overridden (scope : Scope) (overrides : Variables) : Variables :=
  scope.base.override overrides

/-- Puts other variables in force. -/
def setBindings (scope : Scope) (bindings : Variables) : Scope :=
  { scope with bindings := bindings }

/-- The value that a declared value stands for: a reference stands for the
variable's value, which is not looked up again. -/
def resolve (scope : Scope) (value : String) : Except RenderError String :=
  if IsReference value then
    match scope.bindings.get? value with
    | some found => .ok found
    | none => .error (.unknownVariable value)
  else
    .ok value

end Scope

end NestedStyles
