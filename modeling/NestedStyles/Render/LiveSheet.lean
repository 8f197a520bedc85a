import NestedStyles.Render.Walk

/-!
# Live sheets

A program bound to the sheet it is rendered into. It can be rendered again with
other variables, each time starting from the program's own.
-/

namespace NestedStyles

/-- A sheet that can be rendered again. -/
structure LiveSheet where
  rulesets : List Ruleset
  walk : Walk

/-- A rendering that failed before there was a live sheet, and the sheet as it
was left. -/
structure Abandoned where
  error : RenderError
  sheet : Sheet

namespace LiveSheet

/-- The rendered sheet. -/
def sheet (live : LiveSheet) : Sheet := live.walk.sheet

/-- The variables in force. -/
def bindings (live : LiveSheet) : Variables := live.walk.scope.bindings

/-- The variables of the program itself. -/
def base (live : LiveSheet) : Variables := live.walk.scope.base

/-- Walks over all rulesets, with none of them open before. -/
def renderPass (rulesets : List Ruleset) : RenderM Unit := do
  changeScope Scope.reset
  Ruleset.renderAll rulesets

/-- Renders a program for the first time, behind the rules that the sheet
holds. -/
def start (program : Program) (sheet : Sheet) : ExceptT Abandoned Logged LiveSheet := do
  Logged.report (.instantiated program.rulesets.length program.initializer.size)
  let (outcome, walk) ← (renderPass program.rulesets).run.run
    { scope := .ofBindings program.initializer, sheet }
  match outcome with
  | .ok () => return ⟨program.rulesets, walk⟩
  | .error error => throw ⟨error, walk.sheet⟩

/-- Renders a listed program for the first time. -/
def startUnits (units : List ProgramUnit) (sheet : Sheet) :
    ExceptT Abandoned Logged LiveSheet :=
  match Program.ofUnits units with
  | .ok program => start program sheet
  | .error fault => throw ⟨.malformedProgram fault, sheet⟩

/-- Renders again with overrides over the program's own variables, into an empty
sheet. The overrides stay in force even if rendering fails. -/
def rerender (live : LiveSheet) (overrides : Variables) :
    Logged (Except RenderError Unit × LiveSheet) := do
  Logged.report (.rerendered overrides.size)
  let scope := live.walk.scope
  let (outcome, walk) ← (renderPass live.rulesets).run.run
    { scope := scope.setBindings (scope.overridden overrides), sheet := ∅ }
  return (outcome, { live with walk })

/-- Gives the sheet up and clears it. -/
def dispose (live : LiveSheet) : Logged Sheet := do
  Logged.report (.disposed live.sheet.size)
  return ∅

end LiveSheet

end NestedStyles
