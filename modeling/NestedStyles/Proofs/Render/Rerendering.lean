import NestedStyles.Proofs.Render.PlacedBlock
import NestedStyles.Render.LiveSheet

/-!
# Rendering again

A live sheet has no memory of how it was rendered before. What a rendering with
overrides leaves depends only on the rulesets, the program's own variables and
these overrides, so a run of renderings amounts to a fresh start of the program
with the last overrides written into its variables
(`LiveSheet.rerenderAll_eq_fresh_start`).
-/

namespace NestedStyles

namespace Variables

/-- Settings unset no variable. -/
theorem names_subset_setAll (bindings : Variables) (settings : List (String × String)) :
    bindings.names ⊆ (bindings.setAll settings).names := by
  induction settings generalizing bindings with
  | nil => exact List.Subset.refl _
  | cons setting rest ih =>
      intro name present
      apply ih (bindings.set setting.1 setting.2)
      exact Table.mem_names_insert.2 (Or.inl present)

/-- Overrides unset no variable. -/
theorem names_subset_override (bindings overrides : Variables) :
    bindings.names ⊆ (bindings.override overrides).names :=
  names_subset_setAll bindings overrides.entries

end Variables

/-- Variables that set every variable to which rulesets refer at some depth. -/
def Variables.Cover (bindings : Variables) (rulesets : List Ruleset) : Prop :=
  ∀ block ∈ Ruleset.placedAll [] rulesets, bindings.missing? block.declarations = none

/-- Overrides leave rulesets covered, whatever values they set. -/
theorem Variables.Cover.override {bindings : Variables} {rulesets : List Ruleset}
    (cover : bindings.Cover rulesets) (overrides : Variables) :
    (bindings.override overrides).Cover rulesets := by
  intro block member
  have own := missing?_eq_none_iff.1 (cover block member)
  refine missing?_eq_none_iff.2 fun entry present reference => ?_
  exact bindings.names_subset_override overrides (own entry present reference)

/-- The rules that rulesets stand for outside of all others. -/
def flatRules (bindings : Variables) (rulesets : List Ruleset) : List String :=
  (Ruleset.placedAll [] rulesets).flatMap (PlacedBlock.rules bindings)

theorem Sheet.toList_insertAll_empty (rules : List String) :
    (Sheet.insertAll ∅ rules).rules.toList = rules := by
  change (#[] ++ rules.toArray).toList = rules
  rw [Array.empty_append]

namespace LiveSheet

/-- A pass succeeds exactly if the variables in force cover the rulesets, and then inserts their
flat rules. -/
theorem outcome_renderPass_eq_ok_iff {rulesets : List Ruleset} {scope : Scope} {sheet : Sheet}
    {after : Walk} :
    (renderPass rulesets).outcome ⟨scope, sheet⟩ = (.ok (), after) ↔
      scope.bindings.Cover rulesets ∧
        after = ⟨scope.reset, sheet.insertAll (flatRules scope.bindings rulesets)⟩ := by
  have bindings : scope.reset.bindings = scope.bindings := rfl
  have groups : scope.reset.groups = [] := rfl
  rw [renderPass, outcome_bind_of_ok (outcome_changeScope _ _), outcome_renderAll,
    Scope.afterVisit_eq_ok_iff, visit_eq_none_iff, bindings, groups]
  obtain ⟨scope', sheet'⟩ := after
  rw [Walk.mk.injEq, and_left_comm]
  rfl

/-- A first rendering comes to what its pass comes to. -/
theorem start_value (program : Program) (sheet : Sheet) :
    (start program sheet).run.value =
      match (renderPass program.rulesets).outcome
          ⟨.ofBindings program.initializer, sheet⟩ with
      | (.ok (), walk) => .ok ⟨program.rulesets, walk⟩
      | (.error error, walk) => .error ⟨error, walk.sheet⟩ := by
  have lifted : (liftM ((renderPass program.rulesets).run.run
      ⟨.ofBindings program.initializer, sheet⟩) :
        ExceptT Abandoned Logged (Except RenderError Unit × Walk)).run.value =
      .ok ((renderPass program.rulesets).outcome ⟨.ofBindings program.initializer, sheet⟩) := rfl
  unfold start
  rw [ExceptT.run_bind, Logged.value_bind]
  change Logged.value (ExceptT.run (liftM _ >>= _)) = _
  rw [ExceptT.run_bind, Logged.value_bind, lifted]
  cases (renderPass program.rulesets).outcome ⟨.ofBindings program.initializer, sheet⟩ with
  | mk result walk => cases result <;> rfl

/-- A program starts exactly if its own variables cover its rulesets, and then
its rules stand behind those of the sheet. -/
theorem start_eq_ok_iff {program : Program} {sheet : Sheet} {live : LiveSheet} :
    (start program sheet).run.value = .ok live ↔
      program.initializer.Cover program.rulesets ∧
        live = ⟨program.rulesets, .ofBindings program.initializer,
          sheet.insertAll (flatRules program.initializer program.rulesets)⟩ := by
  rw [start_value]
  constructor
  · intro started
    cases outcome : (renderPass program.rulesets).outcome
        ⟨.ofBindings program.initializer, sheet⟩ with
    | mk result walk =>
        rw [outcome] at started
        cases result with
        | error error => contradiction
        | ok =>
            obtain ⟨cover, rfl⟩ := outcome_renderPass_eq_ok_iff.1 outcome
            exact ⟨cover, (Except.ok.inj started).symm⟩
  · rintro ⟨cover, rfl⟩
    rw [outcome_renderPass_eq_ok_iff.2 ⟨cover, rfl⟩]
    rfl

/-- A program that starts in an empty sheet leaves its flat rules. -/
theorem toList_rules_of_start {program : Program} {live : LiveSheet}
    (started : (start program ∅).run.value = .ok live) :
    live.sheet.rules.toList = flatRules program.initializer program.rulesets := by
  obtain ⟨_, rfl⟩ := start_eq_ok_iff.1 started
  exact Sheet.toList_insertAll_empty _

/-- The live sheet that rulesets and base variables make under overrides, with
nothing left of what was rendered before. -/
def under (rulesets : List Ruleset) (base overrides : Variables) : LiveSheet where
  rulesets := rulesets
  walk := ⟨⟨[], base.override overrides, base⟩,
    Sheet.insertAll ∅ (flatRules (base.override overrides) rulesets)⟩

/-- A covered live sheet is rendered again without error, and the overrides leave
no trace of an earlier rendering. -/
theorem rerender_of_cover {live : LiveSheet} (cover : live.base.Cover live.rulesets)
    (overrides : Variables) :
    (live.rerender overrides).value = (.ok (), under live.rulesets live.base overrides) := by
  have pass : (renderPass live.rulesets).outcome
      ⟨live.walk.scope.setBindings (live.base.override overrides), ∅⟩ = _ :=
    outcome_renderPass_eq_ok_iff.2 ⟨cover.override overrides, rfl⟩
  unfold RenderM.outcome at pass
  unfold rerender
  rw [Logged.value_bind, Logged.value_bind]
  change (((renderPass live.rulesets).run.run
      ⟨live.walk.scope.setBindings (live.base.override overrides), ∅⟩).value.1,
    LiveSheet.mk live.rulesets ((renderPass live.rulesets).run.run
      ⟨live.walk.scope.setBindings (live.base.override overrides), ∅⟩).value.2) = _
  rw [pass]
  rfl

/-- The live sheet after renderings with overrides one after another. -/
def rerenderAll (live : LiveSheet) (overrides : List Variables) : LiveSheet :=
  overrides.foldl (fun live overrides => (live.rerender overrides).value.2) live

theorem rerenderAll_append (live : LiveSheet) (first second : List Variables) :
    live.rerenderAll (first ++ second) = (live.rerenderAll first).rerenderAll second :=
  List.foldl_append

/-- Renderings of a covered live sheet change neither its rulesets nor its base. -/
theorem rerenderAll_keeps {live : LiveSheet} (cover : live.base.Cover live.rulesets)
    (overrides : List Variables) :
    (live.rerenderAll overrides).rulesets = live.rulesets ∧
      (live.rerenderAll overrides).base = live.base := by
  induction overrides generalizing live with
  | nil => exact ⟨rfl, rfl⟩
  | cons first rest ih =>
      have step : live.rerenderAll (first :: rest) =
          (under live.rulesets live.base first).rerenderAll rest := by
        change (live.rerender first).value.2.rerenderAll rest = _
        rw [rerender_of_cover cover]
      rw [step]
      exact ih cover

theorem cover_rerenderAll {live : LiveSheet} (cover : live.base.Cover live.rulesets)
    (overrides : List Variables) :
    (live.rerenderAll overrides).base.Cover (live.rerenderAll overrides).rulesets := by
  obtain ⟨rulesets, base⟩ := rerenderAll_keeps cover overrides
  rw [rulesets, base]
  exact cover

/-- Only the last of several renderings matters. -/
theorem rerenderAll_concat {live : LiveSheet} (cover : live.base.Cover live.rulesets)
    (earlier : List Variables) (last : Variables) :
    live.rerenderAll (earlier ++ [last]) = under live.rulesets live.base last := by
  obtain ⟨rulesets, base⟩ := rerenderAll_keeps cover earlier
  rw [rerenderAll_append]
  change ((live.rerenderAll earlier).rerender last).value.2 = _
  rw [rerender_of_cover (cover_rerenderAll cover earlier), rulesets, base]

/-- **Rendering again has no memory.** Once a program has started, any run of
renderings with overrides succeeds and leaves the sheet and the variables of a
fresh start with the last overrides written into the program's variables, while
the program's own variables and rulesets stay. Earlier overrides do not matter,
repeating the last ones changes nothing, and empty ones bring back what the first
rendering inserted. -/
theorem rerenderAll_eq_fresh_start {program : Program} {sheet : Sheet} {live : LiveSheet}
    (started : (start program sheet).run.value = .ok live) (earlier : List Variables)
    (last : Variables) :
    ((live.rerenderAll earlier).rerender last).value.1 = .ok () ∧
    (∃ fresh,
      (start ⟨program.initializer.override last, program.rulesets⟩ ∅).run.value = .ok fresh ∧
        (live.rerenderAll (earlier ++ [last])).sheet = fresh.sheet ∧
        (live.rerenderAll (earlier ++ [last])).bindings = fresh.bindings) ∧
    (live.rerenderAll (earlier ++ [last])).base = program.initializer ∧
    (live.rerenderAll (earlier ++ [last])).rulesets = program.rulesets ∧
    live.rerenderAll (earlier ++ [last]) = live.rerenderAll [last] ∧
    live.rerenderAll (earlier ++ [last, last]) = live.rerenderAll (earlier ++ [last]) ∧
    (start program ∅).run.value = .ok (live.rerenderAll (earlier ++ [∅])) ∧
    live.sheet = sheet.insertAll (live.rerenderAll (earlier ++ [∅])).sheet.rules.toList := by
  obtain ⟨covered, shape⟩ := start_eq_ok_iff.1 started
  have rulesets : live.rulesets = program.rulesets := congrArg LiveSheet.rulesets shape
  have base : live.base = program.initializer := congrArg LiveSheet.base shape
  have cover : live.base.Cover live.rulesets := by
    rw [rulesets, base]
    exact covered
  have after : ∀ earlier last, live.rerenderAll (earlier ++ [last]) =
      under program.rulesets program.initializer last := by
    intro earlier last
    rw [rerenderAll_concat cover, rulesets, base]
  have repeated := after (earlier ++ [last]) last
  rw [List.append_assoc, List.singleton_append] at repeated
  refine ⟨?_, ⟨_, start_eq_ok_iff.2 ⟨covered.override last, rfl⟩, ?_, ?_⟩, ?_, ?_, ?_, ?_, ?_, ?_⟩
  · rw [rerender_of_cover (cover_rerenderAll cover earlier)]
  · rw [after]
    rfl
  · rw [after]
    rfl
  · rw [after]
    rfl
  · rw [after]
    rfl
  · rw [after, ← after [] last, List.nil_append]
  · rw [repeated, after]
  · rw [after]
    exact start_eq_ok_iff.2 ⟨covered, rfl⟩
  · rw [after, shape]
    exact congrArg sheet.insertAll (Sheet.toList_insertAll_empty _).symm

/-- A box whose color is a variable. -/
def coloredBox : Program where
  initializer := .ofList [("$color", "red")]
  rulesets := [⟨[".box"], .ofList [("color", "$color")], []⟩]

theorem cover_coloredBox : coloredBox.initializer.Cover coloredBox.rulesets := by
  unfold Variables.Cover
  decide

/-- The blue of an earlier rendering is forgotten, and the first sheet comes back. -/
theorem rerenderAll_eq_fresh_start_coloredBox :
    ∃ live, (start coloredBox ⟨#["p \x7b margin: 0 \x7d"]⟩).run.value = .ok live ∧
      live.rerenderAll [.ofList [("$color", "blue")], .ofList [("$gap", "4px")]] =
        live.rerenderAll [.ofList [("$gap", "4px")]] ∧
      (start coloredBox ∅).run.value =
        .ok (live.rerenderAll [.ofList [("$color", "blue")], ∅]) := by
  have started : (start coloredBox ⟨#["p \x7b margin: 0 \x7d"]⟩).run.value = .ok _ :=
    start_eq_ok_iff.2 ⟨cover_coloredBox, rfl⟩
  obtain ⟨_, _, _, _, forgotten, _, restored, _⟩ := rerenderAll_eq_fresh_start started
    [.ofList [("$color", "blue")]] (.ofList [("$gap", "4px")])
  exact ⟨_, started, forgotten, restored⟩

end LiveSheet

end NestedStyles
