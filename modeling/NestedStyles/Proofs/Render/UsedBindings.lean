import NestedStyles.Proofs.Render.Rerendering
import NestedStyles.Proofs.Table.Lookup

/-!
# The bindings that matter

A rendering looks variables up only under the names to which declarations refer. Two
renderings of the same rulesets, under variables that agree on these names, have the same
result and insert the same rules (`LiveSheet.exists_passed_eq`), whatever else the
variables hold and in whatever order.
-/

namespace NestedStyles

/-- Names of variables to which rulesets refer at some depth. -/
def Ruleset.RefersTo (rulesets : List Ruleset) (name : String) : Prop :=
  IsReference name ∧ ∃ block ∈ placedAll [] rulesets,
    ∃ entry ∈ block.declarations.entries, entry.2 = name

namespace Variables

/-- Variables that give the same value, or none, for every name to which rulesets refer. -/
def AgreeOn (rulesets : List Ruleset) (first second : Variables) : Prop :=
  ∀ name, Ruleset.RefersTo rulesets name → first.get? name = second.get? name

/-- Variables that give the same value, or none, for every reference in declarations. -/
def AgreeIn (declarations : Declarations) (first second : Variables) : Prop :=
  ∀ entry ∈ declarations.entries, IsReference entry.2 → first.get? entry.2 = second.get? entry.2

section Blocks

variable {first second : Variables} {declarations : Declarations}

/-- Variables that agree on a reference both set it or both lack it. -/
theorem lacks_iff_of_get?_eq {value : String}
    (same : IsReference value → first.get? value = second.get? value) :
    first.Lacks value ↔ second.Lacks value := by
  refine and_congr_right fun reference => ?_
  rw [← Table.get?_eq_none_iff, ← Table.get?_eq_none_iff, same reference]

/-- Variables that agree in declarations miss the same variable there. -/
theorem AgreeIn.missing?_eq (agree : AgreeIn declarations first second) :
    first.missing? declarations = second.missing? declarations := by
  have lacking : (declarations.entries.map Prod.snd).filter (first.Lacks ·) =
      (declarations.entries.map Prod.snd).filter (second.Lacks ·) := by
    apply List.filter_congr
    intro value member
    obtain ⟨entry, present, rfl⟩ := List.mem_map.1 member
    exact decide_eq_decide.2 (lacks_iff_of_get?_eq (agree entry present))
  unfold missing?
  rw [← List.head?_filter, lacking, List.head?_filter]

theorem AgreeIn.meaning_eq (agree : AgreeIn declarations first second) {entry : String × String}
    (member : entry ∈ declarations.entries) : first.meaning entry.2 = second.meaning entry.2 := by
  unfold meaning
  split
  · next reference => rw [agree entry member reference]
  · rfl

end Blocks

end Variables

section Visits

variable {first second : Variables}

theorem PlacedBlock.rules_eq {block : PlacedBlock}
    (agree : Variables.AgreeIn block.declarations first second) :
    block.rules first = block.rules second := by
  have meanings := List.map_congr_left fun entry member =>
    congrArg (entry.1 ++ ": " ++ ·) (agree.meaning_eq member)
  unfold rules
  rw [meanings]

/-- Variables that agree in all blocks make the same visit. -/
theorem visit_eq_of_agreeIn {blocks : List PlacedBlock}
    (agree : ∀ block ∈ blocks, Variables.AgreeIn block.declarations first second)
    (sheet : Sheet) : visit first sheet blocks = visit second sheet blocks := by
  induction blocks generalizing sheet with
  | nil => rfl
  | cons block rest ih =>
      obtain ⟨here, later⟩ := List.forall_mem_cons.1 agree
      rw [visit, visit, here.missing?_eq, PlacedBlock.rules_eq here]
      cases second.missing? block.declarations with
      | some name => rfl
      | none => exact ih later _

/-- A visit inserts the same rules whatever the sheet holds, and ends at the same block. -/
theorem exists_visit_eq (bindings : Variables) (blocks : List PlacedBlock) :
    ∃ inserted stop, ∀ sheet : Sheet,
      visit bindings sheet blocks = (sheet.insertAll inserted, stop) := by
  induction blocks with
  | nil => exact ⟨[], none, fun sheet => by rw [visit, Sheet.insertAll_nil]⟩
  | cons block rest ih =>
      obtain ⟨inserted, stop, visited⟩ := ih
      simp only [visit]
      cases bindings.missing? block.declarations with
      | some name => exact ⟨[], some (block, name), fun sheet => by rw [Sheet.insertAll_nil]⟩
      | none =>
          refine ⟨block.rules bindings ++ inserted, stop, fun sheet => ?_⟩
          dsimp only
          rw [visited, Sheet.insertAll_insertAll]

end Visits

namespace LiveSheet

/-- What a rendering pass comes to, and the sheet that it leaves. -/
def passed (rulesets : List Ruleset) (walk : Walk) : Except RenderError Unit × Sheet :=
  let (result, after) := ((renderPass rulesets).run.run walk).value
  (result, after.sheet)

/-- What a first rendering comes to, and the sheet that it leaves. -/
def started (program : Program) (sheet : Sheet) : Except RenderError Unit × Sheet :=
  match (start program sheet).run.value with
  | .ok live => (.ok (), live.sheet)
  | .error abandoned => (.error abandoned.error, abandoned.sheet)

/-- What a rendering with overrides comes to, and the sheet that it leaves. -/
def rerendered (live : LiveSheet) (overrides : Variables) : Except RenderError Unit × Sheet :=
  let (result, after) := (live.rerender overrides).value
  (result, after.sheet)

/-- A pass is a visit to all blocks with no ruleset open before. -/
theorem outcome_renderPass (rulesets : List Ruleset) (walk : Walk) :
    (renderPass rulesets).outcome walk =
      walk.scope.reset.afterVisit
        (visit walk.scope.bindings walk.sheet (Ruleset.placedAll [] rulesets)) := by
  rw [renderPass, outcome_bind_of_ok (outcome_changeScope _ _), outcome_renderAll]
  rfl

/-- A first rendering comes to what a pass under the program's own variables comes to. -/
theorem started_eq_passed (program : Program) (sheet : Sheet) :
    started program sheet = passed program.rulesets ⟨.ofBindings program.initializer, sheet⟩ := by
  rw [started, start_value, passed]
  unfold RenderM.outcome
  rcases ((renderPass program.rulesets).run.run
    ⟨.ofBindings program.initializer, sheet⟩).value with ⟨_ | _, walk⟩ <;> rfl

theorem rerendered_eq_passed (live : LiveSheet) (overrides : Variables) :
    live.rerendered overrides =
      passed live.rulesets
        ⟨live.walk.scope.setBindings (live.base.override overrides), ∅⟩ := rfl

/-- What a visit that ends at the given block, or at none, means for a rendering. -/
def resultOf : Option (PlacedBlock × String) → Except RenderError Unit
  | none => .ok ()
  | some (_, name) => .error (.unknownVariable name)

/-- A pass comes to what the visit comes to. -/
theorem passed_eq_of_visit {rulesets : List Ruleset} {walk : Walk} {sheet : Sheet}
    {stop : Option (PlacedBlock × String)}
    (visited : visit walk.scope.bindings walk.sheet (Ruleset.placedAll [] rulesets) =
      (sheet, stop)) : passed rulesets walk = (resultOf stop, sheet) := by
  have outcome := outcome_renderPass rulesets walk
  rw [visited] at outcome
  unfold RenderM.outcome at outcome
  rw [passed, outcome]
  cases stop <;> rfl

/-- Passes over the same rulesets, under variables that agree on what the rulesets refer to,
have the same result and insert the same rules. -/
theorem exists_passed_eq {rulesets : List Ruleset} {first second : Walk}
    (agree : Variables.AgreeOn rulesets first.scope.bindings second.scope.bindings) :
    ∃ result inserted,
      passed rulesets first = (result, first.sheet.insertAll inserted) ∧
      passed rulesets second = (result, second.sheet.insertAll inserted) := by
  have agreeIn : ∀ block ∈ Ruleset.placedAll [] rulesets,
      Variables.AgreeIn block.declarations first.scope.bindings second.scope.bindings := by
    intro block placed entry declared reference
    exact agree entry.2 ⟨reference, block, placed, entry, declared, rfl⟩
  obtain ⟨inserted, stop, visited⟩ :=
    exists_visit_eq second.scope.bindings (Ruleset.placedAll [] rulesets)
  refine ⟨resultOf stop, inserted, passed_eq_of_visit ?_, passed_eq_of_visit (visited _)⟩
  rw [visit_eq_of_agreeIn agreeIn, visited]

/-- Live sheets with the same rulesets are rendered alike under overrides that agree on what
these refer to, whatever the sheets held before. -/
theorem rerendered_eq_of_agreeOn {first second : LiveSheet} {overrides overrides' : Variables}
    (rulesets : first.rulesets = second.rulesets)
    (agree : Variables.AgreeOn first.rulesets (first.base.override overrides)
      (second.base.override overrides')) :
    first.rerendered overrides = second.rerendered overrides' := by
  obtain ⟨result, inserted, passed, passed'⟩ :=
    @exists_passed_eq first.rulesets
      ⟨first.walk.scope.setBindings (first.base.override overrides), ∅⟩
      ⟨second.walk.scope.setBindings (second.base.override overrides'), ∅⟩ agree
  rw [rerendered_eq_passed, rerendered_eq_passed, ← rulesets, passed, passed']

end LiveSheet

namespace Variables

variable {rulesets : List Ruleset} {first second : Variables}

theorem AgreeOn.override (agree : AgreeOn rulesets first second) (base : Variables) :
    AgreeOn rulesets (base.override first) (base.override second) := by
  intro name referred
  rw [get?_override, get?_override, agree name referred]

theorem agreeOn_of_perm (permuted : first.entries.Perm second.entries) :
    AgreeOn rulesets first second :=
  fun name _ => Table.get?_eq_of_perm permuted name

/-- Setting a variable that nothing refers to changes nothing. -/
theorem agreeOn_set {name : String} (unused : ¬ Ruleset.RefersTo rulesets (withSigil name))
    (bindings : Variables) (value : String) :
    AgreeOn rulesets (bindings.set name value) bindings := by
  intro other referred
  have different : other ≠ withSigil name := by
    intro same
    exact unused (same ▸ referred)
  exact (Table.get?_insert ..).trans (if_neg different)

end Variables

/-- **Rendering depends only on the bindings that are used.** Passes over the same rulesets
have the same result and insert the same rules if their variables agree on every name to
which the rulesets refer. So do first renderings, and renderings with overrides leave the
same sheets. Overriding a name to which nothing refers changes nothing, and the order of
overrides does not matter. -/
theorem rendering_depends_on_used_bindings :
    (∀ (rulesets : List Ruleset) (first second : Walk),
      Variables.AgreeOn rulesets first.scope.bindings second.scope.bindings →
      ∃ result inserted,
        LiveSheet.passed rulesets first = (result, first.sheet.insertAll inserted) ∧
        LiveSheet.passed rulesets second = (result, second.sheet.insertAll inserted)) ∧
    (∀ (first second : Program) (sheet sheet' : Sheet), first.rulesets = second.rulesets →
      Variables.AgreeOn first.rulesets first.initializer second.initializer →
      ∃ result inserted,
        LiveSheet.started first sheet = (result, sheet.insertAll inserted) ∧
        LiveSheet.started second sheet' = (result, sheet'.insertAll inserted)) ∧
    (∀ (first second : LiveSheet) (overrides overrides' : Variables),
      first.rulesets = second.rulesets →
      Variables.AgreeOn first.rulesets (first.base.override overrides)
        (second.base.override overrides') →
      first.rerendered overrides = second.rerendered overrides') ∧
    ∀ (live : LiveSheet) (overrides : Variables),
      (∀ overrides', Variables.AgreeOn live.rulesets overrides overrides' →
        live.rerendered overrides = live.rerendered overrides') ∧
      (∀ name value, ¬ Ruleset.RefersTo live.rulesets (withSigil name) →
        live.rerendered (overrides.set name value) = live.rerendered overrides) ∧
      ∀ overrides' : Variables, overrides.entries.Perm overrides'.entries →
        live.rerendered overrides = live.rerendered overrides' := by
  refine ⟨fun _ _ _ => LiveSheet.exists_passed_eq, ?_,
    fun _ _ _ _ => LiveSheet.rerendered_eq_of_agreeOn, fun live overrides => ⟨?_, ?_, ?_⟩⟩
  · intro first second sheet sheet' rulesets agree
    rw [LiveSheet.started_eq_passed, LiveSheet.started_eq_passed, ← rulesets]
    exact LiveSheet.exists_passed_eq agree
  · intro overrides' agree
    exact LiveSheet.rerendered_eq_of_agreeOn rfl (agree.override live.base)
  · intro name value unused
    exact LiveSheet.rerendered_eq_of_agreeOn rfl
      ((Variables.agreeOn_set unused overrides value).override live.base)
  · intro overrides' permuted
    exact LiveSheet.rerendered_eq_of_agreeOn rfl
      ((Variables.agreeOn_of_perm permuted).override live.base)

theorem eq_color_of_refersTo {name : String}
    (referred : Ruleset.RefersTo LiveSheet.coloredBox.rulesets name) : name = "$color" := by
  obtain ⟨_, block, placed, entry, declared, rfl⟩ := referred
  obtain rfl := List.mem_singleton.1 placed
  obtain rfl := List.mem_singleton.1 declared
  rfl

/-- The variable of the colored box behind another one, which nothing refers to. -/
def gapAndColor (color : String) : Variables := .ofList [("$gap", "4px"), ("$color", color)]

/-- The gap, to which nothing refers, may be set or not, and in any order. -/
theorem rendering_depends_on_used_bindings_coloredBox :
    (∃ result inserted,
      LiveSheet.started LiveSheet.coloredBox ∅ = (result, Sheet.insertAll ∅ inserted) ∧
      LiveSheet.started ⟨gapAndColor "red", LiveSheet.coloredBox.rulesets⟩
        ⟨#["p \x7b margin: 0 \x7d"]⟩ =
          (result, Sheet.insertAll ⟨#["p \x7b margin: 0 \x7d"]⟩ inserted)) ∧
    ∃ live, (LiveSheet.start LiveSheet.coloredBox ∅).run.value = .ok live ∧
      live.rerendered (gapAndColor "red") = live.rerendered ∅ ∧
      live.rerendered (gapAndColor "blue") = live.rerendered (.ofList [("$color", "blue")]) ∧
      live.rerendered ((gapAndColor "blue").set "gap" "8px") =
        live.rerendered (gapAndColor "blue") ∧
      live.rerendered (gapAndColor "blue") =
        live.rerendered (.ofList [("$color", "blue"), ("$gap", "4px")]) := by
  have started : (LiveSheet.start LiveSheet.coloredBox ∅).run.value = .ok _ :=
    LiveSheet.start_eq_ok_iff.2 ⟨LiveSheet.cover_coloredBox, rfl⟩
  have unused : ¬ Ruleset.RefersTo LiveSheet.coloredBox.rulesets (withSigil "gap") :=
    fun referred => absurd (eq_color_of_refersTo referred) (by decide)
  obtain ⟨_, starts, rerenders, overrides⟩ := rendering_depends_on_used_bindings
  refine ⟨starts _ _ _ _ rfl fun name referred => ?_, _, started,
    rerenders _ _ _ _ rfl fun name referred => ?_,
    (overrides _ _).1 _ fun name referred => ?_, (overrides _ _).2.1 _ _ unused,
    (overrides _ _).2.2 _ (.swap _ _ _)⟩
  · rw [eq_color_of_refersTo referred]
    decide
  · rw [eq_color_of_refersTo referred]
    decide
  · rw [eq_color_of_refersTo referred]
    decide

end NestedStyles
