import NestedStyles.Proofs.Render.Rerendering

/-!
# Outlines of rules

What a rule keeps when its variables change: its selector, its property names, and the
values as they are declared. The outlines of a program follow from its rulesets alone, and
every rendering of a live sheet inserts the rules of all outlines, in order, with each
value looked up in the variables that are in force (`flatRules_eq_map_outlines`).
-/

namespace NestedStyles

/-- A rule before its values are looked up. -/
structure Outline where
  selector : String
  declarations : Declarations
deriving DecidableEq

/-- The rule of an outline: its selector, and behind each of its property names what the
declared value stands for. -/
def Outline.rule (bindings : Variables) (outline : Outline) : String :=
  outline.selector ++ " \x7b " ++
    ";".intercalate (outline.declarations.entries.map fun entry =>
      entry.1 ++ ": " ++ bindings.meaning entry.2) ++ " \x7d"

/-- The outlines of a block: none without declarations, and otherwise one for every
choice of selectors. -/
def PlacedBlock.outlines (block : PlacedBlock) : List Outline :=
  if block.declarations.isEmpty then []
  else (choices block.groups).map fun choice =>
    ⟨" ".intercalate choice, block.declarations⟩

/-- The outlines of rulesets outside of all others. -/
def Ruleset.outlines (rulesets : List Ruleset) : List Outline :=
  (Ruleset.placedAll [] rulesets).flatMap PlacedBlock.outlines

/-- The rules of a block are those of its outlines. -/
theorem PlacedBlock.rules_eq_map_outlines (bindings : Variables) (block : PlacedBlock) :
    block.rules bindings = block.outlines.map (Outline.rule bindings) := by
  unfold rules outlines
  by_cases empty : block.declarations.isEmpty
  · rw [if_pos empty, if_pos empty, List.map_nil]
  · rw [if_neg empty, if_neg empty, List.map_map]
    rfl

/-- Whatever variables are in force, the rules of rulesets are those of their outlines. -/
theorem flatRules_eq_map_outlines (bindings : Variables) (rulesets : List Ruleset) :
    flatRules bindings rulesets = (Ruleset.outlines rulesets).map (Outline.rule bindings) := by
  unfold flatRules Ruleset.outlines
  rw [List.map_flatMap]
  exact List.flatMap_congr fun block _ => block.rules_eq_map_outlines bindings

namespace LiveSheet

/-- A live sheet as it is after its first rendering, which inserted rules behind
those of the given sheet. -/
def StartedBehind (sheet : Sheet) (live : LiveSheet) : Prop :=
  (∃ program, (start program sheet).run.value = .ok live) ∨
    ∃ units, (startUnits units sheet).run.value = .ok live

/-- A listed program starts as the program it stands for. -/
theorem StartedBehind.exists_program {sheet : Sheet} {live : LiveSheet}
    (started : StartedBehind sheet live) :
    ∃ program, (start program sheet).run.value = .ok live := by
  rcases started with started | ⟨units, started⟩
  · exact started
  · unfold startUnits at started
    split at started
    · next program _ => exact ⟨program, started⟩
    · cases started

/-- The first rendering has shown that the program's own variables cover its
rulesets. -/
theorem StartedBehind.cover {sheet : Sheet} {live : LiveSheet}
    (started : StartedBehind sheet live) : live.base.Cover live.rulesets := by
  obtain ⟨program, started⟩ := started.exists_program
  obtain ⟨cover, rfl⟩ := start_eq_ok_iff.1 started
  exact cover

/-- The first rendering inserts the rules of all outlines under the program's own
variables. -/
theorem StartedBehind.sheet_eq {sheet : Sheet} {live : LiveSheet}
    (started : StartedBehind sheet live) :
    live.sheet = sheet.insertAll
      ((Ruleset.outlines live.rulesets).map (Outline.rule live.base)) := by
  obtain ⟨program, started⟩ := started.exists_program
  obtain ⟨_, rfl⟩ := start_eq_ok_iff.1 started
  exact congrArg sheet.insertAll (flatRules_eq_map_outlines _ _)

/-- At any point of a run of renderings a covered live sheet is rendered again without
error, and its sheet then holds the rules of all outlines under the last overrides, and no
others. -/
theorem rerender_fills_outlines {live : LiveSheet} (cover : live.base.Cover live.rulesets)
    (earlier : List Variables) (last : Variables) :
    ((live.rerenderAll earlier).rerender last).value.1 = .ok () ∧
      (live.rerenderAll (earlier ++ [last])).sheet.rules.toList =
        (Ruleset.outlines live.rulesets).map (Outline.rule (live.base.override last)) := by
  constructor
  · rw [rerender_of_cover (cover_rerenderAll cover earlier)]
  · rw [rerenderAll_concat cover, ← flatRules_eq_map_outlines]
    exact Sheet.toList_insertAll_empty _

/-- Live sheets as callers come by them: started, and rendered again any number of
times. -/
inductive Running : LiveSheet → Prop where
  | started {sheet : Sheet} {live : LiveSheet} : StartedBehind sheet live → Running live
  | rerendered {live : LiveSheet} (overrides : Variables) :
      Running live → Running (live.rerender overrides).value.2

/-- No rendering of a running live sheet has ever failed, so its own variables cover
its rulesets. -/
theorem Running.cover {live : LiveSheet} (running : live.Running) :
    live.base.Cover live.rulesets := by
  induction running with
  | started started => exact started.cover
  | rerendered overrides _ ih =>
      rw [rerender_of_cover ih]
      exact ih

end LiveSheet

end NestedStyles
