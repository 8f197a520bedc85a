import NestedStyles.Proofs.Program.Unplaced
import NestedStyles.Proofs.Source.Layout

/-!
# Layout does not matter

A source compiles as the significant nodes of its items do, up to the position in an
error (`Source.ReadsAs.value_ofSource`). Main statement: layout inserted at any seam of a
readable source, at any depth, leaves it readable, with the same program or the same
compile error at another position.
-/

namespace NestedStyles

/-- The error without the position of the node at fault. What cannot be read is reported as
it is. -/
def SourceError.unplaced : SourceError → SourceError
  | unreadable error => unreadable error
  | uncompilable error => uncompilable error.unplaced

/-- Without positions, what a source compiles to is what its tree compiles to. -/
theorem value_ofSource_unplaced {source : String} {tree : Node}
    (read : Node.ofSource source = .ok tree) :
    (Program.ofSource source).run.value.mapError SourceError.unplaced =
      (unplacedOutcome (Program.ofTree tree).outcome).mapError .uncompilable := by
  have value : (Program.ofSource source).run.value =
      (Program.ofTree tree).outcome.mapError .uncompilable := by
    rw [Program.ofSource, read]
    rfl
  rw [value]
  cases (Program.ofTree tree).outcome <;> rfl

namespace Source

/-- A text that reads as items is read, and into a tree with their normal forms. -/
theorem ReadsAs.exists_tree {source : String} {nodes : List Node}
    (reads : ReadsAs source.toList nodes) :
    ∃ tree, Node.ofSource source = .ok tree ∧
      tree.normalize.unplaced = .branch .stylesheet (Node.unplacedAll nodes) .unknown := by
  obtain ⟨items, areItems, text, rfl⟩ := reads
  have read := Node.ofSource_sourceText areItems .unknown
  have same : (Node.branch .stylesheet items .unknown).sourceText = source := by
    rw [Node.sourceText, Node.source_stylesheet, text, String.ofList_toList]
  dsimp only at read
  rw [same] at read
  refine ⟨_, read, ?_⟩
  rw [Node.normalize, Node.unplaced, ← Node.normalizeAll_unplacedAll, Node.unplacedAll_placeAll,
    Node.normalizeAll_unplacedAll]

/-- A source compiles as a tree of its significant nodes does, up to positions. -/
theorem ReadsAs.value_ofSource {source : String} {items : List Node}
    (reads : ReadsAs source.toList (Node.normalizeAll items)) (start : Position) :
    (Program.ofSource source).run.value.mapError SourceError.unplaced =
      (unplacedOutcome (Program.ofTree (.branch .stylesheet items start)).outcome).mapError
        .uncompilable := by
  obtain ⟨tree, read, normal⟩ := reads.exists_tree
  rw [value_ofSource_unplaced read]
  congr 1
  apply Program.outcome_ofTree_congr
  rw [normal]
  rfl

/-- A source compiles to the program that its significant nodes compile to. -/
theorem ReadsAs.value_eq_ok {source : String} {items : List Node} {program : Program}
    (reads : ReadsAs source.toList (Node.normalizeAll items)) (start : Position)
    (compiles : (Program.ofTree (.branch .stylesheet items start)).outcome = .ok program) :
    (Program.ofSource source).run.value = .ok program := by
  have same := reads.value_ofSource start
  rw [compiles] at same
  exact mapError_eq_ok_iff.1 same

end Source

/-- Layout inserted at a seam of a readable source leaves it readable. The program stays the
same, or the compile error does, apart from its position. -/
theorem ofSource_insert_layout {source : String} {tree : Node} {before padding after : List Char}
    (read : Node.ofSource source = .ok tree) (seam : Source.IsSeam tree.children before after)
    (layout : ∀ c ∈ padding, Source.isLayout c) :
    source.toList = before ++ after ∧
      (∃ padded, Node.ofSource (String.ofList (before ++ padding ++ after)) = .ok padded) ∧
      (Program.ofSource (String.ofList (before ++ padding ++ after))).run.value.mapError
          SourceError.unplaced =
        (Program.ofSource source).run.value.mapError SourceError.unplaced := by
  obtain ⟨⟨start, areItems⟩, text, _⟩ := Source.readStylesheet_mirrors read
  have reads := seam.readsAs areItems layout
  rw [← List.append_assoc, ← String.toList_ofList (l := before ++ padding ++ after)] at reads
  refine ⟨?_, ?_, ?_⟩
  · rw [← text, Node.source_stylesheet]
    exact seam.sourceAll_eq
  · obtain ⟨padded, found, _⟩ := reads.exists_tree
    exact ⟨padded, found⟩
  · rw [value_ofSource_unplaced read]
    exact reads.value_ofSource start

/-- A declaration of a number, and a ruleset for a class, as they stand directly behind each
other inside a block. -/
def numberThenClass : Node × Node :=
  (.branch .declaration
    [.branch .property [.leaf .ident "b" ⟨1, 3⟩] ⟨1, 3⟩,
      .leaf .propertyDelimiter ":" ⟨1, 4⟩,
      .branch .value [.leaf .number "1" ⟨1, 5⟩] ⟨1, 5⟩]
    ⟨1, 3⟩,
  .branch .ruleset
    [.branch .selector [.branch .classSelector [.leaf .ident "c" ⟨1, 7⟩] ⟨1, 6⟩] ⟨1, 6⟩,
      .branch .block [] ⟨1, 8⟩]
    ⟨1, 6⟩)

/-- A ruleset with these two in its block. -/
def tightBlock : Node :=
  .branch .stylesheet
    [.branch .ruleset
      [.branch .selector [.branch .typeSelector [.leaf .ident "a" ⟨1, 1⟩] ⟨1, 1⟩] ⟨1, 1⟩,
        .branch .block [numberThenClass.1, numberThenClass.2] ⟨1, 2⟩]
      ⟨1, 1⟩]
    .origin

/-- There is a seam between the declaration and the ruleset behind it. -/
theorem isSeam_tightBlock :
    Source.IsSeam tightBlock.children "a\x7bb:1".toList ".c\x7b\x7d\x7d".toList :=
  @Source.IsSeam.inside
    [.branch .selector [.branch .typeSelector [.leaf .ident "a" ⟨1, 1⟩] ⟨1, 1⟩] ⟨1, 1⟩] _ _ _ [] []
    ⟨1, 2⟩ ⟨1, 1⟩ (Source.IsSeam.between [numberThenClass.1] [numberThenClass.2])

/-- A blank and a delimiter between the two change nothing. -/
theorem ofSource_insert_layout_tightBlock :
    Node.ofSource "a\x7bb:1.c\x7b\x7d\x7d" = .ok tightBlock ∧
      Source.IsSeam tightBlock.children "a\x7bb:1".toList ".c\x7b\x7d\x7d".toList ∧
      (Program.ofSource "a\x7bb:1 ;.c\x7b\x7d\x7d").run.value.mapError SourceError.unplaced =
        (Program.ofSource "a\x7bb:1.c\x7b\x7d\x7d").run.value.mapError SourceError.unplaced := by
  have read : Node.ofSource "a\x7bb:1.c\x7b\x7d\x7d" = .ok tightBlock :=
    eq_ok_of_toOption (by decide +kernel)
  have layout : ∀ c ∈ " ;".toList, Source.isLayout c := by
    simp [Source.isLayout, Source.isBlank]
  obtain ⟨_, _, same⟩ := ofSource_insert_layout read isSeam_tightBlock layout
  exact ⟨read, isSeam_tightBlock, same⟩

end NestedStyles
