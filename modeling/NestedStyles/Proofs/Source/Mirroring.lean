import NestedStyles.Proofs.Source.Grammar
import NestedStyles.Proofs.Source.Placement
import NestedStyles.Proofs.Source.PlainPosition
import NestedStyles.Proofs.Source.Readers

/-!
# A tree mirrors its source

Whatever a reader takes off a text is a tree of the grammar, stands for exactly the
characters that were taken, and has every node in its place. Main statement: the tree of
a source gives the source back, and each of its nodes starts at the line and the column
that counting the text in front of it gives.
-/

namespace NestedStyles

namespace Source

/-- A node of a shape, taken off the input up to where no character goes on with it. -/
structure Taken (locate : Locator) (shape : Node → Prop) (goesOn : Char → Bool)
    (node : Node) (input rest : Unread) : Prop where
  shape : shape node
  mirrors : Mirrors locate [node] input rest
  stops : Stops goesOn rest.text

theorem Stops.ofIdentPart {text : List Char} (stops : Stops isIdentPart text) :
    Stops isIdentStart text :=
  stops.mono fun _ => isIdentPart_of_isIdentStart

theorem stops_never (text : List Char) : Stops (fun _ => false) text := fun _ _ => rfl

section Lexemes

variable {locate : Locator} {input rest : Unread} {node : Node}

/-- A leaf that is read by a word cut holds a word that does not go on in the rest. -/
theorem taken_word {kind : Kind} {starts goesOn : Char → Bool} {cut : Cut}
    (word : cut.split = splitWord starts goesOn)
    (unmarked : kind.IsUnmarked)
    (read : leaf kind cut locate input = some (node, rest)) :
    Taken locate (IsLeaf kind (IsWord starts goesOn)) goesOn node input rest := by
  obtain ⟨text, taken, rfl⟩ := leaf_eq_some_iff.1 read
  rw [word] at taken
  obtain ⟨shape, stops, split⟩ := splitWord_iff.1 taken
  refine ⟨.intro _ (String.toList_ofList ▸ shape), .leaf ?_, stops⟩
  rw [unmarked.opening, unmarked.closing, List.nil_append, List.append_nil, split]

theorem taken_space (read : space locate input = some (node, rest)) :
    Taken locate IsSpace isBlank node input rest :=
  taken_word rfl ⟨rfl, rfl⟩ read

theorem taken_ident (read : ident locate input = some (node, rest)) :
    Taken locate IsIdent isIdentPart node input rest :=
  taken_word rfl ⟨rfl, rfl⟩ read

/-- A mark is read on its own, whatever follows. -/
theorem taken_mark {kind : Kind} {c : Char}
    (unmarked : kind.IsUnmarked)
    (read : mark kind c locate input = some (node, rest)) :
    Taken locate (IsMark kind c) (fun _ => false) node input rest := by
  obtain ⟨text, taken, rfl⟩ := leaf_eq_some_iff.1 read
  obtain ⟨rfl, split⟩ := splitChar_eq_some_iff.1 taken
  refine ⟨.intro _ String.toList_ofList, .leaf ?_, stops_never _⟩
  rw [unmarked.opening, unmarked.closing, List.nil_append, List.append_nil, split]
  rfl

/-- What is read as a number is one. Nothing is said about the rest, since a number may end
before a unit. -/
theorem taken_number (read : number locate input = some (node, rest)) :
    IsNumber node ∧ Mirrors locate [node] input rest := by
  obtain ⟨text, taken, rfl⟩ := leaf_eq_some_iff.1 read
  refine ⟨.intro _ (String.toList_ofList ▸ isNumberText_of_splitNumber taken), .leaf ?_⟩
  rw [← append_of_splitNumber taken]
  simp [Kind.openingMark, Kind.closingMark]

/-- What is read as a comment is one, between its marks. -/
theorem taken_comment (read : comment locate input = some (node, rest)) :
    IsComment node ∧ Mirrors locate [node] input rest := by
  simp only [comment, bind_eq_some_iff, here_eq_some_iff, take_eq_some_iff,
    pure_eq_some_iff] at read
  obtain ⟨_, _, ⟨rfl, rfl⟩, _, _, slash, _, _, star, _, _, ⟨text, taken, rfl⟩, _, _, star', _, _,
    slash', rfl, rfl⟩ := read
  obtain ⟨shape, _, split⟩ := splitCommentText_iff.1 taken
  refine ⟨.intro _ (String.toList_ofList ▸ shape), .leaf ?_⟩
  rw [skip_eq_some_iff.1 slash, skip_eq_some_iff.1 star, split, skip_eq_some_iff.1 star',
    skip_eq_some_iff.1 slash']
  simp [Kind.openingMark, Kind.closingMark]

/-- Optional blank space mirrors what it was read off, also if it is absent. -/
theorem taken_optional_space {spaces : Option Node}
    (read : (optional space) locate input = some (spaces, rest)) :
    (∀ space ∈ spaces, IsSpace space) ∧ Mirrors locate spaces.toList input rest := by
  rcases optional_eq_some_iff.1 read with ⟨space, found, rfl⟩ | ⟨_, rfl, rfl⟩
  · have taken := taken_space found
    exact ⟨fun node member => Option.some.inj member ▸ taken.shape, taken.mirrors⟩
  · refine ⟨?_, .nil⟩
    intro space member
    cases member

end Lexemes

section Terms

variable {locate : Locator} {input rest : Unread} {node : Node}

/-- A dimension is a number with its unit read to its end. -/
theorem taken_dimension (read : dimension locate input = some (node, rest)) :
    Taken locate IsDimension isIdentPart node input rest := by
  obtain ⟨children, inside, rfl⟩ := branch_eq_some_iff.1 read
  simp only [bind_eq_some_iff, pure_eq_some_iff] at inside
  obtain ⟨number, _, first, unit, _, second, rfl, rfl⟩ := inside
  obtain ⟨isNumber, before⟩ := taken_number first
  have taken := taken_ident second
  exact ⟨.intro _ isNumber taken.shape, (before.cons taken.mirrors).branch rfl rfl, taken.stops⟩

theorem ident_eq_none_iff : ident locate input = none ↔ Stops isIdentStart input.text :=
  leaf_eq_none_iff.trans splitWord_eq_none_iff

/-- No dimension is read exactly if no unit starts behind the number, or there is no number. -/
theorem dimension_eq_none_iff :
    dimension locate input = none ↔
      ∀ text tail, splitNumber input.text = some (text, tail) → Stops isIdentStart tail := by
  constructor
  · intro declined text tail taken
    have first : number locate input = some (_, .ofList tail) :=
      leaf_eq_some_iff.2 ⟨text, taken, rfl⟩
    have second : ident locate (.ofList tail) = none := by
      cases found : ident locate (.ofList tail) with
      | none => rfl
      | some result =>
          have read : dimension locate input = some (_, result.2) :=
            branch_eq_some_iff.2 ⟨_, bind_eq_some_iff.2 ⟨_, _, first,
              bind_eq_some_iff.2 ⟨_, _, found, rfl⟩⟩, rfl⟩
          rw [declined] at read
          contradiction
    exact ident_eq_none_iff.1 second
  · intro stops
    cases read : dimension locate input with
    | none => rfl
    | some result =>
        obtain ⟨children, inside, _⟩ := branch_eq_some_iff.1 read
        simp only [bind_eq_some_iff] at inside
        obtain ⟨_, between, first, _, _, second, _⟩ := inside
        obtain ⟨text, taken, _⟩ := leaf_eq_some_iff.1 first
        rw [ident_eq_none_iff.2 (stops text between.text taken)] at second
        contradiction

/-- A variable is read to the end of its name. -/
theorem taken_variableName (read : variableName locate input = some (node, rest)) :
    Taken locate IsVariable isIdentPart node input rest := by
  obtain ⟨children, inside, rfl⟩ := branch_eq_some_iff.1 read
  simp only [bind_eq_some_iff, pure_eq_some_iff, orElse_eq_some_iff] at inside
  obtain ⟨_, between, sigil, name, _, named, rfl, rfl⟩ := inside
  have opens := skip_eq_some_iff.1 sigil
  rcases named with found | ⟨declined, found⟩
  · have taken := taken_dimension found
    exact ⟨.dimension _ taken.shape, taken.mirrors.branch opens rfl, taken.stops⟩
  · -- The name is no dimension because that reader was tried first.
    obtain ⟨text, split, rfl⟩ := leaf_eq_some_iff.1 found
    have taken := taken_ident found
    refine ⟨.ident _ (.intro _ ?_), taken.mirrors.branch opens rfl, taken.stops⟩
    obtain ⟨isIdent, _, whole⟩ := splitWord_iff.1 split
    rw [String.toList_ofList]
    refine ⟨isIdent, fun negative => ?_⟩
    obtain ⟨number, tail, numbered, unit⟩ :=
      exists_splitNumber_of_startsNegativeDimension negative rest.text
    exact unit (dimension_eq_none_iff.1 declined number tail (whole ▸ numbered))

/-- A property is read to the end of its name. -/
theorem taken_property (read : property locate input = some (node, rest)) :
    Taken locate IsProperty isIdentPart node input rest := by
  obtain ⟨children, inside, rfl⟩ := branch_eq_some_iff.1 read
  simp only [bind_eq_some_iff, pure_eq_some_iff, orElse_eq_some_iff] at inside
  obtain ⟨name, _, named, rfl, rfl⟩ := inside
  rcases named with found | ⟨_, found⟩
  · have taken := taken_variableName found
    exact ⟨.variableName _ taken.shape, taken.mirrors.branch rfl rfl, taken.stops⟩
  · have taken := taken_ident found
    exact ⟨.ident _ taken.shape, taken.mirrors.branch rfl rfl, taken.stops⟩

/-- No identifier starts behind a value: a term in front of one would have been read as a
dimension or gone on. -/
theorem taken_value (read : value locate input = some (node, rest)) :
    Taken locate IsValue isIdentStart node input rest := by
  obtain ⟨children, inside, rfl⟩ := branch_eq_some_iff.1 read
  simp only [bind_eq_some_iff, pure_eq_some_iff, orElse_eq_some_iff] at inside
  obtain ⟨term, _, found, rfl, rfl⟩ := inside
  suffices taken : Taken locate IsTerm isIdentStart term input rest from
    ⟨.intro _ taken.shape, taken.mirrors.branch rfl rfl, taken.stops⟩
  rcases found with found | ⟨_, found | ⟨noDimension, found | ⟨noNumber, found⟩⟩⟩
  · have taken := taken_variableName found
    exact ⟨.variableName taken.shape, taken.mirrors, taken.stops.ofIdentPart⟩
  · have taken := taken_dimension found
    exact ⟨.dimension taken.shape, taken.mirrors, taken.stops.ofIdentPart⟩
  · -- A number ends where no unit starts because a dimension was tried before it.
    obtain ⟨isNumber, mirrors⟩ := taken_number found
    obtain ⟨text, split, _⟩ := leaf_eq_some_iff.1 found
    exact ⟨.number isNumber, mirrors, dimension_eq_none_iff.1 noDimension _ _ split⟩
  · obtain ⟨text, split, rfl⟩ := leaf_eq_some_iff.1 found
    have taken := taken_ident found
    refine ⟨.ident (.intro _ ?_), taken.mirrors, taken.stops.ofIdentPart⟩
    obtain ⟨isIdent, stops, whole⟩ := splitWord_iff.1 split
    have refused := leaf_eq_none_iff.1 noNumber
    rw [whole] at refused
    rw [String.toList_ofList]
    exact ⟨isIdent, (splitNumber_ident_eq_none_iff isIdent
      (stops.mono fun _ => isIdentPart_of_isDigit)).1 refused⟩

/-- A declaration mirrors its property, its delimiter and its value, with the blank space
between them. -/
theorem taken_declaration (read : declaration locate input = some (node, rest)) :
    Taken locate IsDeclaration isIdentStart node input rest := by
  obtain ⟨children, inside, rfl⟩ := branch_eq_some_iff.1 read
  simp only [bind_eq_some_iff, pure_eq_some_iff] at inside
  obtain ⟨property, _, first, before, _, second, colon, _, third, after, _, fourth, value, _,
    fifth, rfl, rfl⟩ := inside
  have named := taken_property first
  obtain ⟨blankBefore, mirrorsBefore⟩ := taken_optional_space second
  have marked := taken_mark ⟨rfl, rfl⟩ third
  obtain ⟨blankAfter, mirrorsAfter⟩ := taken_optional_space fourth
  have valued := taken_value fifth
  refine ⟨.intro _ named.shape blankBefore marked.shape blankAfter valued.shape,
    .branch ?_ rfl rfl, valued.stops⟩
  exact ((named.mirrors.cons mirrorsBefore).append (marked.mirrors.cons mirrorsAfter)).append
    valued.mirrors

end Terms

section Selectors

variable {locate : Locator} {input rest : Unread}

/-- A simple selector is read to the end of its name. -/
theorem taken_simpleSelector {node : Node}
    (read : simpleSelector locate input = some (node, rest)) :
    Taken locate IsSimpleSelector isIdentPart node input rest := by
  simp only [simpleSelector, orElse_eq_some_iff, branch_eq_some_iff, bind_eq_some_iff,
    pure_eq_some_iff] at read
  rcases read with ⟨_, ⟨_, _, marked, name, _, found, rfl, rfl⟩, rfl⟩ |
    ⟨_, ⟨_, ⟨_, _, marked, name, _, found, rfl, rfl⟩, rfl⟩ |
      ⟨_, _, ⟨name, _, found, rfl, rfl⟩, rfl⟩⟩
  · have taken := taken_ident found
    exact ⟨.ofClass _ taken.shape, taken.mirrors.branch (skip_eq_some_iff.1 marked) rfl,
      taken.stops⟩
  · have taken := taken_ident found
    exact ⟨.ofId _ taken.shape, taken.mirrors.branch (skip_eq_some_iff.1 marked) rfl,
      taken.stops⟩
  · have taken := taken_ident found
    exact ⟨.ofType _ taken.shape, taken.mirrors.branch rfl rfl, taken.stops⟩

/-- An alternative mirrors its comma and its simple selector. -/
theorem taken_alternative {nodes : List Node}
    (read : alternative locate input = some (nodes, rest)) :
    IsAlternative nodes ∧ Mirrors locate nodes input rest := by
  simp only [alternative, bind_eq_some_iff, pure_eq_some_iff] at read
  obtain ⟨before, _, first, comma, _, second, after, _, third, next, _, fourth, rfl, rfl⟩ := read
  obtain ⟨blankBefore, mirrorsBefore⟩ := taken_optional_space first
  have marked := taken_mark ⟨rfl, rfl⟩ second
  obtain ⟨blankAfter, mirrorsAfter⟩ := taken_optional_space third
  have selected := taken_simpleSelector fourth
  refine ⟨.intro blankBefore marked.shape blankAfter selected.shape, ?_⟩
  exact (mirrorsBefore.append (marked.mirrors.cons mirrorsAfter)).append selected.mirrors

/-- All alternatives are read off the input, one behind the other. -/
theorem taken_alternatives (locate : Locator) (input : Unread) :
    let taken := takeAll alternative advances_alternative locate input
    (∀ nodes ∈ taken.1, IsAlternative nodes) ∧
      Mirrors locate taken.1.flatten input taken.2 := by
  fun_induction takeAll alternative advances_alternative locate input with
  | case1 input declined => exact ⟨List.forall_mem_nil _, .nil⟩
  | case2 input nodes between read shorter others rest taken ih =>
      rw [taken] at ih
      obtain ⟨shape, mirrors⟩ := taken_alternative read
      exact ⟨List.forall_mem_cons.2 ⟨shape, ih.1⟩, mirrors.append ih.2⟩

/-- A selector mirrors its first simple selector and its alternatives. -/
theorem taken_selector {node : Node} (read : selector locate input = some (node, rest)) :
    IsSelector node ∧ Mirrors locate [node] input rest := by
  obtain ⟨children, inside, rfl⟩ := branch_eq_some_iff.1 read
  simp only [bind_eq_some_iff, pure_eq_some_iff] at inside
  obtain ⟨first, between, found, others, _, repeated, rfl, rfl⟩ := inside
  have taken := taken_simpleSelector found
  obtain ⟨shapes, mirrors⟩ := taken_alternatives locate between
  rw [Option.some.inj repeated] at shapes mirrors
  exact ⟨.intro _ taken.shape shapes, (taken.mirrors.cons mirrors).branch rfl rfl⟩

/-- An opening mirrors the text up to the brace. -/
theorem taken_opening {found : Opening} (read : opening locate input = some (found, rest)) :
    IsSelector found.selector ∧ (∀ space ∈ found.space, IsSpace space) ∧
      found.start = locate input ∧
      ∃ block : Unread, Mirrors locate (found.selector :: found.space.toList) input block ∧
        block.text = '{' :: rest.text ∧ found.blockStart = locate block := by
  simp only [opening, bind_eq_some_iff, here_eq_some_iff, pure_eq_some_iff] at read
  obtain ⟨_, _, ⟨rfl, rfl⟩, selector, _, first, space, block, second, _, _, ⟨rfl, rfl⟩, _, _,
    brace, rfl, rfl⟩ := read
  obtain ⟨shape, mirrors⟩ := taken_selector first
  obtain ⟨blank, mirrorsBlank⟩ := taken_optional_space second
  exact ⟨shape, blank, rfl, _, mirrors.cons mirrorsBlank, skip_eq_some_iff.1 brace, rfl⟩

end Selectors

section Items

variable {forms : List Form} {locate : Locator} {input rest : Unread}

/-- A reader wrapped as an item reads what it reads on its own. -/
theorem map_item_eq_some_iff {reader : ReadM Node} {node : Node} :
    (Piece.item <$> reader) locate input = some (.item node, rest) ↔
      reader locate input = some (node, rest) := by
  rw [map_eq_some_iff]
  constructor
  · rintro ⟨_, read, same⟩
    exact Piece.item.inj same ▸ read
  · intro read
    exact ⟨node, read, rfl⟩

/-- Every form reads an item of the grammar that mirrors what it was read off and is not
prolonged by the rest. -/
theorem taken_item {form : Form} {node : Node}
    (read : form.read locate input = some (.item node, rest)) :
    Taken locate IsItem (prolongs node.kind) node input rest := by
  cases form with
  | space =>
      have taken := taken_space (map_item_eq_some_iff.1 read)
      refine ⟨.space taken.shape, taken.mirrors, ?_⟩
      cases taken.shape
      exact taken.stops
  | comment =>
      obtain ⟨shape, mirrors⟩ := taken_comment (map_item_eq_some_iff.1 read)
      refine ⟨.comment shape, mirrors, ?_⟩
      cases shape
      exact stops_never _
  | declaration =>
      have taken := taken_declaration (map_item_eq_some_iff.1 read)
      refine ⟨.declaration taken.shape, taken.mirrors, ?_⟩
      cases taken.shape
      exact taken.stops
  | ruleset =>
      obtain ⟨_, _, same⟩ := map_eq_some_iff.1 read
      contradiction
  | delimiter =>
      have taken := taken_mark ⟨rfl, rfl⟩ (map_item_eq_some_iff.1 read)
      refine ⟨.delimiter taken.shape, taken.mirrors, ?_⟩
      cases taken.shape
      exact stops_never _

/-- Only the form of rulesets reads openings. -/
theorem read_opening_iff {form : Form} {found : Opening} :
    form.read locate input = some (.opening found, rest) ↔
      form = .ruleset ∧ opening locate input = some (found, rest) := by
  cases form with
  | ruleset =>
      refine map_eq_some_iff.trans ⟨?_, ?_⟩
      · rintro ⟨_, read, same⟩
        exact ⟨rfl, Piece.opening.inj same ▸ read⟩
      · rintro ⟨_, read⟩
        exact ⟨found, read, rfl⟩
  | _ =>
      refine map_eq_some_iff.trans ⟨?_, ?_⟩
      · rintro ⟨_, _, same⟩
        contradiction
      · rintro ⟨same, _⟩
        contradiction

/-- A piece is read by one of the forms. -/
theorem exists_form_of_piece {found : Piece}
    (read : piece forms locate input = some (found, rest)) :
    ∃ form ∈ forms, form.read locate input = some (found, rest) := by
  induction forms with
  | nil =>
      change none = some (found, rest) at read
      contradiction
  | cons form forms ih =>
      rcases orElse_eq_some_iff.1 read with first | ⟨_, later⟩
      · exact ⟨form, List.mem_cons_self, first⟩
      · obtain ⟨other, member, reads⟩ := ih later
        exact ⟨other, List.mem_cons_of_mem form member, reads⟩

end Items

section Levels

variable {forms : List Form} {locate : Locator} {frames : List Frame}
  {items result : Array Node} {input between rest : Unread}

/-- An item that is read in front of items is not prolonged by them. -/
theorem Taken.areItems_cons {node : Node} {more : List Node}
    (taken : Taken locate IsItem (prolongs node.kind) node input between)
    (later : AreItems more) (mirrors : Mirrors locate more between rest) :
    AreItems (node :: more) := by
  apply later.cons taken.shape
  have stops := taken.stops
  rw [mirrors.text] at stops
  exact stops.left

/-- An opening and the items behind it up to the closing brace are a ruleset. -/
theorem taken_ruleset {found : Opening} {inner : List Node} {block behind : Unread}
    (read : opening locate input = some (found, block)) (isItems : AreItems inner)
    (mirrors : Mirrors locate inner block between) (closes : between.text = '}' :: behind.text) :
    Taken locate IsItem (prolongs (found.close inner).kind) (found.close inner) input behind := by
  obtain ⟨shape, blank, starts, brace, before, opens, blockStarts⟩ := taken_opening read
  refine ⟨.ruleset _ _ shape blank isItems.each isItems.apart, ?_, stops_never _⟩
  have inside : Mirrors locate [.branch .block inner (locate brace)] brace behind :=
    mirrors.branch opens closes
  rw [Opening.close, starts, blockStarts]
  exact (before.append inside).branch rfl rfl

/-- A successful reading takes the items of the innermost level up to where none follows,
and goes on from there. -/
theorem exists_level (read : readItems forms locate frames items input = .ok result) :
    ∃ level rest, AreItems level ∧ Mirrors locate level input rest ∧
      piece forms locate rest = none ∧
      readItems forms locate frames (items ++ level.toArray) rest = .ok result := by
  -- The rest behind a ruleset is where the reading of its block ends, so the induction is on
  -- the length of the input and not on the calls of the loop.
  induction length : input.text.length using Nat.strong_induction_on
    generalizing frames items input with
  | _ n ih =>
      subst length
      have goesOn : ∀ {node : Node} {between : Unread},
          Taken locate IsItem (prolongs node.kind) node input between →
          between.text.length < input.text.length →
          readItems forms locate frames (items.push node) between = .ok result →
          ∃ level rest, AreItems level ∧ Mirrors locate level input rest ∧
            piece forms locate rest = none ∧
            readItems forms locate frames (items ++ level.toArray) rest = .ok result := by
        intro node between taken shorter later
        obtain ⟨more, rest, isItems, mirrors, declined, finished⟩ := ih _ shorter later rfl
        refine ⟨node :: more, rest, taken.areItems_cons isItems mirrors,
          taken.mirrors.cons mirrors, declined, ?_⟩
        rw [← finished]
        simp
      rcases found : piece forms locate input with _ | ⟨node | opened, block⟩
      · exact ⟨[], input, areItems_nil, .nil, found, by simpa using read⟩
      · rw [readItems_item found] at read
        obtain ⟨form, _, reads⟩ := exists_form_of_piece found
        exact goesOn (taken_item reads) (advances_piece forms found) read
      · rw [readItems_opening found] at read
        obtain ⟨form, _, reads⟩ := exists_form_of_piece found
        have shorter := advances_piece forms found
        obtain ⟨inner, between, isItems, mirrors, declined, finished⟩ := ih _ shorter read rfl
        cases closed : skip '}' locate between with
        | none =>
            rw [readItems_stuck declined closed] at finished
            contradiction
        | some result =>
            obtain ⟨_, behind⟩ := result
            have closes := skip_eq_some_iff.1 closed
            rw [readItems_close declined closes, Array.empty_append] at finished
            have taken := taken_ruleset (read_opening_iff.1 reads).2 isItems mirrors closes
            refine goesOn taken ?_ finished
            have blockLength := congrArg List.length mirrors.text
            have restLength := congrArg List.length closes
            rw [List.length_append] at blockLength
            rw [List.length_cons] at restLength
            omega

/-- What is read of a whole source is a stylesheet in its place. -/
theorem readStylesheet_mirrors {source : List Char} {tree : Node}
    (read : readStylesheet forms source = .ok tree) :
    IsStylesheet tree ∧ tree.source = source ∧
      tree.place (LineIndex.ofSource source).position [] = tree := by
  unfold readStylesheet at read
  dsimp only at read
  split at read
  · next result found =>
      obtain rfl := Except.ok.inj read
      obtain ⟨level, rest, isItems, mirrors, declined, finished⟩ := exists_level found
      rw [readItems_outermost declined] at finished
      split at finished
      · next ended =>
          have text := mirrors.text
          have placed := mirrors.placed
          rw [List.isEmpty_iff.1 ended] at text placed
          rw [List.append_nil, Unread.text_ofList] at text
          rw [← Except.ok.inj finished, Array.empty_append]
          have whole : (Node.branch .stylesheet level .origin).source = source := by
            rw [Node.source_stylesheet, text]
          refine ⟨.intro _ isItems, whole, ?_⟩
          have origin : (LineIndex.ofSource source).position (.ofList source) = .origin :=
            LineIndex.position_ofSource [] source
          rw [Node.place, whole, List.append_nil source, origin]
          exact congrArg (Node.branch .stylesheet · .origin) placed
      · contradiction
  · contradiction

end Levels

end Source

namespace Node

/-- The tree of a source gives the source back, and every node of it, at every depth, starts
at the line and the column that follow from the text in front of the node. -/
theorem ofSource_mirrors {source : String} {tree : Node} (read : ofSource source = .ok tree) :
    tree.sourceText = source ∧
      ∀ occurrence ∈ tree.occurrences [],
        occurrence.1 ++ occurrence.2.source <+: source.toList ∧
          occurrence.2.start = .behind occurrence.1 := by
  obtain ⟨_, text, placed⟩ := Source.readStylesheet_mirrors read
  refine ⟨by rw [sourceText, text, String.ofList_toList], ?_⟩
  intro occurrence member
  obtain ⟨after, split, starts⟩ := start_of_mem_occurrences placed member
  rw [List.nil_append, List.append_nil, text] at split
  refine ⟨⟨after, by rw [split, List.append_assoc]⟩, ?_⟩
  rw [starts, split]
  exact Source.LineIndex.position_ofSource _ _

/-- A ruleset with one class and a block that starts a new line. -/
def brokenBlock : Node :=
  .branch .stylesheet
    [.branch .ruleset
      [.branch .selector [.branch .classSelector [.leaf .ident "é" ⟨1, 2⟩] ⟨1, 1⟩] ⟨1, 1⟩,
        .branch .block
          [.leaf .space "\n" ⟨1, 4⟩, .leaf .declarationDelimiter ";" ⟨2, 1⟩] ⟨1, 3⟩]
      ⟨1, 1⟩]
    .origin

/-- The source is read as the node with its positions. -/
theorem ofSource_brokenBlock : ofSource ".é\x7b\n;\x7d" = .ok brokenBlock := by
  have read : (ofSource ".é\x7b\n;\x7d").toOption = some brokenBlock := by decide +kernel
  cases found : ofSource ".é\x7b\n;\x7d" with
  | error _ =>
      rw [found] at read
      contradiction
  | ok tree =>
      rw [found] at read
      exact congrArg Except.ok (Option.some.inj read)

/-- The delimiter behind a line break in a block has the position behind the text in front of
it. -/
theorem ofSource_mirrors_brokenBlock :
    ofSource ".é\x7b\n;\x7d" = .ok brokenBlock ∧
      brokenBlock.sourceText = ".é\x7b\n;\x7d" ∧
      (".é\x7b\n".toList, .leaf .declarationDelimiter ";" ⟨2, 1⟩) ∈
        brokenBlock.occurrences [] ∧
      (⟨2, 1⟩ : Position) = .behind ".é\x7b\n".toList := by
  obtain ⟨text, places⟩ := ofSource_mirrors ofSource_brokenBlock
  have member : (".é\x7b\n".toList, .leaf .declarationDelimiter ";" ⟨2, 1⟩) ∈
      brokenBlock.occurrences [] := by decide +kernel
  exact ⟨ofSource_brokenBlock, text, member, (places _ member).2⟩

end Node

end NestedStyles
