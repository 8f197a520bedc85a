import NestedStyles.Proofs.Source.Forms

/-!
# Trees of the grammar read back

Each reader takes a tree of its shape off the tree's own text, whatever comes behind that
cannot prolong it. Main statement: the trees of the grammar are exactly the trees that are
read, and each is read from its own source text, up to positions.
-/

namespace NestedStyles

namespace Source

/-- A text that neither an identifier nor a number goes on with. -/
structure EndsTerm (rest : List Char) : Prop where
  ident : Stops isIdentPart rest
  fraction : ¬ StartsFraction rest

/-- The reader takes exactly the node off the node's text in front of `rest`. -/
def ReadsBack (reader : ReadM Node) (node : Node) (rest : List Char) : Prop :=
  ∀ locate, reader locate (.ofList (node.source ++ rest)) =
    some (node.place locate rest, .ofList rest)

section Terms

variable {node : Node} {rest : List Char}

/-- A leaf is read back if its cut takes exactly its text. -/
theorem readsBack_leaf {kind : Kind} {cut : Cut} {text : String} {start : Position}
    (unmarked : kind.IsUnmarked)
    (taken : cut.split (text.toList ++ rest) = some (text.toList, rest)) :
    ReadsBack (leaf kind cut) (.leaf kind text start) rest := by
  intro locate
  refine leaf_eq_some_iff.2 ⟨text.toList, ?_, ?_⟩
  · rw [source_leaf unmarked]
    exact taken
  · rw [Node.place, String.ofList_toList]

/-- A branch is read back if its children are read back behind its opening mark. -/
theorem readsBack_branch {kind : Kind} {reader : ReadM (List Node)} {children : List Node}
    {start : Position} (unclosed : kind.closingMark = [])
    (inside : ∀ locate,
      reader locate (.ofList (kind.openingMark ++ (Node.sourceAll children ++ rest))) =
        some (Node.placeAll locate rest children, .ofList rest)) :
    ReadsBack (branch kind reader) (.branch kind children start) rest := by
  intro locate
  refine branch_eq_some_iff.2 ⟨Node.placeAll locate rest children, ?_, ?_⟩
  · rw [Node.source, unclosed, List.append_nil, List.append_assoc]
    exact inside locate
  · rw [Node.place, unclosed, List.nil_append]

/-- A node that is read back still is inside a branch without marks. -/
theorem ReadsBack.single {kind : Kind} {reader : ReadM Node} {start : Position}
    (inner : ReadsBack reader node rest)
    (unmarked : kind.IsUnmarked) :
    ReadsBack (branch kind do let child ← reader; return [child])
      (.branch kind [node] start) rest := by
  refine readsBack_branch unmarked.closing fun locate => ?_
  rw [unmarked.opening, List.nil_append, Node.sourceAll_singleton, bind_of_eq_some (inner locate)]
  rfl

/-- A node that is read back still is inside a branch with an opening mark. -/
theorem ReadsBack.marked {kind : Kind} {c : Char} {reader : ReadM Node} {start : Position}
    (inner : ReadsBack reader node rest)
    (marked : kind.openingMark = [c] ∧ kind.closingMark = []) :
    ReadsBack (branch kind do skip c; let child ← reader; return [child])
      (.branch kind [node] start) rest := by
  refine readsBack_branch marked.2 fun locate => ?_
  have skipped : skip c locate (.ofList (c :: (node.source ++ rest))) =
      some ((), .ofList (node.source ++ rest)) := skip_eq_some_iff.2 rfl
  rw [marked.1, Node.sourceAll_singleton, List.singleton_append, bind_of_eq_some skipped,
    bind_of_eq_some (inner locate)]
  rfl

theorem ReadsBack.orElse {reader other : ReadM Node} (first : ReadsBack reader node rest) :
    ReadsBack (reader <|> other) node rest := by
  intro locate
  rw [orElse_apply, first locate, Option.some_or]

/-- What the second reader reads back, both readers do if the first one declines it. -/
theorem ReadsBack.orElse_right {reader other : ReadM Node} (second : ReadsBack other node rest)
    (declined : ∀ locate, reader locate (.ofList (node.source ++ rest)) = none) :
    ReadsBack (reader <|> other) node rest := by
  intro locate
  rw [orElse_apply, declined locate, Option.none_or, second locate]

theorem readsBack_space (shape : IsSpace node) (stops : Stops isBlank rest) :
    ReadsBack space node rest := by
  obtain ⟨start, blank⟩ := shape
  exact readsBack_leaf ⟨rfl, rfl⟩ (splitWord_iff.2 ⟨blank, stops, rfl⟩)

theorem readsBack_ident {texts : List Char → Prop} (shape : IsLeaf .ident texts node)
    (words : ∀ text, texts text → IsIdentText text) (stops : Stops isIdentPart rest) :
    ReadsBack ident node rest := by
  obtain ⟨start, word⟩ := shape
  exact readsBack_leaf ⟨rfl, rfl⟩ (splitWord_iff.2 ⟨words _ word, stops, rfl⟩)

theorem readsBack_mark {kind : Kind} {c : Char} (shape : IsMark kind c node)
    (unmarked : kind.IsUnmarked) :
    ReadsBack (mark kind c) node rest := by
  obtain ⟨start, text⟩ := shape
  exact readsBack_leaf unmarked (splitChar_eq_some_iff.2 ⟨text, by rw [text]; rfl⟩)

theorem readsBack_number (shape : IsNumber node) (noDigit : Stops Char.isDigit rest)
    (noFraction : ¬ StartsFraction rest) : ReadsBack number node rest := by
  obtain ⟨start, number⟩ := shape
  exact readsBack_leaf ⟨rfl, rfl⟩ (splitNumber_append number noDigit noFraction)

/-- A dimension is read back if nothing goes on with its unit, since its unit ends its
number. -/
theorem readsBack_dimension (shape : IsDimension node) (stops : Stops isIdentPart rest) :
    ReadsBack dimension node rest := by
  obtain @⟨number', unit, start, isNumber, isIdent⟩ := shape
  have starts : Starts isIdentStart (unit.source ++ rest) := isIdent.starts.append rest
  have first : ReadsBack number number' (unit.source ++ rest) := by
    refine readsBack_number isNumber (starts.stops fun _ => isDigit_eq_false_of_isIdentStart) ?_
    obtain ⟨c, tail, text, opens⟩ := starts
    rw [text]
    exact not_startsFraction_of_isIdentPart (isIdentPart_of_isIdentStart opens) tail
  have second : ReadsBack ident unit rest := readsBack_ident isIdent (fun _ => id) stops
  refine readsBack_branch rfl fun locate => ?_
  simp only [Kind.openingMark, Node.sourceAll, Node.placeAll, List.nil_append,
    List.append_assoc]
  rw [bind_of_eq_some (first locate), bind_of_eq_some (second locate)]
  rfl

/-- A variable is read back in front of a text that ends terms. -/
theorem readsBack_variableName (shape : IsVariable node) (ends : EndsTerm rest) :
    ReadsBack variableName node rest := by
  cases shape with
  | dimension start name =>
      exact (readsBack_dimension name ends.ident).orElse.marked ⟨rfl, rfl⟩
  | ident start name =>
      have second := readsBack_ident name (fun _ => And.left) ends.ident
      refine (second.orElse_right fun locate => ?_).marked ⟨rfl, rfl⟩
      -- Only an identifier that starts with a minus sign and digits could be a dimension.
      obtain ⟨start, isIdent, plain⟩ := name
      refine dimension_eq_none_iff.2 fun text tail taken => ?_
      rw [Unread.text_ofList, source_leaf ⟨rfl, rfl⟩] at taken
      exact stops_of_splitNumber_ident isIdent plain ends.ident ends.fraction taken

/-- A branch with an opening mark declines an input that starts otherwise. -/
theorem branch_skip_eq_none {kind : Kind} {c : Char} {next : Unit → ReadM (List Node)}
    {locate : Locator} {opens : Char → Bool} {input : Unread} (starts : Starts opens input.text)
    (apart : opens c = false) : branch kind (skip c >>= next) locate input = none := by
  cases read : branch kind (skip c >>= next) locate input with
  | none => rfl
  | some result =>
      obtain ⟨_, inside, _⟩ := branch_eq_some_iff.1 read
      obtain ⟨_, _, skipped, _⟩ := bind_eq_some_iff.1 inside
      rw [skip_eq_some_iff.1 skipped, starts_cons, apart] at starts
      contradiction

/-- A property is read back in front of a text that ends terms. -/
theorem readsBack_property (shape : IsProperty node) (ends : EndsTerm rest) :
    ReadsBack property node rest := by
  cases shape with
  | variableName start name => exact (readsBack_variableName name ends).orElse.single ⟨rfl, rfl⟩
  | ident start name =>
      refine ReadsBack.single ?_ ⟨rfl, rfl⟩
      refine (readsBack_ident name (fun _ => id) ends.ident).orElse_right fun locate => ?_
      exact branch_skip_eq_none (name.starts.append rest) rfl

/-- A term is read back by the readers tried in their order: each reader before the right one
declines the text, because of its first character, of the missing unit, or because the
identifier does not start as a number. -/
theorem readsBack_term (shape : IsTerm node) (ends : EndsTerm rest) :
    ReadsBack (variableName <|> dimension <|> number <|> ident) node rest := by
  cases shape with
  | variableName isVariable => exact (readsBack_variableName isVariable ends).orElse
  | dimension isDimension =>
      refine (readsBack_dimension isDimension ends.ident).orElse.orElse_right fun locate => ?_
      exact branch_skip_eq_none (isDimension.starts.append rest) rfl
  | number isNumber =>
      -- No unit follows, so the number is not the start of a dimension.
      have noDigit : Stops Char.isDigit rest := ends.ident.mono fun _ => isIdentPart_of_isDigit
      have third := readsBack_number isNumber noDigit ends.fraction
      refine (third.orElse.orElse_right fun locate => ?_).orElse_right fun locate => ?_
      · obtain ⟨start, isNumber⟩ := isNumber
        refine dimension_eq_none_iff.2 fun text tail taken => ?_
        rw [Unread.text_ofList, source_leaf ⟨rfl, rfl⟩,
          splitNumber_append isNumber noDigit ends.fraction] at taken
        obtain ⟨_, rfl⟩ := Prod.mk.injEq .. ▸ Option.some.injEq .. ▸ taken
        exact ends.ident.ofIdentPart
      · exact branch_skip_eq_none (isNumber.starts.append rest) rfl
  | ident isIdent =>
      -- The identifier does not start as a number, so the readers of numbers decline it.
      have fourth := readsBack_ident isIdent (fun _ => And.left) ends.ident
      have noNumber : splitNumber (node.source ++ rest) = none := by
        obtain ⟨start, word, plain⟩ := isIdent
        rw [source_leaf ⟨rfl, rfl⟩]
        exact (splitNumber_ident_eq_none_iff word
          (ends.ident.mono fun _ => isIdentPart_of_isDigit)).2 plain
      refine ((fourth.orElse_right fun locate => ?_).orElse_right fun locate => ?_).orElse_right
        fun locate => ?_
      · exact leaf_eq_none_iff.2 noNumber
      · refine dimension_eq_none_iff.2 fun text tail taken => ?_
        rw [Unread.text_ofList, noNumber] at taken
        contradiction
      · have starts : Starts isIdentStart node.source :=
          starts_leaf ⟨rfl, rfl⟩ (fun _ word => word.1.starts) isIdent
        exact branch_skip_eq_none (starts.append rest) rfl

theorem readsBack_value (shape : IsValue node) (ends : EndsTerm rest) :
    ReadsBack value node rest := by
  obtain ⟨start, term⟩ := shape
  exact (readsBack_term term ends).single ⟨rfl, rfl⟩

end Terms

section Declarations

variable {node : Node} {rest : List Char}

/-- A text that starts with neither a character of identifiers nor a point ends terms. -/
theorem endsTerm_of_starts {opens : Char → Bool} (starts : Starts opens rest)
    (apart : ∀ c, opens c → isIdentPart c = false ∧ c ≠ '.') : EndsTerm rest := by
  refine ⟨starts.stops fun c opened => (apart c opened).1, ?_⟩
  obtain ⟨c, tail, rfl, opened⟩ := starts
  unfold StartsFraction
  split
  · next same => exact absurd (List.cons.inj same).1 (apart c opened).2
  · exact id

theorem endsTerm_cons {c : Char} (apart : isIdentPart c = false ∧ c ≠ '.') (text : List Char) :
    EndsTerm (c :: text) :=
  endsTerm_of_starts (starts_cons.2 (beq_self_eq_true c)) fun _ same => eq_of_beq same ▸ apart

theorem endsTerm_of_blank (starts : Starts isBlank rest) : EndsTerm rest := by
  refine endsTerm_of_starts starts fun c blank => ⟨isIdentPart_eq_false_of_isBlank blank, ?_⟩
  rintro rfl
  contradiction

/-- Optional blank space in front of a text that ends terms does too. -/
theorem EndsTerm.spaces {spaces : Option Node} (ends : EndsTerm rest)
    (blank : ∀ space ∈ spaces, IsSpace space) :
    EndsTerm (Node.sourceAll spaces.toList ++ rest) := by
  cases spaces with
  | none => exact ends
  | some space =>
      rw [Option.toList_some, Node.sourceAll_singleton]
      exact endsTerm_of_blank ((blank space rfl).starts.append rest)

theorem placeAll_spaces (locate : Locator) (spaces : Option Node) :
    Node.placeAll locate rest spaces.toList = (spaces.map (Node.place locate rest)).toList := by
  cases spaces <;> rfl

/-- Optional blank space is read back if no blank follows, also if it is absent. -/
theorem optional_space_reads {spaces : Option Node} (blank : ∀ space ∈ spaces, IsSpace space)
    (stops : Stops isBlank rest) (locate : Locator) :
    (optional space) locate (.ofList (Node.sourceAll spaces.toList ++ rest)) =
      some (spaces.map (Node.place locate rest), .ofList rest) := by
  cases spaces with
  | none =>
      refine optional_eq_some_iff.2 (Or.inr ⟨?_, rfl, rfl⟩)
      exact leaf_eq_none_iff.2 (splitWord_eq_none_iff.2 stops)
  | some node =>
      rw [Option.toList_some, Node.sourceAll_singleton]
      exact optional_eq_some_iff.2
        (Or.inl ⟨_, readsBack_space (blank node rfl) stops locate, rfl⟩)

theorem IsMark.source {kind : Kind} {c : Char} (shape : IsMark kind c node)
    (unmarked : kind.IsUnmarked) : node.source = [c] := by
  obtain ⟨start, text⟩ := shape
  rw [source_leaf unmarked, text]

/-- A term starts with the sign of a variable or with a character of identifiers. -/
theorem IsTerm.starts (shape : IsTerm node) :
    Starts (fun c => c == '$' || isIdentPart c) node.source := by
  have ofPart : Starts isIdentPart node.source →
      Starts (fun c => c == '$' || isIdentPart c) node.source :=
    fun starts => starts.mono fun c part => by rw [part, Bool.or_true]
  cases shape with
  | variableName isVariable =>
      exact isVariable.starts.mono fun c sigil => by rw [sigil, Bool.true_or]
  | dimension isDimension =>
      exact ofPart (isDimension.starts.mono fun _ => isIdentPart_of_opensNumber)
  | number isNumber => exact ofPart (isNumber.starts.mono fun _ => isIdentPart_of_opensNumber)
  | ident isIdent =>
      exact ofPart (starts_leaf ⟨rfl, rfl⟩
        (fun _ word => word.1.starts.mono fun _ => isIdentPart_of_isIdentStart) isIdent)

/-- A value does not start with a blank. -/
theorem IsValue.stops (shape : IsValue node) (rest : List Char) :
    Stops isBlank (node.source ++ rest) := by
  obtain @⟨term, start, isTerm⟩ := shape
  have starts : Starts _ (Node.branch .value [term] start).source :=
    starts_branch rfl isTerm.starts
  refine (starts.append rest).stops fun c opens => ?_
  rcases Bool.or_eq_true_iff.1 opens with sigil | part
  · obtain rfl := eq_of_beq sigil
    rfl
  · exact isBlank_eq_false_of_isIdentPart part

/-- A mark and the blank space around it are read one after the other. -/
theorem reads_around_mark {kind : Kind} {c : Char} {marked : Node} {before after : Option Node}
    (blankBefore : ∀ space ∈ before, IsSpace space) (isMark : IsMark kind c marked)
    (blankAfter : ∀ space ∈ after, IsSpace space)
    (unmarked : kind.IsUnmarked) (solid : isBlank c = false)
    (stops : Stops isBlank rest) (locate : Locator) :
    let behind := Node.sourceAll after.toList ++ rest
    (optional space) locate
        (.ofList (Node.sourceAll before.toList ++ (marked.source ++ behind))) =
      some (before.map (Node.place locate (marked.source ++ behind)),
        .ofList (marked.source ++ behind)) ∧
    mark kind c locate (.ofList (marked.source ++ behind)) =
      some (marked.place locate behind, .ofList behind) ∧
    (optional space) locate (.ofList behind) =
      some (after.map (Node.place locate rest), .ofList rest) := by
  refine ⟨optional_space_reads blankBefore ?_ locate, readsBack_mark isMark unmarked locate,
    optional_space_reads blankAfter stops locate⟩
  rw [IsMark.source isMark unmarked]
  exact stops_cons.2 solid

/-- A declaration is read back in front of a text that ends terms. -/
theorem readsBack_declaration (shape : IsDeclaration node) (ends : EndsTerm rest) :
    ReadsBack declaration node rest := by
  obtain @⟨property', colon, value', before, after, start, isProperty, blankBefore, isColon,
    blankAfter, isValue⟩ := shape
  refine readsBack_branch rfl fun locate => ?_
  have last := readsBack_value isValue ends locate
  obtain ⟨second, third, fourth⟩ := reads_around_mark blankBefore isColon blankAfter ⟨rfl, rfl⟩
    rfl (isValue.stops rest) locate
  have ended : EndsTerm
      (colon.source ++ (Node.sourceAll after.toList ++ (value'.source ++ rest))) := by
    rw [IsMark.source isColon ⟨rfl, rfl⟩]
    exact endsTerm_cons (by decide) _
  have first := readsBack_property isProperty (ended.spaces blankBefore) locate
  simp only [Kind.openingMark, Node.sourceAll, Node.sourceAll_append, Node.placeAll,
    Node.placeAll_append, placeAll_spaces, List.cons_append, List.nil_append, List.append_assoc]
  rw [bind_of_eq_some first, bind_of_eq_some second, bind_of_eq_some third,
    bind_of_eq_some fourth, bind_of_eq_some last]
  rfl

end Declarations

section Selectors

variable {node : Node} {rest : List Char}

/-- A simple selector is read back if nothing goes on with its name. -/
theorem readsBack_simpleSelector (shape : IsSimpleSelector node) (stops : Stops isIdentPart rest) :
    ReadsBack simpleSelector node rest := by
  cases shape with
  | ofClass start name =>
      exact ((readsBack_ident name (fun _ => id) stops).marked ⟨rfl, rfl⟩).orElse
  | @ofId name' start name =>
      refine ((readsBack_ident name (fun _ => id) stops).marked ⟨rfl, rfl⟩).orElse.orElse_right ?_
      have starts : Starts (· == '#')
          ((Node.branch .idSelector [name'] start).source ++ rest) := starts_cons.2 rfl
      exact fun locate => branch_skip_eq_none starts rfl
  | @ofType name' start name =>
      have third : ReadsBack _ (Node.branch .typeSelector [name'] start) rest :=
        (readsBack_ident name (fun _ => id) stops).single ⟨rfl, rfl⟩
      have starts : Starts isIdentStart
          ((Node.branch .typeSelector [name'] start).source ++ rest) :=
        (starts_branch rfl name.starts).append rest
      exact (third.orElse_right fun locate => branch_skip_eq_none starts rfl).orElse_right
        fun locate => branch_skip_eq_none starts rfl

/-- A simple selector does not start with a blank. -/
theorem IsSimpleSelector.stops (shape : IsSimpleSelector node) (rest : List Char) :
    Stops isBlank (node.source ++ rest) := by
  refine (shape.starts.append rest).stops fun c opens => ?_
  simp only [Form.opens, Bool.or_eq_true, beq_iff_eq] at opens
  rcases opens with (rfl | rfl) | ident
  · rfl
  · rfl
  · exact isBlank_eq_false_of_isIdentPart (isIdentPart_of_isIdentStart ident)

/-- An alternative is read back if nothing goes on with its name. -/
theorem alternative_reads {nodes : List Node} (shape : IsAlternative nodes)
    (stops : Stops isIdentPart rest) (locate : Locator) :
    alternative locate (.ofList (Node.sourceAll nodes ++ rest)) =
      some (Node.placeAll locate rest nodes, .ofList rest) := by
  obtain @⟨comma, next, before, after, blankBefore, isComma, blankAfter, isNext⟩ := shape
  have last := readsBack_simpleSelector isNext stops locate
  obtain ⟨first, second, third⟩ := reads_around_mark blankBefore isComma blankAfter ⟨rfl, rfl⟩
    rfl (isNext.stops rest) locate
  simp only [Node.sourceAll, Node.sourceAll_append, Node.placeAll, Node.placeAll_append,
    placeAll_spaces, List.cons_append, List.nil_append, List.append_assoc]
  unfold alternative
  rw [bind_of_eq_some first, bind_of_eq_some second, bind_of_eq_some third, bind_of_eq_some last]
  simp only [List.cons_append, List.append_assoc]
  rfl

/-- Alternatives do not go on with the name in front of them, since they start with a comma or a
blank. -/
theorem stops_alternatives {others : List (List Node)}
    (shapes : ∀ nodes ∈ others, IsAlternative nodes) (stops : Stops isIdentPart rest) :
    Stops isIdentPart (Node.sourceAll others.flatten ++ rest) := by
  cases others with
  | nil => exact stops
  | cons nodes others =>
      obtain @⟨comma, next, before, after, blankBefore, isComma, _, _⟩ :=
        shapes nodes List.mem_cons_self
      simp only [List.flatten_cons, Node.sourceAll_append, Node.sourceAll, List.append_assoc]
      refine (EndsTerm.spaces ?_ blankBefore).ident
      rw [IsMark.source isComma ⟨rfl, rfl⟩]
      exact endsTerm_cons (by decide) _

/-- Alternatives are all read back where no further one follows. -/
theorem takeAll_alternatives {others : List (List Node)} {locate : Locator}
    (shapes : ∀ nodes ∈ others, IsAlternative nodes) (stops : Stops isIdentPart rest)
    (declined : alternative locate (.ofList rest) = none) :
    ∃ taken, takeAll alternative advances_alternative locate
          (.ofList (Node.sourceAll others.flatten ++ rest)) = (taken, .ofList rest) ∧
      taken.flatten = Node.placeAll locate rest others.flatten := by
  induction others with
  | nil => exact ⟨[], takeAll_of_none declined, rfl⟩
  | cons nodes others ih =>
      obtain ⟨shape, later⟩ := List.forall_mem_cons.1 shapes
      obtain ⟨taken, reads, placed⟩ := ih later
      have first := alternative_reads shape (stops_alternatives later stops) locate
      refine ⟨Node.placeAll locate (Node.sourceAll others.flatten ++ rest) nodes :: taken, ?_, ?_⟩
      · rw [List.flatten_cons, Node.sourceAll_append, List.append_assoc, takeAll_of_some first,
          reads]
      · rw [List.flatten_cons, List.flatten_cons, Node.placeAll_append, placed]

/-- A selector is read back where no further alternative follows. -/
theorem readsBack_selector (shape : IsSelector node) (stops : Stops isIdentPart rest)
    (declined : ∀ locate, alternative locate (.ofList rest) = none) :
    ReadsBack selector node rest := by
  obtain @⟨first, others, start, isFirst, areOthers⟩ := shape
  refine readsBack_branch rfl fun locate => ?_
  have single := readsBack_simpleSelector isFirst (stops_alternatives areOthers stops) locate
  obtain ⟨taken, reads, placed⟩ := takeAll_alternatives areOthers stops (declined locate)
  have repeated : many alternative advances_alternative locate
      (.ofList (Node.sourceAll others.flatten ++ rest)) = some (taken, .ofList rest) :=
    congrArg some reads
  simp only [Kind.openingMark, Node.sourceAll, Node.placeAll, List.nil_append, List.append_assoc]
  rw [bind_of_eq_some single, bind_of_eq_some repeated, placed]
  rfl

/-- The brace of a block is no alternative, with or without blank space in front of it. -/
theorem alternative_eq_none_of_brace {between : Option Node}
    (blank : ∀ space ∈ between, IsSpace space) (locate : Locator) :
    alternative locate (.ofList (Node.sourceAll between.toList ++ '{' :: rest)) = none := by
  cases read : alternative locate (.ofList (Node.sourceAll between.toList ++ '{' :: rest)) with
  | none => rfl
  | some result =>
      have brace : MarkedBy locate '{' (.ofList (Node.sourceAll between.toList ++ '{' :: rest)) :=
        ⟨_, _, rest, optional_space_reads blank (stops_cons.2 rfl) locate, rfl⟩
      exact absurd ((marked_of_alternative read).eq brace) (by decide)

/-- The selector of a ruleset is read back up to the brace of its block. -/
theorem opening_reads {between : Option Node} (isSelector : IsSelector node)
    (blank : ∀ space ∈ between, IsSpace space) (locate : Locator) :
    let behind := Node.sourceAll between.toList ++ '{' :: rest
    opening locate (.ofList (node.source ++ behind)) =
      some (⟨locate (.ofList (node.source ++ behind)), node.place locate behind,
        between.map (Node.place locate ('{' :: rest)), locate (.ofList ('{' :: rest))⟩,
        .ofList rest) := by
  have ends : EndsTerm ('{' :: rest) := endsTerm_cons (by decide) rest
  have first := readsBack_selector isSelector (ends.spaces blank).ident
    (alternative_eq_none_of_brace blank) locate
  have second : (optional space) locate (.ofList (Node.sourceAll between.toList ++ '{' :: rest)) =
      some (_, .ofList ('{' :: rest)) := optional_space_reads blank (stops_cons.2 rfl) locate
  have third : skip '{' locate (.ofList ('{' :: rest)) = some ((), .ofList rest) :=
    skip_eq_some_iff.2 rfl
  unfold opening
  dsimp only
  rw [bind_of_eq_some (here_eq_some_iff.2 ⟨rfl, rfl⟩), bind_of_eq_some first,
    bind_of_eq_some second, bind_of_eq_some (here_eq_some_iff.2 ⟨rfl, rfl⟩),
    bind_of_eq_some third]
  rfl

end Selectors

section Items

variable {node : Node} {rest : List Char}

/-- A comment is read back, since its text does not hold the mark that ends it. -/
theorem readsBack_comment (shape : IsComment node) : ReadsBack comment node rest := by
  obtain @⟨text, start, unended⟩ := shape
  intro locate
  have source : (Node.leaf .comment text start).source ++ rest =
      '/' :: '*' :: (text.toList ++ '*' :: '/' :: rest) := by
    simp [Node.source, Kind.openingMark, Kind.closingMark]
  have inside : take .commentText locate (.ofList (text.toList ++ '*' :: '/' :: rest)) =
      some (text, .ofList ('*' :: '/' :: rest)) :=
    take_eq_some_iff.2 ⟨text.toList, splitCommentText_iff.2 ⟨unended, by simp, rfl⟩,
      String.ofList_toList⟩
  have skipped : ∀ (c : Char) (text : List Char),
      skip c locate (.ofList (c :: text)) = some ((), .ofList text) :=
    fun c text => skip_eq_some_iff.2 rfl
  rw [Node.place, source]
  unfold comment
  rw [bind_of_eq_some (here_eq_some_iff.2 ⟨rfl, rfl⟩), bind_of_eq_some (skipped _ _),
    bind_of_eq_some (skipped _ _), bind_of_eq_some inside, bind_of_eq_some (skipped _ _),
    bind_of_eq_some (skipped _ _)]
  rfl

/-- What may stand directly behind an item of a kind. -/
def EndsItem (kind : Kind) (rest : List Char) : Prop :=
  (kind = .space → Stops isBlank rest) ∧ (kind = .declaration → EndsTerm rest)

/-- Reading goes through the items in front of `rest` and is then at `rest`. -/
def PassesItems (items : List Node) (rest : List Char) : Prop :=
  ∀ (locate : Locator) (frames : List Frame) (done : Array Node),
    readItems Form.all locate frames done (.ofList (Node.sourceAll items ++ rest)) =
      readItems Form.all locate frames (done ++ (Node.placeAll locate rest items).toArray)
        (.ofList rest)

/-- An item that the reader of its form reads back is passed, since no other form reads anything
there. -/
theorem passesItems_of_readsBack (form : Form) {reader : ReadM Node}
    (reads : form.read = Piece.item <$> reader) (back : ReadsBack reader node rest) :
    PassesItems [node] rest := by
  intro locate frames done
  have found : piece Form.all locate (.ofList (node.source ++ rest)) =
      some (.item (node.place locate rest), .ofList rest) :=
    piece_eq_some_iff.2 ⟨form, form.mem_all, reads ▸ map_item_eq_some_iff.2 (back locate)⟩
  rw [Node.sourceAll_singleton, readItems_item found]
  simp [Node.placeAll, Node.sourceAll]

/-- Reading passes items in two goes or at once. -/
theorem PassesItems.append {first second : List Node}
    (before : PassesItems first (Node.sourceAll second ++ rest))
    (after : PassesItems second rest) : PassesItems (first ++ second) rest := by
  intro locate frames done
  rw [Node.sourceAll_append, List.append_assoc, before, after, Node.placeAll_append]
  simp

/-- A text at which a list of items may end. -/
def Closes (rest : List Char) : Prop := rest = [] ∨ ∃ tail, rest = '}' :: tail

/-- Where items end, no form reads anything. -/
theorem Closes.piece_eq_none (closes : Closes rest) (locate : Locator) :
    piece Form.all locate (.ofList rest) = none := by
  refine piece_eq_none_of_stops fun form _ => ?_
  rcases closes with rfl | ⟨tail, rfl⟩
  · exact stops_nil _
  · cases form <;> exact stops_cons.2 (by decide)

/-- A ruleset is passed if the items of its block are. -/
theorem passesItems_ruleset {selector : Node} {between : Option Node} {items : List Node}
    {blockStart start : Position} (isSelector : IsSelector selector)
    (blank : ∀ space ∈ between, IsSpace space) (inner : PassesItems items ('}' :: rest)) :
    PassesItems [.branch .ruleset
      (selector :: between.toList ++ [.branch .block items blockStart]) start] rest := by
  intro locate frames done
  have opened : opening locate (.ofList (selector.source ++ (Node.sourceAll between.toList ++
      '{' :: (Node.sourceAll items ++ '}' :: rest)))) =
      some (_, .ofList (Node.sourceAll items ++ '}' :: rest)) :=
    opening_reads isSelector blank locate
  have found := piece_eq_some_iff.2
    ⟨Form.ruleset, Form.ruleset.mem_all, read_opening_iff.2 ⟨rfl, opened⟩⟩
  have declined : piece Form.all locate (.ofList ('}' :: rest)) = none :=
    Closes.piece_eq_none (Or.inr ⟨rest, rfl⟩) locate
  have closed : (Unread.ofList ('}' :: rest)).text = '}' :: (Unread.ofList rest).text := rfl
  -- The opening pushes a frame, the items of the block pass inside it, the brace pops it.
  simp only [Node.sourceAll, Node.source, Kind.openingMark, Kind.closingMark,
    Node.sourceAll_append, List.cons_append, List.nil_append, List.append_nil, List.append_assoc]
  rw [readItems_opening found, inner, readItems_close declined closed]
  simp [Frame.close, Opening.close, Node.placeAll, Node.place, Node.placeAll_append,
    placeAll_spaces, Node.sourceAll, Node.source, Node.sourceAll_append, Kind.openingMark,
    Kind.closingMark]

/-- A simple selector that starts with a mark ends terms: what follows its mark is no digit. -/
theorem IsSimpleSelector.endsTerm (shape : IsSimpleSelector node)
    (stops : Stops isIdentStart (node.source ++ rest)) : EndsTerm (node.source ++ rest) := by
  cases shape with
  | @ofClass name start isIdent =>
      -- A point starts a fraction only in front of a digit, and a name starts with none.
      obtain ⟨c, tail, text, opens⟩ := isIdent.starts
      have source : (Node.branch .classSelector [name] start).source ++ rest =
          '.' :: c :: (tail ++ rest) := by
        simp [Node.source, Node.sourceAll, Kind.openingMark, Kind.closingMark, text]
      rw [source]
      refine ⟨stops_cons.2 (by decide), ?_⟩
      change ¬ c.isDigit
      rw [isDigit_eq_false_of_isIdentStart opens]
      exact Bool.false_ne_true
  | ofId start isIdent => exact endsTerm_cons (by decide) _
  | @ofType name start isIdent =>
      have starts : Starts isIdentStart
          ((Node.branch .typeSelector [name] start).source ++ rest) :=
        (starts_branch rfl isIdent.starts).append rest
      obtain ⟨c, tail, text, opens⟩ := starts
      rw [text, stops_cons, opens] at stops
      contradiction

/-- Every item starts with a character of some form. -/
theorem IsItem.starts (isItem : IsItem node) : ∃ form : Form, Starts form.opens node.source := by
  cases isItem with
  | space shape => exact ⟨.space, shape.starts⟩
  | comment shape =>
      cases shape
      exact ⟨.comment, starts_cons.2 rfl⟩
  | delimiter shape =>
      refine ⟨.delimiter, ?_⟩
      rw [IsMark.source shape ⟨rfl, rfl⟩]
      exact starts_cons.2 rfl
  | declaration shape => exact ⟨.declaration, shape.starts⟩
  | ruleset _ _ isSelector => exact ⟨.ruleset, starts_branch rfl isSelector.starts⟩

/-- An item that does not start an identifier ends a term in front of it. -/
theorem IsItem.endsTerm (isItem : IsItem node) (stops : Stops isIdentStart (node.source ++ rest)) :
    EndsTerm (node.source ++ rest) := by
  cases isItem with
  | space shape => exact endsTerm_of_blank (shape.starts.append rest)
  | comment shape =>
      cases shape
      exact endsTerm_cons (by decide) _
  | delimiter shape =>
      rw [IsMark.source shape ⟨rfl, rfl⟩]
      exact endsTerm_cons (by decide) _
  | declaration shape =>
      obtain ⟨c, tail, text, opens⟩ := shape.starts.append rest
      rw [text, stops_cons] at stops
      obtain rfl : c = '$' := by simpa [Form.opens, stops] using opens
      rw [text]
      exact endsTerm_cons (by decide) _
  | @ruleset selector between items blockStart start isSelector _ _ _ =>
      obtain @⟨first, others, selectorStart, isFirst, _⟩ := isSelector
      have source : (Node.branch .ruleset (.branch .selector (first :: others.flatten)
          selectorStart :: between.toList ++ [.branch .block items blockStart]) start).source ++
          rest = first.source ++ (Node.sourceAll others.flatten ++
            (Node.sourceAll between.toList ++ '{' :: (Node.sourceAll items ++ '}' :: rest))) := by
        simp [Node.source, Node.sourceAll, Node.sourceAll_append, Kind.openingMark,
          Kind.closingMark]
      rw [source] at stops ⊢
      exact isFirst.endsTerm stops

theorem endsItem_of_closes (closes : Closes rest) (kind : Kind) : EndsItem kind rest := by
  rcases closes with rfl | ⟨tail, rfl⟩
  · exact ⟨fun _ => stops_nil _, fun _ => ⟨stops_nil _, id⟩⟩
  · exact ⟨fun _ => stops_cons.2 rfl, fun _ => endsTerm_cons (by decide) tail⟩

/-- An item that may follow another one ends it, whatever comes behind. -/
theorem MayFollow.endsItem {next : Node} (follows : MayFollow node next) (isItem : IsItem next)
    (rest : List Char) : EndsItem node.kind (next.source ++ rest) := by
  obtain ⟨form, starts⟩ := isItem.starts
  have stops : Stops (prolongs node.kind) (next.source ++ rest) := starts.stops_append follows rest
  constructor
  · intro kind
    rw [kind] at stops
    exact stops
  · intro kind
    rw [kind] at stops
    exact isItem.endsTerm stops

/-- If each item is passed in front of whatever may follow it, then so are all of them. -/
theorem passesItems_of_each {items : List Node} (areItems : AreItems items) (closes : Closes rest)
    (each : ∀ item ∈ items, ∀ rest, EndsItem item.kind rest → PassesItems [item] rest) :
    PassesItems items rest := by
  induction items with
  | nil =>
      intro locate frames done
      simp [Node.sourceAll, Node.placeAll]
  | cons node more ih =>
      obtain ⟨isItem, areMore⟩ := List.forall_mem_cons.1 areItems.each
      obtain ⟨follows, apart⟩ := List.isChain_cons.1 areItems.apart
      obtain ⟨first, later⟩ := List.forall_mem_cons.1 each
      refine PassesItems.append (first _ ?_) (ih ⟨areMore, apart⟩ later)
      cases more with
      | nil => exact endsItem_of_closes closes node.kind
      | cons next more =>
          rw [Node.sourceAll, List.append_assoc]
          exact (follows next rfl).endsItem (areMore next List.mem_cons_self) _

theorem IsLeaf.kind_eq {kind : Kind} {texts : List Char → Prop} (shape : IsLeaf kind texts node) :
    node.kind = kind := by
  cases shape
  rfl

theorem IsDeclaration.kind_eq (shape : IsDeclaration node) : node.kind = .declaration := by
  cases shape
  rfl

/-- Every item is passed in front of a text that ends it. The induction goes into the blocks of
rulesets, whose last item stands in front of the closing brace. -/
theorem IsItem.passes (isItem : IsItem node) :
    ∀ rest, EndsItem node.kind rest → PassesItems [node] rest := by
  induction isItem with
  | space shape =>
      intro rest ends
      exact passesItems_of_readsBack .space rfl (readsBack_space shape (ends.1 shape.kind_eq))
  | comment shape =>
      intro rest _
      exact passesItems_of_readsBack .comment rfl (readsBack_comment shape)
  | delimiter shape =>
      intro rest _
      exact passesItems_of_readsBack .delimiter rfl (readsBack_mark shape ⟨rfl, rfl⟩)
  | declaration shape =>
      intro rest ends
      exact passesItems_of_readsBack .declaration rfl
        (readsBack_declaration shape (ends.2 shape.kind_eq))
  | ruleset blockStart start isSelector blank isItems apart ih =>
      intro rest _
      exact passesItems_ruleset isSelector blank
        (passesItems_of_each ⟨isItems, apart⟩ (Or.inr ⟨rest, rfl⟩) ih)

theorem AreItems.passes {items : List Node} (areItems : AreItems items) (closes : Closes rest) :
    PassesItems items rest :=
  passesItems_of_each areItems closes fun item member => (areItems.each item member).passes

end Items

end Source

namespace Node

open Source

/-- A tree of the grammar is read from its own text, with its positions filled in. -/
theorem ofSource_sourceText {items : List Node} (areItems : AreItems items) (start : Position) :
    let tree := branch .stylesheet items start
    ofSource tree.sourceText =
      .ok (branch .stylesheet (placeAll (LineIndex.ofSource tree.source).position [] items)
        .origin) := by
  have passes := areItems.passes (Or.inl rfl) (LineIndex.ofSource (sourceAll items)).position [] #[]
  have ended : piece Form.all (LineIndex.ofSource (sourceAll items)).position (.ofList []) = none :=
    Closes.piece_eq_none (Or.inl rfl) _
  rw [List.append_nil, readItems_outermost ended] at passes
  unfold ofSource readStylesheet
  dsimp only
  rw [sourceText, String.toList_ofList, source_stylesheet, passes]
  simp

/-- The trees of the grammar are exactly the trees that are read: each is read from its own
source text, up to positions, and whatever is read is one. -/
theorem isStylesheet_reads_back (tree : Node) :
    (IsStylesheet tree →
      ∃ read, ofSource tree.sourceText = .ok read ∧ read.unplaced = tree.unplaced) ∧
    ∀ source, ofSource source = .ok tree → IsStylesheet tree := by
  constructor
  · rintro ⟨start, areItems⟩
    refine ⟨_, ofSource_sourceText areItems start, ?_⟩
    rw [unplaced, unplaced, unplacedAll_placeAll]
  · intro source read
    exact (readStylesheet_mirrors read).1

/-- A declaration that gives a variable with a name of one letter the value one. -/
def assignOne (letter : Char) : Node :=
  branch .declaration
    [branch .property
        [branch .variableName [leaf .ident (String.ofList [letter]) .unknown] .unknown] .unknown,
      leaf .propertyDelimiter ":" .unknown,
      branch .value [leaf .number "1" .unknown] .unknown]
    .unknown

/-- Giving a variable the value one is a declaration of the grammar. -/
theorem isDeclaration_assignOne {letter : Char} (starts : isIdentStart letter) :
    IsDeclaration (assignOne letter) := by
  have number : IsNumberText "1".toList :=
    ⟨[], ['1'], [], rfl, Or.inl rfl, ⟨rfl, nofun⟩, Or.inl rfl⟩
  have name : IsIdentText [letter] ∧ ¬ StartsNegativeDimension [letter] := by
    refine ⟨⟨starts, nofun⟩, ?_⟩
    rintro ⟨digits, unit, tail, same, _⟩
    simp at same
  exact @IsDeclaration.intro _ _ _ none none _
    (.variableName _ (.ident _ (.intro _ (String.toList_ofList ▸ name)))) nofun (.intro _ rfl)
    nofun (.intro _ (.number (.intro _ number)))

/-- Two declarations without a delimiter between them are read back. -/
theorem isStylesheet_reads_back_adjacent :
    IsStylesheet (branch .stylesheet [assignOne 'x', assignOne 'y'] .unknown) ∧
      ∃ read, ofSource "$x:1$y:1" = .ok read ∧
        read.unplaced = branch .stylesheet [assignOne 'x', assignOne 'y'] .unknown := by
  have shape : IsStylesheet (branch .stylesheet [assignOne 'x', assignOne 'y'] .unknown) := by
    refine .intro _ ⟨List.forall_mem_cons.2 ⟨?_, List.forall_mem_singleton.2 ?_⟩, ?_⟩
    · exact .declaration (isDeclaration_assignOne rfl)
    · exact .declaration (isDeclaration_assignOne rfl)
    · exact List.isChain_pair.2 (stops_cons.2 (by decide))
  have text : (branch .stylesheet [assignOne 'x', assignOne 'y'] .unknown).sourceText =
      "$x:1$y:1" := by decide
  refine ⟨shape, ?_⟩
  rw [← text]
  exact (isStylesheet_reads_back _).1 shape

end Node

end NestedStyles
