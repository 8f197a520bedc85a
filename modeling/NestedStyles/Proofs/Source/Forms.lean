import NestedStyles.Proofs.Source.Mirroring

/-!
# The forms of items exclude each other

The first character of an item tells its form, except that declarations and rulesets may
both start with an identifier; then the mark behind the identifier does. So at most one
form reads a given text, and the order in which the forms are tried does not matter.
-/

namespace NestedStyles.Source

/-- The characters that a piece of the form may start with. -/
def Form.opens : Form → Char → Bool
  | space => isBlank
  | comment => (· == '/')
  | declaration => fun c => c == '$' || isIdentStart c
  | ruleset => fun c => c == '.' || c == '#' || isIdentStart c
  | delimiter => (· == ';')

section Heads

variable {node : Node} {opens : Char → Bool}

theorem source_leaf {kind : Kind} {text : String} {start : Position}
    (unmarked : kind.IsUnmarked) :
    (Node.leaf kind text start).source = text.toList := by
  rw [Node.source, unmarked.opening, unmarked.closing, List.nil_append, List.append_nil]

theorem starts_leaf {kind : Kind} {texts : List Char → Prop}
    (unmarked : kind.IsUnmarked)
    (opening : ∀ text, texts text → Starts opens text) (shape : IsLeaf kind texts node) :
    Starts opens node.source := by
  obtain ⟨start, text⟩ := shape
  rw [source_leaf unmarked]
  exact opening _ text

theorem starts_branch {kind : Kind} {more : List Node} {start : Position}
    (unmarked : kind.openingMark = []) (starts : Starts opens node.source) :
    Starts opens (Node.branch kind (node :: more) start).source := by
  rw [Node.source, unmarked, List.nil_append, Node.sourceAll, List.append_assoc]
  exact starts.append _

theorem IsSpace.starts (shape : IsSpace node) : Starts isBlank node.source :=
  starts_leaf ⟨rfl, rfl⟩ (fun _ => IsWord.starts) shape

theorem IsIdent.starts (shape : IsIdent node) : Starts isIdentStart node.source :=
  starts_leaf ⟨rfl, rfl⟩ (fun _ => IsWord.starts) shape

theorem IsNumber.starts (shape : IsNumber node) : Starts opensNumber node.source :=
  starts_leaf ⟨rfl, rfl⟩ (fun _ => IsNumberText.starts) shape

theorem IsDimension.starts (shape : IsDimension node) : Starts opensNumber node.source := by
  obtain ⟨start, number, _⟩ := shape
  exact starts_branch rfl number.starts

theorem IsVariable.starts (shape : IsVariable node) : Starts (· == '$') node.source := by
  cases shape <;> exact starts_cons.2 rfl

/-- A property starts with the sign of a variable or as an identifier does. -/
theorem IsProperty.starts (shape : IsProperty node) :
    Starts Form.declaration.opens node.source := by
  cases shape with
  | variableName start name =>
      exact starts_branch rfl (name.starts.mono fun c sigil => by simp_all [Form.opens])
  | ident start name =>
      exact starts_branch rfl (name.starts.mono fun c starts => by simp [Form.opens, starts])

theorem IsDeclaration.starts (shape : IsDeclaration node) :
    Starts Form.declaration.opens node.source := by
  obtain ⟨start, property, _, _, _, _⟩ := shape
  exact starts_branch rfl property.starts

/-- A simple selector starts with one of its marks or as an identifier does. -/
theorem IsSimpleSelector.starts (shape : IsSimpleSelector node) :
    Starts Form.ruleset.opens node.source := by
  cases shape with
  | ofClass start name => exact starts_cons.2 rfl
  | ofId start name => exact starts_cons.2 rfl
  | ofType start name =>
      exact starts_branch rfl (name.starts.mono fun c starts => by simp [Form.opens, starts])

theorem IsSelector.starts (shape : IsSelector node) : Starts Form.ruleset.opens node.source := by
  obtain ⟨start, first, _⟩ := shape
  exact starts_branch rfl first.starts

end Heads

section Disjoint

variable {form other : Form} {locate : Locator} {input rest rest' : Unread}

theorem Mirrors.starts {node : Node} {more : List Node} {opens : Char → Bool}
    (mirrors : Mirrors locate (node :: more) input rest) (starts : Starts opens node.source) :
    Starts opens input.text := by
  rw [mirrors.text, Node.sourceAll, List.append_assoc]
  exact starts.append _

/-- A form reads something only off an input that starts with one of its characters. -/
theorem starts_of_read {found : Piece} (read : form.read locate input = some (found, rest)) :
    Starts form.opens input.text := by
  cases found with
  | opening opened =>
      obtain ⟨rfl, taken⟩ := read_opening_iff.1 read
      obtain ⟨shape, _, _, _, mirrors, _⟩ := taken_opening taken
      exact mirrors.starts shape.starts
  | item node =>
      cases form with
      | space =>
          have taken := taken_space (map_item_eq_some_iff.1 read)
          exact taken.mirrors.starts taken.shape.starts
      | comment =>
          obtain ⟨shape, mirrors⟩ := taken_comment (map_item_eq_some_iff.1 read)
          refine mirrors.starts ?_
          cases shape
          exact starts_cons.2 rfl
      | declaration =>
          have taken := taken_declaration (map_item_eq_some_iff.1 read)
          exact taken.mirrors.starts taken.shape.starts
      | ruleset =>
          obtain ⟨_, _, same⟩ := map_eq_some_iff.1 read
          contradiction
      | delimiter =>
          have taken := taken_mark ⟨rfl, rfl⟩ (map_item_eq_some_iff.1 read)
          refine taken.mirrors.starts (starts_leaf ⟨rfl, rfl⟩ ?_ taken.shape)
          rintro _ rfl
          exact starts_cons.2 rfl

/-- The form of the pieces that start with a mark or with blank space. -/
def Form.ofMark (c : Char) : Form :=
  if isBlank c then .space
  else if c = '/' then .comment
  else if c = ';' then .delimiter
  else if c = '$' then .declaration
  else .ruleset

/-- A first character that no identifier starts with tells the form of a piece. -/
theorem Form.eq_ofMark {c : Char} (opens : form.opens c) (mark : isIdentStart c = false) :
    form = .ofMark c := by
  cases form with
  | space => simp_all [Form.opens, Form.ofMark]
  | comment =>
      obtain rfl : c = '/' := by simpa [Form.opens] using opens
      rfl
  | declaration =>
      obtain rfl : c = '$' := by simpa [Form.opens, mark] using opens
      rfl
  | ruleset =>
      obtain rfl | rfl : c = '.' ∨ c = '#' := by simpa [Form.opens, mark] using opens
      · rfl
      · rfl
  | delimiter =>
      obtain rfl : c = ';' := by simpa [Form.opens] using opens
      rfl

/-- Behind a first character of an identifier there is a declaration or a ruleset. -/
theorem Form.eq_declaration_or_ruleset {c : Char} (opens : form.opens c) (ident : isIdentStart c) :
    form = .declaration ∨ form = .ruleset := by
  cases form with
  | space =>
      have blank : isBlank c = false :=
        isBlank_eq_false_of_isIdentPart (isIdentPart_of_isIdentStart ident)
      rw [Form.opens, blank] at opens
      contradiction
  | comment =>
      obtain rfl : c = '/' := by simpa [Form.opens] using opens
      contradiction
  | declaration => exact Or.inl rfl
  | ruleset => exact Or.inr rfl
  | delimiter =>
      obtain rfl : c = ';' := by simpa [Form.opens] using opens
      contradiction

/-- The mark behind the blank space that a text may start with. -/
def MarkedBy (locate : Locator) (c : Char) (input : Unread) : Prop :=
  ∃ spaces between tail, (optional space) locate input = some (spaces, between) ∧
    between.text = c :: tail

/-- Behind optional blank space there is one mark at most. -/
theorem MarkedBy.eq {c d : Char} (first : MarkedBy locate c input)
    (second : MarkedBy locate d input) : c = d := by
  obtain ⟨_, _, _, read, marked⟩ := first
  obtain ⟨_, _, _, read', marked'⟩ := second
  rw [read] at read'
  obtain ⟨_, rfl⟩ := Prod.mk.injEq .. ▸ Option.some.injEq .. ▸ read'
  exact (List.cons.inj (marked.symm.trans marked')).1

/-- A declaration that starts with an identifier has a colon behind it. -/
theorem marked_of_declaration {node : Node}
    (read : declaration locate input = some (node, rest)) :
    Starts (· == '$') input.text ∨
      ∃ name between, ident locate input = some (name, between) ∧ MarkedBy locate ':' between := by
  obtain ⟨children, inside, _⟩ := branch_eq_some_iff.1 read
  simp only [bind_eq_some_iff, property, branch_eq_some_iff, orElse_eq_some_iff,
    pure_eq_some_iff] at inside
  obtain ⟨_, _, ⟨_, ⟨name, between, named, _, rfl⟩, _⟩, spaces, marked, blank, colon, _, isColon,
    _⟩ := inside
  rcases named with found | ⟨_, found⟩
  · obtain ⟨_, sigil, _⟩ := branch_eq_some_iff.1 found
    obtain ⟨_, _, skipped, _⟩ := bind_eq_some_iff.1 sigil
    rw [skip_eq_some_iff.1 skipped]
    exact Or.inl (starts_cons.2 rfl)
  · obtain ⟨_, taken, _⟩ := leaf_eq_some_iff.1 isColon
    exact Or.inr ⟨name, _, found, spaces, marked, _, blank, (splitChar_eq_some_iff.1 taken).2⟩

/-- A simple selector without a mark is an identifier. -/
theorem ident_of_simpleSelector {node : Node}
    (read : simpleSelector locate input = some (node, rest)) :
    Starts (fun c => c == '.' || c == '#') input.text ∨
      ∃ name, ident locate input = some (name, rest) := by
  simp only [simpleSelector, orElse_eq_some_iff, branch_eq_some_iff, bind_eq_some_iff,
    pure_eq_some_iff] at read
  rcases read with ⟨_, ⟨_, _, marked, _⟩, _⟩ |
    ⟨_, ⟨_, ⟨_, _, marked, _⟩, _⟩ | ⟨_, _, ⟨name, _, found, _, rfl⟩, _⟩⟩
  · rw [skip_eq_some_iff.1 marked]
    exact Or.inl (starts_cons.2 rfl)
  · rw [skip_eq_some_iff.1 marked]
    exact Or.inl (starts_cons.2 rfl)
  · exact Or.inr ⟨name, found⟩

/-- An alternative starts with a comma. -/
theorem marked_of_alternative {nodes : List Node}
    (read : alternative locate input = some (nodes, rest)) : MarkedBy locate ',' input := by
  simp only [alternative, bind_eq_some_iff] at read
  obtain ⟨spaces, between, blank, comma, _, isComma, _⟩ := read
  obtain ⟨_, taken, _⟩ := leaf_eq_some_iff.1 isComma
  exact ⟨spaces, between, _, blank, (splitChar_eq_some_iff.1 taken).2⟩

/-- An opening that starts with an identifier has a comma or a brace behind it, never a
colon. -/
theorem marked_of_opening {found : Opening} (read : opening locate input = some (found, rest)) :
    Starts (fun c => c == '.' || c == '#') input.text ∨
      ∃ name between, ident locate input = some (name, between) ∧
        (MarkedBy locate ',' between ∨ MarkedBy locate '{' between) := by
  simp only [opening, bind_eq_some_iff, here_eq_some_iff, selector, branch_eq_some_iff,
    pure_eq_some_iff] at read
  obtain ⟨_, _, ⟨_, rfl⟩, _, behind, ⟨_, ⟨first, between, single, others, _, repeated, _, rfl⟩, _⟩,
    spaces, _, blank, _, _, ⟨_, rfl⟩, _, _, brace, _⟩ := read
  rcases ident_of_simpleSelector single with marked | ⟨name, named⟩
  · exact Or.inl marked
  · refine Or.inr ⟨name, between, named, ?_⟩
    have taken := Option.some.inj repeated
    cases next : alternative locate between with
    | some read => exact Or.inl (marked_of_alternative next)
    | none =>
        rw [takeAll_of_none next] at taken
        obtain ⟨_, rfl⟩ := Prod.mk.injEq .. ▸ taken
        exact Or.inr ⟨spaces, _, _, blank, skip_eq_some_iff.1 brace⟩

theorem starts_of_ident {name : Node} (read : ident locate input = some (name, rest)) :
    Starts isIdentStart input.text := by
  have taken := taken_ident read
  exact taken.mirrors.starts taken.shape.starts

/-- No text can be read both as a declaration and as the opening of a ruleset. -/
theorem not_declaration_and_opening {node : Node} {found : Opening}
    (first : declaration locate input = some (node, rest))
    (second : opening locate input = some (found, rest')) : False := by
  rcases marked_of_declaration first with sigil | ⟨name, between, named, colon⟩ <;>
    rcases marked_of_opening second with mark | ⟨name', between', named', marked⟩
  · obtain ⟨c, isSigil, isMark⟩ := sigil.common mark
    obtain rfl := eq_of_beq isSigil
    contradiction
  · obtain ⟨c, isSigil, isIdent⟩ := sigil.common (starts_of_ident named')
    obtain rfl := eq_of_beq isSigil
    contradiction
  · obtain ⟨c, isMark, isIdent⟩ := mark.common (starts_of_ident named)
    obtain rfl | rfl : c = '.' ∨ c = '#' := by simpa using isMark
    · contradiction
    · contradiction
  · -- Both take the same identifier and the same blank space, so they meet the same mark.
    rw [named] at named'
    obtain ⟨_, rfl⟩ := Prod.mk.injEq .. ▸ Option.some.injEq .. ▸ named'
    rcases marked with comma | brace
    · exact absurd (colon.eq comma) (by decide)
    · exact absurd (colon.eq brace) (by decide)

/-- At most one form reads a given text. -/
theorem read_unique {found found' : Piece}
    (first : form.read locate input = some (found, rest))
    (second : other.read locate input = some (found', rest')) : form = other := by
  obtain ⟨c, opens, opens'⟩ := (starts_of_read first).common (starts_of_read second)
  by_cases ident : isIdentStart c
  · rcases form.eq_declaration_or_ruleset opens ident with rfl | rfl <;>
      rcases other.eq_declaration_or_ruleset opens' ident with rfl | rfl
    · rfl
    · obtain ⟨_, declared, _⟩ := map_eq_some_iff.1 first
      obtain ⟨_, opened, _⟩ := map_eq_some_iff.1 second
      exact (not_declaration_and_opening declared opened).elim
    · obtain ⟨_, opened, _⟩ := map_eq_some_iff.1 first
      obtain ⟨_, declared, _⟩ := map_eq_some_iff.1 second
      exact (not_declaration_and_opening declared opened).elim
    · rfl
  · have mark := Bool.eq_false_iff.2 ident
    rw [form.eq_ofMark opens mark, other.eq_ofMark opens' mark]

/-- A piece is read exactly if one of the forms reads it, whatever their order. -/
theorem piece_eq_some_iff {forms : List Form} {found : Piece} :
    piece forms locate input = some (found, rest) ↔
      ∃ form ∈ forms, form.read locate input = some (found, rest) := by
  refine ⟨exists_form_of_piece, ?_⟩
  rintro ⟨form, member, read⟩
  induction forms with
  | nil => cases member
  | cons first forms ih =>
      refine orElse_eq_some_iff.2 ?_
      cases tried : first.read locate input with
      | some result =>
          obtain rfl := read_unique read tried
          exact Or.inl (tried.symm.trans read)
      | none =>
          rcases List.mem_cons.1 member with rfl | later
          · rw [read] at tried
            contradiction
          · exact Or.inr ⟨rfl, ih later⟩

theorem Form.mem_all (form : Form) : form ∈ Form.all := by cases form <;> decide

/-- Nothing is found exactly if every form that is tried declines. -/
theorem piece_eq_none_iff_forall_mem {forms : List Form} :
    piece forms locate input = none ↔ ∀ form ∈ forms, form.read locate input = none := by
  simp only [Option.eq_none_iff_forall_ne_some]
  constructor
  · intro declined form member taken read
    exact declined taken (piece_eq_some_iff.2 ⟨form, member, read⟩)
  · intro declined taken read
    obtain ⟨form, member, reads⟩ := exists_form_of_piece read
    exact declined form member taken reads

theorem piece_eq_none_iff :
    piece Form.all locate input = none ↔ ∀ form : Form, form.read locate input = none :=
  piece_eq_none_iff_forall_mem.trans
    ⟨fun declined form => declined form form.mem_all, fun declined form _ => declined form⟩

/-- Nothing is read where no form may start. -/
theorem piece_eq_none_of_stops {forms : List Form}
    (stops : ∀ form ∈ forms, Stops form.opens input.text) :
    piece forms locate input = none := by
  cases read : piece forms locate input with
  | none => rfl
  | some result =>
      obtain ⟨form, member, reads⟩ := exists_form_of_piece read
      obtain ⟨c, tail, text, opens⟩ := starts_of_read reads
      have stopped := stops form member
      rw [text, stops_cons, opens] at stopped
      contradiction

end Disjoint

end NestedStyles.Source
