import NestedStyles.Program.NodeText
import NestedStyles.Proofs.Program.Spelling
import NestedStyles.Proofs.Source.Forms
import NestedStyles.Tree.Normalize

/-!
# What readable nodes say

For each shape of the grammar: its normal form, whether one of its sites offends, and
the text that compiling takes from it. Names, values and selectors are taken as they
stand in the source, unless a site offends, and then the first such site is the
error.
-/

namespace NestedStyles

/-- The kinds that offend at no place. -/
def Kind.IsHarmless (kind : Kind) : Prop :=
  kind ≠ .comment ∧ kind ≠ .idSelector ∧ kind ≠ .variableName ∧ kind ≠ .declaration

instance (kind : Kind) : Decidable kind.IsHarmless :=
  inferInstanceAs (Decidable (_ ∧ _ ∧ _ ∧ _))

/-- Only comments, ids, variables and declarations can offend. -/
theorem not_offends_of_isHarmless {site : Site} (harmless : site.node.kind.IsHarmless) :
    ¬ site.Offends := by
  obtain ⟨noComment, noId, noVariable, noDeclaration⟩ := harmless
  simp [Site.Offends, noComment, noId, noVariable, noDeclaration]

namespace Node

/-- A node that stays as it is when the tree around it is normalized. -/
structure IsNormal (node : Node) : Prop where
  significant : node.IsSignificant
  normalized : node.normalize = node

/-- Normalizing drops and changes none of a list of normal nodes. -/
theorem normalizeAll_of_isNormal {nodes : List Node} (normal : ∀ node ∈ nodes, node.IsNormal) :
    normalizeAll nodes = nodes := by
  induction nodes with
  | nil => rfl
  | cons node nodes ih =>
      obtain ⟨first, later⟩ := List.forall_mem_cons.1 normal
      rw [normalizeAll, if_pos first.significant, first.normalized, ih later]

theorem isNormal_branch {kind : Kind} {children : List Node} (significant : ¬ kind.IsInsignificant)
    (normal : ∀ child ∈ children, child.IsNormal) (start : Position) :
    (branch kind children start).IsNormal :=
  ⟨significant, by rw [normalize, normalizeAll_of_isNormal normal]⟩

/-- No site of the node offends, wherever the node stands. -/
def IsInnocent (node : Node) : Prop := ∀ around, inspect (node.sites around) = .ok ()

/-- A list of innocent nodes has no site that offends. -/
theorem inspect_sitesAll_of_isInnocent {nodes : List Node}
    (innocent : ∀ node ∈ nodes, node.IsInnocent) (around : List Kind) :
    inspect (sitesAll around nodes) = .ok () :=
  inspect_sitesAll_eq_ok_iff.2 fun node member => innocent node member around

/-- A node of a harmless kind offends only through its children. -/
theorem inspect_branch {kind : Kind} (harmless : kind.IsHarmless) (children : List Node)
    (start : Position) (around : List Kind) :
    inspect ((branch kind children start).sites around) =
      inspect (sitesAll (kind :: around) children) := by
  have innocent : ¬ Site.Offends ⟨around, branch kind children start⟩ :=
    not_offends_of_isHarmless harmless
  exact inspect_cons_of_not_offends innocent _

theorem isInnocent_branch {kind : Kind} {children : List Node} (harmless : kind.IsHarmless)
    (innocent : ∀ child ∈ children, child.IsInnocent) (start : Position) :
    (branch kind children start).IsInnocent := by
  intro around
  rw [inspect_branch harmless]
  exact inspect_sitesAll_of_isInnocent innocent _

/-- A node that compiling takes as it stands: nothing in it is dropped, nothing in it
offends, and its text is its source text. -/
structure IsVerbatim (text : Node → Except CompileError String) (node : Node) : Prop where
  normal : node.IsNormal
  innocent : node.IsInnocent
  text : text node = .ok node.sourceText

/-- The text of a branch is that of its children, between the marks of its kind. -/
theorem sourceText_branch (kind : Kind) (children : List Node) (start : Position) :
    (branch kind children start).sourceText =
      String.ofList kind.openingMark ++ String.join (children.map sourceText) ++
        String.ofList kind.closingMark := by
  have joined : String.ofList (sourceAll children) = String.join (children.map sourceText) := by
    induction children with
    | nil => rfl
    | cons child children ih =>
        rw [sourceAll, String.ofList_append, ih, List.map_cons, String.join_cons]
        rfl
  rw [sourceText, source, String.ofList_append, String.ofList_append, joined]

theorem sourceText_single (kind : Kind) (child : Node) (start : Position) :
    (branch kind [child] start).sourceText =
      String.ofList kind.openingMark ++ child.sourceText ++ String.ofList kind.closingMark := by
  rw [sourceText_branch, List.map_singleton, String.join_cons, String.join_nil,
    String.append_empty]

/-- A branch without marks of its own says what its only child does. -/
theorem sourceText_unmarked {kind : Kind} (unmarked : kind.IsUnmarked) (child : Node)
    (start : Position) : (branch kind [child] start).sourceText = child.sourceText := by
  rw [sourceText_single, unmarked.opening, unmarked.closing, String.ofList_nil,
    String.empty_append, String.append_empty]

theorem sourceText_variableName (name : Node) (start : Position) :
    (branch .variableName [name] start).sourceText = sigil.toString ++ name.sourceText := by
  simp [sourceText_single, Kind.openingMark, Kind.closingMark, sigil]

theorem sourceText_classSelector (name : Node) (start : Position) :
    (branch .classSelector [name] start).sourceText = "." ++ name.sourceText := by
  simp [sourceText_single, Kind.openingMark, Kind.closingMark]

end Node

namespace Source

variable {node : Node}

section Terms

theorem IsLeaf.isInnocent {kind : Kind} {texts : List Char → Prop}
    (shape : IsLeaf kind texts node) (harmless : kind.IsHarmless) : node.IsInnocent := by
  obtain @⟨text, start, _⟩ := shape
  intro around
  have innocent : ¬ Site.Offends ⟨around, .leaf kind text start⟩ :=
    not_offends_of_isHarmless harmless
  exact inspect_cons_of_not_offends innocent []

theorem IsLeaf.isSignificant_iff {kind : Kind} {texts : List Char → Prop}
    (shape : IsLeaf kind texts node) : node.IsSignificant ↔ ¬ kind.IsInsignificant := by
  cases shape
  exact Iff.rfl

/-- Unmarked leaves that count and do no harm are taken as they stand. -/
theorem IsLeaf.isVerbatim {kind : Kind} {texts : List Char → Prop}
    (shape : IsLeaf kind texts node) (significant : ¬ kind.IsInsignificant)
    (harmless : kind.IsHarmless) (unmarked : kind.IsUnmarked) :
    node.IsVerbatim Node.literal := by
  refine ⟨?_, shape.isInnocent harmless, ?_⟩
  · cases shape
    exact ⟨significant, rfl⟩
  · cases shape
    rw [Node.literal, Node.sourceText, Node.source, unmarked.opening, unmarked.closing]
    simp

theorem IsIdent.isVerbatim (shape : IsIdent node) : node.IsVerbatim Node.literal :=
  IsLeaf.isVerbatim shape (by decide) (by decide) ⟨rfl, rfl⟩

theorem IsNumber.isVerbatim (shape : IsNumber node) : node.IsVerbatim Node.literal :=
  IsLeaf.isVerbatim shape (by decide) (by decide) ⟨rfl, rfl⟩

/-- Dimensions are taken as they stand: the number and its unit, written together. -/
theorem IsDimension.isVerbatim (shape : IsDimension node) :
    node.IsVerbatim Node.dimensionText := by
  obtain ⟨start, isNumber, isUnit⟩ := shape
  have number := isNumber.isVerbatim
  have unit := isUnit.isVerbatim
  refine ⟨Node.isNormal_branch (by decide) ?_ start,
    Node.isInnocent_branch (by decide) ?_ start, ?_⟩
  · simp [number.normal, unit.normal]
  · simp [number.innocent, unit.innocent]
  · simp only [Node.dimensionText, Node.children, number.text, unit.text, Node.sourceText_branch]
    simp [Kind.openingMark, Kind.closingMark]
    rfl

/-- A variable says its name behind the sign. -/
theorem IsVariable.exists_name (shape : IsVariable node) :
    ∃ name start, node = .branch .variableName [name] start ∧ name.IsNormal ∧
      name.IsInnocent ∧ node.variableText = .ok (sigil.toString ++ name.sourceText) := by
  cases shape with
  | @dimension name start isDimension =>
      have verbatim := isDimension.isVerbatim
      refine ⟨name, start, rfl, verbatim.normal, verbatim.innocent, ?_⟩
      obtain ⟨nameStart, isNumber, isUnit⟩ := isDimension
      change (Node.dimensionText _ >>= fun text => pure (sigil.toString ++ text)) = _
      rw [verbatim.text]
      rfl
  | @ident name start isIdent =>
      have verbatim : name.IsVerbatim Node.literal :=
        isIdent.isVerbatim (by decide) (by decide) ⟨rfl, rfl⟩
      refine ⟨name, start, rfl, verbatim.normal, verbatim.innocent, ?_⟩
      obtain ⟨nameStart, text⟩ := isIdent
      change (Node.literal _ >>= fun text => pure (sigil.toString ++ text)) = _
      rw [verbatim.text]
      rfl

theorem IsVariable.isNormal (shape : IsVariable node) : node.IsNormal := by
  obtain ⟨name, start, rfl, normal, _⟩ := shape.exists_name
  exact Node.isNormal_branch (by decide) (List.forall_mem_singleton.2 normal) start

/-- Variables are taken as they stand, with their sign. -/
theorem IsVariable.variableText_eq (shape : IsVariable node) :
    node.variableText = .ok node.sourceText := by
  obtain ⟨name, start, rfl, _, _, text⟩ := shape.exists_name
  rw [text, Node.sourceText_variableName]

/-- A variable offends only as the name of a property inside a block. -/
theorem IsVariable.inspect_sites (shape : IsVariable node) {around : List Kind}
    (elsewhere : ¬ [.property, .declaration, .block] <+: around) :
    inspect (node.sites around) = .ok () := by
  obtain ⟨name, start, rfl, _, innocent, _⟩ := shape.exists_name
  have harmless : ¬ Site.Offends ⟨around, .branch .variableName [name] start⟩ := by
    simp [Site.Offends, Node.kind, elsewhere]
  rw [Node.sites, inspect_cons_of_not_offends harmless]
  exact Node.inspect_sitesAll_of_isInnocent (List.forall_mem_singleton.2 innocent) _

/-- A term says its source text as the only child of a value. -/
theorem IsTerm.verbatim {term : Node} (shape : IsTerm term) (start : Position) :
    term.IsNormal ∧ (∀ around, inspect (term.sites (.value :: around)) = .ok ()) ∧
      (Node.branch .value [term] start).valueText = .ok term.sourceText := by
  have ofVerbatim {text : Node → Except CompileError String} (verbatim : term.IsVerbatim text)
      (taken : (Node.branch .value [term] start).valueText = text term) :
      term.IsNormal ∧ (∀ around, inspect (term.sites (.value :: around)) = .ok ()) ∧
        (Node.branch .value [term] start).valueText = .ok term.sourceText :=
    ⟨verbatim.normal, fun around => verbatim.innocent _, taken.trans verbatim.text⟩
  cases shape with
  | variableName isVariable =>
      -- A variable can offend, but not in a value.
      refine ⟨isVariable.isNormal, fun around => isVariable.inspect_sites (by simp), ?_⟩
      rw [← isVariable.variableText_eq]
      cases isVariable <;> rfl
  | dimension isDimension =>
      refine ofVerbatim isDimension.isVerbatim ?_
      cases isDimension
      rfl
  | number isNumber =>
      refine ofVerbatim isNumber.isVerbatim ?_
      cases isNumber
      rfl
  | ident isIdent =>
      refine ofVerbatim (isIdent.isVerbatim (by decide) (by decide) ⟨rfl, rfl⟩) ?_
      cases isIdent
      rfl

/-- Values are taken as they stand. -/
theorem IsValue.isVerbatim (shape : IsValue node) : node.IsVerbatim Node.valueText := by
  obtain @⟨term, start, isTerm⟩ := shape
  obtain ⟨normal, innocent, text⟩ := isTerm.verbatim start
  refine ⟨Node.isNormal_branch (by decide) (List.forall_mem_singleton.2 normal) start, ?_, ?_⟩
  · intro around
    rw [Node.inspect_branch (by decide), Node.sitesAll, Node.sitesAll, List.append_nil, innocent]
  · rw [text, Node.sourceText_unmarked ⟨rfl, rfl⟩]

end Terms

section Declarations

variable {spaces : Option Node}

theorem normalizeAll_spaces (blank : ∀ space ∈ spaces, IsSpace space) :
    Node.normalizeAll spaces.toList = [] := by
  cases spaces with
  | none => rfl
  | some space =>
      obtain ⟨start, _⟩ := blank space rfl
      rfl

theorem filter_spaces (blank : ∀ space ∈ spaces, IsSpace space) {kind : Kind}
    (other : kind ≠ .space) : spaces.toList.filter (·.kind = kind) = [] := by
  cases spaces with
  | none => rfl
  | some space =>
      obtain ⟨start, _⟩ := blank space rfl
      simp [Node.kind, other.symm]

theorem isInnocent_spaces (blank : ∀ space ∈ spaces, IsSpace space) :
    ∀ space ∈ spaces.toList, space.IsInnocent := by
  intro space member
  exact (blank space (Option.mem_toList.1 member)).isInnocent (by decide)

theorem IsProperty.isNormal (shape : IsProperty node) : node.IsNormal := by
  cases shape with
  | variableName start isVariable =>
      exact Node.isNormal_branch (by decide) (List.forall_mem_singleton.2 isVariable.isNormal) start
  | ident start isIdent =>
      have normal := isIdent.isVerbatim.normal
      exact Node.isNormal_branch (by decide) (List.forall_mem_singleton.2 normal) start

theorem IsProperty.kind_eq (shape : IsProperty node) : node.kind = .property := by
  cases shape <;> rfl

theorem IsValue.kind_eq (shape : IsValue node) : node.kind = .value := by
  cases shape
  rfl

/-- A declaration is its property and its value: the rest of it is dropped, and only the
declaration itself and its property can offend. -/
structure Declares (node property value : Node) : Prop where
  isProperty : IsProperty property
  isValue : IsValue value
  kind : node.kind = .declaration
  names : node.childrenOf .property = [property]
  spelled : node.spelledDeclaration = (property.sourceText, value.sourceText)
  parts : node.normalize.declarationParts = .ok (property, value)
  inspected : ∀ around, ¬ Site.Offends ⟨around, node⟩ →
    inspect (node.sites around) = inspect (property.sites (.declaration :: around))

/-- The parts of a declaration as the grammar gives them: normalizing leaves its property and
its value, and neither the delimiter nor the value can offend. -/
theorem declares_of_parts {property colon value : Node} {before after : Option Node}
    (isProperty : IsProperty property) (blankBefore : ∀ space ∈ before, IsSpace space)
    (isColon : IsMark .propertyDelimiter ':' colon) (blankAfter : ∀ space ∈ after, IsSpace space)
    (isValue : IsValue value) (start : Position) :
    Declares (.branch .declaration
      (property :: before.toList ++ colon :: after.toList ++ [value]) start) property value := by
  have colonKind : colon.kind = .propertyDelimiter := by
    cases isColon
    rfl
  have childrenOf {kind : Kind} (notBlank : kind ≠ .space) (notColon : kind ≠ .propertyDelimiter) :
      (Node.branch .declaration
        (property :: before.toList ++ colon :: after.toList ++ [value]) start).childrenOf kind =
        [property, value].filter (·.kind = kind) := by
    simp [Node.childrenOf, Node.children, filter_spaces blankBefore notBlank,
      filter_spaces blankAfter notBlank, colonKind, notColon.symm, List.filter_cons]
  have named := childrenOf (show Kind.property ≠ .space by decide) (by decide)
  have valued := childrenOf (show Kind.value ≠ .space by decide) (by decide)
  simp only [List.filter_cons, isProperty.kind_eq, isValue.kind_eq] at named valued
  refine ⟨isProperty, isValue, rfl, named, ?_, ?_, ?_⟩
  · rw [Node.spelledDeclaration, Node.textOf, Node.textOf, named, valued]
    simp
  · have propertyNormal := isProperty.isNormal
    have valueNormal := isValue.isVerbatim.normal
    have dropped : ¬ colon.IsSignificant := by
      simp [Node.IsSignificant, colonKind, Kind.IsInsignificant]
    have children : Node.normalizeAll
        (property :: before.toList ++ colon :: after.toList ++ [value]) = [property, value] := by
      simp only [Node.normalizeAll, Node.normalizeAll_append, List.cons_append,
        List.append_assoc, normalizeAll_spaces blankBefore, normalizeAll_spaces blankAfter,
        List.nil_append, propertyNormal.significant, propertyNormal.normalized,
        valueNormal.significant, valueNormal.normalized, dropped, if_true, if_false]
    rw [Node.normalize, children]
    exact if_pos ⟨isProperty.kind_eq, isValue.kind_eq⟩
  · intro around innocent
    have later : ∀ child ∈ before.toList ++ colon :: after.toList ++ [value],
        child.IsInnocent := by
      refine List.forall_mem_append.2 ⟨List.forall_mem_append.2 ⟨?_, ?_⟩, ?_⟩
      · exact isInnocent_spaces blankBefore
      · exact List.forall_mem_cons.2
          ⟨isColon.isInnocent (by decide), isInnocent_spaces blankAfter⟩
      · exact List.forall_mem_singleton.2 isValue.isVerbatim.innocent
    rw [Node.sites, inspect_cons_of_not_offends innocent]
    exact inspect_append_of_ok (Node.inspect_sitesAll_of_isInnocent later _) _

/-- Every declaration of the grammar declares a value for a property. -/
theorem IsDeclaration.exists_declares (shape : IsDeclaration node) :
    ∃ property value, Declares node property value := by
  obtain ⟨start, isProperty, blankBefore, isColon, blankAfter, isValue⟩ := shape
  exact ⟨_, _, declares_of_parts isProperty blankBefore isColon blankAfter isValue start⟩

/-- Inside a block no declaration offends by itself. -/
theorem Declares.not_offends_in_block {property value : Node}
    (declares : Declares node property value) (around : List Kind) :
    ¬ Site.Offends ⟨.block :: around, node⟩ := by
  simp [Site.Offends, declares.kind]

/-- A declaration with a plain name may stand inside a block. -/
theorem Declares.inspect_of_isIdent {name value : Node} {start : Position}
    (declares : Declares node (.branch .property [name] start) value) (isIdent : IsIdent name)
    (around : List Kind) : inspect (node.sites (.block :: around)) = .ok () := by
  have innocent : (Node.branch .property [name] start).IsInnocent :=
    Node.isInnocent_branch (by decide)
      (List.forall_mem_singleton.2 isIdent.isVerbatim.innocent) start
  rw [declares.inspected _ (declares.not_offends_in_block around)]
  exact innocent _

/-- A declaration of a variable may stand at the top level. -/
theorem Declares.inspect_of_isVariable {name value : Node} {start : Position}
    (declares : Declares node (.branch .property [name] start) value)
    (isVariable : IsVariable name) : inspect (node.sites [.stylesheet]) = .ok () := by
  have variableKind : name.kind = .variableName := by cases isVariable <;> rfl
  have innocent : ¬ Site.Offends ⟨[.stylesheet], node⟩ := by
    simp [Site.Offends, Node.NamesPlainProperty, declares.kind, declares.names, Node.children,
      variableKind]
  rw [declares.inspected _ innocent, Node.inspect_branch (by decide), Node.sitesAll,
    Node.sitesAll, List.append_nil]
  exact isVariable.inspect_sites (by decide)

theorem IsIdent.sourceText_ne_empty (shape : IsIdent node) : node.sourceText ≠ "" := by
  obtain ⟨first, rest, text, _⟩ := shape.starts
  rw [Node.sourceText, text]
  intro empty
  have noCharacters := congrArg String.toList empty
  rw [String.toList_ofList] at noCharacters
  cases noCharacters

/-- A name that is a single identifier, when its parts are written together. -/
theorem IsIdent.joined_eq (shape : IsIdent node) {part : Node → Except CompileError String}
    (taken : part node = node.literal) (error : CompileError) :
    (do
      let name := String.join (← [node].mapM part)
      if name = "" then
        throw error
      return name) = Except.ok node.sourceText := by
  have parts : [node].mapM part = .ok [node.sourceText] := by
    rw [List.mapM_cons, taken, shape.isVerbatim.text]
    rfl
  rw [parts]
  change (if String.join [node.sourceText] = "" then _ else _) = _
  rw [String.join_cons, String.join_nil, String.append_empty, if_neg shape.sourceText_ne_empty]
  rfl

theorem IsIdent.propertyText_eq (shape : IsIdent node) (start : Position) :
    (Node.branch .property [node] start).propertyText = .ok node.sourceText := by
  have taken : node.propertyPart = node.literal := by
    cases shape
    rfl
  exact shape.joined_eq taken _

/-- The property of a declaration inside a block is taken unless it is a variable. -/
theorem IsProperty.propertyText_eq (shape : IsProperty node) (around : List Kind) :
    node.propertyText =
      vet (node.sites (.declaration :: .block :: around)) node.sourceText := by
  cases shape with
  | @variableName name start isVariable =>
      obtain ⟨inner, nameStart, rfl, _⟩ := isVariable.exists_name
      have offends : Site.Offends ⟨.property :: .declaration :: .block :: around,
          .branch .variableName [inner] nameStart⟩ := by
        simp [Site.Offends, Node.kind]
      rw [vet, Node.inspect_branch (by decide), Node.sitesAll, Node.sites, List.cons_append,
        inspect_cons_of_offends offends]
      rfl
  | @ident name start isIdent =>
      have innocent : (Node.branch .property [name] start).IsInnocent :=
        Node.isInnocent_branch (by decide)
          (List.forall_mem_singleton.2 isIdent.isVerbatim.innocent) start
      rw [isIdent.propertyText_eq, vet_of_ok (innocent _), Node.sourceText_unmarked ⟨rfl, rfl⟩]

/-- A declaration inside a block says its source texts. -/
theorem IsDeclaration.declarationText_eq (shape : IsDeclaration node) (around : List Kind) :
    node.normalize.declarationText =
      vet (node.sites (.block :: around)) node.spelledDeclaration := by
  obtain ⟨property, value, declares⟩ := shape.exists_declares
  rw [Node.declarationText, declares.parts, declares.spelled,
    vet_congr (declares.inspected _ (declares.not_offends_in_block around))]
  change (property.propertyText >>= fun name => value.valueText >>= fun value =>
    .ok (name, value)) = _
  rw [declares.isProperty.propertyText_eq around, declares.isValue.isVerbatim.text]
  exact vet_bind_ok _ _ fun name => (name, value.sourceText)

/-- A declaration at the top level says its source texts if it defines a variable, and is
itself the error if it does not. -/
theorem IsDeclaration.definitionText_eq (shape : IsDeclaration node) :
    node.normalize.definitionText = vet (node.sites [.stylesheet]) node.spelledDeclaration := by
  obtain ⟨property, value, declares⟩ := shape.exists_declares
  rw [Node.definitionText, declares.parts, declares.spelled]
  obtain @⟨name, start, isVariable⟩ | @⟨name, start, isIdent⟩ := declares.isProperty
  · have variableKind : name.kind = .variableName := by cases isVariable <;> rfl
    change (if name.kind = .variableName then _ else _) = _
    rw [if_pos variableKind, isVariable.variableText_eq, declares.isValue.isVerbatim.text,
      vet_of_ok (declares.inspect_of_isVariable isVariable),
      Node.sourceText_unmarked ⟨rfl, rfl⟩]
    rfl
  · have plain : name.kind = .ident := by
      cases isIdent
      rfl
    have offends : Site.Offends ⟨[.stylesheet], node⟩ := by
      simp [Site.Offends, Node.NamesPlainProperty, declares.kind, declares.names, Node.children,
        plain]
    change (if name.kind = .variableName then _ else _) = _
    rw [if_neg (by simp [plain])]
    cases node with
    | leaf kind text start => cases declares.names
    | branch kind children start =>
        obtain rfl : kind = .declaration := declares.kind
        rw [vet, Node.sites, inspect_cons_of_offends offends]
        rfl

end Declarations

section Selectors

theorem IsIdent.identText_eq (shape : IsIdent node) (kind : Kind) (start : Position) :
    (Node.branch kind [node] start).identText = .ok node.sourceText := by
  have taken : node.identPart = node.literal := by
    cases shape
    rfl
  exact shape.joined_eq taken _

theorem IsSimpleSelector.isNormal (shape : IsSimpleSelector node) : node.IsNormal := by
  cases shape with
  | ofClass start isIdent | ofId start isIdent | ofType start isIdent =>
      have normal := isIdent.isVerbatim.normal
      exact Node.isNormal_branch (by decide) (List.forall_mem_singleton.2 normal) start

theorem IsSimpleSelector.filter_cons (shape : IsSimpleSelector node) (parts : List Node) :
    (node :: parts).filter (·.IsAlternative) = node :: parts.filter (·.IsAlternative) := by
  cases shape <;> rfl

/-- A class or a type is an alternative in its own words, and an id is an error. -/
theorem IsSimpleSelector.alternative?_eq (shape : IsSimpleSelector node) (around : List Kind) :
    node.alternative? = vet (node.sites around) (some node.sourceText) := by
  cases shape with
  | @ofClass name start isIdent =>
      have innocent := Node.isInnocent_branch (show Kind.classSelector.IsHarmless by decide)
        (List.forall_mem_singleton.2 isIdent.isVerbatim.innocent) start
      change (Node.identText _ >>= fun text => pure (some ("." ++ text))) = _
      rw [isIdent.identText_eq, vet_of_ok (innocent around), Node.sourceText_classSelector]
      rfl
  | @ofId name start isIdent =>
      have offends : Site.Offends ⟨around, .branch .idSelector [name] start⟩ := .inr (.inl rfl)
      rw [vet, Node.sites, inspect_cons_of_offends offends]
      rfl
  | @ofType name start isIdent =>
      have innocent := Node.isInnocent_branch (show Kind.typeSelector.IsHarmless by decide)
        (List.forall_mem_singleton.2 isIdent.isVerbatim.innocent) start
      change (Node.identText _ >>= fun text => pure (some text)) = _
      rw [isIdent.identText_eq, vet_of_ok (innocent around), Node.sourceText_unmarked ⟨rfl, rfl⟩]
      rfl

/-- What stands in a selector. -/
inductive IsSelectorPart : Node → Prop where
  | space {node : Node} : IsSpace node → IsSelectorPart node
  | comma {node : Node} : IsMark .delimiter ',' node → IsSelectorPart node
  | simple {node : Node} : IsSimpleSelector node → IsSelectorPart node

/-- A further alternative brings blank space, a comma and a simple selector. -/
theorem IsAlternative.areParts {nodes : List Node} (shape : IsAlternative nodes) :
    ∀ part ∈ nodes, IsSelectorPart part := by
  obtain ⟨blankBefore, isComma, blankAfter, isSimple⟩ := shape
  refine List.forall_mem_append.2 ⟨List.forall_mem_append.2 ⟨?_, ?_⟩, ?_⟩
  · exact fun space member => .space (blankBefore space (Option.mem_toList.1 member))
  · exact List.forall_mem_cons.2 ⟨.comma isComma,
      fun space member => .space (blankAfter space (Option.mem_toList.1 member))⟩
  · exact List.forall_mem_singleton.2 (.simple isSimple)

/-- The children of a selector are blank space, commas and simple selectors. -/
theorem IsSelector.areParts (shape : IsSelector node) :
    ∀ part ∈ node.children, IsSelectorPart part := by
  obtain ⟨start, isSimple, areAlternatives⟩ := shape
  refine List.forall_mem_cons.2 ⟨.simple isSimple, ?_⟩
  intro part member
  obtain ⟨alternative, present, inside⟩ := List.mem_flatten.1 member
  exact (areAlternatives alternative present).areParts part inside

/-- The alternatives that compiling finds among the children of a selector. -/
def alternativeTexts (parts : List Node) : Except CompileError (List String) :=
  List.filterMap id <$> parts.mapM Node.alternative?

/-- One more part adds its text in front, and its sites are looked at first. -/
theorem alternativeTexts_cons {part : Node} {parts : List Node} {first second : List Site}
    {text : Option String} {texts : List String} (found : part.alternative? = vet first text)
    (later : alternativeTexts parts = vet second texts) :
    alternativeTexts (part :: parts) = vet (first ++ second) (text.toList ++ texts) := by
  have step : alternativeTexts (part :: parts) =
      part.alternative? >>= fun text => alternativeTexts parts >>= fun texts =>
        .ok (text.toList ++ texts) := by
    rw [alternativeTexts, List.mapM_cons, alternativeTexts]
    cases part.alternative? with
    | error => rfl
    | ok text =>
        cases parts.mapM Node.alternative? with
        | error => rfl
        | ok texts => cases text <;> rfl
  simp only [step, found, later, vet_bind_ok]
  exact vet_bind_vet first second text fun text => text.toList ++ texts

/-- The parts of a selector say the texts of the simple selectors among them, unless one of
these is an id. -/
theorem alternativeTexts_eq {parts : List Node} (areParts : ∀ part ∈ parts, IsSelectorPart part)
    (around : List Kind) :
    alternativeTexts (Node.normalizeAll parts) =
      vet (Node.sitesAll around parts) ((parts.filter (·.IsAlternative)).map Node.sourceText) := by
  induction parts with
  | nil => rfl
  | cons part parts ih =>
      obtain ⟨isPart, areParts⟩ := List.forall_mem_cons.1 areParts
      specialize ih areParts
      rw [Node.normalizeAll, Node.sitesAll]
      cases isPart with
      | space isSpace =>
          rw [vet_append_of_ok (isSpace.isInnocent (by decide) around),
            if_neg (isSpace.isSignificant_iff.not.2 (by decide)), ih]
          cases isSpace
          rfl
      | comma isComma =>
          have delimits : part.alternative? = .ok none := by
            cases isComma
            rfl
          rw [← vet_of_ok (isComma.isInnocent (by decide) around) none] at delimits
          rw [if_pos (isComma.isSignificant_iff.2 (by decide))]
          cases isComma
          exact alternativeTexts_cons delimits ih
      | simple isSimple =>
          have normal := isSimple.isNormal
          rw [if_pos normal.significant, normal.normalized, isSimple.filter_cons]
          exact alternativeTexts_cons (isSimple.alternative?_eq around) ih

/-- A selector with at least one alternative is a group of its alternatives. -/
theorem selectorGroup_of_alternativeTexts {sites : List Site} {text : String}
    {texts : List String} (found : alternativeTexts node.children = vet sites (text :: texts)) :
    node.selectorGroup = vet sites (text :: texts) := by
  rw [alternativeTexts, vet] at found
  rw [Node.selectorGroup, vet]
  generalize node.children.mapM Node.alternative? = options, inspect sites = inspected
    at found ⊢
  cases options with
  | error => exact found
  | ok options =>
      cases inspected with
      | error => cases found
      | ok =>
          have group : options.filterMap id = text :: texts := Except.ok.inj found
          simp only [bind, Except.bind, group]
          rfl

/-- A selector says the source texts of its alternatives. -/
theorem IsSelector.selectorGroup_eq (shape : IsSelector node) (around : List Kind) :
    node.normalize.selectorGroup =
      vet (node.sites around) ((node.children.filter (·.IsAlternative)).map Node.sourceText) := by
  have texts := alternativeTexts_eq shape.areParts (.selector :: around)
  obtain @⟨first, others, start, isSimple, _⟩ := shape
  rw [Node.children, isSimple.filter_cons, List.map_cons] at texts
  rw [vet_congr (Node.inspect_branch (by decide) ..), Node.children, isSimple.filter_cons]
  exact selectorGroup_of_alternativeTexts texts

end Selectors

end Source

end NestedStyles
