import NestedStyles.Proofs.Program.Compiling
import NestedStyles.Proofs.Source.ReadingBack

/-!
# Layout between items

Blank space and delimiters may stand between any two items. Put in front of a text that
reads as items, they make a text that reads as items again, with the same significant
nodes (`ReadsAs.pad`); blank space that is there already grows instead of being
doubled. So layout may be inserted at every seam of a source, inside blocks as well
(`IsSeam.readsAs`).
-/

namespace NestedStyles.Source

/-- The characters that only lay a stylesheet out. -/
def isLayout (c : Char) : Bool := isBlank c || c == ';'

/-- No identifier starts with a layout character. -/
theorem isIdentStart_eq_false_of_isLayout {c : Char} (layout : isLayout c) :
    isIdentStart c = false := by
  rcases Bool.or_eq_true_iff.1 layout with blank | delimiter
  · apply Bool.eq_false_iff.2
    intro starts
    have solid := isBlank_eq_false_of_isIdentPart (isIdentPart_of_isIdentStart starts)
    rw [blank] at solid
    contradiction
  · obtain rfl := eq_of_beq delimiter
    rfl

/-- The text reads as items whose significant ones have the given normal forms. -/
def ReadsAs (text : List Char) (nodes : List Node) : Prop :=
  ∃ items, AreItems items ∧ Node.sourceAll items = text ∧ Node.normalizeAll items = nodes

section Items

variable {node : Node} {items nodes : List Node} {text padding : List Char} {c : Char}

theorem AreItems.tail (areItems : AreItems (node :: items)) : AreItems items :=
  ⟨(List.forall_mem_cons.1 areItems.each).2, areItems.apart.tail⟩

/-- The text behind an item does not prolong it. -/
theorem AreItems.stops_append (areItems : AreItems (node :: items))
    (ends : items = [] → Stops (prolongs node.kind) text) :
    Stops (prolongs node.kind) (Node.sourceAll items ++ text) := by
  cases items with
  | nil => exact ends rfl
  | cons next more =>
      have follows := (List.isChain_cons_cons.1 areItems.apart).1
      obtain ⟨form, starts⟩ := (areItems.each next (by simp)).starts
      rw [Node.sourceAll, List.append_assoc]
      exact starts.stops_append follows (Node.sourceAll more ++ text)

theorem prolongs_eq_false {kind : Kind} (solid : kind ≠ .space) (complete : kind ≠ .declaration) :
    prolongs kind = fun _ => false := by
  unfold prolongs
  split <;> trivial

/-- Only blank space starts with a blank character. -/
theorem stops_isBlank_of_starts {form : Form} (starts : Starts form.opens text)
    (solid : form ≠ .space) : Stops isBlank text := by
  apply starts.stops
  intro c opens
  apply Bool.eq_false_iff.2
  intro blank
  have mark : isIdentStart c = false :=
    isIdentStart_eq_false_of_isLayout (by rw [isLayout, blank, Bool.true_or])
  apply solid
  rw [form.eq_ofMark opens mark, Form.ofMark, if_pos blank]

/-- Only blank space starts with a blank. -/
theorem IsItem.isSpace_or_stops (isItem : IsItem node) :
    IsSpace node ∨ Stops isBlank node.source := by
  cases isItem with
  | space shape => exact .inl shape
  | comment shape =>
      cases shape
      exact .inr (stops_cons.2 rfl)
  | delimiter shape =>
      rw [IsMark.source shape ⟨rfl, rfl⟩]
      exact .inr (stops_cons.2 rfl)
  | declaration shape =>
      exact .inr (stops_isBlank_of_starts shape.starts Form.noConfusion)
  | ruleset blockStart start isSelector =>
      exact .inr (stops_isBlank_of_starts (starts_branch rfl isSelector.starts) Form.noConfusion)

/-- Items whose text starts with a blank character start with blank space. -/
theorem AreItems.exists_space (areItems : AreItems items)
    (blank : ¬ Stops isBlank (Node.sourceAll items)) :
    ∃ text start more, items = .leaf .space text start :: more ∧ IsBlankText text.toList := by
  cases items with
  | nil => exact absurd (stops_nil _) blank
  | cons node more =>
      have isItem := areItems.each node List.mem_cons_self
      rcases isItem.isSpace_or_stops with ⟨start, word⟩ | stops
      · exact ⟨_, start, more, rfl, word⟩
      · obtain ⟨form, starts⟩ := isItem.starts
        exact absurd (starts.stops_append stops _) blank

/-- Blank space in front of items joins the blank space that they start with. -/
theorem ReadsAs.blank (reads : ReadsAs text nodes) (blank : isBlank c) :
    ReadsAs (c :: text) nodes := by
  obtain ⟨items, areItems, rfl, rfl⟩ := reads
  by_cases stops : Stops isBlank (Node.sourceAll items)
  · have isSpace : IsSpace (.leaf .space (String.ofList [c]) .unknown) := by
      apply IsLeaf.intro
      rw [String.toList_ofList]
      exact ⟨blank, List.forall_mem_nil _⟩
    refine ⟨_, areItems.cons (.space isSpace) stops, ?_, rfl⟩
    rw [Node.sourceAll, source_leaf ⟨rfl, rfl⟩, String.toList_ofList, List.singleton_append]
  · obtain ⟨word, start, more, rfl, isBlankText⟩ := areItems.exists_space stops
    have isSpace : IsSpace (.leaf .space (String.ofList (c :: word.toList)) start) := by
      apply IsLeaf.intro
      rw [String.toList_ofList]
      exact ⟨blank, isBlankText.forall⟩
    have stops := (areItems.stops_append fun _ => stops_nil _).left
    refine ⟨_, areItems.tail.cons (.space isSpace) stops, ?_, rfl⟩
    rw [Node.sourceAll, Node.sourceAll, source_leaf ⟨rfl, rfl⟩, source_leaf ⟨rfl, rfl⟩,
      String.toList_ofList, List.cons_append]

/-- A delimiter in front of a text changes nothing about what it reads as. -/
theorem ReadsAs.delimiter (reads : ReadsAs text nodes) : ReadsAs (';' :: text) nodes := by
  obtain ⟨items, areItems, rfl, rfl⟩ := reads
  have isDelimiter : IsMark .declarationDelimiter ';' (.leaf .declarationDelimiter ";" .unknown) :=
    .intro .unknown rfl
  exact ⟨_, areItems.cons (.delimiter isDelimiter) (stops_never _), rfl, rfl⟩

/-- Layout in front of items changes none of the significant ones. -/
theorem ReadsAs.pad (reads : ReadsAs text nodes) (layout : ∀ c ∈ padding, isLayout c) :
    ReadsAs (padding ++ text) nodes := by
  induction padding with
  | nil => exact reads
  | cons c padding ih =>
      obtain ⟨first, later⟩ := List.forall_mem_cons.1 layout
      rcases Bool.or_eq_true_iff.1 first with blank | delimiter
      · exact (ih later).blank blank
      · obtain rfl := eq_of_beq delimiter
        exact (ih later).delimiter

/-- A significant item may stand in front of items that do not prolong it. -/
theorem ReadsAs.cons (reads : ReadsAs text nodes) (isItem : IsItem node)
    (significant : node.IsSignificant) (stops : Stops (prolongs node.kind) text) :
    ReadsAs (node.source ++ text) (node.normalize :: nodes) := by
  obtain ⟨items, areItems, rfl, rfl⟩ := reads
  refine ⟨_, areItems.cons isItem stops, rfl, ?_⟩
  rw [Node.normalizeAll, if_pos significant]

/-- Insignificant items consist of layout characters. -/
theorem IsItem.isLayout_of_mem_source (isItem : IsItem node) (layout : ¬ node.IsSignificant) :
    ∀ c ∈ node.source, isLayout c := by
  intro c member
  cases isItem with
  | space shape =>
      obtain ⟨start, word⟩ := shape
      rw [source_leaf ⟨rfl, rfl⟩] at member
      rw [isLayout, word.forall c member, Bool.true_or]
  | delimiter shape =>
      rw [IsMark.source shape ⟨rfl, rfl⟩, List.mem_singleton] at member
      rw [member]
      rfl
  | comment shape => exact absurd (shape.isSignificant_iff.2 (by decide)) layout
  | declaration shape =>
      cases shape
      exact absurd (by decide : ¬ Kind.declaration.IsInsignificant) layout
  | ruleset => exact absurd (by decide : ¬ Kind.ruleset.IsInsignificant) layout

/-- Items may stand in front of a text that reads as items, unless the last one of them is a
declaration that the text prolongs. -/
theorem ReadsAs.append (reads : ReadsAs text nodes) (areItems : AreItems items)
    (ends : ∀ last ∈ items.getLast?, last.kind = .declaration → Stops isIdentStart text) :
    ReadsAs (Node.sourceAll items ++ text) (Node.normalizeAll items ++ nodes) := by
  induction items with
  | nil => exact reads
  | cons node more ih =>
      have isItem := areItems.each node List.mem_cons_self
      have later : ReadsAs (Node.sourceAll more ++ text) (Node.normalizeAll more ++ nodes) := by
        apply ih areItems.tail
        intro last member
        apply ends
        cases more with
        | nil => cases member
        | cons next more => rwa [List.getLast?_cons_cons]
      rw [Node.sourceAll, List.append_assoc, Node.normalizeAll]
      by_cases significant : node.IsSignificant
      · rw [if_pos significant]
        apply later.cons isItem significant
        apply areItems.stops_append
        rintro rfl
        by_cases declares : node.kind = .declaration
        · rw [declares]
          exact ends node rfl declares
        · rw [prolongs_eq_false (fun space => significant (.inl space)) declares]
          exact stops_never text
      · rw [if_neg significant]
        exact later.pad (isItem.isLayout_of_mem_source significant)

end Items

/-- A place between items: what stands in front of it and behind it in the text of the items.
It is before, between or behind the items of the outermost level, or such a place in the block
of a ruleset. -/
inductive IsSeam : List Node → List Char → List Char → Prop where
  | between (earlier later : List Node) :
      IsSeam (earlier ++ later) (Node.sourceAll earlier) (Node.sourceAll later)
  | inside {front inner : List Node} {before after : List Char} (earlier later : List Node)
      (blockStart start : Position) :
      IsSeam inner before after →
      IsSeam (earlier ++
          .branch .ruleset (front ++ [.branch .block inner blockStart]) start :: later)
        (Node.sourceAll earlier ++ (Node.sourceAll front ++ '{' :: before))
        (after ++ '}' :: Node.sourceAll later)

section Seams

variable {items earlier later : List Node} {before after padding text : List Char}

/-- The text around a seam is the text of the items. -/
theorem IsSeam.sourceAll_eq (seam : IsSeam items before after) :
    Node.sourceAll items = before ++ after := by
  induction seam with
  | between earlier later => rw [Node.sourceAll_append]
  | inside earlier later blockStart start seam ih =>
      simp only [Node.sourceAll_append, Node.sourceAll, Node.source, Kind.openingMark,
        Kind.closingMark, ih, List.append_assoc, List.nil_append, List.cons_append,
        List.append_nil]

theorem AreItems.left (areItems : AreItems (earlier ++ later)) : AreItems earlier :=
  ⟨(List.forall_mem_append.1 areItems.each).1, areItems.apart.left_of_append⟩

theorem AreItems.right (areItems : AreItems (earlier ++ later)) : AreItems later :=
  ⟨(List.forall_mem_append.1 areItems.each).2, areItems.apart.right_of_append⟩

/-- What follows a declaration among items starts no identifier. -/
theorem AreItems.stops_behind_declaration (areItems : AreItems (earlier ++ later)) :
    ∀ last ∈ earlier.getLast?, last.kind = .declaration →
      Stops isIdentStart (Node.sourceAll later) := by
  intro last member declares
  obtain ⟨front, rfl⟩ := List.getLast?_eq_some_iff.1 member
  rw [List.append_assoc] at areItems
  have stops := areItems.right.stops_append fun _ => stops_nil _
  rw [declares, List.append_nil] at stops
  exact stops

/-- Layout in front of a text that does not go on with an identifier does not either. -/
theorem Stops.pad (stops : Stops isIdentStart text) (layout : ∀ c ∈ padding, isLayout c) :
    Stops isIdentStart (padding ++ text) := by
  cases padding with
  | nil => exact stops
  | cons c padding =>
      exact stops_cons.2 (isIdentStart_eq_false_of_isLayout (layout c List.mem_cons_self))

/-- A ruleset consists of a selector, optional blank space and a block of items. -/
theorem IsItem.ruleset_parts {children : List Node} {start : Position}
    (isItem : IsItem (.branch .ruleset children start)) :
    ∃ selector between inner blockStart, IsSelector selector ∧
      (∀ space ∈ between, IsSpace space) ∧ AreItems inner ∧
      children = selector :: (between : Option Node).toList ++
        [.branch .block inner blockStart] := by
  cases isItem with
  | space shape | comment shape | delimiter shape => cases shape
  | declaration shape => cases shape
  | ruleset blockStart _ isSelector blank each apart =>
      exact ⟨_, _, _, blockStart, isSelector, blank, ⟨each, apart⟩, rfl⟩

/-- The text of a ruleset in its parts, with what follows it. -/
theorem source_rulesetOf (selector : Node) (space : Option Node) (items : List Node)
    (blockStart start : Position) (rest : List Char) :
    (rulesetOf selector space items blockStart start).source ++ rest =
      selector.source ++ (Node.sourceAll space.toList ++
        '{' :: (Node.sourceAll items ++ '}' :: rest)) := by
  simp only [Node.source, Node.sourceAll, Node.sourceAll_append, Kind.openingMark,
    Kind.closingMark, List.nil_append, List.append_nil, List.cons_append, List.append_assoc]

/-- Layout at a seam changes none of the significant nodes. -/
theorem IsSeam.readsAs (seam : IsSeam items before after) (areItems : AreItems items)
    (layout : ∀ c ∈ padding, isLayout c) :
    ReadsAs (before ++ (padding ++ after)) (Node.normalizeAll items) := by
  induction seam with
  | between earlier later =>
      have behind : ReadsAs (Node.sourceAll later) (Node.normalizeAll later) :=
        ⟨later, areItems.right, rfl, rfl⟩
      rw [Node.normalizeAll_append]
      apply (behind.pad layout).append areItems.left
      intro last member declares
      exact (areItems.stops_behind_declaration last member declares).pad layout
  | @inside front inner before after earlier later blockStart start seam ih =>
      have isItem := areItems.each _ (List.mem_append_right earlier List.mem_cons_self)
      obtain ⟨selector, space, _, _, isSelector, blank, innerItems, same⟩ := isItem.ruleset_parts
      obtain ⟨rfl, block⟩ := List.append_inj' same rfl
      obtain ⟨rfl, rfl⟩ : _ ∧ _ := by simpa using block
      -- The block takes the padded items; in front of it nothing changes, so the ruleset
      -- starts as before.
      obtain ⟨padded, paddedItems, text, normal⟩ := ih innerItems
      have paddedItem : IsItem (rulesetOf selector space padded blockStart start) :=
        .ruleset blockStart start isSelector blank paddedItems.each paddedItems.apart
      have behind : ReadsAs (Node.sourceAll later) (Node.normalizeAll later) :=
        ⟨later, areItems.right.tail, rfl, rfl⟩
      have ruleset {children : List Node} : (Node.branch .ruleset children start).IsSignificant :=
        show ¬ Kind.ruleset.IsInsignificant by decide
      have ends : ∀ last ∈ earlier.getLast?, last.kind = .declaration →
          Stops isIdentStart ((rulesetOf selector space padded blockStart start).source ++
            Node.sourceAll later) := by
        intro last member declares
        have stops := areItems.stops_behind_declaration last member declares
        rw [Node.sourceAll, source_rulesetOf] at stops
        rw [source_rulesetOf]
        exact isSelector.starts.stops_append stops.left _
      have reads := (behind.cons paddedItem ruleset (stops_never _)).append areItems.left ends
      rw [normalize_rulesetOf isSelector blank, source_rulesetOf, text, normal] at reads
      rw [Node.normalizeAll_append, Node.normalizeAll, if_pos ruleset,
        normalize_rulesetOf isSelector blank]
      simpa only [Node.sourceAll, List.cons_append, List.append_assoc] using reads

end Seams

end NestedStyles.Source
