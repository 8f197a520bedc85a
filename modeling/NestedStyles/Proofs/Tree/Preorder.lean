import NestedStyles.Proofs.Program.Site
import NestedStyles.Tree.Normalize

/-!
# Normal forms as listings

A tree is listed in preorder, each node with its depth, kind, text and position. The listing
determines the tree (`Node.preorder_injective`). The listing of a normal form is that of the tree
without the entries of the nodes that are insignificant or stand inside an insignificant node,
where the root never counts as one (`Node.preorder_normalize`).
-/

namespace NestedStyles

/-- What a listing of a tree shows of a node. -/
structure Entry where
  depth : Nat
  kind : Kind
  text? : Option String
  start : Position
deriving DecidableEq

namespace Site

/-- What a listing shows of the node. -/
def entry (site : Site) : Entry where
  depth := site.around.length
  kind := site.node.kind
  text? := site.node.text?
  start := site.node.start

/-- The kinds of the node and of the nodes around it, innermost first, up to those at the
depth. -/
def kindsBelow (depth : Nat) (site : Site) : List Kind :=
  (site.node.kind :: site.around).take (site.around.length - depth)

/-- A site below a depth counts among the kinds there. -/
theorem kind_mem_kindsBelow {depth : Nat} {site : Site} (deeper : depth < site.around.length) :
    site.node.kind ∈ site.kindsBelow depth := by
  obtain ⟨count, length⟩ := Nat.exists_eq_add_of_lt deeper
  rw [kindsBelow, length, Nat.add_assoc, Nat.add_sub_cancel_left, List.take_succ_cons]
  exact List.mem_cons_self

/-- Below the depth, neither the node nor a node around it is insignificant. -/
def IsKeptBelow (depth : Nat) (site : Site) : Prop :=
  ∀ kind ∈ site.kindsBelow depth, ¬ kind.IsInsignificant

instance (depth : Nat) (site : Site) : Decidable (site.IsKeptBelow depth) :=
  inferInstanceAs (Decidable (∀ kind ∈ _, _))

/-- The site with its node normalized. -/
def normalize (site : Site) : Site := ⟨site.around, site.node.normalize⟩

theorem kindsBelow_normalize (depth : Nat) (site : Site) :
    site.normalize.kindsBelow depth = site.kindsBelow depth := by
  obtain ⟨around, node⟩ := site
  cases node <;> rfl

theorem entry_normalize (site : Site) : site.normalize.entry = site.entry := by
  obtain ⟨around, node⟩ := site
  cases node <;> rfl

end Site

namespace Node

/-- The entries of a tree's nodes, each node before its children. -/
def preorder (tree : Node) : List Entry := (tree.sites []).map Site.entry

section Paths

variable {around : List Kind} {kind : Kind} {site : Site}

/-- A node comes first among its sites, and what is below it next. -/
theorem sitesAll_cons (around : List Kind) (node : Node) (nodes : List Node) :
    sitesAll around (node :: nodes) =
      ⟨around, node⟩ ::
        (sitesAll (node.kind :: around) node.children ++ sitesAll around nodes) := by
  cases node <;> rfl

mutual

/-- The kinds around a site of a node lead out to that node. -/
theorem exists_below_of_mem_sites {around : List Kind} :
    (node : Node) → site ∈ node.sites around →
      ∃ below, site.node.kind :: site.around = below ++ node.kind :: around
  | leaf .., member => by
      obtain rfl := List.mem_singleton.1 member
      exact ⟨[], rfl⟩
  | branch kind children start, member => by
      rw [sites, List.mem_cons] at member
      rcases member with rfl | deeper
      · exact ⟨[], rfl⟩
      · obtain ⟨child, below, leads⟩ := exists_below_of_mem_sitesAll children deeper
        exact ⟨below ++ [child], leads.trans (List.append_cons ..)⟩

/-- The way from a site out to the nodes around a list leads through a node of the list. -/
theorem exists_below_of_mem_sitesAll {around : List Kind} :
    (nodes : List Node) → site ∈ sitesAll around nodes →
      ∃ child below, site.node.kind :: site.around = below ++ child :: around
  | [], member => nomatch member
  | node :: nodes, member => by
      rw [sitesAll, List.mem_append] at member
      rcases member with inFirst | inLater
      · exact ⟨node.kind, exists_below_of_mem_sites node inFirst⟩
      · exact exists_below_of_mem_sitesAll nodes inLater

end

/-- The depth of a site is the length of the way out. -/
theorem length_around_of_leads {below outer : List Kind} {kind : Kind}
    (leads : site.node.kind :: site.around = below ++ kind :: outer) :
    site.around.length = below.length + outer.length := by
  have lengths := congrArg List.length leads
  rw [List.length_cons, List.length_append, List.length_cons] at lengths
  omega

/-- A site below a node is kept exactly if the node is significant and the site is kept in what
the node holds. -/
theorem isKeptBelow_iff {node : Node} (member : site ∈ node.sites (kind :: around)) :
    site.IsKeptBelow around.length ↔
      node.IsSignificant ∧ site.IsKeptBelow (kind :: around).length := by
  obtain ⟨below, leads⟩ := exists_below_of_mem_sites node member
  have length := length_around_of_leads leads
  have inner : site.kindsBelow (kind :: around).length = below := by
    rw [Site.kindsBelow, leads, length, Nat.add_sub_cancel, List.take_left]
  have outer : site.kindsBelow around.length = below ++ [node.kind] := by
    have one : site.around.length - around.length = (below ++ [node.kind]).length := by
      rw [length, List.length_cons, List.length_append, List.length_singleton]
      omega
    rw [Site.kindsBelow, leads, List.append_cons, one, List.take_left]
  rw [Site.IsKeptBelow, Site.IsKeptBelow, inner, outer, List.forall_mem_append, and_comm,
    List.forall_mem_singleton]
  rfl

end Paths

section Normalizing

/-- The root of a tree is kept below its own depth, whatever it is. -/
theorem filter_isKeptBelow_cons (around : List Kind) (node : Node) (sites : List Site) :
    (⟨around, node⟩ :: sites).filter (·.IsKeptBelow around.length) =
      ⟨around, node⟩ :: sites.filter (·.IsKeptBelow around.length) := by
  have kept : Site.IsKeptBelow around.length ⟨around, node⟩ := by
    simp [Site.IsKeptBelow, Site.kindsBelow]
  rw [List.filter_cons, if_pos (decide_eq_true kept)]

mutual

/-- The sites of a normal form are the sites that are kept. -/
theorem sites_normalize (around : List Kind) :
    (node : Node) → node.normalize.sites around =
      ((node.sites around).filter (·.IsKeptBelow around.length)).map Site.normalize
  | leaf kind text start => by
      rw [normalize, sites, filter_isKeptBelow_cons]
      rfl
  | branch kind children start => by
      rw [normalize, sites, sites, filter_isKeptBelow_cons, List.map_cons,
        sitesAll_normalizeAll kind around children]
      rfl

/-- Normalizing children keeps exactly the sites below them at which nothing on the way is
insignificant. -/
theorem sitesAll_normalizeAll (kind : Kind) (around : List Kind) :
    (nodes : List Node) → sitesAll (kind :: around) (normalizeAll nodes) =
      ((sitesAll (kind :: around) nodes).filter (·.IsKeptBelow around.length)).map Site.normalize
  | [] => rfl
  | node :: nodes => by
      rw [normalizeAll, sitesAll, List.filter_append, List.map_append,
        ← sitesAll_normalizeAll kind around nodes]
      split
      · next significant =>
          rw [sitesAll, sites_normalize (kind :: around) node]
          congr 2
          apply List.filter_congr
          intro site member
          rw [decide_eq_decide, isKeptBelow_iff member, and_iff_right significant]
      · next insignificant =>
          have removed :
              (node.sites (kind :: around)).filter (·.IsKeptBelow around.length) = [] := by
            rw [List.filter_eq_nil_iff]
            intro site member kept
            exact insignificant ((isKeptBelow_iff member).1 (of_decide_eq_true kept)).1
          rw [removed]
          rfl

end

/-- The listing of a normal form leaves out exactly what is not kept below the root. -/
theorem preorder_normalize (tree : Node) :
    tree.normalize.preorder = ((tree.sites []).filter (·.IsKeptBelow 0)).map Site.entry := by
  rw [preorder, sites_normalize, List.map_map]
  exact List.map_congr_left fun site _ => site.entry_normalize

/-- Everything in a normal form is kept. -/
theorem isKeptBelow_of_mem_sites_normalize {tree : Node} {site : Site}
    (member : site ∈ tree.normalize.sites []) : site.IsKeptBelow 0 := by
  rw [sites_normalize] at member
  obtain ⟨original, kept, rfl⟩ := List.mem_map.1 member
  rw [Site.IsKeptBelow, Site.kindsBelow_normalize]
  exact of_decide_eq_true (List.mem_filter.1 kept).2

end Normalizing

section Listings

/-- What a node holds is listed up to the next entry that is no deeper than the node. -/
theorem takeWhile_map_entry (kind : Kind) (around : List Kind) (children nodes : List Node) :
    ((sitesAll (kind :: around) children ++ sitesAll around nodes).map Site.entry).takeWhile
        (around.length < ·.depth) =
      (sitesAll (kind :: around) children).map Site.entry := by
  have deeper : ∀ entry ∈ (sitesAll (kind :: around) children).map Site.entry,
      decide (around.length < entry.depth) = true := by
    intro entry member
    obtain ⟨site, present, rfl⟩ := List.mem_map.1 member
    obtain ⟨child, below, leads⟩ := exists_below_of_mem_sitesAll children present
    have length := length_around_of_leads leads
    rw [List.length_cons] at length
    have longer : around.length < site.around.length := by omega
    exact decide_eq_true longer
  rw [List.map_append, List.takeWhile_append_of_pos deeper]
  cases nodes with
  | nil => exact List.append_nil _
  | cons node nodes =>
      rw [sitesAll_cons, List.map_cons, List.takeWhile_cons_of_neg, List.append_nil]
      simp [Site.entry]

theorem eq_of_parts {first second : Node} (kind : first.kind = second.kind)
    (text : first.text? = second.text?) (start : first.start = second.start)
    (children : first.children = second.children) : first = second := by
  cases first <;> cases second <;> simp_all [Node.kind, text?, Node.start, Node.children]

/-- The listing of a level tells its nodes: the entries up to the next one at the level are what
the first node holds. -/
theorem eq_of_map_entry_eq {around around' : List Kind} (level : around.length = around'.length) :
    (nodes nodes' : List Node) →
      (sitesAll around nodes).map Site.entry = (sitesAll around' nodes').map Site.entry →
      nodes = nodes'
  | [], [], _ => rfl
  | [], _ :: _, same => by
      rw [sitesAll_cons] at same
      contradiction
  | _ :: _, [], same => by
      rw [sitesAll_cons] at same
      contradiction
  | node :: nodes, node' :: nodes', same => by
      rw [sitesAll_cons, sitesAll_cons, List.map_cons, List.map_cons, List.cons.injEq] at same
      obtain ⟨first, later⟩ := same
      have below := congrArg (List.takeWhile (around.length < ·.depth)) later
      rw [takeWhile_map_entry, level, takeWhile_map_entry] at below
      rw [List.map_append, List.map_append, below] at later
      have inner : (node.kind :: around).length = (node'.kind :: around').length :=
        congrArg Nat.succ level
      have children := eq_of_map_entry_eq inner node.children node'.children below
      have behind := eq_of_map_entry_eq level nodes nodes' (List.append_cancel_left later)
      have same : node = node' :=
        eq_of_parts (congrArg Entry.kind first) (congrArg Entry.text? first)
          (congrArg Entry.start first) children
      rw [same, behind]
termination_by nodes => (sitesAll around nodes).length
decreasing_by
  all_goals
    rw [sitesAll_cons, List.length_cons, List.length_append]
    omega

/-- Trees with the same listing are equal. -/
theorem preorder_injective {first second : Node} (same : first.preorder = second.preorder) :
    first = second := by
  have single (tree : Node) : tree.preorder = (sitesAll [] [tree]).map Site.entry := by
    rw [sitesAll, sitesAll, List.append_nil, preorder]
  rw [single, single] at same
  exact List.singleton_inj.1 (eq_of_map_entry_eq rfl [first] [second] same)

end Listings

/-- All of a normal form is kept, so the listing stays as it is and the tree with it. -/
theorem normalize_normalize (tree : Node) : tree.normalize.normalize = tree.normalize := by
  apply preorder_injective
  rw [preorder_normalize, List.filter_eq_self.2, preorder]
  intro site member
  exact decide_eq_true (isKeptBelow_of_mem_sites_normalize member)

/-- Normalizing removes from the listing of a tree the entries of the insignificant nodes below
the root and of all that these hold, and nothing else. So no node below the root of the result
is insignificant, and normalizing again changes nothing. A kind outside the fixed list is never
insignificant, whatever its name. -/
theorem normalize_removes_insignificant_subtrees (tree : Node) :
    tree.normalize.preorder = ((tree.sites []).filter (·.IsKeptBelow 0)).map Site.entry ∧
    (∀ entry ∈ tree.normalize.preorder, 0 < entry.depth → ¬ entry.kind.IsInsignificant) ∧
    tree.normalize.normalize = tree.normalize ∧
    ∀ name, ¬ (Kind.other name).IsInsignificant := by
  refine ⟨preorder_normalize tree, ?_, normalize_normalize tree, ?_⟩
  · intro entry member deep
    obtain ⟨site, present, rfl⟩ := List.mem_map.1 member
    exact isKeptBelow_of_mem_sites_normalize present _ (Site.kind_mem_kindsBelow deep)
  · intro name
    simp [Kind.IsInsignificant]

/-- A tree whose root is blank space, with a kind that is only named like it. -/
def blankRoot : Node :=
  .branch .space
    [.branch (.other "space") [.leaf .ident "a" ⟨1, 2⟩, .leaf .space " " ⟨1, 3⟩] ⟨1, 1⟩,
      .branch .propertyDelimiter [.leaf .ident "b" ⟨2, 1⟩] ⟨2, 1⟩,
      .leaf .declarationDelimiter ";" ⟨2, 2⟩,
      .branch .block [] ⟨3, 1⟩]
    ⟨1, 1⟩

/-- Blank space at the root is kept, and so is a kind that is only named as blank space is. -/
theorem normalize_removes_insignificant_subtrees_blankRoot :
    blankRoot.normalize.preorder =
      [⟨0, .space, none, ⟨1, 1⟩⟩, ⟨1, .other "space", none, ⟨1, 1⟩⟩,
        ⟨2, .ident, some "a", ⟨1, 2⟩⟩, ⟨1, .block, none, ⟨3, 1⟩⟩] ∧
      (⟨2, .ident, some "a", ⟨1, 2⟩⟩ : Entry) ∈ blankRoot.normalize.preorder ∧
      ¬ Kind.ident.IsInsignificant := by
  obtain ⟨listed, significant, _⟩ := normalize_removes_insignificant_subtrees blankRoot
  have member : (⟨2, .ident, some "a", ⟨1, 2⟩⟩ : Entry) ∈ blankRoot.normalize.preorder := by decide
  exact ⟨listed.trans (by decide), member, significant _ member (by decide)⟩

end Node

end NestedStyles
