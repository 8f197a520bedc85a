import NestedStyles.Tree.Node

/-!
# Normal forms of trees

A tree without the nodes that only lay the source out: what is left of a node, and
which nodes are left of a list.
-/

namespace NestedStyles

namespace Node

/-- A node is significant when its kind does more than lay the source out. -/
def IsSignificant (node : Node) : Prop := ¬ node.kind.IsInsignificant

instance (node : Node) : Decidable node.IsSignificant :=
  inferInstanceAs (Decidable (¬ _))

mutual

/-- The node without its insignificant descendants. The node itself stays,
whatever its kind. -/
def normalize : Node → Node
  | leaf kind text start => leaf kind text start
  | branch kind children start => branch kind (normalizeAll children) start

/-- The significant nodes of a list, each normalized. -/
def normalizeAll : List Node → List Node
  | [] => []
  | node :: rest =>
      if node.IsSignificant then node.normalize :: normalizeAll rest else normalizeAll rest

end

theorem kind_normalize (node : Node) : node.normalize.kind = node.kind := by
  cases node <;> rfl

theorem start_normalize (node : Node) : node.normalize.start = node.start := by
  cases node <;> rfl

theorem children_normalize (node : Node) :
    node.normalize.children = normalizeAll node.children := by
  cases node <;> rfl

theorem normalizeAll_append (first second : List Node) :
    normalizeAll (first ++ second) = normalizeAll first ++ normalizeAll second := by
  induction first with
  | nil => rfl
  | cons node nodes ih =>
      rw [List.cons_append, normalizeAll, normalizeAll, ih]
      split <;> rfl

/-- Normalizing keeps the significant nodes, each normalized. -/
theorem mem_normalizeAll_iff {nodes : List Node} {found : Node} :
    found ∈ normalizeAll nodes ↔ ∃ node ∈ nodes, node.IsSignificant ∧ found = node.normalize := by
  induction nodes with
  | nil => simp [normalizeAll]
  | cons node nodes ih =>
      rw [normalizeAll]
      by_cases significant : node.IsSignificant
      · simp [significant, ih]
      · simp [significant, ih]

end Node

end NestedStyles
