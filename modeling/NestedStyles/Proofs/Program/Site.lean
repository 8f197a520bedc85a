import NestedStyles.Program.CompileError
import NestedStyles.Proofs.Source.Placement

/-!
# Sites of a tree

The nodes of a tree in document order, each with the kinds of the nodes around it.
Four sorts of nodes offend where they stand: comments, id selectors, variables that
name a property inside a block, and declarations at the top level that define no
variable. Inspecting a tree passes over its sites and stops at the first one that
offends (`inspect_eq_error_iff`).
-/

namespace NestedStyles

/-- A node of a tree at its place. -/
structure Site where
  /-- The kinds of the nodes around it, innermost first. -/
  around : List Kind
  node : Node

namespace Node

mutual

/-- The node and all nodes below it in document order. -/
def sites (around : List Kind) : Node → List Site
  | leaf kind text start => [⟨around, leaf kind text start⟩]
  | branch kind children start =>
      ⟨around, branch kind children start⟩ :: sitesAll (kind :: around) children

/-- The sites in a list of nodes. -/
def sitesAll (around : List Kind) : List Node → List Site
  | [] => []
  | node :: nodes => node.sites around ++ sitesAll around nodes

end

@[simp] theorem kind_branch (kind : Kind) (children : List Node) (start : Position) :
    (branch kind children start).kind = kind := rfl

@[simp] theorem children_branch (kind : Kind) (children : List Node) (start : Position) :
    (branch kind children start).children = children := rfl

/-- The children of a kind. -/
def childrenOf (kind : Kind) (node : Node) : List Node := node.children.filter (·.kind = kind)

/-- A declaration whose property is a plain identifier. -/
def NamesPlainProperty (node : Node) : Prop :=
  ∃ property ∈ node.childrenOf .property, ∃ name ∈ property.children, name.kind = .ident

instance (node : Node) : Decidable node.NamesPlainProperty :=
  inferInstanceAs (Decidable (∃ property ∈ _, ∃ name ∈ _, _))

end Node

namespace Site

/-- A node that has no meaning where it stands. -/
def Offends (site : Site) : Prop :=
  site.node.kind = .comment ∨
  site.node.kind = .idSelector ∨
  (site.node.kind = .variableName ∧ [.property, .declaration, .block] <+: site.around) ∨
  (site.node.kind = .declaration ∧ site.around = [.stylesheet] ∧ site.node.NamesPlainProperty)

instance (site : Site) : Decidable site.Offends :=
  inferInstanceAs (Decidable (_ ∨ _ ∨ _ ∧ _ ∨ _ ∧ _ ∧ _))

/-- The error that an offending node is reported with. -/
def report (site : Site) : CompileError :=
  match site.node.kind with
  | .idSelector => .notInSelector site.node
  | .comment => .unsupported site.node (if site.around = [.stylesheet] then .topLevel else .block)
  | .variableName => .unsupported site.node .nestedPropertyName
  | _ => .unsupported site.node .definition

/-- Stops at an offending node. -/
def check (site : Site) : Except CompileError Unit :=
  if site.Offends then .error site.report else .ok ()

end Site

/-- Passes over sites and stops at the first that offends. -/
def inspect (sites : List Site) : Except CompileError Unit := sites.forM Site.check

/-- A value that stands unless one of the sites offends. -/
def vet {α : Type} (sites : List Site) (value : α) : Except CompileError α :=
  inspect sites >>= fun _ => .ok value

section Inspections

variable {α β : Type}

theorem inspect_nil : inspect [] = .ok () := rfl

theorem inspect_cons (site : Site) (sites : List Site) :
    inspect (site :: sites) = site.check >>= fun _ => inspect sites := rfl

/-- Inspecting two lists is inspecting the second once the first has passed. -/
theorem inspect_append (first second : List Site) :
    inspect (first ++ second) = inspect first >>= fun _ => inspect second :=
  List.forM_append

/-- Sites that do not offend may be left out at the end. -/
theorem inspect_append_of_ok {second : List Site} (innocent : inspect second = .ok ())
    (first : List Site) : inspect (first ++ second) = inspect first := by
  rw [inspect_append, innocent]
  cases inspect first <;> rfl

theorem inspect_cons_of_not_offends {site : Site} (innocent : ¬ site.Offends)
    (sites : List Site) : inspect (site :: sites) = inspect sites := by
  rw [inspect_cons, Site.check, if_neg innocent]
  rfl

theorem inspect_cons_of_offends {site : Site} (offends : site.Offends)
    (sites : List Site) : inspect (site :: sites) = .error site.report := by
  rw [inspect_cons, Site.check, if_pos offends]
  rfl

theorem vet_of_ok {sites : List Site} (innocent : inspect sites = .ok ()) (value : α) :
    vet sites value = .ok value := by
  rw [vet, innocent]
  rfl

theorem vet_congr {first second : List Site} (same : inspect first = inspect second)
    (value : α) : vet first value = vet second value := by
  rw [vet, same, ← vet]

theorem vet_append_of_ok {first : List Site} (innocent : inspect first = .ok ())
    (second : List Site) (value : α) : vet (first ++ second) value = vet second value := by
  rw [vet, inspect_append, innocent]
  rfl

theorem vet_bind_ok (sites : List Site) (value : α) (next : α → β) :
    (vet sites value >>= fun value => .ok (next value)) = vet sites (next value) := by
  unfold vet
  cases inspect sites <;> rfl

/-- Vetting twice is vetting against all sites in order. -/
theorem vet_bind_vet (first second : List Site) (value : α) (next : α → β) :
    (vet first value >>= fun value => vet second (next value)) =
      vet (first ++ second) (next value) := by
  unfold vet
  rw [inspect_append]
  cases inspect first <;> rfl

/-- An inspection passes exactly if no site offends. -/
theorem inspect_eq_ok_iff {sites : List Site} :
    inspect sites = .ok () ↔ ∀ site ∈ sites, ¬ site.Offends := by
  induction sites with
  | nil => simp [inspect_nil]
  | cons site sites ih =>
      rw [List.forall_mem_cons, ← ih]
      by_cases offends : site.Offends
      · simp [inspect_cons_of_offends offends, offends]
      · simp [inspect_cons_of_not_offends offends, offends]

/-- An inspection fails exactly with the report of the first site that offends. -/
theorem inspect_eq_error_iff {sites : List Site} {error : CompileError} :
    inspect sites = .error error ↔
      ∃ site, sites.find? (·.Offends) = some site ∧ error = site.report := by
  induction sites with
  | nil => simp [inspect_nil]
  | cons site sites ih =>
      by_cases offends : site.Offends
      · simp [inspect_cons_of_offends offends, offends, eq_comm]
      · simp [inspect_cons_of_not_offends offends, offends, ih]

end Inspections

namespace Node

theorem sitesAll_append (around : List Kind) (first second : List Node) :
    sitesAll around (first ++ second) = sitesAll around first ++ sitesAll around second := by
  induction first with
  | nil => rfl
  | cons node nodes ih =>
      rw [List.cons_append, sitesAll, sitesAll, ih, List.append_assoc]

theorem mem_sites_self (around : List Kind) (node : Node) : ⟨around, node⟩ ∈ node.sites around := by
  cases node <;> exact List.mem_cons_self

/-- Nothing offends in a list of nodes if nothing does in each of them. -/
theorem inspect_sitesAll_eq_ok_iff {around : List Kind} {nodes : List Node} :
    inspect (sitesAll around nodes) = .ok () ↔
      ∀ node ∈ nodes, inspect (node.sites around) = .ok () := by
  induction nodes with
  | nil => simp [sitesAll, inspect_nil]
  | cons node nodes ih =>
      rw [sitesAll, List.forall_mem_cons, ← ih]
      simp only [inspect_eq_ok_iff, List.forall_mem_append]

mutual

/-- Sites list the same nodes as occurrences do. -/
theorem map_node_sites (around : List Kind) (before : List Char) :
    (node : Node) →
      (node.sites around).map Site.node = (node.occurrences before).map Prod.snd
  | leaf .. => rfl
  | branch kind children start => by
      rw [sites, occurrences, List.map_cons, List.map_cons,
        map_node_sitesAll (kind :: around) (before ++ kind.openingMark) children]

theorem map_node_sitesAll (around : List Kind) (before : List Char) :
    (nodes : List Node) →
      (sitesAll around nodes).map Site.node = (occurrencesAll before nodes).map Prod.snd
  | [] => rfl
  | node :: nodes => by
      rw [sitesAll, occurrencesAll, List.map_append, List.map_append,
        map_node_sites around before node,
        map_node_sitesAll around (before ++ node.source) nodes]

end

end Node

end NestedStyles
