import RolePolicy.Proofs.Manifest.Kdl

/-!
# Children that are passed over

A node says more than the role that is read from it if it has children that the
filters of the reader do not pick: children of a trust that are no conditions,
and children of lists and conditions that are no items.  Of the children of a
trust, of a bundle and of its lists and conditions, no others are lost.
-/

namespace RolePolicy

open Kdl (Node Carry)

namespace Kdl.Node

/-- The children of other names, in order. -/
def besides (node : Node) (name : String) : List Node :=
  node.children.filter (·.name != name)

theorem length_named_add_length_besides (node : Node) (name : String) :
    (node.named name).length + (node.besides name).length =
      node.children.length :=
  (List.length_eq_length_filter_add _).symm

theorem length_flatMap_named_add_length_flatMap_besides (nodes : List Node)
    (name : String) :
    (nodes.flatMap (·.named name)).length +
        (nodes.flatMap (·.besides name)).length =
      (nodes.flatMap Node.children).length := by
  induction nodes with
  | nil => rfl
  | cons node nodes ih =>
      have hnode := node.length_named_add_length_besides name
      simp only [List.flatMap_cons, List.length_append]
      omega

end Kdl.Node

/-- A relation that follows item by item from properties of the first list. -/
theorem forall₂_iff_of_forall₂ {α β : Type} {R P : α → β → Prop}
    {Q : α → Prop} {l : List α} {m : List β} (h : List.Forall₂ R l m)
    (hiff : ∀ a b, R a b → (P a b ↔ Q a)) :
    List.Forall₂ P l m ↔ ∀ a ∈ l, Q a := by
  induction h with
  | nil => simp
  | cons hab _ ih =>
      rw [List.forall₂_cons, List.forall_mem_cons, ih, hiff _ _ hab]

/-! ## Parts of a role that keep all children -/

namespace ClauseSpec

/-- Each child of the condition, and its property, gives one value. -/
def KeepsChildren (c : ClauseSpec) (node : Node) : Prop :=
  c.values.length =
    (node.property? "value").toList.length + node.children.length

theorem IsWrittenBy.keepsChildren_iff {c : ClauseSpec} {node : Node}
    (h : c.IsWrittenBy node) :
    c.KeepsChildren node ↔ node.besides "-" = [] := by
  obtain ⟨inline, items, hvalue, hcarry, hvalues⟩ := h.values
  have hinline : (node.property? "value").toList.length =
      inline.toList.length := by
    rw [hvalue]
    cases inline <;> rfl
  have hitems := hcarry.length_eq
  have hchildren := node.length_named_add_length_besides "-"
  rw [KeepsChildren, hinline, hvalues, List.length_append,
    ← List.length_eq_zero_iff]
  omega

end ClauseSpec

namespace TrustSpec

/-- Each child of the trust is a clause of it, and is kept itself. -/
structure KeepsChildren (t : TrustSpec) (node : Node) : Prop where
  length : t.conditions.length = node.children.length
  conditions : List.Forall₂ (fun child c => c.KeepsChildren child)
    (node.named "condition") t.conditions

/-- The children of a trust and of its conditions that are passed over. -/
def skipped (node : Node) : List Node :=
  node.besides "condition" ++ (node.named "condition").flatMap (·.besides "-")

theorem IsWrittenBy.keepsChildren_iff {t : TrustSpec} {node : Node}
    (h : t.IsWrittenBy node) :
    t.KeepsChildren node ↔ skipped node = [] := by
  have hlength := h.conditions.length_eq
  have hchildren := node.length_named_add_length_besides "condition"
  have hconditions := forall₂_iff_of_forall₂ h.conditions
    fun _ _ hc => hc.keepsChildren_iff
  rw [skipped, List.append_eq_nil_iff, List.flatMap_eq_nil_iff, ← hconditions,
    ← List.length_eq_zero_iff]
  constructor
  · intro hkeeps
    have hcount := hkeeps.length
    exact ⟨by omega, hkeeps.conditions⟩
  · intro hnone
    exact ⟨by omega, hnone.2⟩

end TrustSpec

namespace BundleSpec

/-- Each child of a list of the bundle is an item of it, and each child of a
condition a value. -/
structure KeepsChildren (b : BundleSpec) (node : Node) : Prop where
  actions : b.actions.length =
    ((node.named "actions").flatMap Node.children).length
  resources : b.resources.length =
    ((node.named "resources").flatMap Node.children).length
  conditions : List.Forall₂ (fun child c => c.KeepsChildren child)
    (node.named "condition") b.conditions

/-- The children of the lists and of the conditions of a bundle that are passed
over. -/
def skipped (node : Node) : List Node :=
  (node.named "actions").flatMap (·.besides "-") ++
    (node.named "resources").flatMap (·.besides "-") ++
      (node.named "condition").flatMap (·.besides "-")

theorem length_eq_iff_of_carry {name : String} {node : Node}
    {items : List String} (h : Carry (itemsOf name node.children) items) :
    items.length = ((node.named name).flatMap Node.children).length ↔
      (node.named name).flatMap (·.besides "-") = [] := by
  have hitems : items.length =
      ((node.named name).flatMap (·.named "-")).length := h.length_eq
  have hchildren := Kdl.Node.length_flatMap_named_add_length_flatMap_besides
    (node.named name) "-"
  rw [← List.length_eq_zero_iff]
  omega

theorem IsWrittenBy.keepsChildren_iff {b : BundleSpec} {node : Node}
    (h : b.IsWrittenBy node) :
    b.KeepsChildren node ↔ skipped node = [] := by
  have hconditions := forall₂_iff_of_forall₂ h.conditions
    fun _ _ hc => hc.keepsChildren_iff
  rw [skipped, List.append_eq_nil_iff, List.append_eq_nil_iff,
    ← length_eq_iff_of_carry h.actions, ← length_eq_iff_of_carry h.resources,
    List.flatMap_eq_nil_iff, ← hconditions]
  constructor
  · intro hkeeps
    exact ⟨⟨hkeeps.actions, hkeeps.resources⟩, hkeeps.conditions⟩
  · intro hnone
    exact ⟨hnone.1.1, hnone.1.2, hnone.2⟩

end BundleSpec

namespace RoleSpec

/-- The children of the trust and of the bundles of the role are kept. -/
structure KeepsChildren (r : RoleSpec) (node : Node) : Prop where
  trust : List.Forall₂ (fun child t => t.KeepsChildren child)
    (node.named "trust") [r.trust]
  bundles : List.Forall₂ (fun child b => b.KeepsChildren child)
    (node.named "bundle") r.bundles

/-- The nodes below the trust and the bundles of a role that are passed over. -/
def skipped (node : Node) : List Node :=
  (node.named "trust").flatMap TrustSpec.skipped ++
    (node.named "bundle").flatMap BundleSpec.skipped

/-- A role that is read is the one that the node writes, and all children below
it are kept exactly if the node has none of those that are passed over: children
of the trust that are no conditions, and children of lists and conditions that
are no items. -/
theorem ofNode_keepsChildren_iff {node : Node} {r : RoleSpec}
    (h : ofNode node = .ok r) :
    r.IsWrittenBy node ∧ (r.KeepsChildren node ↔ skipped node = []) := by
  have hwritten := ofNode_eq_ok_iff.mp h
  refine ⟨hwritten, ?_⟩
  have htrust := forall₂_iff_of_forall₂ hwritten.trust
    fun _ _ ht => ht.keepsChildren_iff
  have hbundles := forall₂_iff_of_forall₂ hwritten.bundles
    fun _ _ hb => hb.keepsChildren_iff
  rw [skipped, List.append_eq_nil_iff, List.flatMap_eq_nil_iff,
    List.flatMap_eq_nil_iff, ← htrust, ← hbundles]
  constructor
  · intro hkeeps
    exact ⟨hkeeps.trust, hkeeps.bundles⟩
  · intro hkeeps
    exact ⟨hkeeps.1, hkeeps.2⟩

/-- The child of the runner's trust, under some name. -/
def sourceAccountNode (name : String) : Node :=
  .mk name
    [.argument "StringEquals", .property "key" "aws:SourceAccount",
      .property "value" "123456789012"] none

/-- A role whose trust has one child, of some name. -/
def runnerNode (name : String) : Node :=
  .mk "role" [.argument "Runner", .property "kind" "operational"]
    (some
      [.mk "trust" [.argument "datazone.amazonaws.com"]
        (some [sourceAccountNode name])])

/-- The runner, with the clauses of its trust. -/
def runner (conditions : List ClauseSpec) : RoleSpec where
  name := "Runner"
  kind := .operational
  trust := { principal := "datazone.amazonaws.com", conditions }
  permissionBoundary := none
  bundles := []

/-- A runner whose trust pins the account keeps the child that says so. -/
theorem runner_keepsChildren_iff :
    let pinned : ClauseSpec :=
      { operator := "StringEquals"
        key := "aws:SourceAccount"
        values := ["123456789012"] }
    ofNode (runnerNode "condition") = .ok (runner [pinned]) ∧
      (runner [pinned]).IsWrittenBy (runnerNode "condition") ∧
        ((runner [pinned]).KeepsChildren (runnerNode "condition") ↔
          skipped (runnerNode "condition") = []) ∧
        (runner [pinned]).KeepsChildren (runnerNode "condition") := by
  intro pinned
  have hread : ofNode (runnerNode "condition") = .ok (runner [pinned]) := by
    decide +kernel
  obtain ⟨hwritten, hkeeps⟩ := ofNode_keepsChildren_iff hread
  exact ⟨hread, hwritten, hkeeps, hkeeps.mpr rfl⟩

/-- A runner whose condition is misspelt is read as one without conditions. -/
theorem runner_loses_child :
    ∃ trust, ofNode (runnerNode "conditions") = .ok (runner []) ∧
      (runnerNode "conditions").named "trust" = [trust] ∧
      trust.children = [sourceAccountNode "conditions"] ∧
      (runner []).trust.conditions = [] :=
  ⟨_, by decide +kernel, rfl, rfl, rfl⟩

end RoleSpec

end RolePolicy
