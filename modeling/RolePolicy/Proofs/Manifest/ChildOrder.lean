import Mathlib.Logic.Relation
import RolePolicy.Proofs.Manifest.NodeForm

/-!
# The order of children

A role is read from the children of each name by themselves.  Children of
different names can therefore change places, and a list of a bundle can be given
in parts.  One such edit of a node leaves what is read from it as it is, and so
does any number of them.
-/

namespace RolePolicy

open Kdl (Node withName withName_append withName_of_forall_eq
  withName_of_forall_ne withName_cons_of_eq withName_cons_of_ne)

/-- Items that are related to the same ones can take the place of each other. -/
theorem forall₂_replace_iff {α β : Type} {R : α → β → Prop} {a a' : α}
    (h : ∀ b, R a' b ↔ R a b) {front back : List α} {l : List β} :
    List.Forall₂ R (front ++ a' :: back) l ↔
      List.Forall₂ R (front ++ a :: back) l := by
  induction front generalizing l with
  | nil => simp only [List.nil_append, List.forall₂_cons_left_iff, h]
  | cons a front ih => simp only [List.cons_append, List.forall₂_cons_left_iff, ih]

/-! ## Rearranged children -/

namespace Kdl

/-- The second list has the nodes of the first one in an order in which those of
one name follow one another as before. -/
structure Rearranges (nodes nodes' : List Node) : Prop where
  perm : nodes'.Perm nodes
  order : ∀ name, withName name nodes' = withName name nodes

/-- Two neighbours of different names can change places. -/
theorem Rearranges.swap {node node' : Node} (h : node.name ≠ node'.name)
    (front back : List Node) :
    Rearranges (front ++ node :: node' :: back)
      (front ++ node' :: node :: back) where
  perm := (List.Perm.swap node node' back).append_left front
  order := by
    intro name
    rw [withName_append, withName_append]
    congr 1
    by_cases hname : node.name = name
    · have hname' : node'.name ≠ name := fun heq => h (hname.trans heq.symm)
      rw [withName_cons_of_ne hname', withName_cons_of_eq hname,
        withName_cons_of_eq hname, withName_cons_of_ne hname']
    · by_cases hname' : node'.name = name
      · rw [withName_cons_of_eq hname', withName_cons_of_ne hname,
          withName_cons_of_ne hname, withName_cons_of_eq hname']
      · rw [withName_cons_of_ne hname', withName_cons_of_ne hname,
          withName_cons_of_ne hname, withName_cons_of_ne hname']

theorem Rearranges.forall_mem_iff {nodes nodes' : List Node}
    (h : Rearranges nodes nodes') {P : Node → Prop} :
    (∀ node ∈ nodes', P node) ↔ ∀ node ∈ nodes, P node :=
  ⟨fun hall node hnode => hall node (h.perm.mem_iff.mpr hnode),
    fun hall node hnode => hall node (h.perm.mem_iff.mp hnode)⟩

namespace Node

/-- The node with other children. -/
def withChildren (node : Node) (children : List Node) : Node :=
  .mk node.name node.entries (some children)

variable (node : Node) (children : List Node)

@[simp] theorem name_withChildren : (node.withChildren children).name = node.name :=
  rfl

@[simp] theorem children_withChildren :
    (node.withChildren children).children = children :=
  rfl

end Node

end Kdl

open Kdl (Rearranges)

/-! ## Edits of bundles -/

namespace BundleSpec

/-- An edit of the node of a bundle: its children change their order, or one of
its lists is given in parts. -/
inductive Edit (node : Node) : Node → Prop where
  | rearrange {children : List Node} (h : Rearranges node.children children) :
      Edit node (node.withChildren children)
  | split {front back parts : List Node} {list : Node}
      (hchildren : node.children = front ++ list :: back)
      (hlist : list.name = "actions" ∨ list.name = "resources")
      (hparts : ∀ part ∈ parts, part.name = list.name)
      (hitems : parts.flatMap (·.named "-") = list.named "-") :
      Edit node (node.withChildren (front ++ (parts ++ back)))

theorem itemsOf_append (name : String) (children children' : List Node) :
    itemsOf name (children ++ children') =
      itemsOf name children ++ itemsOf name children' := by
  rw [itemsOf, withName_append, List.flatMap_append]
  rfl

/-- The parts of a list have its items. -/
theorem itemsOf_parts {parts : List Node} {list : Node}
    (hparts : ∀ part ∈ parts, part.name = list.name)
    (hitems : parts.flatMap (·.named "-") = list.named "-") (name : String) :
    itemsOf name parts = itemsOf name [list] := by
  by_cases hname : list.name = name
  · have hnamed : ∀ part ∈ parts, part.name = name :=
      fun part hpart => (hparts part hpart).trans hname
    rw [itemsOf, withName_of_forall_eq hnamed, hitems,
      itemsOf_cons_of_eq hname]
    exact (List.append_nil _).symm
  · have hnamed : ∀ part ∈ parts, part.name ≠ name :=
      fun part hpart heq => hname ((hparts part hpart).symm.trans heq)
    rw [itemsOf, withName_of_forall_ne hnamed, itemsOf_cons_of_ne hname]
    rfl

theorem isWrittenBy_withChildren_iff {b : BundleSpec} {node : Node}
    {children : List Node}
    (hknown : (∀ child ∈ children, child.name ∈ childNames) ↔
      ∀ child ∈ node.children, child.name ∈ childNames)
    (hitems : ∀ name, itemsOf name children = itemsOf name node.children)
    (hconditions : withName "condition" children = node.named "condition") :
    b.IsWrittenBy (node.withChildren children) ↔ b.IsWrittenBy node := by
  constructor
  · intro h
    refine ⟨h.sid, h.effect, hknown.mp h.known, ?_, ?_, ?_⟩
    · rw [← hitems]
      exact h.actions
    · rw [← hitems]
      exact h.resources
    · rw [← hconditions]
      exact h.conditions
  · intro h
    refine ⟨h.sid, h.effect, hknown.mpr h.known, ?_, ?_, ?_⟩
    · rw [Node.children_withChildren, hitems]
      exact h.actions
    · rw [Node.children_withChildren, hitems]
      exact h.resources
    · rw [Node.named, Node.children_withChildren, hconditions]
      exact h.conditions

/-- An edit leaves the bundle as it is. -/
theorem Edit.isWrittenBy_iff {b : BundleSpec} {node node' : Node}
    (h : Edit node node') : b.IsWrittenBy node' ↔ b.IsWrittenBy node := by
  cases h with
  | rearrange h =>
      apply isWrittenBy_withChildren_iff h.forall_mem_iff
      · intro name
        rw [itemsOf, itemsOf, h.order]
      · exact h.order "condition"
  | @split front back parts list hchildren hlist hparts hitems =>
      have hcondition : list.name ≠ "condition" := by
        rcases hlist with hlist | hlist <;> simp [hlist]
      have hknown : list.name ∈ childNames := by
        rcases hlist with hlist | hlist <;> simp [hlist, childNames]
      have hpartsKnown : ∀ part ∈ parts, part.name ∈ childNames := by
        intro part hpart
        rw [hparts part hpart]
        exact hknown
      apply isWrittenBy_withChildren_iff
      · rw [hchildren]
        simp only [List.forall_mem_append, List.forall_mem_cons, hknown,
          true_and, and_iff_right hpartsKnown]
      · intro name
        rw [hchildren, itemsOf_append, itemsOf_append,
          itemsOf_parts hparts hitems, ← itemsOf_append, ← itemsOf_append]
        rfl
      · have hnone : withName "condition" parts = [] :=
          withName_of_forall_ne fun part hpart heq =>
            hcondition ((hparts part hpart).symm.trans heq)
        rw [Node.named, hchildren, withName_append, withName_append, hnone,
          withName_append, withName_cons_of_ne hcondition]
        rfl

theorem Edit.name_eq {node node' : Node} (h : Edit node node') :
    node'.name = node.name := by
  cases h with
  | rearrange => exact node.name_withChildren _
  | split => exact node.name_withChildren _

/-- Edited bundles, after any number of edits. -/
abbrev Edits : Node → Node → Prop :=
  Relation.ReflTransGen Edit

theorem Edits.isWrittenBy_iff {b : BundleSpec} {node node' : Node}
    (h : Edits node node') : b.IsWrittenBy node' ↔ b.IsWrittenBy node := by
  induction h with
  | refl => exact Iff.rfl
  | tail _ hedit ih => exact hedit.isWrittenBy_iff.trans ih

theorem Edits.name_eq {node node' : Node} (h : Edits node node') :
    node'.name = node.name := by
  induction h with
  | refl => rfl
  | tail _ hedit ih => exact hedit.name_eq.trans ih

end BundleSpec

/-! ## Edits of roles -/

namespace RoleSpec

open BundleSpec (listNode)

/-- An edit of the node of a role: its children change their order, or one of
its bundles is edited. -/
inductive Edit (node : Node) : Node → Prop where
  | rearrange {children : List Node} (h : Rearranges node.children children) :
      Edit node (node.withChildren children)
  | bundle {front back : List Node} {bundle bundle' : Node}
      (hchildren : node.children = front ++ bundle :: back)
      (hname : bundle.name = "bundle") (h : BundleSpec.Edits bundle bundle') :
      Edit node (node.withChildren (front ++ bundle' :: back))

theorem isWrittenBy_withChildren_iff {r : RoleSpec} {node : Node}
    {children : List Node}
    (hknown : (∀ child ∈ children, child.name ∈ childNames) ↔
      ∀ child ∈ node.children, child.name ∈ childNames)
    (hothers : ∀ name, name ≠ "bundle" →
      withName name children = node.named name)
    (hbundles :
      List.Forall₂ (fun child b => BundleSpec.IsWrittenBy b child)
          (withName "bundle" children) r.bundles ↔
        List.Forall₂ (fun child b => BundleSpec.IsWrittenBy b child)
          (node.named "bundle") r.bundles) :
    r.IsWrittenBy (node.withChildren children) ↔ r.IsWrittenBy node := by
  have htrust := hothers "trust" (by decide)
  have hboundary := hothers "permission-boundary" (by decide)
  constructor
  · intro h
    refine ⟨h.name, h.kind, hknown.mp h.known, ?_, ?_, hbundles.mp h.bundles⟩
    · rw [← htrust]
      exact h.trust
    · rw [← hboundary]
      exact h.boundary
  · intro h
    refine ⟨h.name, h.kind, hknown.mpr h.known, ?_, ?_, hbundles.mpr h.bundles⟩
    · rw [Node.named, Node.children_withChildren, htrust]
      exact h.trust
    · rw [Node.named, Node.children_withChildren, hboundary]
      exact h.boundary

/-- An edit leaves the role as it is. -/
theorem Edit.isWrittenBy_iff {r : RoleSpec} {node node' : Node}
    (h : Edit node node') : r.IsWrittenBy node' ↔ r.IsWrittenBy node := by
  cases h with
  | rearrange h =>
      apply isWrittenBy_withChildren_iff h.forall_mem_iff
      · exact fun name _ => h.order name
      · rw [h.order]
        rfl
  | @bundle front back bundle bundle' hchildren hname h =>
      have hname' : bundle'.name = "bundle" := h.name_eq.trans hname
      apply isWrittenBy_withChildren_iff
      · rw [hchildren]
        simp only [List.forall_mem_append, List.forall_mem_cons, h.name_eq]
      · intro name hother
        rw [Node.named, hchildren, withName_append, withName_append,
          withName_cons_of_ne (by rw [hname']; exact hother.symm),
          withName_cons_of_ne (by rw [hname]; exact hother.symm)]
      · rw [Node.named, hchildren, withName_append, withName_append,
          withName_cons_of_eq hname', withName_cons_of_eq hname]
        exact forall₂_replace_iff fun b => h.isWrittenBy_iff

/-- Edited roles, after any number of edits. -/
abbrev Edits : Node → Node → Prop :=
  Relation.ReflTransGen Edit

/-- Rearranging the children of a role and of its bundles, and splitting the
lists of the bundles, changes nothing in the role that is read, and nothing in
whether one is read. -/
theorem ofNode_eq_ok_iff_of_edits {node node' : Node} (h : Edits node node')
    (r : RoleSpec) : ofNode node' = .ok r ↔ ofNode node = .ok r := by
  rw [RoleSpec.ofNode_eq_ok_iff, RoleSpec.ofNode_eq_ok_iff]
  induction h with
  | refl => exact Iff.rfl
  | tail _ hedit ih => exact hedit.isWrittenBy_iff.trans ih

/-- A `bundle` node with the children. -/
def bundleNode (children : List Node) : Node :=
  .mk "bundle" [.argument "Read"] (some children)

/-- The node of an operational role with the children. -/
def readerNode (children : List Node) : Node :=
  .mk "role" [.argument "Reader", .property "kind" "operational"]
    (some children)

/-- The role, with one bundle. -/
def reader : RoleSpec where
  name := "Reader"
  kind := .operational
  trust := { principal := "glue.amazonaws.com", conditions := [] }
  permissionBoundary := none
  bundles :=
    [{ sid := some "Read"
       effect := BundleSpec.defaultEffect
       actions := ["s3:GetObject", "s3:ListBucket"]
       resources := ["arn:aws:s3:::logs"]
       conditions :=
        [{ operator := "Null", key := "aws:userid", values := ["true"] }] }]

/-- The bundle is written before the trust, its actions apart, and its condition
before its resources. -/
theorem reader_ofNode_of_edits :
    let trust := Node.mk "trust" [.argument "glue.amazonaws.com"] none
    let condition := Node.mk "condition"
      [.argument "Null", .property "key" "aws:userid", .property "value" "true"]
      none
    let resources := listNode "resources" ["arn:aws:s3:::logs"]
    let actions := listNode "actions" ["s3:GetObject", "s3:ListBucket"]
    let get := listNode "actions" ["s3:GetObject"]
    let list := listNode "actions" ["s3:ListBucket"]
    let node := readerNode [trust, bundleNode [actions, resources, condition]]
    let node' := readerNode
      [bundleNode [get, list, condition, resources], trust]
    Edits node node' ∧ ofNode node = .ok reader ∧
      ofNode node' = .ok reader := by
  intro trust condition resources actions get list node node'
  let bundle := bundleNode [actions, resources, condition]
  let bundle' := bundleNode [get, list, condition, resources]
  have hparts : ∀ part ∈ [get, list], part.name = actions.name := by
    intro part hpart
    rcases List.mem_pair.mp hpart with rfl | rfl <;> rfl
  have hchildren : bundle.children = [] ++ actions :: [resources, condition] :=
    rfl
  have hsplit : BundleSpec.Edit bundle
      (bundleNode [get, list, resources, condition]) :=
    .split hchildren (.inl rfl) hparts rfl
  have hswap : BundleSpec.Edit (bundleNode [get, list, resources, condition])
      bundle' :=
    .rearrange (.swap (by decide) [get, list] [])
  have hbundle : Edit node (readerNode [trust, bundle']) :=
    .bundle (show node.children = [trust] ++ bundle :: [] from rfl) rfl
      ((Relation.ReflTransGen.single hsplit).tail hswap)
  have hrole : Edit (readerNode [trust, bundle']) node' :=
    .rearrange (.swap (by decide) [] [])
  have hedits : Edits node node' :=
    (Relation.ReflTransGen.single hbundle).tail hrole
  have hread : ofNode node = .ok reader := by
    decide +kernel
  exact ⟨hedits, hread, (ofNode_eq_ok_iff_of_edits hedits reader).mpr hread⟩

end RoleSpec

end RolePolicy
