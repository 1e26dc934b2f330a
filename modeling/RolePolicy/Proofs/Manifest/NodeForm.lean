import RolePolicy.Proofs.Manifest.Documents
import RolePolicy.Proofs.Manifest.JsonForm
import RolePolicy.Proofs.Manifest.Kdl

/-!
# Manifests written as nodes

Every part of a manifest is written by its node.  A written node has children
of few names, so the children of one name are those of one part of the record,
and each of them writes one item of this part.  A catalog is read back because
adding its services one by one to the empty catalog rebuilds it.
-/

namespace RolePolicy

open Kdl (Node Carry withName withName_cons_of_eq withName_cons_of_ne)

/-! ## Children that are written alike -/

namespace Kdl

theorem withName_of_forall_eq {name : String} {nodes : List Node}
    (h : ∀ node ∈ nodes, node.name = name) : withName name nodes = nodes :=
  List.filter_eq_self.mpr fun node hnode => beq_iff_eq.mpr (h node hnode)

theorem withName_of_forall_ne {name : String} {nodes : List Node}
    (h : ∀ node ∈ nodes, node.name ≠ name) : withName name nodes = [] :=
  List.filter_eq_nil_iff.mpr fun node hnode heq =>
    h node hnode (beq_iff_eq.mp heq)

theorem withName_append (name : String) (nodes nodes' : List Node) :
    withName name (nodes ++ nodes') =
      withName name nodes ++ withName name nodes' :=
  List.filter_append nodes nodes'

theorem carry_map {write : String → Node}
    (h : ∀ text, (write text).firstArgument? = some text)
    (texts : List String) : Carry (texts.map write) texts := by
  rw [Carry, List.map_map]
  exact List.map_congr_left fun text _ => h text

/-- A child that stands for one text of a list. -/
def itemNode (text : String) : Node :=
  .mk "-" [.argument text] none

/-- The items of a written list carry its texts. -/
theorem carry_items (name : String) (entries : List Entry)
    (texts : List String) :
    Carry ((Node.mk name entries (some (texts.map itemNode))).named "-")
      texts := by
  have hitems : withName "-" (texts.map itemNode) = texts.map itemNode :=
    withName_of_forall_eq (List.forall_mem_map.mpr fun _ _ => rfl)
  rw [Node.named, Node.children, Option.getD_some, hitems]
  exact carry_map (fun _ => rfl) texts

end Kdl

open Kdl (withName_of_forall_eq withName_of_forall_ne withName_append carry_map
  carry_items)

/-! ## Clauses, trust and bundles -/

namespace ClauseSpec

theorem isWrittenBy_toNode (c : ClauseSpec) : c.IsWrittenBy c.toNode :=
  ⟨rfl, rfl, none, c.values, rfl, carry_items _ _ c.values, rfl⟩

/-- The nodes of the clauses are all named alike. -/
theorem withName_toNode (clauses : List ClauseSpec) :
    withName "condition" (clauses.map toNode) = clauses.map toNode :=
  withName_of_forall_eq (List.forall_mem_map.mpr fun _ _ => rfl)

theorem forall₂_toNode (clauses : List ClauseSpec) :
    List.Forall₂ (fun child c => IsWrittenBy c child) (clauses.map toNode)
      clauses := by
  rw [List.forall₂_map_left_iff, List.forall₂_same]
  exact fun c _ => c.isWrittenBy_toNode

end ClauseSpec

namespace TrustSpec

theorem isWrittenBy_toNode (t : TrustSpec) : t.IsWrittenBy t.toNode := by
  have hnamed : t.toNode.named "condition" =
      t.conditions.map ClauseSpec.toNode :=
    ClauseSpec.withName_toNode t.conditions
  refine ⟨rfl, ?_⟩
  rw [hnamed]
  exact ClauseSpec.forall₂_toNode t.conditions

end TrustSpec

namespace BundleSpec

theorem children_toNode (b : BundleSpec) :
    b.toNode.children = listNode "actions" b.actions ::
      listNode "resources" b.resources :: b.conditions.map ClauseSpec.toNode :=
  rfl

@[simp] theorem name_listNode (name : String) (texts : List String) :
    (listNode name texts).name = name :=
  rfl

theorem itemsOf_conditions {name : String} (h : "condition" ≠ name)
    (clauses : List ClauseSpec) :
    itemsOf name (clauses.map ClauseSpec.toNode) = [] := by
  have hnone : withName name (clauses.map ClauseSpec.toNode) = [] :=
    withName_of_forall_ne (List.forall_mem_map.mpr fun _ _ => h)
  rw [itemsOf, hnone, List.flatMap_nil]

theorem firstArgument?_toNode (b : BundleSpec) :
    b.toNode.firstArgument? = b.sid := by
  obtain ⟨sid, effect, actions, resources, conditions⟩ := b
  cases sid <;> rfl

theorem stringProperty?_toNode (b : BundleSpec) :
    b.toNode.stringProperty? "effect" = some b.effect := by
  obtain ⟨sid, effect, actions, resources, conditions⟩ := b
  cases sid <;> rfl

theorem isWrittenBy_toNode (b : BundleSpec) : b.IsWrittenBy b.toNode where
  sid := b.firstArgument?_toNode.symm
  effect := by rw [stringProperty?_toNode, Option.getD_some]
  known := by
    intro child hchild
    rw [children_toNode, List.mem_cons, List.mem_cons, List.mem_map] at hchild
    rcases hchild with rfl | rfl | ⟨c, -, rfl⟩
    · exact mem_childNames_iff.mpr (Or.inl rfl)
    · exact mem_childNames_iff.mpr (Or.inr (Or.inl rfl))
    · exact mem_childNames_iff.mpr (Or.inr (Or.inr rfl))
  actions := by
    rw [children_toNode, itemsOf_cons_of_eq (name_listNode _ _),
      itemsOf_cons_of_ne (by simp), itemsOf_conditions (by simp),
      List.append_nil]
    exact carry_items _ _ b.actions
  resources := by
    rw [children_toNode, itemsOf_cons_of_ne (by simp),
      itemsOf_cons_of_eq (name_listNode _ _), itemsOf_conditions (by simp),
      List.append_nil]
    exact carry_items _ _ b.resources
  conditions := by
    rw [Node.named, children_toNode, withName_cons_of_ne (by simp),
      withName_cons_of_ne (by simp), ClauseSpec.withName_toNode]
    exact ClauseSpec.forall₂_toNode b.conditions

end BundleSpec

/-! ## Roles -/

namespace RoleSpec

/-- The child of a role that names its boundary. -/
def boundaryNode (policy : String) : Node :=
  .mk "permission-boundary" [.argument policy] none

theorem children_toNode (r : RoleSpec) :
    r.toNode.children = r.trust.toNode ::
      (r.permissionBoundary.toList.map boundaryNode ++
        r.bundles.map BundleSpec.toNode) := by
  rw [← Option.toList_map]
  rfl

theorem name_boundaryNodes (policies : List String) :
    ∀ node ∈ policies.map boundaryNode, node.name = "permission-boundary" :=
  List.forall_mem_map.mpr fun _ _ => rfl

theorem name_bundleNodes (bundles : List BundleSpec) :
    ∀ node ∈ bundles.map BundleSpec.toNode, node.name = "bundle" :=
  List.forall_mem_map.mpr fun _ _ => rfl

theorem known_toNode (r : RoleSpec) :
    ∀ child ∈ r.toNode.children, child.name ∈ childNames := by
  intro child hchild
  rw [children_toNode, List.mem_cons, List.mem_append] at hchild
  apply mem_childNames_iff.mpr
  rcases hchild with rfl | hboundary | hbundle
  · exact Or.inl rfl
  · exact Or.inr (Or.inl (name_boundaryNodes _ child hboundary))
  · exact Or.inr (Or.inr (name_bundleNodes _ child hbundle))

/-- The children of a written role, name by name. -/
theorem named_toNode (r : RoleSpec) :
    r.toNode.named "trust" = [r.trust.toNode] ∧
    r.toNode.named "permission-boundary" =
      r.permissionBoundary.toList.map boundaryNode ∧
    r.toNode.named "bundle" = r.bundles.map BundleSpec.toNode := by
  have htrust : r.trust.toNode.name = "trust" := rfl
  have hboundary := name_boundaryNodes r.permissionBoundary.toList
  have hbundles := name_bundleNodes r.bundles
  simp only [Node.named, children_toNode]
  refine ⟨?_, ?_, ?_⟩
  · rw [withName_cons_of_eq htrust, withName_append,
      withName_of_forall_ne fun node hnode => by simp [hboundary node hnode],
      withName_of_forall_ne fun node hnode => by simp [hbundles node hnode],
      List.append_nil]
  · rw [withName_cons_of_ne (by simp [htrust]), withName_append,
      withName_of_forall_eq hboundary,
      withName_of_forall_ne fun node hnode => by simp [hbundles node hnode],
      List.append_nil]
  · rw [withName_cons_of_ne (by simp [htrust]), withName_append,
      withName_of_forall_ne fun node hnode => by simp [hboundary node hnode],
      withName_of_forall_eq hbundles, List.nil_append]

theorem isWrittenBy_toNode (r : RoleSpec) : r.IsWrittenBy r.toNode := by
  obtain ⟨htrust, hboundary, hbundles⟩ := r.named_toNode
  refine ⟨rfl, ⟨r.kind.text, rfl, r.kind.ofText?_text⟩, r.known_toNode, ?_, ?_,
    ?_⟩
  · rw [htrust]
    exact .cons r.trust.isWrittenBy_toNode .nil
  · rw [hboundary]
    exact carry_map (fun _ => rfl) r.permissionBoundary.toList
  · rw [hbundles, List.forall₂_map_left_iff, List.forall₂_same]
    exact fun b _ => b.isWrittenBy_toNode

end RoleSpec

/-! ## Documents -/

namespace Manifest

/-- The child of a catalog that lists the verbs of a service. -/
def serviceNode (service : String × List String) : Node :=
  .mk "service" [.argument service.1] (some (service.2.map Kdl.itemNode))

theorem addService_serviceNode (catalog : SortedMap String (List String))
    (service : String × List String) :
    addService catalog (serviceNode service) =
      .ok (addVerbs catalog service.1 service.2) := by
  have hverbs : listItems .service (serviceNode service) = .ok service.2 :=
    listItems_eq_ok_iff.mpr (carry_items _ _ service.2)
  have hname : (serviceNode service).name = "service" := rfl
  have hargument : (serviceNode service).firstArgument? = some service.1 := rfl
  rw [addService, if_pos hname, hargument]
  simp only [hverbs]
  rfl

/-- Services are added one by one. -/
theorem foldlM_addService (services : List (String × List String))
    (catalog : SortedMap String (List String)) :
    (services.map serviceNode).foldlM addService catalog =
      .ok (services.foldl (fun c e => addVerbs c e.1 e.2) catalog) := by
  induction services generalizing catalog with
  | nil => rfl
  | cons service services ih =>
      rw [List.map_cons, List.foldlM_cons, addService_serviceNode,
        List.foldl_cons]
      exact ih _

theorem ofNodes_singleton (node : Node) :
    ofNodes [node] = empty.addNode node := by
  rw [ofNodes, List.foldlM_cons]
  cases empty.addNode node with
  | error e => rfl
  | ok m => rfl

theorem ofNodes_catalogNode (catalog : SortedMap String (List String)) :
    ofNodes [catalogNode catalog] = .ok ⟨catalog, []⟩ := by
  have hservices : (catalogNode catalog).children.foldlM addService ∅ =
      .ok catalog := by
    have hadded := foldlM_addService catalog.entries ∅
    rwa [← appendVerbs, empty_appendVerbs] at hadded
  have hname : (catalogNode catalog).name = "catalog" := rfl
  rw [ofNodes_singleton, addNode, if_pos hname]
  exact bind_eq_ok_iff.mpr ⟨catalog, hservices, rfl⟩

theorem ofNodes_roleNode (r : RoleSpec) :
    ofNodes [r.toNode] = .ok ⟨∅, [r]⟩ := by
  have hrole : RoleSpec.ofNode r.toNode = .ok r :=
    RoleSpec.ofNode_eq_ok_iff.mpr r.isWrittenBy_toNode
  have hname : r.toNode.name = "role" := rfl
  have hcatalog : r.toNode.name ≠ "catalog" := by simp [hname]
  rw [ofNodes_singleton, addNode, if_neg hcatalog, if_pos hname, hrole]
  rfl

theorem ofNodes_roleNodes (roles : List RoleSpec) :
    ofNodes (roles.map RoleSpec.toNode) = .ok ⟨∅, roles⟩ := by
  induction roles with
  | nil => rfl
  | cons r roles ih =>
      rw [List.map_cons, ofNodes_cons, ofNodes_roleNode, ih]
      rfl

theorem ofNodes_toNodes (m : Manifest) : ofNodes m.toNodes = .ok m := by
  rw [toNodes, ofNodes_cons, ofNodes_catalogNode, ofNodes_roleNodes]
  rfl

/-- Nodes can express every manifest, and so the same manifests as JSON. -/
theorem ofNodes_expresses_every_manifest :
    (∀ m : Manifest, ofNodes m.toNodes = .ok m) ∧
    ∀ m : Manifest, (∃ nodes, ofNodes nodes = .ok m) ↔
      ∃ text, ofJsonText text = .ok m := by
  refine ⟨ofNodes_toNodes, ?_⟩
  intro m
  constructor
  · intro _
    exact ⟨_, m.ofJsonText_print .line⟩
  · intro _
    exact ⟨m.toNodes, m.ofNodes_toNodes⟩

end Manifest

end RolePolicy
