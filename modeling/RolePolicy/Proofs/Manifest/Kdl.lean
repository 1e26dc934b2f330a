import RolePolicy.Manifest.Kdl
import RolePolicy.Proofs.FirstDefect

/-!
# Roles written as nodes

Reading a `role` node is a relation between nodes and roles as written: every
part of a role comes from the children of one name, in their order.  A child of
a role or of a bundle that has another name is refused, while the children of a
trust and of a list are picked by name.
-/

namespace RolePolicy

open Kdl (Node)

/-! ## Nodes of one name -/

namespace Kdl

/-- The nodes of one name, in order. -/
def withName (name : String) (nodes : List Node) : List Node :=
  nodes.filter (·.name == name)

@[simp] theorem withName_nil (name : String) : withName name [] = [] :=
  rfl

theorem withName_cons_of_eq {name : String} {node : Node} {nodes : List Node}
    (h : node.name = name) :
    withName name (node :: nodes) = node :: withName name nodes := by
  simp [withName, h]

theorem withName_cons_of_ne {name : String} {node : Node} {nodes : List Node}
    (h : node.name ≠ name) :
    withName name (node :: nodes) = withName name nodes := by
  simp [withName, h]

namespace Node

/-- The children of one name, in order. -/
def named (node : Node) (name : String) : List Node :=
  withName name node.children

end Node

/-- The nodes carry the texts, each of them one. -/
def Carry (nodes : List Node) (texts : List String) : Prop :=
  nodes.map Node.firstArgument? = texts.map some

theorem Carry.length_eq {nodes : List Node} {texts : List String}
    (h : Carry nodes texts) : texts.length = nodes.length := by
  have hlength := congrArg List.length h
  rw [List.length_map, List.length_map] at hlength
  exact hlength.symm

@[simp] theorem carry_nil_iff {texts : List String} :
    Carry [] texts ↔ texts = [] := by
  rw [Carry, List.map_nil, eq_comm, List.map_eq_nil_iff]

theorem carry_cons_iff {node : Node} {nodes : List Node}
    {texts : List String} :
    Carry (node :: nodes) texts ↔
      ∃ text rest, texts = text :: rest ∧ node.firstArgument? = some text ∧
        Carry nodes rest := by
  constructor
  · intro h
    obtain ⟨text, rest, rfl, htext, hrest⟩ := List.map_eq_cons_iff.mp h.symm
    exact ⟨text, rest, rfl, htext.symm, hrest.symm⟩
  · intro h
    obtain ⟨text, rest, rfl, htext, hrest⟩ := h
    rw [Carry, List.map_cons, List.map_cons, htext, hrest]

theorem carry_append_iff {nodes nodes' : List Node} {texts : List String} :
    Carry (nodes ++ nodes') texts ↔
      ∃ front back, texts = front ++ back ∧ Carry nodes front ∧
        Carry nodes' back := by
  rw [Carry, List.map_append, eq_comm, List.map_eq_append_iff]
  simp only [Carry, eq_comm]

end Kdl

open Kdl (withName Carry carry_nil_iff carry_cons_iff carry_append_iff
  withName_cons_of_eq withName_cons_of_ne)

/-! ## Lists -/

theorem dashItems_eq_ok_iff {ε : Type} {fault : ε} {node : Node}
    {texts : List String} :
    dashItems fault node = .ok texts ↔ Carry (node.named "-") texts := by
  unfold dashItems
  rw [mapM_eq_ok_iff]
  change List.Forall₂ _ (node.named "-") texts ↔ _
  induction node.named "-" generalizing texts with
  | nil => rw [List.forall₂_nil_left_iff, carry_nil_iff]
  | cons item items ih =>
      rw [List.forall₂_cons_left_iff, carry_cons_iff]
      cases item.firstArgument? with
      | none => simp
      | some text =>
          simp only [Except.ok.injEq, Option.some.injEq]
          constructor
          · intro h
            obtain ⟨text', rest, htext, hrest, rfl⟩ := h
            exact ⟨text', rest, rfl, htext, ih.mp hrest⟩
          · intro h
            obtain ⟨text', rest, rfl, htext, hrest⟩ := h
            exact ⟨text', rest, htext, ih.mpr hrest, rfl⟩

theorem listItems_eq_ok_iff {list : ListNode} {node : Node}
    {texts : List String} :
    listItems list node = .ok texts ↔ Carry (node.named "-") texts :=
  dashItems_eq_ok_iff

/-! ## Clauses -/

namespace ClauseSpec

/-- The node writes the clause: the value of its property precedes those of its
items. -/
structure IsWrittenBy (c : ClauseSpec) (node : Node) : Prop where
  operator : node.firstArgument? = some c.operator
  key : node.stringProperty? "key" = some c.key
  values : ∃ (inline : Option String) (items : List String),
    node.property? "value" = inline.map Kdl.Value.string ∧
      Carry (node.named "-") items ∧ c.values = inline.toList ++ items

theorem ofNode_eq_ok_iff {node : Node} {c : ClauseSpec} :
    ofNode node = .ok c ↔ c.IsWrittenBy node := by
  constructor
  · intro h
    unfold ofNode at h
    cases hoperator : node.firstArgument? with
    | none => simp [hoperator] at h
    | some operator =>
        cases hkey : node.stringProperty? "key" with
        | none => simp [hoperator, hkey] at h
        | some key =>
            simp only [hoperator, hkey] at h
            obtain ⟨items, hitems, h⟩ := bind_eq_ok_iff.mp h
            have hcarry := dashItems_eq_ok_iff.mp hitems
            cases hvalue : node.property? "value" with
            | none =>
                simp only [hvalue] at h
                obtain rfl := Except.ok.inj h
                exact ⟨hoperator, hkey, none, items, hvalue, hcarry, rfl⟩
            | some inline =>
                cases inline with
                | string value =>
                    simp only [hvalue] at h
                    obtain rfl := Except.ok.inj h
                    exact ⟨hoperator, hkey, some value, items, hvalue, hcarry,
                      rfl⟩
                | _ => simp [hvalue] at h
  · intro h
    obtain ⟨operator, key, values⟩ := c
    obtain ⟨hoperator, hkey, inline, items, hvalue, hcarry, hvalues⟩ := h
    simp only at hoperator hkey hvalues
    unfold ofNode
    simp only [hoperator, hkey, hvalue, hvalues]
    refine bind_eq_ok_iff.mpr ⟨items, dashItems_eq_ok_iff.mpr hcarry, ?_⟩
    cases inline with
    | none => rfl
    | some value => rfl

theorem ofChildren_eq_ok_iff {node : Node} {clauses : List ClauseSpec} :
    ofChildren node = .ok clauses ↔
      List.Forall₂ (fun child c => c.IsWrittenBy child)
        (node.named "condition") clauses := by
  unfold ofChildren
  rw [mapM_eq_ok_iff]
  simp only [mapError_eq_ok_iff, ofNode_eq_ok_iff]
  rfl

end ClauseSpec

/-! ## Trust and bundles -/

namespace TrustSpec

/-- The node writes the trust: the principal and the clauses of its
conditions. -/
structure IsWrittenBy (t : TrustSpec) (node : Node) : Prop where
  principal : node.firstArgument? = some t.principal
  conditions : List.Forall₂ (fun child c => c.IsWrittenBy child)
    (node.named "condition") t.conditions

theorem ofNode_eq_ok_iff {role : String} {node : Node} {t : TrustSpec} :
    ofNode role node = .ok t ↔ t.IsWrittenBy node := by
  obtain ⟨principal, conditions⟩ := t
  constructor
  · intro h
    unfold ofNode at h
    cases hprincipal : node.firstArgument? with
    | none => simp [hprincipal] at h
    | some principal' =>
        simp only [hprincipal] at h
        obtain ⟨clauses, hclauses, h⟩ := bind_eq_ok_iff.mp h
        obtain ⟨rfl, rfl⟩ := TrustSpec.mk.inj (Except.ok.inj h)
        exact ⟨hprincipal, ClauseSpec.ofChildren_eq_ok_iff.mp hclauses⟩
  · intro h
    have hclauses := ClauseSpec.ofChildren_eq_ok_iff.mpr h.conditions
    unfold ofNode
    simp only [h.principal]
    exact bind_eq_ok_iff.mpr ⟨conditions, hclauses, rfl⟩

end TrustSpec

namespace BundleSpec

/-- The names that a child of a bundle can have. -/
def childNames : List String :=
  ["actions", "resources", "condition"]

theorem mem_childNames_iff {name : String} :
    name ∈ childNames ↔
      name = "actions" ∨ name = "resources" ∨ name = "condition" := by
  simp [childNames]

/-- The items of all lists of one name among the children of a bundle. -/
def itemsOf (name : String) (children : List Node) : List Node :=
  (withName name children).flatMap (·.named "-")

/-- The node writes the bundle.  Lists of the same name are put together. -/
structure IsWrittenBy (b : BundleSpec) (node : Node) : Prop where
  sid : b.sid = node.firstArgument?
  effect : b.effect = (node.stringProperty? "effect").getD defaultEffect
  known : ∀ child ∈ node.children, child.name ∈ childNames
  actions : Carry (itemsOf "actions" node.children) b.actions
  resources : Carry (itemsOf "resources" node.children) b.resources
  conditions : List.Forall₂ (fun child c => c.IsWrittenBy child)
    (node.named "condition") b.conditions

theorem itemsOf_cons_of_eq {name : String} {child : Node}
    {rest : List Node} (h : child.name = name) :
    itemsOf name (child :: rest) = child.named "-" ++ itemsOf name rest := by
  rw [itemsOf, withName_cons_of_eq h, List.flatMap_cons]
  rfl

theorem itemsOf_cons_of_ne {name : String} {child : Node}
    {rest : List Node} (h : child.name ≠ name) :
    itemsOf name (child :: rest) = itemsOf name rest := by
  rw [itemsOf, withName_cons_of_ne h]
  rfl

/-- What one child of a bundle adds to the items. -/
theorem collect_cons_eq_ok_iff {role : String} {items out : Items}
    {child : Node} {rest : List Node} :
    collect role items (child :: rest) = .ok out ↔
      (child.name = "actions" ∧ ∃ texts, Carry (child.named "-") texts ∧
        collect role ⟨items.actions ++ texts, items.resources⟩ rest =
          .ok out) ∨
      (child.name = "resources" ∧ ∃ texts, Carry (child.named "-") texts ∧
        collect role ⟨items.actions, items.resources ++ texts⟩ rest =
          .ok out) ∨
      (child.name = "condition" ∧ collect role items rest = .ok out) := by
  rw [collect]
  by_cases hactions : child.name = "actions"
  · simp [hactions, bind_eq_ok_iff, listItems_eq_ok_iff]
  · by_cases hresources : child.name = "resources"
    · simp [hresources, bind_eq_ok_iff, listItems_eq_ok_iff]
    · by_cases hcondition : child.name = "condition"
      · simp [hcondition]
      · simp [hactions, hresources, hcondition]

/-- The items of a bundle are those of its lists of each name. -/
theorem collect_eq_ok_iff {role : String} {items out : Items}
    {children : List Node} :
    collect role items children = .ok out ↔
      (∀ child ∈ children, child.name ∈ childNames) ∧
        ∃ actions resources, Carry (itemsOf "actions" children) actions ∧
          Carry (itemsOf "resources" children) resources ∧
            out = ⟨items.actions ++ actions, items.resources ++ resources⟩ := by
  induction children generalizing items with
  | nil => simp [collect, itemsOf, eq_comm]
  | cons child rest ih =>
      rw [collect_cons_eq_ok_iff, List.forall_mem_cons]
      simp only [ih]
      constructor
      · intro h
        rcases h with ⟨hname, texts, htexts, hknown, actions, resources,
          hactions, hresources, rfl⟩ | ⟨hname, texts, htexts, hknown, actions,
          resources, hactions, hresources, rfl⟩ | ⟨hname, hknown, actions,
          resources, hactions, hresources, rfl⟩
        · rw [itemsOf_cons_of_eq hname, itemsOf_cons_of_ne (by simp [hname])]
          refine ⟨⟨by simp [hname, childNames], hknown⟩, texts ++ actions,
            resources, ?_, hresources, by rw [List.append_assoc]⟩
          exact carry_append_iff.mpr ⟨texts, actions, rfl, htexts, hactions⟩
        · rw [itemsOf_cons_of_ne (by simp [hname]), itemsOf_cons_of_eq hname]
          refine ⟨⟨by simp [hname, childNames], hknown⟩, actions,
            texts ++ resources, hactions, ?_, by rw [List.append_assoc]⟩
          exact carry_append_iff.mpr ⟨texts, resources, rfl, htexts, hresources⟩
        · rw [itemsOf_cons_of_ne (by simp [hname]),
            itemsOf_cons_of_ne (by simp [hname])]
          exact ⟨⟨by simp [hname, childNames], hknown⟩, actions, resources,
            hactions, hresources, rfl⟩
      · intro h
        obtain ⟨⟨hname, hknown⟩, actions, resources, hactions, hresources,
          rfl⟩ := h
        rcases mem_childNames_iff.mp hname with hname | hname | hname
        · rw [itemsOf_cons_of_eq hname] at hactions
          rw [itemsOf_cons_of_ne (by simp [hname])] at hresources
          obtain ⟨texts, actions, rfl, htexts, hactions⟩ :=
            carry_append_iff.mp hactions
          exact Or.inl ⟨hname, texts, htexts, hknown, actions, resources,
            hactions, hresources, by rw [List.append_assoc]⟩
        · rw [itemsOf_cons_of_ne (by simp [hname])] at hactions
          rw [itemsOf_cons_of_eq hname] at hresources
          obtain ⟨texts, resources, rfl, htexts, hresources⟩ :=
            carry_append_iff.mp hresources
          exact Or.inr (Or.inl ⟨hname, texts, htexts, hknown, actions,
            resources, hactions, hresources, by rw [List.append_assoc]⟩)
        · rw [itemsOf_cons_of_ne (by simp [hname])] at hactions hresources
          exact Or.inr (Or.inr ⟨hname, hknown, actions, resources, hactions,
            hresources, rfl⟩)

theorem ofNode_eq_ok_iff {role : String} {node : Node} {b : BundleSpec} :
    ofNode role node = .ok b ↔ b.IsWrittenBy node := by
  obtain ⟨sid, effect, actions, resources, conditions⟩ := b
  unfold ofNode
  rw [bind_eq_ok_iff]
  constructor
  · intro h
    obtain ⟨items, hitems, h⟩ := h
    obtain ⟨clauses, hclauses, h⟩ := bind_eq_ok_iff.mp h
    obtain ⟨rfl, rfl, rfl, rfl, rfl⟩ := BundleSpec.mk.inj (Except.ok.inj h)
    obtain ⟨hknown, actions, resources, hactions, hresources, rfl⟩ :=
      collect_eq_ok_iff.mp hitems
    exact ⟨rfl, rfl, hknown, hactions, hresources,
      ClauseSpec.ofChildren_eq_ok_iff.mp hclauses⟩
  · intro h
    obtain ⟨rfl, rfl, hknown, hactions, hresources, hconditions⟩ := h
    refine ⟨⟨actions, resources⟩, ?_, ?_⟩
    · exact collect_eq_ok_iff.mpr
        ⟨hknown, actions, resources, hactions, hresources, rfl⟩
    · exact bind_eq_ok_iff.mpr
        ⟨conditions, ClauseSpec.ofChildren_eq_ok_iff.mpr hconditions, rfl⟩

end BundleSpec

/-! ## Roles -/

theorem optionToList_inj {α : Type} {o p : Option α} :
    o.toList = p.toList ↔ o = p := by
  cases o <;> cases p <;> simp

/-- Nothing can follow what fills an optional place. -/
theorem eq_none_of_optionToList_eq {α : Type} {o p : Option α} {a : α}
    {l : List α} (h : o.toList = p.toList ++ a :: l) : p = none := by
  cases p with
  | none => rfl
  | some b => cases o <;> simp at h

namespace RoleSpec

/-- The names that a child of a role can have. -/
def childNames : List String :=
  ["trust", "permission-boundary", "bundle"]

theorem mem_childNames_iff {name : String} :
    name ∈ childNames ↔
      name = "trust" ∨ name = "permission-boundary" ∨ name = "bundle" := by
  simp [childNames]

/-- The node writes the role: its one trust, its boundary, if there is one, and
its bundles. -/
structure IsWrittenBy (r : RoleSpec) (node : Node) : Prop where
  name : node.firstArgument? = some r.name
  kind : ∃ text, node.stringProperty? "kind" = some text ∧
    RoleKind.ofText? text = some r.kind
  known : ∀ child ∈ node.children, child.name ∈ childNames
  trust : List.Forall₂ (fun child t => t.IsWrittenBy child)
    (node.named "trust") [r.trust]
  boundary : Carry (node.named "permission-boundary")
    r.permissionBoundary.toList
  bundles : List.Forall₂ (fun child b => b.IsWrittenBy child)
    (node.named "bundle") r.bundles

namespace Parts

/-- The parts that the children of a role lead to. -/
structure Gains (parts : Parts) (children : List Node) (out : Parts) :
    Prop where
  known : ∀ child ∈ children, child.name ∈ childNames
  trust : ∃ trusts,
    List.Forall₂ (fun child t => TrustSpec.IsWrittenBy t child)
      (withName "trust" children) trusts ∧
    out.trust.toList = parts.trust.toList ++ trusts
  boundary : ∃ policies,
    Carry (withName "permission-boundary" children) policies ∧
    out.permissionBoundary.toList =
      parts.permissionBoundary.toList ++ policies
  bundles : ∃ bundles,
    List.Forall₂ (fun child b => BundleSpec.IsWrittenBy b child)
      (withName "bundle" children) bundles ∧
    out.bundles = parts.bundles ++ bundles

/-- What one child of a role adds to the parts. -/
theorem add_eq_ok_iff {role : String} {parts out : Parts} {child : Node} :
    parts.add role child = .ok out ↔
      (child.name = "trust" ∧ parts.trust = none ∧
        ∃ t : TrustSpec, t.IsWrittenBy child ∧
          out = { parts with trust := some t }) ∨
      (child.name = "permission-boundary" ∧ parts.permissionBoundary = none ∧
        ∃ policy, child.firstArgument? = some policy ∧
          out = { parts with permissionBoundary := some policy }) ∨
      (child.name = "bundle" ∧ ∃ b : BundleSpec, b.IsWrittenBy child ∧
        out = { parts with bundles := parts.bundles ++ [b] }) := by
  unfold add
  by_cases htrust : child.name = "trust"
  · rw [if_pos htrust]
    cases parts.trust with
    | some _ => simp [htrust]
    | none =>
        simp only [bind_eq_ok_iff, TrustSpec.ofNode_eq_ok_iff]
        simp [htrust, pure, Except.pure, eq_comm]
  · by_cases hboundary : child.name = "permission-boundary"
    · rw [if_neg htrust, if_pos hboundary]
      cases parts.permissionBoundary with
      | some _ => simp [hboundary]
      | none =>
          cases child.firstArgument? with
          | none => simp [hboundary]
          | some policy => simp [hboundary, eq_comm]
    · by_cases hbundle : child.name = "bundle"
      · rw [if_neg htrust, if_neg hboundary, if_pos hbundle]
        simp only [bind_eq_ok_iff, BundleSpec.ofNode_eq_ok_iff]
        simp [hbundle, pure, Except.pure, eq_comm]
      · simp [htrust, hboundary, hbundle]

theorem gains_nil_iff {parts out : Parts} :
    parts.Gains [] out ↔ out = parts := by
  constructor
  · intro h
    obtain ⟨-, ⟨trusts, htrusts, htrust⟩, ⟨policies, hpolicies, hboundary⟩,
      bundles, hbundles, hout⟩ := h
    obtain rfl := List.forall₂_nil_left_iff.mp htrusts
    obtain rfl := carry_nil_iff.mp hpolicies
    obtain rfl := List.forall₂_nil_left_iff.mp hbundles
    rw [List.append_nil] at htrust hboundary hout
    obtain ⟨_, _, _⟩ := out
    rw [Parts.mk.injEq]
    exact ⟨optionToList_inj.mp htrust, optionToList_inj.mp hboundary, hout⟩
  · intro h
    subst h
    refine ⟨fun _ hmem => absurd hmem List.not_mem_nil, ?_, ?_, ?_⟩
    · exact ⟨[], .nil, (List.append_nil _).symm⟩
    · exact ⟨[], carry_nil_iff.mpr rfl, (List.append_nil _).symm⟩
    · exact ⟨[], .nil, (List.append_nil _).symm⟩

/-- Every child that leads anywhere adds a part of its own. -/
theorem Gains.exists_add (role : String) {parts out : Parts} {child : Node}
    {rest : List Node} (h : parts.Gains (child :: rest) out) :
    ∃ next, parts.add role child = .ok next ∧ next.Gains rest out := by
  simp only [add_eq_ok_iff]
  obtain ⟨hknown, ⟨trusts, htrusts, htrust⟩, ⟨policies, hpolicies, hboundary⟩,
    bundles, hbundles, hout⟩ := h
  obtain ⟨hname, hknown⟩ := List.forall_mem_cons.mp hknown
  rcases mem_childNames_iff.mp hname with hname | hname | hname
  · rw [withName_cons_of_eq hname] at htrusts
    rw [withName_cons_of_ne (by simp [hname])] at hpolicies hbundles
    obtain ⟨t, trusts, ht, htrusts', rfl⟩ :=
      List.forall₂_cons_left_iff.mp htrusts
    have hnone : parts.trust = none := eq_none_of_optionToList_eq htrust
    rw [hnone] at htrust
    exact ⟨_, Or.inl ⟨hname, hnone, t, ht, rfl⟩, hknown,
      ⟨trusts, htrusts', htrust⟩, ⟨policies, hpolicies, hboundary⟩,
      bundles, hbundles, hout⟩
  · rw [withName_cons_of_eq hname] at hpolicies
    rw [withName_cons_of_ne (by simp [hname])] at htrusts hbundles
    obtain ⟨policy, policies, rfl, hpolicy, hpolicies⟩ :=
      carry_cons_iff.mp hpolicies
    have hnone : parts.permissionBoundary = none :=
      eq_none_of_optionToList_eq hboundary
    rw [hnone] at hboundary
    exact ⟨_, Or.inr (Or.inl ⟨hname, hnone, policy, hpolicy, rfl⟩), hknown,
      ⟨trusts, htrusts, htrust⟩, ⟨policies, hpolicies, hboundary⟩,
      bundles, hbundles, hout⟩
  · rw [withName_cons_of_eq hname] at hbundles
    rw [withName_cons_of_ne (by simp [hname])] at htrusts hpolicies
    obtain ⟨b, bundles, hb, hbundles', rfl⟩ :=
      List.forall₂_cons_left_iff.mp hbundles
    exact ⟨_, Or.inr (Or.inr ⟨hname, b, hb, rfl⟩), hknown,
      ⟨trusts, htrusts, htrust⟩, ⟨policies, hpolicies, hboundary⟩,
      bundles, hbundles', by rw [hout, List.append_assoc]; rfl⟩

/-- What a child adds comes before what the children behind it lead to. -/
theorem Gains.cons {role : String} {parts next out : Parts} {child : Node}
    {rest : List Node} (hadd : parts.add role child = .ok next)
    (hrest : next.Gains rest out) : parts.Gains (child :: rest) out := by
  obtain ⟨hknown, ⟨trusts, htrusts, htrust⟩, ⟨policies, hpolicies, hboundary⟩,
    bundles, hbundles, hout⟩ := hrest
  have hknown' : child.name ∈ childNames →
      ∀ child' ∈ child :: rest, child'.name ∈ childNames :=
    fun hname => List.forall_mem_cons.mpr ⟨hname, hknown⟩
  rcases add_eq_ok_iff.mp hadd with ⟨hname, hnone, t, ht, rfl⟩ |
    ⟨hname, hnone, policy, hpolicy, rfl⟩ | ⟨hname, b, hb, rfl⟩
  · refine ⟨hknown' (by simp [hname, childNames]), ?_, ?_, ?_⟩
    · rw [withName_cons_of_eq hname, hnone]
      exact ⟨t :: trusts, .cons ht htrusts, htrust⟩
    · rw [withName_cons_of_ne (by simp [hname])]
      exact ⟨policies, hpolicies, hboundary⟩
    · rw [withName_cons_of_ne (by simp [hname])]
      exact ⟨bundles, hbundles, hout⟩
  · refine ⟨hknown' (by simp [hname, childNames]), ?_, ?_, ?_⟩
    · rw [withName_cons_of_ne (by simp [hname])]
      exact ⟨trusts, htrusts, htrust⟩
    · rw [withName_cons_of_eq hname, hnone]
      exact ⟨policy :: policies,
        carry_cons_iff.mpr ⟨_, _, rfl, hpolicy, hpolicies⟩, hboundary⟩
    · rw [withName_cons_of_ne (by simp [hname])]
      exact ⟨bundles, hbundles, hout⟩
  · refine ⟨hknown' (by simp [hname, childNames]), ?_, ?_, ?_⟩
    · rw [withName_cons_of_ne (by simp [hname])]
      exact ⟨trusts, htrusts, htrust⟩
    · rw [withName_cons_of_ne (by simp [hname])]
      exact ⟨policies, hpolicies, hboundary⟩
    · rw [withName_cons_of_eq hname]
      exact ⟨b :: bundles, .cons hb hbundles,
        by rw [hout, List.append_assoc]; rfl⟩

/-- The parts that all children of a role lead to. -/
theorem foldlM_add_eq_ok_iff {role : String} {parts out : Parts}
    {children : List Node} :
    children.foldlM (add role) parts = .ok out ↔ parts.Gains children out := by
  induction children generalizing parts with
  | nil =>
      rw [List.foldlM_nil, gains_nil_iff]
      exact ⟨fun h => (Except.ok.inj h).symm, fun h => h ▸ rfl⟩
  | cons child rest ih =>
      rw [List.foldlM_cons, bind_eq_ok_iff]
      simp only [ih]
      constructor
      · intro h
        obtain ⟨next, hadd, hrest⟩ := h
        exact hrest.cons hadd
      · intro h
        exact h.exists_add role

end Parts

theorem kindOfNode_eq_ok_iff {role : String} {node : Node} {kind : RoleKind} :
    kindOfNode role node = .ok kind ↔
      ∃ text, node.stringProperty? "kind" = some text ∧
        RoleKind.ofText? text = some kind := by
  unfold kindOfNode
  cases node.stringProperty? "kind" with
  | none => simp
  | some text =>
      cases hkind : RoleKind.ofText? text <;> simp [hkind]

/-- A role is read from a node exactly if the node writes it. -/
theorem ofNode_eq_ok_iff {node : Node} {r : RoleSpec} :
    ofNode node = .ok r ↔ r.IsWrittenBy node := by
  obtain ⟨name, kind, trust, permissionBoundary, bundles⟩ := r
  constructor
  · intro h
    unfold ofNode at h
    cases hname : node.firstArgument? with
    | none => simp [hname] at h
    | some name' =>
        simp only [hname] at h
        obtain ⟨kind', hkind, h⟩ := bind_eq_ok_iff.mp h
        obtain ⟨⟨trust', _, _⟩, hparts, h⟩ := bind_eq_ok_iff.mp h
        obtain ⟨hknown, ⟨_, htrusts, rfl⟩, ⟨_, hpolicies, rfl⟩, _, hbundles,
          rfl⟩ := Parts.foldlM_add_eq_ok_iff.mp hparts
        cases trust' with
        | none => simp at h
        | some trust' =>
            obtain ⟨rfl, rfl, rfl, rfl, rfl⟩ :=
              RoleSpec.mk.inj (Except.ok.inj h)
            exact ⟨hname, kindOfNode_eq_ok_iff.mp hkind, hknown, htrusts,
              hpolicies, hbundles⟩
  · intro h
    obtain ⟨hname, hkind, hknown, htrust, hboundary, hbundles⟩ := h
    have hparts : node.children.foldlM (Parts.add name) ⟨none, none, []⟩ =
        .ok ⟨some trust, permissionBoundary, bundles⟩ :=
      Parts.foldlM_add_eq_ok_iff.mpr ⟨hknown, ⟨_, htrust, rfl⟩,
        ⟨_, hboundary, rfl⟩, _, hbundles, rfl⟩
    unfold ofNode
    simp only [hname]
    refine bind_eq_ok_iff.mpr ⟨kind, kindOfNode_eq_ok_iff.mpr hkind, ?_⟩
    exact bind_eq_ok_iff.mpr ⟨_, hparts, rfl⟩

end RoleSpec

/-! ## Documents -/

namespace Manifest

/-- What one node of a document adds to the roles. -/
theorem roles_of_addNode {m next : Manifest} {node : Node}
    (h : m.addNode node = .ok next) :
    ∃ added, List.Forall₂ (fun node r => RoleSpec.IsWrittenBy r node)
      (withName "role" [node]) added ∧ next.roles = m.roles ++ added := by
  unfold addNode at h
  by_cases hcatalog : node.name = "catalog"
  · rw [if_pos hcatalog] at h
    obtain ⟨catalog, -, h⟩ := bind_eq_ok_iff.mp h
    obtain rfl := Except.ok.inj h
    rw [withName_cons_of_ne (by simp [hcatalog])]
    exact ⟨[], .nil, (List.append_nil _).symm⟩
  · rw [if_neg hcatalog] at h
    by_cases hrole : node.name = "role"
    · rw [if_pos hrole] at h
      obtain ⟨r, hr, h⟩ := bind_eq_ok_iff.mp h
      obtain rfl := Except.ok.inj h
      rw [withName_cons_of_eq hrole]
      exact ⟨[r], .cons (RoleSpec.ofNode_eq_ok_iff.mp hr) .nil, rfl⟩
    · rw [if_neg hrole] at h
      obtain rfl := Except.ok.inj h
      rw [withName_cons_of_ne hrole]
      exact ⟨[], .nil, (List.append_nil _).symm⟩

theorem roles_of_foldlM_addNode {nodes : List Node} {m out : Manifest}
    (h : nodes.foldlM addNode m = .ok out) :
    ∃ added, List.Forall₂ (fun node r => RoleSpec.IsWrittenBy r node)
      (withName "role" nodes) added ∧ out.roles = m.roles ++ added := by
  induction nodes generalizing m with
  | nil =>
      obtain rfl := Except.ok.inj h
      exact ⟨[], .nil, (List.append_nil _).symm⟩
  | cons node nodes ih =>
      rw [List.foldlM_cons] at h
      obtain ⟨next, hnode, h⟩ := bind_eq_ok_iff.mp h
      obtain ⟨first, hfirst, hnext⟩ := roles_of_addNode hnode
      obtain ⟨rest, hrest, hout⟩ := ih h
      have hnodes : withName "role" (node :: nodes) =
          withName "role" [node] ++ withName "role" nodes :=
        List.filter_append [node] nodes
      rw [hnodes]
      refine ⟨first ++ rest, List.rel_append hfirst hrest, ?_⟩
      rw [hout, hnext, List.append_assoc]

/-- The roles of a document are those of its `role` nodes, in order. -/
theorem roles_of_ofNodes {nodes : List Node} {m : Manifest}
    (h : ofNodes nodes = .ok m) :
    List.Forall₂ (fun node r => RoleSpec.IsWrittenBy r node)
      (withName "role" nodes) m.roles := by
  obtain ⟨added, hadded, hroles⟩ := roles_of_foldlM_addNode h
  have hempty : empty.roles = [] := rfl
  rwa [hroles, hempty, List.nil_append]

end Manifest

end RolePolicy
