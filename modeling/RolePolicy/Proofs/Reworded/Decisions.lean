import RolePolicy.Proofs.Decision
import RolePolicy.Proofs.Reworded.Compiled

/-!
# Decisions and the spelling of actions

Catalogs that register the same actions may spell them differently, and so the
actions of compiled bundles may differ.  No decision depends on this: a bundle
lists an action in the spelling of its own catalog, and a request is read with
the same catalog.
-/

namespace RolePolicy

open Text

/-! ## One action in two spellings -/

/-- The actions are the same one, each in the spelling of its manifest. -/
structure Manifest.SpellSame (m m' : Manifest) (a a' : Action) : Prop where
  left : m.actionCatalog.spelling? a.service a.verb = some a.verb
  right : m'.actionCatalog.spelling? a'.service a'.verb = some a'.verb
  folded : a'.folded = a.folded

/-- With catalogs that register the same actions, texts that name the same
action are both normalized to it, or both are unknown. -/
theorem Manifest.normalize?_rel {m m' : Manifest}
    (hregistered : ∀ a, a ∈ m.registered ↔ a ∈ m'.registered)
    {raw raw' : String} (hfold : EqFolded (trim raw) (trim raw')) :
    Option.Rel (m.SpellSame m') (m.actionCatalog.normalize? raw)
      (m'.actionCatalog.normalize? raw') := by
  cases hnormal : m.actionCatalog.normalize? raw with
  | some a =>
      obtain ⟨a', hnormal', hfolded⟩ :=
        exists_normalize?_of_foldCase hregistered hfold hnormal
      rw [hnormal']
      exact .some ⟨(Catalog.named?_of_normalize? hnormal).2,
        (Catalog.named?_of_normalize? hnormal').2, hfolded⟩
  | none =>
      cases hnormal' : m'.actionCatalog.normalize? raw' with
      | none => exact .none
      | some a' =>
          -- What the second catalog knows, the first one knows as well.
          obtain ⟨a, ha, -⟩ := exists_normalize?_of_foldCase
            (fun a => (hregistered a).symm) hfold.symm hnormal'
          rw [hnormal] at ha
          cases ha

section Alike

variable {m m' : Manifest} {a a' : Action}

/-- Alike bundles apply to the same requests. -/
theorem Bundle.Alike.appliesTo_eq {b b' : Bundle} (h : b.Alike b')
    (hb : b.IsComposed m.actionCatalog) (hb' : b'.IsComposed m'.actionCatalog)
    (ha : m.SpellSame m' a a') (resource : String) (context : RequestContext) :
    b.appliesTo a resource context = b'.appliesTo a' resource context := by
  have hactions : a ∈ b.actions ↔ a' ∈ b'.actions := by
    constructor
    · exact h.mem_of_mem hb' ha.right ha.folded.symm
    · exact h.symm.mem_of_mem hb ha.left ha.folded
  rw [Bool.eq_iff_iff, appliesTo_eq_true_iff, appliesTo_eq_true_iff, hactions,
    h.conditions]
  simp only [h.resources]

namespace Role

variable {r r' : Role}

/-- In alike roles the same bundles match. -/
theorem Alike.matching_eq (h : r.Alike r') (hr : r.IsComposed m.actionCatalog)
    (hr' : r'.IsComposed m'.actionCatalog) (ha : m.SpellSame m' a a')
    (effect : Effect) (resource : String) (context : RequestContext) :
    r.matching effect a resource context =
      r'.matching effect a' resource context := by
  have happlies : List.Forall₂ (fun b b' => b.sid = b'.sid ∧
      b.effect = b'.effect ∧
        b.appliesTo a resource context = b'.appliesTo a' resource context)
      r.bundles r'.bundles := by
    apply forall₂_imp_of_mem h.bundles
    intro b hb b' hb' halike
    exact ⟨halike.sid, halike.effect, halike.appliesTo_eq (hr.bundles b hb)
      (hr'.bundles b' hb') ha resource context⟩
  apply filterMap_eq_of_forall₂ _ (forall₂_zipIdx happlies 0)
  intro x y hxy
  obtain ⟨⟨hsid, heffect, hsame⟩, hindex⟩ := hxy
  show (if x.1.effect = effect ∧ _ then some (⟨x.2, x.1.sid⟩ : BundleRef)
    else none) = _
  rw [hsid, heffect, hsame, hindex]

/-- Alike roles decide the same requests in the same way, whatever the two
catalogs call the action. -/
theorem Alike.evaluate_eq
    (hregistered : ∀ a, a ∈ m.registered ↔ a ∈ m'.registered) (h : r.Alike r')
    (hr : r.IsComposed m.actionCatalog) (hr' : r'.IsComposed m'.actionCatalog)
    {raw raw' : String} (hfold : EqFolded (trim raw) (trim raw'))
    (resource : String) (context : RequestContext) :
    r.evaluate m.actionCatalog ⟨raw, resource, context⟩ =
      r'.evaluate m'.actionCatalog ⟨raw', resource, context⟩ := by
  have hnormal := Manifest.normalize?_rel hregistered hfold
  unfold evaluate
  generalize m.actionCatalog.normalize? raw = o,
    m'.actionCatalog.normalize? raw' = o' at hnormal ⊢
  cases hnormal with
  | none => rfl
  | some ha => simp only [h.matching_eq hr hr' ha]

end Role

end Alike

/-! ## Manifests that differ in spelling -/

/-- Related roles are found under the same names. -/
theorem CompiledRoles.role?_rel {R : Role → Role → Prop}
    (hname : ∀ r r', R r r' → r.name = r'.name) {c c' : CompiledRoles}
    (h : List.Forall₂ R c.roles c'.roles) (name : String) :
    Option.Rel R (c.role? name) (c'.role? name) := by
  apply find?_of_forall₂ _ h
  intro r r' hr
  rw [hname r r' hr]

namespace Manifest

/-- Manifests that say the same with catalogs that register the same actions
decide requests that name the same action in the same way. -/
theorem evaluate_eq_of_rewords {m m' : Manifest} {s : Substitutions}
    {c c' : CompiledRoles}
    (hregistered : ∀ a, a ∈ m.registered ↔ a ∈ m'.registered)
    (hroles : List.Forall₂ (RoleSpec.Rewords SameButCase) m.roles m'.roles)
    (hc : m.compile s = .ok c) (hc' : m'.compile s = .ok c') (role : String)
    {raw raw' : String} (hfold : EqFolded (trim raw) (trim raw'))
    (resource : String) (context : RequestContext) :
    c.evaluate role ⟨raw, resource, context⟩ =
      c'.evaluate role ⟨raw', resource, context⟩ := by
  have hcatalog := catalog_of_compile hc
  have hcatalog' := catalog_of_compile hc'
  have hagree : List.Forall₂ (fun r r' => r.name = r'.name ∧
      r.evaluate c.catalog ⟨raw, resource, context⟩ =
        r'.evaluate c'.catalog ⟨raw', resource, context⟩) c.roles c'.roles := by
    apply forall₂_imp_of_mem (alike_of_compile hroles hc hc')
    intro r hr r' hr' halike
    have hcomposed := isComposed_of_compile hc hr
    have hcomposed' := isComposed_of_compile hc' hr'
    rw [hcatalog] at hcomposed ⊢
    rw [hcatalog'] at hcomposed' ⊢
    exact ⟨halike.name, halike.evaluate_eq hregistered hcomposed hcomposed'
      hfold resource context⟩
  have hfound := CompiledRoles.role?_rel (fun _ _ hsame => hsame.1) hagree role
  unfold CompiledRoles.evaluate
  generalize c.role? role = o, c'.role? role = o' at hfound ⊢
  cases hfound with
  | none => rfl
  | some hsame => exact hsame.2

end Manifest

/-- The bundles are the same, up to the letter case of their actions. -/
structure BundleSpec.SpeltAlike (s t : BundleSpec) : Prop where
  sid : s.sid = t.sid
  effect : s.effect = t.effect
  actions : List.Forall₂ EqFolded s.actions t.actions
  resources : s.resources = t.resources
  conditions : s.conditions = t.conditions

/-- The roles are the same, up to the letter case of actions. -/
structure RoleSpec.SpeltAlike (s t : RoleSpec) : Prop where
  name : s.name = t.name
  kind : s.kind = t.kind
  trust : s.trust = t.trust
  boundary : s.permissionBoundary = t.permissionBoundary
  bundles : List.Forall₂ BundleSpec.SpeltAlike s.bundles t.bundles

/-- The catalogs of the manifests register the same actions, in any order, any
spelling and any number of times, and the roles of the manifests are the same,
up to the letter case of actions. -/
structure Manifest.SpeltAlike (m m' : Manifest) : Prop where
  registered : ∀ a, a ∈ m.registered ↔ a ∈ m'.registered
  roles : List.Forall₂ RoleSpec.SpeltAlike m.roles m'.roles

theorem BundleSpec.SpeltAlike.refl (s : BundleSpec) : s.SpeltAlike s where
  sid := rfl
  effect := rfl
  actions := List.forall₂_same.mpr fun _ _ => rfl
  resources := rfl
  conditions := rfl

theorem BundleSpec.SpeltAlike.rewords {s t : BundleSpec}
    (h : s.SpeltAlike t) : s.Rewords SameButCase t where
  sid := h.sid
  effect := congrArg foldCase h.effect
  actions raw hraw := by
    obtain ⟨raw', hraw', hfold⟩ := exists_mem_of_forall₂_left h.actions hraw
    exact ⟨raw', hraw', eqFolded_trim hfold⟩
  actions_back raw' hraw' := by
    obtain ⟨raw, hraw, hfold⟩ := exists_mem_of_forall₂ h.actions hraw'
    exact ⟨raw, hraw, eqFolded_trim hfold⟩
  resources raw := by rw [h.resources]
  conditions := by
    rw [h.conditions]
    exact Reordered.refl (ClauseSpec.Rewords.refl SameButCase.refl) _

theorem RoleSpec.SpeltAlike.refl (s : RoleSpec) : s.SpeltAlike s where
  name := rfl
  kind := rfl
  trust := rfl
  boundary := rfl
  bundles := List.forall₂_same.mpr fun b _ => BundleSpec.SpeltAlike.refl b

theorem RoleSpec.SpeltAlike.rewords {s t : RoleSpec} (h : s.SpeltAlike t) :
    s.Rewords SameButCase t where
  name := h.name
  kind := h.kind
  principal := congrArg TrustSpec.principal h.trust
  trust := by
    rw [h.trust]
    exact Reordered.refl (ClauseSpec.Rewords.refl SameButCase.refl) _
  boundary := h.boundary
  bundles := h.bundles.imp fun _ _ hbundle => hbundle.rewords

namespace Manifest

/-- Manifests that differ in the spelling of actions only both compile or both
fail, and what they compile into decides every request in the same way and by
the same bundles, in whatever letter case the action is asked for. -/
theorem compile_evaluate_eq_of_speltAlike {m m' : Manifest}
    (h : m.SpeltAlike m') (s : Substitutions) :
    ((∃ c, m.compile s = .ok c) ↔ ∃ c', m'.compile s = .ok c') ∧
      ∀ c c', m.compile s = .ok c → m'.compile s = .ok c' →
        ∀ role action action' resource context, EqFolded action action' →
          c.evaluate role ⟨action, resource, context⟩ =
            c'.evaluate role ⟨action', resource, context⟩ := by
  have hroles : List.Forall₂ (RoleSpec.Rewords SameButCase) m.roles m'.roles :=
    h.roles.imp fun _ _ hrole => hrole.rewords
  constructor
  · exact exists_compile_iff_of_rewords h.registered hroles
  · intro c c' hc hc' role action action' resource context hfold
    exact evaluate_eq_of_rewords h.registered hroles hc hc' role
      (eqFolded_trim hfold) resource context

/-- The provisioner with other spellings in its catalog and its bundles. -/
def loudProvisioner : Manifest where
  catalog :=
    SortedMap.ofList
      [("iam ", ["PASSROLE", "PassRole"]), ("cloudformation", ["createstack"]),
        ("CLOUDFORMATION", ["createStack "])]
  roles := provisioner.roles.map fun r =>
    { r with bundles := r.bundles.map fun b =>
      { b with actions := b.actions.map foldCase } }

theorem provisioner_speltAlike : provisioner.SpeltAlike loudProvisioner := by
  have hregistered : ∀ a, a ∈ provisioner.registered ↔
      a ∈ loudProvisioner.registered := by
    have hfirst : provisioner.registered =
        [⟨"cloudformation", "createstack"⟩, ⟨"iam", "passrole"⟩] := by
      decide +kernel
    have hsecond : loudProvisioner.registered =
        [⟨"cloudformation", "createstack"⟩, ⟨"cloudformation", "createstack"⟩,
          ⟨"iam", "passrole"⟩, ⟨"iam", "passrole"⟩] := by
      decide +kernel
    intro a
    rw [hfirst, hsecond]
    simp
  refine ⟨hregistered, ?_⟩
  unfold loudProvisioner
  rw [List.forall₂_map_right_iff, List.forall₂_same]
  intro r _
  refine ⟨rfl, rfl, rfl, rfl, ?_⟩
  rw [List.forall₂_map_right_iff, List.forall₂_same]
  intro b _
  refine ⟨rfl, rfl, ?_, rfl, rfl⟩
  rw [List.forall₂_map_right_iff, List.forall₂_same]
  intro raw _
  exact (foldCase_foldCase raw).symm

/-- The two catalogs spell the actions of the provisioner differently. -/
theorem provisioner_evaluate_eq :
    ∃ c c', provisioner.compile ∅ = .ok c ∧ loudProvisioner.compile ∅ = .ok c' ∧
      c.catalog.normalize? "iam:PassRole" = some ⟨"iam", "PassRole"⟩ ∧
      c'.catalog.normalize? "IAM:passRole" = some ⟨"iam", "PASSROLE"⟩ ∧
      ∀ resource context,
        c.evaluate "Provisioner" ⟨"iam:PassRole", resource, context⟩ =
          c'.evaluate "Provisioner" ⟨"IAM:passRole", resource, context⟩ := by
  obtain ⟨hiff, hevaluate⟩ :=
    compile_evaluate_eq_of_speltAlike provisioner_speltAlike ∅
  obtain ⟨c', hc'⟩ := hiff.mp ⟨_, compile_provisioner⟩
  refine ⟨_, c', compile_provisioner, hc', by decide +kernel, ?_, ?_⟩
  · rw [catalog_of_compile hc']
    decide +kernel
  · intro resource context
    have hfold : EqFolded "iam:PassRole" "IAM:passRole" := by decide +kernel
    exact hevaluate _ c' compile_provisioner hc' _ _ _ resource context hfold

end Manifest

end RolePolicy
