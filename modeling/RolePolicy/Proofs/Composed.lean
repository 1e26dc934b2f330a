import RolePolicy.Compiled
import RolePolicy.Proofs.Catalog
import RolePolicy.Proofs.Condition.Canonical
import RolePolicy.Proofs.ResourcePattern

/-!
# Composed roles

Composing is a relation between roles as written and roles.  What it ensures of
a role, whatever the role was written like, is collected as an invariant of
the roles of a compiled manifest: names, principals, actions and patterns are in
the form in which the checks accept them again.
-/

namespace RolePolicy

/-! ## Composing as a relation -/

/-- The bundle as written is composed into the bundle. -/
structure BundleSpec.Composes (catalog : Catalog) (s : BundleSpec)
    (b : Bundle) : Prop where
  sid : b.sid = s.sid
  effect : Effect.ofText? s.effect = some b.effect
  actions_ne_nil : s.actions ≠ []
  resources_ne_nil : s.resources ≠ []
  actions : ∃ actions,
    List.Forall₂ (fun raw a => catalog.normalize? raw = some a) s.actions actions ∧
      b.actions = SortedSet.ofList actions
  resources :
    List.Forall₂ (fun raw p => ResourcePattern.parse raw = .ok p) s.resources
      b.resources
  conditions : Predicate.ofSpecs s.conditions = .ok b.conditions

/-- The trust as written is composed into the trust. -/
structure TrustSpec.Composes (s : TrustSpec) (t : Trust) : Prop where
  principal : t.principal = Text.trim s.principal
  isPrincipal : Trust.isPrincipal t.principal.toList = true
  conditions : Predicate.ofSpecs s.conditions = .ok t.conditions

/-- The boundary as written is composed into the boundary. -/
def ComposesBoundary : Option String → Option ResourcePattern → Prop
  | none, boundary => boundary = none
  | some raw, boundary =>
    raw ≠ "*" ∧ ∃ p, ResourcePattern.parse raw = .ok p ∧ boundary = some p

/-- The role as written is composed into the role. -/
structure RoleSpec.Composes (catalog : Catalog) (s : RoleSpec)
    (r : Role) : Prop where
  name : r.name = s.name
  isName : Role.isName r.name = true
  kind : r.kind = s.kind
  trust : s.trust.Composes r.trust
  boundary : ComposesBoundary s.permissionBoundary r.permissionBoundary
  bundles : List.Forall₂ (BundleSpec.Composes catalog) s.bundles r.bundles

/-- An effect is spelled by its name in any letter case. -/
theorem Effect.ofText?_eq_some_iff {text : String} {effect : Effect} :
    ofText? text = some effect ↔
      Text.foldCase text = Text.foldCase effect.text := by
  have hallow : Text.foldCase "allow" = Text.foldCase Effect.allow.text := by
    decide
  have hdeny : Text.foldCase "deny" = Text.foldCase Effect.deny.text := by
    decide
  have hne : Text.foldCase Effect.allow.text ≠
      Text.foldCase Effect.deny.text := by
    decide
  simp only [ofText?, Text.sameFolded, beq_iff_eq, hallow, hdeny]
  by_cases hsame : Text.foldCase text = Text.foldCase Effect.allow.text
  · rw [if_pos hsame, hsame]
    cases effect <;> simp [hne]
  · rw [if_neg hsame]
    cases effect <;> simp [hsame]

namespace Catalog

theorem compose_eq_ok_iff {c : Catalog} {raw : String} {a : Action} :
    c.compose raw = .ok a ↔ c.normalize? raw = some a := by
  unfold compose
  cases c.normalize? raw <;> simp

end Catalog

namespace ResourcePattern

theorem compose_eq_ok_iff {raw : String} {p : ResourcePattern} :
    compose raw = .ok p ↔ parse raw = .ok p :=
  mapError_eq_ok_iff

theorem composeBoundary_eq_ok_iff {raw : String} {p : ResourcePattern} :
    composeBoundary raw = .ok p ↔ raw ≠ "*" ∧ parse raw = .ok p := by
  unfold composeBoundary
  by_cases hstar : raw = "*"
  · simp [hstar]
  · rw [if_neg hstar, compose_eq_ok_iff]
    simp [hstar]

theorem mapM_composeBoundary_eq_ok_iff {o : Option String}
    {boundary : Option ResourcePattern} :
    o.mapM composeBoundary = .ok boundary ↔ ComposesBoundary o boundary := by
  rw [optionMapM_eq_ok_iff]
  cases o with
  | none => simp [ComposesBoundary]
  | some raw =>
      simp only [composeBoundary_eq_ok_iff, ComposesBoundary]
      constructor
      · rintro (⟨h, -⟩ | ⟨_, p, ⟨rfl⟩, rfl, hstar, hparse⟩)
        · cases h
        · exact ⟨hstar, p, hparse, rfl⟩
      · rintro ⟨hstar, p, hparse, rfl⟩
        exact Or.inr ⟨raw, p, rfl, rfl, hstar, hparse⟩

end ResourcePattern

namespace Trust

theorem compose_eq_ok_iff {role : String} {s : TrustSpec} {t : Trust} :
    compose role s = .ok t ↔ s.Composes t := by
  unfold compose
  constructor
  · intro h
    by_cases hprincipal :
        isPrincipal (Text.trimChars s.principal.toList) = true
    · simp only [if_pos hprincipal] at h
      obtain ⟨conditions, hconditions, h⟩ := bind_eq_ok_iff.mp h
      obtain rfl := Except.ok.inj h
      refine ⟨rfl, ?_, mapError_eq_ok_iff.mp hconditions⟩
      rwa [String.toList_ofList]
    · simp only [if_neg hprincipal] at h
      cases h
  · rintro ⟨hprincipal, hisPrincipal, hconditions⟩
    rw [hprincipal, Text.trim, String.toList_ofList] at hisPrincipal
    simp only [if_pos hisPrincipal]
    refine bind_eq_ok_iff.mpr
      ⟨t.conditions, mapError_eq_ok_iff.mpr hconditions, ?_⟩
    exact congrArg Except.ok (congrArg (Trust.mk · t.conditions) hprincipal.symm)

end Trust

namespace Bundle

theorem compose_eq_ok_iff {role : String} {catalog : Catalog} {s : BundleSpec}
    {index : Nat} {b : Bundle} :
    compose role catalog s index = .ok b ↔ s.Composes catalog b := by
  unfold compose
  constructor
  · intro h
    cases heffect : Effect.ofText? s.effect with
    | none => simp [heffect] at h
    | some effect =>
        by_cases hactions : s.actions = []
        · simp [heffect, hactions] at h
        · by_cases hresources : s.resources = []
          · simp [heffect, hactions, hresources] at h
          · simp only [heffect, if_neg hactions, if_neg hresources] at h
            obtain ⟨actions, hmapped, h⟩ := bind_eq_ok_iff.mp h
            obtain ⟨resources, hparsed, h⟩ := bind_eq_ok_iff.mp h
            obtain ⟨conditions, hconditions, h⟩ := bind_eq_ok_iff.mp h
            obtain rfl := Except.ok.inj h
            simp only [mapM_eq_ok_iff, Catalog.compose_eq_ok_iff,
              ResourcePattern.compose_eq_ok_iff] at hmapped hparsed
            exact ⟨rfl, heffect, hactions, hresources,
              ⟨actions, hmapped, rfl⟩, hparsed,
              mapError_eq_ok_iff.mp hconditions⟩
  · rintro ⟨hsid, heffect, hactions, hresources, ⟨actions, hmapped, hset⟩,
      hparsed, hconditions⟩
    simp only [heffect, if_neg hactions, if_neg hresources]
    refine bind_eq_ok_iff.mpr ⟨actions, ?_, bind_eq_ok_iff.mpr
      ⟨b.resources, ?_, bind_eq_ok_iff.mpr
        ⟨b.conditions, mapError_eq_ok_iff.mpr hconditions, ?_⟩⟩⟩
    · simpa only [mapM_eq_ok_iff, Catalog.compose_eq_ok_iff] using hmapped
    · simpa only [mapM_eq_ok_iff, ResourcePattern.compose_eq_ok_iff]
        using hparsed
    · rw [← hsid, ← hset]
      rfl

end Bundle

namespace Role

theorem compose_eq_ok_iff {catalog : Catalog} {s : RoleSpec} {r : Role} :
    compose catalog s = .ok r ↔ s.Composes catalog r := by
  unfold compose
  have hzip : ∀ {bundles : List Bundle},
      s.bundles.zipIdx.mapM (fun b =>
          Bundle.compose s.name catalog b.1 b.2) = .ok bundles ↔
        List.Forall₂ (BundleSpec.Composes catalog) s.bundles bundles := by
    intro bundles
    simp only [mapM_eq_ok_iff, Bundle.compose_eq_ok_iff]
    conv_rhs => rw [← List.zipIdx_map_fst 0 s.bundles]
    rw [List.forall₂_map_left_iff]
  constructor
  · intro h
    by_cases hname : isName s.name = true
    · rw [if_pos hname] at h
      obtain ⟨trust, htrust, h⟩ := bind_eq_ok_iff.mp h
      obtain ⟨boundary, hboundary, h⟩ := bind_eq_ok_iff.mp h
      obtain ⟨bundles, hbundles, h⟩ := bind_eq_ok_iff.mp h
      obtain rfl := Except.ok.inj h
      exact ⟨rfl, hname, rfl, Trust.compose_eq_ok_iff.mp htrust,
        ResourcePattern.mapM_composeBoundary_eq_ok_iff.mp hboundary,
        hzip.mp hbundles⟩
    · rw [if_neg hname] at h
      cases h
  · rintro ⟨hname, hisName, hkind, htrust, hboundary, hbundles⟩
    rw [hname] at hisName
    rw [if_pos hisName]
    refine bind_eq_ok_iff.mpr
      ⟨r.trust, Trust.compose_eq_ok_iff.mpr htrust, bind_eq_ok_iff.mpr
        ⟨r.permissionBoundary,
          ResourcePattern.mapM_composeBoundary_eq_ok_iff.mpr hboundary,
          bind_eq_ok_iff.mpr ⟨r.bundles, hzip.mpr hbundles, ?_⟩⟩⟩
    rw [← hname, ← hkind]
    rfl

end Role

/-! ## What composing ensures -/

/-- The bundle is in the form that composing gives to bundles. -/
structure Bundle.IsComposed (catalog : Catalog) (b : Bundle) : Prop where
  actions_ne_nil : b.actions.toList ≠ []
  normal : ∀ a ∈ b.actions, catalog.normalize? a.text = some a
  resources_ne_nil : b.resources ≠ []
  parsed : ∀ p ∈ b.resources, ResourcePattern.parse p.text = .ok p
  canonical : b.conditions.IsCanonical

/-- The role is in the form that composing gives to roles. -/
structure Role.IsComposed (catalog : Catalog) (r : Role) : Prop where
  isName : isName r.name = true
  isTrimmed : Text.IsTrimmed r.trust.principal.toList
  isPrincipal : Trust.isPrincipal r.trust.principal.toList = true
  canonical : r.trust.conditions.IsCanonical
  boundary : ∀ p ∈ r.permissionBoundary,
    p.text ≠ "*" ∧ ResourcePattern.parse p.text = .ok p
  bundles : ∀ b ∈ r.bundles, b.IsComposed catalog

theorem BundleSpec.Composes.isComposed {services : List (String × List String)}
    {s : BundleSpec} {b : Bundle}
    (h : s.Composes (Catalog.ofServices services) b) :
    b.IsComposed (Catalog.ofServices services) := by
  obtain ⟨actions, hactions, hset⟩ := h.actions
  have hmem : ∀ a, a ∈ b.actions ↔ a ∈ actions := by
    intro a
    rw [hset, SortedSet.mem_ofList]
  constructor
  · intro hnil
    apply h.actions_ne_nil
    have hempty : actions = [] := by
      rw [List.eq_nil_iff_forall_not_mem]
      intro a ha
      have hnot : a ∉ b.actions.toList := by simp [hnil]
      exact hnot ((hmem a).mpr ha)
    rw [hempty, List.forall₂_nil_right_iff] at hactions
    exact hactions
  · intro a ha
    obtain ⟨raw, -, hraw⟩ := exists_mem_of_forall₂ hactions ((hmem a).mp ha)
    exact Catalog.normalize?_text hraw
  · intro hnil
    have hresources := h.resources
    rw [hnil, List.forall₂_nil_right_iff] at hresources
    exact h.resources_ne_nil hresources
  · intro p hp
    obtain ⟨raw, -, hraw⟩ := exists_mem_of_forall₂ h.resources hp
    exact ResourcePattern.parse_text_of_parse hraw
  · exact Predicate.isCanonical_of_ofSpecs h.conditions

theorem RoleSpec.Composes.isComposed {services : List (String × List String)}
    {s : RoleSpec} {r : Role}
    (h : s.Composes (Catalog.ofServices services) r) :
    r.IsComposed (Catalog.ofServices services) := by
  constructor
  · exact h.isName
  · rw [h.trust.principal, Text.trim, String.toList_ofList]
    exact Text.isTrimmed_trimChars _
  · exact h.trust.isPrincipal
  · exact Predicate.isCanonical_of_ofSpecs h.trust.conditions
  · intro p hp
    have hboundary := h.boundary
    cases hraw : s.permissionBoundary with
    | none =>
        rw [hraw, ComposesBoundary] at hboundary
        simp [hboundary] at hp
    | some raw =>
        rw [hraw] at hboundary
        obtain ⟨hstar, q, hparse, hq⟩ := hboundary
        obtain rfl : q = p := by simpa [hq] using hp
        refine ⟨?_, ResourcePattern.parse_text_of_parse hparse⟩
        rwa [ResourcePattern.eq_mk_of_parse hparse]
  · intro b hb
    obtain ⟨t, -, ht⟩ := exists_mem_of_forall₂ h.bundles hb
    exact ht.isComposed

/-- The actions of a composed bundle are spelled as its catalog does. -/
theorem Bundle.IsComposed.spelling? {services : List (String × List String)}
    {b : Bundle} (h : b.IsComposed (Catalog.ofServices services)) {a : Action}
    (ha : a ∈ b.actions) :
    (Catalog.ofServices services).spelling? a.service a.verb = some a.verb :=
  (Catalog.named?_of_normalize? (h.normal a ha)).2

namespace Manifest

/-- A manifest compiles into the roles that its roles, after substitution, are
composed into. -/
theorem compile_eq_ok_iff {m : Manifest} {s : Substitutions}
    {c : CompiledRoles} :
    m.compile s = .ok c ↔
      RoleSpec.checkDistinct [] (s.applyManifest m).roles = .ok () ∧
        List.Forall₂ (RoleSpec.Composes c.catalog) (s.applyManifest m).roles
          c.roles ∧
        c.catalog = (s.applyManifest m).actionCatalog ∧
          c.substitutions = s := by
  unfold compile
  simp only [bind_eq_ok_iff, mapM_eq_ok_iff, Role.compose_eq_ok_iff]
  constructor
  · rintro ⟨_, hdistinct, roles, hroles, h⟩
    obtain rfl := Except.ok.inj h
    exact ⟨hdistinct, hroles, rfl, rfl⟩
  · rintro ⟨hdistinct, hroles, hcatalog, rfl⟩
    refine ⟨(), hdistinct, c.roles, ?_, ?_⟩
    · rwa [← hcatalog]
    · rw [← hcatalog]
      rfl

/-- Substituting leaves the catalog of a manifest as it is. -/
theorem catalog_of_compile {m : Manifest} {s : Substitutions}
    {c : CompiledRoles} (h : m.compile s = .ok c) :
    c.catalog = m.actionCatalog :=
  (compile_eq_ok_iff.mp h).2.2.1

/-- Compiled roles are composed with respect to their catalog, in which
normalizing is stable. -/
theorem isComposed_of_compile {m : Manifest} {s : Substitutions}
    {c : CompiledRoles} (h : m.compile s = .ok c) {r : Role}
    (hr : r ∈ c.roles) : r.IsComposed c.catalog := by
  obtain ⟨-, hroles, hcatalog, -⟩ := compile_eq_ok_iff.mp h
  rw [hcatalog, actionCatalog] at hroles ⊢
  obtain ⟨t, -, ht⟩ := exists_mem_of_forall₂ hroles hr
  exact ht.isComposed

/-- A manifest of one role, which creates stacks in any account as long as
every tag of a request is a tag of the caller's team. -/
def provisioner : Manifest where
  catalog :=
    SortedMap.ofList
      [(" CloudFormation ", ["CreateStack"]), ("IAM", ["PassRole"])]
  roles :=
    [{ name := "Provisioner"
       kind := .provisioning
       trust := { principal := " cloudformation.amazonaws.com", conditions := [] }
       permissionBoundary := some "arn:aws:iam::123456789012:policy/boundary"
       bundles :=
        [{ sid := some "Stacks"
           effect := "ALLOW"
           actions := ["cloudformation:createstack"]
           resources :=
            ["arn:aws:cloudformation:*:*:stack/b/*",
              "arn:aws:cloudformation:*:*:stack/a/*",
              "arn:aws:cloudformation:*:*:stack/b/*"]
           conditions :=
            [{ operator := "ForAllValues:StringLike"
               key := "aws:TagKeys"
               values := ["$\x7baws:PrincipalTag/team\x7d", "team"] }] },
         { sid := none
           effect := "deny"
           actions := ["iam:PassRole"]
           resources := ["*"]
           conditions := [] }] }]

/-- The one role of the manifest. -/
def provisionerRole : Role where
  name := "Provisioner"
  kind := .provisioning
  trust := ⟨"cloudformation.amazonaws.com", .unconditional⟩
  bundles :=
    [{ sid := some "Stacks"
       effect := .allow
       actions := SortedSet.singleton ⟨"cloudformation", "CreateStack"⟩
       resources :=
        [⟨"arn:aws:cloudformation:*:*:stack/b/*"⟩,
          ⟨"arn:aws:cloudformation:*:*:stack/a/*"⟩,
          ⟨"arn:aws:cloudformation:*:*:stack/b/*"⟩]
       conditions :=
        ⟨[{ operator := .like
            quantifier := .allValues
            key := "aws:TagKeys"
            values :=
              SortedSet.ofList ["$\x7baws:PrincipalTag/team\x7d", "team"] }]⟩ },
     { sid := none
       effect := .deny
       actions := SortedSet.singleton ⟨"iam", "PassRole"⟩
       resources := [⟨"*"⟩]
       conditions := .unconditional }]
  permissionBoundary := some ⟨"arn:aws:iam::123456789012:policy/boundary"⟩

theorem compile_provisioner :
    provisioner.compile ∅ =
      .ok ⟨provisioner.actionCatalog, [provisionerRole], ∅⟩ := by
  decide +kernel

end Manifest

end RolePolicy
