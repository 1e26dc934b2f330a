import RolePolicy.Proofs.Composed
import RolePolicy.Proofs.Decision

/-!
# Roles as sets of grants

A bundle says the same of each of its actions on each of its patterns.  Taken
apart, a role is a set of grants of one action on one pattern, and a request is
decided by the grants that meet it.  How the grants are ordered, repeated and
gathered into bundles shows in the trace of a decision and not in the decision.
-/

namespace RolePolicy

/-- One action on one pattern, granted or denied under one predicate. -/
structure Grant where
  effect : Effect
  action : Action
  resource : ResourcePattern
  conditions : Predicate
  deriving DecidableEq

/-- The grant has to do with a request: the catalog reads the action as that of
the grant, the pattern fits the whole resource, and every clause holds. -/
structure Grant.Meets (g : Grant) (catalog : Catalog) (request : Request) :
    Prop where
  action : catalog.normalize? request.action = some g.action
  resource : Glob.Matches g.resource.text.toList request.resource.toList
  conditions : ∀ c ∈ g.conditions.clauses, c.holds request.context = true

namespace Bundle

/-- What the bundle says of each of its actions on each of its patterns. -/
def grants (b : Bundle) : List Grant :=
  b.actions.toList.flatMap fun action =>
    b.resources.map fun resource => ⟨b.effect, action, resource, b.conditions⟩

theorem mem_grants_iff {b : Bundle} {g : Grant} :
    g ∈ b.grants ↔
      g.effect = b.effect ∧ g.action ∈ b.actions ∧ g.resource ∈ b.resources ∧
        g.conditions = b.conditions := by
  obtain ⟨effect, action, resource, conditions⟩ := g
  simp only [grants, List.mem_flatMap, List.mem_map, SortedSet.mem_toList,
    Grant.mk.injEq]
  constructor
  · rintro ⟨action, haction, resource, hresource, rfl, rfl, rfl, rfl⟩
    exact ⟨rfl, haction, hresource, rfl⟩
  · rintro ⟨rfl, haction, hresource, rfl⟩
    exact ⟨action, haction, resource, hresource, rfl, rfl, rfl, rfl⟩

/-- A bundle is a candidate for a request if one of its grants meets it. -/
theorem isCandidate_iff_exists_grant {catalog : Catalog} {b : Bundle}
    {request : Request} :
    b.IsCandidate catalog request ↔
      ∃ g ∈ b.grants, g.Meets catalog request := by
  constructor
  · rintro ⟨⟨action, haction, hnormal⟩, ⟨resource, hresource, hmatches⟩,
      hconditions⟩
    exact ⟨⟨b.effect, action, resource, b.conditions⟩,
      mem_grants_iff.mpr ⟨rfl, haction, hresource, rfl⟩,
      hnormal, hmatches, hconditions⟩
  · rintro ⟨g, hg, hnormal, hmatches, hconditions⟩
    obtain ⟨-, haction, hresource, heq⟩ := mem_grants_iff.mp hg
    rw [heq] at hconditions
    exact ⟨⟨g.action, haction, hnormal⟩, ⟨g.resource, hresource, hmatches⟩,
      hconditions⟩

end Bundle

namespace Role

/-- The grants of all bundles. -/
def grants (r : Role) : List Grant :=
  r.bundles.flatMap Bundle.grants

/-- The grants of an effect tell whether a bundle of this effect is a
candidate. -/
theorem exists_candidate_iff_exists_grant {catalog : Catalog} {r : Role}
    {request : Request} {effect : Effect} :
    (∃ b ∈ r.bundles, b.effect = effect ∧ b.IsCandidate catalog request) ↔
      ∃ g ∈ r.grants, g.effect = effect ∧ g.Meets catalog request := by
  simp only [grants, List.mem_flatMap, Bundle.isCandidate_iff_exists_grant]
  constructor
  · rintro ⟨b, hb, rfl, g, hg, hmeets⟩
    exact ⟨g, ⟨b, hb, hg⟩, (Bundle.mem_grants_iff.mp hg).1, hmeets⟩
  · rintro ⟨g, ⟨b, hb, hg⟩, rfl, hmeets⟩
    exact ⟨b, hb, (Bundle.mem_grants_iff.mp hg).1.symm, g, hg, hmeets⟩

theorem decision_eq_deny_iff_exists_grant {catalog : Catalog} {r : Role}
    {request : Request} :
    (r.evaluate catalog request).decision = .deny ↔
      ∃ g ∈ r.grants, g.effect = .deny ∧ g.Meets catalog request := by
  rw [decision_eq_deny_iff, exists_candidate_iff_exists_grant]

theorem decision_eq_allow_iff_exists_grant {catalog : Catalog} {r : Role}
    {request : Request} :
    (r.evaluate catalog request).decision = .allow ↔
      (¬∃ g ∈ r.grants, g.effect = .deny ∧ g.Meets catalog request) ∧
        ∃ g ∈ r.grants, g.effect = .allow ∧ g.Meets catalog request := by
  rw [decision_eq_allow_iff, exists_candidate_iff_exists_grant,
    exists_candidate_iff_exists_grant]

/-- Roles with the same grants, in whatever bundles and in whatever order,
decide every request alike under every catalog, and so do compiled roles of
this kind when they are asked by name. -/
theorem decision_eq_of_mem_grants_iff {r r' : Role}
    (h : ∀ g, g ∈ r.grants ↔ g ∈ r'.grants) :
    (∀ (catalog : Catalog) (request : Request),
      (r.evaluate catalog request).decision =
        (r'.evaluate catalog request).decision) ∧
    ∀ (c c' : CompiledRoles) (name name' : String), c.catalog = c'.catalog →
      c.role? name = some r → c'.role? name' = some r' →
        ∀ request, c.decide name request = c'.decide name' request := by
  have hdecision : ∀ (catalog : Catalog) (request : Request),
      (r.evaluate catalog request).decision =
        (r'.evaluate catalog request).decision := by
    intro catalog request
    apply Decision.eq_of_iff
    · simp only [decision_eq_deny_iff_exists_grant, h]
    · simp only [decision_eq_allow_iff_exists_grant, h]
  refine ⟨hdecision, ?_⟩
  intro c c' name name' hcatalog hrole hrole' request
  simp only [CompiledRoles.decide, CompiledRoles.evaluate, hrole, hrole',
    hcatalog, hdecision]

end Role

namespace Manifest

/-- The provisioner with a bundle of its own for each pattern, the last one
first. -/
def scatteredProvisioner : Manifest where
  catalog := provisioner.catalog
  roles := provisioner.roles.map fun r =>
    { r with
      bundles := (r.bundles.flatMap fun b => b.resources.map fun p =>
        { b with sid := none, resources := [p] }).reverse }

/-- The one role of the scattered manifest. -/
def scatteredRole : Role :=
  { provisionerRole with
    bundles := (provisionerRole.bundles.flatMap fun b =>
      b.resources.map fun p =>
        { b with sid := none, resources := [p] }).reverse }

/-- The scattered role denies by its first bundle, and grants one pattern by two
bundles. -/
theorem provisioner_decision_eq :
    ∃ c c', provisioner.compile ∅ = .ok c ∧
      scatteredProvisioner.compile ∅ = .ok c' ∧ c.catalog = c'.catalog ∧
      c.role? "Provisioner" = some provisionerRole ∧
      c'.role? "Provisioner" = some scatteredRole ∧
      provisionerRole.bundles.map Bundle.effect = [.allow, .deny] ∧
      scatteredRole.bundles.map Bundle.effect =
        [.deny, .allow, .allow, .allow] ∧
      (∀ g, g ∈ provisionerRole.grants ↔ g ∈ scatteredRole.grants) ∧
      (∀ catalog request, (provisionerRole.evaluate catalog request).decision =
        (scatteredRole.evaluate catalog request).decision) ∧
      ∀ request, c.decide "Provisioner" request =
        c'.decide "Provisioner" request := by
  have hcompile : scatteredProvisioner.compile ∅ =
      .ok ⟨provisioner.actionCatalog, [scatteredRole], ∅⟩ := by
    decide +kernel
  have hleft : ∀ g ∈ provisionerRole.grants, g ∈ scatteredRole.grants := by
    decide +kernel
  have hright : ∀ g ∈ scatteredRole.grants, g ∈ provisionerRole.grants := by
    decide +kernel
  have hgrants : ∀ g, g ∈ provisionerRole.grants ↔ g ∈ scatteredRole.grants :=
    fun g => ⟨hleft g, hright g⟩
  obtain ⟨hdecision, hdecide⟩ := Role.decision_eq_of_mem_grants_iff hgrants
  exact ⟨_, _, compile_provisioner, hcompile, rfl, rfl, rfl, rfl, rfl, hgrants,
    hdecision, hdecide _ _ _ _ rfl rfl rfl⟩

end Manifest

end RolePolicy
