import RolePolicy.Artifact.Spec
import RolePolicy.Decision
import RolePolicy.Lint
import RolePolicy.Proofs.Composed

/-!
# Artifacts mean what their roles mean

The artifact of a compiled role, read as a role in its own right, composes into
the same role again, with the patterns of each bundle sorted and listed once.
Neither decisions nor findings nor documents depend on the order in which a
bundle lists its patterns, so nothing that can be asked of the role is lost on
the way through its documents.
-/

namespace RolePolicy

/-! ## Sorting the patterns of a role -/

/-- The bundle with its patterns in ascending order, each once. -/
def Bundle.sortResources (b : Bundle) : Bundle :=
  { b with
    resources :=
      (ascendingTexts (b.resources.map ResourcePattern.text)).map
        ResourcePattern.mk }

/-- The role with the patterns of each bundle in ascending order, each once. -/
def Role.sortResources (r : Role) : Role :=
  { r with bundles := r.bundles.map Bundle.sortResources }

theorem mem_ascendingTexts {text : String} {texts : List String} :
    text ∈ ascendingTexts texts ↔ text ∈ texts :=
  SortedSet.mem_ofList

namespace Bundle

theorem mem_sortResources {b : Bundle} {p : ResourcePattern} :
    p ∈ b.sortResources.resources ↔ p ∈ b.resources := by
  simp only [sortResources, List.mem_map, mem_ascendingTexts]
  constructor
  · rintro ⟨_, ⟨q, hq, rfl⟩, rfl⟩
    exact hq
  · intro hp
    exact ⟨p.text, ⟨p, hp, rfl⟩, rfl⟩

theorem pairwise_sortResources (b : Bundle) :
    b.sortResources.resources.Pairwise fun p q => p.text < q.text :=
  List.pairwise_map.mpr (SortedSet.ofList _).ascending

theorem any_sortResources (b : Bundle) (test : ResourcePattern → Bool) :
    b.sortResources.resources.any test = b.resources.any test := by
  rw [Bool.eq_iff_iff, List.any_eq_true, List.any_eq_true]
  simp only [mem_sortResources]

theorem appliesTo_sortResources (b : Bundle) (a : Action) (resource : String)
    (context : RequestContext) :
    b.sortResources.appliesTo a resource context =
      b.appliesTo a resource context := by
  have hcovers := b.any_sortResources (·.covers resource)
  simp only [appliesTo, ResourcePattern.anyCovers, hcovers]
  rfl

theorem isBroad_sortResources (config : LintConfig) (b : Bundle) :
    b.sortResources.isBroad config = b.isBroad config := by
  have hwildcard := b.any_sortResources ResourcePattern.isAccountWildcard
  simp only [isBroad, hwildcard]
  rfl

end Bundle

theorem Statement.ofBundle_sortResources (b : Bundle) :
    Statement.ofBundle b.sortResources = Statement.ofBundle b := by
  have hresources :
      ascendingTexts (b.sortResources.resources.map ResourcePattern.text) =
        ascendingTexts (b.resources.map ResourcePattern.text) := by
    have hid : ResourcePattern.text ∘ ResourcePattern.mk = id := rfl
    rw [Bundle.sortResources, List.map_map, hid, List.map_id, ascendingTexts,
      ascendingTexts, SortedSet.ofList_toList]
  simp only [Statement.ofBundle, hresources]
  rfl

namespace Role

theorem zipIdx_sortResources (r : Role) :
    r.sortResources.bundles.zipIdx =
      r.bundles.zipIdx.map (Prod.map Bundle.sortResources id) :=
  List.zipIdx_map

theorem matching_sortResources (r : Role) (effect : Effect) (a : Action)
    (resource : String) (context : RequestContext) :
    r.sortResources.matching effect a resource context =
      r.matching effect a resource context := by
  unfold matching
  rw [zipIdx_sortResources, List.filterMap_map]
  apply List.filterMap_congr
  rintro ⟨b, index⟩ -
  simp only [Function.comp_apply, Prod.map_apply, id_eq,
    Bundle.appliesTo_sortResources]
  rfl

/-- Decisions do not depend on the order of patterns. -/
theorem evaluate_sortResources (catalog : Catalog) (r : Role)
    (request : Request) :
    r.sortResources.evaluate catalog request = r.evaluate catalog request := by
  unfold evaluate
  simp only [matching_sortResources]

theorem lintBundle_sortResources (config : LintConfig) (r : Role) (b : Bundle)
    (index : Nat) :
    r.sortResources.lintBundle config b.sortResources index =
      r.lintBundle config b index := by
  simp only [lintBundle, Bundle.isBroad_sortResources]
  rfl

/-- Findings do not depend on the order of patterns. -/
theorem lint_sortResources (config : LintConfig) (r : Role) :
    r.sortResources.lint config = r.lint config := by
  unfold lint
  rw [zipIdx_sortResources, List.flatMap_map]
  apply List.flatMap_congr
  rintro ⟨b, index⟩ -
  exact lintBundle_sortResources config r b index

/-- Documents do not depend on the order of patterns. -/
theorem policyDocument_sortResources (r : Role) :
    r.sortResources.policyDocument = r.policyDocument := by
  simp only [policyDocument, sortResources, List.map_map]
  congr 1
  apply List.map_congr_left
  intro b _
  exact Statement.ofBundle_sortResources b

end Role

/-! ## Composing what an artifact says -/

theorem Effect.ofText?_text (effect : Effect) :
    Effect.ofText? effect.text = some effect := by
  cases effect <;> decide

/-- The statement of a composed bundle is composed into the bundle with its
patterns sorted. -/
theorem Bundle.IsComposed.statement_composes {catalog : Catalog} {b : Bundle}
    (h : b.IsComposed catalog) :
    (Statement.ofBundle b).toSpec.Composes catalog b.sortResources := by
  have htexts : (Statement.ofBundle b).action =
      (b.actions.toList.mergeSort
        fun a a' => decide (a.text ≤ a'.text)).map Action.text :=
    (List.map_mergeSort (f := Action.text) fun _ _ _ _ => rfl).symm
  have hperm := List.mergeSort_perm b.actions.toList
    fun a a' => decide (a.text ≤ a'.text)
  constructor
  · rfl
  · exact Effect.ofText?_text b.effect
  · intro hnil
    apply h.actions_ne_nil
    have hnil' : (Statement.ofBundle b).action = [] := hnil
    rw [htexts, List.map_eq_nil_iff] at hnil'
    rwa [hnil', List.nil_perm] at hperm
  · intro hnil
    apply h.resources_ne_nil
    rw [List.eq_nil_iff_forall_not_mem]
    intro p hp
    have hmem : p.text ∈ (Statement.ofBundle b).resource :=
      mem_ascendingTexts.mpr (List.mem_map_of_mem hp)
    have hnil' : (Statement.ofBundle b).resource = [] := hnil
    rw [hnil'] at hmem
    exact absurd hmem List.not_mem_nil
  · refine ⟨_, ?_, (SortedSet.ofList_eq_of_mem_iff fun a => hperm.mem_iff).symm⟩
    show List.Forall₂ _ (Statement.ofBundle b).action _
    rw [htexts, List.forall₂_map_left_iff, List.forall₂_same]
    intro a ha
    exact h.normal a (hperm.mem_iff.mp ha)
  · show List.Forall₂ _ (ascendingTexts (b.resources.map ResourcePattern.text)) _
    rw [Bundle.sortResources, List.forall₂_map_right_iff, List.forall₂_same]
    intro text htext
    obtain ⟨p, hp, rfl⟩ := List.mem_map.mp (mem_ascendingTexts.mp htext)
    exact h.parsed p hp
  · exact Predicate.ofSpecs_toSpecs_blocks h.canonical

/-- The artifact of a composed role is composed into the role with its patterns
sorted. -/
theorem Role.IsComposed.artifact_composes {c : CompiledRoles} {r : Role}
    (h : r.IsComposed c.catalog) :
    (c.artifact r).toSpec.Composes c.catalog r.sortResources := by
  constructor
  · rfl
  · exact h.isName
  · rfl
  · constructor
    · show r.trust.principal = Text.trim r.trust.principal
      rw [Text.trim, h.isTrimmed.trimChars_eq, String.ofList_toList]
    · exact h.isPrincipal
    · exact Predicate.ofSpecs_toSpecs_blocks h.canonical
  · show ComposesBoundary (r.permissionBoundary.map ResourcePattern.text)
      r.permissionBoundary
    cases hboundary : r.permissionBoundary with
    | none => rfl
    | some p =>
        obtain ⟨hstar, hparse⟩ := h.boundary p hboundary
        exact ⟨hstar, p, hparse, rfl⟩
  · show List.Forall₂ _
      ((r.bundles.map Statement.ofBundle).map Statement.toSpec)
      (r.bundles.map Bundle.sortResources)
    rw [List.map_map, List.forall₂_map_left_iff, List.forall₂_map_right_iff,
      List.forall₂_same]
    intro b hb
    exact (h.bundles b hb).statement_composes

namespace Manifest

/-- The artifact of a compiled role composes into the role with its patterns
sorted and listed once, and this role decides, lints and is written out exactly
like the original. -/
theorem compile_artifact_reads_back {m : Manifest} {s : Substitutions}
    {c : CompiledRoles} {r : Role} (hcompile : m.compile s = .ok c)
    (hrole : r ∈ c.roles) :
    ∃ r', Role.compose c.catalog (c.artifact r).toSpec = .ok r' ∧
      r' = r.sortResources ∧
      (∀ b ∈ r.bundles,
        (b.sortResources.resources.Pairwise fun p q => p.text < q.text) ∧
          ∀ p, p ∈ b.sortResources.resources ↔ p ∈ b.resources) ∧
      (∀ request, r'.evaluate c.catalog request = r.evaluate c.catalog request) ∧
      (∀ principal context,
        r'.decideAssume principal context = r.decideAssume principal context) ∧
      (∀ config, r'.lint config = r.lint config) ∧
      r'.policyDocument = r.policyDocument ∧
      r'.trustDocument = r.trustDocument := by
  have hcomposed := isComposed_of_compile hcompile hrole
  refine ⟨r.sortResources,
    Role.compose_eq_ok_iff.mpr hcomposed.artifact_composes, rfl, ?_, ?_, ?_, ?_,
    ?_, ?_⟩
  · intro b _
    exact ⟨b.pairwise_sortResources, fun p => Bundle.mem_sortResources⟩
  · exact r.evaluate_sortResources c.catalog
  · intro principal context
    rfl
  · exact fun config => r.lint_sortResources config
  · exact r.policyDocument_sortResources
  · rfl

/-- The stack bundle of the provisioner lists a pattern twice and out of
order. -/
theorem provisioner_artifact_reads_back :
    ∃ c, provisioner.compile ∅ = .ok c ∧ provisionerRole ∈ c.roles ∧
      ∃ r', Role.compose c.catalog (c.artifact provisionerRole).toSpec = .ok r' ∧
        r' = provisionerRole.sortResources ∧
        (∀ b ∈ provisionerRole.bundles,
          (b.sortResources.resources.Pairwise fun p q => p.text < q.text) ∧
            ∀ p, p ∈ b.sortResources.resources ↔ p ∈ b.resources) ∧
        (∀ request, r'.evaluate c.catalog request =
          provisionerRole.evaluate c.catalog request) ∧
        (∀ principal context, r'.decideAssume principal context =
          provisionerRole.decideAssume principal context) ∧
        (∀ config, r'.lint config = provisionerRole.lint config) ∧
        r'.policyDocument = provisionerRole.policyDocument ∧
        r'.trustDocument = provisionerRole.trustDocument := by
  have hrole : provisionerRole ∈ [provisionerRole] :=
    List.mem_singleton_self provisionerRole
  exact ⟨_, compile_provisioner, hrole,
    compile_artifact_reads_back compile_provisioner hrole⟩

end Manifest

end RolePolicy
