import RolePolicy.Proofs.Manifest.Merge
import RolePolicy.Proofs.Reworded.Artifacts
import RolePolicy.Proofs.Reworded.Decisions

/-!
# Findings and the spelling of actions

Unlike decisions, findings depend on the spelling of actions.  The linter judges
an action by the leading word of its verb, which ends in front of a capital, and
takes the verb as the catalog spells it.  Two catalogs that register the same
actions in other letter cases may therefore have a change or the creation of
roles found in one spelling and not in the other, and the verdicts on a role
differ exactly where this happens.  Where both catalogs spell the actions alike
the reports are equal, however the bundles write them.
-/

namespace RolePolicy

open Text

/-! ## Verdicts -/

/-- A finding without its wording: how grave it is, the rule, and the position of
the bundle. -/
structure Verdict where
  severity : Severity
  rule : LintRule
  index : Nat
  deriving DecidableEq

namespace Verdict

/-- The verdict on a broad grant, which is graver if the trust does not pin the
account. -/
def broad (pinned : Bool) (index : Nat) : Verdict :=
  if pinned then ⟨.warning, .overlyBroadGrant, index⟩
  else ⟨.error, .unboundedPrivilege, index⟩

/-- The verdict on the creation of roles without a boundary. -/
def boundary (index : Nat) : Verdict :=
  ⟨.warning, .missingPermissionBoundary, index⟩

theorem broad_index (pinned : Bool) (index : Nat) :
    (broad pinned index).index = index := by
  cases pinned <;> rfl

theorem broad_ne_boundary (pinned : Bool) (index : Nat) :
    broad pinned index ≠ boundary index := by
  cases pinned <;> simp [broad, boundary]

end Verdict

namespace Finding

def verdict (f : Finding) : Verdict :=
  ⟨f.severity, f.rule, f.bundle.index⟩

theorem verdict_broad (r : Role) (pinned : Bool) (b : Bundle) (index : Nat) :
    (broad r pinned b index).verdict = .broad pinned index := by
  cases pinned <;> rfl

end Finding

/-- The verdicts of a report on a role. -/
def LintReport.verdicts (report : LintReport) (role : String) :
    Option (List Verdict) :=
  (report.roles.get? role).map (List.map Finding.verdict)

namespace Role

variable {config : LintConfig} {r : Role} {b : Bundle}

/-- The verdicts on a role, in bundle order. -/
def verdicts (config : LintConfig) (r : Role) : List Verdict :=
  (r.lint config).map Finding.verdict

/-- The verdicts on the bundle at a position. -/
def verdictsOn (config : LintConfig) (r : Role) (b : Bundle) (index : Nat) :
    List Verdict :=
  (r.lintBundle config b index).map Finding.verdict

theorem verdicts_eq_flatMap :
    r.verdicts config =
      r.bundles.zipIdx.flatMap fun x => r.verdictsOn config x.1 x.2 :=
  List.map_flatMap

theorem verdictsOn_of_allow (hallow : b.effect = .allow) (index : Nat) :
    r.verdictsOn config b index =
      (if b.isBroad config then
        [Verdict.broad (r.trust.conditions.pinsAccount config) index] else []) ++
      if r.LacksBoundary b then [Verdict.boundary index] else [] := by
  rw [verdictsOn, lintBundle, if_pos hallow, List.map_append,
    apply_ite (List.map Finding.verdict), apply_ite (List.map Finding.verdict),
    List.map_singleton, List.map_singleton, Finding.verdict_broad]
  rfl

theorem verdictsOn_of_not_allow (hdeny : b.effect ≠ .allow) (index : Nat) :
    r.verdictsOn config b index = [] := by
  rw [verdictsOn, lintBundle, if_neg hdeny, List.map_nil]

/-- The verdicts that name a position are those on the bundle there. -/
theorem mem_verdicts_iff {v : Verdict} :
    v ∈ r.verdicts config ↔
      ∃ b, r.bundles[v.index]? = some b ∧
        v ∈ r.verdictsOn config b v.index := by
  simp only [verdicts, verdictsOn, List.mem_map, mem_lint_iff]
  constructor
  · intro h
    obtain ⟨f, ⟨b, hget, hf⟩, rfl⟩ := h
    exact ⟨b, hget, f, hf, rfl⟩
  · intro h
    obtain ⟨b, hget, f, hf, rfl⟩ := h
    exact ⟨f, ⟨b, hget, hf⟩, rfl⟩

theorem broad_mem_verdictsOn_iff (hallow : b.effect = .allow) {index : Nat} :
    Verdict.broad (r.trust.conditions.pinsAccount config) index ∈
      r.verdictsOn config b index ↔ b.isBroad config = true := by
  rw [verdictsOn_of_allow hallow, List.mem_append, List.mem_ite_nil_right,
    List.mem_ite_nil_right, List.mem_singleton, List.mem_singleton]
  simp [Verdict.broad_ne_boundary]

theorem boundary_mem_verdictsOn_iff (hallow : b.effect = .allow) {index : Nat} :
    Verdict.boundary index ∈ r.verdictsOn config b index ↔
      r.LacksBoundary b := by
  rw [verdictsOn_of_allow hallow, List.mem_append, List.mem_ite_nil_right,
    List.mem_ite_nil_right, List.mem_singleton, List.mem_singleton]
  simp [(Verdict.broad_ne_boundary _ _).symm]

end Role

/-! ## Alike roles -/

/-- The linter takes both bundles or neither for changing something, and both or
neither for creating roles, as far as it looks at them in the role: at the first
where a pattern is open to all accounts and no clause narrows it, and at the
second where nothing demands a boundary. -/
structure Bundle.JudgedAlike (config : LintConfig) (r : Role) (b b' : Bundle) :
    Prop where
  mutating : (∃ p ∈ b.resources, p.isAccountWildcard = true) →
    (∀ c ∈ b.conditions.clauses, ¬c.narrows config = true) →
      ((∃ a ∈ b.actions, a.isMutating = true) ↔
        ∃ a ∈ b'.actions, a.isMutating = true)
  creating : r.permissionBoundary = none →
    ¬b.conditions.requiresBoundary = true →
      ((⟨"iam", "CreateRole"⟩ : Action) ∈ b.actions ↔
        ⟨"iam", "CreateRole"⟩ ∈ b'.actions)

/-- The linter judges the actions of granting bundles alike, one by one. -/
def Role.JudgedAlike (config : LintConfig) (r r' : Role) : Prop :=
  List.Forall₂ (fun b b' => b.effect = .allow → b.JudgedAlike config r b')
    r.bundles r'.bundles

section Alike

variable {config : LintConfig} {r r' : Role} {b b' : Bundle}

namespace Role.Alike

/-- The linter judges the actions of alike bundles alike exactly if both or
neither are broad, and both or neither lack a boundary. -/
theorem judgedAlike_iff (hr : r.Alike r') (hb : b.Alike b') :
    b.JudgedAlike config r b' ↔
      (b.isBroad config = true ↔ b'.isBroad config = true) ∧
        (r.LacksBoundary b ↔ r'.LacksBoundary b') := by
  rw [Bundle.isBroad_iff, Bundle.isBroad_iff, LacksBoundary, LacksBoundary,
    Bundle.createsRoles_iff, Bundle.createsRoles_iff, ← hr.boundary,
    ← hb.conditions]
  simp only [← hb.resources]
  rw [and_congr_left_iff, and_congr_left_iff, and_imp, and_imp]
  constructor
  · intro h
    exact ⟨h.mutating, h.creating⟩
  · intro h
    exact ⟨h.1, h.2⟩

theorem verdictsOn_eq (hr : r.Alike r') (hb : b.Alike b')
    (h : b.effect = .allow → b.JudgedAlike config r b') (index : Nat) :
    r.verdictsOn config b index = r'.verdictsOn config b' index := by
  by_cases hallow : b.effect = .allow
  · have hallow' : b'.effect = .allow := hb.effect.symm.trans hallow
    obtain ⟨hbroad, hlacks⟩ := (hr.judgedAlike_iff hb).mp (h hallow)
    rw [verdictsOn_of_allow hallow, verdictsOn_of_allow hallow', hr.trust]
    simp only [hbroad, hlacks]
  · have hdeny : b'.effect ≠ .allow := fun heffect =>
      hallow (hb.effect.trans heffect)
    rw [verdictsOn_of_not_allow hallow, verdictsOn_of_not_allow hdeny]

theorem judgedAlike_of_mem_iff (hr : r.Alike r') (hb : b.Alike b')
    (hallow : b.effect = .allow) (index : Nat)
    (h : ∀ v, v.index = index →
      (v ∈ r.verdictsOn config b index ↔ v ∈ r'.verdictsOn config b' index)) :
    b.JudgedAlike config r b' := by
  have hallow' : b'.effect = .allow := hb.effect.symm.trans hallow
  have hbroad := h _ (Verdict.broad_index
    (r.trust.conditions.pinsAccount config) index)
  have hlacks := h (.boundary index) rfl
  rw [broad_mem_verdictsOn_iff hallow, hr.trust,
    broad_mem_verdictsOn_iff hallow'] at hbroad
  rw [boundary_mem_verdictsOn_iff hallow,
    boundary_mem_verdictsOn_iff hallow'] at hlacks
  exact (hr.judgedAlike_iff hb).mpr ⟨hbroad, hlacks⟩

/-- The verdicts on alike roles are the same exactly if the actions of their
bundles are judged alike. -/
theorem verdicts_eq_iff (h : r.Alike r') :
    r.verdicts config = r'.verdicts config ↔ r.JudgedAlike config r' := by
  constructor
  · intro hverdicts
    apply forall₂_of_getElem? h.bundles
    intro index b b' hget hget' hb hallow
    apply h.judgedAlike_of_mem_iff hb hallow index
    intro v hindex
    have hleft : v ∈ r.verdicts config ↔ v ∈ r.verdictsOn config b index := by
      simp only [mem_verdicts_iff, hindex, hget, Option.some.injEq,
        exists_eq_left']
    have hright : v ∈ r'.verdicts config ↔
        v ∈ r'.verdictsOn config b' index := by
      simp only [mem_verdicts_iff, hindex, hget', Option.some.injEq,
        exists_eq_left']
    rw [← hleft, ← hright, hverdicts]
  · intro hjudged
    have hbundles : List.Forall₂ (fun b b' => ∀ index,
        r.verdictsOn config b index = r'.verdictsOn config b' index)
        r.bundles r'.bundles :=
      h.bundles.mp (fun _ _ hb hjudge => h.verdictsOn_eq hb hjudge) hjudged
    rw [verdicts_eq_flatMap, verdicts_eq_flatMap]
    apply flatMap_eq_of_forall₂ _ (forall₂_zipIdx hbundles 0)
    intro x x' hx
    obtain ⟨b, index⟩ := x
    obtain ⟨b', index'⟩ := x'
    obtain ⟨hsame, rfl⟩ := hx
    exact hsame index

end Role.Alike

end Alike

/-! ## Reports -/

namespace CompiledRoles

/-- A report on roles of distinct names has the verdicts on each role under its
name. -/
theorem verdicts_lintAll {c : CompiledRoles}
    (h : (c.roles.map Role.name).Nodup) (config : LintConfig) (name : String) :
    (c.lintAll config).verdicts name =
      (c.role? name).map (Role.verdicts config) := by
  rw [LintReport.verdicts, get?_lintAll h, Option.map_map]
  rfl

/-- Reports depend on the normal form of roles only. -/
theorem lintAll_eq_of_map_sortResources_eq {c c' : CompiledRoles}
    (h : c.roles.map Role.sortResources = c'.roles.map Role.sortResources)
    (config : LintConfig) : c.lintAll config = c'.lintAll config := by
  rw [← c.lintAll_sortResources, ← c'.lintAll_sortResources]
  simp only [lintAll, sortResources, h]

end CompiledRoles

namespace Manifest

/-- Manifests that differ in the spelling of actions only are reported on with
the same verdicts for a role exactly if the linter judges the actions of its
bundles alike in the spellings of the two catalogs.  If the second catalog
spells the actions of all bundles like the first one, the reports are the same
to the letter. -/
theorem compile_verdicts_eq_iff_judgedAlike {m m' : Manifest}
    {s : Substitutions} {c c' : CompiledRoles} (h : m.SpeltAlike m')
    (hc : m.compile s = .ok c) (hc' : m'.compile s = .ok c')
    (config : LintConfig) :
    (∀ name,
      (c.lintAll config).verdicts name = (c'.lintAll config).verdicts name ↔
        ∀ r ∈ c.role? name, ∀ r' ∈ c'.role? name, r.JudgedAlike config r') ∧
    ((∀ r ∈ c.roles, ∀ b ∈ r.bundles, ∀ a ∈ b.actions,
        c'.catalog.knows a = true) →
      c.lintAll config = c'.lintAll config) := by
  have hroles : List.Forall₂ (RoleSpec.Rewords SameButCase) m.roles m'.roles :=
    h.roles.imp fun _ _ hrole => hrole.rewords
  have halike := alike_of_compile hroles hc hc'
  constructor
  · intro name
    rw [CompiledRoles.verdicts_lintAll (nodup_names_of_compile hc),
      CompiledRoles.verdicts_lintAll (nodup_names_of_compile hc')]
    have hfound :=
      CompiledRoles.role?_rel (fun _ _ hr => hr.name) halike name
    generalize c.role? name = o, c'.role? name = o' at hfound ⊢
    cases hfound with
    | none => simp
    | some hr => simp [hr.verdicts_eq_iff]
  · intro hknown
    apply CompiledRoles.lintAll_eq_of_map_sortResources_eq
    apply map_sortResources_eq_of_rewords hroles hc hc'
    intro r hr b hb a ha
    exact Catalog.knows_iff.mp (hknown r hr b hb a ha)

/-! ## Catalogs in other letter cases -/

theorem speltAlike_of_roles_eq {m m' : Manifest}
    (hregistered : m.registered = m'.registered) (hroles : m.roles = m'.roles) :
    m.SpeltAlike m' := by
  refine ⟨fun a => by rw [hregistered], ?_⟩
  rw [hroles, List.forall₂_same]
  intro r _
  exact RoleSpec.SpeltAlike.refl r

/-- The provisioner with a catalog that spells its actions in another way. -/
def respelledProvisioner : Manifest :=
  { provisioner with
    catalog :=
      SortedMap.ofList
        [("CLOUDFORMATION", ["CreateSTACK"]), ("iam", ["passRole"])] }

def respelledProvisionerRole : Role :=
  { provisionerRole with
    bundles :=
      List.zipWith (fun b a => { b with actions := SortedSet.singleton a })
        provisionerRole.bundles
        [⟨"cloudformation", "CreateSTACK"⟩, ⟨"iam", "passRole"⟩] }

/-- A verb may change behind its leading word, and a denied action altogether. -/
theorem respelledProvisioner_verdicts_eq :
    ∃ c c', provisioner.compile ∅ = .ok c ∧
      respelledProvisioner.compile ∅ = .ok c' ∧
      provisioner.SpeltAlike respelledProvisioner ∧
      (c.lintAll {}).verdicts "Provisioner" =
        some [⟨.error, .unboundedPrivilege, 0⟩] ∧
      (c.lintAll {}).verdicts "Provisioner" =
        (c'.lintAll {}).verdicts "Provisioner" := by
  have hcompile : respelledProvisioner.compile ∅ =
      .ok ⟨respelledProvisioner.actionCatalog, [respelledProvisionerRole],
        ∅⟩ := by
    decide +kernel
  have halike : provisioner.SpeltAlike respelledProvisioner :=
    speltAlike_of_roles_eq (by decide +kernel) rfl
  have hjudged : provisionerRole.JudgedAlike {} respelledProvisionerRole := by
    refine .cons ?_ (.cons ?_ .nil)
    · intro _
      have hstack : (Action.mk "cloudformation" "CreateStack").isMutating =
          true := by decide
      have hrespelled : (Action.mk "cloudformation" "CreateSTACK").isMutating =
          true := by decide
      constructor
      · intro _ _
        exact iff_of_true ⟨_, List.mem_cons_self, hstack⟩
          ⟨_, List.mem_cons_self, hrespelled⟩
      · intro hnone
        cases hnone
    · intro hallow
      cases hallow
  refine ⟨_, _, compile_provisioner, hcompile, halike, by decide +kernel, ?_⟩
  apply ((compile_verdicts_eq_iff_judgedAlike halike compile_provisioner hcompile
    {}).1 "Provisioner").mpr
  intro r hr r' hr'
  obtain rfl : provisionerRole = r := Option.some.inj hr
  obtain rfl : respelledProvisionerRole = r' := Option.some.inj hr'
  exact hjudged

/-- In small letters the verb has no leading word, and what the role may do is
hidden. -/
theorem creator_verdicts_ne :
    let small : Manifest :=
      { creator with catalog := (listing "iam" "createrole").catalog }
    ∃ c c', creator.compile ∅ = .ok c ∧ small.compile ∅ = .ok c' ∧
      creator.SpeltAlike small ∧
      creator.catalog.entries = [("iam", ["CreateRole"])] ∧
      small.catalog.entries = [("iam", ["createrole"])] ∧
      (c.lintAll {}).verdicts "Creator" =
        some [⟨.error, .unboundedPrivilege, 0⟩,
          ⟨.warning, .missingPermissionBoundary, 0⟩] ∧
      (c'.lintAll {}).verdicts "Creator" = some [] := by
  intro small
  have hcompile : small.compile ∅ =
      .ok ⟨small.actionCatalog, [creatorRole "createrole"], ∅⟩ := by
    decide +kernel
  exact ⟨_, _, compile_creator, hcompile,
    speltAlike_of_roles_eq (by decide +kernel) rfl, rfl, rfl,
    by decide +kernel, by decide +kernel⟩

end Manifest

end RolePolicy
