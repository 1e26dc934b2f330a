import RolePolicy.Proofs.Readback
import RolePolicy.Proofs.Reworded.Compiled

/-!
# Canonical output

Compiled roles with the patterns of every bundle sorted are a normal form:
documents, decisions and findings depend on it only, and a manifest in other
words compiles into roles of the same normal form.
-/

namespace RolePolicy

open Text

/-! ## A normal form of compiled roles -/

namespace CompiledRoles

/-- The compiled roles with the patterns of each bundle in ascending order, each
once. -/
def sortResources (c : CompiledRoles) : CompiledRoles :=
  { c with roles := c.roles.map Role.sortResources }

variable (c : CompiledRoles)

theorem role?_sortResources (name : String) :
    c.sortResources.role? name = (c.role? name).map Role.sortResources := by
  unfold role? sortResources
  rw [List.find?_map]
  rfl

theorem artifacts_sortResources : c.sortResources.artifacts = c.artifacts := by
  have hartifact : ∀ r : Role,
      c.sortResources.artifact r.sortResources = c.artifact r := by
    intro r
    simp only [artifact, Role.policyDocument_sortResources]
    rfl
  have houtputs : c.sortResources.outputs = c.outputs := by
    simp only [outputs, sortResources, List.map_map]
    rfl
  simp only [artifacts, houtputs]
  simp only [sortResources, List.map_map]
  congr 1
  exact List.map_congr_left fun r _ => hartifact r

theorem evaluate_sortResources (role : String) (request : Request) :
    c.sortResources.evaluate role request = c.evaluate role request := by
  unfold evaluate
  rw [role?_sortResources]
  cases c.role? role with
  | none => rfl
  | some r => exact r.evaluate_sortResources c.catalog request

theorem decideAssume_sortResources (role principal : String)
    (context : RequestContext) :
    c.sortResources.decideAssume role principal context =
      c.decideAssume role principal context := by
  unfold decideAssume
  rw [role?_sortResources]
  cases c.role? role <;> rfl

theorem lint_sortResources (role : String) (config : LintConfig) :
    c.sortResources.lint role config = c.lint role config := by
  unfold lint
  rw [role?_sortResources]
  cases c.role? role with
  | none => rfl
  | some r => exact congrArg Except.ok (Role.lint_sortResources config r)

theorem lintAll_sortResources (config : LintConfig) :
    c.sortResources.lintAll config = c.lintAll config := by
  simp only [lintAll, sortResources, List.map_map]
  congr 2
  apply List.map_congr_left
  intro r _
  exact congrArg (Prod.mk r.name) (Role.lint_sortResources config r)

end CompiledRoles

/-! ## Alike roles in one spelling -/

namespace Bundle

/-- Alike bundles list the same actions if the catalog of the second one spells
those of the first one as they are. -/
theorem Alike.actions_eq {m : Manifest} {b b' : Bundle} (h : b.Alike b')
    (hb' : b'.IsComposed m.actionCatalog)
    (hspelled : ∀ a ∈ b.actions,
      m.actionCatalog.spelling? a.service a.verb = some a.verb) :
    b.actions = b'.actions := by
  apply SortedSet.ext_mem
  intro a
  constructor
  · intro ha
    exact h.mem_of_mem hb' (hspelled a ha) rfl ha
  · intro ha
    obtain ⟨found, hfound, hfolded⟩ := (h.actions _).mpr ⟨a, ha, rfl⟩
    rwa [← Catalog.eq_of_folded_eq (hspelled found hfound) (hb'.spelling? ha)
      hfolded]

theorem Alike.sortResources_eq {b b' : Bundle} (h : b.Alike b')
    (hactions : b.actions = b'.actions) :
    b.sortResources = b'.sortResources := by
  have hresources : ascendingTexts (b.resources.map ResourcePattern.text) =
      ascendingTexts (b'.resources.map ResourcePattern.text) := by
    unfold ascendingTexts
    congr 1
    apply SortedSet.ext_mem
    intro text
    simp only [SortedSet.mem_ofList, List.mem_map, h.resources]
  unfold sortResources
  rw [Bundle.mk.injEq, hresources]
  exact ⟨h.sid, h.effect, hactions, rfl, h.conditions⟩

end Bundle

theorem Role.Alike.sortResources_eq {m : Manifest} {r r' : Role}
    (h : r.Alike r') (hr' : r'.IsComposed m.actionCatalog)
    (hspelled : ∀ b ∈ r.bundles, ∀ a ∈ b.actions,
      m.actionCatalog.spelling? a.service a.verb = some a.verb) :
    r.sortResources = r'.sortResources := by
  have hbundles : r.bundles.map Bundle.sortResources =
      r'.bundles.map Bundle.sortResources := by
    have halike : List.Forall₂
        (fun b b' => b.sortResources = b'.sortResources) r.bundles r'.bundles :=
      forall₂_imp_of_mem h.bundles fun b hb b' hb' halike =>
        halike.sortResources_eq
          (halike.actions_eq (hr'.bundles b' hb') (hspelled b hb))
    exact map_eq_map_of_forall₂ (fun _ _ hsame => hsame) halike
  unfold sortResources
  rw [Role.mk.injEq, hbundles]
  exact ⟨h.name, h.kind, h.trust, rfl, h.boundary⟩

namespace Manifest

/-- Manifests that say the same compile into roles of one normal form if the
second catalog spells all actions of the first roles as they are. -/
theorem map_sortResources_eq_of_rewords {m m' : Manifest} {s : Substitutions}
    {c c' : CompiledRoles}
    (hroles : List.Forall₂ (RoleSpec.Rewords SameButCase) m.roles m'.roles)
    (hc : m.compile s = .ok c) (hc' : m'.compile s = .ok c')
    (hspelled : ∀ r ∈ c.roles, ∀ b ∈ r.bundles, ∀ a ∈ b.actions,
      c'.catalog.spelling? a.service a.verb = some a.verb) :
    c.roles.map Role.sortResources = c'.roles.map Role.sortResources := by
  have hsame : List.Forall₂ (fun r r' => r.sortResources = r'.sortResources)
      c.roles c'.roles := by
    apply forall₂_imp_of_mem (alike_of_compile hroles hc hc')
    intro r hr r' hr' halike
    have hcomposed := isComposed_of_compile hc' hr'
    have hspelledOn := hspelled r hr
    rw [catalog_of_compile hc'] at hcomposed hspelledOn
    exact halike.sortResources_eq hcomposed hspelledOn
  exact map_eq_map_of_forall₂ (fun _ _ hr => hr) hsame

/-- The manifests list the same actions in the same spellings, and their roles
say the same in other words. -/
structure Rewords (alike : String → String → Prop) (m m' : Manifest) :
    Prop where
  catalog : m.catalog = m'.catalog
  roles : List.Forall₂ (RoleSpec.Rewords alike) m.roles m'.roles

/-- Manifests that say the same compile into roles of one normal form. -/
theorem Rewords.sortResources_eq {m m' : Manifest}
    (h : m.Rewords SameButCase m') {s : Substitutions} {c c' : CompiledRoles}
    (hc : m.compile s = .ok c) (hc' : m'.compile s = .ok c') :
    c.sortResources = c'.sortResources := by
  obtain ⟨-, -, -, hsubstitutions⟩ := compile_eq_ok_iff.mp hc
  obtain ⟨-, -, -, hsubstitutions'⟩ := compile_eq_ok_iff.mp hc'
  have hcatalog : c.catalog = c'.catalog := by
    rw [catalog_of_compile hc, catalog_of_compile hc', actionCatalog,
      actionCatalog, h.catalog]
  have hspelled : ∀ r ∈ c.roles, ∀ b ∈ r.bundles, ∀ a ∈ b.actions,
      c'.catalog.spelling? a.service a.verb = some a.verb := by
    intro r hr b hb a ha
    have hcomposed := isComposed_of_compile hc hr
    rw [catalog_of_compile hc] at hcomposed
    rw [← hcatalog, catalog_of_compile hc]
    exact (hcomposed.bundles b hb).spelling? ha
  unfold CompiledRoles.sortResources
  rw [CompiledRoles.mk.injEq,
    map_sortResources_eq_of_rewords h.roles hc hc' hspelled]
  exact ⟨hcatalog, rfl, hsubstitutions.trans hsubstitutions'.symm⟩

/-- Manifests that say the same, in whatever words, both compile or both fail,
and what they compile into is written out, decides and is found fault with in
the same way. -/
theorem compile_agrees_of_rewords {m m' : Manifest}
    (h : m.Rewords SameButCase m') (s : Substitutions) :
    ((∃ c, m.compile s = .ok c) ↔ ∃ c', m'.compile s = .ok c') ∧
      ∀ c c', m.compile s = .ok c → m'.compile s = .ok c' →
        c.artifacts = c'.artifacts ∧
        c.artifacts.toJsonText = c'.artifacts.toJsonText ∧
        (∀ role request, c.evaluate role request = c'.evaluate role request) ∧
        (∀ role principal context, c.decideAssume role principal context =
          c'.decideAssume role principal context) ∧
        (∀ role config, c.lint role config = c'.lint role config) ∧
        ∀ config, c.lintAll config = c'.lintAll config := by
  constructor
  · apply exists_compile_iff_of_rewords _ h.roles
    intro a
    rw [registered, registered, h.catalog]
  · intro c c' hc hc'
    have hsame := h.sortResources_eq hc hc'
    have hartifacts : c.artifacts = c'.artifacts := by
      rw [← c.artifacts_sortResources, hsame, c'.artifacts_sortResources]
    refine ⟨hartifacts, congrArg Artifacts.toJsonText hartifacts, ?_, ?_, ?_, ?_⟩
    · intro role request
      rw [← c.evaluate_sortResources, hsame, c'.evaluate_sortResources]
    · intro role principal context
      rw [← c.decideAssume_sortResources, hsame, c'.decideAssume_sortResources]
    · intro role config
      rw [← c.lint_sortResources, hsame, c'.lint_sortResources]
    · intro config
      rw [← c.lintAll_sortResources, hsame, c'.lintAll_sortResources]

/-! ## A manifest in two forms -/

/-- A manifest of one role, with the truth value of the `Null` clause of its
trust. -/
def watcher (truth : String) : Manifest where
  catalog := SortedMap.ofList [("s3", ["GetObject", "DeleteObject"])]
  roles :=
    [{ name := "Watcher"
       kind := .operational
       trust :=
        { principal := "datazone.amazonaws.com"
          conditions :=
            [{ operator := "Null"
               key := "aws:SourceArn"
               values := [truth] }] }
       permissionBoundary := none
       bundles :=
        [{ sid := none
           effect := "allow"
           actions := ["s3:GetObject", "s3:DeleteObject"]
           resources := ["arn:aws:s3:::logs/*", "arn:aws:s3:::data/*"]
           conditions :=
            [{ operator := "StringEquals"
               key := "aws:SourceAccount"
               values := ["111111111111", "222222222222"] }] }] }]

/-- The same manifest in other words. -/
def loudWatcher : Manifest where
  catalog := SortedMap.ofList [("s3", ["GetObject", "DeleteObject"])]
  roles :=
    [{ name := "Watcher"
       kind := .operational
       trust :=
        { principal := "datazone.amazonaws.com"
          conditions :=
            [{ operator := "Null"
               key := "aws:SourceArn"
               values := ["FALSE"] }] }
       permissionBoundary := none
       bundles :=
        [{ sid := none
           effect := "ALLOW"
           actions := [" S3:deleteobject ", "s3:GETOBJECT", "s3:GetObject"]
           resources :=
            ["arn:aws:s3:::data/*", "arn:aws:s3:::logs/*", "arn:aws:s3:::data/*"]
           conditions :=
            [{ operator := "Equals"
               key := "aws:SourceAccount"
               values :=
                ["222222222222", "111111111111", "222222222222"] }] }] }]

/-- The compiled role. -/
def watcherRole : Role where
  name := "Watcher"
  kind := .operational
  trust :=
    ⟨"datazone.amazonaws.com",
      ⟨[{ operator := .null
          quantifier := .plain
          key := "aws:SourceArn"
          values := SortedSet.singleton "false" }]⟩⟩
  bundles :=
    [{ sid := none
       effect := .allow
       actions :=
        SortedSet.ofList [⟨"s3", "GetObject"⟩, ⟨"s3", "DeleteObject"⟩]
       resources := [⟨"arn:aws:s3:::logs/*"⟩, ⟨"arn:aws:s3:::data/*"⟩]
       conditions :=
        ⟨[{ operator := .equals
            quantifier := .plain
            key := "aws:SourceAccount"
            values :=
              SortedSet.ofList ["111111111111", "222222222222"] }]⟩ }]
  permissionBoundary := none

/-- The other form of the manifest differs from it in everything that does not
count, except in the number of clauses. -/
theorem rewords_loudWatcher :
    (watcher "false").Rewords SameButCase loudWatcher := by
  refine ⟨rfl, .cons ⟨rfl, rfl, rfl, .of_forall₂ (.cons ?_ .nil), rfl,
    .cons ⟨rfl, by decide +kernel, by decide +kernel, by decide +kernel, ?_,
      .of_forall₂ (.cons ?_ .nil)⟩ .nil⟩ .nil⟩
  · have hnull : Operator.Spells "Null" .plain .null := ⟨"Null", by decide, rfl⟩
    have htruth : SameButCase "false" "FALSE" :=
      ⟨by decide +kernel, by decide +kernel⟩
    exact .of_spells hnull hnull rfl (fun _ => .cons htruth .nil)
      fun hother => absurd rfl hother
  · intro raw
    simp [or_comm]
  · have hlong : Operator.Spells "StringEquals" .plain .equals :=
      ⟨"StringEquals", by decide, rfl⟩
    have hshort : Operator.Spells "Equals" .plain .equals :=
      ⟨"Equals", by decide, rfl⟩
    refine .of_spells hlong hshort rfl (fun hnull => by cases hnull) ?_
    intro _ value
    simp only [List.mem_cons, List.not_mem_nil, or_false]
    grind

theorem watcher_compile_agrees :
    ∃ c c', (watcher "false").compile ∅ = .ok c ∧
      loudWatcher.compile ∅ = .ok c' ∧ c.roles = [watcherRole] ∧
      c.artifacts = c'.artifacts ∧
      c.artifacts.toJsonText = c'.artifacts.toJsonText ∧
      (∀ role request, c.evaluate role request = c'.evaluate role request) ∧
      (∀ role principal context, c.decideAssume role principal context =
        c'.decideAssume role principal context) ∧
      (∀ role config, c.lint role config = c'.lint role config) ∧
      ∀ config, c.lintAll config = c'.lintAll config := by
  have hcompile : (watcher "false").compile ∅ =
      .ok ⟨(watcher "false").actionCatalog, [watcherRole], ∅⟩ := by
    decide +kernel
  obtain ⟨hiff, hagrees⟩ := compile_agrees_of_rewords rewords_loudWatcher ∅
  obtain ⟨c', hcompile'⟩ := hiff.mp ⟨_, hcompile⟩
  exact ⟨_, c', hcompile, hcompile', rfl, hagrees _ c' hcompile hcompile'⟩

/-- A placeholder is looked up as it is written: letter case counts in its name
even where the placeholder stands for a truth value. -/
theorem watcher_placeholder_case_counts :
    let small := watcher "$\x7babsent\x7d"
    let capital := watcher "$\x7bABSENT\x7d"
    let s : Substitutions := SortedMap.ofList [("absent", "false")]
    small.Rewords EqFolded capital ∧ (∃ c, small.compile s = .ok c) ∧
      ¬∃ c, capital.compile s = .ok c := by
  intro small capital s
  have hrefl : ∀ t, EqFolded t t := fun _ => rfl
  refine ⟨⟨rfl, .cons ⟨rfl, rfl, rfl, .of_forall₂ (.cons ?_ .nil), rfl,
    .cons (BundleSpec.Rewords.refl hrefl _) .nil⟩ .nil⟩, ?_, ?_⟩
  · have hnull : Operator.Spells "Null" .plain .null := ⟨"Null", by decide, rfl⟩
    have htruth : EqFolded "$\x7babsent\x7d" "$\x7bABSENT\x7d" := by
      decide +kernel
    exact .of_spells hnull hnull rfl (fun _ => .cons htruth .nil)
      fun hother => absurd rfl hother
  · exact ⟨⟨small.actionCatalog, [watcherRole], s⟩, by decide +kernel⟩
  · intro hcompiles
    obtain ⟨c, hc⟩ := hcompiles
    have herror : capital.compile s =
        .error (.malformedClause (.badNullValue "aws:SourceArn")) := by
      decide +kernel
    rw [herror] at hc
    cases hc

end Manifest

end RolePolicy
