import RolePolicy.Compiled
import RolePolicy.Proofs.Composed
import RolePolicy.Proofs.Reworded.Conditions

/-!
# Roles in other words

Roles that are written in other words are composed into roles that are alike:
their bundles name the same actions, list the same patterns, and agree in
everything else.  This is so even with two catalogs, as long as they register
the same actions; the spellings in which the catalogs return them may differ.
-/

namespace RolePolicy

open Text

/-! ## Catalogs that register the same actions -/

namespace Manifest

/-- The actions that the catalog of the manifest lists, in small letters and
without blank ends. -/
def registered (m : Manifest) : List Action :=
  m.catalog.entries.flatMap fun e =>
    e.2.map fun verb => ⟨foldCase (trim e.1), foldCase (trim verb)⟩

theorem isSome_spelling?_iff {m : Manifest} {service verb : String} :
    (m.actionCatalog.spelling? service verb).isSome = true ↔
      ⟨service, foldCase verb⟩ ∈ m.registered := by
  rw [actionCatalog, Catalog.spelling?_isSome_iff]
  simp only [Catalog.mem_listedVerbs_iff, registered, List.mem_flatMap,
    List.mem_map, Action.mk.injEq]
  constructor
  · intro h
    obtain ⟨raw, ⟨e, he, hservice, hraw⟩, hverb⟩ := h
    exact ⟨e, he, raw, hraw, hservice, hverb⟩
  · intro h
    obtain ⟨e, he, raw, hraw, hservice, hverb⟩ := h
    exact ⟨raw, ⟨e, he, hservice, hraw⟩, hverb⟩

/-- A text is normalized exactly if it names a registered action, and then to
this action in some spelling. -/
theorem exists_normalize?_iff {m : Manifest} {raw : String} {name : Action} :
    (∃ a, m.actionCatalog.normalize? raw = some a ∧ a.folded = name) ↔
      Action.named? raw = some name ∧ name ∈ m.registered := by
  constructor
  · intro h
    obtain ⟨a, ha, rfl⟩ := h
    obtain ⟨hnamed, hspelling⟩ := Catalog.named?_of_normalize? ha
    refine ⟨hnamed, isSome_spelling?_iff.mp ?_⟩
    rw [actionCatalog, hspelling, Option.isSome_some]
  · intro h
    obtain ⟨hnamed, hregistered⟩ := h
    have hfolded := Action.folded_of_named? hnamed
    rw [← hfolded] at hregistered
    obtain ⟨verb, hverb⟩ :=
      Option.isSome_iff_exists.mp (isSome_spelling?_iff.mpr hregistered)
    have hnamed' : Action.named? raw = some name.folded := by
      rw [hnamed, hfolded]
    have hnormal := m.actionCatalog.normalize?_of_named? hnamed'
    rw [hverb, Option.map_some] at hnormal
    refine ⟨⟨name.service, verb⟩, hnormal, ?_⟩
    exact Option.some.inj
      ((Catalog.named?_of_normalize? hnormal).1.symm.trans hnamed)

/-- Catalogs that register the same actions normalize the same texts, to one
action each in two spellings. -/
theorem exists_normalize?_of_foldCase {m m' : Manifest}
    (hregistered : ∀ a, a ∈ m.registered ↔ a ∈ m'.registered)
    {raw raw' : String} (hfold : EqFolded (trim raw) (trim raw')) {a : Action}
    (h : m.actionCatalog.normalize? raw = some a) :
    ∃ a', m'.actionCatalog.normalize? raw' = some a' ∧ a'.folded = a.folded := by
  obtain ⟨hnamed, hknown⟩ := exists_normalize?_iff.mp ⟨a, h, rfl⟩
  have hnamed' := (Action.named?_eq_of_foldCase hfold).symm.trans hnamed
  exact exists_normalize?_iff.mpr ⟨hnamed', (hregistered _).mp hknown⟩

end Manifest

/-! ## Bundles -/

/-- The bundles say the same in other words, where `alike` tells which truth
values are the same.  Actions count up to letter case and blank ends, and
neither the order of actions, patterns and clauses counts nor how often actions
and patterns are listed. -/
structure BundleSpec.Rewords (alike : String → String → Prop)
    (s t : BundleSpec) : Prop where
  sid : s.sid = t.sid
  effect : EqFolded s.effect t.effect
  actions : ∀ raw ∈ s.actions, ∃ raw' ∈ t.actions,
    EqFolded (trim raw) (trim raw')
  actions_back : ∀ raw' ∈ t.actions, ∃ raw ∈ s.actions,
    EqFolded (trim raw) (trim raw')
  resources : ∀ raw, raw ∈ s.resources ↔ raw ∈ t.resources
  conditions :
    Reordered (ClauseSpec.Rewords alike) s.conditions t.conditions

/-- The bundles differ at most in the spelling of their actions and in the order
of their patterns. -/
structure Bundle.Alike (b b' : Bundle) : Prop where
  sid : b.sid = b'.sid
  effect : b.effect = b'.effect
  actions : ∀ name, (∃ a ∈ b.actions, a.folded = name) ↔
    ∃ a ∈ b'.actions, a.folded = name
  resources : ∀ p, p ∈ b.resources ↔ p ∈ b'.resources
  conditions : b.conditions = b'.conditions

theorem Bundle.Alike.symm {b b' : Bundle} (h : b.Alike b') : b'.Alike b where
  sid := h.sid.symm
  effect := h.effect.symm
  actions name := (h.actions name).symm
  resources p := (h.resources p).symm
  conditions := h.conditions.symm

/-- An action of one bundle is an action of the other one, as the catalog of the
other one spells it. -/
theorem Bundle.Alike.mem_of_mem {m : Manifest} {b b' : Bundle}
    (h : b.Alike b') (hb' : b'.IsComposed m.actionCatalog) {a a' : Action}
    (ha' : m.actionCatalog.spelling? a'.service a'.verb = some a'.verb)
    (hfolded : a.folded = a'.folded) (ha : a ∈ b.actions) : a' ∈ b'.actions := by
  obtain ⟨found, hfound, hsame⟩ := (h.actions _).mp ⟨a, ha, hfolded⟩
  rwa [← Catalog.eq_of_folded_eq (hb'.spelling? hfound) ha' hsame]

namespace BundleSpec

variable {alike : String → String → Prop} {s t : BundleSpec}
  {m m' : Manifest} {b b' : Bundle}

theorem Rewords.refl (hrefl : ∀ t, alike t t) (s : BundleSpec) :
    s.Rewords alike s where
  sid := rfl
  effect := rfl
  actions raw hraw := ⟨raw, hraw, rfl⟩
  actions_back raw hraw := ⟨raw, hraw, rfl⟩
  resources _ := Iff.rfl
  conditions := Reordered.refl (ClauseSpec.Rewords.refl hrefl) s.conditions

theorem Rewords.symm (hsymm : ∀ t u, alike t u → alike u t)
    (h : s.Rewords alike t) : t.Rewords alike s where
  sid := h.sid.symm
  effect := h.effect.symm
  actions raw hraw := by
    obtain ⟨raw', hraw', hfold⟩ := h.actions_back raw hraw
    exact ⟨raw', hraw', hfold.symm⟩
  actions_back raw' hraw' := by
    obtain ⟨raw, hraw, hfold⟩ := h.actions raw' hraw'
    exact ⟨raw, hraw, hfold.symm⟩
  resources raw := (h.resources raw).symm
  conditions := h.conditions.symm fun _ _ hcd => hcd.symm hsymm

/-- The same actions are named in other words. -/
theorem Rewords.exists_named?_iff (h : s.Rewords alike t) {name : Action} :
    (∃ raw ∈ s.actions, Action.named? raw = some name) ↔
      ∃ raw ∈ t.actions, Action.named? raw = some name := by
  constructor
  · intro hnamed
    obtain ⟨raw, hraw, hname⟩ := hnamed
    obtain ⟨raw', hraw', hfold⟩ := h.actions raw hraw
    exact ⟨raw', hraw', (Action.named?_eq_of_foldCase hfold).symm.trans hname⟩
  · intro hnamed
    obtain ⟨raw', hraw', hname⟩ := hnamed
    obtain ⟨raw, hraw, hfold⟩ := h.actions_back raw' hraw'
    exact ⟨raw, hraw, (Action.named?_eq_of_foldCase hfold).trans hname⟩

/-- The actions of a composed bundle are those that it was written with. -/
theorem Composes.exists_folded_iff (h : s.Composes m.actionCatalog b)
    {name : Action} :
    (∃ a ∈ b.actions, a.folded = name) ↔
      ∃ raw ∈ s.actions, Action.named? raw = some name := by
  obtain ⟨actions, hactions, hset⟩ := h.actions
  constructor
  · intro hmem
    obtain ⟨a, ha, rfl⟩ := hmem
    rw [hset, SortedSet.mem_ofList] at ha
    obtain ⟨raw, hraw, hnormal⟩ := exists_mem_of_forall₂ hactions ha
    exact ⟨raw, hraw, (Catalog.named?_of_normalize? hnormal).1⟩
  · intro hmem
    obtain ⟨raw, hraw, hname⟩ := hmem
    obtain ⟨a, ha, hnormal⟩ := exists_mem_of_forall₂_left hactions hraw
    have hfolded := (Catalog.named?_of_normalize? hnormal).1
    refine ⟨a, ?_, Option.some.inj (hfolded.symm.trans hname)⟩
    rwa [hset, SortedSet.mem_ofList]

theorem Composes.mem_resources_iff (h : s.Composes m.actionCatalog b)
    {p : ResourcePattern} :
    p ∈ b.resources ↔ ∃ raw ∈ s.resources, ResourcePattern.parse raw = .ok p := by
  constructor
  · intro hp
    exact exists_mem_of_forall₂ h.resources hp
  · intro hraw
    obtain ⟨raw, hmem, hparse⟩ := hraw
    obtain ⟨q, hq, hparse'⟩ := exists_mem_of_forall₂_left h.resources hmem
    rwa [Except.ok.inj (hparse.symm.trans hparse')]

/-- A bundle is composed in all words for it, with any catalog that registers
the same actions. -/
theorem Rewords.exists_composes (h : s.Rewords EqFolded t)
    (hregistered : ∀ a, a ∈ m.registered ↔ a ∈ m'.registered)
    (hb : s.Composes m.actionCatalog b) :
    ∃ b', t.Composes m'.actionCatalog b' := by
  obtain ⟨actions, hactions, -⟩ := hb.actions
  have hnormal : ∀ raw ∈ t.actions,
      ∃ a, m'.actionCatalog.normalize? raw = some a := by
    intro raw' hraw'
    obtain ⟨raw, hraw, hfold⟩ := h.actions_back raw' hraw'
    obtain ⟨a, -, ha⟩ := exists_mem_of_forall₂_left hactions hraw
    obtain ⟨a', ha', -⟩ :=
      Manifest.exists_normalize?_of_foldCase hregistered hfold ha
    exact ⟨a', ha'⟩
  have hparsed : ∀ raw ∈ t.resources,
      ∃ p, ResourcePattern.parse raw = .ok p := by
    intro raw hraw
    obtain ⟨p, -, hp⟩ :=
      exists_mem_of_forall₂_left hb.resources ((h.resources raw).mpr hraw)
    exact ⟨p, hp⟩
  obtain ⟨actions', hactions'⟩ := exists_forall₂ hnormal
  obtain ⟨resources', hresources'⟩ := exists_forall₂ hparsed
  refine ⟨⟨t.sid, b.effect, SortedSet.ofList actions', resources',
    b.conditions⟩, rfl, ?_, ?_, ?_, ⟨actions', hactions', rfl⟩, hresources', ?_⟩
  · have heffect := Effect.ofText?_eq_some_iff.mp hb.effect
    exact Effect.ofText?_eq_some_iff.mpr (h.effect.symm.trans heffect)
  · obtain ⟨raw, hraw⟩ := List.exists_mem_of_ne_nil _ hb.actions_ne_nil
    obtain ⟨raw', hraw', -⟩ := h.actions raw hraw
    exact List.ne_nil_of_mem hraw'
  · obtain ⟨raw, hraw⟩ := List.exists_mem_of_ne_nil _ hb.resources_ne_nil
    exact List.ne_nil_of_mem ((h.resources raw).mp hraw)
  · exact Predicate.ofSpecs_of_reordered h.conditions hb.conditions

/-- What a bundle is composed into in different words is alike. -/
theorem Rewords.alike_of_composes (h : s.Rewords EqFolded t)
    (hb : s.Composes m.actionCatalog b)
    (hb' : t.Composes m'.actionCatalog b') : b.Alike b' := by
  constructor
  · rw [hb.sid, hb'.sid, h.sid]
  · have heffect := Effect.ofText?_eq_some_iff.mp hb.effect
    have hsame := Effect.ofText?_eq_some_iff.mpr (h.effect.symm.trans heffect)
    exact Option.some.inj (hsame.symm.trans hb'.effect)
  · intro name
    rw [hb.exists_folded_iff, hb'.exists_folded_iff, h.exists_named?_iff]
  · intro p
    rw [hb.mem_resources_iff, hb'.mem_resources_iff]
    simp only [h.resources]
  · have hsame := Predicate.ofSpecs_of_reordered h.conditions hb.conditions
    exact Except.ok.inj (hsame.symm.trans hb'.conditions)

end BundleSpec

/-! ## Roles -/

/-- The roles say the same in other words, bundle by bundle. -/
structure RoleSpec.Rewords (alike : String → String → Prop)
    (s t : RoleSpec) : Prop where
  name : s.name = t.name
  kind : s.kind = t.kind
  principal : s.trust.principal = t.trust.principal
  trust : Reordered (ClauseSpec.Rewords alike) s.trust.conditions
    t.trust.conditions
  boundary : s.permissionBoundary = t.permissionBoundary
  bundles : List.Forall₂ (BundleSpec.Rewords alike) s.bundles t.bundles

/-- The roles differ at most in the spelling of actions and in the order of
patterns. -/
structure Role.Alike (r r' : Role) : Prop where
  name : r.name = r'.name
  kind : r.kind = r'.kind
  trust : r.trust = r'.trust
  boundary : r.permissionBoundary = r'.permissionBoundary
  bundles : List.Forall₂ Bundle.Alike r.bundles r'.bundles

namespace RoleSpec

variable {alike : String → String → Prop} {s t : RoleSpec} {m m' : Manifest}
  {r r' : Role}

theorem Rewords.symm (hsymm : ∀ t u, alike t u → alike u t)
    (h : s.Rewords alike t) : t.Rewords alike s where
  name := h.name.symm
  kind := h.kind.symm
  principal := h.principal.symm
  trust := h.trust.symm fun _ _ hcd => hcd.symm hsymm
  boundary := h.boundary.symm
  bundles := forall₂_symm (fun _ _ hbundle => hbundle.symm hsymm) h.bundles

/-- A role is composed in all words for it, with any catalog that registers the
same actions. -/
theorem Rewords.exists_composes (h : s.Rewords EqFolded t)
    (hregistered : ∀ a, a ∈ m.registered ↔ a ∈ m'.registered)
    (hr : s.Composes m.actionCatalog r) :
    ∃ r', t.Composes m'.actionCatalog r' := by
  have hbundles : ∀ u ∈ t.bundles,
      ∃ b', BundleSpec.Composes m'.actionCatalog u b' := by
    intro u hu
    obtain ⟨v, hv, hrewords⟩ := exists_mem_of_forall₂ h.bundles hu
    obtain ⟨b, -, hb⟩ := exists_mem_of_forall₂_left hr.bundles hv
    exact hrewords.exists_composes hregistered hb
  obtain ⟨bundles', hbundles'⟩ := exists_forall₂ hbundles
  refine ⟨⟨r.name, r.kind, r.trust, bundles', r.permissionBoundary⟩,
    hr.name.trans h.name, hr.isName, hr.kind.trans h.kind, ?_, ?_, hbundles'⟩
  · refine ⟨?_, hr.trust.isPrincipal, ?_⟩
    · rw [hr.trust.principal, h.principal]
    · exact Predicate.ofSpecs_of_reordered h.trust hr.trust.conditions
  · rw [← h.boundary]
    exact hr.boundary

/-- What a role is composed into in different words is alike. -/
theorem Rewords.alike_of_composes (h : s.Rewords EqFolded t)
    (hr : s.Composes m.actionCatalog r)
    (hr' : t.Composes m'.actionCatalog r') : r.Alike r' := by
  constructor
  · rw [hr.name, hr'.name, h.name]
  · rw [hr.kind, hr'.kind, h.kind]
  · have hconditions :=
      Predicate.ofSpecs_of_reordered h.trust hr.trust.conditions
    have hsame := Except.ok.inj (hconditions.symm.trans hr'.trust.conditions)
    have hprincipal : r.trust.principal = r'.trust.principal := by
      rw [hr.trust.principal, hr'.trust.principal, h.principal]
    exact congrArg₂ Trust.mk hprincipal hsame
  · have hboundary :=
      ResourcePattern.mapM_composeBoundary_eq_ok_iff.mpr hr.boundary
    have hboundary' :=
      ResourcePattern.mapM_composeBoundary_eq_ok_iff.mpr hr'.boundary
    rw [h.boundary] at hboundary
    exact Except.ok.inj (hboundary.symm.trans hboundary')
  · have hwritten := forall₂_comp h.bundles hr'.bundles
    apply (forall₂_common hr.bundles hwritten).imp
    intro b b' hrelated
    obtain ⟨u, hb, v, hrewords, hb'⟩ := hrelated
    exact hrewords.alike_of_composes hb hb'

end RoleSpec

end RolePolicy
