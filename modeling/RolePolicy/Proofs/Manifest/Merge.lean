import Mathlib.Data.List.Nodup
import RolePolicy.Proofs.Lint
import RolePolicy.Proofs.Manifest.Documents
import RolePolicy.Proofs.Validity.Manifest

/-!
# Merged manifests

Merging puts the verbs of a second manifest behind those that the first one
lists under the same name.  A catalog, however, is built in the order of these
names, in which a name counts with its letter case and its blank ends.  The
spelling of an action is therefore its first one under the least name of its
service, and a later manifest respells an action exactly if it lists it under a
lesser name of the service and in another spelling.
-/

namespace RolePolicy

open Text

/-! ## Listings of a catalog -/

namespace Manifest

/-- The verbs listed under a name of a service, spelled exactly like this. -/
def verbs (m : Manifest) (name : String) : List String :=
  (m.catalog.get? name).getD []

/-- The listing from which a catalog takes the spelling of an action: the verb
is the first one of its spelling under the name, and no lesser name of the
service lists it. -/
structure ListsFirst (m : Manifest) (a : Action) (name verb : String) :
    Prop where
  service : foldCase (trim name) = a.service
  first : (m.verbs name).find? (fun v => foldCase (trim v) = foldCase a.verb) =
    some verb
  least : ∀ name' < name, foldCase (trim name') = a.service →
    ∀ v ∈ m.verbs name', foldCase (trim v) ≠ foldCase a.verb

theorem verbs_of_mem {m : Manifest} {e : String × List String}
    (h : e ∈ m.catalog.entries) : m.verbs e.1 = e.2 := by
  rw [verbs, SortedMap.get?_eq_some_iff.mpr h, Option.getD_some]

theorem mem_entries_of_mem_verbs {m : Manifest} {name verb : String}
    (h : verb ∈ m.verbs name) : (name, m.verbs name) ∈ m.catalog.entries := by
  rw [← SortedMap.get?_eq_some_iff]
  unfold verbs at h ⊢
  cases hget : m.catalog.get? name with
  | none => simp [hget] at h
  | some listed => rfl

/-- An action is listed first in one place. -/
theorem ListsFirst.unique {m : Manifest} {a : Action}
    {name name' verb verb' : String} (h : m.ListsFirst a name verb)
    (h' : m.ListsFirst a name' verb') : name = name' ∧ verb = verb' := by
  have hnot : ∀ {name name' verb verb'}, m.ListsFirst a name verb →
      m.ListsFirst a name' verb' → ¬name < name' := by
    intro name name' verb verb' h h' hlt
    have hspelled := List.find?_some h.first
    exact h'.least name hlt h.service verb (List.mem_of_find?_eq_some h.first)
      (by simpa using hspelled)
  obtain rfl := StrictTotalOrder.eq_of_not_lt (hnot h h') (hnot h' h)
  exact ⟨rfl, Option.some.inj (h.first.symm.trans h'.first)⟩

/-- The catalog of a manifest spells an action like its first listing. -/
theorem spelling?_actionCatalog {m : Manifest} {service verb spelling : String} :
    m.actionCatalog.spelling? service verb = some spelling ↔
      ∃ name listed, m.ListsFirst ⟨service, verb⟩ name listed ∧
        trim listed = spelling := by
  rw [actionCatalog, Catalog.spelling?_ofServices, Option.map_eq_some_iff,
    Catalog.listedVerbs]
  simp only [List.find?_flatMap, List.findSome?_eq_some_iff]
  constructor
  · intro h
    obtain ⟨listed, ⟨front, e, back, hentries, hfind, hfront⟩, hspelling⟩ := h
    have he : e ∈ m.catalog.entries := by simp [hentries]
    have hservice : foldCase (trim e.1) = service := by
      by_contra hother
      simp [hother] at hfind
    rw [if_pos hservice, ← verbs_of_mem he] at hfind
    refine ⟨e.1, listed, ⟨hservice, hfind, ?_⟩, hspelling⟩
    intro name hlt hname v hv hspelled
    have hmem := mem_entries_of_mem_verbs hv
    -- A lesser name stands in front, where nothing is found.
    have hbefore : (name, m.verbs name) ∈ front :=
      (SortedMap.mem_front_iff hentries).mpr ⟨hmem, hlt⟩
    have hnone := hfront _ hbefore
    rw [if_pos hname, List.find?_eq_none] at hnone
    exact hnone v hv (by simpa using hspelled)
  · intro h
    obtain ⟨name, listed, hfirst, hspelling⟩ := h
    have hfind := hfirst.first
    have hmem := mem_entries_of_mem_verbs (List.mem_of_find?_eq_some hfind)
    obtain ⟨front, back, hentries⟩ := List.append_of_mem hmem
    refine ⟨listed, ⟨front, _, back, hentries, ?_, ?_⟩, hspelling⟩
    · rw [if_pos hfirst.service]
      exact hfind
    · intro e he
      obtain ⟨hin, hlt⟩ := (SortedMap.mem_front_iff hentries).mp he
      by_cases hservice : foldCase (trim e.1) = service
      · rw [if_pos hservice, List.find?_eq_none, ← verbs_of_mem hin]
        intro v hv hspelled
        exact hfirst.least e.1 hlt hservice v hv (by simpa using hspelled)
      · simp [hservice]

/-! ## Listings of a merged catalog -/

/-- Merging lists the verbs of the first manifest in front, name by name. -/
theorem verbs_merge (m m' : Manifest) (name : String) :
    (m.merge m').verbs name = m.verbs name ++ m'.verbs name := by
  rw [verbs, catalog_merge, get?_appendVerbs, verbs, verbs]
  cases m.catalog.get? name with
  | none => simp
  | some listed => cases m'.catalog.get? name <;> simp

/-- An action that is listed somewhere has a first listing. -/
theorem exists_listsFirst {m : Manifest} {a : Action} {name verb : String}
    (hservice : foldCase (trim name) = a.service) (hverb : verb ∈ m.verbs name)
    (hspelled : foldCase (trim verb) = foldCase a.verb) :
    ∃ first listed, m.ListsFirst a first listed ∧ ¬name < first := by
  have hknown : (m.actionCatalog.spelling? a.service a.verb).isSome = true := by
    rw [actionCatalog, Catalog.spelling?_isSome_iff]
    refine ⟨verb, Catalog.mem_listedVerbs_iff.mpr ?_, hspelled⟩
    exact ⟨_, mem_entries_of_mem_verbs hverb, hservice, hverb⟩
  obtain ⟨spelling, hspelling⟩ := Option.isSome_iff_exists.mp hknown
  obtain ⟨first, listed, hfirst, -⟩ := spelling?_actionCatalog.mp hspelling
  refine ⟨first, listed, hfirst, ?_⟩
  intro hlt
  exact hfirst.least name hlt hservice verb hverb hspelled

/-- A listing of the first manifest stays the first one, unless the second
manifest has one under a lesser name. -/
theorem ListsFirst.merge_left {m m' : Manifest} {a : Action}
    {name verb : String} (h : m.ListsFirst a name verb)
    (hleast : ∀ name' verb', m'.ListsFirst a name' verb' → ¬name' < name) :
    (m.merge m').ListsFirst a name verb := by
  constructor
  · exact h.service
  · rw [verbs_merge, List.find?_append, h.first, Option.some_or]
  · intro name' hlt hservice v hv hspelled
    rw [verbs_merge, List.mem_append] at hv
    rcases hv with hv | hv
    · exact h.least name' hlt hservice v hv hspelled
    · obtain ⟨first, listed, hfirst, hnot⟩ :=
        exists_listsFirst hservice hv hspelled
      exact hleast first listed hfirst
        (StrictTotalOrder.lt_of_not_lt_of_lt hnot hlt)

/-- A listing of the second manifest is the first one if the first manifest
lists the action under greater names only. -/
theorem ListsFirst.merge_right {m m' : Manifest} {a : Action}
    {name verb : String} (h : m'.ListsFirst a name verb)
    (hleast : ∀ name' verb', m.ListsFirst a name' verb' → name < name') :
    (m.merge m').ListsFirst a name verb := by
  have hnone : ∀ name' v, v ∈ m.verbs name' →
      foldCase (trim name') = a.service →
        foldCase (trim v) = foldCase a.verb → name < name' := by
    intro name' v hv hservice hspelled
    obtain ⟨first, listed, hfirst, hnot⟩ :=
      exists_listsFirst hservice hv hspelled
    exact StrictTotalOrder.lt_of_lt_of_not_lt (hleast first listed hfirst) hnot
  constructor
  · exact h.service
  · have hfind : (m.verbs name).find?
        (fun v => foldCase (trim v) = foldCase a.verb) = none := by
      rw [List.find?_eq_none]
      intro v hv hspelled
      exact StrictTotalOrder.irrefl name
        (hnone name v hv h.service (by simpa using hspelled))
    rw [verbs_merge, List.find?_append, hfind, Option.none_or, h.first]
  · intro name' hlt hservice v hv hspelled
    rw [verbs_merge, List.mem_append] at hv
    rcases hv with hv | hv
    · exact StrictTotalOrder.asymm hlt (hnone name' v hv hservice hspelled)
    · exact h.least name' hlt hservice v hv hspelled

/-- The second manifest lists the action under a lesser name of its service and
in another spelling. -/
def RespelledBy (m m' : Manifest) (a : Action) : Prop :=
  ∃ name verb name' verb', m.ListsFirst a name verb ∧
    m'.ListsFirst a name' verb' ∧ name' < name ∧ trim verb' ≠ trim verb

/-- A merged catalog spells an action like the first manifest, unless the second
one respells it. -/
theorem spelling?_merge {m : Manifest} (m' : Manifest) {a : Action}
    (h : m.actionCatalog.spelling? a.service a.verb = some a.verb) :
    ∃ verb, (m.merge m').actionCatalog.spelling? a.service a.verb = some verb ∧
      foldCase verb = foldCase a.verb ∧
        (verb = a.verb ↔ ¬m.RespelledBy m' a) := by
  obtain ⟨name, listed, hfirst, hlisted⟩ := spelling?_actionCatalog.mp h
  by_cases hlesser : ∃ name' listed', m'.ListsFirst a name' listed' ∧ name' < name
  · obtain ⟨name', listed', hfirst', hlt⟩ := hlesser
    have hmerged : (m.merge m').ListsFirst a name' listed' := by
      apply hfirst'.merge_right
      intro name'' verb'' h''
      rwa [(h''.unique hfirst).1]
    have hspelled := List.find?_some hfirst'.first
    refine ⟨trim listed',
      spelling?_actionCatalog.mpr ⟨name', listed', hmerged, rfl⟩,
      by simpa using hspelled, ?_⟩
    rw [← hlisted]
    constructor
    · intro hsame hrespelled
      obtain ⟨_, _, _, _, h₁, h₂, -, hne⟩ := hrespelled
      rw [(h₁.unique hfirst).2, (h₂.unique hfirst').2] at hne
      exact hne hsame
    · intro hnot
      by_contra hne
      exact hnot ⟨name, listed, name', listed', hfirst, hfirst', hlt, hne⟩
  · have hmerged : (m.merge m').ListsFirst a name listed := by
      apply hfirst.merge_left
      intro name' listed' hfirst' hlt
      exact hlesser ⟨name', listed', hfirst', hlt⟩
    refine ⟨a.verb, spelling?_actionCatalog.mpr ⟨name, listed, hmerged, hlisted⟩,
      rfl, ?_⟩
    refine iff_of_true rfl ?_
    intro hrespelled
    obtain ⟨_, _, name', listed', h₁, h₂, hlt, -⟩ := hrespelled
    rw [(h₁.unique hfirst).1] at hlt
    exact hlesser ⟨name', listed', h₂, hlt⟩

/-- A text that the first manifest knows is an action of the merged one. -/
theorem normalize?_merge {m : Manifest} (m' : Manifest) {raw : String}
    {a : Action} (h : m.actionCatalog.normalize? raw = some a) :
    ∃ verb,
      (m.merge m').actionCatalog.normalize? raw = some ⟨a.service, verb⟩ ∧
        foldCase verb = foldCase a.verb ∧
          (verb = a.verb ↔ ¬m.RespelledBy m' a) := by
  obtain ⟨hnamed, hspelling⟩ := Catalog.named?_of_normalize? h
  obtain ⟨verb, hmerged, hfold, hiff⟩ := spelling?_merge m' hspelling
  refine ⟨verb, ?_, hfold, hiff⟩
  rw [Catalog.normalize?_of_named? _ hnamed, hmerged, Option.map_some]

end Manifest

/-! ## Roles of a merged manifest -/

/-- A bundle composed with one catalog is composed alike with another one that
spells its actions the same. -/
theorem BundleSpec.Composes.of_normalize? {catalog catalog' : Catalog}
    {s : BundleSpec} {b : Bundle} (h : s.Composes catalog b)
    (hsame : ∀ raw, ∀ a ∈ b.actions, catalog.normalize? raw = some a →
      catalog'.normalize? raw = some a) : s.Composes catalog' b := by
  obtain ⟨actions, hactions, hset⟩ := h.actions
  refine { h with actions := ⟨actions, ?_, hset⟩ }
  apply forall₂_imp_of_mem hactions
  intro raw _ a ha
  apply hsame raw a
  rwa [hset, SortedSet.mem_ofList]

/-- Composing has at most one result. -/
theorem BundleSpec.Composes.unique {catalog : Catalog} {s : BundleSpec}
    {b b' : Bundle} (h : s.Composes catalog b) (h' : s.Composes catalog b') :
    b = b' := by
  have hb : Bundle.compose "" catalog s 0 = .ok b :=
    Bundle.compose_eq_ok_iff.mpr h
  have hb' : Bundle.compose "" catalog s 0 = .ok b' :=
    Bundle.compose_eq_ok_iff.mpr h'
  exact Except.ok.inj (hb.symm.trans hb')

namespace Manifest

/-- In a merged manifest a role of the first one keeps its place by name, all
that it has besides bundles, and every bundle without a respelled action. -/
theorem exists_role_of_compile_merge {m m' : Manifest} {s : Substitutions}
    {c c' : CompiledRoles} (hfirst : m.compile s = .ok c)
    (hmerged : (m.merge m').compile s = .ok c') {r : Role} (hr : r ∈ c.roles) :
    ∃ r' ∈ c'.roles, r'.name = r.name ∧ r'.trust = r.trust ∧
      r'.permissionBoundary = r.permissionBoundary ∧
        List.Forall₂ (fun b b' =>
          (∀ a ∈ b.actions, ¬m.RespelledBy m' a) → b' = b)
          r.bundles r'.bundles := by
  obtain ⟨-, hroles, -, -⟩ := compile_eq_ok_iff.mp hfirst
  obtain ⟨-, hroles', -, -⟩ := compile_eq_ok_iff.mp hmerged
  obtain ⟨written, hwritten, hcomposes⟩ := exists_mem_of_forall₂ hroles hr
  have hwritten' : written ∈ (s.applyManifest (m.merge m')).roles := by
    simp only [Substitutions.applyManifest, merge, List.map_append,
      List.mem_append]
    exact Or.inl hwritten
  obtain ⟨r', hr', hcomposes'⟩ := exists_mem_of_forall₂_left hroles' hwritten'
  refine ⟨r', hr', hcomposes'.name.trans hcomposes.name.symm, ?_, ?_, ?_⟩
  · have htrust : Trust.compose "" written.trust = .ok r.trust :=
      Trust.compose_eq_ok_iff.mpr hcomposes.trust
    have htrust' : Trust.compose "" written.trust = .ok r'.trust :=
      Trust.compose_eq_ok_iff.mpr hcomposes'.trust
    exact Except.ok.inj (htrust'.symm.trans htrust)
  · have hboundary :=
      ResourcePattern.mapM_composeBoundary_eq_ok_iff.mpr hcomposes.boundary
    have hboundary' :=
      ResourcePattern.mapM_composeBoundary_eq_ok_iff.mpr hcomposes'.boundary
    exact Except.ok.inj (hboundary'.symm.trans hboundary)
  · apply (forall₂_common hcomposes.bundles hcomposes'.bundles).imp
    intro b b' hcommon hkept
    obtain ⟨spec, hspec, hspec'⟩ := hcommon
    have hsame : spec.Composes c'.catalog b := by
      apply BundleSpec.Composes.of_normalize? hspec
      intro raw a ha hraw
      rw [catalog_of_compile hfirst] at hraw
      obtain ⟨verb, hverb, -, hiff⟩ := normalize?_merge m' hraw
      rw [catalog_of_compile hmerged, hverb, hiff.mpr (hkept a ha)]
    exact hspec'.unique hsame

/-- What a manifest compiles into is kept under merging a second manifest behind
it, text by text and bundle by bundle, exactly as far as the second one respells
no action. -/
theorem compile_merge_keeps_iff {m m' : Manifest} {s : Substitutions}
    {c c' : CompiledRoles} (hfirst : m.compile s = .ok c)
    (hmerged : (m.merge m').compile s = .ok c') :
    (∀ raw a, c.catalog.normalize? raw = some a →
      ∃ verb, c'.catalog.normalize? raw = some ⟨a.service, verb⟩ ∧
        foldCase verb = foldCase a.verb ∧
          (verb = a.verb ↔ ¬m.RespelledBy m' a)) ∧
    ∀ r ∈ c.roles, c.role? r.name = some r ∧
      ∃ r', c'.role? r.name = some r' ∧
        ∀ index b, r.bundles[index]? = some b →
          (∀ a ∈ b.actions, ¬m.RespelledBy m' a) →
            r'.bundles[index]? = some b ∧
              ∀ config f, f.bundle.index = index →
                (f ∈ r'.lint config ↔ f ∈ r.lint config) := by
  constructor
  · intro raw a hraw
    rw [catalog_of_compile hfirst] at hraw
    rw [catalog_of_compile hmerged]
    exact normalize?_merge m' hraw
  · intro r hr
    obtain ⟨r', hr', hname, htrust, hboundary, hbundles⟩ :=
      exists_role_of_compile_merge hfirst hmerged hr
    refine ⟨role?_of_mem hfirst hr, r', ?_, ?_⟩
    · rw [← hname]
      exact role?_of_mem hmerged hr'
    · intro index b hb hkept
      obtain ⟨b', hb', hsame⟩ := getElem?_of_forall₂ hbundles hb
      rw [hsame hkept] at hb'
      refine ⟨hb', ?_⟩
      intro config f hindex
      rw [Role.mem_lint_iff, Role.mem_lint_iff, hindex, hb, hb']
      simp only [Role.lintBundle_congr hname htrust hboundary]

/-! ## A respelled action -/

/-- A catalog of one verb, under a name of its service. -/
def listing (name verb : String) : Manifest where
  catalog := SortedMap.ofList [(name, [verb])]
  roles := []

/-- A manifest whose one role may create roles. -/
def creator : Manifest where
  catalog := (listing "iam" "CreateRole").catalog
  roles :=
    [{ name := "Creator"
       kind := .provisioning
       trust := { principal := "datazone.amazonaws.com", conditions := [] }
       permissionBoundary := none
       bundles :=
        [{ sid := none
           effect := "allow"
           actions := ["iam:CreateRole"]
           resources := ["*"]
           conditions := [] }] }]

/-- The compiled role, with the verb as its catalog spells it. -/
def creatorRole (verb : String) : Role where
  name := "Creator"
  kind := .provisioning
  trust := ⟨"datazone.amazonaws.com", .unconditional⟩
  bundles :=
    [{ sid := none
       effect := .allow
       actions := SortedSet.singleton ⟨"iam", verb⟩
       resources := [⟨"*"⟩]
       conditions := .unconditional }]
  permissionBoundary := none

theorem compile_creator :
    creator.compile ∅ =
      .ok ⟨creator.actionCatalog, [creatorRole "CreateRole"], ∅⟩ := by
  decide +kernel

theorem ListsFirst.name_eq {m : Manifest} {a : Action} {name verb only : String}
    {listed : List String} (h : m.ListsFirst a name verb)
    (honly : m.catalog.entries = [(only, listed)]) : name = only := by
  have hmem := mem_entries_of_mem_verbs (List.mem_of_find?_eq_some h.first)
  rw [honly, List.mem_singleton] at hmem
  exact (Prod.mk.inj hmem).1

/-- A manifest that lists the verb under the same name leaves its first spelling
as it is. -/
theorem creator_merge_keeps :
    let later := listing "iam" "createrole"
    ∃ c c' r', creator.compile ∅ = .ok c ∧
      (creator.merge later).compile ∅ = .ok c' ∧
      creatorRole "CreateRole" ∈ c.roles ∧ c'.role? "Creator" = some r' ∧
      r'.bundles[0]? = (creatorRole "CreateRole").bundles[0]? ∧
      ∀ config f, f.bundle.index = 0 →
        (f ∈ r'.lint config ↔ f ∈ (creatorRole "CreateRole").lint config) := by
  intro later
  have hmerged : (creator.merge later).compile ∅ =
      .ok ⟨(creator.merge later).actionCatalog, [creatorRole "CreateRole"],
        ∅⟩ := by
    decide +kernel
  have hrole : creatorRole "CreateRole" ∈ [creatorRole "CreateRole"] :=
    List.mem_singleton_self _
  have hnot : ∀ a, ¬creator.RespelledBy later a := by
    intro a hrespelled
    obtain ⟨name, _, name', _, hfirst, hfirst', hlt, -⟩ := hrespelled
    have hname : name = "iam" := hfirst.name_eq rfl
    have hname' : name' = "iam" := hfirst'.name_eq rfl
    rw [hname, hname'] at hlt
    exact StrictTotalOrder.irrefl _ hlt
  obtain ⟨-, r', hr', hbundles⟩ :=
    (compile_merge_keeps_iff compile_creator hmerged).2 _ hrole
  obtain ⟨hbundle, hlint⟩ := hbundles 0 _ rfl fun a _ => hnot a
  exact ⟨_, _, r', compile_creator, hmerged, hrole, hr', hbundle, hlint⟩

/-- A manifest that lists the verb in small letters, under a name of the service
that comes first in the order of names, hides what the role may do. -/
theorem creator_merge_respells :
    let later := listing "IAM" "createrole"
    ∃ c c', creator.compile ∅ = .ok c ∧
      (creator.merge later).compile ∅ = .ok c' ∧
      c.catalog.normalize? "iam:CreateRole" = some ⟨"iam", "CreateRole"⟩ ∧
      c'.catalog.normalize? "iam:CreateRole" = some ⟨"iam", "createrole"⟩ ∧
      (Action.mk "iam" "CreateRole").category = .create ∧
      (Action.mk "iam" "createrole").category = .other ∧
      (c.lint "Creator" {}).map List.length = .ok 2 ∧
      c'.lint "Creator" {} = .ok [] := by
  intro later
  have hmerged : (creator.merge later).compile ∅ =
      .ok ⟨(creator.merge later).actionCatalog, [creatorRole "createrole"],
        ∅⟩ := by
    decide +kernel
  exact ⟨_, _, compile_creator, hmerged, by decide +kernel, by decide +kernel,
    by decide +kernel, by decide +kernel, by decide +kernel, by decide +kernel⟩

end Manifest

end RolePolicy
