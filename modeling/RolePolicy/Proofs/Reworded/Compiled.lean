import RolePolicy.Proofs.Reworded.Roles
import RolePolicy.Proofs.Text.LetterCase
import RolePolicy.Proofs.Validity.Manifest

/-!
# Manifests in other words

Substituting placeholders keeps what is only said in other words, provided that
truth values have the same placeholders.  Two manifests whose roles are the same
in other words, and whose catalogs register the same actions, therefore both
compile or both fail, and compile into roles that are alike one by one.
-/

namespace RolePolicy

open Text

/-! ## Other words after substitution -/

namespace Substitutions

variable (s : Substitutions)

theorem applyClause_rewords {c d : ClauseSpec} (h : c.Rewords SameButCase d) :
    (s.applyClause c).Rewords EqFolded (s.applyClause d) where
  key := h.key
  operator := h.operator
  truth := by
    intro hnull
    show List.Forall₂ EqFolded (c.values.map s.apply) (d.values.map s.apply)
    have hfold : ∀ t u, SameButCase t u → EqFolded (s.apply t) (s.apply u) :=
      fun _ _ htu => s.foldCase_apply htu
    exact List.rel_map (fun t u htu => hfold t u htu) (h.truth hnull)
  values := by
    intro hnull value
    show value ∈ c.values.map s.apply ↔ value ∈ d.values.map s.apply
    simp only [List.mem_map, h.values hnull]

theorem reordered_applyClause {l m : List ClauseSpec}
    (h : Reordered (ClauseSpec.Rewords SameButCase) l m) :
    Reordered (ClauseSpec.Rewords EqFolded) (l.map s.applyClause)
      (m.map s.applyClause) :=
  h.map fun _ _ hcd => s.applyClause_rewords hcd

theorem applyBundle_rewords {t u : BundleSpec} (h : t.Rewords SameButCase u) :
    (s.applyBundle t).Rewords EqFolded (s.applyBundle u) where
  sid := h.sid
  effect := h.effect
  actions := h.actions
  actions_back := h.actions_back
  resources := by
    intro raw
    show raw ∈ t.resources.map s.apply ↔ raw ∈ u.resources.map s.apply
    simp only [List.mem_map, h.resources]
  conditions := s.reordered_applyClause h.conditions

theorem applyRole_rewords {t u : RoleSpec} (h : t.Rewords SameButCase u) :
    (s.applyRole t).Rewords EqFolded (s.applyRole u) where
  name := h.name
  kind := h.kind
  principal := congrArg s.apply h.principal
  trust := s.reordered_applyClause h.trust
  boundary := congrArg (Option.map s.apply) h.boundary
  bundles := by
    show List.Forall₂ _ (t.bundles.map s.applyBundle)
      (u.bundles.map s.applyBundle)
    exact List.rel_map (fun _ _ htu => s.applyBundle_rewords htu) h.bundles

theorem applyManifest_rewords {m m' : Manifest}
    (h : List.Forall₂ (RoleSpec.Rewords SameButCase) m.roles m'.roles) :
    List.Forall₂ (RoleSpec.Rewords EqFolded) (s.applyManifest m).roles
      (s.applyManifest m').roles := by
  show List.Forall₂ _ (m.roles.map s.applyRole) (m'.roles.map s.applyRole)
  exact List.rel_map (fun _ _ htu => s.applyRole_rewords htu) h

end Substitutions

/-! ## Compiled roles -/

namespace Manifest

variable {m m' : Manifest} {s : Substitutions} {c c' : CompiledRoles}

/-- A manifest compiles if its roles compile in other words. -/
theorem exists_compile_of_rewords
    (hregistered : ∀ a, a ∈ m.registered ↔ a ∈ m'.registered)
    (hroles : List.Forall₂ (RoleSpec.Rewords SameButCase) m.roles m'.roles)
    (h : m.compile s = .ok c) : ∃ c', m'.compile s = .ok c' := by
  obtain ⟨hdistinct, hcomposes, hcatalog, -⟩ := compile_eq_ok_iff.mp h
  have hrewords := s.applyManifest_rewords hroles
  rw [hcatalog] at hcomposes
  have hcomposed : ∀ t ∈ (s.applyManifest m').roles,
      ∃ r, RoleSpec.Composes (s.applyManifest m').actionCatalog t r := by
    intro t ht
    obtain ⟨u, hu, hut⟩ := exists_mem_of_forall₂ hrewords ht
    obtain ⟨r, -, hr⟩ := exists_mem_of_forall₂_left hcomposes hu
    exact hut.exists_composes hregistered hr
  obtain ⟨roles', hroles'⟩ := exists_forall₂ hcomposed
  have hnames : (s.applyManifest m).roles.map RoleSpec.name =
      (s.applyManifest m').roles.map RoleSpec.name :=
    map_eq_map_of_forall₂ (fun _ _ htu => htu.name) hrewords
  have hkinds : (s.applyManifest m).roles.map RoleSpec.kind =
      (s.applyManifest m').roles.map RoleSpec.kind :=
    map_eq_map_of_forall₂ (fun _ _ htu => htu.kind) hrewords
  rw [RoleSpec.checkDistinct_eq_ok_iff, hnames, hkinds,
    ← RoleSpec.checkDistinct_eq_ok_iff] at hdistinct
  exact ⟨⟨_, roles', s⟩, compile_eq_ok_iff.mpr ⟨hdistinct, hroles', rfl, rfl⟩⟩

/-- Two manifests that say the same both compile, or both fail. -/
theorem exists_compile_iff_of_rewords
    (hregistered : ∀ a, a ∈ m.registered ↔ a ∈ m'.registered)
    (hroles : List.Forall₂ (RoleSpec.Rewords SameButCase) m.roles m'.roles) :
    (∃ c, m.compile s = .ok c) ↔ ∃ c', m'.compile s = .ok c' := by
  have hroles' : List.Forall₂ (RoleSpec.Rewords SameButCase) m'.roles
      m.roles :=
    forall₂_symm (fun _ _ htu => htu.symm fun _ _ h => h.symm) hroles
  constructor
  · intro h
    obtain ⟨c, hc⟩ := h
    exact exists_compile_of_rewords hregistered hroles hc
  · intro h
    obtain ⟨c', hc'⟩ := h
    exact exists_compile_of_rewords (fun a => (hregistered a).symm) hroles' hc'

/-- Two manifests that say the same compile into roles that are alike. -/
theorem alike_of_compile
    (hroles : List.Forall₂ (RoleSpec.Rewords SameButCase) m.roles m'.roles)
    (h : m.compile s = .ok c) (h' : m'.compile s = .ok c') :
    List.Forall₂ Role.Alike c.roles c'.roles := by
  obtain ⟨-, hcomposes, hcatalog, -⟩ := compile_eq_ok_iff.mp h
  obtain ⟨-, hcomposes', hcatalog', -⟩ := compile_eq_ok_iff.mp h'
  rw [hcatalog] at hcomposes
  rw [hcatalog'] at hcomposes'
  have hwritten := forall₂_comp (s.applyManifest_rewords hroles) hcomposes'
  apply (forall₂_common hcomposes hwritten).imp
  intro r r' hrelated
  obtain ⟨t, hr, u, htu, hr'⟩ := hrelated
  exact htu.alike_of_composes hr hr'

end Manifest

end RolePolicy
