import RolePolicy.Manifest.Substitution
import RolePolicy.Proofs.Text.Edited
import RolePolicy.Proofs.Text.Placeholder

/-!
# What substitution changes

Substitution replaces the token of a variable if its name is bound and is not
namespaced, and changes nothing else in a text.  In a manifest it changes the
texts of principals, boundaries, resources and condition values, each at its
place, and nothing else.  Both are said by rules that leave one result only.
-/

namespace RolePolicy

open Text

namespace Substitutions

variable (s : Substitutions)

/-! ## Texts -/

/-- What takes the place of a variable: its value, if the name is bound and not
namespaced, and otherwise its own token. -/
def Replaces (name new : List Char) : Prop :=
  (∃ value, ':' ∉ name ∧ s.get? (String.ofList name) = some value ∧
      new = value.toList) ∨
    ((':' ∈ name ∨ s.get? (String.ofList name) = none) ∧
      new = opening ++ name ++ ['}'])

/-- The text arises from the other one by substitution. -/
def EditsText (text out : String) : Prop :=
  Edits s.Replaces text.toList out.toList

theorem applyPiece_eq_iff (p : Piece) (new : List Char) :
    s.applyPiece p = new ↔ p.Becomes s.Replaces new := by
  rcases p with c | name | rest
  · exact eq_comm
  · simp only [Piece.Becomes, Replaces, applyPiece, value?, isNamespaced,
      List.contains_iff_mem, ← render_variable]
    by_cases hname : ':' ∈ name
    · simp [hname, eq_comm]
    · cases hvalue : s.get? (String.ofList name) with
      | none => simp [hname, eq_comm]
      | some value => simp [hname, eq_comm]
  · exact eq_comm

theorem apply_eq_iff {text out : String} :
    s.apply text = out ↔ s.EditsText text out := by
  rw [EditsText, edits_iff_of_becomes_iff s.applyPiece_eq_iff, apply,
    ← String.toList_inj, String.toList_ofList]

-- A bound name, an unbound one, a namespaced one and one that is never closed;
-- the value that is put in looks like a bound name and stays.
example :
    apply (SortedMap.ofList [("a", "$\x7bb\x7d"), ("b", "x")])
        "$\x7ba\x7d$\x7bc\x7d$\x7ba:b\x7d$\x7ba" =
      "$\x7bb\x7d$\x7bc\x7d$\x7ba:b\x7d$\x7ba" := by
  decide

/-! ## Manifests -/

/-- The values of the clause are substituted. -/
structure EditsClause (c c' : ClauseSpec) : Prop where
  operator : c'.operator = c.operator
  key : c'.key = c.key
  values : List.Forall₂ s.EditsText c.values c'.values

/-- The principal and the conditions of the trust are substituted. -/
structure EditsTrust (t t' : TrustSpec) : Prop where
  principal : s.EditsText t.principal t'.principal
  conditions : List.Forall₂ s.EditsClause t.conditions t'.conditions

/-- The resources and the conditions of the bundle are substituted. -/
structure EditsBundle (b b' : BundleSpec) : Prop where
  sid : b'.sid = b.sid
  effect : b'.effect = b.effect
  actions : b'.actions = b.actions
  resources : List.Forall₂ s.EditsText b.resources b'.resources
  conditions : List.Forall₂ s.EditsClause b.conditions b'.conditions

/-- The trust, the boundary and the bundles of the role are substituted. -/
structure EditsRole (r r' : RoleSpec) : Prop where
  name : r'.name = r.name
  kind : r'.kind = r.kind
  trust : s.EditsTrust r.trust r'.trust
  permissionBoundary :
    Option.Rel s.EditsText r.permissionBoundary r'.permissionBoundary
  bundles : List.Forall₂ s.EditsBundle r.bundles r'.bundles

/-- The roles of the manifest are substituted. -/
structure EditsManifest (m m' : Manifest) : Prop where
  catalog : m'.catalog = m.catalog
  roles : List.Forall₂ s.EditsRole m.roles m'.roles

theorem map_apply_eq_iff {texts outs : List String} :
    texts.map s.apply = outs ↔ List.Forall₂ s.EditsText texts outs :=
  map_eq_iff_forall₂ fun _ _ => s.apply_eq_iff

theorem applyClause_eq_iff (c c' : ClauseSpec) :
    s.applyClause c = c' ↔ s.EditsClause c c' := by
  constructor
  · rintro rfl
    exact ⟨rfl, rfl, s.map_apply_eq_iff.mp rfl⟩
  · intro h
    obtain ⟨operator, key, values⟩ := c'
    obtain ⟨rfl, rfl, hvalues⟩ := h
    rw [applyClause, s.map_apply_eq_iff.mpr hvalues]

theorem map_applyClause_eq_iff {clauses clauses' : List ClauseSpec} :
    clauses.map s.applyClause = clauses' ↔
      List.Forall₂ s.EditsClause clauses clauses' :=
  map_eq_iff_forall₂ s.applyClause_eq_iff

theorem applyTrust_eq_iff (t t' : TrustSpec) :
    s.applyTrust t = t' ↔ s.EditsTrust t t' := by
  constructor
  · rintro rfl
    exact ⟨s.apply_eq_iff.mp rfl, s.map_applyClause_eq_iff.mp rfl⟩
  · intro h
    obtain ⟨principal, conditions⟩ := t'
    obtain ⟨hprincipal, hconditions⟩ := h
    rw [applyTrust, s.apply_eq_iff.mpr hprincipal,
      s.map_applyClause_eq_iff.mpr hconditions]

theorem applyBundle_eq_iff (b b' : BundleSpec) :
    s.applyBundle b = b' ↔ s.EditsBundle b b' := by
  constructor
  · rintro rfl
    exact ⟨rfl, rfl, rfl, s.map_apply_eq_iff.mp rfl,
      s.map_applyClause_eq_iff.mp rfl⟩
  · intro h
    obtain ⟨sid, effect, actions, resources, conditions⟩ := b'
    obtain ⟨rfl, rfl, rfl, hresources, hconditions⟩ := h
    rw [applyBundle, s.map_apply_eq_iff.mpr hresources,
      s.map_applyClause_eq_iff.mpr hconditions]

theorem optionMap_apply_eq_iff {o o' : Option String} :
    o.map s.apply = o' ↔ Option.Rel s.EditsText o o' := by
  constructor
  · rintro rfl
    cases o with
    | none => exact .none
    | some text => exact .some (s.apply_eq_iff.mp rfl)
  · intro h
    cases h with
    | none => rfl
    | some hout => rw [Option.map_some, s.apply_eq_iff.mpr hout]

theorem applyRole_eq_iff (r r' : RoleSpec) :
    s.applyRole r = r' ↔ s.EditsRole r r' := by
  constructor
  · rintro rfl
    exact ⟨rfl, rfl, (s.applyTrust_eq_iff _ _).mp rfl,
      s.optionMap_apply_eq_iff.mp rfl,
      (map_eq_iff_forall₂ s.applyBundle_eq_iff).mp rfl⟩
  · intro h
    obtain ⟨name, kind, trust, boundary, bundles⟩ := r'
    obtain ⟨rfl, rfl, htrust, hboundary, hbundles⟩ := h
    rw [applyRole, (s.applyTrust_eq_iff _ _).mpr htrust,
      s.optionMap_apply_eq_iff.mpr hboundary,
      (map_eq_iff_forall₂ s.applyBundle_eq_iff).mpr hbundles]

theorem applyManifest_eq_iff (m m' : Manifest) :
    s.applyManifest m = m' ↔ s.EditsManifest m m' := by
  constructor
  · rintro rfl
    exact ⟨rfl, (map_eq_iff_forall₂ s.applyRole_eq_iff).mp rfl⟩
  · intro h
    obtain ⟨catalog, roles⟩ := m'
    obtain ⟨rfl, hroles⟩ := h
    rw [applyManifest, (map_eq_iff_forall₂ s.applyRole_eq_iff).mpr hroles]

/-- Substitution edits a text as its rules say, and a manifest in its
principals, boundaries, resources and condition values only. -/
theorem apply_edits_placeholders_only (s : Substitutions) :
    (∀ text out : String, s.apply text = out ↔ s.EditsText text out) ∧
      ∀ m m' : Manifest, s.applyManifest m = m' ↔ s.EditsManifest m m' := by
  constructor
  · intro text out
    exact s.apply_eq_iff
  · intro m m'
    exact s.applyManifest_eq_iff m m'

end Substitutions

end RolePolicy
