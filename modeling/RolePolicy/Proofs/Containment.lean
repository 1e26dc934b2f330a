import RolePolicy.Proofs.Decision
import RolePolicy.Proofs.Glob.Parts

/-!
# Requests for patterns

The resource of a request may itself be written as a pattern.  The matcher takes
its stars for characters, and only a star of a bundle's pattern can stand for
them.  Therefore a pattern accepts the text of another one exactly if it accepts
every text that the other one accepts, and a request for a pattern is decided by
the bundles that reach all of its resources.
-/

namespace RolePolicy

/-! ## Containment -/

namespace Glob

/-- The first pattern matches whatever the second one matches. -/
def Contains (p q : String) : Prop :=
  ∀ s : String, Matches q.toList s.toList → Matches p.toList s.toList

theorem accepts_self (p : String) : accepts p p = true :=
  accepts_eq_true_iff.mpr (.refl _)

theorem accepts_trans {p q s : String} (hpq : accepts p q = true)
    (hqs : accepts q s = true) : accepts p s = true := by
  rw [accepts_eq_true_iff] at hpq hqs ⊢
  exact hpq.trans hqs

/-- A pattern accepts the text of another one exactly if it contains it. -/
theorem accepts_iff_contains {p q : String} :
    accepts p q = true ↔ Contains p q := by
  rw [accepts_eq_true_iff]
  constructor
  · intro hpq s hqs
    exact hpq.trans hqs
  · intro hcontains
    exact hcontains q (.refl _)

theorem contains_iff_accepts {p q : String} :
    Contains p q ↔ ∀ s, accepts q s = true → accepts p s = true := by
  simp only [Contains, accepts_eq_true_iff]

end Glob

/-! ## Bundles that reach a requested pattern -/

/-- The catalog reads the action as one of the bundle's, and every clause of the
bundle holds. -/
structure Bundle.IsInForce (catalog : Catalog) (b : Bundle) (action : String)
    (context : RequestContext) : Prop where
  action : ∃ a ∈ b.actions, catalog.normalize? action = some a
  conditions : ∀ c ∈ b.conditions.clauses, c.holds context = true

/-- Some pattern of the bundle contains the requested one. -/
def Bundle.ReachesAll (b : Bundle) (requested : String) : Prop :=
  ∃ p ∈ b.resources, Glob.Contains p.text requested

namespace Bundle

variable {catalog : Catalog} {b : Bundle} {request : Request}

/-- A bundle is a candidate for a requested pattern exactly if it is in force and
one of its patterns contains the requested one. -/
theorem isCandidate_iff_reachesAll :
    b.IsCandidate catalog request ↔
      b.IsInForce catalog request.action request.context ∧
        b.ReachesAll request.resource := by
  have hreaches : (∃ p ∈ b.resources,
      Glob.Matches p.text.toList request.resource.toList) ↔
        b.ReachesAll request.resource := by
    simp only [ReachesAll, ← Glob.accepts_iff_contains,
      Glob.accepts_eq_true_iff]
  rw [← hreaches]
  constructor
  · intro hcandidate
    exact ⟨⟨hcandidate.action, hcandidate.conditions⟩, hcandidate.resource⟩
  · intro h
    obtain ⟨hforce, hresource⟩ := h
    exact ⟨hforce.action, hresource, hforce.conditions⟩

/-- A candidate for a requested pattern is one for each of its resources. -/
theorem IsCandidate.of_accepts (h : b.IsCandidate catalog request)
    {resource : String} (hresource : Glob.accepts request.resource resource) :
    b.IsCandidate catalog { request with resource } := by
  obtain ⟨p, hp, hmatches⟩ := h.resource
  have hcovered : Glob.Matches p.text.toList resource.toList :=
    hmatches.trans (Glob.accepts_eq_true_iff.mp hresource)
  exact ⟨h.action, ⟨p, hp, hcovered⟩, h.conditions⟩

end Bundle

namespace Role

section Requested

variable {catalog : Catalog} {r : Role} {request : Request}

/-- A request for a pattern is allowed through the grants in force that reach all
of its resources. -/
theorem mem_matched_of_allow_iff {ref : BundleRef}
    (hallow : (r.evaluate catalog request).decision = .allow) :
    ref ∈ (r.evaluate catalog request).matched ↔
      ∃ b, r.bundles[ref.index]? = some b ∧ ref.sid = b.sid ∧
        b.effect = .allow ∧
          b.IsInForce catalog request.action request.context ∧
            b.ReachesAll request.resource := by
  simp only [mem_matched_iff, hallow, Decision.winner?, Option.some.injEq,
    Bundle.isCandidate_iff_reachesAll, eq_comm (a := Effect.allow)]

theorem decision_eq_deny_of_accepts {resource : String}
    (hresource : Glob.accepts request.resource resource = true)
    (hdeny : (r.evaluate catalog request).decision = .deny) :
    (r.evaluate catalog { request with resource }).decision = .deny := by
  obtain ⟨b, hb, heffect, hcandidate⟩ := decision_eq_deny_iff.mp hdeny
  exact decision_eq_deny_iff.mpr
    ⟨b, hb, heffect, hcandidate.of_accepts hresource⟩

/-- What is allowed as a pattern is decided for each of its resources. -/
theorem decision_ne_implicitDeny_of_accepts {resource : String}
    (hresource : Glob.accepts request.resource resource = true)
    (hallow : (r.evaluate catalog request).decision = .allow) :
    (r.evaluate catalog { request with resource }).decision ≠
      .implicitDeny := by
  obtain ⟨-, b, hb, heffect, hcandidate⟩ := decision_eq_allow_iff.mp hallow
  have hgrant := hcandidate.of_accepts hresource
  by_cases hdenial : ∃ b ∈ r.bundles, b.effect = .deny ∧
      b.IsCandidate catalog { request with resource }
  · simp [decision_eq_deny_iff.mpr hdenial]
  · simp [decision_eq_allow_iff.mpr ⟨hdenial, b, hb, heffect, hgrant⟩]

end Requested

/-- Accepting is matching, where every star of the pattern stands for some run of
characters, and it is containment of patterns, a reflexive and transitive relation.
So a request for a pattern is allowed exactly if no denial and some grant that is
in force has a pattern which contains the requested one, and it is allowed
through the grants with such a pattern.  Whatever resource the requested pattern
matches is then decided by some bundle as well, and denied if the request for the
pattern is. -/
theorem evaluate_pattern_by_containment (p q s : String) (catalog : Catalog)
    (r : Role) (request : Request) :
    (Glob.accepts p q = true ↔ Glob.Matches p.toList q.toList) ∧
    (Glob.accepts p q = true ↔
      ∀ t, Glob.accepts q t = true → Glob.accepts p t = true) ∧
    (Glob.accepts p q = true ↔ ∀ t : String,
      Glob.Matches q.toList t.toList → Glob.Matches p.toList t.toList) ∧
    Glob.accepts p p = true ∧
    (Glob.accepts p q = true → Glob.accepts q s = true →
      Glob.accepts p s = true) ∧
    let e := r.evaluate catalog request
    (e.decision = .allow ↔
      (¬∃ b ∈ r.bundles, b.effect = .deny ∧
        b.IsInForce catalog request.action request.context ∧
          b.ReachesAll request.resource) ∧
      ∃ b ∈ r.bundles, b.effect = .allow ∧
        b.IsInForce catalog request.action request.context ∧
          b.ReachesAll request.resource) ∧
    (e.decision = .allow → ∀ ref, ref ∈ e.matched ↔
      ∃ b, r.bundles[ref.index]? = some b ∧ ref.sid = b.sid ∧
        b.effect = .allow ∧
          b.IsInForce catalog request.action request.context ∧
            b.ReachesAll request.resource) ∧
    ∀ resource, Glob.accepts request.resource resource = true →
      let e' := r.evaluate catalog { request with resource }
      (e.decision = .deny → e'.decision = .deny) ∧
        (e.decision = .allow → e'.decision ≠ .implicitDeny) := by
  refine ⟨Glob.accepts_eq_true_iff,
    Glob.accepts_iff_contains.trans Glob.contains_iff_accepts,
    Glob.accepts_iff_contains, Glob.accepts_self p, Glob.accepts_trans, ?_⟩
  intro e
  refine ⟨?_, ?_, ?_⟩
  · simp only [← Bundle.isCandidate_iff_reachesAll]
    exact decision_eq_allow_iff
  · intro hallow ref
    exact mem_matched_of_allow_iff hallow
  · intro resource hresource e'
    exact ⟨decision_eq_deny_of_accepts hresource,
      decision_ne_implicitDeny_of_accepts hresource⟩

end Role

end RolePolicy
