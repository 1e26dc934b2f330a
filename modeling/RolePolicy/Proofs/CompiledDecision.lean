import RolePolicy.Proofs.Condition.Meaning
import RolePolicy.Proofs.Decision

/-!
# Decisions in terms of the request

Whether a bundle of a compiled role is a candidate can be said without running
anything: the catalog knows the action as one of the bundle's, a pattern matches
the resource, and the attributes of the request meet what each clause says of
them.  Decisions and traces follow from these bundles and their effects.
-/

namespace RolePolicy

/-- The attributes of a request meet a clause: its key is there or is missing, as
the clause demands, or the values of its key are what the clause asks for once
its variables have been replaced. -/
inductive Clause.IsMet (c : Clause) (context : RequestContext) : Prop
  | present (hnull : c.operator = .null)
      (hvalues : c.values = SortedSet.singleton "false")
      (h : ∃ entry, context.get? c.key = some entry)
  | missing (hnull : c.operator = .null)
      (hvalues : c.values = SortedSet.singleton "true")
      (h : context.get? c.key = none)
  | asked (hnull : c.operator ≠ .null) (hresolves : c.Resolves context)
      (h : c.quantifier.Asks (context.get? c.key)
        (c.operator.Admits (c.expected context)))

theorem Clause.IsChecked.holds_iff_isMet {c : Clause} (h : c.IsChecked)
    (context : RequestContext) : c.holds context = true ↔ c.IsMet context := by
  have htexts : SortedSet.singleton "false" ≠ SortedSet.singleton "true" := by
    decide
  by_cases hnull : c.operator = .null
  · rcases h.holds_of_null hnull context with ⟨hvalues, hholds⟩ | ⟨hvalues, hholds⟩
    · rw [hholds]
      constructor
      · exact .present hnull hvalues
      · rintro (⟨-, -, hentry⟩ | ⟨-, htrue, -⟩ | ⟨hother, -, -⟩)
        · exact hentry
        · exact absurd (hvalues.symm.trans htrue) htexts
        · exact absurd hnull hother
    · rw [hholds]
      constructor
      · exact .missing hnull hvalues
      · rintro (⟨-, hfalse, -⟩ | ⟨-, -, hnone⟩ | ⟨hother, -, -⟩)
        · exact absurd (hfalse.symm.trans hvalues) htexts
        · exact hnone
        · exact absurd hnull hother
  · rw [h.holds_iff_asks hnull]
    constructor
    · exact fun hasks => .asked hnull hasks.1 hasks.2
    · rintro (⟨hother, -, -⟩ | ⟨hother, -, -⟩ | ⟨-, hresolves, hasks⟩)
      · exact absurd hother hnull
      · exact absurd hother hnull
      · exact ⟨hresolves, hasks⟩

/-- The bundle speaks about the request: the catalog reads the action as one of
the bundle's, a pattern matches the whole resource, and every clause is met. -/
structure Bundle.Concerns (catalog : Catalog) (b : Bundle)
    (request : Request) : Prop where
  action : ∃ a ∈ b.actions, catalog.normalize? request.action = some a
  resource : ∃ p ∈ b.resources,
    Glob.Matches p.text.toList request.resource.toList
  conditions : ∀ c ∈ b.conditions.clauses, c.IsMet request.context

theorem Bundle.IsComposed.isCandidate_iff_concerns {catalog : Catalog}
    {b : Bundle} (h : b.IsComposed catalog) {request : Request} :
    b.IsCandidate catalog request ↔ b.Concerns catalog request := by
  have hclauses : (∀ c ∈ b.conditions.clauses, c.holds request.context = true) ↔
      ∀ c ∈ b.conditions.clauses, c.IsMet request.context :=
    forall₂_congr fun c hc => (h.canonical.checked c hc).holds_iff_isMet _
  constructor
  · exact fun hb => ⟨hb.action, hb.resource, hclauses.mp hb.conditions⟩
  · exact fun hb => ⟨hb.action, hb.resource, hclauses.mpr hb.conditions⟩

namespace Role

variable {catalog : Catalog} {r : Role}

theorem IsComposed.exists_candidate_iff_concerns (h : r.IsComposed catalog)
    (effect : Effect) (request : Request) :
    (∃ b ∈ r.bundles, b.effect = effect ∧ b.IsCandidate catalog request) ↔
      ∃ b ∈ r.bundles, b.effect = effect ∧ b.Concerns catalog request := by
  constructor
  · rintro ⟨b, hb, heffect, hcandidate⟩
    exact ⟨b, hb, heffect,
      (h.bundles b hb).isCandidate_iff_concerns.mp hcandidate⟩
  · rintro ⟨b, hb, heffect, hconcerns⟩
    exact ⟨b, hb, heffect,
      (h.bundles b hb).isCandidate_iff_concerns.mpr hconcerns⟩

theorem IsComposed.mem_matched_iff_concerns (h : r.IsComposed catalog)
    {request : Request} {ref : BundleRef} :
    ref ∈ (r.evaluate catalog request).matched ↔
      ∃ b, r.bundles[ref.index]? = some b ∧ ref.sid = b.sid ∧
        (r.evaluate catalog request).decision.winner? = some b.effect ∧
          b.Concerns catalog request := by
  rw [mem_matched_iff]
  apply exists_congr
  intro b
  apply and_congr_right
  intro hb
  rw [(h.bundles b (List.mem_of_getElem? hb)).isCandidate_iff_concerns]

end Role

namespace Manifest

/-- A compiled role denies what some denial concerns, allows what some grant and
no denial concerns, and the trace lists the bundles of the winning effect that
concern the request.  A principal may assume the role if it is the trusted one
and every clause of the trust is met. -/
theorem compile_decides_by_meaning {m : Manifest} {s : Substitutions}
    {c : CompiledRoles} (h : m.compile s = .ok c) {r : Role} (hr : r ∈ c.roles)
    (request : Request) (principal : String) :
    let e := r.evaluate c.catalog request
    (e.decision = .deny ↔ ∃ b ∈ r.bundles,
      b.effect = .deny ∧ b.Concerns c.catalog request) ∧
    (e.decision = .allow ↔
      (¬∃ b ∈ r.bundles, b.effect = .deny ∧ b.Concerns c.catalog request) ∧
        ∃ b ∈ r.bundles, b.effect = .allow ∧ b.Concerns c.catalog request) ∧
    e.matched.Pairwise (fun ref ref' => ref.index < ref'.index) ∧
    (∀ ref, ref ∈ e.matched ↔
      ∃ b, r.bundles[ref.index]? = some b ∧ ref.sid = b.sid ∧
        e.decision.winner? = some b.effect ∧ b.Concerns c.catalog request) ∧
    (r.decideAssume principal request.context = .allow ↔
      r.trust.principal = principal ∧
        ∀ clause ∈ r.trust.conditions.clauses, clause.IsMet request.context) := by
  intro e
  have hcomposed := isComposed_of_compile h hr
  refine ⟨?_, ?_, Role.pairwise_matched .., ?_, ?_⟩
  · rw [← hcomposed.exists_candidate_iff_concerns]
    exact Role.decision_eq_deny_iff
  · rw [← hcomposed.exists_candidate_iff_concerns,
      ← hcomposed.exists_candidate_iff_concerns]
    exact Role.decision_eq_allow_iff
  · exact fun ref => hcomposed.mem_matched_iff_concerns
  · have htrust : r.trust.conditions.holds request.context = true ↔
        ∀ clause ∈ r.trust.conditions.clauses, clause.IsMet request.context := by
      rw [Predicate.holds, List.all_eq_true]
      exact forall₂_congr fun clause hclause =>
        (hcomposed.canonical.checked clause hclause).holds_iff_isMet _
    rw [Role.decideAssume, ← htrust]
    by_cases hallowed : r.trust.principal = principal ∧
        r.trust.conditions.holds request.context = true
    · simp [hallowed]
    · simp [hallowed]

end Manifest

end RolePolicy
