import RolePolicy.Decision
import RolePolicy.Proofs.ResourcePattern

/-!
# What decides a request

A bundle is a candidate for a request if it speaks about the action, one of
its patterns fits the resource, and its conditions hold.  The decision is a
function of the effects of the candidates alone, and the trace lists all
candidates of the winning effect in bundle order.
-/

namespace RolePolicy

/-- The effect of the bundles that brought a decision about. -/
def Decision.winner? : Decision → Option Effect
  | .allow => some .allow
  | .deny => some .deny
  | .implicitDeny => none

/-- The bundle has to do with a request: the catalog reads the action as one
of the bundle's, a pattern of the bundle fits the whole resource, and every
clause holds. -/
structure Bundle.IsCandidate (catalog : Catalog) (b : Bundle)
    (request : Request) : Prop where
  action : ∃ a ∈ b.actions, catalog.normalize? request.action = some a
  resource : ∃ p ∈ b.resources,
    Glob.Matches p.text.toList request.resource.toList
  conditions : ∀ c ∈ b.conditions.clauses, c.holds request.context = true

/-- Denials win over grants, and grants over silence. -/
theorem Evaluation.ofMatches_cases (allows denies : List BundleRef) :
    (denies ≠ [] ∧ ofMatches allows denies = ⟨.deny, denies⟩) ∨
      (denies = [] ∧ allows ≠ [] ∧ ofMatches allows denies = ⟨.allow, allows⟩) ∨
        (denies = [] ∧ allows = [] ∧ ofMatches allows denies = nothingMatched) := by
  unfold ofMatches
  by_cases hdenies : denies = []
  · by_cases hallows : allows = []
    · exact Or.inr (Or.inr ⟨hdenies, hallows, by simp [hdenies, hallows]⟩)
    · exact Or.inr (Or.inl ⟨hdenies, hallows, by simp [hdenies, hallows]⟩)
  · exact Or.inl ⟨hdenies, by simp [hdenies]⟩

theorem Evaluation.decision_ofMatches_eq_deny_iff
    {allows denies : List BundleRef} :
    (ofMatches allows denies).decision = .deny ↔ denies ≠ [] := by
  rcases ofMatches_cases allows denies with
    ⟨hdenies, h⟩ | ⟨hdenies, -, h⟩ | ⟨hdenies, -, h⟩
  · rw [h]
    simp [hdenies]
  · rw [h]
    simp [hdenies]
  · rw [h]
    simp [hdenies, nothingMatched]

theorem Evaluation.decision_ofMatches_eq_allow_iff
    {allows denies : List BundleRef} :
    (ofMatches allows denies).decision = .allow ↔
      ¬denies ≠ [] ∧ allows ≠ [] := by
  rcases ofMatches_cases allows denies with
    ⟨hdenies, h⟩ | ⟨hdenies, hallows, h⟩ | ⟨hdenies, hallows, h⟩
  · rw [h]
    simp [hdenies]
  · rw [h]
    simp [hdenies, hallows]
  · rw [h]
    simp [hallows, nothingMatched]

theorem Decision.eq_of_iff {d d' : Decision} (hdeny : d = .deny ↔ d' = .deny)
    (hallow : d = .allow ↔ d' = .allow) : d = d' := by
  cases d <;> cases d' <;> simp_all

namespace ResourcePattern

theorem anyCovers_eq_true_iff {patterns : List ResourcePattern}
    {candidate : String} :
    anyCovers patterns candidate = true ↔
      ∃ p ∈ patterns, Glob.Matches p.text.toList candidate.toList := by
  simp [anyCovers, covers_eq_true_iff]

end ResourcePattern

namespace Bundle

theorem appliesTo_eq_true_iff {b : Bundle} {a : Action} {resource : String}
    {context : RequestContext} :
    b.appliesTo a resource context = true ↔
      a ∈ b.actions ∧
        (∃ p ∈ b.resources, Glob.Matches p.text.toList resource.toList) ∧
          ∀ c ∈ b.conditions.clauses, c.holds context = true := by
  simp [appliesTo, ResourcePattern.anyCovers_eq_true_iff, Predicate.holds,
    and_assoc]

theorem isCandidate_iff {catalog : Catalog} {b : Bundle} {request : Request} :
    b.IsCandidate catalog request ↔
      ∃ a, catalog.normalize? request.action = some a ∧
        b.appliesTo a request.resource request.context = true := by
  constructor
  · rintro ⟨⟨a, ha, hnormal⟩, hresource, hconditions⟩
    exact ⟨a, hnormal,
      appliesTo_eq_true_iff.mpr ⟨ha, hresource, hconditions⟩⟩
  · rintro ⟨a, hnormal, happlies⟩
    obtain ⟨ha, hresource, hconditions⟩ := appliesTo_eq_true_iff.mp happlies
    exact ⟨⟨a, ha, hnormal⟩, hresource, hconditions⟩

end Bundle

namespace Role

/-- The references to the bundles of an effect that apply to an action. -/
theorem mem_matching_iff {r : Role} {effect : Effect} {a : Action}
    {resource : String} {context : RequestContext} {ref : BundleRef} :
    ref ∈ r.matching effect a resource context ↔
      ∃ b, r.bundles[ref.index]? = some b ∧ ref.sid = b.sid ∧
        b.effect = effect ∧ b.appliesTo a resource context = true := by
  unfold matching
  rw [List.mem_filterMap]
  constructor
  · rintro ⟨⟨b, index⟩, hmem, hsome⟩
    rw [List.mk_mem_zipIdx_iff_getElem?] at hmem
    obtain ⟨happlies, href⟩ := Option.ite_none_right_eq_some.mp hsome
    obtain rfl := Option.some.inj href
    exact ⟨b, hmem, rfl, happlies⟩
  · rintro ⟨b, hget, hsid, heffect, happlies⟩
    refine ⟨(b, ref.index), List.mk_mem_zipIdx_iff_getElem?.mpr hget, ?_⟩
    exact (if_pos ⟨heffect, happlies⟩).trans (by rw [← hsid])

theorem pairwise_zipIdx_lt {α : Type} (l : List α) :
    l.zipIdx.Pairwise fun a b => a.2 < b.2 := by
  rw [← List.pairwise_map (f := Prod.snd), List.zipIdx_map_snd]
  exact List.pairwise_lt_range'

/-- Matching bundles are listed by ascending position. -/
theorem pairwise_matching (r : Role) (effect : Effect) (a : Action)
    (resource : String) (context : RequestContext) :
    (r.matching effect a resource context).Pairwise
      fun ref ref' => ref.index < ref'.index := by
  unfold matching
  rw [List.pairwise_filterMap]
  apply (pairwise_zipIdx_lt r.bundles).imp
  rintro ⟨b, i⟩ ⟨b', i'⟩ hlt ref hsome ref' hsome'
  obtain ⟨-, href⟩ := Option.ite_none_right_eq_some.mp hsome
  obtain ⟨-, href'⟩ := Option.ite_none_right_eq_some.mp hsome'
  rw [← Option.some.inj href, ← Option.some.inj href']
  exact hlt

theorem matching_ne_nil_iff {r : Role} {effect : Effect} {a : Action}
    {resource : String} {context : RequestContext} :
    r.matching effect a resource context ≠ [] ↔
      ∃ b ∈ r.bundles, b.effect = effect ∧
        b.appliesTo a resource context = true := by
  constructor
  · intro h
    obtain ⟨ref, href⟩ := List.exists_mem_of_ne_nil _ h
    obtain ⟨b, hget, -, h⟩ := mem_matching_iff.mp href
    exact ⟨b, List.mem_of_getElem? hget, h⟩
  · rintro ⟨b, hb, h⟩
    obtain ⟨i, hi⟩ := List.mem_iff_getElem?.mp hb
    exact List.ne_nil_of_mem (a := (⟨i, b.sid⟩ : BundleRef))
      (mem_matching_iff.mpr ⟨b, hi, rfl, h⟩)

/-! ## The decision of a known action -/

section Known

variable {catalog : Catalog} {r : Role} {request : Request} {a : Action}

theorem evaluate_of_normalize? (h : catalog.normalize? request.action = some a) :
    r.evaluate catalog request =
      .ofMatches (r.matching .allow a request.resource request.context)
        (r.matching .deny a request.resource request.context) := by
  simp only [evaluate, h]

theorem exists_candidate_iff (h : catalog.normalize? request.action = some a)
    (effect : Effect) :
    (∃ b ∈ r.bundles, b.effect = effect ∧ b.IsCandidate catalog request) ↔
      r.matching effect a request.resource request.context ≠ [] := by
  simp only [matching_ne_nil_iff, Bundle.isCandidate_iff, h, Option.some.injEq,
    exists_eq_left']

theorem mem_matching_iff_isCandidate
    (h : catalog.normalize? request.action = some a) {effect : Effect}
    {ref : BundleRef} :
    ref ∈ r.matching effect a request.resource request.context ↔
      ∃ b, r.bundles[ref.index]? = some b ∧ ref.sid = b.sid ∧
        some effect = some b.effect ∧ b.IsCandidate catalog request := by
  simp only [mem_matching_iff, Bundle.isCandidate_iff, h, Option.some.injEq,
    exists_eq_left', eq_comm (a := effect)]

end Known

theorem not_isCandidate_of_normalize?_eq_none {catalog : Catalog} {b : Bundle}
    {request : Request} (h : catalog.normalize? request.action = none) :
    ¬b.IsCandidate catalog request := by
  rw [Bundle.isCandidate_iff, h]
  rintro ⟨a, ha, -⟩
  cases ha

section Decided

variable {catalog : Catalog} {r : Role} {request : Request}

/-- A request is denied exactly if some `Deny` bundle is a candidate. -/
theorem decision_eq_deny_iff :
    (r.evaluate catalog request).decision = .deny ↔
      ∃ b ∈ r.bundles, b.effect = .deny ∧ b.IsCandidate catalog request := by
  cases hnormal : catalog.normalize? request.action with
  | none =>
      have hno : ∀ b : Bundle, ¬b.IsCandidate catalog request :=
        fun b => not_isCandidate_of_normalize?_eq_none hnormal
      simp [evaluate, hnormal, Evaluation.nothingMatched, hno]
  | some a =>
      rw [evaluate_of_normalize? hnormal, exists_candidate_iff hnormal,
        Evaluation.decision_ofMatches_eq_deny_iff]

/-- A request is allowed exactly if no `Deny` bundle is a candidate and some
`Allow` bundle is. -/
theorem decision_eq_allow_iff :
    (r.evaluate catalog request).decision = .allow ↔
      (¬∃ b ∈ r.bundles, b.effect = .deny ∧ b.IsCandidate catalog request) ∧
        ∃ b ∈ r.bundles, b.effect = .allow ∧ b.IsCandidate catalog request := by
  cases hnormal : catalog.normalize? request.action with
  | none =>
      have hno : ∀ b : Bundle, ¬b.IsCandidate catalog request :=
        fun b => not_isCandidate_of_normalize?_eq_none hnormal
      simp [evaluate, hnormal, Evaluation.nothingMatched, hno]
  | some a =>
      rw [evaluate_of_normalize? hnormal, exists_candidate_iff hnormal,
        exists_candidate_iff hnormal,
        Evaluation.decision_ofMatches_eq_allow_iff]

/-- The trace is empty, or lists the bundles of the winning effect that apply to
the action. -/
theorem matched_cases (catalog : Catalog) (r : Role) (request : Request) :
    let e := r.evaluate catalog request
    (e.decision.winner? = none ∧ e.matched = []) ∨
      ∃ a effect, catalog.normalize? request.action = some a ∧
        e.decision.winner? = some effect ∧
          e.matched = r.matching effect a request.resource request.context := by
  intro e
  cases hnormal : catalog.normalize? request.action with
  | none =>
      have he : e = .nothingMatched := by simp only [e, evaluate, hnormal]
      exact Or.inl (by simp [he, Evaluation.nothingMatched, Decision.winner?])
  | some a =>
      have he : e = .ofMatches
          (r.matching .allow a request.resource request.context)
          (r.matching .deny a request.resource request.context) :=
        evaluate_of_normalize? hnormal
      rw [he]
      rcases Evaluation.ofMatches_cases
          (r.matching .allow a request.resource request.context)
          (r.matching .deny a request.resource request.context) with
        ⟨-, h⟩ | ⟨-, -, h⟩ | ⟨-, -, h⟩
      · exact Or.inr ⟨a, .deny, rfl, by rw [h]; rfl, by rw [h]⟩
      · exact Or.inr ⟨a, .allow, rfl, by rw [h]; rfl, by rw [h]⟩
      · exact Or.inl (by simp [h, Evaluation.nothingMatched, Decision.winner?])

/-- The trace consists of the candidates of the winning effect. -/
theorem mem_matched_iff {ref : BundleRef} :
    ref ∈ (r.evaluate catalog request).matched ↔
      ∃ b, r.bundles[ref.index]? = some b ∧ ref.sid = b.sid ∧
        (r.evaluate catalog request).decision.winner? = some b.effect ∧
          b.IsCandidate catalog request := by
  rcases matched_cases catalog r request with
    ⟨hwinner, hmatched⟩ | ⟨a, effect, hnormal, hwinner, hmatched⟩
  · simp [hwinner, hmatched]
  · rw [hwinner, hmatched]
    exact mem_matching_iff_isCandidate hnormal

/-- The trace is listed by ascending position. -/
theorem pairwise_matched (catalog : Catalog) (r : Role) (request : Request) :
    (r.evaluate catalog request).matched.Pairwise
      fun ref ref' => ref.index < ref'.index := by
  rcases matched_cases catalog r request with
    ⟨-, hmatched⟩ | ⟨a, effect, -, -, hmatched⟩
  · simp [hmatched]
  · rw [hmatched]
    exact pairwise_matching ..

end Decided

/-- The decision follows from the effects of the candidates, a denial first,
and the trace lists exactly the candidates of the winning effect, by ascending
position. -/
theorem evaluate_decides_by_candidates (catalog : Catalog) (r : Role)
    (request : Request) :
    let e := r.evaluate catalog request
    (e.decision = .deny ↔
      ∃ b ∈ r.bundles, b.effect = .deny ∧ b.IsCandidate catalog request) ∧
    (e.decision = .allow ↔
      (¬∃ b ∈ r.bundles, b.effect = .deny ∧ b.IsCandidate catalog request) ∧
        ∃ b ∈ r.bundles, b.effect = .allow ∧ b.IsCandidate catalog request) ∧
    (e.decision = .implicitDeny ↔
      catalog.normalize? request.action = none ∨
        ¬∃ b ∈ r.bundles, b.IsCandidate catalog request) ∧
    e.matched.Pairwise (fun ref ref' => ref.index < ref'.index) ∧
    (∀ ref, ref ∈ e.matched ↔
      ∃ b, r.bundles[ref.index]? = some b ∧ ref.sid = b.sid ∧
        e.decision.winner? = some b.effect ∧ b.IsCandidate catalog request) ∧
    (e.decision = .implicitDeny ↔ e.matched = []) := by
  intro e
  cases hnormal : catalog.normalize? request.action with
  | none =>
      have he : e = .nothingMatched := by simp only [e, evaluate, hnormal]
      have hno : ∀ b : Bundle, ¬b.IsCandidate catalog request :=
        fun b => not_isCandidate_of_normalize?_eq_none hnormal
      simp [he, Evaluation.nothingMatched, hno]
  | some a =>
      have he : e = .ofMatches
          (r.matching .allow a request.resource request.context)
          (r.matching .deny a request.resource request.context) :=
        evaluate_of_normalize? hnormal
      have hany : (∃ b ∈ r.bundles, b.IsCandidate catalog request) ↔
          (∃ b ∈ r.bundles, b.effect = .deny ∧ b.IsCandidate catalog request) ∨
            ∃ b ∈ r.bundles, b.effect = .allow ∧ b.IsCandidate catalog request := by
        constructor
        · rintro ⟨b, hb, h⟩
          cases heffect : b.effect with
          | allow => exact Or.inr ⟨b, hb, heffect, h⟩
          | deny => exact Or.inl ⟨b, hb, heffect, h⟩
        · rintro (⟨b, hb, -, h⟩ | ⟨b, hb, -, h⟩)
          · exact ⟨b, hb, h⟩
          · exact ⟨b, hb, h⟩
      rw [hany, exists_candidate_iff hnormal, exists_candidate_iff hnormal]
      rcases Evaluation.ofMatches_cases
          (r.matching .allow a request.resource request.context)
          (r.matching .deny a request.resource request.context) with
        ⟨hdenies, hof⟩ | ⟨hdenies, hallows, hof⟩ | ⟨hdenies, hallows, hof⟩
      · rw [he, hof]
        refine ⟨by simp [hdenies], by simp [hdenies], by simp [hdenies],
          pairwise_matching .., ?_, by simp [hdenies]⟩
        intro ref
        exact mem_matching_iff_isCandidate hnormal
      · rw [he, hof]
        refine ⟨by simp [hdenies], by simp [hdenies, hallows],
          by simp [hallows], pairwise_matching .., ?_, by simp [hallows]⟩
        intro ref
        exact mem_matching_iff_isCandidate hnormal
      · rw [he, hof]
        simp [Evaluation.nothingMatched, Decision.winner?, hdenies, hallows]

end Role

end RolePolicy
