import RolePolicy.Proofs.Decision
import RolePolicy.Proofs.Lint

/-!
# Roles with further conditions

A clause that is added to the conditions of a grant, or to those of a trust, is
sorted into the others and asked for besides them.  Whatever kind of clause it
is, a grant with more clauses applies to fewer requests and gives rise to fewer
findings, and a trust with more clauses admits fewer callers and pins the
account if the old one did.
-/

namespace RolePolicy

/-! ## One more clause -/

namespace Predicate

/-- The second predicate asks for everything that the first one asks for. -/
def Keeps (p q : Predicate) : Prop :=
  ∀ c ∈ p.clauses, c ∈ q.clauses

/-- A clause of a new place can be added, wherever it is written. -/
theorem IsCanonical.exists_ofClauses_cons {p : Predicate} (h : p.IsCanonical)
    {added : Clause} (hnew : ∀ c ∈ p.clauses, c.place ≠ added.place) :
    ∃ q, p.Keeps q ∧ ∀ clauses : List Clause,
      clauses.Perm (added :: p.clauses) → ofClauses clauses = .ok q := by
  have hslot : added.slot ∉ p.clauses.map Clause.slot := by
    intro hmem
    obtain ⟨c, hc, heq⟩ := List.mem_map.mp hmem
    exact hnew c hc (Clause.slot_eq_iff.mp heq)
  have hnodup : ((added :: p.clauses).map Clause.slot).Nodup :=
    List.nodup_cons.mpr ⟨hslot, nodup_slots h.ordered⟩
  obtain ⟨q, hq⟩ : ∃ q, ofClauses (added :: p.clauses) = .ok q := by
    rw [(ofClauses_reports _).exists_ok_iff,
      Clause.repeatedSlots_eq_nil_iff.mpr hnodup, List.map_nil]
  obtain ⟨hperm, hordered⟩ := ofClauses_eq_ok_iff.mp hq
  refine ⟨q, ?_, ?_⟩
  · intro c hc
    exact hperm.mem_iff.mpr (List.mem_cons_of_mem added hc)
  · intro clauses hclauses
    exact ofClauses_eq_ok_iff.mpr ⟨hperm.trans hclauses.symm, hordered⟩

variable {p q : Predicate}

theorem Keeps.holds (h : p.Keeps q) {context : RequestContext}
    (hholds : q.holds context = true) : p.holds context = true := by
  rw [Predicate.holds, List.all_eq_true] at hholds ⊢
  exact fun c hc => hholds c (h c hc)

theorem Keeps.pinsAccount (h : p.Keeps q) {config : LintConfig}
    (hpins : p.pinsAccount config = true) : q.pinsAccount config = true := by
  obtain ⟨c, hc, hpin⟩ := pinsAccount_iff.mp hpins
  exact pinsAccount_iff.mpr ⟨c, h c hc, hpin⟩

theorem Keeps.requiresBoundary (h : p.Keeps q)
    (hrequires : p.requiresBoundary = true) : q.requiresBoundary = true := by
  rw [Predicate.requiresBoundary, List.any_eq_true] at hrequires ⊢
  obtain ⟨c, hc, hboundary⟩ := hrequires
  exact ⟨c, h c hc, hboundary⟩

end Predicate

/-! ## Bundles with more clauses -/

/-- The second bundle is the first one with further conditions, and the same one
if it denies. -/
structure Bundle.Tightens (b b' : Bundle) : Prop where
  sid : b'.sid = b.sid
  effect : b'.effect = b.effect
  actions : b'.actions = b.actions
  resources : b'.resources = b.resources
  conditions : b.conditions.Keeps b'.conditions
  denial : b.effect = .deny → b' = b

namespace Bundle

theorem Tightens.refl (b : Bundle) : b.Tightens b :=
  ⟨rfl, rfl, rfl, rfl, fun _ hc => hc, fun _ => rfl⟩

variable {b b' : Bundle}

theorem Tightens.isCandidate (h : b.Tightens b') {catalog : Catalog}
    {request : Request} (hcandidate : b'.IsCandidate catalog request) :
    b.IsCandidate catalog request := by
  obtain ⟨haction, hresource, hconditions⟩ := hcandidate
  rw [h.actions] at haction
  rw [h.resources] at hresource
  exact ⟨haction, hresource, fun c hc => hconditions c (h.conditions c hc)⟩

theorem Tightens.isBroad (h : b.Tightens b') {config : LintConfig}
    (hbroad : b'.isBroad config = true) : b.isBroad config = true := by
  obtain ⟨hmutating, hwildcard, hnarrows⟩ := isBroad_iff.mp hbroad
  rw [h.actions] at hmutating
  rw [h.resources] at hwildcard
  exact isBroad_iff.mpr ⟨hmutating, hwildcard,
    fun c hc => hnarrows c (h.conditions c hc)⟩

end Bundle

/-! ## Roles with tighter bundles -/

/-- The second role is the first one with tighter bundles. -/
structure Role.Tightens (r r' : Role) : Prop where
  name : r'.name = r.name
  trust : r'.trust = r.trust
  boundary : r'.permissionBoundary = r.permissionBoundary
  bundles : List.Forall₂ Bundle.Tightens r.bundles r'.bundles

theorem forall₂_modify {α : Type} {R : α → α → Prop} (hrefl : ∀ a, R a a)
    (f : α → α) {l : List α} {index : Nat} (h : ∀ a ∈ l[index]?, R a (f a)) :
    List.Forall₂ R l (l.modify index f) := by
  induction l generalizing index with
  | nil =>
      rw [List.modify_nil]
      exact .nil
  | cons a l ih =>
      cases index with
      | zero => exact .cons (h a rfl) (List.forall₂_same.mpr fun b _ => hrefl b)
      | succ index => exact .cons (hrefl a) (ih h)

/-- The first of two options is taken more seldom. -/
theorem sublist_ite {α : Type} {p q : Prop} [Decidable p] [Decidable q]
    (h : p → q) (l : List α) :
    (if p then l else []).Sublist (if q then l else []) := by
  by_cases hp : p
  · rw [if_pos hp, if_pos (h hp)]
  · rw [if_neg hp]
    exact List.nil_sublist _

theorem flatMap_sublist_of_forall₂ {α β γ : Type} {R : α → β → Prop}
    {f : α → List γ} {g : β → List γ}
    (hfg : ∀ a b, R a b → (g b).Sublist (f a)) {l : List α} {m : List β}
    (h : List.Forall₂ R l m) : (m.flatMap g).Sublist (l.flatMap f) := by
  induction h with
  | nil => exact List.nil_sublist _
  | cons hab _ ih =>
      rw [List.flatMap_cons, List.flatMap_cons]
      exact (hfg _ _ hab).append ih

namespace Role

variable {r r' : Role}

/-- Tighter bundles deny the same requests. -/
theorem Tightens.exists_denial_iff (h : r.Tightens r') {catalog : Catalog}
    {request : Request} :
    (∃ b ∈ r'.bundles, b.effect = .deny ∧ b.IsCandidate catalog request) ↔
      ∃ b ∈ r.bundles, b.effect = .deny ∧ b.IsCandidate catalog request := by
  constructor
  · rintro ⟨b', hb', heffect, hcandidate⟩
    obtain ⟨b, hb, htightens⟩ := exists_mem_of_forall₂ h.bundles hb'
    rw [htightens.effect] at heffect
    exact ⟨b, hb, heffect, htightens.isCandidate hcandidate⟩
  · rintro ⟨b, hb, heffect, hcandidate⟩
    obtain ⟨b', hb', htightens⟩ := exists_mem_of_forall₂_left h.bundles hb
    obtain rfl := htightens.denial heffect
    exact ⟨b', hb', heffect, hcandidate⟩

theorem Tightens.decision_eq_deny_iff (h : r.Tightens r') {catalog : Catalog}
    {request : Request} :
    (r'.evaluate catalog request).decision = .deny ↔
      (r.evaluate catalog request).decision = .deny := by
  rw [Role.decision_eq_deny_iff, Role.decision_eq_deny_iff, h.exists_denial_iff]

/-- Tighter bundles allow no further requests. -/
theorem Tightens.decision_eq_allow (h : r.Tightens r') {catalog : Catalog}
    {request : Request}
    (hallow : (r'.evaluate catalog request).decision = .allow) :
    (r.evaluate catalog request).decision = .allow := by
  rw [decision_eq_allow_iff, h.exists_denial_iff] at hallow
  obtain ⟨hdenial, b', hb', heffect, hcandidate⟩ := hallow
  obtain ⟨b, hb, htightens⟩ := exists_mem_of_forall₂ h.bundles hb'
  rw [htightens.effect] at heffect
  exact decision_eq_allow_iff.mpr
    ⟨hdenial, b, hb, heffect, htightens.isCandidate hcandidate⟩

theorem Tightens.finding_broad_eq (h : r.Tightens r') {b b' : Bundle}
    (hb : b.Tightens b') (pinned : Bool) (index : Nat) :
    Finding.broad r' pinned b' index = Finding.broad r pinned b index := by
  have hmutating : b'.mutatingActions = b.mutatingActions := by
    rw [Bundle.mutatingActions, Bundle.mutatingActions, hb.actions]
  have hbroad : Finding.broadMessage b' = Finding.broadMessage b := by
    unfold Finding.broadMessage
    simp only [hmutating]
  have hunbounded : Finding.unboundedMessage r'.name b' =
      Finding.unboundedMessage r.name b := by
    unfold Finding.unboundedMessage
    simp only [hmutating, h.name]
  rw [Finding.broad, Finding.broad, hb.sid, hbroad, hunbounded]

/-- A tighter bundle gives rise to some of the findings, worded alike. -/
theorem Tightens.lintBundle_sublist (h : r.Tightens r') {b b' : Bundle}
    (hb : b.Tightens b') (config : LintConfig) (index : Nat) :
    (r'.lintBundle config b' index).Sublist (r.lintBundle config b index) := by
  have hboundary :
      Finding.boundary r' b' index = Finding.boundary r b index := by
    rw [Finding.boundary, Finding.boundary, hb.sid, h.name]
  have hcreates : b'.createsRoles = b.createsRoles := by
    rw [Bundle.createsRoles, Bundle.createsRoles, hb.actions]
  unfold lintBundle
  rw [hb.effect, h.trust, h.boundary, h.finding_broad_eq hb, hboundary,
    hcreates]
  by_cases hallow : b.effect = .allow
  · rw [if_pos hallow, if_pos hallow]
    apply List.Sublist.append
    · exact sublist_ite hb.isBroad _
    · apply sublist_ite
      rintro ⟨hcreate, hnone, hdemand⟩
      exact ⟨hcreate, hnone,
        fun hold => hdemand (hb.conditions.requiresBoundary hold)⟩
  · rw [if_neg hallow, if_neg hallow]

theorem Tightens.lint_sublist (h : r.Tightens r') (config : LintConfig) :
    (r'.lint config).Sublist (r.lint config) := by
  apply flatMap_sublist_of_forall₂ _ (forall₂_zipIdx h.bundles 0)
  rintro ⟨b, index⟩ ⟨b', _⟩ ⟨hb, rfl⟩
  exact h.lintBundle_sublist hb config index

end Role

/-! ## Softer findings -/

def Severity.rank : Severity → Nat
  | warning => 0
  | error => 1

/-- What rules are about: how far a grant reaches, and the boundary of the roles
that it creates. -/
inductive RuleFamily where
  | reach
  | boundary
  deriving DecidableEq, Repr

def LintRule.family : LintRule → RuleFamily
  | overlyBroadGrant | unboundedPrivilege => .reach
  | missingPermissionBoundary => .boundary

namespace Finding

/-- The second finding is about the same of the same bundle, and no graver. -/
structure Softens (f f' : Finding) : Prop where
  bundle : f'.bundle = f.bundle
  family : f'.rule.family = f.rule.family
  severity : f'.severity.rank ≤ f.severity.rank

theorem Softens.refl (f : Finding) : f.Softens f :=
  ⟨rfl, rfl, Nat.le_refl _⟩

/-- A broad grant is no graver under a trust that pins the account more
often. -/
theorem broad_softens (r r' : Role) {pinned pinned' : Bool}
    (h : pinned = true → pinned' = true) (b : Bundle) (index : Nat) :
    (broad r pinned b index).Softens (broad r' pinned' b index) := by
  cases pinned with
  | true =>
      rw [h rfl]
      exact ⟨rfl, rfl, Nat.le_refl _⟩
  | false =>
      cases pinned' with
      | true => exact ⟨rfl, rfl, Nat.zero_le _⟩
      | false => exact ⟨rfl, rfl, Nat.le_refl _⟩

end Finding

/-! ## Roles with a tighter trust -/

/-- The second role is the first one with further conditions on its trust. -/
structure Role.TightensTrust (r r' : Role) : Prop where
  name : r'.name = r.name
  principal : r'.trust.principal = r.trust.principal
  conditions : r.trust.conditions.Keeps r'.trust.conditions
  bundles : r'.bundles = r.bundles
  boundary : r'.permissionBoundary = r.permissionBoundary

namespace Role

theorem decideAssume_eq_allow_iff {r : Role} {principal : String}
    {context : RequestContext} :
    r.decideAssume principal context = .allow ↔
      r.trust.principal = principal ∧
        r.trust.conditions.holds context = true := by
  simp [decideAssume]

variable {r r' : Role}

theorem TightensTrust.decideAssume_eq_allow (h : r.TightensTrust r')
    {principal : String} {context : RequestContext}
    (hallow : r'.decideAssume principal context = .allow) :
    r.decideAssume principal context = .allow := by
  rw [decideAssume_eq_allow_iff, h.principal] at hallow
  exact decideAssume_eq_allow_iff.mpr ⟨hallow.1, h.conditions.holds hallow.2⟩

theorem TightensTrust.lintBundle_softens (h : r.TightensTrust r')
    (config : LintConfig) (b : Bundle) (index : Nat) :
    List.Forall₂ Finding.Softens (r.lintBundle config b index)
      (r'.lintBundle config b index) := by
  have hboundary :
      Finding.boundary r' b index = Finding.boundary r b index := by
    rw [Finding.boundary, Finding.boundary, h.name]
  unfold lintBundle
  rw [h.boundary, hboundary]
  by_cases hallow : b.effect = .allow
  · rw [if_pos hallow, if_pos hallow]
    apply List.rel_append
    · by_cases hbroad : b.isBroad config = true
      · rw [if_pos hbroad, if_pos hbroad]
        exact .cons
          (Finding.broad_softens r r' h.conditions.pinsAccount b index) .nil
      · rw [if_neg hbroad, if_neg hbroad]
        exact .nil
    · exact List.forall₂_same.mpr fun f _ => Finding.Softens.refl f
  · rw [if_neg hallow, if_neg hallow]
    exact .nil

theorem TightensTrust.lint_softens (h : r.TightensTrust r')
    (config : LintConfig) :
    List.Forall₂ Finding.Softens (r.lint config) (r'.lint config) := by
  unfold lint
  rw [h.bundles]
  apply List.rel_flatMap (List.forall₂_same.mpr fun _ _ => rfl)
  rintro x _ rfl
  exact h.lintBundle_softens config x.1 x.2

/-! ## Roles with one more clause -/

/-- The role with other conditions on the bundle at a position. -/
def withConditions (r : Role) (index : Nat) (p : Predicate) : Role :=
  { r with
    bundles := r.bundles.modify index fun b => { b with conditions := p } }

/-- The role with other conditions on its trust. -/
def withTrustConditions (r : Role) (p : Predicate) : Role :=
  { r with trust := { r.trust with conditions := p } }

theorem tightens_withConditions {index : Nat} {b : Bundle} {p : Predicate}
    (hbundle : r.bundles[index]? = some b) (hallow : b.effect = .allow)
    (hkeeps : b.conditions.Keeps p) :
    r.Tightens (r.withConditions index p) where
  name := rfl
  trust := rfl
  boundary := rfl
  bundles := by
    apply forall₂_modify Bundle.Tightens.refl
    rw [hbundle]
    rintro _ ⟨⟩
    have hdenial : b.effect ≠ .deny := by simp [hallow]
    exact ⟨rfl, rfl, rfl, rfl, hkeeps, fun hdeny => absurd hdeny hdenial⟩

theorem tightensTrust_withTrustConditions {p : Predicate}
    (hkeeps : r.trust.conditions.Keeps p) :
    r.TightensTrust (r.withTrustConditions p) :=
  ⟨rfl, rfl, hkeeps, rfl, rfl⟩

end Role

namespace Manifest

/-- A clause of a new place can be added to any grant and to the trust of a
compiled role, wherever it is written.  With one more clause on a grant, the
role allows no further requests, denies the same ones, and gives rise to no
further findings.  With one more clause on its trust, it can be assumed by no
further callers, and each of its findings is still there and no graver. -/
theorem compile_tightened_loosens_nothing {m : Manifest} {s : Substitutions}
    {c : CompiledRoles} {r : Role} (hcompile : m.compile s = .ok c)
    (hrole : r ∈ c.roles) (added : Clause) :
    (∀ index b, r.bundles[index]? = some b → b.effect = .allow →
      (∀ d ∈ b.conditions.clauses, d.place ≠ added.place) →
      ∃ p, (∀ clauses : List Clause,
          clauses.Perm (added :: b.conditions.clauses) →
            Predicate.ofClauses clauses = .ok p) ∧
        let r' := r.withConditions index p
        (∀ request, (r'.evaluate c.catalog request).decision = .allow →
          (r.evaluate c.catalog request).decision = .allow) ∧
        (∀ request, (r'.evaluate c.catalog request).decision = .deny ↔
          (r.evaluate c.catalog request).decision = .deny) ∧
        ∀ config, (r'.lint config).Sublist (r.lint config)) ∧
    ((∀ d ∈ r.trust.conditions.clauses, d.place ≠ added.place) →
      ∃ p, (∀ clauses : List Clause,
          clauses.Perm (added :: r.trust.conditions.clauses) →
            Predicate.ofClauses clauses = .ok p) ∧
        let r' := r.withTrustConditions p
        (∀ principal context, r'.decideAssume principal context = .allow →
          r.decideAssume principal context = .allow) ∧
        ∀ config,
          List.Forall₂ Finding.Softens (r.lint config) (r'.lint config)) := by
  have hcomposed := isComposed_of_compile hcompile hrole
  constructor
  · intro index b hbundle hallow hnew
    have hcanonical :=
      (hcomposed.bundles b (List.mem_of_getElem? hbundle)).canonical
    obtain ⟨p, hkeeps, hp⟩ := hcanonical.exists_ofClauses_cons hnew
    have htightens := Role.tightens_withConditions hbundle hallow hkeeps
    exact ⟨p, hp, fun _ => htightens.decision_eq_allow,
      fun _ => htightens.decision_eq_deny_iff, htightens.lint_sublist⟩
  · intro hnew
    obtain ⟨p, hkeeps, hp⟩ := hcomposed.canonical.exists_ofClauses_cons hnew
    have htightens := Role.tightensTrust_withTrustConditions hkeeps
    exact ⟨p, hp, fun _ _ => htightens.decideAssume_eq_allow,
      htightens.lint_softens⟩

/-- A clause that asks for a tag of the request. -/
def taggedClause : Clause where
  operator := .null
  quantifier := .plain
  key := "aws:RequestTag/team"
  values := SortedSet.singleton "false"

/-- A clause that pins the calling account. -/
def accountClause : Clause where
  operator := .equals
  quantifier := .plain
  key := "aws:SourceAccount"
  values := SortedSet.singleton "123456789012"

/-- The provisioner grants stacks to whoever can assume it, which is an error as
long as the grant asks for no tag.  The clause about a tag comes behind the one
that is there, and takes the finding away; the clause about the account turns
the error into a warning. -/
theorem provisioner_tightened :
    ∃ c b p q, provisioner.compile ∅ = .ok c ∧ provisionerRole ∈ c.roles ∧
      provisionerRole.bundles[0]? = some b ∧ b.effect = .allow ∧
      (∀ d ∈ b.conditions.clauses, d.place ≠ taggedClause.place) ∧
      (∀ d ∈ provisionerRole.trust.conditions.clauses,
        d.place ≠ accountClause.place) ∧
      Predicate.ofClauses (taggedClause :: b.conditions.clauses) = .ok p ∧
      p.clauses = b.conditions.clauses ++ [taggedClause] ∧
      Predicate.ofClauses [accountClause] = .ok q ∧
      let config : LintConfig := {}
      let tagged := provisionerRole.withConditions 0 p
      let pinned := provisionerRole.withTrustConditions q
      (∀ request, (tagged.evaluate c.catalog request).decision = .allow →
        (provisionerRole.evaluate c.catalog request).decision = .allow) ∧
      (∀ request, (tagged.evaluate c.catalog request).decision = .deny ↔
        (provisionerRole.evaluate c.catalog request).decision = .deny) ∧
      (tagged.lint config).Sublist (provisionerRole.lint config) ∧
      (∀ principal context, pinned.decideAssume principal context = .allow →
        provisionerRole.decideAssume principal context = .allow) ∧
      List.Forall₂ Finding.Softens (provisionerRole.lint config)
        (pinned.lint config) ∧
      (provisionerRole.lint config).map Finding.rule = [.unboundedPrivilege] ∧
      tagged.lint config = [] ∧
      (pinned.lint config).map Finding.rule = [.overlyBroadGrant] := by
  obtain ⟨b, hbundle⟩ : ∃ b, provisionerRole.bundles[0]? = some b := ⟨_, rfl⟩
  have hfacts : ∀ b ∈ provisionerRole.bundles[0]?, b.effect = .allow ∧
      (∀ d ∈ b.conditions.clauses, d.place ≠ taggedClause.place) ∧
      (b.conditions.clauses ++ [taggedClause]).Pairwise
        (fun d d' => Clause.SlotBefore d.slot d'.slot) ∧
      (provisionerRole.withConditions 0
        ⟨b.conditions.clauses ++ [taggedClause]⟩).lint {} = [] := by
    decide +kernel
  obtain ⟨hallow, hnew, hordered, hclean⟩ := hfacts b hbundle
  have htagged : Predicate.ofClauses (taggedClause :: b.conditions.clauses) =
      .ok ⟨b.conditions.clauses ++ [taggedClause]⟩ :=
    Predicate.ofClauses_eq_ok_iff.mpr ⟨List.perm_append_singleton _ _, hordered⟩
  have hnewTrust : ∀ d ∈ provisionerRole.trust.conditions.clauses,
      d.place ≠ accountClause.place := by
    decide +kernel
  have hrole : provisionerRole ∈ [provisionerRole] :=
    List.mem_singleton_self provisionerRole
  obtain ⟨p, hp, hallowed, hdenied, hlint⟩ :=
    (compile_tightened_loosens_nothing compile_provisioner hrole
      taggedClause).1 0 b hbundle hallow hnew
  obtain ⟨q, hq, hassumed, hsoftens⟩ :=
    (compile_tightened_loosens_nothing compile_provisioner hrole
      accountClause).2 hnewTrust
  obtain rfl := Except.ok.inj ((hp _ (.refl _)).symm.trans htagged)
  have hpinned :
      Predicate.ofClauses [accountClause] = .ok ⟨[accountClause]⟩ := by
    decide +kernel
  obtain rfl := Except.ok.inj ((hq _ (.refl _)).symm.trans hpinned)
  exact ⟨_, b, _, _, compile_provisioner, hrole, hbundle, hallow, hnew,
    hnewTrust, htagged, rfl, hpinned, hallowed, hdenied, hlint {}, hassumed,
    hsoftens {}, by decide +kernel, hclean, by decide +kernel⟩

end Manifest

end RolePolicy
