import RolePolicy.Condition.Evaluation
import RolePolicy.Lint
import RolePolicy.Proofs.Composed

/-!
# Findings about broad grants

The rules of the linter read clauses as text, while a decision evaluates them
in a context.  A clause that the linter takes for a demand on a key holds only
in contexts that carry the key.  A bundle whose conditions hold without any of
the keys that the linter looks for is therefore never taken for narrowed, and
the same holds of trust that can be had without an account key.
-/

namespace RolePolicy

/-! ## Families of keys -/

namespace LintConfig

/-- The key begins like a tag key or is a call-chain key, in any letter
case. -/
def IsNarrowingKey (config : LintConfig) (key : String) : Prop :=
  (∃ front ∈ config.tagKeyPrefixes,
    Text.foldChars front.toList <+: Text.foldChars key.toList) ∨
      ∃ known ∈ config.callChainKeys, Text.foldCase known = Text.foldCase key

/-- The key is an account key, in any letter case. -/
def IsAccountKey (config : LintConfig) (key : String) : Prop :=
  ∃ known ∈ config.accountKeys, Text.foldCase known = Text.foldCase key

end LintConfig

/-! ## Clauses that demand a key -/

namespace Clause

theorem hasKeyIn_iff {c : Clause} {keys : List String} :
    c.hasKeyIn keys = true ↔
      ∃ known ∈ keys, Text.foldCase known = Text.foldCase c.key := by
  simp [hasKeyIn, Text.sameFolded]

theorem hasKeyFront_iff {c : Clause} {fronts : List String} :
    c.hasKeyFront fronts = true ↔
      ∃ front ∈ fronts,
        Text.foldChars front.toList <+: Text.foldChars c.key.toList := by
  simp [hasKeyFront, Text.beginsFolded]

theorem narrows_iff {config : LintConfig} {c : Clause} :
    c.narrows config = true ↔
      c.requiresKey = true ∧ config.IsNarrowingKey c.key := by
  rw [narrows, Bool.and_eq_true, Bool.or_eq_true, hasKeyFront_iff,
    hasKeyIn_iff]
  rfl

/-- A clause that demands its key holds only in contexts that carry it. -/
theorem IsChecked.mem_keys_of_requiresKey {c : Clause} (h : c.IsChecked)
    (hrequires : c.requiresKey = true) {context : RequestContext}
    (hholds : c.holds context = true) : c.key ∈ context.keys := by
  rw [SortedMap.mem_keys_iff, ← Option.isSome_iff_exists]
  by_contra habsent
  have hentry : context.get? c.key = none := by simpa using habsent
  obtain ⟨hquantifier, hoperator⟩ := Bool.and_eq_true_iff.mp hrequires
  have hall : c.quantifier ≠ .allValues := by simpa using hquantifier
  by_cases hnull : c.operator = .null
  · have hpresence : "false" ∈ c.values := by
      simpa [hnull, isPresenceCheck] using hoperator
    have htrue : "true" ∉ c.values := by
      rcases h.truth hnull with hvalues | hvalues
      · rw [hvalues] at hpresence
        exact absurd hpresence (by decide)
      · rw [hvalues]
        decide
    simp [holds, hnull, hentry, htrue] at hholds
  · simp only [holds, if_neg hnull, hentry, Option.map_none] at hholds
    cases hvalues : c.values.toList.mapM context.resolve with
    | none => simp [hvalues] at hholds
    | some expected =>
        cases hq : c.quantifier with
        | plain => simp [hvalues, hq] at hholds
        | anyValue => simp [hvalues, hq] at hholds
        | allValues => exact hall hq

end Clause

namespace Predicate

/-- A predicate that holds in a context demands only keys of the context. -/
theorem IsCanonical.mem_keys_of_requiresKey {p : Predicate}
    (h : p.IsCanonical) {context : RequestContext}
    (hholds : p.holds context = true) {c : Clause} (hc : c ∈ p.clauses)
    (hrequires : c.requiresKey = true) : c.key ∈ context.keys :=
  (h.checked c hc).mem_keys_of_requiresKey hrequires
    (List.all_eq_true.mp hholds c hc)

theorem pinsAccount_iff {config : LintConfig} {p : Predicate} :
    p.pinsAccount config = true ↔
      ∃ c ∈ p.clauses, c.requiresKey = true ∧ config.IsAccountKey c.key := by
  simp [pinsAccount, Clause.hasKeyIn_iff, LintConfig.IsAccountKey]

/-- Conditions that hold without an account key do not pin the account. -/
theorem IsCanonical.pinsAccount_eq_false {config : LintConfig} {p : Predicate}
    (h : p.IsCanonical) {context : RequestContext}
    (hholds : p.holds context = true)
    (hfree : ∀ key ∈ context.keys, ¬config.IsAccountKey key) :
    p.pinsAccount config = false := by
  rw [← Bool.not_eq_true, pinsAccount_iff]
  rintro ⟨c, hc, hrequires, hkey⟩
  exact hfree c.key (h.mem_keys_of_requiresKey hholds hc hrequires) hkey

end Predicate

/-! ## Broad bundles -/

namespace Bundle

theorem isBroad_iff {config : LintConfig} {b : Bundle} :
    b.isBroad config = true ↔
      (∃ a ∈ b.actions, a.isMutating = true) ∧
        (∃ p ∈ b.resources, p.isAccountWildcard = true) ∧
          ∀ c ∈ b.conditions.clauses, ¬c.narrows config = true := by
  simp [isBroad, mutatingActions, and_assoc]

/-- A bundle whose conditions hold without any narrowing key is broad as soon
as it changes something on a wildcard. -/
theorem IsComposed.isBroad {catalog : Catalog} {config : LintConfig}
    {b : Bundle} (h : b.IsComposed catalog)
    (hmutating : ∃ a ∈ b.actions, a.isMutating = true)
    (hwildcard : ∃ p ∈ b.resources, p.isAccountWildcard = true)
    {context : RequestContext} (hholds : b.conditions.holds context = true)
    (hfree : ∀ key ∈ context.keys, ¬config.IsNarrowingKey key) :
    b.isBroad config = true := by
  refine isBroad_iff.mpr ⟨hmutating, hwildcard, ?_⟩
  intro c hc hnarrows
  obtain ⟨hrequires, hkey⟩ := Clause.narrows_iff.mp hnarrows
  exact hfree c.key
    (h.canonical.mem_keys_of_requiresKey hholds hc hrequires) hkey

theorem createsRoles_iff {b : Bundle} :
    b.createsRoles = true ↔ ⟨"iam", "CreateRole"⟩ ∈ b.actions := by
  rw [createsRoles, List.any_eq_true]
  constructor
  · intro h
    obtain ⟨⟨service, verb⟩, ha, hcreation⟩ := h
    obtain ⟨hservice, hverb⟩ := Bool.and_eq_true_iff.mp hcreation
    obtain rfl : service = "iam" := beq_iff_eq.mp hservice
    obtain rfl : verb = "CreateRole" := beq_iff_eq.mp hverb
    exact ha
  · intro h
    exact ⟨_, h, by decide⟩

end Bundle

/-! ## Findings of a role -/

namespace Finding

theorem broad_index (r : Role) (pinned : Bool) (b : Bundle) (index : Nat) :
    (broad r pinned b index).bundle.index = index := by
  cases pinned <;> rfl

theorem broad_rule (r : Role) (pinned : Bool) (b : Bundle) (index : Nat) :
    (broad r pinned b index).rule = .overlyBroadGrant ∨
      (broad r pinned b index).rule = .unboundedPrivilege := by
  cases pinned
  · exact Or.inr rfl
  · exact Or.inl rfl

theorem broad_rule_ne_missing (r : Role) (pinned : Bool) (b : Bundle)
    (index : Nat) :
    (broad r pinned b index).rule ≠ .missingPermissionBoundary := by
  rcases broad_rule r pinned b index with h | h
  · simp [h]
  · simp [h]

end Finding

namespace Role

/-- The bundle creates roles, and neither the role nor the bundle sets a boundary
to them. -/
def LacksBoundary (r : Role) (b : Bundle) : Prop :=
  b.createsRoles = true ∧ r.permissionBoundary = none ∧
    ¬b.conditions.requiresBoundary = true

instance {r : Role} {b : Bundle} : Decidable (r.LacksBoundary b) :=
  inferInstanceAs (Decidable (_ ∧ _))

/-- All that can be found about a bundle: that it is broad, and that nothing
bounds the roles that it creates. -/
theorem mem_lintBundle_iff {config : LintConfig} {r : Role} {b : Bundle}
    {index : Nat} {f : Finding} :
    f ∈ r.lintBundle config b index ↔
      b.effect = .allow ∧
        (b.isBroad config = true ∧
            f = Finding.broad r (r.trust.conditions.pinsAccount config) b index ∨
          r.LacksBoundary b ∧ f = Finding.boundary r b index) := by
  rw [lintBundle]
  by_cases hallow : b.effect = .allow
  · rw [if_pos hallow, List.mem_append, List.mem_ite_nil_right,
      List.mem_ite_nil_right, List.mem_singleton, List.mem_singleton]
    exact (and_iff_right hallow).symm
  · simp [hallow]

theorem index_of_mem_lintBundle {config : LintConfig} {r : Role} {b : Bundle}
    {index : Nat} {f : Finding} (h : f ∈ r.lintBundle config b index) :
    f.bundle.index = index := by
  obtain ⟨-, ⟨-, rfl⟩ | ⟨-, rfl⟩⟩ := mem_lintBundle_iff.mp h
  · exact Finding.broad_index ..
  · rfl

/-- Of the role of a bundle, findings depend on its name, its trust and its
boundary. -/
theorem lintBundle_congr {config : LintConfig} {r r' : Role}
    (hname : r.name = r'.name) (htrust : r.trust = r'.trust)
    (hboundary : r.permissionBoundary = r'.permissionBoundary) (b : Bundle)
    (index : Nat) : r.lintBundle config b index = r'.lintBundle config b index := by
  simp only [lintBundle, Finding.broad, Finding.boundary, hname, htrust,
    hboundary]

/-- The findings about the bundle at a position are those of this bundle. -/
theorem mem_lint_iff {config : LintConfig} {r : Role} {f : Finding} :
    f ∈ r.lint config ↔
      ∃ b, r.bundles[f.bundle.index]? = some b ∧
        f ∈ r.lintBundle config b f.bundle.index := by
  unfold lint
  rw [List.mem_flatMap]
  constructor
  · rintro ⟨⟨b, index⟩, hmem, hf⟩
    rw [List.mk_mem_zipIdx_iff_getElem?] at hmem
    obtain rfl := index_of_mem_lintBundle hf
    exact ⟨b, hmem, hf⟩
  · rintro ⟨b, hget, hf⟩
    exact ⟨(b, f.bundle.index), List.mk_mem_zipIdx_iff_getElem?.mpr hget, hf⟩

theorem mem_lint_iff_mem_lintBundle {config : LintConfig} {r : Role}
    {b : Bundle} {f : Finding} (hbundle : r.bundles[f.bundle.index]? = some b) :
    f ∈ r.lint config ↔ f ∈ r.lintBundle config b f.bundle.index := by
  rw [mem_lint_iff]
  simp only [hbundle, Option.some.injEq, exists_eq_left']

/-- A broad grant has exactly one finding that is not about boundaries. -/
theorem mem_lintBundle_of_isBroad {config : LintConfig} {r : Role} {b : Bundle}
    {index : Nat} (hallow : b.effect = .allow) (hbroad : b.isBroad config = true)
    {f : Finding} (hrule : f.rule ≠ .missingPermissionBoundary) :
    f ∈ r.lintBundle config b index ↔
      f = Finding.broad r (r.trust.conditions.pinsAccount config) b index := by
  rw [mem_lintBundle_iff]
  constructor
  · rintro ⟨-, ⟨-, h⟩ | ⟨-, rfl⟩⟩
    · exact h
    · exact absurd rfl hrule
  · intro h
    exact ⟨hallow, Or.inl ⟨hbroad, h⟩⟩

end Role

/-- A report on roles of distinct names has the findings on each role under its
name. -/
theorem CompiledRoles.get?_lintAll {c : CompiledRoles}
    (h : (c.roles.map Role.name).Nodup) (config : LintConfig) (name : String) :
    (c.lintAll config).roles.get? name = (c.role? name).map (Role.lint config) := by
  have hkeys : ((c.roles.map fun r => (r.name, r.lint config)).map
      Prod.fst).Nodup := by
    rwa [List.map_map]
  rw [lintAll, SortedMap.get?_ofList hkeys, List.find?_map, Option.map_map]
  rfl

/-- An error blocks whatever report it is in. -/
theorem LintReport.blocks_of_mem {report : LintReport} {f : Finding}
    (hmem : f ∈ report.findings) (herror : f.severity = .error) :
    report.blocks false = true := by
  have hcount : 0 < report.count .error :=
    List.countP_pos_iff.mpr ⟨f, hmem, by simp [herror]⟩
  simpa [blocks] using hcount

namespace Manifest

/-- A broad grant of a compiled role that some context enjoys without any
narrowing key is found, by one finding of its bundle.  If the role can moreover
be assumed without an account key, this finding is an error and blocks every
report that it is in. -/
theorem compile_lint_finds_broad_grants {m : Manifest} {s : Substitutions}
    {c : CompiledRoles} {r : Role} {b : Bundle} {index : Nat}
    {context : RequestContext} (config : LintConfig)
    (hcompile : m.compile s = .ok c) (hrole : r ∈ c.roles)
    (hbundle : r.bundles[index]? = some b) (hallow : b.effect = .allow)
    (hmutating : ∃ a ∈ b.actions, a.isMutating = true)
    (hwildcard : ∃ p ∈ b.resources, p.isAccountWildcard = true)
    (hholds : b.conditions.holds context = true)
    (hfree : ∀ key ∈ context.keys, ¬config.IsNarrowingKey key) :
    ∃ f ∈ r.lint config, f.bundle.index = index ∧
      (f.rule = .overlyBroadGrant ∨ f.rule = .unboundedPrivilege) ∧
      (∀ f' ∈ r.lint config, f'.bundle.index = index →
        f'.rule = .overlyBroadGrant ∨ f'.rule = .unboundedPrivilege → f' = f) ∧
      ((∃ assumed : RequestContext, r.trust.conditions.holds assumed = true ∧
          ∀ key ∈ assumed.keys, ¬config.IsAccountKey key) →
        f.rule = .unboundedPrivilege ∧ f.severity = .error ∧
          ∀ report : LintReport, f ∈ report.findings →
            report.blocks false = true) := by
  have hcomposed := isComposed_of_compile hcompile hrole
  have hbroad : b.isBroad config = true :=
    (hcomposed.bundles b (List.mem_of_getElem? hbundle)).isBroad hmutating
      hwildcard hholds hfree
  have hrule : ∀ {f : Finding},
      f.rule = .overlyBroadGrant ∨ f.rule = .unboundedPrivilege →
        f.rule ≠ .missingPermissionBoundary := by
    rintro f (hf | hf) <;> simp [hf]
  refine ⟨Finding.broad r (r.trust.conditions.pinsAccount config) b index,
    ?_, Finding.broad_index .., Finding.broad_rule .., ?_, ?_⟩
  · refine Role.mem_lint_iff.mpr ⟨b, ?_, ?_⟩
    · rw [Finding.broad_index, hbundle]
    · rw [Finding.broad_index, Role.mem_lintBundle_of_isBroad hallow hbroad]
      exact hrule (Finding.broad_rule ..)
  · intro f hf hindex hfrule
    obtain ⟨b', hget, hf⟩ := Role.mem_lint_iff.mp hf
    rw [hindex] at hget hf
    obtain rfl : b = b' := Option.some.inj (hbundle.symm.trans hget)
    exact (Role.mem_lintBundle_of_isBroad hallow hbroad (hrule hfrule)).mp hf
  · rintro ⟨assumed, hassumed, hunpinned⟩
    rw [hcomposed.canonical.pinsAccount_eq_false hassumed hunpinned]
    exact ⟨rfl, rfl, fun report hmem => LintReport.blocks_of_mem hmem rfl⟩

/-- A context that lets the provisioner act on untagged requests. -/
def untaggedContext : RequestContext :=
  SortedMap.ofList [("aws:PrincipalTag/team", .single "storage")]

/-- The stack bundle of the provisioner speaks about all tags of a request, and
so holds of requests without tags. -/
theorem provisioner_lint_finds_broad_grants :
    let config : LintConfig := {}
    ∃ c b, provisioner.compile ∅ = .ok c ∧ provisionerRole ∈ c.roles ∧
      provisionerRole.bundles[0]? = some b ∧ b.effect = .allow ∧
      (∃ a ∈ b.actions, a.isMutating = true) ∧
      (∃ p ∈ b.resources, p.isAccountWildcard = true) ∧
      b.conditions.holds untaggedContext = true ∧
      (∀ key ∈ untaggedContext.keys, ¬config.IsNarrowingKey key) ∧
      ∃ f ∈ provisionerRole.lint config, f.bundle.index = 0 ∧
        (∀ f' ∈ provisionerRole.lint config, f'.bundle.index = 0 →
          f'.rule = .overlyBroadGrant ∨ f'.rule = .unboundedPrivilege →
            f' = f) ∧
        f.rule = .unboundedPrivilege ∧ f.severity = .error ∧
          ∀ report : LintReport, f ∈ report.findings →
            report.blocks false = true := by
  intro config
  obtain ⟨b, hbundle⟩ : ∃ b, provisionerRole.bundles[0]? = some b := ⟨_, rfl⟩
  have hfacts : ∀ b ∈ provisionerRole.bundles[0]?, b.effect = .allow ∧
      (∃ a ∈ b.actions.toList, a.isMutating = true) ∧
      (∃ p ∈ b.resources, p.isAccountWildcard = true) ∧
        b.conditions.holds untaggedContext = true := by
    decide +kernel
  obtain ⟨hallow, hmutating, hwildcard, hholds⟩ := hfacts b hbundle
  have hkeys : untaggedContext.keys = ["aws:PrincipalTag/team"] := by decide +kernel
  have hfree : ∀ key ∈ untaggedContext.keys, ¬config.IsNarrowingKey key := by
    rw [hkeys, List.forall_mem_singleton, LintConfig.IsNarrowingKey]
    decide +kernel
  have hrole : provisionerRole ∈ [provisionerRole] :=
    List.mem_singleton_self provisionerRole
  obtain ⟨f, hf, hindex, -, hunique, herror⟩ :=
    compile_lint_finds_broad_grants config compile_provisioner hrole hbundle
      hallow hmutating hwildcard hholds hfree
  have hassumed : provisionerRole.trust.conditions.holds ∅ = true := rfl
  have hunpinned : ∀ key ∈ (∅ : RequestContext).keys,
      ¬config.IsAccountKey key :=
    fun _ hkey => absurd hkey List.not_mem_nil
  exact ⟨_, b, compile_provisioner, hrole, hbundle, hallow, hmutating,
    hwildcard, hholds, hfree, f, hf, hindex, hunique,
    herror ⟨∅, hassumed, hunpinned⟩⟩

end Manifest

end RolePolicy
