import RolePolicy.Proofs.Decision
import RolePolicy.Proofs.Tightened

/-!
# Findings bundle by bundle

The linter looks at one bundle after the other and carries nothing over: a role
can be cut anywhere between its bundles, and its findings are those of the front
followed by those of the back, moved behind the bundles of the front.  Each
bundle has at most one finding about its reach and then at most one about the
boundary of the roles that it creates, and it is the trust of the role that
decides for all bundles alike how grave a broad reach is.
-/

namespace RolePolicy

namespace Finding

/-- The same finding about a bundle that stands further behind. -/
def moveBy (distance : Nat) (f : Finding) : Finding :=
  { f with bundle := ⟨distance + f.bundle.index, f.bundle.sid⟩ }

/-- The finding is about an earlier bundle than the other one, or about the
reach of the same bundle and the other one about its boundary. -/
def Precedes (f f' : Finding) : Prop :=
  f.bundle.index < f'.bundle.index ∨
    f.bundle.index = f'.bundle.index ∧
      f.rule.family = .reach ∧ f'.rule.family = .boundary

theorem Precedes.not_of_same {f f' : Finding}
    (hindex : f.bundle.index = f'.bundle.index)
    (hfamily : f.rule.family = f'.rule.family) : ¬f.Precedes f' := by
  rintro (hlt | ⟨-, hreach, hboundary⟩)
  · exact absurd hindex (Nat.ne_of_lt hlt)
  · rw [hreach, hboundary] at hfamily
    cases hfamily

theorem broad_moveBy (r : Role) (pinned : Bool) (b : Bundle)
    (distance index : Nat) :
    (broad r pinned b index).moveBy distance =
      broad r pinned b (distance + index) := by
  cases pinned <;> rfl

theorem broad_bundle (r : Role) (pinned : Bool) (b : Bundle) (index : Nat) :
    (broad r pinned b index).bundle = ⟨index, b.sid⟩ := by
  cases pinned <;> rfl

theorem broad_family (r : Role) (pinned : Bool) (b : Bundle) (index : Nat) :
    (broad r pinned b index).rule.family = .reach := by
  cases pinned <;> rfl

end Finding

namespace Role

variable {config : LintConfig} {r : Role} {b : Bundle} {index : Nat}

/-- The role with other bundles. -/
def withBundles (r : Role) (bundles : List Bundle) : Role :=
  { r with bundles }

/-! ## One bundle -/

theorem lintBundle_moveBy (config : LintConfig) (r : Role) (b : Bundle)
    (distance index : Nat) :
    (r.lintBundle config b index).map (Finding.moveBy distance) =
      r.lintBundle config b (distance + index) := by
  rw [lintBundle, lintBundle]
  by_cases hallow : b.effect = .allow
  · rw [if_pos hallow, if_pos hallow, List.map_append,
      apply_ite (List.map _), apply_ite (List.map _), List.map_singleton,
      List.map_singleton, Finding.broad_moveBy]
    rfl
  · rw [if_neg hallow, if_neg hallow, List.map_nil]

theorem bundle_of_mem_lintBundle {f : Finding}
    (h : f ∈ r.lintBundle config b index) : f.bundle = ⟨index, b.sid⟩ := by
  obtain ⟨-, ⟨-, rfl⟩ | ⟨-, rfl⟩⟩ := mem_lintBundle_iff.mp h
  · exact Finding.broad_bundle ..
  · rfl

/-- There are at most two findings about a bundle: one about its reach, and then
one about the roles that it creates. -/
theorem lintBundle_sublist (config : LintConfig) (r : Role) (b : Bundle)
    (index : Nat) :
    (r.lintBundle config b index).Sublist
      [Finding.broad r (r.trust.conditions.pinsAccount config) b index,
        Finding.boundary r b index] := by
  have hoption : ∀ (p : Prop) [Decidable p] (f : Finding),
      (if p then [f] else []).Sublist [f] := by
    intro p _ f
    simpa only [if_true] using sublist_ite (fun _ : p => trivial) [f]
  rw [lintBundle]
  by_cases hallow : b.effect = .allow
  · rw [if_pos hallow]
    exact (hoption _ _).append (hoption _ _)
  · rw [if_neg hallow]
    exact List.nil_sublist _

theorem pairwise_lintBundle (config : LintConfig) (r : Role) (b : Bundle)
    (index : Nat) :
    (r.lintBundle config b index).Pairwise Finding.Precedes := by
  refine List.Pairwise.sublist (lintBundle_sublist config r b index) ?_
  rw [List.pairwise_pair]
  exact Or.inr ⟨Finding.broad_index .., Finding.broad_family .., rfl⟩

/-- How grave a broad reach is depends on the trust of the role only. -/
theorem rule_of_mem_lintBundle {f : Finding}
    (h : f ∈ r.lintBundle config b index) :
    f.rule ≠ if r.trust.conditions.pinsAccount config then .unboundedPrivilege
      else .overlyBroadGrant := by
  obtain ⟨-, ⟨-, rfl⟩ | ⟨-, rfl⟩⟩ := mem_lintBundle_iff.mp h
  · cases r.trust.conditions.pinsAccount config <;> simp [Finding.broad]
  · cases r.trust.conditions.pinsAccount config <;> simp [Finding.boundary]

/-! ## All bundles -/

/-- The findings of a role that is cut between two of its bundles. -/
theorem lint_withBundles_append (config : LintConfig) (r : Role)
    (front back : List Bundle) :
    (r.withBundles (front ++ back)).lint config =
      (r.withBundles front).lint config ++
        ((r.withBundles back).lint config).map
          (Finding.moveBy front.length) := by
  have hback := @List.zipIdx_eq_map_add _ back front.length
  simp only [lint, withBundles, List.zipIdx_append, List.flatMap_append]
  rw [Nat.zero_add, hback, List.flatMap_map, List.map_flatMap]
  congr 1
  apply List.flatMap_congr
  rintro ⟨b, index⟩ -
  exact (lintBundle_moveBy config _ b front.length index).symm

/-- Findings come in the order of their bundles, and for each bundle in the
order of the rules. -/
theorem pairwise_lint (config : LintConfig) (r : Role) :
    (r.lint config).Pairwise Finding.Precedes := by
  rw [lint, List.pairwise_flatMap]
  constructor
  · rintro ⟨b, index⟩ -
    exact r.pairwise_lintBundle config b index
  · apply (pairwise_zipIdx_lt r.bundles).imp
    rintro ⟨b, index⟩ ⟨b', index'⟩ hlt f hf f' hf'
    rw [← index_of_mem_lintBundle hf, ← index_of_mem_lintBundle hf'] at hlt
    exact Or.inl hlt

/-- A bundle has at most one finding of each family. -/
theorem countP_lint_le_one (config : LintConfig) (r : Role) (index : Nat)
    (family : RuleFamily) :
    (r.lint config).countP (fun f =>
      f.bundle.index = index ∧ f.rule.family = family) ≤ 1 := by
  apply countP_le_one_of_pairwise (r.pairwise_lint config)
  intro f f' hf hf'
  obtain ⟨hindex, hfamily⟩ := of_decide_eq_true hf
  obtain ⟨hindex', hfamily'⟩ := of_decide_eq_true hf'
  exact Finding.Precedes.not_of_same (hindex.trans hindex'.symm)
    (hfamily.trans hfamily'.symm)

/-- Findings are about grants of the role. -/
theorem bundle_of_mem_lint {f : Finding} (h : f ∈ r.lint config) :
    f.bundle = r.bundleRef f.bundle.index ∧
      ∃ b, r.bundles[f.bundle.index]? = some b ∧ b.effect = .allow := by
  obtain ⟨b, hbundle, hf⟩ := mem_lint_iff.mp h
  obtain ⟨hallow, -⟩ := mem_lintBundle_iff.mp hf
  refine ⟨?_, b, hbundle, hallow⟩
  rw [bundleRef, hbundle, Option.bind_some]
  exact bundle_of_mem_lintBundle hf

/-- The findings of a role are those of any front of its bundles followed by
those of the rest, moved behind the front.  They come in the order of the
bundles, at most one about the reach and then at most one about the boundary of
each; all of them are about grants, and not two of them judge a broad reach
differently. -/
theorem lint_bundle_by_bundle (config : LintConfig) (r : Role) :
    (∀ front back, (r.withBundles (front ++ back)).lint config =
      (r.withBundles front).lint config ++
        ((r.withBundles back).lint config).map
          (Finding.moveBy front.length)) ∧
    (r.lint config).Pairwise Finding.Precedes ∧
    (∀ index family, (r.lint config).countP (fun f =>
      f.bundle.index = index ∧ f.rule.family = family) ≤ 1) ∧
    (∀ f ∈ r.lint config, f.bundle = r.bundleRef f.bundle.index ∧
      ∃ b, r.bundles[f.bundle.index]? = some b ∧ b.effect = .allow) ∧
    ((∀ f ∈ r.lint config, f.rule ≠ .overlyBroadGrant) ∨
      ∀ f ∈ r.lint config, f.rule ≠ .unboundedPrivilege) := by
  refine ⟨lint_withBundles_append config r, r.pairwise_lint config,
    r.countP_lint_le_one config, fun _ => bundle_of_mem_lint, ?_⟩
  have hrule : ∀ f ∈ r.lint config, f.rule ≠
      if r.trust.conditions.pinsAccount config then .unboundedPrivilege
        else .overlyBroadGrant := by
    intro f hf
    obtain ⟨b, -, hf⟩ := mem_lint_iff.mp hf
    exact rule_of_mem_lintBundle hf
  cases hpinned : r.trust.conditions.pinsAccount config with
  | true => exact Or.inr (by simpa [hpinned] using hrule)
  | false => exact Or.inl (by simpa [hpinned] using hrule)

end Role

end RolePolicy
