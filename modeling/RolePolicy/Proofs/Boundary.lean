import Mathlib.Data.Set.Finite.Basic
import RolePolicy.Proofs.Condition.Meaning
import RolePolicy.Proofs.Glob.Parts
import RolePolicy.Proofs.Lint

/-!
# Permission boundaries

A role that creates roles is bounded by the boundary that it declares, or by a
clause of the bundle that demands one of each request.  A clause that the linter
takes for such a demand holds only for requests that carry one of its values.  A
declared boundary is only refused if it is the pattern `*`: with a star anywhere
else it is accepted and covers infinitely many policies, and the linter takes
the role for bounded all the same.
-/

namespace RolePolicy

open Text

/-! ## Patterns that name one resource -/

namespace Glob

/-- A pattern with a star matches candidates of every greater length. -/
theorem infinite_setOf_matches {p : List Char} (h : '*' ∈ p) :
    {s : String | Matches p s.toList}.Infinite := by
  obtain ⟨front, back, rfl⟩ := List.append_of_mem h
  let filled (n : Nat) : List Char := front ++ (List.replicate n 'a' ++ back)
  refine Set.infinite_of_injective_forall_mem
    (f := fun n => String.ofList (filled n)) ?_ ?_
  · intro n n' hsame
    have hlength : (filled n).length = (filled n').length :=
      congrArg List.length (String.ofList_injective hsame)
    simpa [filled] using hlength
  · intro n
    rw [Set.mem_ofPred_eq, String.toList_ofList, Matches.append_left_iff]
    exact ⟨front, _, rfl, .refl front, .star _ (.refl back)⟩

end Glob

namespace ResourcePattern

variable {p : ResourcePattern}

theorem covers_text (p : ResourcePattern) : p.covers p.text = true :=
  covers_eq_true_iff.mpr (.refl _)

theorem infinite_setOf_covers (h : '*' ∈ p.text.toList) :
    {candidate | p.covers candidate = true}.Infinite := by
  simp only [covers_eq_true_iff]
  exact Glob.infinite_setOf_matches h

/-- A pattern names a single resource exactly if it has no star. -/
theorem covers_only_text_iff :
    (∀ candidate, p.covers candidate = true → candidate = p.text) ↔
      '*' ∉ p.text.toList := by
  constructor
  · intro honly hstar
    have hsingle : {candidate | p.covers candidate = true}.Finite :=
      (Set.finite_singleton p.text).subset honly
    exact infinite_setOf_covers hstar hsingle
  · intro hstar candidate hcovers
    rw [covers_eq_true_iff, Glob.Matches.iff_eq_of_notMem_star hstar] at hcovers
    exact String.toList_inj.mp hcovers

end ResourcePattern

/-! ## Clauses that demand a boundary -/

namespace Clause

/-- The clause compares the boundary of a request with its values, and does not
hold if there is none. -/
structure DemandsBoundary (c : Clause) : Prop where
  operator : c.operator = .equals
  quantifier : c.quantifier ≠ .allValues
  key : EqFolded c.key boundaryKey

/-- A clause that demands a boundary holds only for requests that carry one of
its values. -/
theorem DemandsBoundary.exists_mem_expected {c : Clause}
    (h : c.DemandsBoundary) (hchecked : c.IsChecked) {context : RequestContext}
    (hholds : c.holds context = true) :
    ∃ entry, context.get? c.key = some entry ∧
      ∃ value ∈ entry.toList, value ∈ c.expected context := by
  have hnull : c.operator ≠ .null := by
    rw [h.operator]
    decide
  obtain ⟨-, hasks⟩ := (hchecked.holds_iff_asks hnull context).mp hholds
  rw [h.operator] at hasks
  cases hquantifier : c.quantifier with
  | plain =>
      rw [hquantifier] at hasks
      obtain ⟨entry, hentry, hne, hall⟩ := hasks
      obtain ⟨value, hvalue⟩ := List.exists_mem_of_ne_nil _ hne
      exact ⟨entry, hentry, value, hvalue, hall value hvalue⟩
  | anyValue =>
      rw [hquantifier] at hasks
      obtain ⟨entry, hentry, value, hvalue, hadmits⟩ := hasks
      exact ⟨entry, hentry, value, hvalue, hadmits⟩
  | allValues => exact absurd hquantifier h.quantifier

end Clause

theorem Predicate.requiresBoundary_iff {p : Predicate} :
    p.requiresBoundary = true ↔ ∃ c ∈ p.clauses, c.DemandsBoundary := by
  rw [requiresBoundary, List.any_eq_true]
  refine exists_congr fun c => and_congr_right fun _ => ?_
  rw [Bool.and_eq_true, Bool.and_eq_true, decide_eq_true_iff, sameFolded,
    beq_iff_eq]
  constructor
  · rintro ⟨⟨hoperator, hrequires⟩, hkey⟩
    have hquantifier := (Bool.and_eq_true_iff.mp hrequires).1
    exact ⟨hoperator, by simpa using hquantifier, hkey⟩
  · rintro ⟨hoperator, hquantifier, hkey⟩
    exact ⟨⟨hoperator, by simp [Clause.requiresKey, hoperator, hquantifier]⟩,
      hkey⟩

/-! ## The creation of roles -/

namespace Role

variable {config : LintConfig} {r : Role} {b : Bundle} {index : Nat}

theorem lacksBoundary_of_missing {f : Finding}
    (hf : f ∈ r.lintBundle config b index)
    (hrule : f.rule = .missingPermissionBoundary) :
    b.effect = .allow ∧ r.LacksBoundary b := by
  obtain ⟨hallow, ⟨-, rfl⟩ | ⟨hlacks, -⟩⟩ := mem_lintBundle_iff.mp hf
  · exact absurd hrule (Finding.broad_rule_ne_missing _ _ _ _)
  · exact ⟨hallow, hlacks⟩

/-- A bundle is reported for lack of a boundary exactly if it allows to create
roles and nothing bounds them. -/
theorem exists_missing_iff (config : LintConfig)
    (hbundle : r.bundles[index]? = some b) :
    (∃ f ∈ r.lint config, f.bundle.index = index ∧
        f.rule = .missingPermissionBoundary) ↔
      b.effect = .allow ∧ r.LacksBoundary b := by
  constructor
  · rintro ⟨f, hf, rfl, hrule⟩
    exact lacksBoundary_of_missing
      ((mem_lint_iff_mem_lintBundle hbundle).mp hf) hrule
  · rintro ⟨hallow, hlacks⟩
    have hmem : Finding.boundary r b index ∈ r.lintBundle config b index :=
      mem_lintBundle_iff.mpr ⟨hallow, Or.inr ⟨hlacks, rfl⟩⟩
    exact ⟨_, (mem_lint_iff_mem_lintBundle hbundle).mpr hmem, rfl, rfl⟩

/-- Whatever boundary a role declares, the linter misses none. -/
theorem rule_ne_missing_of_boundary (h : r.permissionBoundary ≠ none)
    {f : Finding} (hf : f ∈ r.lint config) :
    f.rule ≠ .missingPermissionBoundary := by
  intro hrule
  obtain ⟨b, -, hmem⟩ := mem_lint_iff.mp hf
  obtain ⟨-, -, hundeclared, -⟩ := lacksBoundary_of_missing hmem hrule
  exact h hundeclared

/-- A boundary that is accepted is not the pattern `*`.  It is the text as
written, and covers itself.  It names a single policy exactly if it has no star,
and covers infinitely many ones otherwise; in both cases the linter takes the
role for bounded. -/
theorem compose_boundary_names_one_iff {catalog : Catalog} {t : RoleSpec}
    {r : Role} {raw : String} (hcompose : compose catalog t = .ok r)
    (hraw : t.permissionBoundary = some raw) :
    raw ≠ "*" ∧ ∃ p, r.permissionBoundary = some p ∧ p.text = raw ∧
      p.covers raw = true ∧
      ((∀ candidate, p.covers candidate = true → candidate = raw) ↔
        '*' ∉ raw.toList) ∧
      ('*' ∈ raw.toList → {candidate | p.covers candidate = true}.Infinite) ∧
      ∀ config, ∀ f ∈ r.lint config, f.rule ≠ .missingPermissionBoundary := by
  have hboundary := (compose_eq_ok_iff.mp hcompose).boundary
  rw [hraw] at hboundary
  obtain ⟨hunlimited, p, hparse, hp⟩ := hboundary
  obtain rfl := ResourcePattern.eq_mk_of_parse hparse
  refine ⟨hunlimited, _, hp, rfl, ResourcePattern.covers_text _,
    ResourcePattern.covers_only_text_iff,
    ResourcePattern.infinite_setOf_covers, ?_⟩
  intro config f hf
  exact rule_ne_missing_of_boundary (by simp [hp]) hf

/-- A role as written that creates roles and declares any policy of any account
as its boundary. -/
def delegatorSpec : RoleSpec where
  name := "Delegator"
  kind := .provisioning
  trust := { principal := "datazone.amazonaws.com", conditions := [] }
  permissionBoundary := some "arn:aws:iam::*:policy/*"
  bundles :=
    [{ sid := none
       effect := "allow"
       actions := ["iam:CreateRole"]
       resources := ["arn:aws:iam::123456789012:role/team-*"]
       conditions := [] }]

/-- The boundary that it declares. -/
def anyPolicy : ResourcePattern :=
  ⟨"arn:aws:iam::*:policy/*"⟩

/-- The role into which it is composed. -/
def delegator : Role where
  name := "Delegator"
  kind := .provisioning
  trust := ⟨"datazone.amazonaws.com", .unconditional⟩
  bundles :=
    [{ sid := none
       effect := .allow
       actions := SortedSet.singleton ⟨"iam", "CreateRole"⟩
       resources := [⟨"arn:aws:iam::123456789012:role/team-*"⟩]
       conditions := .unconditional }]
  permissionBoundary := some anyPolicy

theorem compose_delegator :
    compose (.ofServices [("iam", ["CreateRole"])]) delegatorSpec =
      .ok delegator := by
  decide +kernel

theorem anyPolicy_covers (account name : String) :
    anyPolicy.covers ("arn:aws:iam::" ++ account ++ ":policy/" ++ name) =
      true := by
  have hmatches : Glob.Matches
      ("arn:aws:iam::".toList ++ '*' :: (":policy/".toList ++ ['*']))
      ("arn:aws:iam::".toList ++ (account.toList ++
        (":policy/".toList ++ (name.toList ++ [])))) :=
    Glob.Matches.append_left_iff.mpr ⟨_, _, rfl, .refl _, .star _
      (Glob.Matches.append_left_iff.mpr ⟨_, _, rfl, .refl _, .star _ .nil⟩)⟩
  rw [ResourcePattern.covers_eq_true_iff]
  simpa [anyPolicy] using hmatches

/-- The stars of the delegator's boundary make it cover infinitely many
policies. -/
theorem delegator_boundary_names_one_iff :
    ∃ catalog p, compose catalog delegatorSpec = .ok delegator ∧
      delegatorSpec.permissionBoundary = some "arn:aws:iam::*:policy/*" ∧
      delegator.permissionBoundary = some p ∧
      ¬(∀ candidate, p.covers candidate = true →
        candidate = "arn:aws:iam::*:policy/*") ∧
      {candidate | p.covers candidate = true}.Infinite ∧
      ∀ config, ∀ f ∈ delegator.lint config,
        f.rule ≠ .missingPermissionBoundary := by
  have hstar : '*' ∈ "arn:aws:iam::*:policy/*".toList := by decide +kernel
  obtain ⟨-, p, hp, -, -, honly, hinfinite, hlint⟩ :=
    compose_boundary_names_one_iff compose_delegator rfl
  exact ⟨_, p, compose_delegator, rfl, hp, fun h => honly.mp h hstar,
    hinfinite hstar, hlint⟩

/-- The boundary of the delegator is accepted although it covers policies of
different accounts, and nothing is found about the role, which creates
roles. -/
theorem delegator_boundary_names_many :
    compose (.ofServices [("iam", ["CreateRole"])]) delegatorSpec =
        .ok delegator ∧
      delegator.permissionBoundary = some anyPolicy ∧
      anyPolicy.covers "arn:aws:iam::111111111111:policy/ReadOnly" = true ∧
      anyPolicy.covers "arn:aws:iam::222222222222:policy/Admin" = true ∧
      (∃ b ∈ delegator.bundles, b.effect = .allow ∧ b.createsRoles = true) ∧
      delegator.lint {} = [] := by
  have hreader := anyPolicy_covers "111111111111" "ReadOnly"
  have hadmin := anyPolicy_covers "222222222222" "Admin"
  exact ⟨compose_delegator, rfl, hreader, hadmin, by decide +kernel,
    by decide +kernel⟩

end Role

namespace Manifest

/-- If a bundle of a compiled role that allows to create roles is not reported
for lack of a boundary, then the role declares one, or some clause of the bundle
compares the boundary of a request with its values, and the conditions hold only
for requests that carry one of them.  Bundles that deny are never reported. -/
theorem compile_lint_finds_unbounded_creation {m : Manifest}
    {s : Substitutions} {c : CompiledRoles} {r : Role} {b : Bundle}
    {index : Nat} (config : LintConfig) (hcompile : m.compile s = .ok c)
    (hrole : r ∈ c.roles) (hbundle : r.bundles[index]? = some b) :
    (b.effect = .allow → (⟨"iam", "CreateRole"⟩ : Action) ∈ b.actions →
      (∀ f ∈ r.lint config, f.bundle.index = index →
        f.rule ≠ .missingPermissionBoundary) →
      r.permissionBoundary ≠ none ∨
        ∃ clause ∈ b.conditions.clauses, clause.operator = .equals ∧
          EqFolded clause.key boundaryKey ∧
          ∀ context, b.conditions.holds context = true →
            ∃ entry, context.get? clause.key = some entry ∧
              ∃ value ∈ entry.toList, value ∈ clause.expected context) ∧
    (b.effect = .deny → ∀ f ∈ r.lint config, f.bundle.index = index →
      f.rule ≠ .missingPermissionBoundary) := by
  constructor
  · intro hallow hcreates hunreported
    have hbounded : ¬r.LacksBoundary b := by
      intro hlacks
      obtain ⟨f, hf, hindex, hrule⟩ :=
        (Role.exists_missing_iff config hbundle).mpr ⟨hallow, hlacks⟩
      exact hunreported f hf hindex hrule
    refine or_iff_not_imp_left.mpr fun hundeclared => ?_
    have hrequires : b.conditions.requiresBoundary = true := by
      by_contra hnot
      exact hbounded ⟨Bundle.createsRoles_iff.mpr hcreates,
        not_not.mp hundeclared, hnot⟩
    obtain ⟨clause, hclause, hdemands⟩ :=
      Predicate.requiresBoundary_iff.mp hrequires
    have hcomposed := (isComposed_of_compile hcompile hrole).bundles b
      (List.mem_of_getElem? hbundle)
    have hchecked := hcomposed.canonical.checked clause hclause
    refine ⟨clause, hclause, hdemands.operator, hdemands.key, ?_⟩
    intro context hholds
    exact hdemands.exists_mem_expected hchecked
      (List.all_eq_true.mp hholds clause hclause)
  · intro hdeny f hf hindex hrule
    obtain ⟨hallow, -⟩ :=
      (Role.exists_missing_iff config hbundle).mp ⟨f, hf, hindex, hrule⟩
    rw [hdeny] at hallow
    cases hallow

/-- A manifest of one role without a boundary, which creates roles under the
boundary of the team and may not create roles of administrators. -/
def onboarder : Manifest where
  catalog := SortedMap.ofList [("iam", ["CreateRole"])]
  roles :=
    [{ name := "Onboarder"
       kind := .provisioning
       trust := { principal := "datazone.amazonaws.com", conditions := [] }
       permissionBoundary := none
       bundles :=
        [{ sid := none
           effect := "allow"
           actions := ["iam:createrole"]
           resources := ["arn:aws:iam::123456789012:role/*"]
           conditions :=
            [{ operator := "ForAnyValue:StringEquals"
               key := "IAM:permissionsboundary"
               values :=
                ["arn:aws:iam::$\x7baws:PrincipalAccount\x7d:policy/team"] }] },
         { sid := none
           effect := "deny"
           actions := ["iam:CreateRole"]
           resources := ["arn:aws:iam::123456789012:role/admin-*"]
           conditions := [] }] }]

/-- The bundle that lets the onboarder create roles. -/
def onboarderGrant : Bundle where
  sid := none
  effect := .allow
  actions := SortedSet.singleton ⟨"iam", "CreateRole"⟩
  resources := [⟨"arn:aws:iam::123456789012:role/*"⟩]
  conditions :=
    ⟨[{ operator := .equals
        quantifier := .anyValue
        key := "IAM:permissionsboundary"
        values :=
          SortedSet.singleton
            "arn:aws:iam::$\x7baws:PrincipalAccount\x7d:policy/team" }]⟩

/-- The bundle that keeps it from creating roles of administrators. -/
def onboarderDenial : Bundle where
  sid := none
  effect := .deny
  actions := SortedSet.singleton ⟨"iam", "CreateRole"⟩
  resources := [⟨"arn:aws:iam::123456789012:role/admin-*"⟩]
  conditions := .unconditional

/-- The one role of the manifest. -/
def onboarderRole : Role where
  name := "Onboarder"
  kind := .provisioning
  trust := ⟨"datazone.amazonaws.com", .unconditional⟩
  bundles := [onboarderGrant, onboarderDenial]
  permissionBoundary := none

theorem compile_onboarder :
    onboarder.compile ∅ =
      .ok ⟨onboarder.actionCatalog, [onboarderRole], ∅⟩ := by
  decide +kernel

/-- A request of an account for a role under two boundaries. -/
def boundedRequest : RequestContext :=
  SortedMap.ofList
    [("IAM:permissionsboundary",
        .multi ["arn:aws:iam::123456789012:policy/old",
          "arn:aws:iam::123456789012:policy/team"]),
      ("aws:PrincipalAccount", .single "123456789012")]

/-- The onboarder declares no boundary, and no finding about it is made: one of
the boundaries of the request is that of the team. -/
theorem onboarder_lint_finds_unbounded_creation :
    let config : LintConfig := {}
    let creation : Action := ⟨"iam", "CreateRole"⟩
    ∃ c, onboarder.compile ∅ = .ok c ∧ onboarderRole ∈ c.roles ∧
      onboarderRole.permissionBoundary = none ∧
      onboarderRole.bundles[0]? = some onboarderGrant ∧
      onboarderGrant.effect = .allow ∧ creation ∈ onboarderGrant.actions ∧
      onboarderRole.lint config = [] ∧
      onboarderGrant.conditions.holds boundedRequest = true ∧
      (∃ clause ∈ onboarderGrant.conditions.clauses,
        clause.operator = .equals ∧ EqFolded clause.key boundaryKey ∧
          ∃ entry, boundedRequest.get? clause.key = some entry ∧
            ∃ value ∈ entry.toList, value ∈ clause.expected boundedRequest) ∧
      onboarderRole.bundles[1]? = some onboarderDenial ∧
      onboarderDenial.effect = .deny ∧ creation ∈ onboarderDenial.actions ∧
      ∀ f ∈ onboarderRole.lint config, f.bundle.index = 1 →
        f.rule ≠ .missingPermissionBoundary := by
  intro config creation
  have hrole : onboarderRole ∈ [onboarderRole] :=
    List.mem_singleton_self onboarderRole
  have hgrant : onboarderRole.bundles[0]? = some onboarderGrant := rfl
  have hdenial : onboarderRole.bundles[1]? = some onboarderDenial := rfl
  have hlint : onboarderRole.lint config = [] := by decide +kernel
  have hunreported : ∀ f ∈ onboarderRole.lint config, f.bundle.index = 0 →
      f.rule ≠ .missingPermissionBoundary := by
    rw [hlint]
    exact fun _ hmem => absurd hmem List.not_mem_nil
  have hholds : onboarderGrant.conditions.holds boundedRequest = true := by
    decide +kernel
  have hcreates : creation ∈ onboarderGrant.actions := by decide +kernel
  obtain ⟨hallowed, -⟩ := compile_lint_finds_unbounded_creation config
    compile_onboarder hrole hgrant
  obtain ⟨-, hdenied⟩ := compile_lint_finds_unbounded_creation config
    compile_onboarder hrole hdenial
  obtain ⟨clause, hclause, hoperator, hkey, hcarries⟩ :=
    (hallowed rfl hcreates hunreported).resolve_left fun hne => hne rfl
  exact ⟨_, compile_onboarder, hrole, rfl, hgrant, rfl, hcreates, hlint, hholds,
    ⟨clause, hclause, hoperator, hkey, hcarries boundedRequest hholds⟩, hdenial,
    rfl, by decide +kernel, hdenied rfl⟩

end Manifest

end RolePolicy
