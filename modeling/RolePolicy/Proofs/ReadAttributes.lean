import RolePolicy.Decision
import RolePolicy.Proofs.Composed

/-!
# Attributes that decisions read

A clause reads the attribute of its key and those that the variables of its
values name, and of each of them only whether it is there and which values it
has, in any order.  Contexts that agree on these attributes are therefore
decided alike, whatever else they carry.
-/

namespace RolePolicy

open Text

/-! ## What is read -/

/-- The attribute that a piece of a text names. -/
def Text.Piece.attribute? : Piece → Option String
  | .variable name => some (String.ofList name)
  | _ => none

/-- The attributes that the clause reads: its key, and the variables of its
values. -/
def Clause.attributes (c : Clause) : List String :=
  c.key :: c.values.toList.flatMap fun value =>
    (pieces value.toList).filterMap Piece.attribute?

/-- The attributes that the clauses of a predicate read. -/
def Predicate.attributes (p : Predicate) : List String :=
  p.clauses.flatMap Clause.attributes

/-- The attributes that the bundles of a role read. -/
def Role.bundleAttributes (r : Role) : List String :=
  r.bundles.flatMap fun b => b.conditions.attributes

namespace RequestContext

variable {context context' : RequestContext}

/-- The contexts both lack the attribute, or they have the same values of it, in
some order. -/
def AgreesOn (context context' : RequestContext) (key : String) : Prop :=
  Option.Rel (fun entry entry' => entry.toList.Perm entry'.toList)
    (context.get? key) (context'.get? key)

theorem sole?_eq_some_iff {key value : String} :
    context.sole? key = some value ↔
      ∃ entry, context.get? key = some entry ∧ entry.toList = [value] := by
  unfold sole?
  cases context.get? key with
  | none => simp
  | some entry =>
      simp only [Option.map_some, Option.some.injEq, exists_eq_left']
      constructor
      · intro h
        split at h
        · rename_i only hentry
          rw [Option.some.inj hentry, Option.some.inj h]
        · cases h
      · intro h
        rw [h]

/-- A variable stands for the same text in contexts that agree on it. -/
theorem AgreesOn.sole?_eq {key : String} (h : context.AgreesOn context' key) :
    context.sole? key = context'.sole? key := by
  apply Option.ext
  intro value
  rw [sole?_eq_some_iff, sole?_eq_some_iff]
  unfold AgreesOn at h
  generalize context.get? key = o, context'.get? key = o' at h ⊢
  cases h with
  | none => simp
  | some hperm =>
      simp only [Option.some.injEq, exists_eq_left']
      constructor
      · intro hvalue
        rw [hvalue] at hperm
        exact (List.singleton_perm.mp hperm).symm
      · intro hvalue
        rw [hvalue] at hperm
        exact List.perm_singleton.mp hperm

theorem resolve_eq_of_agreesOn {text : String}
    (h : ∀ key ∈ (pieces text.toList).filterMap Piece.attribute?,
      context.AgreesOn context' key) :
    context.resolve text = context'.resolve text := by
  have hpieces : ∀ p ∈ pieces text.toList,
      context.resolvePiece p = context'.resolvePiece p := by
    intro p hp
    rcases p with c | name | rest
    · rfl
    · have hname := h (String.ofList name)
        (List.mem_filterMap.mpr ⟨_, hp, rfl⟩)
      exact congrArg (Option.map String.toList) hname.sole?_eq
    · rfl
  rw [resolve, resolve, listMapM_congr hpieces]

end RequestContext

/-! ## What contexts decide -/

section Agree

variable {context context' : RequestContext}

namespace Clause

theorem agreesOn_of_value {c : Clause}
    (h : ∀ key ∈ c.attributes, context.AgreesOn context' key) {value : String}
    (hvalue : value ∈ c.values.toList) :
    ∀ key ∈ (pieces value.toList).filterMap Piece.attribute?,
      context.AgreesOn context' key := by
  intro key hkey
  exact h key (List.mem_cons_of_mem _ (List.mem_flatMap.mpr ⟨value, hvalue, hkey⟩))

/-- A clause holds or fails in contexts that agree on what it reads. -/
theorem holds_eq_of_agreesOn {c : Clause}
    (h : ∀ key ∈ c.attributes, context.AgreesOn context' key) :
    c.holds context = c.holds context' := by
  have hexpected : c.values.toList.mapM context.resolve =
      c.values.toList.mapM context'.resolve :=
    listMapM_congr fun value hvalue =>
      RequestContext.resolve_eq_of_agreesOn (agreesOn_of_value h hvalue)
  have hentry := h c.key List.mem_cons_self
  unfold RequestContext.AgreesOn at hentry
  unfold holds
  rw [hexpected]
  generalize context.get? c.key = o, context'.get? c.key = o' at hentry ⊢
  cases hentry with
  | none => rfl
  | some hperm =>
      by_cases hnull : c.operator = .null
      · simp only [if_pos hnull]
        rfl
      · simp only [if_neg hnull, Option.map_some]
        cases c.values.toList.mapM context'.resolve with
        | none => rfl
        | some expected =>
            cases c.quantifier with
            | plain => simp only [hperm.all_eq, hperm.isEmpty_eq]
            | anyValue => simp only [hperm.any_eq]
            | allValues => simp only [hperm.all_eq]

end Clause

theorem Predicate.holds_eq_of_agreesOn {p : Predicate}
    (h : ∀ key ∈ p.attributes, context.AgreesOn context' key) :
    p.holds context = p.holds context' := by
  have hclauses : ∀ c ∈ p.clauses, c.holds context = c.holds context' := by
    intro c hc
    apply Clause.holds_eq_of_agreesOn
    intro key hkey
    exact h key (List.mem_flatMap.mpr ⟨c, hc, hkey⟩)
  rw [Bool.eq_iff_iff, holds, holds, List.all_eq_true, List.all_eq_true]
  exact forall₂_congr fun c hc => by rw [hclauses c hc]

theorem Role.matching_eq_of_agreesOn {r : Role}
    (h : ∀ key ∈ r.bundleAttributes, context.AgreesOn context' key)
    (effect : Effect) (a : Action) (resource : String) :
    r.matching effect a resource context =
      r.matching effect a resource context' := by
  apply List.filterMap_congr
  intro x hx
  obtain ⟨b, index⟩ := x
  have hbundle : b ∈ r.bundles := List.fst_mem_of_mem_zipIdx hx
  have hholds : b.conditions.holds context = b.conditions.holds context' := by
    apply Predicate.holds_eq_of_agreesOn
    intro key hkey
    exact h key (List.mem_flatMap.mpr ⟨b, hbundle, hkey⟩)
  have happlies : b.appliesTo a resource context =
      b.appliesTo a resource context' := by
    rw [Bundle.appliesTo, Bundle.appliesTo, hholds]
  simp only [happlies]

end Agree

namespace Role

/-- Requests whose contexts agree on the attributes that the bundles of a role
read are decided alike, by the same bundles, and who may assume the role depends
on the attributes that its trust reads. -/
theorem decisions_eq_of_agreesOn (r : Role) (context context' : RequestContext) :
    ((∀ key ∈ r.bundleAttributes, context.AgreesOn context' key) →
      ∀ catalog action resource,
        r.evaluate catalog ⟨action, resource, context⟩ =
          r.evaluate catalog ⟨action, resource, context'⟩) ∧
    ((∀ key ∈ r.trust.conditions.attributes, context.AgreesOn context' key) →
      ∀ principal,
        r.decideAssume principal context = r.decideAssume principal context') := by
  constructor
  · intro h catalog action resource
    simp only [evaluate, matching_eq_of_agreesOn h]
  · intro h principal
    simp only [decideAssume, Predicate.holds_eq_of_agreesOn h]

end Role

namespace Manifest

/-- Tag keys in another order, one value as a list, and an attribute that no
clause reads. -/
theorem decisions_provisionerRole :
    ∃ context context' : RequestContext, context ≠ context' ∧
      (∀ key ∈ provisionerRole.bundleAttributes, context.AgreesOn context' key) ∧
      (∀ catalog action resource,
        provisionerRole.evaluate catalog ⟨action, resource, context⟩ =
          provisionerRole.evaluate catalog ⟨action, resource, context'⟩) ∧
      ∀ principal, provisionerRole.decideAssume principal context =
        provisionerRole.decideAssume principal context' := by
  let context : RequestContext :=
    SortedMap.ofList
      [("aws:TagKeys", .multi ["team", "storage"]),
        ("aws:PrincipalTag/team", .single "storage")]
  let context' : RequestContext :=
    SortedMap.ofList
      [("aws:TagKeys", .multi ["storage", "team"]),
        ("aws:PrincipalTag/team", .multi ["storage"]),
        ("aws:SourceIp", .single "10.0.0.1")]
  have hkeys : context.AgreesOn context' "aws:TagKeys" := by
    have hget : context.get? "aws:TagKeys" =
        some (.multi ["team", "storage"]) := by decide +kernel
    have hget' : context'.get? "aws:TagKeys" =
        some (.multi ["storage", "team"]) := by decide +kernel
    rw [RequestContext.AgreesOn, hget, hget']
    exact .some (List.Perm.swap _ _ _)
  have hteam : context.AgreesOn context' "aws:PrincipalTag/team" := by
    have hget : context.get? "aws:PrincipalTag/team" =
        some (.single "storage") := by decide +kernel
    have hget' : context'.get? "aws:PrincipalTag/team" =
        some (.multi ["storage"]) := by decide +kernel
    rw [RequestContext.AgreesOn, hget, hget']
    exact .some (List.Perm.refl _)
  have hagree : ∀ key ∈ provisionerRole.bundleAttributes,
      context.AgreesOn context' key := by
    have hread : provisionerRole.bundleAttributes =
        ["aws:TagKeys", "aws:PrincipalTag/team"] := by decide +kernel
    rw [hread, List.forall_mem_cons, List.forall_mem_singleton]
    exact ⟨hkeys, hteam⟩
  have htrust : ∀ key ∈ provisionerRole.trust.conditions.attributes,
      context.AgreesOn context' key := by
    intro key hkey
    exact absurd hkey List.not_mem_nil
  have hdecisions :=
    Role.decisions_eq_of_agreesOn provisionerRole context context'
  exact ⟨context, context', by decide +kernel, hagree, hdecisions.1 hagree,
    hdecisions.2 htrust⟩

end Manifest

end RolePolicy
