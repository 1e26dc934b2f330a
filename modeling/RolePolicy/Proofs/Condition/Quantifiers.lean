import RolePolicy.Proofs.Condition.Meaning

/-!
# Quantified clauses and their opposites

Of the values of a key, either one passes or all of them fail, and a missing key
has no value that could pass or fail.  The two quantifiers are therefore turned
into each other by a negation, and a clause without a quantifier demands what
both of them demand.  Opposite clauses exclude each other in every context, but
one of them holds only if the variables of their values stand for something.
-/

namespace RolePolicy

/-! ## Quantifiers -/

namespace Quantifier

variable {entry : Option ContextValue} {passes fails : String → Prop}

/-- Without a quantifier some value is demanded, and none may fail. -/
theorem asks_plain_iff :
    plain.Asks entry passes ↔
      anyValue.Asks entry passes ∧ allValues.Asks entry passes := by
  cases entry with
  | none => simp [Asks]
  | some e =>
      simp only [Asks, Option.some.injEq, exists_eq_left', forall_eq']
      constructor
      · intro h
        obtain ⟨hne, hall⟩ := h
        obtain ⟨v, hv⟩ := List.exists_mem_of_ne_nil e.toList hne
        exact ⟨⟨v, hv, hall v hv⟩, hall⟩
      · intro h
        obtain ⟨⟨v, hv, -⟩, hall⟩ := h
        exact ⟨List.ne_nil_of_mem hv, hall⟩

/-- Either some value passes, or all of them fail, in particular if there is
none. -/
theorem asks_allValues_iff_not (h : ∀ v, fails v ↔ ¬passes v) :
    allValues.Asks entry fails ↔ ¬anyValue.Asks entry passes := by
  simp only [Asks, h]
  push Not
  rfl

/-- Either all values pass, or some value fails. -/
theorem asks_anyValue_iff_not (h : ∀ v, fails v ↔ ¬passes v) :
    anyValue.Asks entry fails ↔ ¬allValues.Asks entry passes := by
  simp only [Asks, h]
  push Not
  rfl

end Quantifier

/-- A value is either among the expected texts or not. -/
theorem Operator.admits_notEquals_iff {expected : Set String} (value : String) :
    notEquals.Admits expected value ↔ ¬equals.Admits expected value :=
  Iff.rfl

/-! ## Forms of a clause -/

namespace Clause

variable {c : Clause} {quantifier : Quantifier} {operator : Operator}
  {context : RequestContext}

/-- The clause with another quantifier and another operator. -/
def withForm (c : Clause) (quantifier : Quantifier) (operator : Operator) :
    Clause :=
  { c with quantifier, operator }

/-- Comparing the same key with the same values in another way is possible
too. -/
theorem parse_withForm {raw raw' key : String} {values : List String}
    (hparse : parse raw key values = .ok c) (hnull : c.operator ≠ .null)
    (hoperator : operator ≠ .null)
    (hspells : Operator.Spells raw' quantifier operator) :
    parse raw' key values = .ok (c.withForm quantifier operator) := by
  obtain ⟨-, rfl, hkey, hvalues⟩ := parse_eq_ok_iff.mp hparse
  rw [parseValues_of_ne_null hnull] at hvalues
  refine parse_eq_ok_iff.mpr ⟨?_, rfl, hkey, ?_⟩
  · exact Operator.parse_eq_ok_iff.mpr
      ⟨hspells, fun hother => absurd hother hoperator⟩
  · exact (parseValues_of_ne_null hoperator).mpr hvalues

theorem IsChecked.withForm (h : c.IsChecked) (hnull : c.operator ≠ .null)
    (hoperator : operator ≠ .null) :
    (c.withForm quantifier operator).IsChecked where
  plain := fun hother => absurd hother hoperator
  key := h.key
  truth := fun hother => absurd hother hoperator
  nonempty := fun _ => h.nonempty hnull
  settled := fun _ => h.settled hnull

/-- The forms of a clause have their variables and their expected texts in
common. -/
theorem IsChecked.withForm_holds_iff (h : c.IsChecked)
    (hnull : c.operator ≠ .null) (hoperator : operator ≠ .null) :
    (c.withForm quantifier operator).holds context = true ↔
      c.Resolves context ∧ quantifier.Asks (context.get? c.key)
        (operator.Admits (c.expected context)) :=
  (h.withForm hnull hoperator).holds_iff_asks hoperator context

/-- Forms that ask the opposite of each other exclude each other, and one of
them holds if the variables are supplied. -/
theorem IsChecked.withForm_holds_eq_not (h : c.IsChecked)
    (hnull : c.operator ≠ .null) (hresolves : c.Resolves context)
    {quantifier' : Quantifier} {operator' : Operator}
    (hoperator : operator ≠ .null) (hoperator' : operator' ≠ .null)
    (hopposite :
      quantifier'.Asks (context.get? c.key)
          (operator'.Admits (c.expected context)) ↔
        ¬quantifier.Asks (context.get? c.key)
          (operator.Admits (c.expected context))) :
    (c.withForm quantifier' operator').holds context =
      !(c.withForm quantifier operator).holds context := by
  rw [Bool.eq_iff_iff, Bool.not_eq_true', ← Bool.not_eq_true,
    h.withForm_holds_iff hnull hoperator,
    h.withForm_holds_iff hnull hoperator', hopposite,
    and_iff_right hresolves, and_iff_right hresolves]

/-- What a key and values that are accepted with one operator say with others.
Without a quantifier they demand what both quantified forms demand.  If all
variables are supplied, opposite forms have opposite results; if one is not, no
form holds, even one about all values of a missing key. -/
theorem parse_quantified_forms {raw key : String} {values : List String}
    {c : Clause} (hparse : parse raw key values = .ok c)
    (hnull : c.operator ≠ .null) (context : RequestContext) :
    (∀ quantifier operator, operator ≠ .null → ∀ raw',
      Operator.Spells raw' quantifier operator →
        parse raw' key values = .ok (c.withForm quantifier operator)) ∧
    (∀ operator, operator ≠ .null →
      ((c.withForm .plain operator).holds context = true ↔
        (c.withForm .anyValue operator).holds context = true ∧
          (c.withForm .allValues operator).holds context = true)) ∧
    (c.Resolves context →
      (c.withForm .allValues .notEquals).holds context =
          !(c.withForm .anyValue .equals).holds context ∧
        (c.withForm .anyValue .notEquals).holds context =
          !(c.withForm .allValues .equals).holds context) ∧
    (¬c.Resolves context → ∀ quantifier operator, operator ≠ .null →
      (c.withForm quantifier operator).holds context = false) := by
  have hchecked := isChecked_of_parse hparse
  refine ⟨?_, ?_, ?_, ?_⟩
  · intro quantifier operator hoperator raw' hspells
    exact parse_withForm hparse hnull hoperator hspells
  · intro operator hoperator
    simp only [hchecked.withForm_holds_iff hnull hoperator,
      Quantifier.asks_plain_iff]
    exact and_and_left
  · intro hresolves
    constructor
    · exact hchecked.withForm_holds_eq_not hnull hresolves (by decide) (by decide)
        (Quantifier.asks_allValues_iff_not Operator.admits_notEquals_iff)
    · exact hchecked.withForm_holds_eq_not hnull hresolves (by decide) (by decide)
        (Quantifier.asks_anyValue_iff_not Operator.admits_notEquals_iff)
  · intro hmissing quantifier operator hoperator
    rw [← Bool.not_eq_true, hchecked.withForm_holds_iff hnull hoperator]
    exact fun hboth => hmissing hboth.1

/-- The tags of a request are those that its caller's team may use. -/
def teamTags : Clause where
  operator := .equals
  quantifier := .plain
  key := "aws:TagKeys"
  values := SortedSet.ofList ["owner", "$\x7baws:PrincipalTag/team\x7d"]

/-- A request with one tag of the caller's team and one other tag. -/
def mixedTags : RequestContext :=
  SortedMap.ofList
    [("aws:PrincipalTag/team", .single "storage"),
      ("aws:TagKeys", .multi ["storage", "stage"])]

/-- Of two tags one is expected and one is not, so that both clauses about some
value hold, and neither of those about all values; without a team no clause
holds, although there are no tags. -/
theorem teamTags_quantified_forms :
    let values := ["owner", "$\x7baws:PrincipalTag/team\x7d"]
    parse "Equals" "aws:TagKeys" values = .ok teamTags ∧
      teamTags.operator ≠ .null ∧
      Operator.Spells "ForAllValues:NotEquals" .allValues .notEquals ∧
      parse "ForAllValues:NotEquals" "aws:TagKeys" values =
        .ok (teamTags.withForm .allValues .notEquals) ∧
      teamTags.Resolves mixedTags ∧
      ((teamTags.withForm .plain .equals).holds mixedTags = true ↔
        (teamTags.withForm .anyValue .equals).holds mixedTags = true ∧
          (teamTags.withForm .allValues .equals).holds mixedTags = true) ∧
      (teamTags.withForm .anyValue .equals).holds mixedTags = true ∧
      (teamTags.withForm .allValues .notEquals).holds mixedTags = false ∧
      (teamTags.withForm .allValues .equals).holds mixedTags = false ∧
      (teamTags.withForm .anyValue .notEquals).holds mixedTags = true ∧
      ¬teamTags.Resolves ∅ ∧
      (teamTags.withForm .allValues .notEquals).holds ∅ = false := by
  intro values
  have hparse : parse "Equals" "aws:TagKeys" values = .ok teamTags := by
    decide +kernel
  have hnull : teamTags.operator ≠ .null := by decide
  have hspells : Operator.Spells "ForAllValues:NotEquals" .allValues .notEquals :=
    ⟨"NotEquals", by decide, rfl⟩
  have hchecked := isChecked_of_parse hparse
  have hresolves : teamTags.Resolves mixedTags := by
    rw [← hchecked.exists_resolve_iff, ← Option.isSome_iff_exists]
    decide +kernel
  have hmissing : ¬teamTags.Resolves ∅ := by
    rw [← hchecked.exists_resolve_iff, ← Option.isSome_iff_exists]
    decide +kernel
  have hany : (teamTags.withForm .anyValue .equals).holds mixedTags = true := by
    decide +kernel
  have hall : (teamTags.withForm .allValues .equals).holds mixedTags = false := by
    decide +kernel
  obtain ⟨hforms, hplain, hopposite, -⟩ :=
    parse_quantified_forms hparse hnull mixedTags
  obtain ⟨hallNot, hanyNot⟩ := hopposite hresolves
  obtain ⟨-, -, -, hnone⟩ := parse_quantified_forms hparse hnull ∅
  rw [hany] at hallNot
  rw [hall] at hanyNot
  exact ⟨hparse, hnull, hspells, hforms _ _ (by decide) _ hspells, hresolves,
    hplain .equals (by decide), hany, hallNot, hall, hanyNot, hmissing,
    hnone hmissing .allValues .notEquals (by decide)⟩

end Clause

end RolePolicy
