import RolePolicy.Condition.Operator
import RolePolicy.Proofs.FirstDefect

/-!
# Spellings of operators

An operator is spelled by one of its names behind the prefix of a quantifier.
No name begins like a prefix, so a text spells at most one operator and one
quantifier; the check of operators finds exactly these.
-/

namespace RolePolicy

namespace Quantifier

/-- The parts of an operator as written make up the text again. -/
theorem wirePrefix_append_split (raw : String) :
    (split raw).1.wirePrefix ++ (split raw).2 = raw := by
  have hfront : ∀ (q : Quantifier) (name : List Char),
      q.wirePrefix.toList.isPrefixOf? raw.toList = some name →
        q.wirePrefix ++ String.ofList name = raw := by
    intro q name h
    rw [List.isPrefixOf?_eq_some_iff_append_eq] at h
    rw [← String.toList_inj, String.toList_append, String.toList_ofList, h]
  unfold split
  cases hany : anyValue.wirePrefix.toList.isPrefixOf? raw.toList with
  | some name => exact hfront anyValue name hany
  | none =>
      cases hall : allValues.wirePrefix.toList.isPrefixOf? raw.toList with
      | some name => exact hfront allValues name hall
      | none => simp [wirePrefix]

end Quantifier

namespace Operator

/-- The names under which manifests know an operator. -/
def names : Operator → List String
  | equals => ["StringEquals", "Equals"]
  | notEquals => ["StringNotEquals", "NotEquals"]
  | like => ["StringLike"]
  | null => ["Null"]

/-- The names of all operators. -/
def knownNames : List String :=
  [equals, notEquals, like, null].flatMap names

/-- The text names the operator, behind the prefix of the quantifier. -/
def Spells (raw : String) (quantifier : Quantifier) (operator : Operator) :
    Prop :=
  ∃ name ∈ operator.names, raw = quantifier.wirePrefix ++ name

theorem wireName_mem_names (operator : Operator) :
    operator.wireName ∈ operator.names := by
  cases operator <;> simp [wireName, names]

theorem ofName?_eq_some_iff {name : String} {operator : Operator} :
    ofName? name = some operator ↔ name ∈ operator.names := by
  constructor
  · intro h
    unfold ofName? at h
    split_ifs at h with hequals hnotEquals hlike hnull
    all_goals obtain rfl := Option.some.inj h
    · simpa [names] using hequals
    · simpa [names] using hnotEquals
    · simpa [names] using hlike
    · simpa [names] using hnull
  · have hall : ∀ name ∈ operator.names, ofName? name = some operator := by
      cases operator <;> decide
    exact hall name

theorem isSome_ofName?_iff {name : String} :
    (ofName? name).isSome = true ↔ name ∈ knownNames := by
  rw [Option.isSome_iff_exists]
  simp only [ofName?_eq_some_iff]
  constructor
  · rintro ⟨operator, h⟩
    exact List.mem_flatMap.mpr ⟨operator, by cases operator <;> simp, h⟩
  · intro h
    obtain ⟨operator, -, h⟩ := List.mem_flatMap.mp h
    exact ⟨operator, h⟩

theorem split_wirePrefix_append {quantifier : Quantifier} {operator : Operator}
    {name : String} (h : name ∈ operator.names) :
    Quantifier.split (quantifier.wirePrefix ++ name) = (quantifier, name) := by
  have hall : ∀ name ∈ knownNames,
      Quantifier.split (quantifier.wirePrefix ++ name) = (quantifier, name) := by
    cases quantifier <;> decide +kernel
  apply hall
  rw [← isSome_ofName?_iff, ofName?_eq_some_iff.mpr h]
  rfl

/-- A text is cut into the quantifier and the name that it spells. -/
theorem spells_iff {raw : String} {quantifier : Quantifier}
    {operator : Operator} :
    Spells raw quantifier operator ↔
      (Quantifier.split raw).1 = quantifier ∧
        (Quantifier.split raw).2 ∈ operator.names := by
  constructor
  · rintro ⟨name, hname, rfl⟩
    rw [split_wirePrefix_append hname]
    exact ⟨rfl, hname⟩
  · rintro ⟨rfl, hname⟩
    exact ⟨_, hname, (Quantifier.wirePrefix_append_split raw).symm⟩

/-- A text spells at most one operator, behind at most one quantifier. -/
theorem Spells.unique {raw : String} {quantifier quantifier' : Quantifier}
    {operator operator' : Operator} (h : Spells raw quantifier operator)
    (h' : Spells raw quantifier' operator') :
    quantifier = quantifier' ∧ operator = operator' := by
  obtain ⟨rfl, hname⟩ := spells_iff.mp h
  obtain ⟨rfl, hname'⟩ := spells_iff.mp h'
  rw [← ofName?_eq_some_iff] at hname hname'
  exact ⟨rfl, Option.some.inj (hname.symm.trans hname')⟩

/-- The name of an operator block tells its quantifier and its operator. -/
theorem wire_inj {quantifier quantifier' : Quantifier}
    {operator operator' : Operator} :
    quantifier.wirePrefix ++ operator.wireName =
        quantifier'.wirePrefix ++ operator'.wireName ↔
      quantifier = quantifier' ∧ operator = operator' := by
  constructor
  · intro h
    have hspells : Spells (quantifier.wirePrefix ++ operator.wireName)
        quantifier operator := ⟨_, operator.wireName_mem_names, rfl⟩
    have hspells' : Spells (quantifier.wirePrefix ++ operator.wireName)
        quantifier' operator' := ⟨_, operator'.wireName_mem_names, h⟩
    exact hspells.unique hspells'
  · rintro ⟨rfl, rfl⟩
    rfl

/-- The operator of a clause is read from its spelling; `Null` takes no
quantifier. -/
theorem parse_eq_ok_iff {raw : String} {quantifier : Quantifier}
    {operator : Operator} :
    parse raw = .ok (quantifier, operator) ↔
      Spells raw quantifier operator ∧
        (operator = .null → quantifier = .plain) := by
  rw [spells_iff, ← ofName?_eq_some_iff]
  unfold parse
  cases hname : ofName? (Quantifier.split raw).2 with
  | none => simp [hname]
  | some found =>
      by_cases hquantified : found = .null ∧ (Quantifier.split raw).1 ≠ .plain
      · simp only [hname, if_pos hquantified]
        constructor
        · intro h
          cases h
        · rintro ⟨⟨rfl, h⟩, hplain⟩
          obtain rfl := Option.some.inj h
          exact absurd (hplain hquantified.1) hquantified.2
      · simp only [hname, if_neg hquantified, Except.ok.injEq, Prod.mk.injEq,
          Option.some.injEq]
        constructor
        · rintro ⟨rfl, rfl⟩
          refine ⟨⟨rfl, rfl⟩, ?_⟩
          intro hnull
          by_contra hplain
          exact hquantified ⟨hnull, hplain⟩
        · rintro ⟨h, -⟩
          exact h

/-- The rules that a text breaks as an operator. -/
def defects (raw : String) : List ClauseFault :=
  demand ((Quantifier.split raw).2 ∈ knownNames)
      (.unknownOperator (Quantifier.split raw).2) ++
    demand ((Quantifier.split raw).2 ∈ null.names →
      (Quantifier.split raw).1 = .plain) (.quantifiedNull raw)

/-- The check of an operator reports the first rule that it breaks. -/
theorem parse_reports (raw : String) : Reports (parse raw) (defects raw) := by
  refine Reports.lookup isSome_ofName?_iff ?_ ?_
  · intro hname
    simp only [parse, hname]
  · intro operator hname
    have hrule : ((Quantifier.split raw).2 ∈ null.names →
          (Quantifier.split raw).1 = .plain) ↔
        ¬(operator = .null ∧ (Quantifier.split raw).1 ≠ .plain) := by
      rw [← ofName?_eq_some_iff, hname, Option.some.injEq, not_and, not_not]
    simp only [parse, hname]
    simpa using Reports.refuse hrule fun _ => Reports.ok _

theorem defects_eq_nil_iff {raw : String} :
    defects raw = [] ↔
      ∃ quantifier operator, Spells raw quantifier operator ∧
        (operator = .null → quantifier = .plain) := by
  rw [← (parse_reports raw).exists_ok_iff]
  simp only [Prod.exists, parse_eq_ok_iff]

end Operator

end RolePolicy
