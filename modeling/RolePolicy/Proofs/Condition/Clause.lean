import RolePolicy.Condition.Clause
import RolePolicy.Proofs.Condition.Operator
import RolePolicy.Proofs.Sorted

/-!
# Checked clauses

What holds of every clause that a manifest can state, and that nothing else is
needed to state it again: a checked clause written with its operator block, its
key and its values is read as itself.
-/

namespace RolePolicy

/-- The operator block of a clause names its quantifier and its operator. -/
theorem Operator.parse_wire {quantifier : Quantifier} {operator : Operator}
    (h : operator = .null → quantifier = .plain) :
    Operator.parse (quantifier.wirePrefix ++ operator.wireName) =
      .ok (quantifier, operator) :=
  parse_eq_ok_iff.mpr ⟨⟨operator.wireName, operator.wireName_mem_names, rfl⟩, h⟩

namespace Clause

/-! ## What the check of a clause ensures -/

/-- The clause can be stated by a manifest: presence is asked for without a
quantifier and by a truth value, and any other operator compares with at least
one value whose variables are left to the request. -/
structure IsChecked (c : Clause) : Prop where
  plain : c.operator = .null → c.quantifier = .plain
  key : isKey c.key = true
  truth : c.operator = .null →
    c.values = SortedSet.singleton "true" ∨
      c.values = SortedSet.singleton "false"
  nonempty : c.operator ≠ .null → c.values.toList ≠ []
  settled : c.operator ≠ .null →
    ∀ value ∈ c.values, checkValue c.key value = .ok ()

theorem nullValue?_eq_some_iff {values : List String} {folded : String} :
    nullValue? values = some folded ↔
      ∃ value, values = [value] ∧ folded = Text.foldCase value ∧
        (folded = "true" ∨ folded = "false") := by
  constructor
  · intro h
    match values, h with
    | [value], h =>
        obtain ⟨htruth, hfolded⟩ := Option.ite_none_right_eq_some.mp h
        obtain rfl := Option.some.inj hfolded
        exact ⟨value, rfl, rfl, htruth⟩
  · rintro ⟨value, rfl, rfl, htruth⟩
    exact if_pos htruth

theorem parseValues_null {key : String} {values : List String}
    {set : SortedSet String} :
    parseValues .null key values = .ok set ↔
      ∃ folded, nullValue? values = some folded ∧
        set = SortedSet.singleton folded := by
  unfold parseValues
  rw [if_pos rfl]
  cases nullValue? values with
  | none => simp
  | some folded => simp [eq_comm]

theorem parseValues_of_ne_null {operator : Operator} (hnull : operator ≠ .null)
    {key : String} {values : List String} {set : SortedSet String} :
    parseValues operator key values = .ok set ↔
      values ≠ [] ∧ (∀ value ∈ values, checkValue key value = .ok ()) ∧
        set = SortedSet.ofList values := by
  unfold parseValues
  rw [if_neg hnull]
  by_cases hvalues : values = []
  · simp [hvalues]
  · rw [if_neg hvalues, bind_eq_ok_iff]
    constructor
    · rintro ⟨_, hchecked, hset⟩
      exact ⟨hvalues, forM_eq_ok_iff.mp hchecked,
        (Except.ok.inj hset).symm⟩
    · rintro ⟨_, hchecked, rfl⟩
      exact ⟨(), forM_eq_ok_iff.mpr hchecked, rfl⟩

theorem parse_eq_ok_iff {raw key : String} {values : List String} {c : Clause} :
    parse raw key values = .ok c ↔
      Operator.parse raw = .ok (c.quantifier, c.operator) ∧ c.key = key ∧
        isKey c.key = true ∧
          parseValues c.operator c.key values = .ok c.values := by
  unfold parse
  rw [bind_eq_ok_iff]
  constructor
  · rintro ⟨⟨quantifier, operator⟩, hoperator, h⟩
    by_cases hkey : isKey key = true
    · simp only [if_pos hkey] at h
      obtain ⟨set, hset, h⟩ := bind_eq_ok_iff.mp h
      obtain rfl := Except.ok.inj h
      exact ⟨hoperator, rfl, hkey, hset⟩
    · simp only [if_neg hkey] at h
      cases h
  · rintro ⟨hoperator, rfl, hkey, hset⟩
    refine ⟨_, hoperator, ?_⟩
    simp only [if_pos hkey]
    exact bind_eq_ok_iff.mpr ⟨c.values, hset, rfl⟩

/-- An operator other than `Null` compares any key with any values whose
variables are left to the request. -/
theorem parse_eq_ok_iff_of_spells {raw key : String} {values : List String}
    {quantifier : Quantifier} {operator : Operator} {c : Clause}
    (hspells : Operator.Spells raw quantifier operator)
    (hnull : operator ≠ .null) :
    parse raw key values = .ok c ↔
      c = ⟨operator, quantifier, key, SortedSet.ofList values⟩ ∧
        isKey key = true ∧ values ≠ [] ∧
          ∀ value ∈ values, checkValue key value = .ok () := by
  rw [parse_eq_ok_iff]
  constructor
  · intro h
    obtain ⟨hoperator, rfl, hkey, hvalues⟩ := h
    obtain ⟨rfl, rfl⟩ :=
      (Operator.parse_eq_ok_iff.mp hoperator).1.unique hspells
    obtain ⟨hne, hchecked, hset⟩ := (parseValues_of_ne_null hnull).mp hvalues
    refine ⟨?_, hkey, hne, hchecked⟩
    rw [← hset]
  · intro h
    obtain ⟨rfl, hkey, hne, hchecked⟩ := h
    refine ⟨?_, rfl, hkey, ?_⟩
    · exact Operator.parse_eq_ok_iff.mpr ⟨hspells, fun h => absurd h hnull⟩
    · exact (parseValues_of_ne_null hnull).mpr ⟨hne, hchecked, rfl⟩

/-- Whatever passes the check of clauses is a checked clause. -/
theorem isChecked_of_parse {raw key : String} {values : List String}
    {c : Clause} (h : parse raw key values = .ok c) : c.IsChecked := by
  obtain ⟨hoperator, -, hkey, hvalues⟩ := parse_eq_ok_iff.mp h
  by_cases hnull : c.operator = .null
  · rw [hnull, parseValues_null] at hvalues
    obtain ⟨folded, hfolded, hset⟩ := hvalues
    obtain ⟨-, -, -, htruth⟩ := nullValue?_eq_some_iff.mp hfolded
    refine ⟨(Operator.parse_eq_ok_iff.mp hoperator).2, hkey, ?_,
      fun h => absurd hnull h, fun h => absurd hnull h⟩
    intro _
    rcases htruth with rfl | rfl
    · exact Or.inl hset
    · exact Or.inr hset
  · obtain ⟨hne, hchecked, hset⟩ := (parseValues_of_ne_null hnull).mp hvalues
    refine ⟨(Operator.parse_eq_ok_iff.mp hoperator).2, hkey,
      fun h => absurd h hnull, ?_, ?_⟩
    · intro _ hempty
      obtain ⟨value, hvalue⟩ := List.exists_mem_of_ne_nil values hne
      have hmem : value ∈ c.values := by
        rw [hset, SortedSet.mem_ofList]
        exact hvalue
      rw [← SortedSet.mem_toList, hempty] at hmem
      exact absurd hmem List.not_mem_nil
    · intro _ value hvalue
      rw [hset, SortedSet.mem_ofList] at hvalue
      exact hchecked value hvalue

/-- A checked clause is read back from its place in a policy document. -/
theorem IsChecked.parse_wire {c : Clause} (h : c.IsChecked) :
    parse c.block c.key c.values.toList = .ok c := by
  refine parse_eq_ok_iff.mpr ⟨Operator.parse_wire h.plain, rfl, h.key, ?_⟩
  by_cases hnull : c.operator = .null
  · rw [hnull, parseValues_null]
    rcases h.truth hnull with hvalues | hvalues
    · exact ⟨"true", by rw [hvalues]; decide, hvalues⟩
    · exact ⟨"false", by rw [hvalues]; decide, hvalues⟩
  · refine (parseValues_of_ne_null hnull).mpr ⟨h.nonempty hnull, ?_, ?_⟩
    · intro value hvalue
      exact h.settled hnull value hvalue
    · rw [SortedSet.ofList_toList]

end Clause

end RolePolicy
