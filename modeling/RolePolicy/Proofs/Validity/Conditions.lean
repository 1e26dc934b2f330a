import RolePolicy.Proofs.Condition.Canonical
import RolePolicy.Proofs.Text.Spelling
import RolePolicy.Proofs.Text.Template

/-!
# Valid conditions

What a manifest may state as the conditions of a bundle or of a trust, said
without the checker: the form of keys, the values that each operator takes, and
that no two clauses speak about the same attribute by the same operator.  The
check of conditions accepts exactly the valid ones, and otherwise reports the
first of their defects.
-/

namespace RolePolicy

open Text

/-! ## Keys -/

namespace Clause

/-- A key of the form `prefix:name`, of visible characters, whose prefix has
letters, digits, hyphens and underscores only. -/
def IsAttributeKey (key : String) : Prop :=
  ∃ front name, key.toList = front ++ ':' :: name ∧ front ≠ [] ∧ name ≠ [] ∧
    (∀ c ∈ front, c.isAlphanum = true ∨ c = '-' ∨ c = '_') ∧
      IsVisible key.toList

theorem isKey_eq_true_iff {key : String} :
    isKey key = true ↔ IsAttributeKey key := by
  unfold isKey
  constructor
  · intro h
    cases hsplit : splitFirst ':' key.toList with
    | none => simp [hsplit] at h
    | some parts =>
        obtain ⟨front, name⟩ := parts
        simp only [hsplit, Bool.and_eq_true, Bool.not_eq_true',
          List.isEmpty_eq_false_iff, List.all_eq_true, List.any_eq_false,
          isKeyPrefixChar, Bool.or_eq_true, beq_iff_eq, or_assoc] at h
        obtain ⟨⟨⟨hfront, hname⟩, hchars⟩, hvisible⟩ := h
        exact ⟨front, name, (splitFirst_eq_some_iff.mp hsplit).2, hfront, hname,
          hchars, fun c hc => by simpa using hvisible c hc⟩
  · rintro ⟨front, name, hkey, hfront, hname, hchars, hvisible⟩
    have hcolon : ':' ∉ front := by
      intro hmem
      exact absurd (hchars ':' hmem) (by decide)
    have hsplit : splitFirst ':' key.toList = some (front, name) :=
      splitFirst_eq_some_iff.mpr ⟨hcolon, hkey⟩
    have hvisible' : ∀ c ∈ key.toList, ¬isBlankOrControl c = true :=
      fun c hc => by simp [hvisible c hc]
    simp only [hsplit, Bool.and_eq_true, Bool.not_eq_true',
      List.isEmpty_eq_false_iff, List.all_eq_true, List.any_eq_false,
      isKeyPrefixChar, Bool.or_eq_true, beq_iff_eq, or_assoc]
    exact ⟨⟨⟨hfront, hname⟩, hchars⟩, hvisible'⟩

instance (key : String) : Decidable (IsAttributeKey key) :=
  decidable_of_iff _ isKey_eq_true_iff

end Clause

/-! ## Values -/

namespace Text

/-- A piece that a condition value may have: a character, or a closed variable
whose name is namespaced. -/
def Piece.IsSettled : Piece → Prop
  | .literal _ => True
  | .variable name => ':' ∈ name
  | .unclosed _ => False

/-- Every `${` of the text is closed, and every name between `${` and the next
`}` is namespaced. -/
def IsSettled (text : String) : Prop :=
  ∃ ps, Reads text.toList ps ∧ ∀ p ∈ ps, p.IsSettled

end Text

namespace Clause

/-- The defects of a piece of a value. -/
def pieceDefects (key value : String) : Piece → List ClauseFault
  | .literal _ => []
  | .variable name =>
    demand (':' ∈ name) (.placeholder (String.ofList name) key)
  | .unclosed _ => [.unclosedVariable value key]

/-- The defects of a value from left to right. -/
def valueDefects (key value : String) : List ClauseFault :=
  (pieces value.toList).flatMap (pieceDefects key value)

theorem pieceDefects_eq_nil_iff {key value : String} {p : Piece} :
    pieceDefects key value p = [] ↔ p.IsSettled := by
  cases p <;> simp [pieceDefects, Piece.IsSettled]

theorem valueDefects_eq_nil_iff {key value : String} :
    valueDefects key value = [] ↔ IsSettled value := by
  unfold valueDefects IsSettled
  rw [List.flatMap_eq_nil_iff]
  simp only [pieceDefects_eq_nil_iff]
  constructor
  · intro h
    exact ⟨_, reads_pieces value.toList, h⟩
  · rintro ⟨ps, hreads, h⟩
    rwa [hreads.pieces_eq]

theorem valueFault?_eq_head? (key value : String) (ps : List Piece) :
    valueFault? key value ps =
      (ps.flatMap (pieceDefects key value)).head? := by
  induction ps with
  | nil => rfl
  | cons p ps ih =>
      rcases p with c | name | rest
      · simpa [valueFault?, pieceDefects] using ih
      · by_cases hname : ':' ∈ name
        · simpa [valueFault?, pieceDefects, isNamespaced, demand, hname] using ih
        · simp [valueFault?, pieceDefects, isNamespaced, demand, hname]
      · simp [valueFault?, pieceDefects]

theorem checkValue_reports (key value : String) :
    Reports (checkValue key value) (valueDefects key value) := by
  have hhead := valueFault?_eq_head? key value (pieces value.toList)
  unfold checkValue valueDefects
  rw [hhead]
  cases (pieces value.toList).flatMap (pieceDefects key value) with
  | nil => exact Reports.ok ()
  | cons fault faults => rfl

end Clause

namespace Operator

/-- A single truth value, in any letter case. -/
def IsTruthValue (values : List String) : Prop :=
  ∃ value, values = [value] ∧
    (foldCase value = "true" ∨ foldCase value = "false")

theorem isSome_nullValue?_iff {values : List String} :
    (Clause.nullValue? values).isSome = true ↔ IsTruthValue values := by
  rw [Option.isSome_iff_exists]
  simp only [Clause.nullValue?_eq_some_iff]
  constructor
  · rintro ⟨_, value, hvalues, rfl, htruth⟩
    exact ⟨value, hvalues, htruth⟩
  · rintro ⟨value, hvalues, htruth⟩
    exact ⟨_, value, hvalues, rfl, htruth⟩

instance (values : List String) : Decidable (IsTruthValue values) :=
  decidable_of_iff _ isSome_nullValue?_iff

/-- `Null` takes a truth value, and every other operator takes at least one
value, all of them settled. -/
def Takes (operator : Operator) (values : List String) : Prop :=
  if operator = .null then IsTruthValue values
  else values ≠ [] ∧ ∀ value ∈ values, IsSettled value

/-- The defects of the values that an operator is given. -/
def valuesDefects (operator : Operator) (key : String) (values : List String) :
    List ClauseFault :=
  if operator = .null then
    demand (IsTruthValue values) (.badNullValue key)
  else
    demand (values ≠ []) (.noValue operator key) ++
      values.flatMap (Clause.valueDefects key)

theorem valuesDefects_eq_nil_iff {operator : Operator} {key : String}
    {values : List String} :
    valuesDefects operator key values = [] ↔ operator.Takes values := by
  unfold valuesDefects Takes
  by_cases hnull : operator = .null
  · simp [hnull]
  · simp [hnull, Clause.valueDefects_eq_nil_iff]

theorem parseValues_reports (operator : Operator) (key : String)
    (values : List String) :
    Reports (Clause.parseValues operator key values)
      (valuesDefects operator key values) := by
  unfold Clause.parseValues valuesDefects
  by_cases hnull : operator = .null
  · simp only [if_pos hnull]
    rw [← List.append_nil (demand _ _)]
    refine Reports.lookup isSome_nullValue?_iff ?_ ?_
    · intro hvalue
      simp only [hvalue]
    · intro value hvalue
      simp only [hvalue]
      exact Reports.ok _
  · simp only [if_neg hnull]
    refine Reports.refuse Iff.rfl fun _ => ?_
    exact (Reports.forM fun value _ => Clause.checkValue_reports key value).map _

end Operator

/-! ## Clauses -/

namespace ClauseSpec

/-- The clause is in order: its key has the form of a key, and its operator is
known, quantified only where it may be, and takes the values. -/
structure IsValid (c : ClauseSpec) : Prop where
  operator : ∃ quantifier operator,
    Operator.Spells c.operator quantifier operator ∧
      (operator = .null → quantifier = .plain) ∧ operator.Takes c.values
  key : Clause.IsAttributeKey c.key

/-- The operator that the clause names, whatever stands in front of the name. -/
def operator? (c : ClauseSpec) : Option Operator :=
  Operator.ofName? (Quantifier.split c.operator).2

/-- The defects of a clause in the order of the check. -/
def defects (c : ClauseSpec) : List ClauseFault :=
  Operator.defects c.operator ++
    (demand (Clause.IsAttributeKey c.key) (.badKey c.key) ++
      c.operator?.toList.flatMap fun o => o.valuesDefects c.key c.values)

theorem operator?_of_spells {c : ClauseSpec} {quantifier : Quantifier}
    {operator : Operator} (h : Operator.Spells c.operator quantifier operator) :
    c.operator? = some operator :=
  Operator.ofName?_eq_some_iff.mpr (Operator.spells_iff.mp h).2

theorem parse_reports (c : ClauseSpec) :
    Reports (Clause.parse c.operator c.key c.values) c.defects := by
  apply (Operator.parse_reports c.operator).bind
  rintro ⟨quantifier, operator⟩ hparse
  have hspells := (Operator.parse_eq_ok_iff.mp hparse).1
  refine Reports.require Clause.isKey_eq_true_iff.symm fun _ => ?_
  simp only [operator?_of_spells hspells, Option.toList_some,
    List.flatMap_singleton]
  exact (Operator.parseValues_reports operator c.key c.values).map _

theorem defects_eq_nil_iff {c : ClauseSpec} : c.defects = [] ↔ c.IsValid := by
  simp only [defects, List.append_eq_nil_iff, demand_eq_nil_iff,
    Operator.defects_eq_nil_iff]
  constructor
  · rintro ⟨⟨quantifier, operator, hspells, hplain⟩, hkey, hvalues⟩
    rw [operator?_of_spells hspells, Option.toList_some,
      List.flatMap_singleton, Operator.valuesDefects_eq_nil_iff] at hvalues
    exact ⟨⟨quantifier, operator, hspells, hplain, hvalues⟩, hkey⟩
  · rintro ⟨⟨quantifier, operator, hspells, hplain, hvalues⟩, hkey⟩
    refine ⟨⟨quantifier, operator, hspells, hplain⟩, hkey, ?_⟩
    rwa [operator?_of_spells hspells, Option.toList_some,
      List.flatMap_singleton, Operator.valuesDefects_eq_nil_iff]

/-! ## Lists of clauses -/

/-- Two clauses state the same operator, quantifier and key. -/
def Repeats (a b : ClauseSpec) : Prop :=
  a.key = b.key ∧ ∃ quantifier operator,
    Operator.Spells a.operator quantifier operator ∧
      Operator.Spells b.operator quantifier operator

/-- The conditions are in order: every clause is, and no two repeat each
other. -/
structure AllValid (specs : List ClauseSpec) : Prop where
  valid : ∀ c ∈ specs, c.IsValid
  distinct : specs.Pairwise fun a b => ¬a.Repeats b

/-- The slot of a policy document that the clause states. -/
def slot? (c : ClauseSpec) : Option (String × String) :=
  c.operator?.map fun operator =>
    ((Quantifier.split c.operator).1.wirePrefix ++ operator.wireName, c.key)

/-- The defects of conditions: those of the clauses in turn, and then the slots
that several clauses state, in canonical order. -/
def listDefects (specs : List ClauseSpec) : List ClauseFault :=
  specs.flatMap defects ++
    (Clause.repeatedSlots (specs.filterMap slot?)).map fun s =>
      .repeated s.1 s.2

theorem slot?_eq_some_iff {c : ClauseSpec} {s : String × String} :
    c.slot? = some s ↔
      ∃ quantifier operator,
        Operator.Spells c.operator quantifier operator ∧
          (quantifier.wirePrefix ++ operator.wireName, c.key) = s := by
  simp only [slot?, operator?, Option.map_eq_some_iff,
    Operator.ofName?_eq_some_iff, Operator.spells_iff]
  constructor
  · rintro ⟨operator, hname, rfl⟩
    exact ⟨_, operator, ⟨rfl, hname⟩, rfl⟩
  · rintro ⟨_, operator, ⟨rfl, hname⟩, rfl⟩
    exact ⟨operator, hname, rfl⟩

theorem repeats_iff {a b : ClauseSpec} :
    a.Repeats b ↔ ∃ s, a.slot? = some s ∧ b.slot? = some s := by
  simp only [slot?_eq_some_iff]
  constructor
  · rintro ⟨hkey, quantifier, operator, ha, hb⟩
    exact ⟨_, ⟨quantifier, operator, ha, rfl⟩,
      ⟨quantifier, operator, hb, by rw [hkey]⟩⟩
  · rintro ⟨_, ⟨quantifier, operator, ha, rfl⟩, quantifier', operator', hb, h⟩
    obtain ⟨hblock, hkey⟩ := Prod.mk.inj h
    obtain ⟨rfl, rfl⟩ := Operator.wire_inj.mp hblock
    exact ⟨hkey.symm, quantifier', operator', ha, hb⟩

theorem nodup_slots_iff {specs : List ClauseSpec} :
    (specs.filterMap slot?).Nodup ↔ specs.Pairwise fun a b => ¬a.Repeats b := by
  rw [List.Nodup, List.pairwise_filterMap]
  simp only [repeats_iff]
  have hiff : ∀ a b : ClauseSpec,
      (∀ s, a.slot? = some s → ∀ t, b.slot? = some t → s ≠ t) ↔
        ¬∃ s, a.slot? = some s ∧ b.slot? = some s := by
    intro a b
    constructor
    · rintro h ⟨s, ha, hb⟩
      exact h s ha s hb rfl
    · rintro h s ha _ hb rfl
      exact h ⟨s, ha, hb⟩
  simp only [hiff]

theorem listDefects_eq_nil_iff {specs : List ClauseSpec} :
    listDefects specs = [] ↔ AllValid specs := by
  simp only [listDefects, List.append_eq_nil_iff, List.flatMap_eq_nil_iff,
    defects_eq_nil_iff, List.map_eq_nil_iff, Clause.repeatedSlots_eq_nil_iff,
    nodup_slots_iff]
  exact ⟨fun h => ⟨h.1, h.2⟩, fun h => ⟨h.1, h.2⟩⟩

/-- Checked clauses keep the slots that they were written for. -/
theorem slots_of_parse {specs : List ClauseSpec} {clauses : List Clause}
    (h : List.Forall₂
      (fun s c => Clause.parse s.operator s.key s.values = .ok c)
      specs clauses) :
    clauses.map Clause.slot = specs.filterMap slot? := by
  induction h with
  | nil => rfl
  | @cons s c specs clauses hparse _ ih =>
      obtain ⟨hoperator, hkey, -⟩ := Clause.parse_eq_ok_iff.mp hparse
      have hslot : s.slot? = some c.slot :=
        slot?_eq_some_iff.mpr ⟨c.quantifier, c.operator,
          (Operator.parse_eq_ok_iff.mp hoperator).1, by rw [← hkey]; rfl⟩
      rw [List.map_cons, List.filterMap_cons_some hslot, ih]

/-- The check of conditions reports their first defect. -/
theorem ofSpecs_reports (specs : List ClauseSpec) :
    Reports (Predicate.ofSpecs specs) (listDefects specs) := by
  apply (Reports.mapM fun s _ => s.parse_reports).bind
  intro clauses hclauses
  rw [← slots_of_parse (mapM_eq_ok_iff.mp hclauses)]
  exact Predicate.ofClauses_reports clauses

end ClauseSpec

end RolePolicy
