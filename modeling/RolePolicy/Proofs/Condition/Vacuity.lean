import RolePolicy.Proofs.Glob.Characters
import RolePolicy.Proofs.Lint
import RolePolicy.Proofs.Substituted
import RolePolicy.Proofs.Text.Filled

/-!
# Clauses that every value of their key passes

A clause compares the value that its key has in a request with its own values,
whose policy variables stand for attributes of the same request.  The variable
of the key itself stands for the value that is compared.  A clause can
therefore demand its key and yet let every value of the key pass: by a pattern
of stars, or by a value that is the variable of the key, with stars around it
if the operator reads them.  The linter takes such a clause for a restriction,
the one pattern `*` apart.
-/

namespace RolePolicy

open Text

/-! ## Clauses against one value of their key -/

namespace RequestContext

/-- The variable of a key that has one value stands for this value. -/
theorem sole?_of_single {context : RequestContext} {key value : String}
    (h : context.get? key = some (.single value)) :
    context.sole? key = some value := by
  simp [sole?, h, ContextValue.toList]

/-- The context in which one key has one value. -/
def ofSingle (key value : String) : RequestContext :=
  (∅ : RequestContext).insert key (.single value)

theorem get?_ofSingle (key value : String) :
    (ofSingle key value).get? key = some (.single value) := by
  simp [ofSingle]

theorem sole?_ofSingle_of_ne {key key' : String} (h : key ≠ key')
    (value : String) : (ofSingle key value).sole? key' = none := by
  simp [ofSingle, sole?, h]

/-- A text whose variables are all that of a key with one value is filled with
this value. -/
theorem resolve_eq_some {context : RequestContext} {key value text : String}
    (hentry : context.get? key = some (.single value))
    (hsettled : ∀ p ∈ pieces text.toList, p.IsSettled)
    (hown : ∀ name, Piece.variable name ∈ pieces text.toList →
      name = key.toList) :
    context.resolve text =
      some (String.ofList (fill value.toList (pieces text.toList))) := by
  have hpieces : (pieces text.toList).mapM context.resolvePiece =
      some ((pieces text.toList).map (Piece.fill value.toList)) := by
    rw [listMapM_eq_some_iff, List.map_map]
    apply List.map_congr_left
    intro p hp
    have hp' := hsettled p hp
    rcases p with c | name | rest
    · rfl
    · rw [hown name hp, resolvePiece, String.ofList_toList,
        sole?_of_single hentry]
      rfl
    · exact hp'.elim
  rw [resolve, hpieces, fill, List.flatMap_def]
  rfl

/-- A text with a variable that is missing cannot be resolved. -/
theorem resolve_eq_none {context : RequestContext} {text : String}
    {name : List Char} (hmem : Piece.variable name ∈ pieces text.toList)
    (hmissing : context.sole? (String.ofList name) = none) :
    context.resolve text = none := by
  rw [Option.eq_none_iff_forall_ne_some]
  intro resolved h
  obtain ⟨texts, htexts, -⟩ := Option.map_eq_some_iff.mp h
  have hpiece : context.resolvePiece (.variable name) ∈ texts.map some := by
    rw [← listMapM_eq_some_iff.mp htexts]
    exact List.mem_map_of_mem hmem
  simp [resolvePiece, hmissing] at hpiece

end RequestContext

namespace Operator

/-- The value passes against one expected text. -/
def Accepts (operator : Operator) (expected value : List Char) : Prop :=
  match operator with
  | equals => expected = value
  | like => Glob.Matches expected value
  | notEquals => False
  | null => False

/-- Whatever value the key has, it passes against the text of the pieces, in
which the variable of the key stands for it. -/
def IsVacuous (operator : Operator) (key : List Char) (ps : List Piece) :
    Prop :=
  match operator with
  | equals => ps = [.variable key]
  | like =>
      ps ≠ [] ∧ (withoutStars ps = [] ∨ withoutStars ps = [.variable key])
  | notEquals => False
  | null => False

/-- The operators that ask for one of the expected texts. -/
def IsPositive (operator : Operator) : Prop :=
  operator = equals ∨ operator = like

theorem passes_eq_true_iff {operator : Operator} (h : operator.IsPositive)
    {expected : List String} {value : String} :
    operator.passes expected value = true ↔
      ∃ text ∈ expected, operator.Accepts text.toList value.toList := by
  rcases h with rfl | rfl
  · simp [passes, Accepts, String.toList_inj]
  · simp [passes, Accepts, Glob.accepts_eq_true_iff]

theorem IsVacuous.accepts_fill {operator : Operator} {key : List Char}
    {ps : List Piece} (h : operator.IsVacuous key ps) (value : List Char) :
    operator.Accepts (fill value ps) value := by
  cases operator with
  | equals =>
      have hps : ps = [.variable key] := h
      rw [hps]
      exact List.append_nil value
  | like =>
      obtain ⟨hne, hstars | hvariable⟩ := h
      · exact (matches_fill_of_stars hstars).2 hne value
      · exact matches_fill_of_variable hvariable
  | notEquals => exact h.elim
  | null => exact h.elim

end Operator

namespace Clause

/-- Some value of the key fails the clause, in some request. -/
def Restricts (c : Clause) : Prop :=
  ∃ (context : RequestContext) (value : String),
    context.get? c.key = some (.single value) ∧ c.holds context = false

/-- The clause speaks about no attribute but its key, and one of its values lets
every value of the key pass. -/
def IsVacuous (c : Clause) : Prop :=
  (∀ text ∈ c.values, ∀ name, Piece.variable name ∈ pieces text.toList →
    name = c.key.toList) ∧
  ∃ text ∈ c.values, c.operator.IsVacuous c.key.toList (pieces text.toList)

/-- Some character besides `*` is in none of the values, if stars are read. -/
def HasSpareCharacter (c : Clause) : Prop :=
  c.operator = .like → ∃ a, a ≠ '*' ∧ ∀ text ∈ c.values, a ∉ text.toList

/-- With one value of the key, all quantifiers ask the same. -/
theorem holds_of_single_iff {c : Clause} (hpositive : c.operator.IsPositive)
    {context : RequestContext} {value : String}
    (hentry : context.get? c.key = some (.single value)) :
    c.holds context = true ↔
      ∃ expected, c.values.toList.mapM context.resolve = some expected ∧
        c.operator.passes expected value = true := by
  have hnull : c.operator ≠ .null := by
    rcases hpositive with h | h
    · simp [h]
    · simp [h]
  simp only [holds, if_neg hnull, hentry, Option.map_some, ContextValue.toList]
  cases c.values.toList.mapM context.resolve with
  | none => simp
  | some expected =>
      cases c.quantifier with
      | plain => simp
      | anyValue => simp
      | allValues => simp

/-- A clause without foreign variables holds exactly if one of its values, filled
with the value of the key, accepts it. -/
theorem IsChecked.holds_iff {c : Clause} (h : c.IsChecked)
    (hpositive : c.operator.IsPositive)
    (hown : ∀ text ∈ c.values, ∀ name,
      Piece.variable name ∈ pieces text.toList → name = c.key.toList)
    {context : RequestContext} {value : String}
    (hentry : context.get? c.key = some (.single value)) :
    c.holds context = true ↔
      ∃ text ∈ c.values,
        c.operator.Accepts (fill value.toList (pieces text.toList))
          value.toList := by
  have hresolved : c.values.toList.mapM context.resolve =
      some (c.values.toList.map fun text =>
        String.ofList (fill value.toList (pieces text.toList))) := by
    rw [listMapM_eq_some_iff, List.map_map]
    apply List.map_congr_left
    intro text htext
    exact RequestContext.resolve_eq_some hentry (h.settled_pieces htext)
      (hown text htext)
  rw [holds_of_single_iff hpositive hentry, hresolved]
  simp [Operator.passes_eq_true_iff hpositive]

/-- A clause with a foreign variable does not hold where the variable is
missing. -/
theorem restricts_of_foreign_variable {c : Clause}
    (hpositive : c.operator.IsPositive) {text : String} (htext : text ∈ c.values)
    {name : List Char} (hmem : Piece.variable name ∈ pieces text.toList)
    (hforeign : name ≠ c.key.toList) : c.Restricts := by
  refine ⟨.ofSingle c.key "", "", RequestContext.get?_ofSingle .., ?_⟩
  have hkey : c.key ≠ String.ofList name := by
    intro heq
    apply hforeign
    rw [heq, String.toList_ofList]
  have hnone : (RequestContext.ofSingle c.key "").resolve text = none :=
    RequestContext.resolve_eq_none hmem
      (RequestContext.sole?_ofSingle_of_ne hkey "")
  rw [← Bool.not_eq_true,
    holds_of_single_iff hpositive (RequestContext.get?_ofSingle ..)]
  intro hholds
  obtain ⟨expected, hexpected, -⟩ := hholds
  have hresolved : none ∈ expected.map some := by
    rw [← listMapM_eq_some_iff.mp hexpected, ← hnone]
    exact List.mem_map_of_mem htext
  simp at hresolved

/-- There is a value that no value of the clause accepts but the vacuous
ones. -/
theorem IsChecked.exists_telling_value {c : Clause} (h : c.IsChecked)
    (hpositive : c.operator.IsPositive) (hspare : c.HasSpareCharacter)
    (hown : ∀ text ∈ c.values, ∀ name,
      Piece.variable name ∈ pieces text.toList → name = c.key.toList) :
    ∃ value : List Char, ∀ text ∈ c.values,
      c.operator.Accepts (fill value (pieces text.toList)) value →
        c.operator.IsVacuous c.key.toList (pieces text.toList) := by
  rcases hpositive with hequals | hlike
  · obtain ⟨n, hn⟩ : ∃ n, ∀ text ∈ c.values, text.toList.length ≤ n := by
      refine ⟨(c.values.toList.map String.toList).flatten.length, ?_⟩
      intro text htext
      have hmem : text.toList ∈ c.values.toList.map String.toList :=
        List.mem_map_of_mem htext
      exact (List.sublist_flatten_of_mem hmem).length_le
    refine ⟨List.replicate (n + 1) 'a', ?_⟩
    intro text htext haccepts
    rw [hequals] at haccepts ⊢
    have hlong : text.toList.length < (List.replicate (n + 1) 'a').length := by
      rw [List.length_replicate]
      exact Nat.lt_succ_of_le (hn text htext)
    obtain ⟨name, hpieces⟩ := pieces_eq_of_fill_eq hlong haccepts
    have hname : name = c.key.toList := by
      apply hown text htext
      rw [hpieces]
      exact List.mem_singleton_self _
    rw [hname] at hpieces
    exact hpieces
  · obtain ⟨a, ha, hfree⟩ := hspare hlike
    refine ⟨[a], ?_⟩
    intro text htext haccepts
    rw [hlike] at haccepts ⊢
    obtain ⟨hne, hstars | ⟨name, hvariable⟩⟩ :=
      pieces_of_matches_fill ha (hfree text htext) (h.settled_pieces htext)
        haccepts
    · exact ⟨hne, Or.inl hstars⟩
    · have hmem : Piece.variable name ∈ withoutStars (pieces text.toList) := by
        rw [hvariable]
        exact List.mem_singleton_self _
      have hname : name = c.key.toList :=
        hown text htext name (List.mem_of_mem_filter hmem)
      rw [hname] at hvariable
      exact ⟨hne, Or.inr hvariable⟩

/-- A vacuous clause holds whenever its key has one value. -/
theorem IsChecked.holds_of_isVacuous {c : Clause} (h : c.IsChecked)
    (hpositive : c.operator.IsPositive) (hvacuous : c.IsVacuous)
    {context : RequestContext} {value : String}
    (hentry : context.get? c.key = some (.single value)) :
    c.holds context = true := by
  obtain ⟨hown, text, htext, hvacuous⟩ := hvacuous
  rw [h.holds_iff hpositive hown hentry]
  exact ⟨text, htext, hvacuous.accepts_fill value.toList⟩

theorem IsChecked.not_restricts_of_isVacuous {c : Clause} (h : c.IsChecked)
    (hpositive : c.operator.IsPositive) (hvacuous : c.IsVacuous) :
    ¬c.Restricts := by
  intro hrestricts
  obtain ⟨context, value, hentry, hfails⟩ := hrestricts
  rw [h.holds_of_isVacuous hpositive hvacuous hentry] at hfails
  exact Bool.noConfusion hfails

theorem IsChecked.restricts_of_not_isVacuous {c : Clause} (h : c.IsChecked)
    (hpositive : c.operator.IsPositive) (hspare : c.HasSpareCharacter)
    (hvacuous : ¬c.IsVacuous) : c.Restricts := by
  by_cases hown : ∀ text ∈ c.values, ∀ name,
      Piece.variable name ∈ pieces text.toList → name = c.key.toList
  · obtain ⟨value, hvalue⟩ := h.exists_telling_value hpositive hspare hown
    have hentry := RequestContext.get?_ofSingle c.key (String.ofList value)
    refine ⟨_, _, hentry, ?_⟩
    rw [← Bool.not_eq_true, h.holds_iff hpositive hown hentry,
      String.toList_ofList]
    intro hholds
    obtain ⟨text, htext, haccepts⟩ := hholds
    exact hvacuous ⟨hown, text, htext, hvalue text htext haccepts⟩
  · push Not at hown
    obtain ⟨text, htext, name, hmem, hforeign⟩ := hown
    exact restricts_of_foreign_variable hpositive htext hmem hforeign

/-- What the linter looks for in clauses that ask for one of their values. -/
theorem requiresKey_iff_of_isPositive {c : Clause}
    (hpositive : c.operator.IsPositive) :
    c.requiresKey = true ↔
      c.quantifier ≠ .allValues ∧ (c.operator = .like → "*" ∉ c.values) := by
  rcases hpositive with h | h
  · simp [requiresKey, h]
  · simp [requiresKey, h]

/-- A vacuous clause restricts nothing, and as long as some character is left
that the clause does not use, only vacuous clauses do so.  Those of them that
the linter takes for a demand have no literal `*` among their values. -/
theorem parse_restricts_iff {raw key : String} {values : List String}
    {c : Clause} (hparse : parse raw key values = .ok c)
    (hpositive : c.operator.IsPositive) :
    (c.IsVacuous → ¬c.Restricts) ∧
      (c.HasSpareCharacter →
        (c.Restricts ↔ ¬c.IsVacuous) ∧
          (c.requiresKey = true ∧ ¬c.Restricts ↔
            c.quantifier ≠ .allValues ∧ c.IsVacuous ∧
              (c.operator = .like → "*" ∉ c.values))) := by
  have hchecked := isChecked_of_parse hparse
  refine ⟨hchecked.not_restricts_of_isVacuous hpositive, ?_⟩
  intro hspare
  have hrestricts : c.Restricts ↔ ¬c.IsVacuous := by
    constructor
    · intro hrestricts hvacuous
      exact hchecked.not_restricts_of_isVacuous hpositive hvacuous hrestricts
    · exact hchecked.restricts_of_not_isVacuous hpositive hspare
  refine ⟨hrestricts, ?_⟩
  rw [requiresKey_iff_of_isPositive hpositive, hrestricts, not_not]
  constructor
  · intro hleft
    exact ⟨hleft.1.1, hleft.2, hleft.1.2⟩
  · intro hright
    exact ⟨⟨hright.1, hright.2.2⟩, hright.2.1⟩

/-- The tag is asked for with any value. -/
def anyEnvironment : Clause where
  operator := .like
  quantifier := .plain
  key := "aws:ResourceTag/Env"
  values := SortedSet.singleton "**"

theorem parse_anyEnvironment :
    parse "StringLike" "aws:ResourceTag/Env" ["**"] = .ok anyEnvironment := by
  decide

theorem isVacuous_anyEnvironment : anyEnvironment.IsVacuous := by
  have hpieces : pieces "**".toList = [.literal '*', .literal '*'] := by
    decide
  refine ⟨?_, "**", List.mem_singleton_self _, ?_⟩
  · intro text htext name hmem
    rw [List.mem_singleton.mp htext, hpieces] at hmem
    simp at hmem
  · rw [hpieces]
    exact ⟨by decide, Or.inl (by decide)⟩

/-- The clause about any environment is one of those that the linter takes for a
demand, and restricts nothing. -/
theorem anyEnvironment_restricts_iff :
    parse "StringLike" "aws:ResourceTag/Env" ["**"] = .ok anyEnvironment ∧
      anyEnvironment.operator.IsPositive ∧
      anyEnvironment.HasSpareCharacter ∧
      (anyEnvironment.requiresKey = true ∧ ¬anyEnvironment.Restricts) ∧
      (anyEnvironment.Restricts ↔ ¬anyEnvironment.IsVacuous) := by
  have hpositive : anyEnvironment.operator.IsPositive := Or.inr rfl
  have hspare : anyEnvironment.HasSpareCharacter := by
    intro _
    refine ⟨'a', by decide, ?_⟩
    intro text htext
    rw [List.mem_singleton.mp htext]
    decide +kernel
  obtain ⟨-, hexact⟩ := parse_restricts_iff parse_anyEnvironment hpositive
  obtain ⟨hrestricts, hunseen⟩ := hexact hspare
  refine ⟨parse_anyEnvironment, hpositive, hspare, hunseen.mpr ?_, hrestricts⟩
  exact ⟨by decide, isVacuous_anyEnvironment, fun _ => by decide +kernel⟩

/-- The linter takes a clause for narrowing that holds for every value of its
key. -/
theorem anyEnvironment_narrows_nothing :
    let config : LintConfig := {}
    parse "StringLike" "aws:ResourceTag/Env" ["**"] = .ok anyEnvironment ∧
      anyEnvironment.operator = .like ∧ anyEnvironment.requiresKey = true ∧
      anyEnvironment.narrows config = true ∧
      ∀ (context : RequestContext) (value : String),
        context.get? anyEnvironment.key = some (.single value) →
          anyEnvironment.holds context = true := by
  intro config
  refine ⟨parse_anyEnvironment, rfl, by decide +kernel, by decide +kernel, ?_⟩
  intro context value hentry
  have hchecked := isChecked_of_parse parse_anyEnvironment
  exact hchecked.holds_of_isVacuous (Or.inr rfl) isVacuous_anyEnvironment hentry

end Clause

end RolePolicy
