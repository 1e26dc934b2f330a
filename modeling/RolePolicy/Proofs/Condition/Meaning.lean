import Mathlib.Data.Set.Basic
import RolePolicy.Proofs.Glob.Characters
import RolePolicy.Proofs.ReadAttributes
import RolePolicy.Proofs.Substituted
import RolePolicy.Proofs.Text.Edited

/-!
# What a clause says about a request

A clause of a manifest asks whether its key is there, or it compares the values
of the key with its own values, in which each variable stands for the one value
of another attribute.  The variables come first: a clause with a variable that
stands for nothing does not hold, whatever its quantifier says about a missing
key.
-/

namespace RolePolicy

open Text

/-! ## Values with their variables replaced -/

namespace RequestContext

/-- The context has exactly one string for the name, and this is its text. -/
def Supplies (context : RequestContext) (name new : List Char) : Prop :=
  ∃ entry value, context.get? (String.ofList name) = some entry ∧
    entry.toList = [value] ∧ new = value.toList

variable {context : RequestContext} {text : String}

theorem supplies_iff {name new : List Char} :
    context.Supplies name new ↔
      context.resolvePiece (.variable name) = some new := by
  rw [resolvePiece, Option.map_eq_some_iff]
  simp only [sole?_eq_some_iff, Supplies]
  constructor
  · intro h
    obtain ⟨entry, value, hentry, hvalue, rfl⟩ := h
    exact ⟨value, ⟨entry, hentry, hvalue⟩, rfl⟩
  · intro h
    obtain ⟨value, ⟨entry, hentry, hvalue⟩, rfl⟩ := h
    exact ⟨entry, value, hentry, hvalue, rfl⟩

theorem resolvePiece_eq_some_iff {p : Piece} (hp : p.IsSettled)
    {new : List Char} :
    context.resolvePiece p = some new ↔ p.Becomes context.Supplies new := by
  rcases p with c | name | rest
  · rw [resolvePiece, Option.some.injEq]
    exact eq_comm
  · exact supplies_iff.symm
  · exact hp.elim

/-- A settled text is resolved to what it is edited to. -/
theorem resolve_eq_some_iff (hsettled : ∀ p ∈ pieces text.toList, p.IsSettled)
    {out : String} :
    context.resolve text = some out ↔
      Edits context.Supplies text.toList out.toList := by
  have hpieces : ∀ texts : List (List Char),
      (pieces text.toList).mapM context.resolvePiece = some texts ↔
        List.Forall₂ (Piece.Becomes context.Supplies) (pieces text.toList)
          texts := by
    intro texts
    rw [listMapM_eq_some_iff_forall₂]
    constructor
    · intro h
      exact forall₂_imp_of_mem h fun p hp _ _ =>
        (resolvePiece_eq_some_iff (hsettled p hp)).mp
    · intro h
      exact forall₂_imp_of_mem h fun p hp _ _ =>
        (resolvePiece_eq_some_iff (hsettled p hp)).mpr
  rw [resolve, Option.map_eq_some_iff, edits_iff]
  simp only [hpieces, ← String.toList_inj, String.toList_ofList]

theorem exists_resolve_iff (hsettled : ∀ p ∈ pieces text.toList, p.IsSettled) :
    (∃ out, context.resolve text = some out) ↔
      ∀ name, Mentions text.toList name → ∃ new, context.Supplies name new := by
  simp only [resolve_eq_some_iff hsettled, mentions_iff, ← exists_edits_iff]
  constructor
  · intro h
    obtain ⟨out, hout⟩ := h
    exact ⟨_, hout⟩
  · intro h
    obtain ⟨out, hout⟩ := h
    exact ⟨String.ofList out, by rwa [String.toList_ofList]⟩

end RequestContext

/-! ## Quantifiers and operators -/

/-- What a quantifier asks of the values of an attribute that may be missing. -/
def Quantifier.Asks (quantifier : Quantifier) (entry : Option ContextValue)
    (passes : String → Prop) : Prop :=
  match quantifier with
  | plain => ∃ e, entry = some e ∧ e.toList ≠ [] ∧ ∀ v ∈ e.toList, passes v
  | anyValue => ∃ e, entry = some e ∧ ∃ v ∈ e.toList, passes v
  | allValues => ∀ e, entry = some e → ∀ v ∈ e.toList, passes v

/-- What an operator asks of one value, compared with the expected texts. -/
def Operator.Admits (operator : Operator) (expected : Set String)
    (value : String) : Prop :=
  match operator with
  | equals => value ∈ expected
  | notEquals => value ∉ expected
  | like => ∃ pattern ∈ expected, Glob.Matches pattern.toList value.toList
  | null => False

theorem Operator.passes_iff_admits {operator : Operator}
    {expected : List String} {value : String} :
    operator.passes expected value = true ↔
      operator.Admits {text | text ∈ expected} value := by
  cases operator with
  | equals => simp [passes, Admits]
  | notEquals => simp [passes, Admits]
  | null => simp [passes, Admits]
  | like => simp [passes, Admits, Glob.accepts_eq_true_iff]

namespace Clause

variable {c : Clause} {context : RequestContext}

/-- The context supplies a text for every variable of the values. -/
def Resolves (c : Clause) (context : RequestContext) : Prop :=
  ∀ value ∈ c.values, ∀ name, Mentions value.toList name →
    ∃ new, context.Supplies name new

/-- The values of the clause, with every variable replaced once. -/
def expected (c : Clause) (context : RequestContext) : Set String :=
  {text | ∃ value ∈ c.values,
    Edits context.Supplies value.toList text.toList}

theorem IsChecked.exists_resolve_iff (h : c.IsChecked) :
    (∃ texts, c.values.toList.mapM context.resolve = some texts) ↔
      c.Resolves context := by
  rw [exists_listMapM_eq_some_iff]
  exact forall₂_congr fun value hvalue =>
    RequestContext.exists_resolve_iff (h.settled_pieces hvalue)

theorem IsChecked.setOf_mem_eq_expected (h : c.IsChecked) {texts : List String}
    (htexts : c.values.toList.mapM context.resolve = some texts) :
    {text | text ∈ texts} = c.expected context := by
  rw [listMapM_eq_some_iff_forall₂] at htexts
  ext text
  constructor
  · intro htext
    obtain ⟨value, hvalue, hresolve⟩ := exists_mem_of_forall₂ htexts htext
    have hsettled := h.settled_pieces hvalue
    exact ⟨value, hvalue,
      (RequestContext.resolve_eq_some_iff hsettled).mp hresolve⟩
  · intro hedits
    obtain ⟨value, hvalue, hedits⟩ := hedits
    have hsettled := h.settled_pieces hvalue
    obtain ⟨text', htext', hresolve⟩ := exists_mem_of_forall₂_left htexts hvalue
    rw [(RequestContext.resolve_eq_some_iff hsettled).mpr hedits] at hresolve
    rwa [Option.some.inj hresolve]

/-- A clause with an operator other than `Null` holds if its variables are
supplied, and the values of its key pass as its quantifier asks. -/
theorem IsChecked.holds_iff_asks (h : c.IsChecked)
    (hnull : c.operator ≠ .null) (context : RequestContext) :
    c.holds context = true ↔
      c.Resolves context ∧ c.quantifier.Asks (context.get? c.key)
        (c.operator.Admits (c.expected context)) := by
  rw [← h.exists_resolve_iff]
  simp only [holds, if_neg hnull]
  cases htexts : c.values.toList.mapM context.resolve with
  | none => simp
  | some texts =>
      rw [← h.setOf_mem_eq_expected htexts, and_iff_right ⟨texts, rfl⟩]
      cases context.get? c.key with
      | none => cases c.quantifier <;> simp [Quantifier.Asks]
      | some entry =>
          cases c.quantifier <;>
            simp [Quantifier.Asks, Operator.passes_iff_admits]

/-- A clause with the operator `Null` holds if its key is there, or if it is
missing, as its value says. -/
theorem IsChecked.holds_of_null (h : c.IsChecked) (hnull : c.operator = .null)
    (context : RequestContext) :
    c.values = SortedSet.singleton "false" ∧
        (c.holds context = true ↔
          ∃ entry, context.get? c.key = some entry) ∨
      c.values = SortedSet.singleton "true" ∧
        (c.holds context = true ↔ context.get? c.key = none) := by
  rcases h.truth hnull with htrue | hfalse
  · have hmem : "true" ∈ c.values := by
      rw [htrue]
      decide
    exact Or.inr ⟨htrue, by simp [holds, hnull, hmem]⟩
  · have hmem : "true" ∉ c.values := by
      rw [hfalse]
      decide
    refine Or.inl ⟨hfalse, ?_⟩
    simp [holds, hnull, hmem, Option.isSome_iff_exists]

/-- The meaning of a clause that a manifest can state, in every context. -/
theorem parse_holds_iff {raw key : String} {values : List String}
    {c : Clause} (hparse : parse raw key values = .ok c)
    (context : RequestContext) :
    (c.operator = .null →
      c.values = SortedSet.singleton "false" ∧
          (c.holds context = true ↔
            ∃ entry, context.get? c.key = some entry) ∨
        c.values = SortedSet.singleton "true" ∧
          (c.holds context = true ↔ context.get? c.key = none)) ∧
    (c.operator ≠ .null →
      (¬c.Resolves context → c.holds context = false) ∧
        (c.Resolves context →
          (c.holds context = true ↔
            c.quantifier.Asks (context.get? c.key)
              (c.operator.Admits (c.expected context))))) ∧
    ∀ value ∈ c.values,
      (∀ ps rest, Reads value.toList ps → Piece.unclosed rest ∉ ps) ∧
        (context.resolve value = none ↔
          ∃ name, Mentions value.toList name ∧
            ∀ new, ¬context.Supplies name new) := by
  have hchecked := isChecked_of_parse hparse
  refine ⟨fun hnull => hchecked.holds_of_null hnull context, ?_, ?_⟩
  · intro hnull
    have hholds := hchecked.holds_iff_asks hnull context
    constructor
    · intro hmissing
      rw [← Bool.not_eq_true, hholds]
      exact fun hboth => hmissing hboth.1
    · intro hresolves
      rw [hholds, and_iff_right hresolves]
  · intro value hvalue
    have hsettled := hchecked.settled_pieces hvalue
    constructor
    · intro ps rest hreads hunclosed
      rw [← hreads.pieces_eq] at hunclosed
      exact hsettled _ hunclosed
    · have hsome : (∃ out, context.resolve value = some out) ↔ _ :=
        RequestContext.exists_resolve_iff hsettled
      rw [← Option.isSome_iff_exists] at hsome
      rw [← Option.not_isSome_iff_eq_none, hsome]
      push Not
      rfl

/-- Only objects in the folder of the caller, if any are named at all. -/
def homeFolder : Clause where
  operator := .like
  quantifier := .allValues
  key := "s3:prefix"
  values := SortedSet.singleton "home/$\x7baws:username\x7d/*"

/-- Without a caller's name the clause fails, although its key is missing; with
the name it speaks about every object. -/
theorem homeFolder_holds_iff :
    parse "ForAllValues:StringLike" "s3:prefix"
        ["home/$\x7baws:username\x7d/*"] = .ok homeFolder ∧
      (∅ : RequestContext).get? "s3:prefix" = none ∧
      homeFolder.holds ∅ = false ∧
      ∃ context : RequestContext,
        context.get? "aws:username" = some (.single "alice") ∧
        (homeFolder.holds context = true ↔
          ∀ entry, context.get? "s3:prefix" = some entry →
            ∀ folder ∈ entry.toList, ∃ pattern ∈ homeFolder.expected context,
              Glob.Matches pattern.toList folder.toList) := by
  have hspells : Operator.Spells "ForAllValues:StringLike" .allValues .like :=
    ⟨"StringLike", Operator.wireName_mem_names .like, rfl⟩
  have hkey : isKey "s3:prefix" = true := by decide
  have hvalue : checkValue "s3:prefix" "home/$\x7baws:username\x7d/*" = .ok () := by
    decide
  have hparse : parse "ForAllValues:StringLike" "s3:prefix"
      ["home/$\x7baws:username\x7d/*"] = .ok homeFolder :=
    (parse_eq_ok_iff_of_spells hspells (by decide)).mpr
      ⟨rfl, hkey, List.cons_ne_nil _ _, List.forall_mem_singleton.mpr hvalue⟩
  have hchecked := isChecked_of_parse hparse
  let context : RequestContext :=
    SortedMap.ofList
      [("aws:username", .single "alice"),
        ("s3:prefix", .multi ["home/alice/notes", "home/bob/notes"])]
  have hmissing : ¬homeFolder.Resolves ∅ := by
    rw [← hchecked.exists_resolve_iff, ← Option.isSome_iff_exists]
    decide
  have hresolves : homeFolder.Resolves context := by
    rw [← hchecked.exists_resolve_iff, ← Option.isSome_iff_exists]
    decide
  have hempty := (parse_holds_iff hparse ∅).2.1 (by decide)
  have hcaller := (parse_holds_iff hparse context).2.1 (by decide)
  exact ⟨hparse, rfl, hempty.1 hmissing, context, by decide,
    hcaller.2 hresolves⟩

end Clause

end RolePolicy
