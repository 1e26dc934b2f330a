import Mathlib.Data.List.Perm.Basic
import RolePolicy.Proofs.Condition.Canonical
import RolePolicy.Proofs.Text.Spelling

/-!
# Conditions in other words

The same condition can be written in many ways: clauses in any order, values in
any order and any number of times, operators in their short or their wire form,
and truth values in any letter case.  All of them are read as the same
predicate, or none is read at all.
-/

namespace RolePolicy

/-! ## Lists in another order -/

/-- The items of the lists are related one by one, in some order of the first
list. -/
def Reordered {α β : Type} (R : α → β → Prop) (l : List α) (m : List β) :
    Prop :=
  ∃ n, l.Perm n ∧ List.Forall₂ R n m

namespace Reordered

variable {α β γ : Type}

theorem of_forall₂ {R : α → β → Prop} {l : List α} {m : List β}
    (h : List.Forall₂ R l m) : Reordered R l m :=
  ⟨l, List.Perm.refl l, h⟩

theorem refl {R : α → α → Prop} (hrefl : ∀ a, R a a) (l : List α) :
    Reordered R l l :=
  of_forall₂ (List.forall₂_same.mpr fun a _ => hrefl a)

theorem symm {R : α → α → Prop} (hsymm : ∀ a b, R a b → R b a) {l m : List α}
    (h : Reordered R l m) : Reordered R m l := by
  have hcomp : Relation.Comp List.Perm (List.Forall₂ R) l m := h
  rw [← List.forall₂_comp_perm_eq_perm_comp_forall₂] at hcomp
  obtain ⟨n, hrelated, hperm⟩ := hcomp
  exact ⟨n, hperm.symm, forall₂_symm hsymm hrelated⟩

theorem map {R : α → β → Prop} {S : α → β → Prop} {f : α → α} {g : β → β}
    (hmap : ∀ a b, R a b → S (f a) (g b)) {l : List α} {m : List β}
    (h : Reordered R l m) : Reordered S (l.map f) (m.map g) := by
  obtain ⟨n, hperm, hrelated⟩ := h
  exact ⟨n.map f, hperm.map f, List.rel_map (fun a b hab => hmap a b hab) hrelated⟩

/-- What the items of the first list are checked into, the related items of the
second list are checked into as well, in another order. -/
theorem exists_perm {R : α → β → Prop} {P : α → γ → Prop} {Q : β → γ → Prop}
    (hcheck : ∀ a b c, R a b → P a c → Q b c) {l : List α} {m : List β}
    (h : Reordered R l m) {results : List γ} (hl : List.Forall₂ P l results) :
    ∃ results', List.Forall₂ Q m results' ∧ results'.Perm results := by
  obtain ⟨n, hperm, hrelated⟩ := h
  obtain ⟨results', hn, hresults⟩ := List.perm_comp_forall₂ hperm.symm hl
  refine ⟨results', ?_, hresults⟩
  apply (forall₂_common hrelated hn).imp
  intro b c hbc
  obtain ⟨a, hab, hac⟩ := hbc
  exact hcheck a b c hab hac

end Reordered

/-! ## Clauses -/

namespace ClauseSpec

/-- The operator of the clause is `Null`, whatever quantifier stands before
it. -/
def IsNull (c : ClauseSpec) : Prop :=
  ∃ quantifier, Operator.Spells c.operator quantifier .null

/-- The clauses say the same in other words, where `alike` tells which truth
values are the same: they have the same key, the same operator in one of its
forms, and as values of any operator but `Null` the same ones, in any order and
any number of times. -/
structure Rewords (alike : String → String → Prop) (c d : ClauseSpec) :
    Prop where
  key : c.key = d.key
  operator : c.operator = d.operator ∨
    ∃ quantifier operator, Operator.Spells c.operator quantifier operator ∧
      Operator.Spells d.operator quantifier operator
  truth : c.IsNull → List.Forall₂ alike c.values d.values
  values : ¬c.IsNull → ∀ value, value ∈ c.values ↔ value ∈ d.values

variable {alike : String → String → Prop} {c d : ClauseSpec}

theorem Rewords.refl (hrefl : ∀ t, alike t t) (c : ClauseSpec) :
    c.Rewords alike c where
  key := rfl
  operator := Or.inl rfl
  truth _ := List.forall₂_same.mpr fun t _ => hrefl t
  values _ _ := Iff.rfl

/-- Clauses whose operators are forms of the same one. -/
theorem Rewords.of_spells {quantifier : Quantifier} {operator : Operator}
    (hc : Operator.Spells c.operator quantifier operator)
    (hd : Operator.Spells d.operator quantifier operator)
    (hkey : c.key = d.key)
    (htruth : operator = .null → List.Forall₂ alike c.values d.values)
    (hvalues : operator ≠ .null →
      ∀ value, value ∈ c.values ↔ value ∈ d.values) : c.Rewords alike d := by
  refine ⟨hkey, Or.inr ⟨quantifier, operator, hc, hd⟩, ?_, ?_⟩
  · intro hnull
    obtain ⟨quantifier', hspells⟩ := hnull
    exact htruth (hc.unique hspells).2
  · intro hnull
    apply hvalues
    intro hoperator
    rw [hoperator] at hc
    exact hnull ⟨quantifier, hc⟩

theorem Rewords.spells_iff (h : c.Rewords alike d) {quantifier : Quantifier}
    {operator : Operator} :
    Operator.Spells c.operator quantifier operator ↔
      Operator.Spells d.operator quantifier operator := by
  rcases h.operator with heq | ⟨quantifier', operator', hc, hd⟩
  · rw [heq]
  · constructor
    · intro hspells
      obtain ⟨rfl, rfl⟩ := hspells.unique hc
      exact hd
    · intro hspells
      obtain ⟨rfl, rfl⟩ := hspells.unique hd
      exact hc

theorem Rewords.isNull_iff (h : c.Rewords alike d) : c.IsNull ↔ d.IsNull :=
  exists_congr fun _ => h.spells_iff

theorem Rewords.symm (hsymm : ∀ t u, alike t u → alike u t)
    (h : c.Rewords alike d) : d.Rewords alike c := by
  constructor
  · exact h.key.symm
  · rcases h.operator with heq | ⟨quantifier, operator, hc, hd⟩
    · exact Or.inl heq.symm
    · exact Or.inr ⟨quantifier, operator, hd, hc⟩
  · intro hnull
    exact forall₂_symm hsymm (h.truth (h.isNull_iff.mpr hnull))
  · intro hnull value
    have hother : ¬c.IsNull := fun hc => hnull (h.isNull_iff.mp hc)
    exact (h.values hother value).symm

/-- Truth values that differ in letter case only are read as the same. -/
theorem nullValue?_of_forall₂ {values values' : List String} {folded : String}
    (hsame : List.Forall₂ Text.EqFolded values values')
    (h : Clause.nullValue? values = some folded) :
    Clause.nullValue? values' = some folded := by
  obtain ⟨value, rfl, rfl, htruth⟩ := Clause.nullValue?_eq_some_iff.mp h
  obtain ⟨value', _, hvalue, hnil, rfl⟩ := List.forall₂_cons_left_iff.mp hsame
  obtain rfl := List.forall₂_nil_left_iff.mp hnil
  exact Clause.nullValue?_eq_some_iff.mpr ⟨value', rfl, hvalue, htruth⟩

/-- A clause is read alike in all words for it. -/
theorem Rewords.parse (h : c.Rewords Text.EqFolded d) {clause : Clause}
    (hc : Clause.parse c.operator c.key c.values = .ok clause) :
    Clause.parse d.operator d.key d.values = .ok clause := by
  rw [Clause.parse_eq_ok_iff, Operator.parse_eq_ok_iff] at hc ⊢
  obtain ⟨⟨hspells, hplain⟩, hkey, hisKey, hvalues⟩ := hc
  refine ⟨⟨h.spells_iff.mp hspells, hplain⟩, hkey.trans h.key, hisKey, ?_⟩
  by_cases hnull : clause.operator = .null
  · rw [hnull] at hspells
    rw [hnull, Clause.parseValues_null] at hvalues ⊢
    obtain ⟨folded, hfolded, hset⟩ := hvalues
    have htruth := h.truth ⟨clause.quantifier, hspells⟩
    exact ⟨folded, nullValue?_of_forall₂ htruth hfolded, hset⟩
  · have hother : ¬c.IsNull := by
      intro hisNull
      obtain ⟨quantifier, hspells'⟩ := hisNull
      exact hnull (hspells.unique hspells').2
    have hmem := h.values hother
    rw [Clause.parseValues_of_ne_null hnull] at hvalues ⊢
    obtain ⟨hne, hchecked, hset⟩ := hvalues
    refine ⟨?_, ?_, ?_⟩
    · obtain ⟨value, hvalue⟩ := List.exists_mem_of_ne_nil _ hne
      exact List.ne_nil_of_mem ((hmem value).mp hvalue)
    · intro value hvalue
      exact hchecked value ((hmem value).mpr hvalue)
    · apply SortedSet.ext_mem
      intro value
      rw [hset, SortedSet.mem_ofList, SortedSet.mem_ofList, hmem value]

end ClauseSpec

namespace Predicate

/-- A condition is read alike in all words for it. -/
theorem ofSpecs_of_reordered {specs specs' : List ClauseSpec} {p : Predicate}
    (h : Reordered (ClauseSpec.Rewords Text.EqFolded) specs specs')
    (hp : ofSpecs specs = .ok p) : ofSpecs specs' = .ok p := by
  rw [ofSpecs_eq_ok_iff] at hp ⊢
  obtain ⟨clauses, hclauses, hp⟩ := hp
  obtain ⟨clauses', hclauses', hperm⟩ :=
    h.exists_perm (fun _ _ _ hrewords hparse => hrewords.parse hparse) hclauses
  rw [ofClauses_eq_ok_iff] at hp
  exact ⟨clauses', hclauses',
    ofClauses_eq_ok_iff.mpr ⟨hp.1.trans hperm.symm, hp.2⟩⟩

end Predicate

end RolePolicy
