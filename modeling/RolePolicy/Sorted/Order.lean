/-!
# Strict total orders

Sorted sets and maps keep their members in ascending order, so that two collections with the same
members are the same value.  They ask of the order only the three laws collected here.
-/

namespace RolePolicy

universe u

/-- A strict order in which any two different elements are comparable. -/
class StrictTotalOrder (α : Type u) [LT α] : Prop where
  irrefl (a : α) : ¬a < a
  trans {a b c : α} : a < b → b < c → a < c
  trichotomy (a b : α) : a < b ∨ a = b ∨ b < a

theorem StrictTotalOrder.asymm {α : Type u} [LT α] [StrictTotalOrder α] {a b : α}
    (h : a < b) : ¬b < a :=
  fun h' => irrefl a (trans h h')

theorem StrictTotalOrder.eq_of_not_lt {α : Type u} [LT α] [StrictTotalOrder α] {a b : α}
    (h : ¬a < b) (h' : ¬b < a) : a = b := by
  rcases trichotomy a b with h₁ | h₁ | h₁
  · exact absurd h₁ h
  · exact h₁
  · exact absurd h₁ h'

instance : StrictTotalOrder String where
  irrefl := String.lt_irrefl
  trans := String.lt_trans
  trichotomy a b := by
    by_cases h : a < b
    · exact Or.inl h
    · by_cases h' : b < a
      · exact Or.inr (Or.inr h')
      · exact Or.inr (Or.inl (Std.Trichotomous.trichotomous a b h h'))

section Lex

variable {α : Type u} [LT α] [StrictTotalOrder α]

theorem lex_irrefl (a : List α) : ¬a < a := by
  induction a with
  | nil => exact List.not_lt_nil []
  | cons x xs ih =>
    intro h
    cases h with
    | cons h => exact ih h
    | rel h => exact StrictTotalOrder.irrefl x h

theorem lex_trans {a b c : List α} (h : a < b) (h' : b < c) : a < c := by
  induction h generalizing c with
  | nil => cases h' <;> exact List.Lex.nil
  | cons _ ih =>
    cases h' with
    | cons h' => exact List.Lex.cons (ih h')
    | rel h' => exact List.Lex.rel h'
  | rel h =>
    cases h' with
    | cons _ => exact List.Lex.rel h
    | rel h' => exact List.Lex.rel (StrictTotalOrder.trans h h')

theorem lex_trichotomy (a b : List α) : a < b ∨ a = b ∨ b < a := by
  induction a generalizing b with
  | nil =>
    cases b with
    | nil => exact Or.inr (Or.inl rfl)
    | cons => exact Or.inl List.Lex.nil
  | cons x xs ih =>
    cases b with
    | nil => exact Or.inr (Or.inr List.Lex.nil)
    | cons y ys =>
      rcases StrictTotalOrder.trichotomy x y with h | h | h
      · exact Or.inl (List.Lex.rel h)
      · subst h
        rcases ih ys with h | h | h
        · exact Or.inl (List.Lex.cons h)
        · exact Or.inr (Or.inl (by rw [h]))
        · exact Or.inr (Or.inr (List.Lex.cons h))
      · exact Or.inr (Or.inr (List.Lex.rel h))

/-- Lists are ordered by the first place in which they differ; a list comes after its prefixes. -/
instance : StrictTotalOrder (List α) where
  irrefl := lex_irrefl
  trans := lex_trans
  trichotomy := lex_trichotomy

end Lex

end RolePolicy
