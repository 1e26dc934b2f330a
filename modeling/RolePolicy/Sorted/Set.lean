import RolePolicy.Sorted.Order

/-!
# Sorted sets

A finite set kept as its members in ascending order, each once.  The order is part of the type, so
equality of sets is equality of members, and listing a set gives the order in which documents and
messages show it.
-/

namespace RolePolicy

universe u

/-- A finite set listed in ascending order. -/
structure SortedSet (α : Type u) [LT α] where
  toList : List α
  ascending : toList.Pairwise (· < ·)

namespace SortedSet

variable {α : Type u} [LT α]

instance [DecidableEq α] : DecidableEq (SortedSet α)
  | ⟨l, _⟩, ⟨m, _⟩ =>
    if h : l = m then isTrue (by subst h; rfl) else isFalse (by intro e; cases e; exact h rfl)

@[ext] theorem ext_toList {s t : SortedSet α} (h : s.toList = t.toList) : s = t := by
  cases s; cases t; cases h; rfl

instance : Membership α (SortedSet α) where
  mem s a := a ∈ s.toList

instance [DecidableEq α] (a : α) (s : SortedSet α) : Decidable (a ∈ s) :=
  inferInstanceAs (Decidable (a ∈ s.toList))

theorem mem_def {a : α} {s : SortedSet α} : a ∈ s ↔ a ∈ s.toList := Iff.rfl

/-- The set without members. -/
def empty : SortedSet α := ⟨[], List.Pairwise.nil⟩

instance : EmptyCollection (SortedSet α) := ⟨empty⟩

/-- Put `a` at its place in an ascending list, unless it is there already. -/
def insertAscending [DecidableLT α] (a : α) : List α → List α
  | [] => [a]
  | b :: l =>
    if a < b then a :: b :: l
    else if b < a then b :: insertAscending a l
    else b :: l

theorem mem_insertAscending [DecidableLT α] [StrictTotalOrder α] {a x : α} {l : List α} :
    x ∈ insertAscending a l ↔ x = a ∨ x ∈ l := by
  induction l with
  | nil => simp [insertAscending]
  | cons b l ih =>
    unfold insertAscending
    split
    · simp
    · split
      · simp only [List.mem_cons, ih]
        constructor <;> (rintro (h | h | h) <;> simp [h])
      · rename_i h h'
        have e := StrictTotalOrder.eq_of_not_lt h h'
        subst e
        simp

theorem pairwise_insertAscending [DecidableLT α] [StrictTotalOrder α] (a : α) {l : List α}
    (h : l.Pairwise (· < ·)) : (insertAscending a l).Pairwise (· < ·) := by
  induction l with
  | nil => simp [insertAscending]
  | cons b l ih =>
    rw [List.pairwise_cons] at h
    unfold insertAscending
    split
    · rename_i hab
      refine List.pairwise_cons.2 ⟨?_, List.pairwise_cons.2 h⟩
      intro x hx
      rcases List.mem_cons.1 hx with rfl | hx
      · exact hab
      · exact StrictTotalOrder.trans hab (h.1 x hx)
    · split
      · rename_i hba
        refine List.pairwise_cons.2 ⟨?_, ih h.2⟩
        intro x hx
        rcases mem_insertAscending.1 hx with rfl | hx
        · exact hba
        · exact h.1 x hx
      · exact List.pairwise_cons.2 h

/-- The set with `a` added. -/
def insert [DecidableLT α] [StrictTotalOrder α] (a : α) (s : SortedSet α) : SortedSet α :=
  ⟨insertAscending a s.toList, pairwise_insertAscending a s.ascending⟩

@[simp] theorem mem_insert [DecidableLT α] [StrictTotalOrder α] {a x : α} {s : SortedSet α} :
    x ∈ s.insert a ↔ x = a ∨ x ∈ s :=
  mem_insertAscending

/-- The members of a list as a set. -/
def ofList [DecidableLT α] [StrictTotalOrder α] (l : List α) : SortedSet α :=
  l.foldr insert empty

@[simp] theorem mem_ofList [DecidableLT α] [StrictTotalOrder α] {x : α} {l : List α} :
    x ∈ ofList l ↔ x ∈ l := by
  induction l with
  | nil => simp [ofList, mem_def, empty]
  | cons a l ih =>
    have e : ofList (a :: l) = (ofList l).insert a := rfl
    rw [e, mem_insert, ih, List.mem_cons]

/-- The set with the one member `a`. -/
def singleton (a : α) : SortedSet α := ⟨[a], List.pairwise_singleton _ _⟩

end SortedSet

end RolePolicy
