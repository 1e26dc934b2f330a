import RolePolicy.Sorted.Order

/-!
# Sorted maps

A finite map kept as its entries in strictly ascending key order.  Equality of maps is equality of
entries, and listing a map gives the order in which documents and messages show it.
-/

namespace RolePolicy

universe u v w

/-- A finite map listed in ascending key order, each key once. -/
structure SortedMap (κ : Type u) (ν : Type v) [LT κ] where
  entries : List (κ × ν)
  ascending : entries.Pairwise (fun a b => a.1 < b.1)

namespace SortedMap

variable {κ : Type u} {ν : Type v} [LT κ]

instance [DecidableEq κ] [DecidableEq ν] : DecidableEq (SortedMap κ ν)
  | ⟨l, _⟩, ⟨m, _⟩ =>
    if h : l = m then isTrue (by subst h; rfl) else isFalse (by intro e; cases e; exact h rfl)

@[ext] theorem ext_entries {s t : SortedMap κ ν} (h : s.entries = t.entries) : s = t := by
  cases s; cases t; cases h; rfl

/-- The map without entries. -/
def empty : SortedMap κ ν := ⟨[], List.Pairwise.nil⟩

instance : EmptyCollection (SortedMap κ ν) := ⟨empty⟩

instance : Inhabited (SortedMap κ ν) := ⟨empty⟩

def isEmpty (m : SortedMap κ ν) : Bool := m.entries.isEmpty

def size (m : SortedMap κ ν) : Nat := m.entries.length

def keys (m : SortedMap κ ν) : List κ := m.entries.map (·.1)

def values (m : SortedMap κ ν) : List ν := m.entries.map (·.2)

/-- The value bound to `k`. -/
def get? [DecidableEq κ] (m : SortedMap κ ν) (k : κ) : Option ν :=
  (m.entries.find? fun e => e.1 = k).map (·.2)

def contains [DecidableEq κ] (m : SortedMap κ ν) (k : κ) : Bool :=
  (m.get? k).isSome

/-- Rebind `k` at its place in an ascending entry list to what `f` makes of its present value. -/
def alterAscending [DecidableLT κ] (k : κ) (f : Option ν → ν) : List (κ × ν) → List (κ × ν)
  | [] => [(k, f none)]
  | e :: l =>
    if k < e.1 then (k, f none) :: e :: l
    else if e.1 < k then e :: alterAscending k f l
    else (e.1, f (some e.2)) :: l

theorem fst_mem_alterAscending [DecidableLT κ] [StrictTotalOrder κ] {k : κ}
    {f : Option ν → ν} {e : κ × ν} {l : List (κ × ν)} (h : e ∈ alterAscending k f l) :
    e.1 = k ∨ ∃ e' ∈ l, e'.1 = e.1 := by
  induction l with
  | nil =>
    simp only [alterAscending, List.mem_singleton] at h
    exact Or.inl (by rw [h])
  | cons a l ih =>
    unfold alterAscending at h
    split at h
    · rcases List.mem_cons.1 h with h | h
      · exact Or.inl (by rw [h])
      · exact Or.inr ⟨e, h, rfl⟩
    · split at h
      · rcases List.mem_cons.1 h with h | h
        · exact Or.inr ⟨a, List.mem_cons_self, by rw [h]⟩
        · rcases ih h with h | ⟨e', h, he⟩
          · exact Or.inl h
          · exact Or.inr ⟨e', List.mem_cons_of_mem _ h, he⟩
      · rcases List.mem_cons.1 h with h | h
        · exact Or.inr ⟨a, List.mem_cons_self, by rw [h]⟩
        · exact Or.inr ⟨e, List.mem_cons_of_mem _ h, rfl⟩

theorem pairwise_alterAscending [DecidableLT κ] [StrictTotalOrder κ] (k : κ)
    (f : Option ν → ν) {l : List (κ × ν)} (h : l.Pairwise fun a b => a.1 < b.1) :
    (alterAscending k f l).Pairwise fun a b => a.1 < b.1 := by
  induction l with
  | nil => simp [alterAscending]
  | cons a l ih =>
    have hc := List.pairwise_cons.1 h
    unfold alterAscending
    split
    · rename_i hk
      refine List.pairwise_cons.2 ⟨?_, h⟩
      intro x hx
      rcases List.mem_cons.1 hx with rfl | hx
      · exact hk
      · exact StrictTotalOrder.trans hk (hc.1 x hx)
    · split
      · rename_i hk
        refine List.pairwise_cons.2 ⟨?_, ih hc.2⟩
        intro x hx
        rcases fst_mem_alterAscending hx with hx | ⟨e, he, hx⟩
        · rw [hx]; exact hk
        · rw [← hx]; exact hc.1 e he
      · exact List.pairwise_cons.2 hc

section Ordered

variable [DecidableLT κ] [StrictTotalOrder κ]

/-- Rebind `k` to what `f` makes of its present value. -/
def alter (m : SortedMap κ ν) (k : κ) (f : Option ν → ν) : SortedMap κ ν :=
  ⟨alterAscending k f m.entries, pairwise_alterAscending k f m.ascending⟩

/-- Bind `k` to `v`, in place of any earlier value. -/
def insert (m : SortedMap κ ν) (k : κ) (v : ν) : SortedMap κ ν :=
  m.alter k fun _ => v

/-- The map of a list of entries, in which the last entry of a key counts. -/
def ofList (l : List (κ × ν)) : SortedMap κ ν :=
  l.foldl (fun m e => m.insert e.1 e.2) empty

end Ordered

/-- The same keys with every value changed by `f`. -/
def mapValues {μ : Type w} (f : ν → μ) (m : SortedMap κ ν) : SortedMap κ μ :=
  ⟨m.entries.map fun e => (e.1, f e.2), List.pairwise_map.2 m.ascending⟩

end SortedMap

end RolePolicy
