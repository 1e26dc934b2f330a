import Mathlib.Data.List.Nodup
import Mathlib.Data.List.Pairwise
import Mathlib.Data.List.Perm.Basic
import RolePolicy.Sorted.Map
import RolePolicy.Sorted.Set

/-!
# Lookups and extensionality of sorted collections

A sorted set is determined by its members and a sorted map by its lookups.
The same fact about lists, that two strictly ascending lists with the same
members are equal, carries every later argument that some canonical order is
reached again.
-/

namespace RolePolicy

/-! ## Strictly ascending lists -/

/-- Two lists that ascend strictly and have the same members are equal. -/
theorem eq_of_pairwise_of_mem_iff {α : Type*} {R : α → α → Prop}
    (hirrefl : ∀ a, ¬R a a) (hasymm : ∀ a b, R a b → ¬R b a)
    {l m : List α} (hl : l.Pairwise R) (hm : m.Pairwise R)
    (hmem : ∀ a, a ∈ l ↔ a ∈ m) : l = m := by
  have hne : ∀ {a b : α}, R a b → a ≠ b := by
    intro a b hab heq
    subst heq
    exact hirrefl a hab
  have hperm : l.Perm m :=
    (List.perm_ext_iff_of_nodup (hl.imp hne) (hm.imp hne)).mpr hmem
  apply hperm.eq_of_pairwise _ hl hm
  intro a b _ _ hab hba
  exact absurd hba (hasymm a b hab)

/-- Two lists that ascend strictly by a key and have the same members are
equal. -/
theorem eq_of_ascending_of_mem_iff {α κ : Type*} [LT κ] [StrictTotalOrder κ]
    {key : α → κ} {l m : List α} (hl : l.Pairwise fun a b => key a < key b)
    (hm : m.Pairwise fun a b => key a < key b) (hmem : ∀ a, a ∈ l ↔ a ∈ m) :
    l = m :=
  eq_of_pairwise_of_mem_iff (fun a => StrictTotalOrder.irrefl (key a))
    (fun _ _ => StrictTotalOrder.asymm) hl hm hmem

/-! ## Sorted texts -/

theorem pairwise_mergeSort_le (texts : List String) :
    (texts.mergeSort fun a b => decide (a ≤ b)).Pairwise (· ≤ ·) := by
  have hsorted :
      (texts.mergeSort fun a b => decide (a ≤ b)).Pairwise
        fun a b => decide (a ≤ b) = true :=
    List.pairwise_mergeSort (by simpa using fun a b c => String.le_trans)
      (by simpa using String.le_total) texts
  simpa using hsorted

/-- Sorting puts texts that differ into strictly ascending order. -/
theorem pairwise_mergeSort_lt {texts : List String} (h : texts.Nodup) :
    (texts.mergeSort fun a b => decide (a ≤ b)).Pairwise (· < ·) := by
  have hperm := List.mergeSort_perm texts fun a b => decide (a ≤ b)
  apply ((pairwise_mergeSort_le texts).and (hperm.nodup_iff.mpr h)).imp
  intro a b hab
  obtain ⟨hle, hne⟩ := hab
  rcases StrictTotalOrder.trichotomy a b with hlt | heq | hlt
  · exact hlt
  · exact absurd heq hne
  · exact absurd hlt (String.not_lt.mpr hle)

/-! ## Lists of different keys -/

/-- An item of a list is found by a key that no other item has. -/
theorem find?_eq_some_of_nodup_map {α β : Type*} {key : α → β} {l : List α}
    (h : (l.map key).Nodup) {a : α} (ha : a ∈ l) {p : α → Bool}
    (hp : ∀ b, p b = true ↔ key b = key a) : l.find? p = some a := by
  have hisSome : (l.find? p).isSome = true :=
    List.find?_isSome.mpr ⟨a, ha, (hp a).mpr rfl⟩
  obtain ⟨found, hfound⟩ := Option.isSome_iff_exists.mp hisSome
  have hsame := List.inj_on_of_nodup_map h (List.mem_of_find?_eq_some hfound) ha
    ((hp found).mp (List.find?_some hfound))
  rw [hfound, hsame]

/-- In a list in which no two items that pass a test follow one another, at most
one item passes it. -/
theorem countP_le_one_of_pairwise {α : Type*} {R : α → α → Prop}
    {p : α → Bool} {l : List α} (h : l.Pairwise R)
    (hp : ∀ a b, p a = true → p b = true → ¬R a b) : l.countP p ≤ 1 := by
  induction l with
  | nil => exact Nat.zero_le 1
  | cons a l ih =>
      obtain ⟨ha, hl⟩ := List.pairwise_cons.mp h
      by_cases hpass : p a = true
      · have hnone : l.countP p = 0 := by
          rw [List.countP_eq_zero]
          exact fun b hb hpass' => hp a b hpass hpass' (ha b hb)
        have hone : (a :: l).countP p = 1 := by
          rw [List.countP_cons_of_pos hpass, hnone]
        exact Nat.le_of_eq hone
      · rw [List.countP_cons_of_neg hpass]
        exact ih hl

namespace StrictTotalOrder

variable {α : Type*} [LT α] [StrictTotalOrder α] {a b c : α}

theorem lt_of_not_lt_of_lt (hab : ¬b < a) (hbc : b < c) : a < c := by
  rcases trichotomy a b with h | rfl | h
  · exact trans h hbc
  · exact hbc
  · exact absurd h hab

theorem lt_of_lt_of_not_lt (hab : a < b) (hbc : ¬c < b) : a < c := by
  rcases trichotomy b c with h | rfl | h
  · exact trans hab h
  · exact hab
  · exact absurd h hbc

end StrictTotalOrder

namespace SortedSet

variable {α : Type*} [LT α]

/-- Sorted sets with the same members are equal. -/
theorem ext_mem [StrictTotalOrder α] {s t : SortedSet α}
    (h : ∀ a, a ∈ s ↔ a ∈ t) : s = t :=
  ext_toList <|
    eq_of_pairwise_of_mem_iff StrictTotalOrder.irrefl
      (fun _ _ => StrictTotalOrder.asymm) s.ascending t.ascending h

@[simp] theorem mem_toList {a : α} {s : SortedSet α} :
    a ∈ s.toList ↔ a ∈ s :=
  Iff.rfl

variable [DecidableLT α] [StrictTotalOrder α]

/-- A set is recovered from any list of its members. -/
theorem ofList_eq_of_mem_iff {l : List α} {s : SortedSet α}
    (h : ∀ a, a ∈ l ↔ a ∈ s) : ofList l = s := by
  apply ext_mem
  intro a
  rw [mem_ofList, h]

@[simp] theorem ofList_toList (s : SortedSet α) : ofList s.toList = s :=
  ofList_eq_of_mem_iff fun _ => Iff.rfl

end SortedSet

namespace SortedMap

variable {κ ν : Type*} [LT κ] [DecidableEq κ]

@[simp] theorem get?_empty (k : κ) : (∅ : SortedMap κ ν).get? k = none := rfl

variable [StrictTotalOrder κ]

omit [DecidableEq κ] in
theorem nodup_keys (m : SortedMap κ ν) : m.keys.Nodup := by
  rw [keys, List.nodup_iff_pairwise_ne, List.pairwise_map]
  apply m.ascending.imp
  intro e e' hlt heq
  exact StrictTotalOrder.irrefl e.1 (heq ▸ hlt)

/-- The entries of a map are the pairs that it looks up. -/
theorem get?_eq_some_iff {m : SortedMap κ ν} {k : κ} {v : ν} :
    m.get? k = some v ↔ (k, v) ∈ m.entries := by
  obtain ⟨l, hl⟩ := m
  simp only [get?]
  induction l with
  | nil => simp
  | cons e l ih =>
      have hc := List.pairwise_cons.mp hl
      by_cases he : e.1 = k
      · have hnot : (k, v) ∉ l := by
          intro hmem
          apply StrictTotalOrder.irrefl k
          simpa only [he] using hc.1 _ hmem
        constructor
        · intro h
          have hv : e.2 = v := by simpa [he] using h
          rw [← he, ← hv]
          exact List.mem_cons_self
        · intro h
          rcases List.mem_cons.mp h with h | h
          · simp [← h]
          · exact absurd h hnot
      · have hne : (k, v) ≠ e := by
          intro h
          exact he (by rw [← h])
        simpa [he, hne] using ih hc.2

/-- The keys of a map are those that it looks up. -/
theorem mem_keys_iff {m : SortedMap κ ν} {k : κ} :
    k ∈ m.keys ↔ ∃ v, m.get? k = some v := by
  simp [keys, get?_eq_some_iff]

omit [DecidableEq κ] in
/-- In front of an entry stand the entries of lesser keys. -/
theorem mem_front_iff {m : SortedMap κ ν} {front back : List (κ × ν)}
    {e e' : κ × ν} (h : m.entries = front ++ e :: back) :
    e' ∈ front ↔ e' ∈ m.entries ∧ e'.1 < e.1 := by
  have hascending := m.ascending
  rw [h, List.pairwise_append, List.pairwise_cons] at hascending
  obtain ⟨-, ⟨hback, -⟩, hfront⟩ := hascending
  rw [h, List.mem_append, List.mem_cons]
  constructor
  · intro he
    exact ⟨Or.inl he, hfront e' he e List.mem_cons_self⟩
  · intro he
    obtain ⟨he | rfl | he, hlt⟩ := he
    · exact he
    · exact absurd hlt (StrictTotalOrder.irrefl _)
    · exact absurd hlt (StrictTotalOrder.asymm (hback e' he))

/-- Maps with the same lookups are equal. -/
theorem ext_get? {s t : SortedMap κ ν} (h : ∀ k, s.get? k = t.get? k) :
    s = t := by
  apply ext_entries
  apply eq_of_ascending_of_mem_iff s.ascending t.ascending
  rintro ⟨k, v⟩
  rw [← get?_eq_some_iff, ← get?_eq_some_iff, h]

variable [DecidableLT κ]

/-- Rebinding a key changes the lookup of this key only. -/
theorem get?_alter (m : SortedMap κ ν) (k k' : κ) (f : Option ν → ν) :
    (m.alter k f).get? k' =
      if k = k' then some (f (m.get? k)) else m.get? k' := by
  obtain ⟨l, hl⟩ := m
  simp only [get?, alter]
  induction l with
  | nil => by_cases hk : k = k' <;> simp [alterAscending, hk]
  | cons e l ih =>
      have hc := List.pairwise_cons.mp hl
      have habsent : ∀ {a : κ}, a < e.1 → (e :: l).find? (fun x => x.1 = a) = none := by
        intro a ha
        rw [List.find?_eq_none]
        intro x hx
        have hax : a < x.1 := by
          rcases List.mem_cons.mp hx with rfl | hx
          · exact ha
          · exact StrictTotalOrder.trans ha (hc.1 x hx)
        intro heq
        have hxa : x.1 = a := by simpa using heq
        exact StrictTotalOrder.irrefl a (hxa ▸ hax)
      unfold alterAscending
      by_cases hlt : k < e.1
      · rw [if_pos hlt, habsent hlt]
        by_cases hk : k = k'
        · simp [hk]
        · simp [hk]
      · rw [if_neg hlt]
        by_cases hgt : e.1 < k
        · have hek : e.1 ≠ k := by
            intro h
            exact StrictTotalOrder.irrefl k (h ▸ hgt)
          rw [if_pos hgt]
          by_cases he : e.1 = k'
          · have hk : k ≠ k' := fun h => hek (he.trans h.symm)
            simp [he, hk]
          · simpa [he, hek] using ih hc.2
        · have hek : e.1 = k := StrictTotalOrder.eq_of_not_lt hgt hlt
          rw [if_neg hgt]
          by_cases hk : k = k'
          · simp [hek, hk]
          · simp [hek, hk]

@[simp] theorem get?_insert (m : SortedMap κ ν) (k k' : κ) (v : ν) :
    (m.insert k v).get? k' = if k = k' then some v else m.get? k' :=
  get?_alter m k k' fun _ => v

/-- Entries of different keys that are put into a map one by one are looked up
in front of what the map has. -/
theorem get?_foldl_insert {l : List (κ × ν)} (h : (l.map Prod.fst).Nodup)
    (m : SortedMap κ ν) (k : κ) :
    (l.foldl (fun m e => m.insert e.1 e.2) m).get? k =
      ((l.find? fun e => e.1 = k).map Prod.snd).or (m.get? k) := by
  induction l generalizing m with
  | nil => simp
  | cons e l ih =>
      obtain ⟨hnot, hrest⟩ := List.nodup_cons.mp h
      rw [List.foldl_cons, ih hrest, get?_insert]
      by_cases he : e.1 = k
      · have hnone : l.find? (fun e' => e'.1 = k) = none := by
          rw [List.find?_eq_none]
          intro e' he' hsame
          have hkey : e'.1 = e.1 := (of_decide_eq_true hsame).trans he.symm
          exact hnot (hkey ▸ List.mem_map_of_mem he')
        simp [he, hnone]
      · simp [he]

/-- A map made of a list in which no key is repeated looks up what the list
says. -/
theorem get?_ofList {l : List (κ × ν)} (h : (l.map Prod.fst).Nodup) (k : κ) :
    (ofList l).get? k = (l.find? fun e => e.1 = k).map Prod.snd := by
  have hempty : (empty : SortedMap κ ν).get? k = none := rfl
  rw [ofList, get?_foldl_insert h, hempty, Option.or_none]

/-- A map made of a list in which no key is repeated has the entries of the list,
in ascending order. -/
theorem perm_entries_ofList {l : List (κ × ν)} (h : (l.map Prod.fst).Nodup) :
    (ofList l).entries.Perm l := by
  rw [List.perm_ext_iff_of_nodup (List.Nodup.of_map _ (ofList l).nodup_keys)
    (List.Nodup.of_map _ h)]
  rintro ⟨k, v⟩
  rw [← get?_eq_some_iff, get?_ofList h]
  constructor
  · intro hfound
    obtain ⟨e, he, rfl⟩ := Option.map_eq_some_iff.mp hfound
    have htest := List.find?_some he
    rw [← of_decide_eq_true htest]
    exact List.mem_of_find?_eq_some he
  · intro hmem
    rw [find?_eq_some_of_nodup_map h hmem fun _ => decide_eq_true_iff,
      Option.map_some]

/-- A map is recovered from its entries. -/
@[simp] theorem ofList_entries (m : SortedMap κ ν) : ofList m.entries = m := by
  apply ext_get?
  intro k
  rw [get?_ofList m.nodup_keys]
  rfl

end SortedMap

end RolePolicy
