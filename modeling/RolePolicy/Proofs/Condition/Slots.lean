import Mathlib.Data.List.Perm.Basic
import RolePolicy.Condition.Predicate
import RolePolicy.Proofs.Sorted

/-!
# The canonical order of clauses

Slots are ordered by operator block and then by key.  Clauses put into this
order have a repeated slot next to each other, so that the first repetition
that is found is the least slot that occurs more than once.
-/

namespace RolePolicy

namespace Clause

/-! ## Slots in order -/

/-- The order of slots in a policy document. -/
def SlotBefore (s t : String × String) : Prop :=
  s.1 < t.1 ∨ (s.1 = t.1 ∧ s.2 < t.2)

instance : DecidableRel SlotBefore := fun s t =>
  inferInstanceAs (Decidable (s.1 < t.1 ∨ (s.1 = t.1 ∧ s.2 < t.2)))

theorem SlotBefore.irrefl (s : String × String) : ¬SlotBefore s s := by
  rintro (h | ⟨-, h⟩)
  · exact StrictTotalOrder.irrefl s.1 h
  · exact StrictTotalOrder.irrefl s.2 h

theorem SlotBefore.trans {s t u : String × String} (hst : SlotBefore s t)
    (htu : SlotBefore t u) : SlotBefore s u := by
  rcases hst with hst | ⟨heq, hst⟩
  · rcases htu with htu | ⟨heq', -⟩
    · exact Or.inl (StrictTotalOrder.trans hst htu)
    · exact Or.inl (heq' ▸ hst)
  · rcases htu with htu | ⟨heq', htu⟩
    · exact Or.inl (heq ▸ htu)
    · exact Or.inr ⟨heq.trans heq', StrictTotalOrder.trans hst htu⟩

theorem SlotBefore.asymm {s t : String × String} (h : SlotBefore s t) :
    ¬SlotBefore t s :=
  fun h' => irrefl s (h.trans h')

theorem SlotBefore.trichotomy (s t : String × String) :
    SlotBefore s t ∨ s = t ∨ SlotBefore t s := by
  rcases StrictTotalOrder.trichotomy s.1 t.1 with h | h | h
  · exact Or.inl (Or.inl h)
  · rcases StrictTotalOrder.trichotomy s.2 t.2 with h' | h' | h'
    · exact Or.inl (Or.inr ⟨h, h'⟩)
    · exact Or.inr (Or.inl (Prod.ext h h'))
    · exact Or.inr (Or.inr (Or.inr ⟨h.symm, h'⟩))
  · exact Or.inr (Or.inr (Or.inl h))

theorem SlotBefore.eq_of_not {s t : String × String} (h : ¬SlotBefore s t)
    (h' : ¬SlotBefore t s) : s = t := by
  rcases trichotomy s t with h₁ | h₁ | h₁
  · exact absurd h₁ h
  · exact h₁
  · exact absurd h₁ h'

theorem precedes_eq :
    precedes = fun a b => !decide (SlotBefore b.slot a.slot) := by
  funext a b
  rw [Bool.eq_iff_iff, Bool.not_eq_true', decide_eq_false_iff_not]
  have hkey : a.key ≤ b.key ↔ ¬b.key < a.key := String.not_lt.symm
  simp only [precedes, SlotBefore, slot, Bool.or_eq_true, Bool.and_eq_true,
    decide_eq_true_eq, beq_iff_eq, hkey]
  rcases StrictTotalOrder.trichotomy a.block b.block with h | h | h
  · have hne : b.block ≠ a.block := by
      intro heq
      exact StrictTotalOrder.irrefl _ (heq ▸ h)
    simp [h, hne, StrictTotalOrder.asymm h]
  · simp [h]
  · have hne : a.block ≠ b.block := by
      intro heq
      exact StrictTotalOrder.irrefl _ (heq ▸ h)
    simp [h, hne, StrictTotalOrder.asymm h]

theorem SlotBefore.not_trans {s t u : String × String} (hts : ¬SlotBefore t s)
    (hut : ¬SlotBefore u t) : ¬SlotBefore u s := by
  intro hus
  rcases SlotBefore.trichotomy s t with h | rfl | h
  · exact hut (hus.trans h)
  · exact hut hus
  · exact hts h

/-- Sorting by slots puts a list into canonical order. -/
theorem pairwise_mergeSort_slot {α : Type} (f : α → String × String)
    (l : List α) :
    (l.mergeSort fun a b => !decide (SlotBefore (f b) (f a))).Pairwise
      fun a b => ¬SlotBefore (f b) (f a) := by
  let le := fun a b => !decide (SlotBefore (f b) (f a))
  have htrans : ∀ a b c, le a b = true → le b c = true → le a c = true := by
    intro a b c hab hbc
    simp only [le, Bool.not_eq_true', decide_eq_false_iff_not] at hab hbc ⊢
    exact SlotBefore.not_trans hab hbc
  have htotal : ∀ a b, (le a b || le b a) = true := by
    intro a b
    simp only [le, Bool.or_eq_true, Bool.not_eq_true', decide_eq_false_iff_not]
    by_cases h : SlotBefore (f b) (f a)
    · exact Or.inr h.asymm
    · exact Or.inl h
  apply (List.pairwise_mergeSort htrans htotal l).imp
  simp [le]

/-! ## Repeated slots -/

/-- The slots that occur more than once, in canonical order. -/
def repeatedSlots (slots : List (String × String)) : List (String × String) :=
  (slots.filter fun s => 1 < slots.count s).mergeSort
    fun s t => !decide (SlotBefore t s)

theorem repeatedSlots_eq_nil_iff {slots : List (String × String)} :
    repeatedSlots slots = [] ↔ slots.Nodup := by
  have hperm := List.mergeSort_perm
    (slots.filter fun s => 1 < slots.count s)
    fun s t => !decide (SlotBefore t s)
  rw [repeatedSlots, ← List.length_eq_zero_iff, hperm.length_eq,
    List.length_eq_zero_iff, List.filter_eq_nil_iff,
    List.nodup_iff_count]
  constructor
  · intro h s
    by_cases hs : s ∈ slots
    · simpa using h s hs
    · simp [List.count_eq_zero_of_not_mem hs]
  · intro h s _
    simpa using h s

theorem mem_repeatedSlots_iff {slots : List (String × String)}
    {s : String × String} :
    s ∈ repeatedSlots slots ↔ 1 < slots.count s := by
  rw [repeatedSlots, List.mem_mergeSort, List.mem_filter, decide_eq_true_iff,
    and_iff_right_iff_imp]
  intro h
  exact List.count_pos_iff.mp (Nat.zero_lt_of_lt h)

/-- Repeated slots of a list in canonical order are found in this order. -/
theorem repeatedSlots_eq_filter {slots ordered : List (String × String)}
    (hperm : ordered.Perm slots)
    (hordered : ordered.Pairwise fun s t => ¬SlotBefore t s) :
    repeatedSlots slots = ordered.filter fun s => 1 < ordered.count s := by
  have hcount : ∀ s, ordered.count s = slots.count s := hperm.count_eq
  simp only [hcount]
  have hsorted := pairwise_mergeSort_slot id
    (slots.filter fun s => 1 < slots.count s)
  have hperm' := (List.mergeSort_perm
    (slots.filter fun s => 1 < slots.count s)
    fun s t => !decide (SlotBefore t s)).trans (hperm.symm.filter _)
  apply hperm'.eq_of_pairwise _ hsorted (hordered.filter _)
  intro s t _ _ hst hts
  exact SlotBefore.eq_of_not hts hst

/-- The first of the repeated slots is the least one. -/
theorem head?_repeatedSlots_eq_some_iff {slots : List (String × String)}
    {s : String × String} :
    (repeatedSlots slots).head? = some s ↔
      1 < slots.count s ∧ ∀ t, SlotBefore t s → ¬1 < slots.count t := by
  have hsorted : (repeatedSlots slots).Pairwise fun s t => ¬SlotBefore t s :=
    pairwise_mergeSort_slot id _
  rw [List.head?_eq_some_iff]
  constructor
  · intro h
    obtain ⟨rest, hrest⟩ := h
    refine ⟨mem_repeatedSlots_iff.mp (hrest ▸ List.mem_cons_self), ?_⟩
    intro t hts ht
    rw [← mem_repeatedSlots_iff, hrest, List.mem_cons] at ht
    rw [hrest, List.pairwise_cons] at hsorted
    rcases ht with rfl | ht
    · exact SlotBefore.irrefl t hts
    · exact hsorted.1 t ht hts
  · intro h
    obtain ⟨hs, hleast⟩ := h
    rw [← mem_repeatedSlots_iff] at hs
    cases hslots : repeatedSlots slots with
    | nil => exact absurd (hslots ▸ hs) List.not_mem_nil
    | cons t rest =>
        refine ⟨rest, congrArg (· :: rest) ?_⟩
        have ht : t ∈ repeatedSlots slots := hslots ▸ List.mem_cons_self
        have hts : ¬SlotBefore t s := fun h =>
          hleast t h (mem_repeatedSlots_iff.mp ht)
        rw [hslots] at hs hsorted
        rcases List.mem_cons.mp hs with rfl | hs
        · rfl
        · have hst := (List.pairwise_cons.mp hsorted).1 s hs
          exact SlotBefore.eq_of_not hts hst

theorem filter_count_cons {s : String × String}
    {slots : List (String × String)} (h : s ∉ slots) :
    ((s :: slots).filter fun t => 1 < (s :: slots).count t) =
      slots.filter fun t => 1 < slots.count t := by
  have hfirst : (s :: slots).count s = 1 := by
    rw [List.count_cons_self, List.count_eq_zero_of_not_mem h]
  rw [List.filter_cons_of_neg (by simp [hfirst])]
  apply List.filter_congr
  intro t ht
  rw [List.count_cons_of_ne]
  rintro rfl
  exact h ht

/-- In canonical order a repetition stands next to what it repeats. -/
theorem firstRepeated?_slot {l : List Clause}
    (hordered : l.Pairwise fun a b => ¬SlotBefore b.slot a.slot) :
    (firstRepeated? l).map slot =
      ((l.map slot).filter fun s => 1 < (l.map slot).count s).head? := by
  induction l with
  | nil => rfl
  | cons a l ih =>
      have hc := List.pairwise_cons.mp hordered
      cases l with
      | nil => simp [firstRepeated?]
      | cons b rest =>
          by_cases hslot : a.slot = b.slot
          · simp [firstRepeated?, hslot]
          · have hnotMem : a.slot ∉ (b :: rest).map slot := by
              rw [List.mem_map]
              rintro ⟨c, hmem, heq⟩
              have hbc : ¬SlotBefore c.slot b.slot := by
                rcases List.mem_cons.mp hmem with rfl | hmem
                · exact SlotBefore.irrefl _
                · exact (List.pairwise_cons.mp hc.2).1 c hmem
              apply hslot
              apply SlotBefore.eq_of_not _ (hc.1 b List.mem_cons_self)
              rwa [← heq]
            rw [firstRepeated?, if_neg hslot, ih hc.2,
              List.map_cons (a := a), filter_count_cons hnotMem]

end Clause

end RolePolicy
