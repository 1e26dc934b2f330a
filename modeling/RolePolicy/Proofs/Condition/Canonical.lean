import RolePolicy.Artifact.Spec
import RolePolicy.Proofs.Condition.Clause
import RolePolicy.Proofs.Condition.Slots
import RolePolicy.Role.Compose

/-!
# Canonical predicates

A predicate that was checked has its clauses in canonical order, one for each
slot.  The condition of its policy document lists the same clauses in the same
order, so the predicate is read back from the document.
-/

namespace RolePolicy

open Clause

namespace Clause

/-- What a predicate has at most one clause for. -/
def place (c : Clause) : Operator × Quantifier × String :=
  (c.operator, c.quantifier, c.key)

/-- The operator block of a clause names its operator and its quantifier. -/
theorem slot_eq_iff {c d : Clause} : c.slot = d.slot ↔ c.place = d.place := by
  simp only [slot, place, block, Prod.mk.injEq, Operator.wire_inj]
  rw [and_left_comm, and_assoc]

end Clause

namespace Predicate

/-- Every clause is checked, and slots ascend strictly. -/
structure IsCanonical (p : Predicate) : Prop where
  checked : ∀ c ∈ p.clauses, c.IsChecked
  ordered : p.clauses.Pairwise fun a b => SlotBefore a.slot b.slot

theorem pairwise_mergeSort_precedes (clauses : List Clause) :
    (clauses.mergeSort precedes).Pairwise
      fun a b => ¬SlotBefore b.slot a.slot := by
  rw [precedes_eq]
  exact pairwise_mergeSort_slot slot clauses

theorem firstRepeated?_mergeSort_slot (clauses : List Clause) :
    (firstRepeated? (clauses.mergeSort precedes)).map slot =
      (repeatedSlots (clauses.map slot)).head? := by
  have hordered := pairwise_mergeSort_precedes clauses
  rw [firstRepeated?_slot hordered, repeatedSlots_eq_filter]
  · exact (List.mergeSort_perm clauses precedes).map slot
  · exact List.pairwise_map.mpr hordered

/-- Clauses are refused for the least slot that occurs more than once. -/
theorem ofClauses_reports (clauses : List Clause) :
    Reports (ofClauses clauses)
      ((repeatedSlots (clauses.map slot)).map fun s => .repeated s.1 s.2) := by
  have hfirst := firstRepeated?_mergeSort_slot clauses
  unfold ofClauses
  cases hslots : repeatedSlots (clauses.map slot) with
  | nil =>
      rw [hslots, List.head?_nil, Option.map_eq_none_iff] at hfirst
      simp only [hfirst]
      exact Reports.ok _
  | cons s slots =>
      rw [hslots, List.head?_cons, Option.map_eq_some_iff] at hfirst
      obtain ⟨c, hc, rfl⟩ := hfirst
      simp only [hc]
      rfl

theorem clauses_of_ofClauses {clauses : List Clause} {p : Predicate}
    (h : ofClauses clauses = .ok p) :
    p.clauses.Perm clauses ∧
      p.clauses.Pairwise fun a b => SlotBefore a.slot b.slot := by
  have hperm := List.mergeSort_perm clauses precedes
  have hnodup : ((clauses.mergeSort precedes).map slot).Nodup := by
    rw [(hperm.map slot).nodup_iff, ← repeatedSlots_eq_nil_iff]
    have hnil := (ofClauses_reports clauses).exists_ok_iff.mp ⟨p, h⟩
    exact List.map_eq_nil_iff.mp hnil
  have hp : p.clauses = clauses.mergeSort precedes := by
    unfold ofClauses at h
    cases hfirst : firstRepeated? (clauses.mergeSort precedes) with
    | none =>
        simp only [hfirst] at h
        rw [← Except.ok.inj h]
    | some c =>
        simp only [hfirst] at h
        cases h
  rw [hp]
  refine ⟨hperm, ?_⟩
  apply ((pairwise_mergeSort_precedes clauses).and
    (List.pairwise_map.mp hnodup)).imp
  rintro a b ⟨hnot, hne⟩
  rcases SlotBefore.trichotomy a.slot b.slot with h | h | h
  · exact h
  · exact absurd h hne
  · exact absurd h hnot

theorem nodup_slots {clauses : List Clause}
    (h : clauses.Pairwise fun a b => SlotBefore a.slot b.slot) :
    (clauses.map slot).Nodup := by
  apply List.pairwise_map.mpr
  apply h.imp
  intro a b hab heq
  exact SlotBefore.irrefl _ (heq ▸ hab)

/-- The predicate of a list of clauses has these clauses in strict order. -/
theorem ofClauses_eq_ok_iff {clauses : List Clause} {p : Predicate} :
    ofClauses clauses = .ok p ↔
      p.clauses.Perm clauses ∧
        p.clauses.Pairwise fun a b => SlotBefore a.slot b.slot := by
  constructor
  · exact clauses_of_ofClauses
  · rintro ⟨hp, hordered⟩
    have hnodup : (clauses.map slot).Nodup := by
      rw [← (hp.map slot).nodup_iff]
      exact nodup_slots hordered
    obtain ⟨q, hq⟩ : ∃ q, ofClauses clauses = .ok q := by
      rw [(ofClauses_reports clauses).exists_ok_iff,
        repeatedSlots_eq_nil_iff.mpr hnodup, List.map_nil]
    obtain ⟨hq', hqordered⟩ := clauses_of_ofClauses hq
    have heq : q.clauses = p.clauses := by
      apply List.Perm.eq_of_pairwise _ hqordered hordered (hq'.trans hp.symm)
      intro a b _ _ hab hba
      exact absurd hba hab.asymm
    have hqp : q = p := congrArg Predicate.mk heq
    rw [hq, hqp]

theorem ofSpecs_eq_ok_iff {specs : List ClauseSpec} {p : Predicate} :
    ofSpecs specs = .ok p ↔
      ∃ clauses,
        List.Forall₂ (fun s c => parse s.operator s.key s.values = .ok c)
          specs clauses ∧
        ofClauses clauses = .ok p := by
  unfold ofSpecs
  rw [bind_eq_ok_iff]
  simp only [mapM_eq_ok_iff]

theorem isCanonical_of_ofSpecs {specs : List ClauseSpec} {p : Predicate}
    (h : ofSpecs specs = .ok p) : p.IsCanonical := by
  obtain ⟨clauses, hclauses, hp⟩ := ofSpecs_eq_ok_iff.mp h
  obtain ⟨hperm, hordered⟩ := ofClauses_eq_ok_iff.mp hp
  refine ⟨?_, hordered⟩
  intro c hc
  obtain ⟨s, -, hs⟩ := exists_mem_of_forall₂ hclauses (hperm.mem_iff.mp hc)
  exact isChecked_of_parse hs

/-! ## Conditions of policy documents -/

/-- The values that a condition lists for a slot. -/
def lookup (blocks : ConditionBlocks) (s : String × String) :
    Option (List String) :=
  (blocks.get? s.1).bind (·.get? s.2)

theorem lookup_alter (blocks : ConditionBlocks) (c : Clause)
    (s : String × String) :
    lookup (blocks.alter c.block fun keys =>
        (keys.getD ∅).insert c.key c.values.toList) s =
      if c.slot = s then some c.values.toList else lookup blocks s := by
  obtain ⟨block, key⟩ := s
  simp only [lookup, SortedMap.get?_alter, slot, Prod.mk.injEq]
  by_cases hblock : c.block = block
  · subst hblock
    by_cases hkey : c.key = key
    · simp [hkey]
    · cases hkeys : blocks.get? c.block with
      | none => simp [hkey]
      | some keys => simp [hkey]
  · simp [hblock]

/-- A condition lists the clauses of its predicate and nothing else. -/
theorem lookup_foldl_eq_some_iff {clauses : List Clause}
    (hnodup : (clauses.map slot).Nodup) {blocks : ConditionBlocks}
    (hfree : ∀ c ∈ clauses, lookup blocks c.slot = none)
    {s : String × String} {values : List String} :
    lookup (clauses.foldl
        (fun blocks c => blocks.alter c.block fun keys =>
          (keys.getD ∅).insert c.key c.values.toList) blocks) s = some values ↔
      (∃ c ∈ clauses, c.slot = s ∧ c.values.toList = values) ∨
        lookup blocks s = some values := by
  induction clauses generalizing blocks with
  | nil => simp
  | cons c clauses ih =>
      rw [List.map_cons, List.nodup_cons] at hnodup
      have hfree' : ∀ d ∈ clauses, lookup (blocks.alter c.block fun keys =>
          (keys.getD ∅).insert c.key c.values.toList) d.slot = none := by
        intro d hd
        rw [lookup_alter, if_neg, hfree d (List.mem_cons_of_mem c hd)]
        intro heq
        exact hnodup.1 (List.mem_map.mpr ⟨d, hd, heq.symm⟩)
      rw [List.foldl_cons, ih hnodup.2 hfree', lookup_alter]
      have hc := hfree c List.mem_cons_self
      by_cases hslot : c.slot = s
      · subst hslot
        simp [hc, or_comm]
      · simp [hslot]

theorem lookup_blocks_eq_some_iff {p : Predicate} (h : p.IsCanonical)
    {s : String × String} {values : List String} :
    lookup p.blocks s = some values ↔
      ∃ c ∈ p.clauses, c.slot = s ∧ c.values.toList = values := by
  have hempty : ∀ t, lookup (∅ : ConditionBlocks) t = none := fun _ => rfl
  rw [blocks, lookup_foldl_eq_some_iff (nodup_slots h.ordered)
    (fun c _ => hempty c.slot), hempty]
  simp

end Predicate

/-! ## Reading conditions back -/

/-- The place of a clause as written. -/
def ClauseSpec.slot (s : ClauseSpec) : String × String :=
  (s.operator, s.key)

/-- A checked clause as a policy document states it. -/
def Clause.toSpec (c : Clause) : ClauseSpec where
  operator := c.block
  key := c.key
  values := c.values.toList

namespace Predicate

theorem mem_toSpecs_iff {blocks : ConditionBlocks} {s : ClauseSpec} :
    s ∈ ConditionBlocks.toSpecs blocks ↔
      lookup blocks s.slot = some s.values := by
  simp only [ConditionBlocks.toSpecs, List.mem_flatMap, List.mem_map, lookup,
    ClauseSpec.slot, Option.bind_eq_some_iff, SortedMap.get?_eq_some_iff]
  constructor
  · rintro ⟨⟨block, keys⟩, hblock, ⟨key, values⟩, hkey, rfl⟩
    exact ⟨keys, hblock, hkey⟩
  · rintro ⟨keys, hblock, hkey⟩
    exact ⟨(s.operator, keys), hblock, (s.key, s.values), hkey, rfl⟩

theorem pairwise_toSpecs (blocks : ConditionBlocks) :
    (ConditionBlocks.toSpecs blocks).Pairwise
      fun s t => SlotBefore s.slot t.slot := by
  unfold ConditionBlocks.toSpecs
  rw [List.pairwise_flatMap]
  constructor
  · rintro ⟨block, keys⟩ -
    apply List.pairwise_map.mpr
    apply keys.ascending.imp
    intro a b hab
    exact Or.inr ⟨rfl, hab⟩
  · apply blocks.ascending.imp
    rintro ⟨block, keys⟩ ⟨block', keys'⟩ hlt s hs t ht
    obtain ⟨_, -, rfl⟩ := List.mem_map.mp hs
    obtain ⟨_, -, rfl⟩ := List.mem_map.mp ht
    exact Or.inl hlt

/-- The condition of a policy document lists the clauses of the predicate in
canonical order. -/
theorem toSpecs_blocks {p : Predicate} (h : p.IsCanonical) :
    ConditionBlocks.toSpecs p.blocks = p.clauses.map toSpec := by
  apply eq_of_pairwise_of_mem_iff
    (R := fun s t : ClauseSpec => SlotBefore s.slot t.slot)
  · exact fun s => SlotBefore.irrefl s.slot
  · exact fun _ _ hst => hst.asymm
  · exact pairwise_toSpecs p.blocks
  · exact List.pairwise_map.mpr h.ordered
  · intro s
    rw [mem_toSpecs_iff, lookup_blocks_eq_some_iff h, List.mem_map]
    apply exists_congr
    intro c
    apply and_congr_right
    intro _
    cases s
    simp [toSpec, ClauseSpec.slot, slot, and_assoc]

/-- A canonical predicate is read back from the condition of its policy
document. -/
theorem ofSpecs_toSpecs_blocks {p : Predicate} (h : p.IsCanonical) :
    ofSpecs (ConditionBlocks.toSpecs p.blocks) = .ok p := by
  rw [toSpecs_blocks h, ofSpecs_eq_ok_iff]
  refine ⟨p.clauses, ?_, ofClauses_eq_ok_iff.mpr ⟨List.Perm.refl _, h.ordered⟩⟩
  rw [List.forall₂_map_left_iff, List.forall₂_same]
  intro c hc
  exact (h.checked c hc).parse_wire

end Predicate

end RolePolicy
