import RolePolicy.Condition.Evaluation
import RolePolicy.Proofs.Condition.Canonical

/-!
# Clauses in any order

A list of clauses is a conjunction, and the order in which it is written does
not matter.  Every order gives the same predicate, or is refused for the same
slot: of all slots that two clauses share, the least one is reported, whichever
of the clauses come first in the list.  The predicate holds exactly if all
clauses of the list do.
-/

namespace RolePolicy

open Clause

namespace Clause

/-! ## Shared slots -/

/-- Two clauses of the list have the slot. -/
def ShareSlot (clauses : List Clause) (s : String × String) : Prop :=
  ∃ c d, [c, d].Sublist clauses ∧ c.slot = s ∧ d.slot = s

/-- Two clauses of the list have the same operator, quantifier and key. -/
def SharePlace (clauses : List Clause) : Prop :=
  ∃ c d, [c, d].Sublist clauses ∧ c.operator = d.operator ∧
    c.quantifier = d.quantifier ∧ c.key = d.key

/-- The slot is shared, and no slot before it in canonical order is. -/
structure IsLeastShared (clauses : List Clause) (s : String × String) :
    Prop where
  shared : ShareSlot clauses s
  least : ∀ t, SlotBefore t s → ¬ShareSlot clauses t

variable {clauses clauses' : List Clause} {s : String × String}

theorem shareSlot_iff_one_lt_count :
    ShareSlot clauses s ↔ 1 < (clauses.map slot).count s := by
  have htwo : 1 < (clauses.map slot).count s ↔
      (List.replicate 2 s).Sublist (clauses.map slot) :=
    List.replicate_sublist_iff.symm
  rw [htwo, List.sublist_map_iff]
  constructor
  · rintro ⟨c, d, hsub, hc, hd⟩
    refine ⟨[c, d], hsub, ?_⟩
    rw [List.map_cons, List.map_singleton, hc, hd]
    rfl
  · rintro ⟨l, hsub, hl⟩
    obtain ⟨c, l, rfl, hc, hl⟩ := List.map_eq_cons_iff.mp hl.symm
    obtain ⟨d, rfl, hd⟩ := List.map_eq_singleton_iff.mp hl
    exact ⟨c, d, hsub, hc, hd⟩

/-- A slot is an operator with its quantifier, and a key. -/
theorem sharePlace_iff : SharePlace clauses ↔ ∃ s, ShareSlot clauses s := by
  have hplace : ∀ c d : Clause, c.slot = d.slot ↔
      c.operator = d.operator ∧ c.quantifier = d.quantifier ∧ c.key = d.key := by
    intro c d
    rw [slot_eq_iff, place, place, Prod.mk.injEq, Prod.mk.injEq]
  constructor
  · rintro ⟨c, d, hsub, hsame⟩
    exact ⟨d.slot, c, d, hsub, (hplace c d).mpr hsame, rfl⟩
  · rintro ⟨s, c, d, hsub, hc, hd⟩
    exact ⟨c, d, hsub, (hplace c d).mp (hc.trans hd.symm)⟩

instance : DecidablePred (ShareSlot clauses) := fun _ =>
  decidable_of_iff _ shareSlot_iff_one_lt_count.symm

theorem ShareSlot.mem_map (h : ShareSlot clauses s) :
    s ∈ clauses.map slot := by
  rw [shareSlot_iff_one_lt_count] at h
  exact List.count_pos_iff.mp (Nat.zero_lt_of_lt h)

instance : DecidablePred (IsLeastShared clauses) := fun s =>
  decidable_of_iff
    (ShareSlot clauses s ∧
      ∀ t ∈ clauses.map slot, SlotBefore t s → ¬ShareSlot clauses t)
    ⟨fun h => ⟨h.1, fun t hts ht => h.2 t ht.mem_map hts ht⟩,
      fun h => ⟨h.shared, fun t _ => h.least t⟩⟩

/-- The least shared slot is the first one that is repeated in canonical
order. -/
theorem isLeastShared_iff :
    IsLeastShared clauses s ↔
      (repeatedSlots (clauses.map slot)).head? = some s := by
  rw [head?_repeatedSlots_eq_some_iff]
  simp only [← shareSlot_iff_one_lt_count]
  exact ⟨fun h => ⟨h.shared, h.least⟩, fun h => ⟨h.1, h.2⟩⟩

/-- Which slot is the least shared one does not depend on the order of the
clauses. -/
theorem isLeastShared_iff_of_perm (hperm : clauses'.Perm clauses) :
    IsLeastShared clauses' s ↔ IsLeastShared clauses s := by
  simp only [isLeastShared_iff, head?_repeatedSlots_eq_some_iff,
    (hperm.map slot).count_eq]

end Clause

/-! ## Predicates of lists in another order -/

namespace Predicate

variable {clauses clauses' : List Clause}

/-- A list is refused for the least slot that two of its clauses share. -/
theorem ofClauses_eq_error_iff {fault : ClauseFault} :
    ofClauses clauses = .error fault ↔
      ∃ s, IsLeastShared clauses s ∧ fault = .repeated s.1 s.2 := by
  rw [(ofClauses_reports clauses).eq_error_iff, List.head?_map,
    Option.map_eq_some_iff]
  simp only [isLeastShared_iff, eq_comm (a := fault)]

/-- A list is refused exactly if two of its clauses belong into one place. -/
theorem exists_ofClauses_error_iff :
    (∃ fault, ofClauses clauses = .error fault) ↔ SharePlace clauses := by
  rw [sharePlace_iff]
  constructor
  · rintro ⟨fault, h⟩
    obtain ⟨s, hs, -⟩ := ofClauses_eq_error_iff.mp h
    exact ⟨s, hs.shared⟩
  · rintro ⟨s, hs⟩
    cases h : ofClauses clauses with
    | error fault => exact ⟨fault, rfl⟩
    | ok p =>
        obtain ⟨hp, hordered⟩ := ofClauses_eq_ok_iff.mp h
        have hnodup : (clauses.map slot).Nodup :=
          (hp.map slot).nodup_iff.mp (nodup_slots hordered)
        have hcount := List.nodup_iff_count.mp hnodup s
        exact absurd (shareSlot_iff_one_lt_count.mp hs) (Nat.not_lt.mpr hcount)

/-- Clauses in another order are the same predicate, or refused alike. -/
theorem ofClauses_eq_of_perm (hperm : clauses'.Perm clauses) :
    ofClauses clauses' = ofClauses clauses := by
  cases h : ofClauses clauses with
  | ok p =>
      obtain ⟨hp, hordered⟩ := ofClauses_eq_ok_iff.mp h
      exact ofClauses_eq_ok_iff.mpr ⟨hp.trans hperm.symm, hordered⟩
  | error fault =>
      obtain ⟨s, hs, hfault⟩ := ofClauses_eq_error_iff.mp h
      exact ofClauses_eq_error_iff.mpr
        ⟨s, (isLeastShared_iff_of_perm hperm).mpr hs, hfault⟩

/-- Clauses in any order are brought into canonical order: all orders have the
same result, which is an error exactly if two clauses state the same operator,
quantifier and key, and then names the least slot that is stated twice; and
otherwise the clauses themselves, in strictly ascending order of their slots,
which hold together exactly if each of them does. -/
theorem ofClauses_canonicalises (hperm : clauses'.Perm clauses) :
    ofClauses clauses' = ofClauses clauses ∧
    ((∃ fault, ofClauses clauses = .error fault) ↔ SharePlace clauses) ∧
    (∀ fault, ofClauses clauses = .error fault →
      ∃ block key, fault = .repeated block key ∧
        IsLeastShared clauses (block, key)) ∧
    ∀ p, ofClauses clauses = .ok p →
      p.clauses.Perm clauses ∧
      p.clauses.Pairwise (fun a b => SlotBefore a.slot b.slot) ∧
      ∀ context, p.holds context = clauses.all (·.holds context) := by
  refine ⟨ofClauses_eq_of_perm hperm, exists_ofClauses_error_iff, ?_, ?_⟩
  · intro fault h
    obtain ⟨⟨block, key⟩, hs, hfault⟩ := ofClauses_eq_error_iff.mp h
    exact ⟨block, key, hfault, hs⟩
  · intro p h
    obtain ⟨hp, hordered⟩ := ofClauses_eq_ok_iff.mp h
    exact ⟨hp, hordered, fun context => hp.all_eq⟩

/-- The resource has an environment. -/
def environmentTagged : Clause where
  operator := .null
  quantifier := .plain
  key := "aws:ResourceTag/Env"
  values := SortedSet.singleton "false"

/-- The resource has no environment. -/
def environmentUntagged : Clause :=
  { environmentTagged with values := SortedSet.singleton "true" }

/-- The request comes from a stack. -/
def calledByStack : Clause where
  operator := .equals
  quantifier := .plain
  key := "aws:CalledViaFirst"
  values := SortedSet.singleton "cloudformation.amazonaws.com"

/-- The request comes from a function. -/
def calledByFunction : Clause :=
  { calledByStack with values := SortedSet.singleton "lambda.amazonaws.com" }

/-- Clauses of different places are sorted by their operators, whatever order
they are written in.  Of two places that are stated twice, the one reported is
the first in this order, although the other one is repeated earlier. -/
theorem environments_canonicalise :
    let conditions := [calledByStack, environmentTagged]
    let doubled := [calledByStack, calledByFunction, environmentTagged,
      environmentUntagged]
    conditions.reverse.Perm conditions ∧
      ofClauses conditions.reverse = .ok ⟨[environmentTagged, calledByStack]⟩ ∧
      (∀ context, holds ⟨[environmentTagged, calledByStack]⟩ context =
        conditions.all (·.holds context)) ∧
      doubled.reverse.Perm doubled ∧ SharePlace doubled ∧
      ofClauses doubled.reverse =
        .error (.repeated "Null" "aws:ResourceTag/Env") ∧
      IsLeastShared doubled ("Null", "aws:ResourceTag/Env") := by
  intro conditions doubled
  have hconditions : ofClauses conditions =
      .ok ⟨[environmentTagged, calledByStack]⟩ :=
    ofClauses_eq_ok_iff.mpr ⟨List.Perm.swap _ _ _, by decide +kernel⟩
  have hdoubled : ofClauses doubled =
      .error (.repeated "Null" "aws:ResourceTag/Env") :=
    ofClauses_eq_error_iff.mpr
      ⟨("Null", "aws:ResourceTag/Env"), by decide +kernel, rfl⟩
  obtain ⟨heq, -, -, hok⟩ :=
    ofClauses_canonicalises conditions.reverse_perm
  obtain ⟨heq', hfails, herror, -⟩ :=
    ofClauses_canonicalises doubled.reverse_perm
  obtain ⟨block, key, hfault, hleast⟩ := herror _ hdoubled
  obtain ⟨rfl, rfl⟩ := ClauseFault.repeated.inj hfault
  exact ⟨conditions.reverse_perm, heq.trans hconditions,
    (hok _ hconditions).2.2, doubled.reverse_perm,
    hfails.mp ⟨_, hdoubled⟩, heq'.trans hdoubled, hleast⟩

end Predicate

end RolePolicy
