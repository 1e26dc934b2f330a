import Mathlib.Data.List.Forall2
import RolePolicy.Sorted.Order

/-!
# Checks that stop at the first defect

A checker is compared with the list of everything that is wrong with its
input, in the order in which the checker looks.  It reports the list if it
succeeds exactly when the list is empty and otherwise fails with its head.
Reporting is compositional: a check after another one reports the second list
behind the first, and checking the items of a list reports the lists of the
items one behind the other.  Where the list goes rule by rule, its head is the
first rule that is broken.
-/

namespace RolePolicy

variable {α β ε ε' : Type}

/-! ## Successful runs -/

theorem ok_bind (a : α) (f : α → Except ε β) : (Except.ok a >>= f) = f a :=
  rfl

theorem bind_eq_ok_iff {x : Except ε α} {f : α → Except ε β} {b : β} :
    (x >>= f) = .ok b ↔ ∃ a, x = .ok a ∧ f a = .ok b := by
  cases x with
  | error e => simp [bind, Except.bind]
  | ok a => simp [bind, Except.bind]

theorem bind_eq_error_iff {x : Except ε α} {f : α → Except ε β} {e : ε} :
    (x >>= f) = .error e ↔
      x = .error e ∨ ∃ a, x = .ok a ∧ f a = .error e := by
  cases x with
  | error e' => simp [bind, Except.bind]
  | ok a => simp [bind, Except.bind]

theorem mapError_eq_ok_iff {x : Except ε α} {f : ε → ε'} {a : α} :
    x.mapError f = .ok a ↔ x = .ok a := by
  cases x <;> simp [Except.mapError]

/-- Every result of a list of checks comes from an item of the list. -/
theorem exists_mem_of_forall₂ {R : α → β → Prop} {l : List α} {m : List β}
    (h : List.Forall₂ R l m) {b : β} (hb : b ∈ m) : ∃ a ∈ l, R a b := by
  induction h with
  | nil => exact absurd hb List.not_mem_nil
  | @cons a b' _ _ hab _ ih =>
      rcases List.mem_cons.mp hb with rfl | hb
      · exact ⟨a, List.mem_cons_self, hab⟩
      · obtain ⟨a', ha', hab'⟩ := ih hb
        exact ⟨a', List.mem_cons_of_mem a ha', hab'⟩

/-- Every item of a list of checks has a result. -/
theorem exists_mem_of_forall₂_left {R : α → β → Prop} {l : List α} {m : List β}
    (h : List.Forall₂ R l m) {a : α} (ha : a ∈ l) : ∃ b ∈ m, R a b := by
  have hflip : List.Forall₂ (flip R) m l := List.Forall₂.flip h
  exact exists_mem_of_forall₂ hflip ha

theorem getElem?_of_forall₂ {R : α → β → Prop} {l : List α} {m : List β}
    (h : List.Forall₂ R l m) {index : Nat} {a : α} (ha : l[index]? = some a) :
    ∃ b, m[index]? = some b ∧ R a b := by
  induction h generalizing index with
  | nil => cases ha
  | @cons a' b _ _ hab _ ih =>
      cases index with
      | zero =>
          obtain rfl : a' = a := Option.some.inj ha
          exact ⟨b, rfl, hab⟩
      | succ index => exact ih ha

/-- Items that have a result each have a list of results. -/
theorem exists_forall₂ {R : α → β → Prop} {l : List α}
    (h : ∀ a ∈ l, ∃ b, R a b) : ∃ m, List.Forall₂ R l m := by
  induction l with
  | nil => exact ⟨[], .nil⟩
  | cons a l ih =>
      obtain ⟨⟨b, hb⟩, hrest⟩ := List.forall_mem_cons.mp h
      obtain ⟨m, hm⟩ := ih hrest
      exact ⟨b :: m, .cons hb hm⟩

/-- A relation may be weakened position by position. -/
theorem forall₂_of_getElem? {R S : α → β → Prop} {l : List α} {m : List β}
    (h : List.Forall₂ R l m)
    (himp : ∀ (index : Nat) a b, l[index]? = some a → m[index]? = some b →
      R a b → S a b) : List.Forall₂ S l m := by
  induction h with
  | nil => exact .nil
  | @cons a b _ _ hab _ ih =>
      refine .cons (himp 0 a b rfl rfl hab) (ih ?_)
      intro index a' b' ha' hb'
      exact himp (index + 1) a' b' ha' hb'

/-- A relation may be weakened with the lists at hand. -/
theorem forall₂_imp_of_mem {R S : α → β → Prop} {l : List α} {m : List β}
    (h : List.Forall₂ R l m) (himp : ∀ a ∈ l, ∀ b ∈ m, R a b → S a b) :
    List.Forall₂ S l m := by
  apply forall₂_of_getElem? h
  intro index a b ha hb
  exact himp a (List.mem_of_getElem? ha) b (List.mem_of_getElem? hb)

/-- Items that are mapped alike one by one make equal lists. -/
theorem map_eq_map_of_forall₂ {γ : Type} {R : α → β → Prop} {f : α → γ}
    {g : β → γ} (hfg : ∀ a b, R a b → f a = g b) {l : List α} {m : List β}
    (h : List.Forall₂ R l m) : l.map f = m.map g := by
  rw [← List.forall₂_eq_eq_eq, List.forall₂_map_left_iff,
    List.forall₂_map_right_iff]
  exact h.imp hfg

/-- A list is mapped to the list that has the image of each item. -/
theorem map_eq_iff_forall₂ {R : α → β → Prop} {f : α → β}
    (hf : ∀ a b, f a = b ↔ R a b) {l : List α} {m : List β} :
    l.map f = m ↔ List.Forall₂ R l m := by
  have hR : R = fun a b => f a = b := by
    funext a b
    exact propext (hf a b).symm
  rw [hR, ← List.forall₂_eq_eq_eq, List.forall₂_map_left_iff]

theorem flatMap_eq_of_forall₂ {γ : Type} {R : α → β → Prop} {f : α → List γ}
    {g : β → List γ} (hfg : ∀ a b, R a b → f a = g b) {l : List α} {m : List β}
    (h : List.Forall₂ R l m) : l.flatMap f = m.flatMap g := by
  rw [List.flatMap_def, List.flatMap_def, map_eq_map_of_forall₂ hfg h]

/-- Items that are kept or left out alike one by one make equal lists. -/
theorem filterMap_eq_of_forall₂ {γ : Type} {R : α → β → Prop}
    {f : α → Option γ} {g : β → Option γ} (hfg : ∀ a b, R a b → f a = g b)
    {l : List α} {m : List β} (h : List.Forall₂ R l m) :
    l.filterMap f = m.filterMap g := by
  induction h with
  | nil => rfl
  | cons hab _ ih =>
      rw [List.filterMap_cons, List.filterMap_cons, hfg _ _ hab, ih]

/-- Related lists are related item by item with the positions of the items. -/
theorem forall₂_zipIdx {R : α → β → Prop} {l : List α} {m : List β}
    (h : List.Forall₂ R l m) (start : Nat) :
    List.Forall₂ (fun x y => R x.1 y.1 ∧ x.2 = y.2) (l.zipIdx start)
      (m.zipIdx start) := by
  induction h generalizing start with
  | nil => exact .nil
  | cons hab _ ih => exact .cons ⟨hab, rfl⟩ (ih (start + 1))

/-- Related lists have related first items that pass tests which agree on
related items. -/
theorem find?_of_forall₂ {R : α → β → Prop} {p : α → Bool} {q : β → Bool}
    (hpq : ∀ a b, R a b → p a = q b) {l : List α} {m : List β}
    (h : List.Forall₂ R l m) : Option.Rel R (l.find? p) (m.find? q) := by
  induction h with
  | nil => exact .none
  | @cons a b _ _ hab _ ih =>
      rw [List.find?_cons, List.find?_cons, hpq a b hab]
      cases q b with
      | true => exact .some hab
      | false => exact ih

/-- What is related over items in between is related. -/
theorem forall₂_comp {γ : Type} {R : α → β → Prop} {S : β → γ → Prop}
    {l : List α} {m : List β} {n : List γ} (h : List.Forall₂ R l m)
    (h' : List.Forall₂ S m n) :
    List.Forall₂ (fun a c => ∃ b, R a b ∧ S b c) l n := by
  induction h generalizing n with
  | nil =>
      obtain rfl := List.forall₂_nil_left_iff.mp h'
      exact .nil
  | @cons a b _ _ hab _ ih =>
      obtain ⟨c, n', hbc, hn', rfl⟩ := List.forall₂_cons_left_iff.mp h'
      exact .cons ⟨b, hab, hbc⟩ (ih hn')

/-- What comes from the same items is related over them. -/
theorem forall₂_common {γ : Type} {R : α → β → Prop} {S : α → γ → Prop}
    {l : List α} {m : List β} {n : List γ} (h : List.Forall₂ R l m)
    (h' : List.Forall₂ S l n) :
    List.Forall₂ (fun b c => ∃ a, R a b ∧ S a c) m n := by
  have hflip : List.Forall₂ (flip R) m l := List.Forall₂.flip h
  exact forall₂_comp hflip h'

theorem forall₂_symm {R : α → α → Prop} (hsymm : ∀ a b, R a b → R b a)
    {l m : List α} (h : List.Forall₂ R l m) : List.Forall₂ R m l := by
  have hflip : List.Forall₂ (flip R) m l := List.Forall₂.flip h
  exact hflip.imp fun a b hab => hsymm b a hab

/-- A list is checked item by item. -/
theorem mapM_eq_ok_iff {f : α → Except ε β} {l : List α} {m : List β} :
    l.mapM f = .ok m ↔ List.Forall₂ (fun a b => f a = .ok b) l m := by
  induction l generalizing m with
  | nil =>
      rw [List.mapM_nil, List.forall₂_nil_left_iff]
      exact ⟨fun h => (Except.ok.inj h).symm, fun h => h ▸ rfl⟩
  | cons a l ih =>
      rw [List.mapM_cons, bind_eq_ok_iff, List.forall₂_cons_left_iff]
      constructor
      · rintro ⟨b, hb, h⟩
        obtain ⟨n, hn, h⟩ := bind_eq_ok_iff.mp h
        exact ⟨b, n, hb, ih.mp hn, (Except.ok.inj h).symm⟩
      · rintro ⟨b, n, hb, hn, rfl⟩
        exact ⟨b, hb, bind_eq_ok_iff.mpr ⟨n, ih.mpr hn, rfl⟩⟩

/-- Lookups in a list succeed if each of them does. -/
theorem listMapM_eq_some_iff {f : α → Option β} {l : List α} {m : List β} :
    l.mapM f = some m ↔ l.map f = m.map some := by
  induction l generalizing m with
  | nil => cases m <;> simp
  | cons a l ih =>
      rw [List.mapM_cons, List.map_cons]
      constructor
      · intro h
        obtain ⟨b, hb, h⟩ := Option.bind_eq_some_iff.mp h
        obtain ⟨n, hn, h⟩ := Option.bind_eq_some_iff.mp h
        obtain rfl := Option.some.inj h
        rw [hb, ih.mp hn, List.map_cons]
      · intro h
        obtain ⟨b, n, rfl, hb, hn⟩ := List.map_eq_cons_iff.mp h.symm
        rw [← hb, ih.mpr hn.symm]
        rfl

theorem listMapM_eq_some_iff_forall₂ {f : α → Option β} {l : List α}
    {m : List β} :
    l.mapM f = some m ↔ List.Forall₂ (fun a b => f a = some b) l m := by
  rw [listMapM_eq_some_iff, ← List.forall₂_eq_eq_eq,
    List.forall₂_map_left_iff, List.forall₂_map_right_iff]

theorem exists_listMapM_eq_some_iff {f : α → Option β} {l : List α} :
    (∃ m, l.mapM f = some m) ↔ ∀ a ∈ l, ∃ b, f a = some b := by
  simp only [listMapM_eq_some_iff_forall₂]
  constructor
  · intro h a ha
    obtain ⟨m, hm⟩ := h
    obtain ⟨b, -, hb⟩ := exists_mem_of_forall₂_left hm ha
    exact ⟨b, hb⟩
  · exact exists_forall₂

/-- Lookups that agree on a list find the same. -/
theorem listMapM_congr {f g : α → Option β} {l : List α}
    (h : ∀ a ∈ l, f a = g a) : l.mapM f = l.mapM g := by
  apply Option.ext
  intro m
  rw [listMapM_eq_some_iff, listMapM_eq_some_iff, List.map_congr_left h]

theorem forM_eq_ok_iff {f : α → Except ε PUnit} {l : List α} :
    l.forM f = .ok () ↔ ∀ a ∈ l, f a = .ok () := by
  induction l with
  | nil => exact ⟨fun _ _ h => absurd h List.not_mem_nil, fun _ => rfl⟩
  | cons a l ih =>
      rw [List.forM, bind_eq_ok_iff, List.forall_mem_cons, ← ih]
      constructor
      · rintro ⟨_, h, hrest⟩
        exact ⟨h, hrest⟩
      · rintro ⟨h, hrest⟩
        exact ⟨(), h, hrest⟩

theorem optionMapM_some {f : α → Except ε β} {a : α} :
    (some a).mapM f = (f a >>= fun b => .ok (some b)) := by
  rw [Option.mapM_some]
  cases f a <;> rfl

theorem optionMapM_eq_ok_iff {f : α → Except ε β} {o : Option α}
    {p : Option β} :
    o.mapM f = .ok p ↔
      (o = none ∧ p = none) ∨
        ∃ a b, o = some a ∧ p = some b ∧ f a = .ok b := by
  cases o with
  | none =>
      constructor
      · intro h
        exact Or.inl ⟨rfl, (Except.ok.inj h).symm⟩
      · rintro (⟨-, rfl⟩ | ⟨a, b, ha, -⟩)
        · rfl
        · cases ha
  | some a =>
      rw [optionMapM_some, bind_eq_ok_iff]
      constructor
      · rintro ⟨b, hb, h⟩
        exact Or.inr ⟨a, b, rfl, (Except.ok.inj h).symm, hb⟩
      · rintro (⟨ha, -⟩ | ⟨a', b, ha, rfl, hb⟩)
        · cases ha
        · obtain rfl := Option.some.inj ha
          exact ⟨b, hb, rfl⟩

/-! ## Reported lists of defects -/

/-- The defect of whoever breaks a rule. -/
def demand (rule : Prop) [Decidable rule] (e : ε) : List ε :=
  if rule then [] else [e]

@[simp] theorem demand_eq_nil_iff {rule : Prop} [Decidable rule] {e : ε} :
    demand rule e = [] ↔ rule := by
  by_cases h : rule <;> simp [demand, h]

/-- The run fails with the first defect of the list, and succeeds if the list
is empty. -/
def Reports (x : Except ε α) : List ε → Prop
  | [] => ∃ a, x = .ok a
  | e :: _ => x = .error e

namespace Reports

variable {x : Except ε α} {defects : List ε}

theorem ok (a : α) : Reports (.ok a : Except ε α) [] :=
  ⟨a, rfl⟩

theorem error (e : ε) : Reports (.error e : Except ε α) [e] :=
  rfl

theorem exists_ok_iff (h : Reports x defects) :
    (∃ a, x = .ok a) ↔ defects = [] := by
  cases defects with
  | nil => exact ⟨fun _ => rfl, fun _ => h⟩
  | cons e l =>
      have hx : x = .error e := h
      simp [hx]

theorem eq_error_iff (h : Reports x defects) {e : ε} :
    x = .error e ↔ defects.head? = some e := by
  cases defects with
  | nil =>
      obtain ⟨a, rfl⟩ := h
      simp
  | cons e' l =>
      have hx : x = .error e' := h
      simp [hx]

/-- A check that is made only after another one succeeds. -/
theorem bind {f : α → Except ε β} {first second : List ε}
    (hx : Reports x first)
    (hf : ∀ a, x = .ok a → Reports (f a) second) :
    Reports (x >>= f) (first ++ second) := by
  cases first with
  | nil =>
      obtain ⟨a, rfl⟩ := hx
      exact hf a rfl
  | cons e l =>
      have hx : x = .error e := hx
      subst hx
      rfl

theorem map (h : Reports x defects) (f : α → β) :
    Reports (x >>= fun a => .ok (f a)) defects := by
  simpa using h.bind fun a _ => Reports.ok (ε := ε) (f a)

theorem mapError (h : Reports x defects) (f : ε → ε') :
    Reports (x.mapError f) (defects.map f) := by
  cases defects with
  | nil =>
      obtain ⟨a, rfl⟩ := h
      exact ⟨a, rfl⟩
  | cons e l =>
      have hx : x = .error e := h
      subst hx
      rfl

/-- A test in front of a check. -/
theorem require {p q : Prop} [Decidable p] [Decidable q] (hrule : q ↔ p)
    {e : ε} (h : q → Reports x defects) :
    Reports (if p then x else .error e) (demand q e ++ defects) := by
  by_cases hp : p
  · have hq : q := hrule.mpr hp
    simpa [demand, hp, hq] using h hq
  · have hq : ¬q := fun hq => hp (hrule.mp hq)
    simp [demand, hp, hq, Reports]

/-- A test for what must not be, in front of a check. -/
theorem refuse {p q : Prop} [Decidable p] [Decidable q] (hrule : q ↔ ¬p)
    {e : ε} (h : q → Reports x defects) :
    Reports (if p then .error e else x) (demand q e ++ defects) := by
  by_cases hp : p
  · have hq : ¬q := fun hq => hrule.mp hq hp
    simp [demand, hp, hq, Reports]
  · have hq : q := hrule.mpr hp
    simpa [demand, hp, hq] using h hq

/-- A lookup in front of a check. -/
theorem lookup {o : Option α} {rule : Prop} [Decidable rule]
    (hrule : o.isSome = true ↔ rule) {x : Except ε β} {e : ε}
    (hnone : o = none → x = .error e)
    (hsome : ∀ a, o = some a → Reports x defects) :
    Reports x (demand rule e ++ defects) := by
  cases o with
  | none =>
      have hnot : ¬rule := by simpa using hrule
      simpa [demand, hnot, Reports] using hnone rfl
  | some a =>
      have hfound : rule := hrule.mp rfl
      simpa [demand, hfound] using hsome a rfl

/-- The items of a list are checked in turn. -/
theorem mapM {f : α → Except ε β} {g : α → List ε} {l : List α}
    (h : ∀ a ∈ l, Reports (f a) (g a)) :
    Reports (l.mapM f) (l.flatMap g) := by
  induction l with
  | nil => exact Reports.ok []
  | cons a l ih =>
      rw [List.mapM_cons, List.flatMap_cons]
      apply (h a List.mem_cons_self).bind
      intro b _
      exact (ih fun a' ha' => h a' (List.mem_cons_of_mem a ha')).map _

theorem forM {f : α → Except ε PUnit} {g : α → List ε} {l : List α}
    (h : ∀ a ∈ l, Reports (f a) (g a)) :
    Reports (l.forM f) (l.flatMap g) := by
  induction l with
  | nil => exact Reports.ok PUnit.unit
  | cons a l ih =>
      rw [List.forM, List.flatMap_cons]
      apply (h a List.mem_cons_self).bind
      intro _ _
      exact ih fun a' ha' => h a' (List.mem_cons_of_mem a ha')

theorem optionMapM {f : α → Except ε β} {g : α → List ε} {o : Option α}
    (h : ∀ a ∈ o, Reports (f a) (g a)) :
    Reports (o.mapM f) (o.toList.flatMap g) := by
  cases o with
  | none => exact Reports.ok none
  | some a =>
      rw [optionMapM_some]
      simpa using (h a rfl).map some

end Reports

/-! ## The first broken rule -/

/-- The item is the first one of the list that has the property. -/
def IsFirst (P : α → Prop) (l : List α) (a : α) : Prop :=
  ∃ before after, l = before ++ a :: after ∧ P a ∧ ∀ b ∈ before, ¬P b

theorem not_isFirst_nil {P : α → Prop} {a : α} : ¬IsFirst P [] a := by
  intro h
  obtain ⟨before, after, hnil, -⟩ := h
  simp at hnil

theorem isFirst_cons_iff {P : α → Prop} {a b : α} {l : List α} :
    IsFirst P (b :: l) a ↔ P b ∧ a = b ∨ ¬P b ∧ IsFirst P l a := by
  constructor
  · intro h
    obtain ⟨before, after, hl, ha, hbefore⟩ := h
    rcases List.cons_eq_append_iff.mp hl with ⟨-, hhead⟩ | ⟨before', rfl, htail⟩
    · obtain ⟨rfl, -⟩ := List.cons.inj hhead
      exact Or.inl ⟨ha, rfl⟩
    · rw [List.forall_mem_cons] at hbefore
      exact Or.inr ⟨hbefore.1, before', after, htail, ha, hbefore.2⟩
  · intro h
    rcases h with ⟨hb, rfl⟩ | ⟨hb, before, after, rfl, ha, hbefore⟩
    · exact ⟨[], l, rfl, hb, by simp⟩
    · exact ⟨b :: before, after, rfl, ha, List.forall_mem_cons.mpr ⟨hb, hbefore⟩⟩

section Ascending

variable {κ : Type} [LT κ] [StrictTotalOrder κ] {key : α → κ} {a b : α}

/-- What stands in front of an item of an ascending list is less than it. -/
theorem mem_before_iff_of_ascending {before after : List α}
    (h : (before ++ a :: after).Pairwise fun a b => key a < key b) :
    b ∈ before ↔ b ∈ before ++ a :: after ∧ key b < key a := by
  obtain ⟨-, hrest, hbefore⟩ := List.pairwise_append.mp h
  constructor
  · intro hb
    exact ⟨List.mem_append_left _ hb, hbefore b hb a List.mem_cons_self⟩
  · rintro ⟨hb, hba⟩
    have hafter := (List.pairwise_cons.mp hrest).1
    rcases List.mem_append.mp hb with hb | hb
    · exact hb
    · rcases List.mem_cons.mp hb with rfl | hb
      · exact absurd hba (StrictTotalOrder.irrefl _)
      · exact absurd hba (StrictTotalOrder.asymm (hafter b hb))

/-- In an ascending list the first item with a property is the one that has it
and before which none does. -/
theorem isFirst_iff_of_ascending {P : α → Prop} {l : List α}
    (h : l.Pairwise fun a b => key a < key b) :
    IsFirst P l a ↔ a ∈ l ∧ P a ∧ ∀ b ∈ l, key b < key a → ¬P b := by
  constructor
  · rintro ⟨before, after, rfl, ha, hbefore⟩
    refine ⟨List.mem_append_right before List.mem_cons_self, ha, ?_⟩
    intro b hb hba
    exact hbefore b ((mem_before_iff_of_ascending h).mpr ⟨hb, hba⟩)
  · rintro ⟨hmem, ha, hlesser⟩
    obtain ⟨before, after, rfl⟩ := List.append_of_mem hmem
    refine ⟨before, after, rfl, ha, ?_⟩
    intro b hb
    obtain ⟨hb, hba⟩ := (mem_before_iff_of_ascending h).mp hb
    exact hlesser b hb hba

end Ascending

/-- The items of a list are checked up to the first one that fails. -/
theorem mapM_eq_error_iff {f : α → Except ε β} {l : List α} {e : ε} :
    l.mapM f = .error e ↔
      ∃ a, IsFirst (fun b => ∃ e', f b = .error e') l a ∧ f a = .error e := by
  induction l with
  | nil => simp [not_isFirst_nil, pure, Except.pure]
  | cons a l ih =>
      have hcons : (a :: l).mapM f = .error e ↔
          f a = .error e ∨ ∃ b, f a = .ok b ∧ l.mapM f = .error e := by
        rw [List.mapM_cons, bind_eq_error_iff]
        simp [bind_eq_error_iff, pure, Except.pure]
      rw [hcons, ih]
      constructor
      · rintro (ha | ⟨b, hb, a', hfirst, ha'⟩)
        · exact ⟨a, isFirst_cons_iff.mpr (Or.inl ⟨⟨e, ha⟩, rfl⟩), ha⟩
        · refine ⟨a', isFirst_cons_iff.mpr (Or.inr ⟨?_, hfirst⟩), ha'⟩
          simp [hb]
      · rintro ⟨a', hfirst, ha'⟩
        rcases isFirst_cons_iff.mp hfirst with ⟨-, rfl⟩ | ⟨hok, hfirst⟩
        · exact Or.inl ha'
        · cases hb : f a with
          | error e' => exact absurd ⟨e', hb⟩ hok
          | ok b => exact Or.inr ⟨b, rfl, a', hfirst, ha'⟩

/-- A list of defects that begins with the demand of a rule begins with the first
rule that is broken, if the rest of the list does. -/
theorem head?_demand_append_iff {rule : Prop} [Decidable rule] {P : ε → Prop}
    {e f : ε} {defects rules : List ε} (hrule : ¬rule ↔ P e)
    (hrest : rule → (defects.head? = some f ↔ IsFirst P rules f)) :
    (demand rule e ++ defects).head? = some f ↔ IsFirst P (e :: rules) f := by
  rw [isFirst_cons_iff, ← hrule]
  by_cases h : rule
  · simp [demand, h, hrest h]
  · simp [demand, h, eq_comm]

end RolePolicy
