import Mathlib.Data.List.Basic
import RolePolicy.Glob

/-!
# Parts of a pattern

A pattern cut in two matches the candidates that can be cut accordingly.  What
a pattern says literally is found again in every candidate: a part without
stars matches itself only, and the characters of the pattern besides stars
stand in the candidate in the same order.
-/

namespace RolePolicy.Glob

namespace Matches

theorem nil_left_iff {s : List Char} : Matches [] s ↔ s = [] := by
  constructor
  · intro h
    cases h
    rfl
  · intro h
    rw [h]
    exact nil

theorem cons_left_iff {c : Char} {p s : List Char} (hc : c ≠ '*') :
    Matches (c :: p) s ↔ ∃ s', s = c :: s' ∧ Matches p s' := by
  constructor
  · intro h
    cases h with
    | char _ h => exact ⟨_, rfl, h⟩
    | star _ _ => exact absurd rfl hc
  · intro h
    obtain ⟨s', rfl, h⟩ := h
    exact char hc h

theorem star_left_iff {p s : List Char} :
    Matches ('*' :: p) s ↔ ∃ run rest, s = run ++ rest ∧ Matches p rest := by
  constructor
  · intro h
    cases h with
    | char hne _ => exact absurd rfl hne
    | star run h => exact ⟨run, _, rfl, h⟩
  · intro h
    obtain ⟨run, rest, rfl, h⟩ := h
    exact star run h

/-- A pattern in two parts matches what is put together from a candidate of
each. -/
theorem append_left_iff {p q s : List Char} :
    Matches (p ++ q) s ↔
      ∃ u v, s = u ++ v ∧ Matches p u ∧ Matches q v := by
  induction p generalizing s with
  | nil =>
      simp only [List.nil_append, nil_left_iff]
      constructor
      · intro h
        exact ⟨[], s, rfl, rfl, h⟩
      · intro h
        obtain ⟨u, v, rfl, rfl, h⟩ := h
        exact h
  | cons c p ih =>
      rw [List.cons_append]
      by_cases hc : c = '*'
      · subst hc
        simp only [star_left_iff, ih]
        constructor
        · intro h
          obtain ⟨run, _, rfl, u, v, rfl, hu, hv⟩ := h
          exact ⟨run ++ u, v, by rw [List.append_assoc], ⟨run, u, rfl, hu⟩, hv⟩
        · intro h
          obtain ⟨_, v, rfl, ⟨run, u, rfl, hu⟩, hv⟩ := h
          exact ⟨run, u ++ v, by rw [List.append_assoc], u, v, rfl, hu, hv⟩
      · simp only [cons_left_iff hc, ih]
        constructor
        · intro h
          obtain ⟨_, rfl, u, v, rfl, hu, hv⟩ := h
          exact ⟨c :: u, v, rfl, ⟨u, rfl, hu⟩, hv⟩
        · intro h
          obtain ⟨_, v, rfl, ⟨u, rfl, hu⟩, hv⟩ := h
          exact ⟨u ++ v, rfl, u, v, rfl, hu, hv⟩

/-- A pattern without stars matches itself only. -/
theorem iff_eq_of_notMem_star {p s : List Char} (hp : '*' ∉ p) :
    Matches p s ↔ s = p := by
  induction p generalizing s with
  | nil => exact nil_left_iff
  | cons c p ih =>
      have hc : c ≠ '*' := fun h => hp (h ▸ List.mem_cons_self)
      have hp' : '*' ∉ p := fun h => hp (List.mem_cons_of_mem c h)
      rw [cons_left_iff hc]
      constructor
      · intro h
        obtain ⟨s', rfl, h⟩ := h
        rw [(ih hp').mp h]
      · intro h
        exact ⟨p, h, (ih hp').mpr rfl⟩

/-- A pattern that goes on behind a part without stars. -/
theorem append_left_iff_of_notMem_star {p q s : List Char} (hp : '*' ∉ p) :
    Matches (p ++ q) s ↔ ∃ v, s = p ++ v ∧ Matches q v := by
  simp only [append_left_iff, iff_eq_of_notMem_star hp]
  constructor
  · intro h
    obtain ⟨_, v, rfl, rfl, hv⟩ := h
    exact ⟨v, rfl, hv⟩
  · intro h
    obtain ⟨v, rfl, hv⟩ := h
    exact ⟨p, v, rfl, rfl, hv⟩

/-- A pattern read as a candidate matches itself. -/
theorem refl (p : List Char) : Matches p p := by
  induction p with
  | nil => exact nil
  | cons c p ih =>
      by_cases hc : c = '*'
      · subst hc
        exact star ['*'] ih
      · exact char hc ih

/-- What a candidate matches, read as a pattern, its pattern matches as well: a
star of the candidate is a character that only a star can stand for. -/
theorem trans {p q s : List Char} (hpq : Matches p q) (hqs : Matches q s) :
    Matches p s := by
  induction hpq generalizing s with
  | nil => exact hqs
  | char hc _ ih =>
      obtain ⟨s', rfl, hrest⟩ := (cons_left_iff hc).mp hqs
      exact char hc (ih hrest)
  | star run _ ih =>
      obtain ⟨front, back, rfl, -, hback⟩ := append_left_iff.mp hqs
      exact star front (ih hback)

/-- The characters of a pattern besides its stars stand in every candidate, in
the same order. -/
theorem literals_sublist {p s : List Char} (h : Matches p s) :
    (p.filter (· ≠ '*')).Sublist s := by
  induction h with
  | nil => exact List.Sublist.refl _
  | char hc _ ih => simpa [hc] using ih
  | star run _ ih => simpa using ih.trans (List.sublist_append_right run _)

/-- A candidate has every character at least as often as the pattern, stars
apart. -/
theorem count_le {p s : List Char} (h : Matches p s) {c : Char} (hc : c ≠ '*') :
    p.count c ≤ s.count c := by
  have hcount : (p.filter (· ≠ '*')).count c = p.count c := by
    rw [List.count_filter]
    simpa using hc
  rw [← hcount]
  exact h.literals_sublist.count_le c

end Matches

end RolePolicy.Glob
