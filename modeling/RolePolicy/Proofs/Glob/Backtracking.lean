import RolePolicy.Proofs.Glob.Characters
import RolePolicy.Proofs.Glob.Cursors
import RolePolicy.Proofs.Glob.Parts

/-!
# The scan and naive backtracking

The plainest matcher tries at each star to skip it and to let it take one item
more.  Whatever relation obeys the rules of patterns is what it decides, over
bytes as over characters.  The scan, which never comes back to an earlier star,
finds the same.
-/

namespace RolePolicy.Glob

/-- Match by trying everything: a star stands for nothing, or it takes the first
item of the candidate and is tried again. -/
def backtracks {α : Type} [DecidableEq α] (star : α) : List α → List α → Bool
  | [], s => s.isEmpty
  | c :: p, [] => c = star && backtracks star p []
  | c :: p, d :: s =>
    if c = star then backtracks star p (d :: s) || backtracks star (c :: p) s
    else c = d && backtracks star p s
termination_by p s => p.length + s.length

/-- The rules of patterns: no pattern matches the empty candidate only, a literal
item stands for itself, and a star for any run of items. -/
structure ObeysRules {α : Type} (star : α) (R : List α → List α → Prop) : Prop
    where
  nil_iff : ∀ {s}, R [] s ↔ s = []
  literal_iff : ∀ {c p s}, c ≠ star →
    (R (c :: p) s ↔ ∃ s', s = c :: s' ∧ R p s')
  star_iff : ∀ {p s}, R (star :: p) s ↔
    ∃ run rest, s = run ++ rest ∧ R p rest

theorem Matches.obeysRules : ObeysRules '*' Matches :=
  ⟨nil_left_iff, cons_left_iff, star_left_iff⟩

theorem MatchesBytes.obeysRules : ObeysRules starByte MatchesBytes :=
  ⟨nil_left_iff, cons_left_iff, star_left_iff⟩

namespace ObeysRules

variable {α : Type} {star : α} {R : List α → List α → Prop} {p s : List α}
  {d : α}

theorem star_nil_iff (h : ObeysRules star R) : R (star :: p) [] ↔ R p [] := by
  rw [h.star_iff]
  constructor
  · intro hruns
    obtain ⟨run, rest, heq, hrest⟩ := hruns
    obtain ⟨-, rfl⟩ := List.append_eq_nil_iff.mp heq.symm
    exact hrest
  · intro hp
    exact ⟨[], [], rfl, hp⟩

/-- A star is skipped, or it takes the first item and stays. -/
theorem star_cons_iff (h : ObeysRules star R) :
    R (star :: p) (d :: s) ↔ R p (d :: s) ∨ R (star :: p) s := by
  rw [h.star_iff, h.star_iff]
  constructor
  · intro hruns
    obtain ⟨run, rest, heq, hrest⟩ := hruns
    rcases List.cons_eq_append_iff.mp heq with ⟨-, rfl⟩ | ⟨run', rfl, hs⟩
    · exact Or.inl hrest
    · exact Or.inr ⟨run', rest, hs, hrest⟩
  · intro hor
    rcases hor with hp | ⟨run, rest, rfl, hrest⟩
    · exact ⟨[], d :: s, rfl, hp⟩
    · exact ⟨d :: run, rest, rfl, hrest⟩

/-- Backtracking decides whatever obeys the rules of patterns. -/
theorem backtracks_eq_true_iff [DecidableEq α] (h : ObeysRules star R) :
    backtracks star p s = true ↔ R p s := by
  fun_induction backtracks star p s with
  | case1 s => rw [h.nil_iff, List.isEmpty_iff]
  | case2 c p ih =>
      by_cases hc : c = star
      · subst hc
        simp [h.star_nil_iff, ih]
      · simp [h.literal_iff hc, hc]
  | case3 p d s ih₁ ih₂ => rw [Bool.or_eq_true, ih₁, ih₂, h.star_cons_iff]
  | case4 c p d s hc ih =>
      rw [Bool.and_eq_true, decide_eq_true_iff, ih, h.literal_iff hc]
      constructor
      · intro hboth
        exact ⟨s, by rw [hboth.1], hboth.2⟩
      · intro hrest
        obtain ⟨s', heq, hs'⟩ := hrest
        obtain ⟨rfl, rfl⟩ := List.cons.inj heq
        exact ⟨rfl, hs'⟩

end ObeysRules

/-- The loop of the two cursors ends, with the answer that the matcher gives:
the candidate arises from the pattern by putting runs of characters for its
stars.  Naive backtracking finds the same, over characters and over bytes. -/
theorem cursors_decide_matches (pattern candidate : String) :
    (∃ n ≤ (bytes candidate).length * ((bytes pattern).length + 1) +
        (bytes pattern).length + 1,
      Cursors.start.answer? (bytes pattern) (bytes candidate) n =
        some (accepts pattern candidate)) ∧
    (accepts pattern candidate = true ↔
      Matches pattern.toList candidate.toList) ∧
    accepts pattern candidate =
      backtracks '*' pattern.toList candidate.toList ∧
    accepts pattern candidate =
      backtracks starByte (bytes pattern) (bytes candidate) := by
  have hmatches : accepts pattern candidate = true ↔
      Matches pattern.toList candidate.toList := accepts_eq_true_iff
  have hscan : accepts pattern candidate = true ↔
      MatchesBytes (bytes pattern) (bytes candidate) := scan_eq_true_iff
  refine ⟨Cursors.answersWithin_start _ _, hmatches, ?_, ?_⟩
  · rw [Bool.eq_iff_iff, hmatches, Matches.obeysRules.backtracks_eq_true_iff]
  · rw [Bool.eq_iff_iff, hscan, MatchesBytes.obeysRules.backtracks_eq_true_iff]

end RolePolicy.Glob
