import RolePolicy.Glob

/-!
# The scan decides matching of bytes

Matching is first considered over bytes.  After the first star the scan keeps
a pattern suffix and the candidate left by the star.  What it has compared
since then is free of stars, stands in front of both, and so can be given back
to them: this invariant is what makes it safe to move only the most recent
star.
-/

namespace RolePolicy.Glob

/-- Matching over bytes: a star byte stands for any run of bytes. -/
inductive MatchesBytes : List UInt8 → List UInt8 → Prop where
  | nil : MatchesBytes [] []
  | byte {b : UInt8} {p s : List UInt8} (h : b ≠ starByte) :
      MatchesBytes p s → MatchesBytes (b :: p) (b :: s)
  | star {p s : List UInt8} (run : List UInt8) :
      MatchesBytes p s → MatchesBytes (starByte :: p) (run ++ s)

namespace MatchesBytes

theorem nil_left_iff {s : List UInt8} : MatchesBytes [] s ↔ s = [] := by
  constructor
  · intro h
    cases h
    rfl
  · rintro rfl
    exact nil

theorem cons_left_iff {c : UInt8} {p s : List UInt8} (hc : c ≠ starByte) :
    MatchesBytes (c :: p) s ↔ ∃ s', s = c :: s' ∧ MatchesBytes p s' := by
  constructor
  · intro h
    cases h with
    | byte _ h => exact ⟨_, rfl, h⟩
    | star run h => exact absurd rfl hc
  · rintro ⟨s', rfl, h⟩
    exact byte hc h

theorem star_left_iff {p s : List UInt8} :
    MatchesBytes (starByte :: p) s ↔
      ∃ run rest, s = run ++ rest ∧ MatchesBytes p rest := by
  constructor
  · intro h
    cases h with
    | byte hne _ => exact absurd rfl hne
    | star run h => exact ⟨run, _, rfl, h⟩
  · rintro ⟨run, rest, rfl, h⟩
    exact star run h

/-- Only stars match the empty candidate. -/
theorem nil_right_iff {p : List UInt8} :
    MatchesBytes p [] ↔ p.all (· == starByte) = true := by
  induction p with
  | nil => simp [nil_left_iff]
  | cons c p ih =>
      by_cases hc : c = starByte
      · subst hc
        rw [star_left_iff, List.all_cons, beq_self_eq_true, Bool.true_and, ← ih]
        constructor
        · rintro ⟨run, rest, h, hmatch⟩
          obtain ⟨-, rfl⟩ := List.append_eq_nil_iff.mp h.symm
          exact hmatch
        · intro h
          exact ⟨[], [], rfl, h⟩
      · rw [cons_left_iff hc]
        simp [hc]

theorem star_cons_right {p s : List UInt8} (b : UInt8)
    (h : MatchesBytes (starByte :: p) s) :
    MatchesBytes (starByte :: p) (b :: s) := by
  obtain ⟨run, rest, rfl, hrest⟩ := star_left_iff.mp h
  exact star (b :: run) hrest

theorem star_append_right {p s : List UInt8} (run : List UInt8)
    (h : MatchesBytes (starByte :: p) s) :
    MatchesBytes (starByte :: p) (run ++ s) := by
  induction run with
  | nil => exact h
  | cons b run ih => exact ih.star_cons_right b

/-- A star in front stands for nothing, or it takes the first byte. -/
theorem star_cons_iff {p s : List UInt8} {b : UInt8} :
    MatchesBytes (starByte :: p) (b :: s) ↔
      MatchesBytes p (b :: s) ∨ MatchesBytes (starByte :: p) s := by
  constructor
  · intro h
    obtain ⟨run, rest, heq, h⟩ := star_left_iff.mp h
    cases run with
    | nil =>
        have hrest : rest = b :: s := heq.symm
        exact Or.inl (hrest ▸ h)
    | cons b' run =>
        have hs : s = run ++ rest := (List.cons.inj heq).2
        exact Or.inr (hs ▸ star run h)
  · rintro (h | h)
    · exact star [] h
    · exact h.star_cons_right b

/-- A pattern that begins without stars begins its candidates. -/
theorem append_left_iff {x p s : List UInt8} (hx : starByte ∉ x) :
    MatchesBytes (x ++ p) s ↔ ∃ s', s = x ++ s' ∧ MatchesBytes p s' := by
  induction x generalizing s with
  | nil => simp
  | cons c x ih =>
      rw [List.mem_cons, not_or] at hx
      rw [List.cons_append, cons_left_iff (Ne.symm hx.1)]
      constructor
      · rintro ⟨s', rfl, h⟩
        obtain ⟨s'', rfl, hs⟩ := (ih hx.2).mp h
        exact ⟨s'', rfl, hs⟩
      · rintro ⟨s', rfl, h⟩
        exact ⟨x ++ s', rfl, (ih hx.2).mpr ⟨s', rfl, h⟩⟩

theorem append_append_iff {x p s : List UInt8} (hx : starByte ∉ x) :
    MatchesBytes (x ++ p) (x ++ s) ↔ MatchesBytes p s := by
  rw [append_left_iff hx]
  constructor
  · rintro ⟨s', heq, h⟩
    rwa [List.append_cancel_left heq]
  · intro h
    exact ⟨s, rfl, h⟩

end MatchesBytes

open MatchesBytes

/-! ## What the most recent star has to decide -/

/-- If all that is left of the candidate has been compared with the pattern
behind the star, only stars may follow. -/
theorem matchesBytes_star_append_self_iff {x p : List UInt8}
    (hx : starByte ∉ x) :
    MatchesBytes (starByte :: (x ++ p)) x ↔ MatchesBytes p [] := by
  constructor
  · intro h
    obtain ⟨run, rest, heq, hrest⟩ := star_left_iff.mp h
    obtain ⟨s, rfl, hs⟩ := (append_left_iff hx).mp hrest
    have hlength := congrArg List.length heq
    simp only [List.length_append] at hlength
    have hnil : s = [] := List.eq_nil_of_length_eq_zero (by omega)
    rwa [hnil] at hs
  · intro h
    apply star []
    exact (append_left_iff hx).mpr ⟨[], by simp, h⟩

/-- A further star behind compared bytes takes over from the star before. -/
theorem matchesBytes_star_append_star_iff {x p s : List UInt8}
    (hx : starByte ∉ x) :
    MatchesBytes (starByte :: (x ++ starByte :: p)) (x ++ s) ↔
      MatchesBytes (starByte :: p) s := by
  constructor
  · intro h
    obtain ⟨run, rest, heq, hrest⟩ := star_left_iff.mp h
    obtain ⟨rest', rfl, hrest'⟩ := (append_left_iff hx).mp hrest
    have hsuffix : rest' <:+ x ++ s := ⟨run ++ x, by rw [heq, List.append_assoc]⟩
    have hlength := congrArg List.length heq
    simp only [List.length_append] at hlength
    obtain ⟨run', rfl⟩ :=
      List.suffix_of_suffix_length_le hsuffix (List.suffix_append x s) (by omega)
    exact hrest'.star_append_right run'
  · intro h
    exact star [] ((append_append_iff hx).mpr h)

/-- On a mismatch the star takes one byte more. -/
theorem matchesBytes_star_tail_iff {q t : List UInt8} (ht : t ≠ [])
    (hq : ¬MatchesBytes q t) :
    MatchesBytes (starByte :: q) t ↔ MatchesBytes (starByte :: q) t.tail := by
  cases t with
  | nil => exact absurd rfl ht
  | cons b t =>
      rw [star_cons_iff, List.tail_cons]
      exact or_iff_right hq

/-- The scan after a star, in a state in which the bytes `x` have been
compared since. -/
theorem scanAfterStar_eq_true_iff {q t p s x : List UInt8}
    (h : s.length ≤ t.length) (hx : starByte ∉ x)
    (hq : q = x ++ p) (ht : t = x ++ s) :
    scanAfterStar q t p s h = true ↔ MatchesBytes (starByte :: q) t := by
  induction q, t, p, s, h using scanAfterStar.induct generalizing x with
  | case1 q t p h _ =>
      rw [scanAfterStar, ← nil_right_iff]
      rw [List.append_nil] at ht
      rw [hq, ht, matchesBytes_star_append_self_iff hx]
  | case2 q t b s h _ ih =>
      rw [scanAfterStar, ih List.not_mem_nil rfl rfl]
      rw [List.append_nil] at hq
      refine (matchesBytes_star_tail_iff ?_ ?_).symm
      · simp [ht]
      · intro hmatch
        rw [hq, ht, ← List.append_nil x, List.append_assoc] at hmatch
        have hnil := (append_append_iff hx).mp hmatch
        exact absurd (nil_left_iff.mp hnil) (by simp)
  | case3 q t b s h p _ ih =>
      rw [scanAfterStar, if_pos rfl, ih List.not_mem_nil rfl rfl]
      rw [hq, ht, matchesBytes_star_append_star_iff hx]
  | case4 q t s c p hc h _ ih =>
      rw [scanAfterStar, if_neg hc, if_pos rfl]
      apply ih (x := x ++ [c])
      · simpa [hx] using Ne.symm hc
      · rw [hq, List.append_assoc]
        rfl
      · rw [ht, List.append_assoc]
        rfl
  | case5 q t b s h c p hc hb _ ih =>
      rw [scanAfterStar, if_neg hc, if_neg hb, ih List.not_mem_nil rfl rfl]
      refine (matchesBytes_star_tail_iff ?_ ?_).symm
      · simp [ht]
      · intro hmatch
        rw [hq, ht, append_append_iff hx, cons_left_iff hc] at hmatch
        obtain ⟨s', heq, -⟩ := hmatch
        exact hb (List.cons.inj heq).1.symm

/-- The scan accepts exactly the matching candidates. -/
theorem scan_eq_true_iff {p s : List UInt8} :
    scan p s = true ↔ MatchesBytes p s := by
  induction p, s using scan.induct with
  | case1 p => rw [scan, nil_right_iff]
  | case2 b s => simp [scan, nil_left_iff]
  | case3 p b s =>
      rw [scan, if_pos rfl]
      exact scanAfterStar_eq_true_iff (x := []) _ List.not_mem_nil rfl rfl
  | case4 p c s hc ih =>
      rw [scan, if_neg hc, if_pos rfl, ih, cons_left_iff hc]
      simp
  | case5 c p b s hc hb =>
      rw [scan, if_neg hc, if_neg hb, cons_left_iff hc]
      simp [Ne.symm hb]

end RolePolicy.Glob
