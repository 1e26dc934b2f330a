import RolePolicy.Glob

/-!
# The scan as a loop of two cursors

The scan written as a loop over positions: one cursor in the pattern, one in
the candidate, the place of the most recent star, and the place from which the
candidate is compared with what follows that star.  On a mismatch both cursors
move back, so neither of them bounds the number of turns.  What shrinks is the
candidate from the place of comparison on, and while that place stays, the
pattern in front of its cursor.  The loop therefore ends, and its answer is the
one of the scan.
-/

namespace RolePolicy.Glob

/-- The list `rest` is what stands behind the first `i` bytes of `l`. -/
def IsRest (l : List UInt8) (i : Nat) (rest : List UInt8) : Prop :=
  ∃ front, front.length = i ∧ l = front ++ rest

section Rest

variable {l rest : List UInt8} {i : Nat} {b : UInt8}

theorem isRest_zero (l : List UInt8) : IsRest l 0 l :=
  ⟨[], rfl, rfl⟩

theorem IsRest.getElem?_eq (h : IsRest l i rest) : l[i]? = rest.head? := by
  obtain ⟨front, rfl, rfl⟩ := h
  rw [List.getElem?_append_right (Nat.le_refl _), Nat.sub_self,
    List.head?_eq_getElem?]

theorem IsRest.succ (h : IsRest l i (b :: rest)) : IsRest l (i + 1) rest := by
  obtain ⟨front, rfl, rfl⟩ := h
  exact ⟨front ++ [b], by simp, by simp⟩

theorem IsRest.add_length (h : IsRest l i rest) :
    i + rest.length = l.length := by
  obtain ⟨front, rfl, rfl⟩ := h
  rw [List.length_append]

end Rest

/-- The positions that the loop keeps. -/
structure Cursors where
  pattern : Nat
  candidate : Nat
  star? : Option Nat
  resume : Nat
  deriving DecidableEq, Repr

namespace Cursors

/-- Both cursors in front, and no star met. -/
def start : Cursors := ⟨0, 0, none, 0⟩

/-- One turn of the loop: the cursors move, or the answer is known. -/
def turn (p s : List UInt8) (c : Cursors) : Cursors ⊕ Bool :=
  match s[c.candidate]? with
  | none =>
    if p[c.pattern]? = some starByte then .inl { c with pattern := c.pattern + 1 }
    else .inr (c.pattern == p.length)
  | some b =>
    if p[c.pattern]? = some starByte then
      .inl ⟨c.pattern + 1, c.candidate, some c.pattern, c.candidate⟩
    else if p[c.pattern]? = some b then
      .inl { c with pattern := c.pattern + 1, candidate := c.candidate + 1 }
    else
      match c.star? with
      | some i => .inl ⟨i + 1, c.resume + 1, some i, c.resume + 1⟩
      | none => .inr false

/-- The answer, if it is known after so many turns. -/
def answer? (p s : List UInt8) : Nat → Cursors → Option Bool
  | 0, _ => none
  | n + 1, c =>
    match c.turn p s with
    | .inl c' => answer? p s n c'
    | .inr a => some a

/-- The loop ends with the answer after at most so many turns. -/
def AnswersWithin (p s : List UInt8) (c : Cursors) (bound : Nat) (a : Bool) :
    Prop :=
  ∃ n ≤ bound, answer? p s n c = some a

/-- The cursors stand in front of the rests of pattern and candidate. -/
structure Faces (c : Cursors) (p s p' s' : List UInt8) : Prop where
  pattern : IsRest p c.pattern p'
  candidate : IsRest s c.candidate s'

/-- On a mismatch the most recent star takes one byte more of `t`, and the
comparison starts again with the pattern `q` behind the star. -/
structure GoesBack (c : Cursors) (p s q t : List UInt8) : Prop where
  star : ∃ i, c.star? = some i ∧ IsRest p (i + 1) q
  resume : IsRest s c.resume t

variable {p s p' s' q t : List UInt8} {b d : UInt8} {c c' : Cursors}
  {bound bound' : Nat} {a : Bool}

theorem faces_start (p s : List UInt8) : start.Faces p s p s :=
  ⟨isRest_zero p, isRest_zero s⟩

/-! ## One turn -/

theorem Faces.turn_star (h : c.Faces p s (starByte :: p') (b :: s')) :
    ∃ c', c.turn p s = .inl c' ∧ c'.Faces p s p' (b :: s') ∧
      c'.GoesBack p s p' (b :: s') := by
  have hpattern := h.pattern.succ
  refine ⟨⟨c.pattern + 1, c.candidate, some c.pattern, c.candidate⟩, ?_,
    ⟨hpattern, h.candidate⟩, ⟨_, rfl, hpattern⟩, h.candidate⟩
  simp [turn, h.pattern.getElem?_eq, h.candidate.getElem?_eq]

theorem Faces.turn_byte (hb : b ≠ starByte)
    (h : c.Faces p s (b :: p') (b :: s')) :
    ∃ c', c.turn p s = .inl c' ∧ c'.Faces p s p' s' ∧ c'.star? = c.star? ∧
      c'.resume = c.resume := by
  refine ⟨{ c with pattern := c.pattern + 1, candidate := c.candidate + 1 }, ?_,
    ⟨h.pattern.succ, h.candidate.succ⟩, rfl, rfl⟩
  simp [turn, h.pattern.getElem?_eq, h.candidate.getElem?_eq, hb]

theorem Faces.turn_mismatch (hstar : p'.head? ≠ some starByte)
    (hbyte : p'.head? ≠ some b) (h : c.Faces p s p' (b :: s'))
    (hback : c.GoesBack p s q (d :: t)) :
    ∃ c', c.turn p s = .inl c' ∧ c'.Faces p s q t ∧ c'.GoesBack p s q t := by
  obtain ⟨i, hi, hq⟩ := hback.star
  have hresume := hback.resume.succ
  refine ⟨⟨i + 1, c.resume + 1, some i, c.resume + 1⟩, ?_, ⟨hq, hresume⟩,
    ⟨_, rfl, hq⟩, hresume⟩
  simp [turn, h.pattern.getElem?_eq, h.candidate.getElem?_eq, hstar, hbyte, hi]

theorem Faces.turn_reject (hstar : p'.head? ≠ some starByte)
    (hbyte : p'.head? ≠ some b) (h : c.Faces p s p' (b :: s'))
    (hnone : c.star? = none) : c.turn p s = .inr false := by
  simp [turn, h.pattern.getElem?_eq, h.candidate.getElem?_eq, hstar, hbyte, hnone]

theorem Faces.turn_skip (h : c.Faces p s (starByte :: p') []) :
    ∃ c', c.turn p s = .inl c' ∧ c'.Faces p s p' [] := by
  refine ⟨{ c with pattern := c.pattern + 1 }, ?_, h.pattern.succ, h.candidate⟩
  simp [turn, h.pattern.getElem?_eq, h.candidate.getElem?_eq]

theorem Faces.turn_end (hstar : p'.head? ≠ some starByte)
    (h : c.Faces p s p' []) : c.turn p s = .inr p'.isEmpty := by
  have hend : (c.pattern == p.length) = p'.isEmpty := by
    have hlength := h.pattern.add_length
    rw [Bool.eq_iff_iff, beq_iff_eq, List.isEmpty_iff_length_eq_zero]
    omega
  simp [turn, h.pattern.getElem?_eq, h.candidate.getElem?_eq, hstar, hend]

/-! ## Whole runs -/

theorem AnswersWithin.of_turn_eq_inr (h : c.turn p s = .inr a) :
    c.AnswersWithin p s (bound + 1) a :=
  ⟨1, Nat.le_add_left 1 bound, by simp only [answer?, h]⟩

theorem AnswersWithin.mono (h : c.AnswersWithin p s bound a)
    (hle : bound ≤ bound') : c.AnswersWithin p s bound' a := by
  obtain ⟨n, hn, ha⟩ := h
  exact ⟨n, Nat.le_trans hn hle, ha⟩

theorem AnswersWithin.of_turn_eq_inl (h : c.turn p s = .inl c')
    (hrest : c'.AnswersWithin p s bound' a) (hbound : bound' < bound) :
    c.AnswersWithin p s bound a := by
  obtain ⟨n, hn, ha⟩ := hrest
  exact ⟨n + 1, by omega, by simpa only [answer?, h] using ha⟩

/-- At the end of the candidate the loop skips stars. -/
theorem Faces.answersWithin_nil (h : c.Faces p s p' []) :
    c.AnswersWithin p s (p'.length + 1) (p'.all (· == starByte)) := by
  induction p' generalizing c with
  | nil => exact .of_turn_eq_inr (h.turn_end (by simp))
  | cons d p' ih =>
      by_cases hd : d = starByte
      · subst hd
        obtain ⟨c', hturn, hc'⟩ := h.turn_skip
        rw [List.all_cons, beq_self_eq_true, Bool.true_and]
        exact .of_turn_eq_inl hturn (ih hc') (Nat.lt_succ_self _)
      · rw [List.all_cons, beq_false_of_ne hd, Bool.false_and]
        exact .of_turn_eq_inr (h.turn_end (by simpa using hd))

/-- The turns that are left behind a star: the whole pattern once for each byte
that the star can still take, and what is left of the pattern. -/
def turnsLeft (p t p' : List UInt8) : Nat :=
  t.length * (p.length + 1) + p'.length + 1

theorem turnsLeft_lt (hle : s'.length ≤ t.length) :
    turnsLeft p s' p' < turnsLeft p t (d :: p') := by
  have hmul := Nat.mul_le_mul_right (p.length + 1) hle
  simp only [turnsLeft, List.length_cons]
  omega

theorem turnsLeft_mismatch_lt (hle : q.length ≤ p.length) :
    turnsLeft p t q < turnsLeft p (d :: t) p' := by
  simp only [turnsLeft, List.length_cons, Nat.add_mul, Nat.one_mul]
  omega

/-- A mismatch behind a star leads to the state from which the scan goes on. -/
theorem Faces.answersWithin_mismatch (hstar : p'.head? ≠ some starByte)
    (hbyte : p'.head? ≠ some b) (h : c.Faces p s p' (b :: s'))
    (hback : c.GoesBack p s q t) (hle : (b :: s').length ≤ t.length)
    (hrest : ∀ c' : Cursors, c'.Faces p s q t.tail → c'.GoesBack p s q t.tail →
      c'.AnswersWithin p s (turnsLeft p t.tail q) a) :
    c.AnswersWithin p s (turnsLeft p t p') a := by
  cases t with
  | nil => exact absurd hle (Nat.not_succ_le_zero _)
  | cons d t =>
      obtain ⟨c', hturn, hfaces, hback'⟩ := h.turn_mismatch hstar hbyte hback
      obtain ⟨i, -, hq⟩ := hback.star
      have hlength := hq.add_length
      exact .of_turn_eq_inl hturn (hrest c' hfaces hback')
        (turnsLeft_mismatch_lt (by omega))

/-- Behind a star the loop gives the answer of the scan. -/
theorem Faces.answersWithin_scanAfterStar (hle : s'.length ≤ t.length)
    (h : c.Faces p s p' s') (hback : c.GoesBack p s q t) :
    c.AnswersWithin p s (turnsLeft p t p') (scanAfterStar q t p' s' hle) := by
  induction q, t, p', s', hle using scanAfterStar.induct generalizing c with
  | case1 q t p' hle _ =>
      rw [scanAfterStar]
      exact h.answersWithin_nil.mono (by simp [turnsLeft])
  | case2 q t b s' hle _ ih =>
      rw [scanAfterStar]
      exact h.answersWithin_mismatch (by simp) (by simp) hback hle
        fun c' hc' hback' => ih hc' hback'
  | case3 q t b s' hle p' _ ih =>
      rw [scanAfterStar, if_pos rfl]
      obtain ⟨c', hturn, hfaces, hback'⟩ := h.turn_star
      exact .of_turn_eq_inl hturn (ih hfaces hback') (turnsLeft_lt hle)
  | case4 q t s' d p' hd hle _ ih =>
      rw [scanAfterStar, if_neg hd, if_pos rfl]
      obtain ⟨c', hturn, hfaces, hstar, hresume⟩ := h.turn_byte hd
      have hback' : c'.GoesBack p s q t :=
        ⟨by rw [hstar]; exact hback.star, by rw [hresume]; exact hback.resume⟩
      exact .of_turn_eq_inl hturn (ih hfaces hback')
        (turnsLeft_lt (Nat.le_refl _))
  | case5 q t b s' hle d p' hd hb _ ih =>
      rw [scanAfterStar, if_neg hd, if_neg hb]
      exact h.answersWithin_mismatch (by simpa using hd) (by simpa using hb) hback
        hle fun c' hc' hback' => ih hc' hback'

/-- Before any star the loop gives the answer of the scan. -/
theorem Faces.answersWithin_scan (h : c.Faces p s p' s')
    (hnone : c.star? = none) :
    c.AnswersWithin p s (turnsLeft p s' p') (scan p' s') := by
  induction p', s' using scan.induct generalizing c with
  | case1 p' =>
      rw [scan]
      exact h.answersWithin_nil.mono (by simp [turnsLeft])
  | case2 b s' =>
      rw [scan]
      exact .of_turn_eq_inr (h.turn_reject (by simp) (by simp) hnone)
  | case3 p' b s' =>
      rw [scan, if_pos rfl]
      obtain ⟨c', hturn, hfaces, hback⟩ := h.turn_star
      exact .of_turn_eq_inl hturn
        (hfaces.answersWithin_scanAfterStar (Nat.le_refl _) hback)
        (turnsLeft_lt (Nat.le_refl _))
  | case4 p' d s' hd ih =>
      rw [scan, if_neg hd, if_pos rfl]
      obtain ⟨c', hturn, hfaces, hstar, -⟩ := h.turn_byte hd
      exact .of_turn_eq_inl hturn (ih hfaces (hstar.trans hnone))
        (turnsLeft_lt (Nat.le_succ _))
  | case5 d p' b s' hd hb =>
      rw [scan, if_neg hd, if_neg hb]
      exact .of_turn_eq_inr
        (h.turn_reject (by simpa using hd) (by simpa using hb) hnone)

/-- The loop ends on every input, with the answer of the scan. -/
theorem answersWithin_start (p s : List UInt8) :
    start.AnswersWithin p s (turnsLeft p s p) (scan p s) :=
  (faces_start p s).answersWithin_scan rfl

end Cursors

end RolePolicy.Glob
