import RolePolicy.Proofs.Glob.Parts
import RolePolicy.Proofs.Text.Placeholder
import RolePolicy.Proofs.Validity.Conditions

/-!
# Templates filled with one value

The text of a template in which every variable stands for the same value.  If
the value is the text itself, or is matched by it as a pattern, for a value that
is long or that uses a character foreign to the template, then the template is a
single variable, up to stars.
-/

namespace RolePolicy.Text

/-- The text of a piece, where a variable stands for the value. -/
def Piece.fill (value : List Char) : Piece → List Char
  | .variable _ => value
  | p => p.render

/-- The text of a list of pieces, where every variable stands for the value. -/
def fill (value : List Char) (ps : List Piece) : List Char :=
  ps.flatMap (Piece.fill value)

@[simp] theorem fill_nil (value : List Char) : fill value [] = [] :=
  rfl

@[simp] theorem fill_cons (value : List Char) (p : Piece) (ps : List Piece) :
    fill value (p :: ps) = p.fill value ++ fill value ps :=
  List.flatMap_cons

theorem fill_append (value : List Char) (ps qs : List Piece) :
    fill value (ps ++ qs) = fill value ps ++ fill value qs :=
  List.flatMap_append

theorem fill_eq_nil_iff {value : List Char} (hvalue : value ≠ [])
    {ps : List Piece} : fill value ps = [] ↔ ps = [] := by
  cases ps with
  | nil => simp
  | cons p ps =>
      rcases p with c | name | rest
      · simp [Piece.fill, Piece.render]
      · simp [Piece.fill, hvalue]
      · simp [Piece.fill, Piece.render]

/-- Without variables there is nothing to be filled. -/
theorem fill_pieces_of_no_variable {value cs : List Char}
    (h : ∀ name, Piece.variable name ∉ pieces cs) :
    fill value (pieces cs) = cs := by
  have hrender : ∀ p ∈ pieces cs, p.fill value = p.render := by
    intro p hp
    rcases p with c | name | rest
    · rfl
    · exact absurd hp (h name)
    · rfl
  rw [fill, List.flatMap_congr hrender]
  exact (reads_pieces cs).flatMap_render

theorem mem_of_literal_mem_pieces {c : Char} {cs : List Char}
    (h : Piece.literal c ∈ pieces cs) : c ∈ cs := by
  have hmem : c ∈ (pieces cs).flatMap Piece.render :=
    List.mem_flatMap.mpr ⟨_, h, List.mem_singleton_self c⟩
  rwa [(reads_pieces cs).flatMap_render] at hmem

/-- A text that is filled up to a longer value is a single variable. -/
theorem pieces_eq_of_fill_eq {value cs : List Char}
    (hlong : cs.length < value.length)
    (hfill : fill value (pieces cs) = value) :
    ∃ name, pieces cs = [.variable name] := by
  by_cases hvariable : ∃ name, Piece.variable name ∈ pieces cs
  · obtain ⟨name, hmem⟩ := hvariable
    obtain ⟨ps, qs, hpieces⟩ := List.append_of_mem hmem
    have hvalue : value ≠ [] := List.ne_nil_of_length_pos (by omega)
    have hlength :
        (fill value ps).length + (value.length + (fill value qs).length) =
          value.length := by
      rw [hpieces, fill_append, fill_cons] at hfill
      simpa [Piece.fill] using congrArg List.length hfill
    have hps : ps = [] :=
      (fill_eq_nil_iff hvalue).mp (List.eq_nil_of_length_eq_zero (by omega))
    have hqs : qs = [] :=
      (fill_eq_nil_iff hvalue).mp (List.eq_nil_of_length_eq_zero (by omega))
    exact ⟨name, by rw [hpieces, hps, hqs, List.nil_append]⟩
  · have hnone : ∀ name, Piece.variable name ∉ pieces cs :=
      fun name hmem => hvariable ⟨name, hmem⟩
    rw [fill_pieces_of_no_variable hnone] at hfill
    rw [hfill] at hlong
    exact absurd hlong (Nat.lt_irrefl _)

/-! ## Filled templates as patterns -/

/-- The pieces besides stars. -/
def withoutStars (ps : List Piece) : List Piece :=
  ps.filter (· ≠ .literal '*')

@[simp] theorem withoutStars_star_cons (ps : List Piece) :
    withoutStars (.literal '*' :: ps) = withoutStars ps := by
  simp [withoutStars]

theorem withoutStars_cons {p : Piece} (hp : p ≠ .literal '*')
    (ps : List Piece) : withoutStars (p :: ps) = p :: withoutStars ps := by
  simp [withoutStars, hp]

/-- Pieces that are stars match nothing, and with at least one of them
anything. -/
theorem matches_fill_of_stars {value : List Char} {ps : List Piece}
    (h : withoutStars ps = []) :
    Glob.Matches (fill value ps) [] ∧
      (ps ≠ [] → ∀ s, Glob.Matches (fill value ps) s) := by
  induction ps with
  | nil => exact ⟨.nil, fun hne => absurd rfl hne⟩
  | cons p ps ih =>
      by_cases hp : p = .literal '*'
      · subst hp
        rw [withoutStars_star_cons] at h
        have hnil := (ih h).1
        refine ⟨.star [] hnil, ?_⟩
        intro _ s
        have hall := Glob.Matches.star s hnil
        rwa [List.append_nil] at hall
      · rw [withoutStars_cons hp] at h
        exact absurd h (List.cons_ne_nil _ _)

/-- A variable with stars around it matches the value that it stands for. -/
theorem matches_fill_of_variable {value name : List Char} {ps : List Piece}
    (h : withoutStars ps = [.variable name]) :
    Glob.Matches (fill value ps) value := by
  induction ps with
  | nil => exact absurd h.symm (List.cons_ne_nil _ _)
  | cons p ps ih =>
      by_cases hp : p = .literal '*'
      · subst hp
        rw [withoutStars_star_cons] at h
        exact .star [] (ih h)
      · rw [withoutStars_cons hp] at h
        obtain ⟨rfl, hrest⟩ := List.cons.inj h
        rw [fill_cons, Glob.Matches.append_left_iff]
        exact ⟨value, [], (List.append_nil value).symm, .refl value,
          (matches_fill_of_stars hrest).1⟩

/-- Each piece besides stars gives one character besides stars, if variables
stand for a single one. -/
theorem length_filter_fill {a : Char} (ha : a ≠ '*') {ps : List Piece}
    (hsettled : ∀ p ∈ ps, p.IsSettled) :
    ((fill [a] ps).filter (· ≠ '*')).length = (withoutStars ps).length := by
  induction ps with
  | nil => rfl
  | cons p ps ih =>
      have ih := ih fun p hp => hsettled p (List.mem_cons_of_mem _ hp)
      have hp := hsettled p List.mem_cons_self
      rcases p with c | name | rest
      · by_cases hc : c = '*'
        · subst hc
          simpa [Piece.fill, Piece.render] using ih
        · have hne : Piece.literal c ≠ .literal '*' :=
            fun h => hc (Piece.literal.inj h)
          rw [withoutStars_cons hne]
          simpa [Piece.fill, Piece.render, hc] using ih
      · rw [withoutStars_cons (by simp)]
        simpa [Piece.fill, ha] using ih
      · exact hp.elim

/-- A text that is filled up to a pattern of a single character which the text
does not have consists of stars and of at most one variable. -/
theorem pieces_of_matches_fill {a : Char} (ha : a ≠ '*') {cs : List Char}
    (hspare : a ∉ cs) (hsettled : ∀ p ∈ pieces cs, p.IsSettled)
    (hmatches : Glob.Matches (fill [a] (pieces cs)) [a]) :
    pieces cs ≠ [] ∧
      (withoutStars (pieces cs) = [] ∨
        ∃ name, withoutStars (pieces cs) = [.variable name]) := by
  constructor
  · intro hnil
    rw [hnil] at hmatches
    have hempty : [a] = [] := Glob.Matches.nil_left_iff.mp hmatches
    exact absurd hempty (List.cons_ne_nil _ _)
  · have hliterals := hmatches.literals_sublist
    have hlength : (withoutStars (pieces cs)).length ≤ 1 := by
      rw [← length_filter_fill ha hsettled]
      exact hliterals.length_le
    cases hps : withoutStars (pieces cs) with
    | nil => exact Or.inl rfl
    | cons p ps =>
        rw [hps, List.length_cons] at hlength
        obtain rfl : ps = [] := List.eq_nil_of_length_eq_zero (by omega)
        have hp : p ∈ withoutStars (pieces cs) := by
          rw [hps]
          exact List.mem_singleton_self p
        obtain ⟨hmem, hstar⟩ := List.mem_filter.mp hp
        have hp' := hsettled p hmem
        rcases p with c | name | rest
        · have hc : c ≠ '*' := by simpa using hstar
          have hfill : c ∈ (fill [a] (pieces cs)).filter (· ≠ '*') := by
            rw [List.mem_filter]
            refine ⟨?_, by simpa using hc⟩
            exact List.mem_flatMap.mpr ⟨_, hmem, List.mem_singleton_self c⟩
          have hca : c = a := List.mem_singleton.mp (hliterals.subset hfill)
          rw [← hca] at hspare
          exact absurd (mem_of_literal_mem_pieces hmem) hspare
        · exact Or.inr ⟨name, rfl⟩
        · exact hp'.elim

end RolePolicy.Text
