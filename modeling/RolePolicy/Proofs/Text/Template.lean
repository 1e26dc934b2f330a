import Mathlib.Data.List.Basic
import RolePolicy.Text.Template

/-!
# How templates are read

The pieces of a text are given by rules: each `${` is paired with the next
`}`, whatever stands between, and an opening that is never closed takes the
rest of the text.  The scan follows these rules, and each text is read in one
way.
-/

namespace RolePolicy.Text

/-- Two characters that open a variable. -/
def opening : List Char := ['$', '{']

/-- The text is read as the pieces. -/
inductive Reads : List Char → List Piece → Prop where
  | nil : Reads [] []
  | literal {c : Char} {cs : List Char} {ps : List Piece}
      (h : ¬opening <+: c :: cs) (hrest : Reads cs ps) :
      Reads (c :: cs) (.literal c :: ps)
  | closed {name cs : List Char} {ps : List Piece}
      (h : '}' ∉ name) (hrest : Reads cs ps) :
      Reads (opening ++ name ++ '}' :: cs) (.variable name :: ps)
  | unclosed {rest : List Char} (h : '}' ∉ rest) :
      Reads (opening ++ rest) [.unclosed rest]

theorem piecesInside_append_cons {acc name cs : List Char} (h : '}' ∉ name) :
    piecesInside acc (name ++ '}' :: cs) =
      .variable (acc.reverse ++ name) :: pieces cs := by
  induction name generalizing acc with
  | nil => simp [piecesInside]
  | cons c name ih =>
      rw [List.mem_cons, not_or] at h
      rw [List.cons_append, piecesInside, ih h.2]
      · simp
      · exact fun hc => absurd hc.symm h.1

theorem piecesInside_of_notMem {acc rest : List Char} (h : '}' ∉ rest) :
    piecesInside acc rest = [.unclosed (acc.reverse ++ rest)] := by
  induction rest generalizing acc with
  | nil => simp [piecesInside]
  | cons c rest ih =>
      rw [List.mem_cons, not_or] at h
      rw [piecesInside, ih h.2]
      · simp
      · exact fun hc => absurd hc.symm h.1

theorem pieces_opening_append (cs : List Char) :
    pieces (opening ++ cs) = piecesInside [] cs := by
  simp [opening, pieces]

theorem pieces_cons_of_not_opening {c : Char} {cs : List Char}
    (h : ¬opening <+: c :: cs) : pieces (c :: cs) = .literal c :: pieces cs := by
  rw [pieces]
  rintro ds rfl rfl
  exact h (List.prefix_append opening ds)

theorem Reads.pieces_eq {cs : List Char} {ps : List Piece} (h : Reads cs ps) :
    pieces cs = ps := by
  induction h with
  | nil => simp [pieces]
  | literal hc _ ih => rw [pieces_cons_of_not_opening hc, ih]
  | closed hname _ ih =>
      rw [List.append_assoc, pieces_opening_append,
        piecesInside_append_cons hname, ih]
      rfl
  | unclosed hrest =>
      rw [pieces_opening_append, piecesInside_of_notMem hrest]
      rfl

/-- Every text can be read. -/
theorem exists_reads (cs : List Char) : ∃ ps, Reads cs ps := by
  induction hlength : cs.length using Nat.strongRecOn generalizing cs with
  | ind n ih =>
      subst hlength
      by_cases hopen : opening <+: cs
      · obtain ⟨rest, rfl⟩ := hopen
        by_cases hclose : '}' ∈ rest
        · obtain ⟨name, tail, rfl, hname⟩ := List.eq_append_cons_of_mem hclose
          have hshorter :
              tail.length < (opening ++ (name ++ '}' :: tail)).length := by
            simp only [List.length_append, List.length_cons]
            omega
          obtain ⟨ps, hps⟩ := ih _ hshorter tail rfl
          rw [← List.append_assoc]
          exact ⟨_, Reads.closed hname hps⟩
        · exact ⟨_, Reads.unclosed hclose⟩
      · cases cs with
        | nil => exact ⟨[], Reads.nil⟩
        | cons c cs =>
            obtain ⟨ps, hps⟩ := ih _ (Nat.lt_succ_self cs.length) cs rfl
            exact ⟨_, Reads.literal hopen hps⟩

theorem reads_pieces (cs : List Char) : Reads cs (pieces cs) := by
  obtain ⟨ps, h⟩ := exists_reads cs
  rwa [h.pieces_eq]

/-! ## Texts without variables -/

/-- A variable is opened somewhere in the text. -/
def HasOpening (cs : List Char) : Prop :=
  opening <:+: cs

theorem opensVariable_eq_true_iff {cs : List Char} :
    opensVariable cs = true ↔ HasOpening cs := by
  unfold HasOpening
  induction cs with
  | nil => simp [opensVariable, opening]
  | cons c cs ih =>
      rw [List.infix_cons_iff, ← ih]
      by_cases hopen : opening <+: c :: cs
      · obtain ⟨rest, hrest⟩ := hopen
        rw [← hrest]
        simp [opening, opensVariable]
      · rw [opensVariable]
        · simp [hopen]
        · rintro rest rfl rfl
          exact hopen ⟨rest, rfl⟩

instance : DecidablePred HasOpening := fun _ =>
  decidable_of_iff _ opensVariable_eq_true_iff

end RolePolicy.Text
