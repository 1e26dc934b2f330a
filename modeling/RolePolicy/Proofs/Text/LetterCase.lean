import Mathlib.Data.List.Forall2
import RolePolicy.Manifest.Substitution
import RolePolicy.Proofs.Text.Spelling
import RolePolicy.Proofs.Text.Template

/-!
# Letter case in templates

The signs that open and close variables are no letters, so a text keeps its
pieces when its letters are made small.  Placeholders are looked up exactly as
they are written: two texts that differ in letter case only, but not in the
names of their placeholders, still differ in letter case only after
substitution.
-/

namespace RolePolicy

namespace Text

/-! ## Pieces in small letters -/

/-- The piece with its letters made small. -/
def Piece.fold : Piece → Piece
  | .literal c => .literal c.toLower
  | .variable name => .variable (foldChars name)
  | .unclosed rest => .unclosed (foldChars rest)

theorem Piece.render_fold (p : Piece) : p.fold.render = foldChars p.render := by
  rcases p with c | name | rest
  · rfl
  · simp [fold, render, foldChars]
  · rfl

theorem opening_prefix_foldChars_iff {cs : List Char} :
    opening <+: foldChars cs ↔ opening <+: cs := by
  match cs with
  | [] => rfl
  | [c] => simp [opening, foldChars]
  | c :: d :: cs =>
      have hdollar : '$' = c.toLower ↔ '$' = c := by
        rw [eq_comm, toLower_eq_iff rfl, eq_comm]
      have hbrace : '{' = d.toLower ↔ '{' = d := by
        rw [eq_comm, toLower_eq_iff rfl, eq_comm]
      simp [opening, foldChars, List.cons_prefix_cons, hdollar, hbrace]

theorem Reads.fold {cs : List Char} {ps : List Piece} (h : Reads cs ps) :
    Reads (foldChars cs) (ps.map Piece.fold) := by
  induction h with
  | nil => exact Reads.nil
  | @literal c cs _ hopen _ ih =>
      refine Reads.literal ?_ ih
      intro hfold
      have hopen' : opening <+: foldChars (c :: cs) := hfold
      exact hopen (opening_prefix_foldChars_iff.mp hopen')
  | @closed name cs _ hname _ ih =>
      have hname' : '}' ∉ foldChars name := by
        rwa [mem_foldChars_iff rfl]
      have hsplit : foldChars (opening ++ name ++ '}' :: cs) =
          opening ++ foldChars name ++ '}' :: foldChars cs := by
        rw [foldChars, List.map_append, List.map_append]
        rfl
      rw [hsplit]
      exact Reads.closed hname' ih
  | @unclosed rest hrest =>
      have hrest' : '}' ∉ foldChars rest := by
        rwa [mem_foldChars_iff rfl]
      have hsplit : foldChars (opening ++ rest) = opening ++ foldChars rest :=
        List.map_append
      rw [hsplit]
      exact Reads.unclosed hrest'

/-- A text in small letters has the pieces of the text, in small letters. -/
theorem pieces_foldChars (cs : List Char) :
    pieces (foldChars cs) = (pieces cs).map Piece.fold :=
  (reads_pieces cs).fold.pieces_eq

/-! ## Placeholders -/

/-- The name under which a piece is looked up in substitutions. -/
def Piece.placeholder? : Piece → Option (List Char)
  | .variable name => if isNamespaced name then none else some name
  | _ => none

/-- The names of the placeholders of a text, in order. -/
def placeholderNames (text : String) : List (List Char) :=
  (pieces text.toList).filterMap Piece.placeholder?

/-- The texts differ at most in letter case, and not in the names of their
placeholders. -/
structure SameButCase (t u : String) : Prop where
  fold : foldCase t = foldCase u
  placeholders : placeholderNames t = placeholderNames u

theorem SameButCase.refl (t : String) : SameButCase t t :=
  ⟨rfl, rfl⟩

theorem SameButCase.symm {t u : String} (h : SameButCase t u) :
    SameButCase u t :=
  ⟨h.fold.symm, h.placeholders.symm⟩

theorem Piece.isSome_placeholder?_fold (p : Piece) :
    p.fold.placeholder?.isSome = p.placeholder?.isSome := by
  rcases p with c | name | rest
  · rfl
  · have hcolon : isNamespaced (foldChars name) = isNamespaced name := by
      rw [isNamespaced, isNamespaced, Bool.eq_iff_iff, List.contains_iff_mem,
        List.contains_iff_mem, mem_foldChars_colon_iff]
    simp only [fold, placeholder?, hcolon]
    by_cases hname : isNamespaced name = true
    · simp [hname]
    · simp [hname]
  · rfl

/-- Two pieces that differ at most in letter case, and not in the name of a
placeholder. -/
def Piece.SameButCase (p q : Piece) : Prop :=
  p.fold = q.fold ∧ p.placeholder? = q.placeholder?

/-- Pieces of one spelling in small letters are the same placeholders as soon
as their texts have the same placeholders. -/
theorem forall₂_sameButCase_of_fold {ps qs : List Piece}
    (hfold : List.Forall₂ (fun p q => p.fold = q.fold) ps qs)
    (hnames : ps.filterMap Piece.placeholder? =
      qs.filterMap Piece.placeholder?) :
    List.Forall₂ Piece.SameButCase ps qs := by
  induction hfold with
  | nil => exact .nil
  | @cons p q ps qs hpq _ ih =>
      have hsome : p.placeholder?.isSome = q.placeholder?.isSome := by
        rw [← p.isSome_placeholder?_fold, hpq, q.isSome_placeholder?_fold]
      cases hp : p.placeholder? with
      | none =>
          have hq : q.placeholder? = none := by simpa [hp] using hsome.symm
          rw [List.filterMap_cons_none hp, List.filterMap_cons_none hq] at hnames
          exact .cons ⟨hpq, hp.trans hq.symm⟩ (ih hnames)
      | some name =>
          obtain ⟨name', hq⟩ : ∃ name', q.placeholder? = some name' := by
            rw [← Option.isSome_iff_exists, ← hsome, hp, Option.isSome_some]
          rw [List.filterMap_cons_some hp, List.filterMap_cons_some hq] at hnames
          obtain ⟨rfl, hrest⟩ := List.cons.inj hnames
          exact .cons ⟨hpq, hp.trans hq.symm⟩ (ih hrest)

theorem SameButCase.pieces {t u : String} (h : SameButCase t u) :
    List.Forall₂ Piece.SameButCase (pieces t.toList) (pieces u.toList) := by
  have hchars : foldChars t.toList = foldChars u.toList := by
    have hfold := congrArg String.toList h.fold
    rwa [foldCase, foldCase, String.toList_ofList, String.toList_ofList] at hfold
  have hpieces : (Text.pieces t.toList).map Piece.fold =
      (Text.pieces u.toList).map Piece.fold := by
    rw [← pieces_foldChars, ← pieces_foldChars, hchars]
  rw [← List.forall₂_eq_eq_eq, List.forall₂_map_left_iff,
    List.forall₂_map_right_iff] at hpieces
  exact forall₂_sameButCase_of_fold hpieces h.placeholders

end Text

/-! ## After substitution -/

namespace Substitutions

open Text

theorem applyPiece_eq (s : Substitutions) (p : Piece) :
    s.applyPiece p =
      ((p.placeholder?.bind fun name => s.get? (String.ofList name)).map
        String.toList).getD p.render := by
  rcases p with c | name | rest
  · rfl
  · simp only [applyPiece, value?, Piece.placeholder?]
    by_cases hname : isNamespaced name = true
    · rw [if_pos hname, if_pos hname]
      rfl
    · rw [if_neg hname, if_neg hname, Option.bind_some]
      cases s.get? (String.ofList name) <;> rfl
  · rfl

theorem foldChars_applyPiece (s : Substitutions) {p q : Piece}
    (h : p.SameButCase q) :
    foldChars (s.applyPiece p) = foldChars (s.applyPiece q) := by
  obtain ⟨hfold, hname⟩ := h
  rw [applyPiece_eq, applyPiece_eq, hname]
  cases q.placeholder?.bind fun name => s.get? (String.ofList name) with
  | some value => rfl
  | none =>
      have hrender := congrArg Piece.render hfold
      rwa [Piece.render_fold, Piece.render_fold] at hrender

/-- Texts that differ in letter case only, and have the same placeholders,
differ in letter case only after substitution. -/
theorem foldCase_apply (s : Substitutions) {t u : String}
    (h : SameButCase t u) : foldCase (s.apply t) = foldCase (s.apply u) := by
  have hchars : ∀ {ps qs : List Piece}, List.Forall₂ Piece.SameButCase ps qs →
      foldChars (ps.flatMap s.applyPiece) =
        foldChars (qs.flatMap s.applyPiece) := by
    intro ps qs hpieces
    induction hpieces with
    | nil => rfl
    | cons hpq _ ih =>
        rw [List.flatMap_cons, List.flatMap_cons, foldChars, List.map_append,
          foldChars, List.map_append]
        exact congrArg₂ (· ++ ·) (s.foldChars_applyPiece hpq) ih
  rw [foldCase, foldCase, apply, apply, String.toList_ofList,
    String.toList_ofList, hchars h.pieces]

end Substitutions

end RolePolicy
