import RolePolicy.Proofs.FirstDefect
import RolePolicy.Proofs.Text.Template

/-!
# Edited templates

A text in which each closed variable has been replaced, whatever a variable is
replaced by.  The rules are those of reading: an opening is paired with the next
`}`, an opening that is never closed keeps the rest of the text, and every other
character stays where it is.  What has been put in is not read again.
-/

namespace RolePolicy.Text

/-- The text is edited from the left: the token of each variable is replaced by
a text that `R` relates to its name, and nothing else changes. -/
inductive Edits (R : List Char → List Char → Prop) :
    List Char → List Char → Prop where
  | nil : Edits R [] []
  | literal {c : Char} {cs out : List Char}
      (h : ¬opening <+: c :: cs) (hrest : Edits R cs out) :
      Edits R (c :: cs) (c :: out)
  | closed {name new cs out : List Char}
      (h : '}' ∉ name) (hnew : R name new) (hrest : Edits R cs out) :
      Edits R (opening ++ name ++ '}' :: cs) (new ++ out)
  | unclosed {rest : List Char} (h : '}' ∉ rest) :
      Edits R (opening ++ rest) (opening ++ rest)

/-- The text that takes the place of a piece. -/
def Piece.Becomes (R : List Char → List Char → Prop) :
    Piece → List Char → Prop
  | .literal c, new => new = [c]
  | .variable name, new => R name new
  | .unclosed rest, new => new = opening ++ rest

variable {R : List Char → List Char → Prop} {cs out : List Char}
  {ps : List Piece}

theorem Reads.edits (h : Reads cs ps) {texts : List (List Char)}
    (htexts : List.Forall₂ (Piece.Becomes R) ps texts) :
    Edits R cs texts.flatten := by
  induction h generalizing texts with
  | nil =>
      rw [List.forall₂_nil_left_iff.mp htexts]
      exact .nil
  | literal hopen _ ih =>
      obtain ⟨_, texts, rfl, hrest, rfl⟩ := List.forall₂_cons_left_iff.mp htexts
      exact .literal hopen (ih hrest)
  | closed hname _ ih =>
      obtain ⟨new, texts, hnew, hrest, rfl⟩ :=
        List.forall₂_cons_left_iff.mp htexts
      exact .closed hname hnew (ih hrest)
  | unclosed hrest =>
      obtain ⟨_, texts, rfl, hnil, rfl⟩ := List.forall₂_cons_left_iff.mp htexts
      rw [List.forall₂_nil_left_iff.mp hnil, List.flatten_singleton]
      exact .unclosed hrest

theorem Edits.exists_reads (h : Edits R cs out) :
    ∃ ps texts, Reads cs ps ∧ List.Forall₂ (Piece.Becomes R) ps texts ∧
      texts.flatten = out := by
  induction h with
  | nil => exact ⟨[], [], .nil, .nil, rfl⟩
  | @literal c _ _ hopen _ ih =>
      obtain ⟨ps, texts, hreads, htexts, rfl⟩ := ih
      exact ⟨_, [c] :: texts, .literal hopen hreads, .cons rfl htexts, rfl⟩
  | @closed _ new _ _ hname hnew _ ih =>
      obtain ⟨ps, texts, hreads, htexts, rfl⟩ := ih
      exact ⟨_, new :: texts, .closed hname hreads, .cons hnew htexts, rfl⟩
  | @unclosed rest hrest =>
      exact ⟨_, [opening ++ rest], .unclosed hrest, .cons rfl .nil,
        List.flatten_singleton⟩

/-- A text is edited piece by piece. -/
theorem edits_iff :
    Edits R cs out ↔
      ∃ texts, List.Forall₂ (Piece.Becomes R) (pieces cs) texts ∧
        texts.flatten = out := by
  constructor
  · intro h
    obtain ⟨ps, texts, hreads, htexts, hout⟩ := h.exists_reads
    rw [hreads.pieces_eq]
    exact ⟨texts, htexts, hout⟩
  · intro h
    obtain ⟨texts, htexts, rfl⟩ := h
    exact (reads_pieces cs).edits htexts

/-- Where every piece becomes one text, there is one edited text. -/
theorem edits_iff_of_becomes_iff {f : Piece → List Char}
    (hf : ∀ p new, f p = new ↔ p.Becomes R new) :
    Edits R cs out ↔ (pieces cs).flatMap f = out := by
  rw [edits_iff, List.flatMap_def]
  simp only [← map_eq_iff_forall₂ hf, exists_eq_left']

/-- A text can be edited if something is known to replace each of its
variables. -/
theorem exists_edits_iff :
    (∃ out, Edits R cs out) ↔
      ∀ name, Piece.variable name ∈ pieces cs → ∃ new, R name new := by
  constructor
  · intro h name hname
    obtain ⟨out, hout⟩ := h
    obtain ⟨texts, htexts, -⟩ := edits_iff.mp hout
    obtain ⟨new, -, hnew⟩ := exists_mem_of_forall₂_left htexts hname
    exact ⟨new, hnew⟩
  · intro h
    have hpiece : ∀ p ∈ pieces cs, ∃ new, p.Becomes R new := by
      intro p hp
      rcases p with c | name | rest
      · exact ⟨_, rfl⟩
      · exact h name hp
      · exact ⟨_, rfl⟩
    obtain ⟨texts, htexts⟩ := exists_forall₂ hpiece
    exact ⟨_, edits_iff.mpr ⟨texts, htexts, rfl⟩⟩

/-! ## Variables of a text -/

/-- Somewhere in the text, read from the left, the variable is closed. -/
def Mentions (cs name : List Char) : Prop :=
  ∃ ps, Reads cs ps ∧ Piece.variable name ∈ ps

theorem mentions_iff {name : List Char} :
    Mentions cs name ↔ Piece.variable name ∈ pieces cs := by
  constructor
  · intro h
    obtain ⟨ps, hreads, hname⟩ := h
    rwa [hreads.pieces_eq]
  · intro h
    exact ⟨_, reads_pieces cs, h⟩

end RolePolicy.Text
