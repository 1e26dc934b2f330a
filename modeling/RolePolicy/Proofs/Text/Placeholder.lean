import Mathlib.Data.List.Infix
import RolePolicy.Proofs.Text.Spelling
import RolePolicy.Proofs.Text.Template

/-!
# Placeholders in templates

A placeholder is `${name}` for a name without colons and without the signs that
delimit variables.  Reading pairs every opening with the next `}`, so a
placeholder of a text is a variable by itself, or it is the end of a variable
that was opened before it.  In the second case the placeholder is not seen as
one by anything that works on the pieces of the text.
-/

namespace RolePolicy.Text

/-- The name of a placeholder: not empty, and without colons and the signs that
delimit variables. -/
structure IsPlaceholderName (name : List Char) : Prop where
  nonempty : name ≠ []
  plain : ∀ c ∈ name, c ≠ '$' ∧ c ≠ '{' ∧ c ≠ '}' ∧ c ≠ ':'

/-- Somewhere in the text stands `${name}` for the name of a placeholder. -/
def HasPlaceholder (cs : List Char) : Prop :=
  ∃ name, IsPlaceholderName name ∧ (Piece.variable name).render <:+: cs

theorem IsPlaceholderName.notMem_close {name : List Char}
    (h : IsPlaceholderName name) : '}' ∉ name := by
  intro hmem
  exact (h.plain '}' hmem).2.2.1 rfl

theorem IsPlaceholderName.notMem_colon {name : List Char}
    (h : IsPlaceholderName name) : ':' ∉ name := by
  intro hmem
  exact (h.plain ':' hmem).2.2.2 rfl

theorem render_variable (name : List Char) :
    (Piece.variable name).render = opening ++ name ++ ['}'] :=
  rfl

theorem notMem_close_opening_append {name : List Char} (h : '}' ∉ name) :
    '}' ∉ opening ++ name := by
  simp [opening, h]

theorem HasPlaceholder.hasOpening {cs : List Char} (h : HasPlaceholder cs) :
    HasOpening cs := by
  obtain ⟨name, -, hoccurs⟩ := h
  have hstart : opening <+: (Piece.variable name).render := by
    rw [render_variable, List.append_assoc]
    exact List.prefix_append _ _
  exact hstart.isInfix.trans hoccurs

/-! ## Where placeholders stand -/

/-- A text is put together from its pieces. -/
theorem Reads.flatMap_render {cs : List Char} {ps : List Piece}
    (h : Reads cs ps) : ps.flatMap Piece.render = cs := by
  induction h with
  | nil => rfl
  | literal _ _ ih =>
      rw [List.flatMap_cons, ih]
      rfl
  | closed _ _ ih =>
      rw [List.flatMap_cons, ih, render_variable, List.append_assoc]
      rfl
  | unclosed _ =>
      rw [List.flatMap_singleton]
      rfl

/-- A text that closes a variable once, behind another one, closes it there or
lies in what follows. -/
theorem infix_append_close {u front back : List Char} (hu : '}' ∉ u)
    (hfront : '}' ∉ front) (h : u ++ ['}'] <:+: front ++ '}' :: back) :
    u <:+ front ∨ u ++ ['}'] <:+: back := by
  obtain ⟨x, y, hxy⟩ := h
  have hsplit : splitFirst '}' (front ++ '}' :: back) = some (front, back) :=
    splitFirst_eq_some_iff.mpr ⟨hfront, rfl⟩
  by_cases hx : '}' ∈ x
  · obtain ⟨x₁, x₂, rfl, hx₁⟩ := List.eq_append_cons_of_mem hx
    have hsplit' : splitFirst '}' (front ++ '}' :: back) =
        some (x₁, x₂ ++ (u ++ ['}']) ++ y) :=
      splitFirst_eq_some_iff.mpr ⟨hx₁, by rw [← hxy]; simp⟩
    rw [hsplit] at hsplit'
    have hback : back = x₂ ++ (u ++ ['}']) ++ y :=
      (Prod.mk.inj (Option.some.inj hsplit')).2
    exact Or.inr ⟨x₂, y, hback.symm⟩
  · have hxu : '}' ∉ x ++ u := by
      simp [hx, hu]
    have hsplit' : splitFirst '}' (front ++ '}' :: back) = some (x ++ u, y) :=
      splitFirst_eq_some_iff.mpr ⟨hxu, by rw [← hxy]; simp⟩
    rw [hsplit] at hsplit'
    have hfront' : front = x ++ u :=
      (Prod.mk.inj (Option.some.inj hsplit')).1
    exact Or.inl ⟨x, hfront'.symm⟩

/-- A placeholder stands at the end of a piece. -/
theorem Reads.exists_piece_of_infix {cs : List Char} {ps : List Piece}
    (h : Reads cs ps) {name : List Char} (hname : '}' ∉ name)
    (hoccurs : (Piece.variable name).render <:+: cs) :
    ∃ p ∈ ps, (Piece.variable name).render <:+ p.render := by
  have hclose : '}' ∉ opening ++ name := notMem_close_opening_append hname
  rw [render_variable] at hoccurs ⊢
  induction h with
  | nil =>
      have hnil := List.infix_nil.mp hoccurs
      simp at hnil
  | literal hopen _ ih =>
      rcases List.infix_cons_iff.mp hoccurs with hstart | hrest
      · rw [List.append_assoc] at hstart
        exact absurd ((List.prefix_append _ _).trans hstart) hopen
      · obtain ⟨p, hp, hends⟩ := ih hrest
        exact ⟨p, List.mem_cons_of_mem _ hp, hends⟩
  | closed hv _ ih =>
      have hfront := notMem_close_opening_append hv
      rcases infix_append_close hclose hfront hoccurs with hends | hrest
      · refine ⟨_, List.mem_cons_self, ?_⟩
        obtain ⟨x, hx⟩ := hends
        exact ⟨x, by rw [render_variable, ← hx, ← List.append_assoc]⟩
      · obtain ⟨p, hp, hends⟩ := ih hrest
        exact ⟨p, List.mem_cons_of_mem _ hp, hends⟩
  | unclosed hrest =>
      have hmem : '}' ∈ opening ++ name ++ ['}'] :=
        List.mem_append_right _ (List.mem_singleton_self _)
      have hnot := notMem_close_opening_append hrest
      exact absurd (hoccurs.subset hmem) hnot

/-- A text has a placeholder exactly if one of its pieces ends in one. -/
theorem Reads.hasPlaceholder_iff {cs : List Char} {ps : List Piece}
    (h : Reads cs ps) :
    HasPlaceholder cs ↔
      ∃ p ∈ ps, ∃ name, IsPlaceholderName name ∧
        (Piece.variable name).render <:+ p.render := by
  constructor
  · rintro ⟨name, hname, hoccurs⟩
    obtain ⟨p, hp, hends⟩ := h.exists_piece_of_infix hname.notMem_close hoccurs
    exact ⟨p, hp, name, hname, hends⟩
  · rintro ⟨p, hp, name, hname, hends⟩
    have hpiece : p.render <:+: cs := by
      obtain ⟨front, back, rfl⟩ := List.append_of_mem hp
      rw [← h.flatMap_render, List.flatMap_append, List.flatMap_cons]
      exact ⟨_, _, List.append_assoc _ _ _⟩
    exact ⟨name, hname, hends.isInfix.trans hpiece⟩

/-- A variable ends in a placeholder if it is one, or if an opening inside its
name begins one. -/
theorem render_suffix_render_variable {name v : List Char}
    (h : (Piece.variable name).render <:+ (Piece.variable v).render) :
    v = name ∨ ∃ front, v = front ++ opening ++ name := by
  obtain ⟨x, hx⟩ := h
  rw [render_variable, render_variable, ← List.append_assoc] at hx
  have heq : x ++ (opening ++ name) = opening ++ v :=
    List.append_cancel_right hx
  match x, heq with
  | [], heq =>
      rw [List.nil_append] at heq
      exact Or.inl (List.append_cancel_left heq).symm
  | [a], heq => simp [opening] at heq
  | a :: b :: front, heq =>
      have hv : front ++ (opening ++ name) = v := by
        simpa [opening] using (List.cons.inj (List.cons.inj heq).2).2
      exact Or.inr ⟨front, by rw [← hv, List.append_assoc]⟩

end RolePolicy.Text
