import Mathlib.Data.List.DropRight
import RolePolicy.Text.Basic
import RolePolicy.Text.Split

/-!
# Trimming, folding and cutting

Names in manifests count up to letter case and blank ends.  Trimming and
folding commute and are idempotent, and neither moves a colon, so that a text
`service:Verb` put together from trimmed and folded parts is cut into the same
parts again.
-/

namespace RolePolicy.Text

/-! ## Cutting at a separator -/

/-- A text is cut in two exactly at its first separator. -/
theorem splitFirst_eq_some_iff {sep : Char} {cs front back : List Char} :
    splitFirst sep cs = some (front, back) ↔
      sep ∉ front ∧ cs = front ++ sep :: back := by
  induction cs generalizing front with
  | nil => simp [splitFirst]
  | cons c cs ih =>
      unfold splitFirst
      by_cases hc : c = sep
      · rw [if_pos hc]
        constructor
        · intro h
          obtain ⟨rfl, rfl⟩ := Prod.mk.inj (Option.some.inj h)
          exact ⟨List.not_mem_nil, by rw [hc]; rfl⟩
        · rintro ⟨hfront, h⟩
          cases front with
          | nil => simpa [hc] using h
          | cons d front =>
              have hd : c = d := (List.cons.inj h).1
              exact absurd List.mem_cons_self (hc ▸ hd ▸ hfront)
      · rw [if_neg hc, Option.map_eq_some_iff]
        constructor
        · rintro ⟨⟨front', back'⟩, h, heq⟩
          obtain ⟨rfl, rfl⟩ := Prod.mk.inj heq
          obtain ⟨hfront, rfl⟩ := ih.mp h
          refine ⟨?_, rfl⟩
          rw [List.mem_cons, not_or]
          exact ⟨Ne.symm hc, hfront⟩
        · rintro ⟨hfront, h⟩
          cases front with
          | nil => exact absurd (List.cons.inj h).1 hc
          | cons d front =>
              obtain ⟨rfl, rfl⟩ := List.cons.inj h
              rw [List.mem_cons, not_or] at hfront
              exact ⟨(front, back), ih.mpr ⟨hfront.2, rfl⟩, rfl⟩

theorem splitFirst_eq_none_iff {sep : Char} {cs : List Char} :
    splitFirst sep cs = none ↔ sep ∉ cs := by
  induction cs with
  | nil => simp [splitFirst]
  | cons c cs ih =>
      unfold splitFirst
      by_cases hc : c = sep
      · simp [hc]
      · simp [hc, ih, Ne.symm hc]

theorem splitAll_ne_nil (sep : Char) (cs : List Char) : splitAll sep cs ≠ [] := by
  induction cs with
  | nil => simp [splitAll]
  | cons c cs ih =>
      unfold splitAll
      split_ifs
      · simp
      · split <;> simp

theorem splitAll_of_not_mem {sep : Char} {cs : List Char} (h : sep ∉ cs) :
    splitAll sep cs = [cs] := by
  induction cs with
  | nil => rfl
  | cons c cs ih =>
      rw [List.mem_cons, not_or] at h
      rw [splitAll, if_neg (Ne.symm h.1), ih h.2]

/-- The pieces of a text that goes on behind a separator are those on both sides
of it. -/
theorem splitAll_append (sep : Char) (front back : List Char) :
    splitAll sep (front ++ sep :: back) =
      splitAll sep front ++ splitAll sep back := by
  induction front with
  | nil => simp [splitAll]
  | cons c front ih =>
      rw [List.cons_append, splitAll, splitAll, ih]
      split_ifs
      · rfl
      · cases hfront : splitAll sep front with
        | nil => exact absurd hfront (splitAll_ne_nil sep front)
        | cons piece pieces => rfl

/-! ## Trimming -/

/-- No blank character stands at either end. -/
def IsTrimmed (cs : List Char) : Prop :=
  (∀ c ∈ cs.head?, isBlank c = false) ∧ ∀ c ∈ cs.getLast?, isBlank c = false

theorem trimChars_eq_rdropWhile (cs : List Char) :
    trimChars cs = (cs.dropWhile isBlank).rdropWhile isBlank :=
  rfl

theorem IsTrimmed.trimChars_eq {cs : List Char} (h : IsTrimmed cs) :
    trimChars cs = cs := by
  have hfront : cs.dropWhile isBlank = cs := by
    cases cs with
    | nil => rfl
    | cons c cs =>
        have hc : isBlank c = false := h.1 c rfl
        rw [List.dropWhile_cons_of_neg (by simp [hc])]
  rw [trimChars_eq_rdropWhile, hfront, List.rdropWhile_eq_self_iff]
  intro hne
  simp [h.2 _ (List.getLast?_eq_getLast_of_ne_nil hne)]

theorem isTrimmed_trimChars (cs : List Char) : IsTrimmed (trimChars cs) := by
  rw [trimChars_eq_rdropWhile]
  constructor
  · intro c hc
    obtain ⟨l, hl⟩ := List.rdropWhile_prefix isBlank (cs.dropWhile isBlank)
    have hhead : (cs.dropWhile isBlank).head? = some c := by
      rw [← hl, List.head?_append, hc]
      rfl
    have hnot := List.head?_dropWhile_not isBlank cs
    rw [hhead] at hnot
    exact hnot
  · intro c hc
    have hne : (cs.dropWhile isBlank).rdropWhile isBlank ≠ [] := by
      intro h
      simp [h] at hc
    have hlast := List.rdropWhile_last_not isBlank _ hne
    rw [List.getLast?_eq_getLast_of_ne_nil hne] at hc
    rw [← Option.some.inj hc]
    simpa using hlast

@[simp] theorem trimChars_trimChars (cs : List Char) :
    trimChars (trimChars cs) = trimChars cs :=
  (isTrimmed_trimChars cs).trimChars_eq

/-- Trimmed parts around a separator make a trimmed text. -/
theorem IsTrimmed.append_cons {front back : List Char} {sep : Char}
    (hfront : IsTrimmed front) (hback : IsTrimmed back)
    (hsep : isBlank sep = false) : IsTrimmed (front ++ sep :: back) := by
  constructor
  · intro c hc
    cases front with
    | nil =>
        obtain rfl : sep = c := by simpa using hc
        exact hsep
    | cons d front => exact hfront.1 c hc
  · intro c hc
    rw [List.getLast?_append, List.getLast?_cons] at hc
    cases back with
    | nil =>
        obtain rfl : sep = c := by simpa using hc
        exact hsep
    | cons d back =>
        apply hback.2 c
        simpa [List.getLast?_cons] using hc

/-! ## Visible text -/

/-- No character is blank or a control character. -/
def IsVisible (cs : List Char) : Prop :=
  ∀ c ∈ cs, isBlankOrControl c = false

theorem any_isBlankOrControl_iff {cs : List Char} :
    cs.any isBlankOrControl = true ↔ ¬IsVisible cs := by
  simp [IsVisible]

instance : DecidablePred IsVisible := fun cs =>
  decidable_of_iff (¬cs.any isBlankOrControl = true)
    (by rw [any_isBlankOrControl_iff, not_not])

/-! ## Folding -/

/-- The texts are equal up to letter case. -/
abbrev EqFolded (t u : String) : Prop :=
  foldCase t = foldCase u

theorem toLower_cases (c : Char) :
    c.toLower = c ∨
      (65 ≤ c.toNat ∧ c.toNat ≤ 90 ∧ c.toLower.toNat = c.toNat + 32) := by
  unfold Char.toLower
  split
  · rename_i h
    refine Or.inr ⟨?_, ?_, ?_⟩
    · simpa using UInt32.le_iff_toNat_le.mp h.1
    · simpa using UInt32.le_iff_toNat_le.mp h.2
    · have hle : c.val.toNat ≤ 90 := by
        simpa using UInt32.le_iff_toNat_le.mp h.2
      show (c.val + ('a'.val - 'A'.val)).toNat = c.val.toNat + 32
      rw [UInt32.toNat_add]
      have h32 : ('a'.val - 'A'.val).toNat = 32 := by decide
      rw [h32]
      omega
  · exact Or.inl rfl

@[simp] theorem toLower_toLower (c : Char) : c.toLower.toLower = c.toLower := by
  rcases toLower_cases c.toLower with h | ⟨hlow, hhigh, -⟩
  · exact h
  · rcases toLower_cases c with h | ⟨_, _, h⟩
    · rw [h, h]
    · omega

@[simp] theorem isBlank_toLower (c : Char) : isBlank c.toLower = isBlank c := by
  rcases toLower_cases c with h | ⟨hlow, hhigh, h⟩
  · rw [h]
  · have hfalse : ∀ n : Nat, 65 ≤ n → n ≤ 122 → ∀ d : Char, d.toNat = n →
        isBlank d = false := by
      intro n hlow hhigh d hd
      simp only [isBlank, hd]
      simp
      omega
    rw [hfalse _ (by omega) (by omega) c.toLower h,
      hfalse _ hlow (by omega) c rfl]

/-- Folding makes no character other than a letter out of another one. -/
theorem toLower_eq_iff {c d : Char} (hd : d.isAlpha = false) :
    c.toLower = d ↔ c = d := by
  have hcases : (d.isUpper || d.isLower) = false := hd
  obtain ⟨hupper, hlower⟩ := Bool.or_eq_false_iff.mp hcases
  have hsmall : ¬(97 ≤ d.toNat ∧ d.toNat ≤ 122) := by
    intro hbetween
    have htrue : d.isLower = true := Bool.and_eq_true_iff.mpr
      ⟨decide_eq_true hbetween.1, decide_eq_true hbetween.2⟩
    rw [hlower] at htrue
    cases htrue
  rcases toLower_cases c with h | ⟨hlow, hhigh, h⟩
  · rw [h]
  · constructor
    · intro hc
      rw [hc] at h
      omega
    · intro hc
      rw [hc] at hlow hhigh
      exact absurd ⟨hlow, hhigh⟩ (of_decide_eq_false hupper)

@[simp] theorem foldChars_foldChars (cs : List Char) :
    foldChars (foldChars cs) = foldChars cs := by
  simp [foldChars]

@[simp] theorem foldCase_foldCase (s : String) :
    foldCase (foldCase s) = foldCase s := by
  simp [foldCase]

theorem mem_foldChars_iff {c : Char} (hc : c.isAlpha = false)
    {cs : List Char} : c ∈ foldChars cs ↔ c ∈ cs := by
  simp [foldChars, toLower_eq_iff hc]

theorem mem_foldChars_colon_iff {cs : List Char} :
    ':' ∈ foldChars cs ↔ ':' ∈ cs :=
  mem_foldChars_iff rfl

/-- Folding does not move the colon at which a text is cut. -/
theorem splitFirst_foldChars (cs : List Char) :
    splitFirst ':' (foldChars cs) =
      (splitFirst ':' cs).map (Prod.map foldChars foldChars) := by
  cases hsplit : splitFirst ':' cs with
  | none =>
      rw [splitFirst_eq_none_iff] at hsplit
      rw [Option.map_none, splitFirst_eq_none_iff, mem_foldChars_colon_iff]
      exact hsplit
  | some parts =>
      obtain ⟨front, back⟩ := parts
      obtain ⟨hfront, rfl⟩ := splitFirst_eq_some_iff.mp hsplit
      have hcolon : ':' ∉ foldChars front := by
        rwa [mem_foldChars_colon_iff]
      rw [Option.map_some, Prod.map_apply, splitFirst_eq_some_iff]
      exact ⟨hcolon, List.map_append⟩

/-- Folding does not move the ends of a trimmed text. -/
theorem trimChars_foldChars (cs : List Char) :
    trimChars (foldChars cs) = foldChars (trimChars cs) := by
  have hblank : isBlank ∘ Char.toLower = isBlank := funext isBlank_toLower
  simp only [trimChars, foldChars, List.dropWhile_map, ← List.map_reverse,
    hblank]

theorem trim_foldCase (s : String) : trim (foldCase s) = foldCase (trim s) := by
  simp [trim, foldCase, trimChars_foldChars]

/-- Blank ends may be left out on both sides. -/
theorem eqFolded_trim {t u : String} (h : EqFolded t u) :
    EqFolded (trim t) (trim u) := by
  rw [EqFolded, ← trim_foldCase, ← trim_foldCase, h]

end RolePolicy.Text
