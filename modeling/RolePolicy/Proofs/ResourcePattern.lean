import RolePolicy.Proofs.FirstDefect
import RolePolicy.Proofs.Glob.Characters
import RolePolicy.Proofs.Text.Spelling
import RolePolicy.Proofs.Text.Template
import RolePolicy.ResourcePattern

/-!
# The grammar of resource patterns

A resource pattern is `*` or an ARN: six segments, of which the first is `arn`,
the next two and the last are not empty, and only the last may hold colons.
The check of patterns accepts this grammar and reports the first rule that a
text breaks.
-/

namespace RolePolicy

open Text

/-! ## Cutting into segments -/

namespace Text

theorem splitUpTo_succ {sep : Char} {n : Nat} {front back : List Char}
    (h : sep ∉ front) :
    splitUpTo sep (n + 1) (front ++ sep :: back) =
      front :: splitUpTo sep n back := by
  have hsplit : splitFirst sep (front ++ sep :: back) = some (front, back) :=
    splitFirst_eq_some_iff.mpr ⟨h, rfl⟩
  simp [splitUpTo, hsplit]

/-- A text that is cut in at least two pieces is cut at its first separator. -/
theorem splitUpTo_eq_cons_cons {sep : Char} {n : Nat} {cs piece next : List Char}
    {rest : List (List Char)}
    (h : splitUpTo sep (n + 1) cs = piece :: next :: rest) :
    ∃ back, sep ∉ piece ∧ cs = piece ++ sep :: back ∧
      splitUpTo sep n back = next :: rest := by
  unfold splitUpTo at h
  cases hsplit : splitFirst sep cs with
  | none => simp [hsplit] at h
  | some parts =>
      obtain ⟨front, back⟩ := parts
      simp only [hsplit] at h
      obtain ⟨rfl, hrest⟩ := List.cons.inj h
      obtain ⟨hfront, rfl⟩ := splitFirst_eq_some_iff.mp hsplit
      exact ⟨back, hfront, rfl, hrest⟩

end Text

namespace ResourcePattern

/-- A text of six segments, separated by colons. -/
inductive HasSegments : List Char → List (List Char) → Prop where
  | intro {scheme partition service region account resource : List Char}
      (hscheme : ':' ∉ scheme) (hpartition : ':' ∉ partition)
      (hservice : ':' ∉ service) (hregion : ':' ∉ region)
      (haccount : ':' ∉ account) :
      HasSegments
        (scheme ++ ':' :: (partition ++ ':' :: (service ++ ':' ::
          (region ++ ':' :: (account ++ ':' :: resource)))))
        [scheme, partition, service, region, account, resource]

theorem segments_eq_iff {cs : List Char}
    {scheme partition service region account resource : List Char} :
    segments cs = [scheme, partition, service, region, account, resource] ↔
      HasSegments cs
        [scheme, partition, service, region, account, resource] := by
  constructor
  · intro h
    obtain ⟨_, hscheme, rfl, h₁⟩ := splitUpTo_eq_cons_cons h
    obtain ⟨_, hpartition, rfl, h₂⟩ := splitUpTo_eq_cons_cons h₁
    obtain ⟨_, hservice, rfl, h₃⟩ := splitUpTo_eq_cons_cons h₂
    obtain ⟨_, hregion, rfl, h₄⟩ := splitUpTo_eq_cons_cons h₃
    obtain ⟨_, haccount, rfl, h₅⟩ := splitUpTo_eq_cons_cons h₄
    obtain rfl := (List.cons.inj h₅).1
    exact HasSegments.intro hscheme hpartition hservice hregion haccount
  · rintro ⟨hscheme, hpartition, hservice, hregion, haccount⟩
    rw [segments, splitUpTo_succ hscheme, splitUpTo_succ hpartition,
      splitUpTo_succ hservice, splitUpTo_succ hregion, splitUpTo_succ haccount]
    rfl

theorem HasSegments.segments_eq {cs : List Char} {parts : List (List Char)}
    (h : HasSegments cs parts) : segments cs = parts := by
  have hparts := h
  cases h
  exact segments_eq_iff.mpr hparts

theorem HasSegments.exists_eq {cs : List Char} {parts : List (List Char)}
    (h : HasSegments cs parts) :
    ∃ scheme partition service region account resource,
      parts = [scheme, partition, service, region, account, resource] := by
  cases h
  exact ⟨_, _, _, _, _, _, rfl⟩

/-! ## Well-formed patterns -/

/-- A text of the form `arn:<partition>:<service>:<region>:<account>:<resource>`
whose partition, service and resource are not empty. -/
def IsArn (cs : List Char) : Prop :=
  ∃ partition service region account resource,
    HasSegments cs
      [['a', 'r', 'n'], partition, service, region, account, resource] ∧
      partition ≠ [] ∧ service ≠ [] ∧ resource ≠ []

/-- A text that names resources. -/
structure IsWellFormed (raw : String) : Prop where
  short : raw.utf8ByteSize ≤ maxBytes
  visible : IsVisible raw.toList
  substituted : ¬HasOpening raw.toList
  shape : raw = "*" ∨ IsArn raw.toList

/-- The rules of the ARN form that a text breaks. -/
def shapeDefects (cs : List Char) : List PatternFault :=
  match segments cs with
  | [scheme, partition, service, _, _, resource] =>
    demand (scheme = ['a', 'r', 'n']) .wrongScheme ++
      demand (partition ≠ [] ∧ service ≠ []) .unnamedService ++
        demand (resource ≠ []) .noResource
  | _ => [.tooFewSegments]

/-- The rules that a text breaks as a pattern, in the order of the check. -/
def defects (raw : String) : List PatternFault :=
  demand (raw ≠ "") .empty ++
    (demand (raw.utf8ByteSize ≤ maxBytes) .tooLong ++
      (demand (IsVisible raw.toList) .blank ++
        (demand (¬HasOpening raw.toList) .placeholder ++
          if raw = "*" then [] else shapeDefects raw.toList)))

theorem shapeDefects_of_segments {cs : List Char}
    {scheme partition service region account resource : List Char}
    (h : segments cs = [scheme, partition, service, region, account, resource]) :
    shapeDefects cs =
      demand (scheme = ['a', 'r', 'n']) .wrongScheme ++
        (demand (partition ≠ [] ∧ service ≠ []) .unnamedService ++
          demand (resource ≠ []) .noResource) := by
  simp only [shapeDefects, h, List.append_assoc]

theorem shapeDefects_of_few {cs : List Char}
    (h : ∀ scheme partition service region account resource,
      segments cs ≠ [scheme, partition, service, region, account, resource]) :
    shapeDefects cs = [.tooFewSegments] := by
  unfold shapeDefects
  split
  · rename_i hsegments
    exact absurd hsegments (h _ _ _ _ _ _)
  · rfl

theorem shapeDefects_eq_nil_iff {cs : List Char} :
    shapeDefects cs = [] ↔ IsArn cs := by
  constructor
  · intro h
    by_cases hsix : ∃ scheme partition service region account resource,
        segments cs = [scheme, partition, service, region, account, resource]
    · obtain ⟨scheme, partition, service, region, account, resource,
        hsegments⟩ := hsix
      rw [shapeDefects_of_segments hsegments] at h
      simp only [List.append_eq_nil_iff, demand_eq_nil_iff] at h
      obtain ⟨rfl, ⟨hpartition, hservice⟩, hresource⟩ := h
      exact ⟨partition, service, region, account, resource,
        segments_eq_iff.mp hsegments, hpartition, hservice, hresource⟩
    · simp only [not_exists] at hsix
      rw [shapeDefects_of_few hsix] at h
      cases h
  · rintro ⟨partition, service, region, account, resource, hsegments,
      hpartition, hservice, hresource⟩
    rw [shapeDefects_of_segments (segments_eq_iff.mpr hsegments)]
    simp [hpartition, hservice, hresource]

/-- A text without defects is a well-formed pattern. -/
theorem defects_eq_nil_iff {raw : String} :
    defects raw = [] ↔ IsWellFormed raw := by
  have hshape : (if raw = "*" then [] else shapeDefects raw.toList) = [] ↔
      raw = "*" ∨ IsArn raw.toList := by
    rw [← shapeDefects_eq_nil_iff]
    by_cases hstar : raw = "*" <;> simp [hstar]
  simp only [defects, List.append_eq_nil_iff, demand_eq_nil_iff, hshape]
  constructor
  · rintro ⟨-, hshort, hvisible, hsubstituted, hshape⟩
    exact ⟨hshort, hvisible, hsubstituted, hshape⟩
  · rintro ⟨hshort, hvisible, hsubstituted, hshape⟩
    refine ⟨?_, hshort, hvisible, hsubstituted, hshape⟩
    rintro rfl
    rcases hshape with h | ⟨_, _, _, _, _, h, -⟩
    · exact absurd h (by decide)
    · have hempty : segments "".toList = [[]] := by decide
      have hsix := segments_eq_iff.mpr h
      rw [hempty] at hsix
      cases hsix

/-- The check of a pattern reports the first rule that it breaks. -/
theorem parse_reports (raw : String) : Reports (parse raw) (defects raw) := by
  unfold parse defects
  refine Reports.refuse Iff.rfl fun _ => Reports.refuse not_lt.symm fun _ =>
    Reports.refuse ?_ fun _ => Reports.refuse ?_ fun _ => ?_
  · rw [any_isBlankOrControl_iff, not_not]
  · rw [opensVariable_eq_true_iff]
  · by_cases hstar : raw = "*"
    · simp only [if_pos hstar]
      exact Reports.ok _
    · rw [if_neg hstar, if_neg hstar]
      split
      · rename_i hsegments
        rw [shapeDefects_of_segments hsegments]
        refine Reports.refuse not_not.symm fun _ =>
          Reports.refuse ?_ fun _ => ?_
        · rw [not_or]
        · simpa using Reports.refuse Iff.rfl fun _ => Reports.ok _
      · rename_i hfew
        rw [shapeDefects_of_few hfew]
        exact Reports.error _

/-- Checking a pattern does not change it. -/
theorem eq_mk_of_parse {raw : String} {p : ResourcePattern}
    (h : parse raw = .ok p) : p = ⟨raw⟩ := by
  unfold parse at h
  repeat' split at h
  all_goals cases h
  all_goals rfl

theorem parse_text_of_parse {raw : String} {p : ResourcePattern}
    (h : parse raw = .ok p) : parse p.text = .ok p := by
  obtain rfl := eq_mk_of_parse h
  exact h

/-- Exactly the well-formed texts are patterns, and a pattern is its text. -/
theorem parse_eq_ok_iff {raw : String} {p : ResourcePattern} :
    parse raw = .ok p ↔ IsWellFormed raw ∧ p = ⟨raw⟩ := by
  have hok := (parse_reports raw).exists_ok_iff
  rw [defects_eq_nil_iff] at hok
  constructor
  · intro h
    exact ⟨hok.mp ⟨p, h⟩, eq_mk_of_parse h⟩
  · rintro ⟨hwell, rfl⟩
    obtain ⟨p, hp⟩ := hok.mpr hwell
    rw [hp, eq_mk_of_parse hp]

/-! ## Coverage -/

theorem covers_eq_true_iff {p : ResourcePattern} {candidate : String} :
    p.covers candidate = true ↔
      Glob.Matches p.text.toList candidate.toList :=
  Glob.accepts_eq_true_iff

end ResourcePattern

end RolePolicy
