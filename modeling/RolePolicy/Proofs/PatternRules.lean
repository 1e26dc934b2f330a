import RolePolicy.Proofs.ResourcePattern
import RolePolicy.Role.Compose

/-!
# The rules of resource patterns, one by one

Which texts are patterns is said here rule by rule, without the cutting of the
check: a text has one segment more than colons, and what its segments are is
read off the text.  The check accepts `*` and the texts that break no rule, and
reports the first rule that any other text breaks.
-/

namespace RolePolicy

open Text

/-! ## Segments are counted by colons -/

theorem Text.length_splitUpTo (sep : Char) (n : Nat) (cs : List Char) :
    (splitUpTo sep n cs).length = min n (cs.count sep) + 1 := by
  induction n generalizing cs with
  | zero => simp [splitUpTo]
  | succ n ih =>
      unfold splitUpTo
      cases hsplit : splitFirst sep cs with
      | none =>
          have hcount : cs.count sep = 0 :=
            List.count_eq_zero.mpr (splitFirst_eq_none_iff.mp hsplit)
          simp [hcount]
      | some parts =>
          obtain ⟨front, back⟩ := parts
          obtain ⟨hfront, rfl⟩ := splitFirst_eq_some_iff.mp hsplit
          have hcount : (front ++ sep :: back).count sep = back.count sep + 1 := by
            rw [List.count_append, List.count_eq_zero.mpr hfront, Nat.zero_add,
              List.count_cons_self]
          rw [List.length_cons, ih, hcount]
          omega

namespace ResourcePattern

/-- A text has six segments exactly if it has five colons or more. -/
theorem exists_hasSegments_iff {cs : List Char} :
    (∃ parts, HasSegments cs parts) ↔ 5 ≤ cs.count ':' := by
  have hlength : (segments cs).length = min 5 (cs.count ':') + 1 :=
    length_splitUpTo ':' 5 cs
  constructor
  · intro h
    obtain ⟨parts, hparts⟩ := h
    rw [hparts.segments_eq] at hlength
    cases hparts
    simp only [List.length_cons, List.length_nil] at hlength
    omega
  · intro hcount
    have hsix : (segments cs).length = 6 := by omega
    match hsegments : segments cs, hsix with
    | [_, _, _, _, _, _], _ => exact ⟨_, segments_eq_iff.mp hsegments⟩

/-- What holds of the segments of a text can be asked of any segments of it. -/
theorem HasSegments.exists_iff {cs : List Char} {parts : List (List Char)}
    (h : HasSegments cs parts) {Q : List (List Char) → Prop} :
    (∃ parts', HasSegments cs parts' ∧ Q parts') ↔ Q parts := by
  constructor
  · intro hother
    obtain ⟨parts', hparts', hQ⟩ := hother
    rwa [← h.segments_eq, hparts'.segments_eq]
  · intro hQ
    exact ⟨parts, h, hQ⟩

/-! ## The first broken rule -/

/-- The rules of patterns in the order in which they are checked, each by the
fault of a text that breaks it. -/
def rules : List PatternFault :=
  [.empty, .tooLong, .blank, .placeholder, .tooFewSegments, .wrongScheme,
    .unnamedService, .noResource]

/-- The text has the fault, other faults apart. -/
def Breaks (raw : String) : PatternFault → Prop
  | .empty => raw = ""
  | .tooLong => 2048 < raw.utf8ByteSize
  | .blank => ∃ c ∈ raw.toList, isBlank c = true ∨ isControl c = true
  | .placeholder => HasOpening raw.toList
  | .tooFewSegments => raw.toList.count ':' < 5
  | .wrongScheme =>
    ∃ parts, HasSegments raw.toList parts ∧ parts[0]? ≠ some ['a', 'r', 'n']
  | .unnamedService =>
    ∃ parts, HasSegments raw.toList parts ∧
      (parts[1]? = some [] ∨ parts[2]? = some [])
  | .noResource => ∃ parts, HasSegments raw.toList parts ∧ parts[5]? = some []
  | .manyPolicies => False

theorem head?_shapeDefects_iff {raw : String} {f : PatternFault} :
    (shapeDefects raw.toList).head? = some f ↔
      IsFirst (Breaks raw)
        [.tooFewSegments, .wrongScheme, .unnamedService, .noResource] f := by
  by_cases hfew : raw.toList.count ':' < 5
  · have hnone : shapeDefects raw.toList = [.tooFewSegments] := by
      apply shapeDefects_of_few
      intro scheme partition service region account resource hsegments
      have hfive := exists_hasSegments_iff.mp ⟨_, segments_eq_iff.mp hsegments⟩
      omega
    have hbroken : Breaks raw .tooFewSegments := hfew
    simp [hnone, isFirst_cons_iff, hbroken, eq_comm]
  · have hkept : ¬Breaks raw .tooFewSegments := hfew
    obtain ⟨parts, hparts⟩ := exists_hasSegments_iff.mpr (not_lt.mp hfew)
    rw [isFirst_cons_iff, or_iff_right fun h => hkept h.1,
      and_iff_right hkept]
    obtain ⟨scheme, partition, service, region, account, resource, rfl⟩ :=
      hparts.exists_eq
    rw [shapeDefects_of_segments hparts.segments_eq]
    refine head?_demand_append_iff ?_ fun _ => head?_demand_append_iff ?_ fun _ =>
      ?_
    · rw [Breaks, hparts.exists_iff]
      simp
    · rw [Breaks, hparts.exists_iff]
      simp [imp_iff_not_or]
    · rw [← List.append_nil (demand _ _)]
      refine head?_demand_append_iff ?_ fun _ => ?_
      · rw [Breaks, hparts.exists_iff]
        simp
      · simp [not_isFirst_nil]

theorem parse_star : parse "*" = .ok ⟨"*"⟩ := by decide +kernel

/-- The check reports the first rule that a text breaks, and makes no demand on
the pattern `*`. -/
theorem parse_eq_error_iff {raw : String} {f : PatternFault} :
    parse raw = .error f ↔ raw ≠ "*" ∧ IsFirst (Breaks raw) rules f := by
  by_cases hstar : raw = "*"
  · simp [hstar, parse_star]
  · rw [and_iff_right hstar, (parse_reports raw).eq_error_iff, defects,
      if_neg hstar]
    refine head?_demand_append_iff not_not fun _ =>
      head?_demand_append_iff not_le fun _ =>
        head?_demand_append_iff ?_ fun _ =>
          head?_demand_append_iff not_not fun _ => head?_shapeDefects_iff
    rw [← any_isBlankOrControl_iff]
    simp [Breaks, isBlankOrControl]

/-! ## The grammar -/

theorem compose_eq_error_iff {raw : String} {e : CompileError} :
    compose raw = .error e ↔
      ∃ f, parse raw = .error f ∧ e = .malformedPattern raw f := by
  unfold compose
  cases parse raw with
  | ok p => simp [Except.mapError]
  | error f => simp [Except.mapError, eq_comm]

theorem accountSegment_of_hasSegments {p : ResourcePattern}
    {scheme partition service region account resource : List Char}
    (h : HasSegments p.text.toList
      [scheme, partition, service, region, account, resource]) :
    p.accountSegment = some account ∧
      (p.isAccountWildcard = true ↔ '*' ∈ account) := by
  have hstar : p.text ≠ "*" := by
    intro htext
    rw [htext] at h
    have hone : segments "*".toList = [['*']] := by decide
    rw [h.segments_eq] at hone
    simp at hone
  have haccount : p.accountSegment = some account := by
    rw [accountSegment, if_neg hstar, h.segments_eq]
    rfl
  exact ⟨haccount, by simp [isAccountWildcard, hstar, haccount]⟩

/-- The check accepts `*` and the short texts without blank characters and
openings of variables that have the form of an ARN.  A pattern is its text, its
account is the fifth segment, and it reaches several accounts exactly if this
segment has a star or the pattern is `*`.  Any other text is refused for the
first rule that it breaks. -/
theorem parse_follows_grammar (raw : String) :
    ((∃ p, parse raw = .ok p) ↔
      raw = "*" ∨ raw.utf8ByteSize ≤ 2048 ∧ IsVisible raw.toList ∧
        ¬HasOpening raw.toList ∧ IsArn raw.toList) ∧
    (∀ p, parse raw = .ok p → p.text = raw ∧
      (raw = "*" → p.accountSegment = none ∧ p.isAccountWildcard = true) ∧
      ∀ scheme partition service region account resource,
        HasSegments raw.toList
            [scheme, partition, service, region, account, resource] →
          p.accountSegment = some account ∧
            (p.isAccountWildcard = true ↔ '*' ∈ account)) ∧
    (∀ f, parse raw = .error f ↔
      raw ≠ "*" ∧ IsFirst (Breaks raw) rules f) ∧
    ∀ e, compose raw = .error e ↔
      ∃ f, parse raw = .error f ∧ e = .malformedPattern raw f := by
  refine ⟨?_, ?_, fun f => parse_eq_error_iff, fun e => compose_eq_error_iff⟩
  · by_cases hstar : raw = "*"
    · simp [hstar, parse_star]
    · simp only [parse_eq_ok_iff, exists_eq_right, hstar, false_or]
      constructor
      · intro h
        exact ⟨h.short, h.visible, h.substituted, h.shape.resolve_left hstar⟩
      · intro h
        obtain ⟨hshort, hvisible, hsubstituted, harn⟩ := h
        exact ⟨hshort, hvisible, hsubstituted, Or.inr harn⟩
  · intro p hp
    obtain rfl := eq_mk_of_parse hp
    refine ⟨rfl, ?_, ?_⟩
    · intro hstar
      simp [accountSegment, isAccountWildcard, hstar]
    · intro _ _ _ _ _ _ hsegments
      exact accountSegment_of_hasSegments hsegments

end ResourcePattern

end RolePolicy
