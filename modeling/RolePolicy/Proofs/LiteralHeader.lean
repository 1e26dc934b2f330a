import RolePolicy.Proofs.Glob.Parts
import RolePolicy.Proofs.ResourcePattern

/-!
# Patterns with a literal header

A star takes in colons as any other characters, but only what follows the star
can move.  A pattern without stars in its first five segments therefore finds
these segments again at the front of each candidate, one by one, and only its
resource is left to be matched.
-/

namespace RolePolicy

/-- A pattern that goes on behind a literal segment. -/
theorem Glob.Matches.segment_append_iff {segment p s : List Char}
    (hsegment : '*' ∉ segment) :
    Matches (segment ++ ':' :: p) s ↔
      ∃ rest, s = segment ++ ':' :: rest ∧ Matches p rest := by
  have hliteral : '*' ∉ segment ++ [':'] := by simp [hsegment]
  rw [List.append_cons, append_left_iff_of_notMem_star hliteral]
  simp

namespace ResourcePattern

/-- The first five segments of a text stand for themselves if they are free of
stars, and leave the last one to be matched. -/
theorem HasSegments.matches_iff {cs candidate : List Char}
    {scheme partition service region account resource : List Char}
    (h : HasSegments cs
      [scheme, partition, service, region, account, resource])
    (hliteral : ∀ segment ∈ [scheme, partition, service, region, account],
      '*' ∉ segment) :
    Glob.Matches cs candidate ↔
      ∃ rest, HasSegments candidate
          [scheme, partition, service, region, account, rest] ∧
        Glob.Matches resource rest := by
  simp only [List.forall_mem_cons] at hliteral
  obtain ⟨hscheme, hpartition, hservice, hregion, haccount, -⟩ := hliteral
  obtain ⟨kscheme, kpartition, kservice, kregion, kaccount⟩ := h
  rw [Glob.Matches.segment_append_iff hscheme]
  simp only [Glob.Matches.segment_append_iff hpartition,
    Glob.Matches.segment_append_iff hservice,
    Glob.Matches.segment_append_iff hregion,
    Glob.Matches.segment_append_iff haccount]
  constructor
  · intro hmatches
    obtain ⟨_, rfl, _, rfl, _, rfl, _, rfl, rest, rfl, hrest⟩ := hmatches
    exact ⟨rest, .intro kscheme kpartition kservice kregion kaccount, hrest⟩
  · intro hsegments
    obtain ⟨rest, hsegments, hrest⟩ := hsegments
    cases hsegments
    exact ⟨_, rfl, _, rfl, _, rfl, _, rfl, rest, rfl, hrest⟩

/-- A pattern that is checked and has no star in its first five segments is an
ARN.  It covers exactly the texts of six segments with the same partition,
service, region and account whose last segment is matched by its own; however
many stars this one has, whatever is covered begins with the five segments of the
pattern. -/
theorem covers_iff_of_literal_header {raw : String} {p : ResourcePattern}
    (hparse : parse raw = .ok p)
    (hliteral : ∀ segment ∈ (segments p.text.toList).take 5, '*' ∉ segment) :
    ∃ partition service region account resource,
      HasSegments p.text.toList
        [['a', 'r', 'n'], partition, service, region, account, resource] ∧
      ∀ candidate : String,
        (p.covers candidate = true ↔
          ∃ rest, HasSegments candidate.toList
              [['a', 'r', 'n'], partition, service, region, account, rest] ∧
            Glob.accepts (String.ofList resource) (String.ofList rest) = true) ∧
        (p.covers candidate = true →
          (segments candidate.toList).take 5 =
            (segments p.text.toList).take 5) := by
  obtain ⟨hwell, rfl⟩ := parse_eq_ok_iff.mp hparse
  rcases hwell.shape with rfl |
    ⟨partition, service, region, account, resource, hsegments, -, -, -⟩
  · have hstar : ['*'] ∈ (segments "*".toList).take 5 := by decide
    exact absurd List.mem_cons_self (hliteral _ hstar)
  · rw [hsegments.segments_eq] at hliteral ⊢
    have hiff : ∀ candidate : String,
        (⟨raw⟩ : ResourcePattern).covers candidate = true ↔
          ∃ rest, HasSegments candidate.toList
              [['a', 'r', 'n'], partition, service, region, account, rest] ∧
            Glob.accepts (String.ofList resource) (String.ofList rest) = true := by
      intro candidate
      simp only [covers_eq_true_iff, hsegments.matches_iff hliteral,
        Glob.accepts_eq_true_iff, String.toList_ofList]
    refine ⟨_, _, _, _, _, hsegments, fun candidate => ⟨hiff candidate, ?_⟩⟩
    intro hcovers
    obtain ⟨rest, hrest, -⟩ := (hiff candidate).mp hcovers
    rw [hrest.segments_eq]
    rfl

/-- Streams of the log groups of one account, with stars and colons behind the
account. -/
def groupStreams : ResourcePattern :=
  ⟨"arn:aws:logs:eu-west-1:123456789012:log-group:*:stream/*"⟩

/-- The pattern covers a stream of its account, and a stream of another account
it does not cover, although that one ends alike. -/
theorem groupStreams_covers_iff :
    parse groupStreams.text = .ok groupStreams ∧
      (∀ segment ∈ (segments groupStreams.text.toList).take 5,
        '*' ∉ segment) ∧
      groupStreams.covers
        "arn:aws:logs:eu-west-1:123456789012:log-group:a:b:stream/c" = true ∧
      ¬groupStreams.covers
        "arn:aws:logs:eu-west-1:999999999999:123456789012:log-group:a:stream/c" =
          true := by
  have hparse : parse groupStreams.text = .ok groupStreams := by decide +kernel
  have hliteral : ∀ segment ∈ (segments groupStreams.text.toList).take 5,
      '*' ∉ segment := by
    decide +kernel
  obtain ⟨_, _, _, _, _, hsegments, hcovers⟩ :=
    covers_iff_of_literal_header hparse hliteral
  have hknown : segments groupStreams.text.toList =
      ["arn".toList, "aws".toList, "logs".toList, "eu-west-1".toList,
        "123456789012".toList, "log-group:*:stream/*".toList] := by
    decide +kernel
  rw [hsegments.segments_eq] at hknown
  simp only [List.cons.injEq, and_true] at hknown
  obtain ⟨-, rfl, rfl, rfl, rfl, rfl⟩ := hknown
  have hown : HasSegments
      "arn:aws:logs:eu-west-1:123456789012:log-group:a:b:stream/c".toList
      ["arn".toList, "aws".toList, "logs".toList, "eu-west-1".toList,
        "123456789012".toList, "log-group:a:b:stream/c".toList] :=
    segments_eq_iff.mp (by decide +kernel)
  have hmatches : Glob.Matches
      ("log-group:".toList ++ '*' :: (":stream/".toList ++ ['*']))
      ("log-group:".toList ++ ("a:b".toList ++
        (":stream/".toList ++ ("c".toList ++ [])))) :=
    Glob.Matches.append_left_iff.mpr ⟨_, _, rfl, .refl _, .star _
      (Glob.Matches.append_left_iff.mpr ⟨_, _, rfl, .refl _, .star _ .nil⟩)⟩
  refine ⟨hparse, hliteral, ?_, ?_⟩
  · refine (hcovers _).1.mpr ⟨_, hown, Glob.accepts_eq_true_iff.mpr ?_⟩
    simpa using hmatches
  · intro hforeign
    exact absurd ((hcovers _).2 hforeign) (by decide +kernel)

end ResourcePattern

end RolePolicy
