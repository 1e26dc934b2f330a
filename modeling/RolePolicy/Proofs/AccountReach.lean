import RolePolicy.Proofs.Glob.Parts
import RolePolicy.Proofs.Lint

/-!
# Accounts that a pattern reaches

The linter judges the reach of a pattern by its account segment, while a
wildcard of the matcher takes in any characters, colons included.  The account
of a pattern without a wildcard in its account segment stands, character for
character, in every resource that the pattern covers.  It is the account of the
resource unless wildcards in front of it have taken in colons, which moves it
behind the fifth segment of the resource.
-/

namespace RolePolicy

open Text

/-! ## The segment behind a number of separators -/

namespace Text

/-- What stands between separators, behind `k` others, is the piece of number
`k + 1`. -/
theorem splitUpTo_getElem?_of_count {sep : Char} {k n : Nat}
    {front piece back : List Char} (hcount : front.count sep = k)
    (hn : k + 1 < n) (hpiece : sep ∉ piece) :
    (splitUpTo sep n (front ++ sep :: (piece ++ sep :: back)))[k + 1]? =
      some piece := by
  induction k generalizing front n with
  | zero =>
      have hfront : sep ∉ front := List.count_eq_zero.mp hcount
      obtain ⟨n, rfl⟩ : ∃ n', n = n' + 1 + 1 := ⟨n - 2, by omega⟩
      rw [splitUpTo_succ hfront, splitUpTo_succ hpiece]
      rfl
  | succ k ih =>
      have hmem : sep ∈ front := by
        rw [← List.count_pos_iff]
        omega
      obtain ⟨a, b, rfl, ha⟩ := List.eq_append_cons_of_mem hmem
      have ha' : a.count sep = 0 := List.count_eq_zero.mpr ha
      have hb : b.count sep = k := by
        rw [List.count_append, List.count_cons_self, ha'] at hcount
        omega
      obtain ⟨n, rfl⟩ : ∃ n', n = n' + 1 := ⟨n - 1, by omega⟩
      rw [List.append_assoc, List.cons_append, splitUpTo_succ ha,
        List.getElem?_cons_succ]
      exact ih hb (by omega)

end Text

namespace ResourcePattern

/-- What a pattern says in front of its account. -/
def headerOf (scheme partition service region : List Char) : List Char :=
  scheme ++ ':' :: (partition ++ ':' :: (service ++ ':' :: region))

/-- A text of six segments is its header, its account and its resource. -/
theorem HasSegments.eq_header_append {cs : List Char}
    {scheme partition service region account resource : List Char}
    (h : HasSegments cs
      [scheme, partition, service, region, account, resource]) :
    cs = headerOf scheme partition service region ++
        ':' :: (account ++ ':' :: resource) ∧
      (headerOf scheme partition service region).count ':' = 3 ∧
        ':' ∉ account := by
  cases h with
  | intro hscheme hpartition hservice hregion haccount =>
      refine ⟨by simp [headerOf], ?_, haccount⟩
      simp only [headerOf, List.count_append, List.count_cons_self,
        List.count_eq_zero.mpr hscheme, List.count_eq_zero.mpr hpartition,
        List.count_eq_zero.mpr hservice, List.count_eq_zero.mpr hregion]

/-- The account of the pattern stands in the candidate between colons, but
behind more of them than in the pattern: a wildcard in front of the account has
taken in a colon. -/
def Shifts (p : ResourcePattern) (candidate : String) : Prop :=
  ∃ scheme partition service region account resource,
    HasSegments p.text.toList
      [scheme, partition, service, region, account, resource] ∧
    ∃ front back,
      candidate.toList = front ++ ':' :: (account ++ ':' :: back) ∧
        Glob.Matches (headerOf scheme partition service region) front ∧
          3 < front.count ':'

/-- Only a wildcard of the partition, the service or the region can take in
colons that stand in front of the account. -/
theorem Shifts.exists_wildcard {p : ResourcePattern} {candidate : String}
    (h : p.Shifts candidate) :
    ∃ segment ∈ (segments p.text.toList).take 4, '*' ∈ segment := by
  obtain ⟨scheme, partition, service, region, account, resource, hsegments,
    front, back, -, hmatches, hcount⟩ := h
  rw [segments_eq_iff.mpr hsegments]
  by_contra hnone
  have hheader : '*' ∉ headerOf scheme partition service region := by
    simpa [headerOf, not_or] using hnone
  have hfront : front = headerOf scheme partition service region :=
    (Glob.Matches.iff_eq_of_notMem_star hheader).mp hmatches
  have hthree := hsegments.eq_header_append.2.1
  rw [hfront] at hcount
  omega

/-- A pattern whose account segment has no wildcard names its account. -/
theorem exists_account_of_parse {p : ResourcePattern}
    (hparse : parse p.text = .ok p) (hwildcard : ¬p.isAccountWildcard = true) :
    ∃ partition service region account resource,
      HasSegments p.text.toList
        [['a', 'r', 'n'], partition, service, region, account, resource] ∧
      p.accountSegment = some account ∧ '*' ∉ account := by
  have hstar : p.text ≠ "*" := by
    intro h
    exact hwildcard (by simp [isAccountWildcard, h])
  rcases (parse_eq_ok_iff.mp hparse).1.shape with h |
    ⟨partition, service, region, account, resource, hsegments, -, -, -⟩
  · exact absurd h hstar
  · have haccount : p.accountSegment = some account := by
      rw [accountSegment, if_neg hstar, segments_eq_iff.mpr hsegments]
      rfl
    refine ⟨partition, service, region, account, resource, hsegments,
      haccount, ?_⟩
    intro hmem
    apply hwildcard
    simp [isAccountWildcard, haccount, hmem]

/-- A resource that is covered by a pattern which names its account belongs to
this account, or the pattern shifts it. -/
theorem account_eq_or_shifts {p : ResourcePattern} {candidate : String}
    (hparse : parse p.text = .ok p) (hwildcard : ¬p.isAccountWildcard = true)
    (hcovers : p.covers candidate = true) :
    (segments candidate.toList)[4]? = p.accountSegment ∨
      p.Shifts candidate := by
  obtain ⟨partition, service, region, account, resource, hsegments, haccount,
    hstar⟩ := exists_account_of_parse hparse hwildcard
  obtain ⟨htext, hthree, hcolon⟩ := hsegments.eq_header_append
  have hliteral : '*' ∉ ':' :: account ++ [':'] := by
    simp [hstar]
  have hmatches : Glob.Matches
      (headerOf ['a', 'r', 'n'] partition service region ++
        ((':' :: account ++ [':']) ++ resource)) candidate.toList := by
    rw [covers_eq_true_iff, htext] at hcovers
    simpa using hcovers
  obtain ⟨front, tail, hcandidate, hfront, htail⟩ :=
    Glob.Matches.append_left_iff.mp hmatches
  obtain ⟨back, rfl, -⟩ :=
    (Glob.Matches.append_left_iff_of_notMem_star hliteral).mp htail
  have hcandidate' :
      candidate.toList = front ++ ':' :: (account ++ ':' :: back) := by
    rw [hcandidate]
    simp
  have hle : 3 ≤ front.count ':' := by
    rw [← hthree]
    exact hfront.count_le (by decide)
  rcases Nat.eq_or_lt_of_le hle with hfour | hmore
  · left
    rw [haccount, hcandidate']
    exact splitUpTo_getElem?_of_count hfour.symm (by omega) hcolon
  · right
    exact ⟨_, _, _, _, _, _, hsegments, front, back, hcandidate', hfront, hmore⟩

end ResourcePattern

/-! ## Bundles without a finding -/

namespace Role

/-- A broad grant is found at its position. -/
theorem broad_mem_lint {config : LintConfig} {r : Role} {b : Bundle}
    {index : Nat} (hbundle : r.bundles[index]? = some b)
    (hallow : b.effect = .allow) (hbroad : b.isBroad config = true) :
    Finding.broad r (r.trust.conditions.pinsAccount config) b index ∈
      r.lint config := by
  have hmem : Finding.broad r (r.trust.conditions.pinsAccount config) b index ∈
      r.lintBundle config b index :=
    mem_lintBundle_iff.mpr ⟨hallow, Or.inl ⟨hbroad, rfl⟩⟩
  rw [mem_lint_iff, Finding.broad_index]
  exact ⟨b, hbundle, hmem⟩

/-- A bundle about which nothing is found but boundaries is not broad. -/
theorem not_isBroad_of_clean {config : LintConfig} {r : Role} {b : Bundle}
    {index : Nat} (hbundle : r.bundles[index]? = some b)
    (hallow : b.effect = .allow)
    (hclean : ∀ f ∈ r.lint config, f.bundle.index = index →
      f.rule ≠ .overlyBroadGrant ∧ f.rule ≠ .unboundedPrivilege) :
    ¬b.isBroad config = true := by
  intro hbroad
  have hfound := hclean _ (broad_mem_lint hbundle hallow hbroad)
    (Finding.broad_index ..)
  rcases Finding.broad_rule r (r.trust.conditions.pinsAccount config) b index
    with h | h
  · exact hfound.1 h
  · exact hfound.2 h

end Role

namespace Manifest

open ResourcePattern (HasSegments Shifts segments)

/-- A changing grant that the linter lets pass, although some context enjoys it
without any narrowing key, reaches only resources of the account that the
pattern names, those apart in front of whose account a wildcard of the pattern
takes in colons. -/
theorem compile_lint_clean_reaches_account {m : Manifest} {s : Substitutions}
    {c : CompiledRoles} {r : Role} {b : Bundle} {index : Nat}
    {context : RequestContext} {config : LintConfig}
    (hcompile : m.compile s = .ok c) (hrole : r ∈ c.roles)
    (hbundle : r.bundles[index]? = some b) (hallow : b.effect = .allow)
    (hclean : ∀ f ∈ r.lint config, f.bundle.index = index →
      f.rule ≠ .overlyBroadGrant ∧ f.rule ≠ .unboundedPrivilege)
    (hmutating : ∃ a ∈ b.actions, a.isMutating = true)
    (hholds : b.conditions.holds context = true)
    (hfree : ∀ key ∈ context.keys, ¬config.IsNarrowingKey key)
    {p : ResourcePattern} (hp : p ∈ b.resources) {resource : String}
    (hcovers : p.covers resource = true)
    {partition service region account rest : List Char}
    (harn : HasSegments resource.toList
      [['a', 'r', 'n'], partition, service, region, account, rest]) :
    p.accountSegment = some account ∨
      p.Shifts resource ∧
        ∃ segment ∈ (segments p.text.toList).take 4, '*' ∈ segment := by
  have hcomposed := (isComposed_of_compile hcompile hrole).bundles b
    (List.mem_of_getElem? hbundle)
  have hwildcard : ¬p.isAccountWildcard = true := by
    intro h
    apply Role.not_isBroad_of_clean hbundle hallow hclean
    exact hcomposed.isBroad hmutating ⟨p, hp, h⟩ hholds hfree
  have haccount : (segments resource.toList)[4]? = some account := by
    rw [ResourcePattern.segments_eq_iff.mpr harn]
    rfl
  rcases ResourcePattern.account_eq_or_shifts (hcomposed.parsed p hp) hwildcard
    hcovers with h | hshifts
  · exact Or.inl (h.symm.trans haccount)
  · exact Or.inr ⟨hshifts, hshifts.exists_wildcard⟩

/-- A manifest of one role, which deletes a queue of an account in any
region. -/
def sweeper : Manifest where
  catalog := SortedMap.ofList [("sqs", ["DeleteQueue"])]
  roles :=
    [{ name := "Sweeper"
       kind := .operational
       trust := { principal := "datazone.amazonaws.com", conditions := [] }
       permissionBoundary := none
       bundles :=
        [{ sid := none
           effect := "allow"
           actions := ["sqs:DeleteQueue"]
           resources := ["arn:aws:sqs:*:123456789012:jobs"]
           conditions := [] }] }]

/-- The one bundle of its role. -/
def sweeperBundle : Bundle where
  sid := none
  effect := .allow
  actions := SortedSet.singleton ⟨"sqs", "DeleteQueue"⟩
  resources := [⟨"arn:aws:sqs:*:123456789012:jobs"⟩]
  conditions := .unconditional

/-- The one role of the manifest. -/
def sweeperRole : Role where
  name := "Sweeper"
  kind := .operational
  trust := ⟨"datazone.amazonaws.com", .unconditional⟩
  bundles := [sweeperBundle]
  permissionBoundary := none

theorem compile_sweeper :
    sweeper.compile ∅ = .ok ⟨sweeper.actionCatalog, [sweeperRole], ∅⟩ := by
  decide +kernel

/-- The one pattern of the sweeper. -/
def anyRegionJobs : ResourcePattern :=
  ⟨"arn:aws:sqs:*:123456789012:jobs"⟩

/-- A queue of another account, whose name begins like that of the pattern. -/
def foreignQueue : String :=
  "arn:aws:sqs:eu-west-1:999999999999:123456789012:jobs"

theorem foreignQueue_segments :
    HasSegments foreignQueue.toList
      ["arn".toList, "aws".toList, "sqs".toList, "eu-west-1".toList,
        "999999999999".toList, "123456789012:jobs".toList] :=
  ResourcePattern.segments_eq_iff.mp (by decide +kernel)

theorem anyRegionJobs_covers_foreignQueue :
    anyRegionJobs.covers foreignQueue = true := by
  have hmatches : Glob.Matches
      ("arn:aws:sqs:".toList ++ '*' :: ":123456789012:jobs".toList)
      ("arn:aws:sqs:".toList ++
        ("eu-west-1:999999999999".toList ++ ":123456789012:jobs".toList)) :=
    Glob.Matches.append_left_iff.mpr
      ⟨_, _, rfl, .refl _, .star _ (.refl _)⟩
  rw [ResourcePattern.covers_eq_true_iff]
  exact hmatches

/-- The wildcard of the sweeper stands for a region and an account. -/
theorem sweeper_lint_clean_reaches_account :
    let config : LintConfig := {}
    ∃ c, sweeper.compile ∅ = .ok c ∧ sweeperRole ∈ c.roles ∧
      sweeperRole.bundles[0]? = some sweeperBundle ∧
      sweeperBundle.effect = .allow ∧ sweeperRole.lint config = [] ∧
      (∃ a ∈ sweeperBundle.actions, a.isMutating = true) ∧
      sweeperBundle.conditions.holds ∅ = true ∧
      (∀ key ∈ (∅ : RequestContext).keys, ¬config.IsNarrowingKey key) ∧
      anyRegionJobs ∈ sweeperBundle.resources ∧
      anyRegionJobs.covers foreignQueue = true ∧
      (anyRegionJobs.accountSegment = some "999999999999".toList ∨
        anyRegionJobs.Shifts foreignQueue ∧
          ∃ segment ∈ (segments anyRegionJobs.text.toList).take 4,
            '*' ∈ segment) := by
  intro config
  have hrole : sweeperRole ∈ [sweeperRole] :=
    List.mem_singleton_self sweeperRole
  have hbundle : sweeperRole.bundles[0]? = some sweeperBundle := rfl
  have hlint : sweeperRole.lint config = [] := by decide +kernel
  have hclean : ∀ f ∈ sweeperRole.lint config, f.bundle.index = 0 →
      f.rule ≠ .overlyBroadGrant ∧ f.rule ≠ .unboundedPrivilege := by
    rw [hlint]
    exact fun _ hmem => absurd hmem List.not_mem_nil
  have hmutating : ∃ a ∈ sweeperBundle.actions.toList, a.isMutating = true := by
    decide +kernel
  have hholds : sweeperBundle.conditions.holds ∅ = true := rfl
  have hfree : ∀ key ∈ (∅ : RequestContext).keys,
      ¬config.IsNarrowingKey key :=
    fun _ hkey => absurd hkey List.not_mem_nil
  have hp : anyRegionJobs ∈ sweeperBundle.resources := by decide +kernel
  have hreach := compile_lint_clean_reaches_account compile_sweeper hrole
    hbundle rfl hclean hmutating hholds hfree hp
    anyRegionJobs_covers_foreignQueue foreignQueue_segments
  exact ⟨_, compile_sweeper, hrole, hbundle, rfl, hlint, hmutating, hholds,
    hfree, hp, anyRegionJobs_covers_foreignQueue, hreach⟩

/-- Nothing is found about the sweeper, and yet its pattern covers a queue of an
account that no pattern of the bundle names. -/
theorem sweeper_reaches_foreign_account :
    let config : LintConfig := {}
    ∃ c, sweeper.compile ∅ = .ok c ∧ sweeperRole ∈ c.roles ∧
      sweeperBundle ∈ sweeperRole.bundles ∧ sweeperBundle.effect = .allow ∧
      sweeperRole.lint config = [] ∧
      (∃ a ∈ sweeperBundle.actions, a.isMutating = true) ∧
      (∃ context : RequestContext,
        sweeperBundle.conditions.holds context = true ∧
          ∀ key ∈ context.keys, ¬config.IsNarrowingKey key) ∧
      (∃ p ∈ sweeperBundle.resources, p.covers foreignQueue = true) ∧
      ∃ partition service region account rest,
        HasSegments foreignQueue.toList
          [['a', 'r', 'n'], partition, service, region, account, rest] ∧
        ∀ p ∈ sweeperBundle.resources, p.accountSegment ≠ some account := by
  intro config
  have hmutating : ∃ a ∈ sweeperBundle.actions.toList, a.isMutating = true := by
    decide +kernel
  refine ⟨_, compile_sweeper, List.mem_singleton_self _,
    List.mem_singleton_self _, rfl, by decide +kernel, hmutating, ?_,
    ⟨anyRegionJobs, by decide +kernel, anyRegionJobs_covers_foreignQueue⟩,
    _, _, _, _, _, foreignQueue_segments, by decide +kernel⟩
  exact ⟨∅, rfl, fun _ hkey => absurd hkey List.not_mem_nil⟩

end Manifest

end RolePolicy
