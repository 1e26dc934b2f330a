import RolePolicy.Proofs.Condition.Meaning
import RolePolicy.Proofs.Glob.Parts

/-!
# Stars that a request supplies

The variables of a clause are replaced before its values are read as patterns.
Where the values have no stars of their own, a star can still come with a text
that the request supplies for a variable, and there it stands for any run of
characters.  Nothing else tells `StringLike` from `StringEquals`: the two agree
as long as no such text has a star, whatever is supplied for the key.
-/

namespace RolePolicy

open Text

/-! ## Patterns put in for variables -/

namespace Text

/-- The name stands for a pattern, and the text matches this pattern. -/
def Globbed (R : List Char → List Char → Prop) (name new : List Char) : Prop :=
  ∃ pattern, R name pattern ∧ Glob.Matches pattern new

variable {R S : List Char → List Char → Prop} {cs out : List Char}

/-- A text that matches the edited pattern is made of the characters of the
template and of texts that match what its variables became. -/
theorem Edits.globbed_of_matches {pattern : List Char} (h : Edits R cs pattern)
    (hcs : '*' ∉ cs) (hmatches : Glob.Matches pattern out) :
    Edits (Globbed R) cs out := by
  induction h generalizing out with
  | nil =>
      rw [Glob.Matches.nil_left_iff.mp hmatches]
      exact .nil
  | literal hopen _ ih =>
      have hc := (List.ne_of_not_mem_cons hcs).symm
      obtain ⟨out, rfl, hrest⟩ := (Glob.Matches.cons_left_iff hc).mp hmatches
      exact .literal hopen (ih (List.not_mem_of_not_mem_cons hcs) hrest)
  | closed hname hnew _ ih =>
      obtain ⟨u, v, rfl, hu, hv⟩ := Glob.Matches.append_left_iff.mp hmatches
      have hcs := fun hmem =>
        hcs (List.mem_append_right _ (List.mem_cons_of_mem _ hmem))
      exact .closed hname ⟨_, hnew, hu⟩ (ih hcs hv)
  | unclosed hrest =>
      rw [(Glob.Matches.iff_eq_of_notMem_star hcs).mp hmatches]
      exact .unclosed hrest

/-- The patterns of the variables are put together to one pattern. -/
theorem Edits.exists_matches (h : Edits (Globbed R) cs out) (hcs : '*' ∉ cs) :
    ∃ pattern, Edits R cs pattern ∧ Glob.Matches pattern out := by
  induction h with
  | nil => exact ⟨[], .nil, .nil⟩
  | @literal c _ _ hopen _ ih =>
      have hc := (List.ne_of_not_mem_cons hcs).symm
      obtain ⟨pattern, hedits, hmatches⟩ := ih (List.not_mem_of_not_mem_cons hcs)
      exact ⟨c :: pattern, .literal hopen hedits, .char hc hmatches⟩
  | closed hname hnew _ ih =>
      obtain ⟨new, hnew, hu⟩ := hnew
      obtain ⟨pattern, hedits, hmatches⟩ := ih fun hmem =>
        hcs (List.mem_append_right _ (List.mem_cons_of_mem _ hmem))
      exact ⟨new ++ pattern, .closed hname hnew hedits,
        Glob.Matches.append_left_iff.mpr ⟨_, _, rfl, hu, hmatches⟩⟩
  | unclosed hrest => exact ⟨_, .unclosed hrest, Glob.Matches.refl _⟩

/-- Matching a pattern that was edited from a text without stars is editing this
text, where a variable becomes any text that its own pattern matches. -/
theorem exists_edits_matches_iff (hcs : '*' ∉ cs) :
    (∃ pattern, Edits R cs pattern ∧ Glob.Matches pattern out) ↔
      Edits (Globbed R) cs out := by
  constructor
  · intro h
    obtain ⟨pattern, hedits, hmatches⟩ := h
    exact hedits.globbed_of_matches hcs hmatches
  · intro h
    exact h.exists_matches hcs

/-- Only what becomes of the variables of a text bears on its editing. -/
theorem Edits.imp (h : Edits R cs out)
    (hRS : ∀ name, Mentions cs name → ∀ new, R name new → S name new) :
    Edits S cs out := by
  obtain ⟨texts, htexts, hout⟩ := edits_iff.mp h
  refine edits_iff.mpr ⟨texts, ?_, hout⟩
  refine forall₂_imp_of_mem htexts fun p hp new _ hnew => ?_
  rcases p with c | name | rest
  · exact hnew
  · exact hRS name (mentions_iff.mpr hp) new hnew
  · exact hnew

/-! ## Values of which one is edited to a text -/

/-- One of the values is edited to the text, where `R` replaces its
variables. -/
def EditsOne (R : List Char → List Char → Prop) (values : List String)
    (text : String) : Prop :=
  ∃ value ∈ values, Edits R value.toList text.toList

theorem EditsOne.globbed {R : List Char → List Char → Prop}
    {values : List String} {text : String} (h : EditsOne R values text) :
    EditsOne (Globbed R) values text := by
  obtain ⟨value, hvalue, hedits⟩ := h
  refine ⟨value, hvalue, hedits.imp fun name _ new hnew => ?_⟩
  exact ⟨new, hnew, Glob.Matches.refl new⟩

end Text

namespace RequestContext

/-- No text that the context supplies for a variable of the values has a star. -/
def SuppliesNoStar (context : RequestContext) (values : List String) : Prop :=
  ∀ value ∈ values, ∀ name, Mentions value.toList name →
    ∀ new, context.Supplies name new → '*' ∉ new

theorem SuppliesNoStar.editsOne_globbed_iff {context : RequestContext}
    {values : List String} (h : context.SuppliesNoStar values) {text : String} :
    EditsOne (Globbed context.Supplies) values text ↔
      EditsOne context.Supplies values text := by
  constructor
  · intro hglobbed
    obtain ⟨value, hvalue, hedits⟩ := hglobbed
    refine ⟨value, hvalue, hedits.imp fun name hname new hnew => ?_⟩
    obtain ⟨pattern, hpattern, hmatches⟩ := hnew
    have hplain := h value hvalue name hname pattern hpattern
    rwa [(Glob.Matches.iff_eq_of_notMem_star hplain).mp hmatches]
  · exact EditsOne.globbed

end RequestContext

theorem Quantifier.Asks.imp {quantifier : Quantifier}
    {entry : Option ContextValue} {P Q : String → Prop}
    (h : quantifier.Asks entry P) (hPQ : ∀ v, P v → Q v) :
    quantifier.Asks entry Q := by
  cases quantifier with
  | plain =>
      obtain ⟨e, hentry, hne, hall⟩ := h
      exact ⟨e, hentry, hne, fun v hv => hPQ v (hall v hv)⟩
  | anyValue =>
      obtain ⟨e, hentry, v, hv, hP⟩ := h
      exact ⟨e, hentry, v, hv, hPQ v hP⟩
  | allValues => exact fun e hentry v hv => hPQ v (h e hentry v hv)

theorem Quantifier.asks_congr {quantifier : Quantifier}
    {entry : Option ContextValue} {P Q : String → Prop}
    (hPQ : ∀ v, P v ↔ Q v) :
    quantifier.Asks entry P ↔ quantifier.Asks entry Q :=
  ⟨fun h => h.imp fun v => (hPQ v).mp, fun h => h.imp fun v => (hPQ v).mpr⟩

namespace Clause

/-! ## Clauses of the same key and values -/

variable {raw key : String} {values : List String} {quantifier : Quantifier}

variable {c : Clause}

theorem equals_holds_iff (hspells : Operator.Spells raw quantifier .equals)
    (hparse : parse raw key values = .ok c) (context : RequestContext) :
    c.holds context = true ↔
      c.Resolves context ∧ quantifier.Asks (context.get? key)
        (EditsOne context.Supplies values) := by
  have hchecked := isChecked_of_parse hparse
  obtain ⟨rfl, -⟩ := (parse_eq_ok_iff_of_spells hspells (by decide)).mp hparse
  rw [hchecked.holds_iff_asks (by simp)]
  refine and_congr_right fun _ => Quantifier.asks_congr fun v => ?_
  simp only [Operator.Admits, expected, EditsOne, Set.mem_ofPred_eq,
    SortedSet.mem_ofList]

/-- The values are edited as for `StringEquals`, but a text that is supplied for
a variable is read as a pattern. -/
theorem like_holds_iff (hspells : Operator.Spells raw quantifier .like)
    (hstar : ∀ value ∈ values, '*' ∉ value.toList)
    (hparse : parse raw key values = .ok c) (context : RequestContext) :
    c.holds context = true ↔
      c.Resolves context ∧ quantifier.Asks (context.get? key)
        (EditsOne (Globbed context.Supplies) values) := by
  have hchecked := isChecked_of_parse hparse
  obtain ⟨rfl, -⟩ := (parse_eq_ok_iff_of_spells hspells (by decide)).mp hparse
  rw [hchecked.holds_iff_asks (by simp)]
  refine and_congr_right fun _ => Quantifier.asks_congr fun v => ?_
  simp only [Operator.Admits, expected, EditsOne, Set.mem_ofPred_eq,
    SortedSet.mem_ofList]
  constructor
  · intro h
    obtain ⟨pattern, ⟨value, hvalue, hedits⟩, hmatches⟩ := h
    exact ⟨value, hvalue, (exists_edits_matches_iff (hstar value hvalue)).mp
      ⟨pattern.toList, hedits, hmatches⟩⟩
  · intro h
    obtain ⟨value, hvalue, hedits⟩ := h
    obtain ⟨pattern, hedits, hmatches⟩ :=
      (exists_edits_matches_iff (hstar value hvalue)).mpr hedits
    refine ⟨String.ofList pattern, ⟨value, hvalue, ?_⟩, ?_⟩
    · rwa [String.toList_ofList]
    · rwa [String.toList_ofList]

/-- Of values without stars, `StringLike` and `StringEquals` make clauses that
agree unless the request supplies a star for a variable.  A supplied star stands
for any run at the place of its variable, and this is all that tells them
apart. -/
theorem like_holds_eq_equals_of_starFree {rawLike rawEquals : String}
    (hspellsLike : Operator.Spells rawLike quantifier .like)
    (hspellsEquals : Operator.Spells rawEquals quantifier .equals)
    (hstar : ∀ value ∈ values, '*' ∉ value.toList) :
    ((∃ like, parse rawLike key values = .ok like) ↔
      ∃ equals, parse rawEquals key values = .ok equals) ∧
    ∀ like equals, parse rawLike key values = .ok like →
      parse rawEquals key values = .ok equals →
      ∀ context : RequestContext,
        (context.SuppliesNoStar values →
          like.holds context = equals.holds context) ∧
        (equals.holds context = true → like.holds context = true) ∧
        (like.Resolves context ↔ equals.Resolves context) ∧
        (like.holds context = true ↔
          like.Resolves context ∧ quantifier.Asks (context.get? key)
            (EditsOne (Globbed context.Supplies) values)) ∧
        (equals.holds context = true ↔
          equals.Resolves context ∧ quantifier.Asks (context.get? key)
            (EditsOne context.Supplies values)) := by
  constructor
  · simp only [parse_eq_ok_iff_of_spells hspellsLike (by decide),
      parse_eq_ok_iff_of_spells hspellsEquals (by decide), exists_eq_left]
  · intro like equals hlike hequals context
    have hresolves : like.Resolves context ↔ equals.Resolves context := by
      obtain ⟨rfl, -⟩ :=
        (parse_eq_ok_iff_of_spells hspellsLike (by decide)).mp hlike
      obtain ⟨rfl, -⟩ :=
        (parse_eq_ok_iff_of_spells hspellsEquals (by decide)).mp hequals
      rfl
    have hlike := like_holds_iff hspellsLike hstar hlike context
    have hequals := equals_holds_iff hspellsEquals hequals context
    refine ⟨?_, ?_, hresolves, hlike, hequals⟩
    · intro hplain
      rw [Bool.eq_iff_iff, hlike, hequals, hresolves]
      exact and_congr_right fun _ =>
        Quantifier.asks_congr fun v => hplain.editsOne_globbed_iff
    · rw [hlike, hequals, hresolves]
      exact fun h => ⟨h.1, h.2.imp fun v => EditsOne.globbed⟩

/-! ## The team of the caller as a value -/

/-- The variable of the caller's team. -/
def callerTeam : String :=
  "$\x7baws:PrincipalTag/team\x7d"

/-- Only resources of the caller's own team. -/
def ownTeam (operator : Operator) : Clause where
  operator := operator
  quantifier := .plain
  key := "aws:ResourceTag/team"
  values := SortedSet.singleton callerTeam

/-- The teams of a caller and of a resource. -/
def teams (caller resource : String) : RequestContext :=
  ((∅ : RequestContext).insert "aws:PrincipalTag/team" (.single caller)).insert
    "aws:ResourceTag/team" (.single resource)

theorem get?_caller_teams (caller resource : String) :
    (teams caller resource).get? "aws:PrincipalTag/team" =
      some (.single caller) := by
  simp [teams]

theorem get?_resource_teams (caller resource : String) :
    (teams caller resource).get? "aws:ResourceTag/team" =
      some (.single resource) := by
  simp [teams]

theorem pieces_callerTeam :
    pieces callerTeam.toList = [.variable "aws:PrincipalTag/team".toList] := by
  decide

theorem resolve_callerTeam (caller resource : String) :
    (teams caller resource).resolve callerTeam = some caller := by
  simp [RequestContext.resolve, pieces_callerTeam, RequestContext.resolvePiece,
    RequestContext.sole?, get?_caller_teams, ContextValue.toList]

theorem star_notMem_callerTeam : '*' ∉ callerTeam.toList := by
  simp [callerTeam]

theorem spells_wireName (operator : Operator) :
    Operator.Spells operator.wireName .plain operator :=
  ⟨_, operator.wireName_mem_names, String.empty_append.symm⟩

theorem parse_ownTeam (operator : Operator) (hnull : operator ≠ .null) :
    parse operator.wireName "aws:ResourceTag/team" [callerTeam] =
      .ok (ownTeam operator) := by
  have hkey : isKey "aws:ResourceTag/team" = true := by decide
  have hvalue : checkValue "aws:ResourceTag/team" callerTeam = .ok () := by
    simp [checkValue, pieces_callerTeam, valueFault?, Text.isNamespaced]
  refine (parse_eq_ok_iff_of_spells (spells_wireName operator) hnull).mpr
    ⟨rfl, hkey, List.cons_ne_nil _ _, ?_⟩
  exact List.forall_mem_singleton.mpr hvalue

/-- The team of the resource is compared with the team of the caller. -/
theorem ownTeam_holds (operator : Operator) (hnull : operator ≠ .null)
    (caller resource : String) :
    (ownTeam operator).holds (teams caller resource) =
      operator.passes [caller] resource := by
  have htexts : (ownTeam operator).values.toList.mapM
      (teams caller resource).resolve = some [caller] := by
    have hvalues : (ownTeam operator).values.toList = [callerTeam] := rfl
    simp [hvalues, resolve_callerTeam]
  have hentry : (teams caller resource).get? (ownTeam operator).key =
      some (.single resource) := get?_resource_teams caller resource
  have hplain : (ownTeam operator).quantifier = .plain := rfl
  have hnull : (ownTeam operator).operator ≠ .null := hnull
  simp only [holds, if_neg hnull, htexts, hentry, hplain]
  simp [ContextValue.toList, ownTeam]

/-- A star that comes as the team of a resource is no wildcard. -/
theorem ownTeam_holds_eq_of_starFree :
    parse "StringLike" "aws:ResourceTag/team" [callerTeam] =
        .ok (ownTeam .like) ∧
      parse "StringEquals" "aws:ResourceTag/team" [callerTeam] =
        .ok (ownTeam .equals) ∧
      '*' ∉ callerTeam.toList ∧
      (ownTeam .like).holds (teams "storage" "*") =
        (ownTeam .equals).holds (teams "storage" "*") := by
  have hlike := parse_ownTeam .like (by decide)
  have hequals := parse_ownTeam .equals (by decide)
  have hplain : (teams "storage" "*").SuppliesNoStar [callerTeam] := by
    intro value hvalue name hname new hnew
    obtain rfl := List.mem_singleton.mp hvalue
    rw [mentions_iff, pieces_callerTeam, List.mem_singleton] at hname
    obtain rfl := Piece.variable.inj hname
    obtain ⟨entry, value, hentry, hvalue, rfl⟩ := hnew
    rw [String.ofList_toList, get?_caller_teams] at hentry
    obtain rfl := Option.some.inj hentry
    obtain rfl := List.singleton_inj.mp hvalue
    simp
  have hagree := (like_holds_eq_equals_of_starFree (spells_wireName .like)
    (spells_wireName .equals)
    (List.forall_mem_singleton.mpr star_notMem_callerTeam)).2
      _ _ hlike hequals (teams "storage" "*")
  exact ⟨hlike, hequals, star_notMem_callerTeam, hagree.1 hplain⟩

/-- A star that comes as the team of the caller is one: to `StringLike`, the
teams of all resources are the caller's own. -/
theorem ownTeam_holds_ne :
    parse "StringLike" "aws:ResourceTag/team" [callerTeam] =
        .ok (ownTeam .like) ∧
      parse "StringEquals" "aws:ResourceTag/team" [callerTeam] =
        .ok (ownTeam .equals) ∧
      '*' ∉ callerTeam.toList ∧
      (ownTeam .like).holds (teams "*" "billing") = true ∧
      (ownTeam .equals).holds (teams "*" "billing") = false := by
  have haccepts : Glob.accepts "*" "billing" = true :=
    Glob.accepts_eq_true_iff.mpr (.star "billing".toList .nil)
  refine ⟨parse_ownTeam .like (by decide), parse_ownTeam .equals (by decide),
    star_notMem_callerTeam, ?_, ?_⟩
  · rw [ownTeam_holds .like (by decide)]
    simp [Operator.passes, haccepts]
  · rw [ownTeam_holds .equals (by decide)]
    simp [Operator.passes]

end Clause

end RolePolicy
