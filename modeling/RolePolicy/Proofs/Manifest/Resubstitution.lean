import RolePolicy.Compiled
import RolePolicy.Proofs.Sorted
import RolePolicy.Proofs.Substituted

/-!
# Substituting a second time

Values are put in between characters that stay, and what arises there is read
again if a manifest is substituted twice.  A value that is not empty, has no
opening, and cannot be one half of an opening together with its neighbours
leaves no trace: the second scan finds the variables that the first one has
kept, and no others.  Under such values substitution is idempotent.
-/

namespace RolePolicy

open Text

/-! ## Texts that open nothing where they are put in -/

namespace Text

/-- The text is not empty and has no opening, neither by itself nor together
with a `$` in front of it or a `{` behind it. -/
structure IsInert (cs : List Char) : Prop where
  ne_nil : cs ≠ []
  unopened : ¬HasOpening cs
  head : cs.head? ≠ some '{'
  last : cs.getLast? ≠ some '$'

instance : DecidablePred IsInert := fun cs =>
  decidable_of_iff
    (cs ≠ [] ∧ ¬HasOpening cs ∧ cs.head? ≠ some '{' ∧ cs.getLast? ≠ some '$')
    ⟨fun h => ⟨h.1, h.2.1, h.2.2.1, h.2.2.2⟩,
      fun h => ⟨h.ne_nil, h.unopened, h.head, h.last⟩⟩

theorem opening_prefix_cons_iff {c : Char} {cs : List Char} :
    opening <+: c :: cs ↔ c = '$' ∧ cs.head? = some '{' := by
  cases cs with
  | nil => simp [opening]
  | cons d cs => simp [opening, List.cons_prefix_cons, eq_comm]

/-- A text that has no opening and does not end in half of one is read as its
characters, whatever follows it. -/
theorem Reads.append_left {cs ds : List Char} {ps : List Piece}
    (h : Reads ds ps) (hunopened : ¬HasOpening cs)
    (hlast : cs.getLast? ≠ some '$') :
    Reads (cs ++ ds) (cs.map Piece.literal ++ ps) := by
  induction cs with
  | nil => exact h
  | cons c cs ih =>
      rw [HasOpening, List.infix_cons_iff, not_or] at hunopened
      obtain ⟨hstart, hrest⟩ := hunopened
      refine Reads.literal ?_ (ih hrest ?_)
      · rw [List.append_eq, opening_prefix_cons_iff]
        rw [opening_prefix_cons_iff] at hstart
        rintro ⟨rfl, hhead⟩
        cases cs with
        | nil => exact hlast rfl
        | cons d cs => exact hstart ⟨rfl, hhead⟩
      · cases cs with
        | nil => simp
        | cons d cs => rwa [List.getLast?_cons_cons] at hlast

end Text

namespace Substitutions

variable {s : Substitutions}

/-- The values of placeholders open nothing where they are put in.  What is bound
to namespaced names does not matter, since it is never put in. -/
def BindsInert (s : Substitutions) : Prop :=
  ∀ name value, s.get? name = some value → ':' ∉ name.toList →
    IsInert value.toList

theorem BindsInert.isInert_value {name : List Char} {value : String}
    (hs : s.BindsInert) (h : s.value? name = some value) :
    IsInert value.toList := by
  unfold value? at h
  by_cases hname : isNamespaced name = true
  · rw [if_pos hname] at h
    cases h
  · rw [if_neg hname] at h
    refine hs _ value h ?_
    rwa [String.toList_ofList, ← List.contains_iff_mem]

/-! ## The second scan -/

/-- The pieces as which a piece is found again after substitution: the
characters of its value, or the piece itself if there is none. -/
def settlePiece (s : Substitutions) : Piece → List Piece
  | .variable name =>
    match s.value? name with
    | some value => value.toList.map .literal
    | none => [.variable name]
  | p => [p]

/-- Substitution puts no `{` in front. -/
theorem BindsInert.head?_eq_brace (hs : s.BindsInert) {cs : List Char}
    {ps : List Piece} (h : Reads cs ps)
    (hhead : (ps.flatMap s.applyPiece).head? = some '{') :
    cs.head? = some '{' := by
  cases h with
  | nil => exact hhead
  | literal _ _ => exact hhead
  | @closed name cs ps hname _ =>
      rw [List.flatMap_cons, applyPiece] at hhead
      cases hvalue : s.value? name with
      | none => simp [hvalue, Piece.render] at hhead
      | some value =>
          have hinert := hs.isInert_value hvalue
          obtain ⟨c, value', hc⟩ := List.exists_cons_of_ne_nil hinert.ne_nil
          have hstart := hinert.head
          simp only [hvalue, hc, List.cons_append, List.head?_cons] at hhead hstart
          exact absurd hhead hstart
  | unclosed _ => simp [applyPiece, Piece.render] at hhead

/-- The second scan finds the pieces that the first one has kept, and the
characters of the values. -/
theorem BindsInert.reads_settled (hs : s.BindsInert) {cs : List Char}
    {ps : List Piece} (h : Reads cs ps) :
    Reads (ps.flatMap s.applyPiece) (ps.flatMap s.settlePiece) := by
  induction h with
  | nil => exact Reads.nil
  | @literal c cs ps hopen hrest ih =>
      refine Reads.literal ?_ ih
      intro hopen'
      obtain ⟨rfl, hhead⟩ := opening_prefix_cons_iff.mp hopen'
      exact hopen
        (opening_prefix_cons_iff.mpr ⟨rfl, hs.head?_eq_brace hrest hhead⟩)
  | @closed name cs ps hname _ ih =>
      rw [List.flatMap_cons, List.flatMap_cons, applyPiece, settlePiece]
      cases hvalue : s.value? name with
      | none =>
          have hkept := Reads.closed hname ih
          rwa [← List.singleton_append, ← List.append_assoc] at hkept
      | some value =>
          have hinert := hs.isInert_value hvalue
          exact ih.append_left hinert.unopened hinert.last
  | unclosed hrest =>
      rw [List.flatMap_singleton, List.flatMap_singleton]
      exact Reads.unclosed hrest

theorem flatMap_applyPiece_settlePiece (p : Piece) :
    (s.settlePiece p).flatMap s.applyPiece = s.applyPiece p := by
  rcases p with c | name | rest
  · rfl
  · rw [settlePiece]
    cases hvalue : s.value? name with
    | none => exact List.flatMap_singleton _ _
    | some value =>
        rw [List.flatMap_map]
        simp [applyPiece, hvalue, Piece.render]
  · exact List.append_nil _

theorem BindsInert.apply_apply (hs : s.BindsInert) (text : String) :
    s.apply (s.apply text) = s.apply text := by
  have hpieces : pieces (s.apply text).toList =
      (pieces text.toList).flatMap s.settlePiece := by
    rw [apply, String.toList_ofList]
    exact (hs.reads_settled (reads_pieces text.toList)).pieces_eq
  rw [apply, hpieces, List.flatMap_assoc]
  simp only [flatMap_applyPiece_settlePiece]
  rfl

/-! ## Manifests -/

theorem BindsInert.applyClause_applyClause (hs : s.BindsInert)
    (c : ClauseSpec) : s.applyClause (s.applyClause c) = s.applyClause c := by
  simp [applyClause, hs.apply_apply]

theorem BindsInert.applyTrust_applyTrust (hs : s.BindsInert) (t : TrustSpec) :
    s.applyTrust (s.applyTrust t) = s.applyTrust t := by
  simp [applyTrust, hs.apply_apply, hs.applyClause_applyClause]

theorem BindsInert.applyBundle_applyBundle (hs : s.BindsInert)
    (b : BundleSpec) : s.applyBundle (s.applyBundle b) = s.applyBundle b := by
  simp [applyBundle, hs.apply_apply, hs.applyClause_applyClause]

theorem BindsInert.applyRole_applyRole (hs : s.BindsInert) (r : RoleSpec) :
    s.applyRole (s.applyRole r) = s.applyRole r := by
  have hboundary : s.apply ∘ s.apply = s.apply := funext hs.apply_apply
  simp [applyRole, hs.applyTrust_applyTrust, hs.applyBundle_applyBundle,
    hboundary]

theorem BindsInert.applyManifest_applyManifest (hs : s.BindsInert)
    (m : Manifest) :
    s.applyManifest (s.applyManifest m) = s.applyManifest m := by
  simp [applyManifest, hs.applyRole_applyRole]

/-- Values that open nothing where they are put in make substitution idempotent,
on texts and on manifests, and a manifest that has been substituted before
compiles into the same roles, or fails with the same report. -/
theorem resubstitution_changes_nothing {s : Substitutions}
    (hs : s.BindsInert) :
    (∀ text : String, s.apply (s.apply text) = s.apply text) ∧
      ∀ m : Manifest, s.applyManifest (s.applyManifest m) = s.applyManifest m ∧
        (s.applyManifest m).compile s = m.compile s := by
  refine ⟨hs.apply_apply, ?_⟩
  intro m
  have hmanifest := hs.applyManifest_applyManifest m
  refine ⟨hmanifest, ?_⟩
  simp only [Manifest.compile, hmanifest]

/-- A deployment whose stage has signs of variables in it, and in which a
namespaced name is bound to a placeholder. -/
def deployment : Substitutions :=
  SortedMap.ofList [("aws:username", "$\x7bstage\x7d"), ("stage", "a$b\x7d")]

/-- A stage between a dollar and a brace, behind which a policy variable and a
placeholder that is opened inside another variable stay. -/
theorem deployment_resubstitution :
    let text := "$$\x7bstage\x7d\x7b$\x7baws:username\x7d$\x7b$\x7bstage\x7d"
    let out := "$a$b\x7d\x7b$\x7baws:username\x7d$\x7b$\x7bstage\x7d"
    deployment.BindsInert ∧ deployment.apply text = out ∧
      deployment.apply out = out ∧
      ∃ c, Manifest.stagedReader.compile deployment = .ok c ∧
        (deployment.applyManifest Manifest.stagedReader).compile deployment =
          .ok c := by
  intro text out
  have hentries : ∀ e ∈ deployment.entries,
      ':' ∉ e.1.toList → IsInert e.2.toList := by
    decide +kernel
  have hinert : deployment.BindsInert := fun name value hget =>
    hentries (name, value) (SortedMap.get?_eq_some_iff.mp hget)
  have hout : deployment.apply text = out := by decide +kernel
  have hcompile : Manifest.stagedReader.compile deployment =
      .ok ⟨Manifest.stagedReader.actionCatalog, [Manifest.stagedReaderRole],
        deployment⟩ := by
    decide +kernel
  obtain ⟨htexts, hmanifests⟩ := resubstitution_changes_nothing hinert
  refine ⟨hinert, hout, ?_, _, hcompile, ?_⟩
  · rw [← hout]
    exact htexts text
  · rw [(hmanifests Manifest.stagedReader).2, hcompile]

-- Values that are empty, begin with a brace, end in a dollar or have an opening
-- may each become part of a variable that only the second scan finds.
example :
    let again (name value text : String) :=
      let s : Substitutions := SortedMap.ofList [(name, value), ("x", "y")]
      (s.apply text, s.apply (s.apply text))
    again "n" "" "$$\x7bn\x7d\x7bx\x7d" = ("$\x7bx\x7d", "y") ∧
      again "n" "\x7bx\x7d" "$$\x7bn\x7d" = ("$\x7bx\x7d", "y") ∧
      again "n" "$" "$\x7bn\x7d\x7bx\x7d" = ("$\x7bx\x7d", "y") ∧
      again "n" "$\x7bx\x7d" "$\x7bn\x7d" = ("$\x7bx\x7d", "y") := by
  decide +kernel

end Substitutions

end RolePolicy
