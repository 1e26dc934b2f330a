import RolePolicy.Proofs.Composed
import RolePolicy.Proofs.Text.Placeholder
import RolePolicy.Proofs.Validity.Conditions

/-!
# Texts after substitution

What is left of placeholders in a compiled role.  Principals, boundaries and
patterns open no variable at all.  The values of conditions may hold policy
variables, and a placeholder can survive only as the end of one: the policy
variable is opened in front of it, and its namespaced name takes the opening of
the placeholder in.
-/

namespace RolePolicy

open Text

/-! ## Values of checked clauses -/

namespace Text

/-- In a text of settled variables a placeholder is the end of a variable that
was namespaced before the placeholder is opened. -/
theorem hasPlaceholder_iff_of_settled {cs : List Char}
    (hsettled : ∀ p ∈ pieces cs, p.IsSettled) :
    HasPlaceholder cs ↔
      ∃ front name, IsPlaceholderName name ∧ ':' ∈ front ∧
        Piece.variable (front ++ opening ++ name) ∈ pieces cs := by
  rw [(reads_pieces cs).hasPlaceholder_iff]
  constructor
  · rintro ⟨p, hp, name, hname, hends⟩
    have hp' := hsettled p hp
    rcases p with c | v | rest
    · have hlength := hends.length_le
      simp [Piece.render] at hlength
    · have hcolon : ':' ∈ v := hp'
      rcases render_suffix_render_variable hends with rfl | ⟨front, rfl⟩
      · exact absurd hcolon hname.notMem_colon
      · refine ⟨front, name, hname, ?_, hp⟩
        have hopening : ':' ∉ opening := by decide
        simpa [hname.notMem_colon, hopening] using hcolon
    · exact hp'.elim
  · rintro ⟨front, name, hname, -, hmem⟩
    refine ⟨_, hmem, name, hname, '$' :: '{' :: front, ?_⟩
    simp [Piece.render, opening]

end Text

namespace Clause

/-- Every variable in a value of a checked clause is closed and namespaced. -/
theorem IsChecked.settled_pieces {c : Clause} (h : c.IsChecked)
    {value : String} (hvalue : value ∈ c.values) :
    ∀ p ∈ pieces value.toList, p.IsSettled := by
  have hreads : IsSettled value := by
    by_cases hnull : c.operator = .null
    · have hplain : ∀ text ∈ ["true", "false"], IsSettled text := by
        have hnone : ∀ text ∈ ["true", "false"], valueDefects "" text = [] := by
          decide
        exact fun text htext => valueDefects_eq_nil_iff.mp (hnone text htext)
      apply hplain
      rcases h.truth hnull with hvalues | hvalues
      · rw [hvalues] at hvalue
        have hmem : value ∈ ["true"] := hvalue
        simp [List.mem_singleton.mp hmem]
      · rw [hvalues] at hvalue
        have hmem : value ∈ ["false"] := hvalue
        simp [List.mem_singleton.mp hmem]
    · have hreports := checkValue_reports c.key value
      rw [← valueDefects_eq_nil_iff, ← hreports.exists_ok_iff]
      exact ⟨(), h.settled hnull value hvalue⟩
  obtain ⟨ps, hps, hsettled⟩ := hreads
  rwa [hps.pieces_eq]

end Clause

/-! ## Compiled roles -/

/-- The clauses of the trust and of the bundles of a role. -/
def Role.clauses (r : Role) : List Clause :=
  r.trust.conditions.clauses ++
    r.bundles.flatMap fun b => b.conditions.clauses

theorem Role.IsComposed.isChecked_of_mem_clauses {catalog : Catalog} {r : Role}
    (h : r.IsComposed catalog) {c : Clause} (hc : c ∈ r.clauses) :
    c.IsChecked := by
  rcases List.mem_append.mp hc with htrust | hbundle
  · exact h.canonical.checked c htrust
  · obtain ⟨b, hb, hcb⟩ := List.mem_flatMap.mp hbundle
    exact (h.bundles b hb).canonical.checked c hcb

theorem ResourcePattern.not_hasOpening_of_parse {p : ResourcePattern}
    (h : parse p.text = .ok p) : ¬HasOpening p.text.toList :=
  (parse_eq_ok_iff.mp h).1.substituted

namespace Manifest

/-- Of the texts of a compiled role only values of conditions can have a
placeholder, and they do exactly if the name of one of their policy variables
has an opening behind its colon and a placeholder's name to its end. -/
theorem compile_hasPlaceholder_iff {m : Manifest} {s : Substitutions}
    {c : CompiledRoles} {r : Role} (hcompile : m.compile s = .ok c)
    (hrole : r ∈ c.roles) :
    ¬HasPlaceholder r.trust.principal.toList ∧
      (∀ p ∈ r.permissionBoundary, ¬HasPlaceholder p.text.toList) ∧
      (∀ b ∈ r.bundles, ∀ p ∈ b.resources, ¬HasPlaceholder p.text.toList) ∧
      ∀ clause ∈ r.clauses, ∀ value ∈ clause.values,
        (HasPlaceholder value.toList ↔
          ∃ front name, IsPlaceholderName name ∧ ':' ∈ front ∧
            Piece.variable (front ++ opening ++ name) ∈
              pieces value.toList) := by
  have hcomposed := isComposed_of_compile hcompile hrole
  refine ⟨?_, ?_, ?_, ?_⟩
  · intro h
    have hprincipal := hcomposed.isPrincipal
    rw [Trust.isPrincipal, opensVariable_eq_true_iff.mpr h.hasOpening] at hprincipal
    simp at hprincipal
  · intro p hp h
    have hparse := (hcomposed.boundary p hp).2
    exact ResourcePattern.not_hasOpening_of_parse hparse h.hasOpening
  · intro b hb p hp h
    have hparse := (hcomposed.bundles b hb).parsed p hp
    exact ResourcePattern.not_hasOpening_of_parse hparse h.hasOpening
  · intro clause hclause value hvalue
    have hchecked := hcomposed.isChecked_of_mem_clauses hclause
    exact hasPlaceholder_iff_of_settled (hchecked.settled_pieces hvalue)

/-- A manifest of one role, which reads objects whose stage is the tag that the
caller has for the stage. -/
def stagedReader : Manifest where
  catalog := SortedMap.ofList [("s3", ["GetObject"])]
  roles :=
    [{ name := "Reader"
       kind := .operational
       trust := { principal := "datazone.amazonaws.com", conditions := [] }
       permissionBoundary := none
       bundles :=
        [{ sid := none
           effect := "allow"
           actions := ["s3:GetObject"]
           resources := ["*"]
           conditions :=
            [{ operator := "StringEquals"
               key := "aws:ResourceTag/stage"
               values := ["$\x7baws:PrincipalTag/$\x7bstage\x7d\x7d"] }] }] }]

/-- The one role of the manifest. -/
def stagedReaderRole : Role where
  name := "Reader"
  kind := .operational
  trust := ⟨"datazone.amazonaws.com", .unconditional⟩
  bundles :=
    [{ sid := none
       effect := .allow
       actions := SortedSet.singleton ⟨"s3", "GetObject"⟩
       resources := [⟨"*"⟩]
       conditions :=
        ⟨[{ operator := .equals
            quantifier := .plain
            key := "aws:ResourceTag/stage"
            values :=
              SortedSet.singleton
                "$\x7baws:PrincipalTag/$\x7bstage\x7d\x7d" }]⟩ }]
  permissionBoundary := none

/-- The stage is known. -/
def stageKnown : Substitutions :=
  SortedMap.ofList [("stage", "prod")]

theorem compile_stagedReader :
    stagedReader.compile stageKnown =
      .ok ⟨stagedReader.actionCatalog, [stagedReaderRole], stageKnown⟩ := by
  decide +kernel

/-- The placeholder of the reader ends the name of a policy variable. -/
theorem stagedReader_hasPlaceholder_iff :
    let value := "$\x7baws:PrincipalTag/$\x7bstage\x7d\x7d"
    ∃ c, stagedReader.compile stageKnown = .ok c ∧
      stagedReaderRole ∈ c.roles ∧
      (∃ clause ∈ stagedReaderRole.clauses, value ∈ clause.values) ∧
      (HasPlaceholder value.toList ↔
        ∃ front name, IsPlaceholderName name ∧ ':' ∈ front ∧
          Piece.variable (front ++ opening ++ name) ∈ pieces value.toList) := by
  intro value
  have hrole : stagedReaderRole ∈ [stagedReaderRole] :=
    List.mem_singleton_self stagedReaderRole
  have hclause : ∃ clause ∈ stagedReaderRole.clauses, value ∈ clause.values := by
    decide +kernel
  obtain ⟨clause, hmem, hvalue⟩ := hclause
  obtain ⟨-, -, -, hvalues⟩ :=
    compile_hasPlaceholder_iff compile_stagedReader hrole
  exact ⟨_, compile_stagedReader, hrole, ⟨clause, hmem, hvalue⟩,
    hvalues clause hmem value hvalue⟩

/-- Although the stage is known, its placeholder is still there after
compilation. -/
theorem stagedReader_keeps_placeholder :
    ∃ c, stagedReader.compile stageKnown = .ok c ∧
      stagedReaderRole ∈ c.roles ∧ stageKnown.get? "stage" = some "prod" ∧
      ∃ clause ∈ stagedReaderRole.clauses, ∃ value ∈ clause.values,
        HasPlaceholder value.toList := by
  have hname : IsPlaceholderName ['s', 't', 'a', 'g', 'e'] :=
    ⟨List.cons_ne_nil _ _, by simp⟩
  have hclause : ∃ clause ∈ stagedReaderRole.clauses, ∃ value ∈ clause.values.toList,
      value = "$\x7baws:PrincipalTag/$\x7bstage\x7d\x7d" := by
    decide +kernel
  obtain ⟨clause, hmem, value, hvalue, rfl⟩ := hclause
  refine ⟨_, compile_stagedReader, List.mem_singleton_self _,
    by decide +kernel, clause, hmem, _, hvalue, _, hname, ?_⟩
  exact ⟨"$\x7baws:PrincipalTag/".toList, ['}'], by decide +kernel⟩

end Manifest

end RolePolicy
