import RolePolicy.Proofs.Readback

/-!
# Policy documents in normal form

A statement lists its actions and its resources in ascending order of their
texts, which is not the order of actions: a service may begin like another one
and go on with a character that comes before the colon.  No text is listed
twice, since actions that a catalog knows are told apart by their texts, and no
clause is overwritten by another one, since the clauses of a predicate have
different slots.  A bundle has only one statement of this form.
-/

namespace RolePolicy

open Clause (SlotBefore)

/-! ## Conditions without empty blocks -/

namespace ConditionBlocks

open Predicate (lookup)

variable {blocks blocks' : ConditionBlocks}

/-- Every operator block has some key. -/
def IsFilled (blocks : ConditionBlocks) : Prop :=
  ∀ block keys, blocks.get? block = some keys → keys.entries ≠ []

theorem IsFilled.alter (h : IsFilled blocks) (c : Clause) :
    IsFilled (blocks.alter c.block fun keys =>
      (keys.getD ∅).insert c.key c.values.toList) := by
  intro block keys hkeys
  rw [SortedMap.get?_alter] at hkeys
  by_cases hblock : c.block = block
  · rw [if_pos hblock] at hkeys
    obtain rfl := Option.some.inj hkeys
    have hmem : (c.key, c.values.toList) ∈
        (((blocks.get? c.block).getD ∅).insert c.key c.values.toList).entries := by
      rw [← SortedMap.get?_eq_some_iff, SortedMap.get?_insert, if_pos rfl]
    exact List.ne_nil_of_mem hmem
  · rw [if_neg hblock] at hkeys
    exact h block keys hkeys

/-- A block comes into a condition together with a key. -/
theorem isFilled_blocks (p : Predicate) : IsFilled p.blocks := by
  have hrun : ∀ (clauses : List Clause) (blocks : ConditionBlocks),
      IsFilled blocks → IsFilled (clauses.foldl
        (fun blocks c => blocks.alter c.block fun keys =>
          (keys.getD ∅).insert c.key c.values.toList) blocks) := by
    intro clauses
    induction clauses with
    | nil => exact fun _ h => h
    | cons c clauses ih => exact fun _ h => ih _ (h.alter c)
  apply hrun
  intro block keys hkeys
  rw [SortedMap.get?_empty] at hkeys
  cases hkeys

/-- A block is missing if and only if no key is found in it. -/
theorem IsFilled.get?_eq_none_iff (h : IsFilled blocks) {block : String} :
    blocks.get? block = none ↔ ∀ key, lookup blocks (block, key) = none := by
  constructor
  · intro hnone key
    rw [lookup, hnone, Option.bind_none]
  · intro hnone
    rw [Option.eq_none_iff_forall_ne_some]
    intro keys hkeys
    obtain ⟨⟨key, values⟩, hmem⟩ :=
      List.exists_mem_of_ne_nil _ (h block keys hkeys)
    have hvalues : keys.get? key = some values :=
      SortedMap.get?_eq_some_iff.mpr hmem
    have hlookup := hnone key
    rw [lookup, hkeys, Option.bind_some, hvalues] at hlookup
    cases hlookup

/-- The clauses of a condition tell what stands under each slot. -/
theorem lookup_eq_of_toSpecs_eq (h : toSpecs blocks = toSpecs blocks')
    (slot : String × String) : lookup blocks slot = lookup blocks' slot := by
  apply Option.ext
  intro values
  have hmem := @Predicate.mem_toSpecs_iff blocks ⟨slot.1, slot.2, values⟩
  rw [h, Predicate.mem_toSpecs_iff] at hmem
  exact hmem.symm

/-- Conditions without empty blocks that list the same clauses are equal. -/
theorem IsFilled.eq_of_toSpecs_eq (h : IsFilled blocks)
    (h' : IsFilled blocks') (hspecs : toSpecs blocks = toSpecs blocks') :
    blocks = blocks' := by
  have hlookup := lookup_eq_of_toSpecs_eq hspecs
  apply SortedMap.ext_get?
  intro block
  have hnone : blocks.get? block = none ↔ blocks'.get? block = none := by
    rw [h.get?_eq_none_iff, h'.get?_eq_none_iff]
    simp only [hlookup]
  cases hkeys : blocks.get? block with
  | none => exact (hnone.mp hkeys).symm
  | some keys =>
      obtain ⟨keys', hkeys'⟩ : ∃ keys', blocks'.get? block = some keys' := by
        rw [← Option.ne_none_iff_exists', Ne, ← hnone, hkeys]
        exact Option.some_ne_none keys
      rw [hkeys']
      congr 1
      apply SortedMap.ext_get?
      intro key
      have hsame := hlookup (block, key)
      rwa [lookup, lookup, hkeys, hkeys', Option.bind_some,
        Option.bind_some] at hsame

end ConditionBlocks

/-! ## Statements -/

namespace Statement

/-- The statement says what the bundle consists of: the texts of its actions,
one for each, the texts of its patterns, and one entry for each clause, all of
them in ascending order. -/
structure States (st : Statement) (b : Bundle) : Prop where
  sid : st.sid = b.sid
  effect : st.effect = b.effect
  action_ascending : st.action.Pairwise (· < ·)
  action : st.action.Perm (b.actions.toList.map Action.text)
  resource_ascending : st.resource.Pairwise (· < ·)
  resource : ∀ text, text ∈ st.resource ↔ ∃ p ∈ b.resources, p.text = text
  condition : ConditionBlocks.toSpecs st.condition =
    b.conditions.clauses.map Clause.toSpec
  slots_nodup : ((ConditionBlocks.toSpecs st.condition).map
    ClauseSpec.slot).Nodup
  values_ascending : ∀ s ∈ ConditionBlocks.toSpecs st.condition,
    s.values.Pairwise (· < ·)
  filled : ConditionBlocks.IsFilled st.condition

/-- There is only one statement of a bundle in this form. -/
theorem States.unique {st st' : Statement} {b : Bundle} (h : st.States b)
    (h' : st'.States b) : st = st' := by
  have haction : st.action = st'.action :=
    eq_of_pairwise_of_mem_iff StrictTotalOrder.irrefl
      (fun _ _ => StrictTotalOrder.asymm) h.action_ascending
      h'.action_ascending fun text => (h.action.trans h'.action.symm).mem_iff
  have hresource : st.resource = st'.resource :=
    eq_of_pairwise_of_mem_iff StrictTotalOrder.irrefl
      (fun _ _ => StrictTotalOrder.asymm) h.resource_ascending
      h'.resource_ascending fun text =>
        (h.resource text).trans (h'.resource text).symm
  have hcondition : st.condition = st'.condition :=
    h.filled.eq_of_toSpecs_eq h'.filled (h.condition.trans h'.condition.symm)
  rw [Statement.mk.injEq]
  exact ⟨h.sid.trans h'.sid.symm, h.effect.trans h'.effect.symm, haction,
    hresource, hcondition⟩

end Statement

namespace Bundle

/-- Actions that a catalog knows are told apart by their texts. -/
theorem IsComposed.nodup_action_texts {catalog : Catalog} {b : Bundle}
    (h : b.IsComposed catalog) : (b.actions.toList.map Action.text).Nodup := by
  apply List.pairwise_map.mpr
  apply b.actions.ascending.imp_of_mem
  intro a a' ha ha' hlt htext
  have hnormal := h.normal a ha
  rw [htext, h.normal a' ha'] at hnormal
  rw [Option.some.inj hnormal] at hlt
  exact StrictTotalOrder.irrefl _ hlt

/-- A composed bundle is stated in full. -/
theorem IsComposed.states {catalog : Catalog} {b : Bundle}
    (h : b.IsComposed catalog) : (Statement.ofBundle b).States b := by
  have hspecs : ConditionBlocks.toSpecs b.conditions.blocks =
      b.conditions.clauses.map Clause.toSpec :=
    Predicate.toSpecs_blocks h.canonical
  constructor
  · rfl
  · rfl
  · exact pairwise_mergeSort_lt h.nodup_action_texts
  · exact List.mergeSort_perm ..
  · exact (SortedSet.ofList _).ascending
  · intro text
    rw [← List.mem_map]
    exact mem_ascendingTexts
  · exact hspecs
  · apply List.pairwise_map.mpr
    apply (Predicate.pairwise_toSpecs b.conditions.blocks).imp
    intro s t hst heq
    exact SlotBefore.irrefl _ (heq ▸ hst)
  · intro s hs
    obtain ⟨c, -, rfl⟩ := List.mem_map.mp (hspecs ▸ hs)
    exact c.values.ascending
  · exact ConditionBlocks.isFilled_blocks b.conditions

end Bundle

namespace Manifest

/-- The policy document of a compiled role states its bundles one by one, and
no other document does. -/
theorem compile_policyDocument_states {m : Manifest} {s : Substitutions}
    {c : CompiledRoles} {r : Role} (hcompile : m.compile s = .ok c)
    (hrole : r ∈ c.roles) :
    List.Forall₂ Statement.States r.policyDocument.statements r.bundles ∧
      ∀ d : PolicyDocument,
        List.Forall₂ Statement.States d.statements r.bundles →
          d = r.policyDocument := by
  have hcomposed := isComposed_of_compile hcompile hrole
  have hstates : List.Forall₂ Statement.States r.policyDocument.statements
      r.bundles := by
    show List.Forall₂ _ (r.bundles.map Statement.ofBundle) r.bundles
    rw [List.forall₂_map_left_iff, List.forall₂_same]
    exact fun b hb => (hcomposed.bundles b hb).states
  refine ⟨hstates, ?_⟩
  intro d hd
  have hsame : List.Forall₂ (fun st b => st = Statement.ofBundle b)
      d.statements r.bundles :=
    forall₂_imp_of_mem hd fun _ _ b hb hst =>
      hst.unique (hcomposed.bundles b hb).states
  rw [← List.forall₂_map_right_iff, List.forall₂_eq_eq_eq] at hsame
  exact congrArg PolicyDocument.mk hsame

/-- A manifest of one role with actions of two services, of which the one is
named like the beginning of the other. -/
def archive : Manifest where
  catalog :=
    SortedMap.ofList
      [("s3", ["GetObject", "PutObject"]), ("s3-outposts", ["GetObject"])]
  roles :=
    [{ name := "Archive"
       kind := .operational
       trust := { principal := "datazone.amazonaws.com", conditions := [] }
       permissionBoundary := none
       bundles :=
        [{ sid := some "Objects"
           effect := "allow"
           actions :=
            ["s3:PutObject", "s3:GetObject", "s3-outposts:GetObject",
              "S3:getobject"]
           resources :=
            ["arn:aws:s3:::logs/*", "arn:aws:s3:::data/*",
              "arn:aws:s3:::logs/*"]
           conditions :=
            [{ operator := "StringLike"
               key := "aws:PrincipalTag/team"
               values := ["storage*", "backup*"] }] }] }]

/-- The one role of the manifest. -/
def archiveRole : Role where
  name := "Archive"
  kind := .operational
  trust := ⟨"datazone.amazonaws.com", .unconditional⟩
  bundles :=
    [{ sid := some "Objects"
       effect := .allow
       actions :=
        SortedSet.ofList
          [⟨"s3", "GetObject"⟩, ⟨"s3", "PutObject"⟩, ⟨"s3-outposts", "GetObject"⟩]
       resources :=
        [⟨"arn:aws:s3:::logs/*"⟩, ⟨"arn:aws:s3:::data/*"⟩, ⟨"arn:aws:s3:::logs/*"⟩]
       conditions :=
        ⟨[{ operator := .like
            quantifier := .plain
            key := "aws:PrincipalTag/team"
            values := SortedSet.ofList ["backup*", "storage*"] }]⟩ }]
  permissionBoundary := none

/-- The actions of the archive come in another order than their texts. -/
theorem archive_policyDocument_states :
    ∃ c, archive.compile ∅ = .ok c ∧ archiveRole ∈ c.roles ∧
      List.Forall₂ Statement.States archiveRole.policyDocument.statements
        archiveRole.bundles ∧
      (archiveRole.bundles.map fun b => b.actions.toList.map Action.text) =
        [["s3:GetObject", "s3:PutObject", "s3-outposts:GetObject"]] ∧
      archiveRole.policyDocument.statements.map Statement.action =
        [["s3-outposts:GetObject", "s3:GetObject", "s3:PutObject"]] := by
  have hcompile : archive.compile ∅ =
      .ok ⟨archive.actionCatalog, [archiveRole], ∅⟩ := by
    decide +kernel
  have hrole : archiveRole ∈ [archiveRole] := List.mem_singleton_self archiveRole
  have htexts :
      (archiveRole.bundles.map fun b => b.actions.toList.map Action.text) =
        [["s3:GetObject", "s3:PutObject", "s3-outposts:GetObject"]] := by
    decide +kernel
  have hactions : archiveRole.policyDocument.statements.map Statement.action =
      (archiveRole.bundles.map fun b => b.actions.toList.map Action.text).map
        fun texts => texts.mergeSort fun a b => decide (a ≤ b) :=
    rfl
  obtain ⟨hstates, -⟩ := compile_policyDocument_states hcompile hrole
  refine ⟨_, hcompile, hrole, hstates, htexts, ?_⟩
  rw [hactions, htexts]
  simp [List.mergeSort, List.MergeSort.Internal.splitInTwo]

end Manifest

end RolePolicy
