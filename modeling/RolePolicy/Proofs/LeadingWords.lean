import RolePolicy.Action.Category
import RolePolicy.Proofs.Sorted

/-!
# Leading words

A verb is put into a category by the word at its front.  No word of the table
begins another one, so a verb has at most one leading word, and the order in
which the table is searched does not matter.  The verbs that change something
are those led by one of eleven words, besides the handing over of a role, which
no word tells.
-/

namespace RolePolicy

namespace Category

/-! ## Words at the front of a verb -/

/-- The verb begins with the word, and ends behind it or goes on with one of the
capital letters from `A` to `Z`. -/
def Leads (word verb : String) : Prop :=
  ∃ rest, verb.toList = word.toList ++ rest ∧
    ∀ c ∈ rest.head?, 'A' ≤ c ∧ c ≤ 'Z'

theorem isLeadingWord_eq_true_iff {word verb : String} :
    isLeadingWord word verb = true ↔ Leads word verb := by
  unfold isLeadingWord Leads
  cases hrest : word.toList.isPrefixOf? verb.toList with
  | none =>
      constructor
      · intro h
        cases h
      · rintro ⟨rest, hverb, -⟩
        have hsome := List.isPrefixOf?_eq_some_iff_append_eq.mpr hverb.symm
        rw [hrest] at hsome
        cases hsome
  | some rest =>
      rw [List.isPrefixOf?_eq_some_iff_append_eq] at hrest
      simp only [← hrest, List.append_cancel_left_eq, exists_eq_left']
      cases rest with
      | nil => simp
      | cons c rest =>
          have hcapital : c.isUpper = true ↔ 'A' ≤ c ∧ c ≤ 'Z' :=
            decide_eq_true_iff
          simp [hcapital]

instance (word verb : String) : Decidable (Leads word verb) :=
  decidable_of_iff _ isLeadingWord_eq_true_iff

variable {word word' verb : String}

/-- Of two words at the front of one verb, one begins the other. -/
theorem Leads.prefix_or_prefix (h : Leads word verb) (h' : Leads word' verb) :
    word.toList <+: word'.toList ∨ word'.toList <+: word.toList := by
  obtain ⟨rest, hverb, -⟩ := h
  obtain ⟨rest', hverb', -⟩ := h'
  exact List.prefix_or_prefix_of_prefix ⟨rest, hverb.symm⟩ ⟨rest', hverb'.symm⟩

/-! ## Tables in which no word begins another -/

/-- Neither of the words begins the other. -/
def Apart (e e' : String × Category) : Prop :=
  ¬e.1.toList <+: e'.1.toList ∧ ¬e'.1.toList <+: e.1.toList

instance : Std.Symm Apart := ⟨fun _ _ h => ⟨h.2, h.1⟩⟩

instance : DecidableRel Apart := fun e e' =>
  inferInstanceAs
    (Decidable (¬e.1.toList <+: e'.1.toList ∧ ¬e'.1.toList <+: e.1.toList))

theorem Apart.not_leads {e e' : String × Category} (h : Apart e e')
    (he : Leads e.1 verb) : ¬Leads e'.1 verb := by
  intro he'
  rcases he.prefix_or_prefix he' with hprefix | hprefix
  · exact h.1 hprefix
  · exact h.2 hprefix

theorem pairwise_apart_leadingWords : leadingWords.Pairwise Apart := by
  decide +kernel

section PrefixFree

variable {table table' : List (String × Category)}

theorem countP_leads_le_one (h : table.Pairwise Apart) (verb : String) :
    table.countP (fun e => decide (Leads e.1 verb)) ≤ 1 := by
  apply countP_le_one_of_pairwise h
  intro e e' he he' hapart
  exact hapart.not_leads (of_decide_eq_true he) (of_decide_eq_true he')

/-- A verb has the category of a leading word, or no word leads it. -/
theorem ofVerb_cases (table : List (String × Category)) (verb : String) :
    (∃ e ∈ table, Leads e.1 verb ∧ ofVerb table verb = e.2) ∨
      (∀ e ∈ table, ¬Leads e.1 verb) ∧ ofVerb table verb = other := by
  unfold ofVerb
  cases hfind : table.find? fun e => isLeadingWord e.1 verb with
  | some e =>
      have htest := List.find?_some hfind
      exact Or.inl ⟨e, List.mem_of_find?_eq_some hfind,
        isLeadingWord_eq_true_iff.mp htest, rfl⟩
  | none =>
      rw [List.find?_eq_none] at hfind
      exact Or.inr ⟨fun e he hleads =>
        hfind e he (isLeadingWord_eq_true_iff.mpr hleads), rfl⟩

/-- A verb has the category of its leading word, wherever it stands in the
table. -/
theorem ofVerb_eq_of_leads (h : table.Pairwise Apart)
    {e : String × Category} (he : e ∈ table) (hleads : Leads e.1 verb) :
    ofVerb table verb = e.2 := by
  rcases ofVerb_cases table verb with ⟨e', he', hleads', heq⟩ | ⟨hnone, -⟩
  · rw [heq]
    by_contra hne
    have hapart := h.forall he' he fun h => hne (congrArg Prod.snd h)
    exact hapart.not_leads hleads' hleads
  · exact absurd hleads (hnone e he)

/-- The order of the table does not matter. -/
theorem ofVerb_eq_of_perm (h : table.Pairwise Apart)
    (hperm : table'.Perm table) (verb : String) :
    ofVerb table' verb = ofVerb table verb := by
  rcases ofVerb_cases table' verb with ⟨e, he, hleads, heq⟩ | ⟨hnone, heq⟩
  · rw [heq, ofVerb_eq_of_leads h (hperm.mem_iff.mp he) hleads]
  · rcases ofVerb_cases table verb with ⟨e, he, hleads, -⟩ | ⟨-, heq'⟩
    · exact absurd hleads (hnone e (hperm.mem_iff.mpr he))
    · rw [heq, heq']

/-- A verb changes something exactly if its leading word says so. -/
theorem isMutating_ofVerb_iff (h : table.Pairwise Apart) (verb : String) :
    (ofVerb table verb).isMutating = true ↔
      ∃ e ∈ table, e.2.isMutating = true ∧ Leads e.1 verb := by
  constructor
  · intro hmutating
    rcases ofVerb_cases table verb with ⟨e, he, hleads, heq⟩ | ⟨-, heq⟩
    · exact ⟨e, he, heq ▸ hmutating, hleads⟩
    · rw [heq] at hmutating
      cases hmutating
  · rintro ⟨e, he, hmutating, hleads⟩
    rwa [ofVerb_eq_of_leads h he hleads]

end PrefixFree

/-! ## Words of change -/

/-- The leading words of verbs that change something. -/
def mutatingWords : List String :=
  ["Create", "Update", "Put", "Modify", "Delete", "Remove", "Attach",
    "Associate", "Add", "Detach", "Disassociate"]

theorem mem_mutatingWords_iff {word : String} :
    word ∈ mutatingWords ↔
      ∃ e ∈ leadingWords, e.2.isMutating = true ∧ e.1 = word := by
  have hwords : mutatingWords =
      (leadingWords.filter fun e => e.2.isMutating).map Prod.fst := rfl
  simp only [hwords, List.mem_map, List.mem_filter, and_assoc]

theorem isMutating_ofVerb_leadingWords_iff (verb : String) :
    (ofVerb leadingWords verb).isMutating = true ↔
      ∃ word ∈ mutatingWords, Leads word verb := by
  rw [isMutating_ofVerb_iff pairwise_apart_leadingWords]
  simp only [mem_mutatingWords_iff]
  constructor
  · rintro ⟨e, he, hmutating, hleads⟩
    exact ⟨e.1, ⟨e, he, hmutating, rfl⟩, hleads⟩
  · rintro ⟨word, ⟨e, he, hmutating, rfl⟩, hleads⟩
    exact ⟨e, he, hmutating, hleads⟩

end Category

namespace Action

open Category

/-- The category of an action by some table of leading words. -/
def categoryIn (table : List (String × Category)) (a : Action) : Category :=
  if a.isPassRole then .passRole else ofVerb table a.verb

theorem isPassRole_iff {a : Action} :
    a.isPassRole = true ↔ a = ⟨"iam", "PassRole"⟩ := by
  cases a
  simp [isPassRole]

theorem category_eq (a : Action) : a.category = a.categoryIn leadingWords :=
  rfl

theorem isMutating_iff {a : Action} :
    a.isMutating = true ↔
      a = ⟨"iam", "PassRole"⟩ ∨ ∃ word ∈ mutatingWords, Leads word a.verb := by
  rw [← isPassRole_iff, ← isMutating_ofVerb_leadingWords_iff, isMutating,
    category]
  by_cases hpass : a.isPassRole = true
  · simp [hpass, Category.isMutating]
  · simp [hpass]

/-- An action has at most one leading word in the table, so that the table may
be listed in any order; and it changes something exactly if it hands over a role
or is led by one of the words of change. -/
theorem category_by_leading_word {table : List (String × Category)}
    (hperm : table.Perm leadingWords) (a : Action) :
    leadingWords.countP (fun e => decide (Leads e.1 a.verb)) ≤ 1 ∧
    a.categoryIn table = a.category ∧
    (a.category.isMutating = true ↔
      a = ⟨"iam", "PassRole"⟩ ∨ ∃ word ∈ mutatingWords, Leads word a.verb) := by
  refine ⟨countP_leads_le_one pairwise_apart_leadingWords a.verb, ?_,
    isMutating_iff⟩
  rw [category_eq, categoryIn, categoryIn,
    ofVerb_eq_of_perm pairwise_apart_leadingWords hperm]

/-- From the end of the table as well, `AssociateAddress` is found to be led by
`Associate`, and `AddressTransfer` not by `Add`. -/
theorem addresses_by_leading_word :
    let associate : Action := ⟨"ec2", "AssociateAddress"⟩
    let transfer : Action := ⟨"ec2", "AddressTransfer"⟩
    leadingWords.reverse.Perm leadingWords ∧
      leadingWords.countP (fun e => decide (Leads e.1 associate.verb)) ≤ 1 ∧
      associate.categoryIn leadingWords.reverse = .attach ∧
      associate.category.isMutating = true ∧
      transfer.categoryIn leadingWords.reverse = .other ∧
      ¬∃ word ∈ mutatingWords, Leads word transfer.verb := by
  intro associate transfer
  have hperm : leadingWords.reverse.Perm leadingWords :=
    leadingWords.reverse_perm
  have hleads : ∃ word ∈ mutatingWords, Leads word associate.verb :=
    ⟨"Associate", by decide +kernel, by decide +kernel⟩
  have hattach : associate.category = .attach := by decide +kernel
  have hother : transfer.category = .other := by decide +kernel
  obtain ⟨hone, hassociate, hmutating⟩ :=
    category_by_leading_word hperm associate
  obtain ⟨-, htransfer, hchanges⟩ := category_by_leading_word hperm transfer
  refine ⟨hperm, hone, hassociate.trans hattach,
    hmutating.mpr (Or.inr hleads), htransfer.trans hother, ?_⟩
  intro hled
  have hmutates := hchanges.mpr (Or.inr hled)
  rw [hother] at hmutates
  cases hmutates

end Action

end RolePolicy
