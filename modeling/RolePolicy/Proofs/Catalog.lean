import RolePolicy.Action.Catalog
import RolePolicy.Proofs.Sorted
import RolePolicy.Proofs.Text.Spelling

/-!
# What a catalog knows

The spelling that a catalog returns for a verb is the trimmed spelling of its
first registration for the service.  From this one equation follows that the
text of a normalized action is normalized to the same action, and which texts
are known at all.
-/

namespace RolePolicy

open Text

/-! ## Registering verbs -/

namespace VerbTable

theorem get?_addVerb (t : VerbTable) (raw key : String) :
    (t.addVerb raw).get? key =
      if foldCase (trim raw) = key then some ((t.get? key).getD (trim raw))
      else t.get? key := by
  unfold addVerb
  rw [SortedMap.get?_alter]
  by_cases hkey : foldCase (trim raw) = key
  · simp [hkey]
  · simp [hkey]

/-- Of several verbs of one folded spelling the first one stays. -/
theorem get?_foldl_addVerb (verbs : List String) (t : VerbTable)
    (key : String) :
    (verbs.foldl addVerb t).get? key =
      (t.get? key).or
        ((verbs.find? fun raw => foldCase (trim raw) = key).map trim) := by
  induction verbs generalizing t with
  | nil => simp
  | cons raw verbs ih =>
      rw [List.foldl_cons, ih, get?_addVerb]
      by_cases hkey : foldCase (trim raw) = key
      · cases t.get? key <;> simp [hkey]
      · simp [hkey]

end VerbTable

namespace Catalog

/-- All verbs listed for a service of a folded name, in order. -/
def listedVerbs (services : List (String × List String)) (service : String) :
    List String :=
  services.flatMap fun s =>
    if foldCase (trim s.1) = service then s.2 else []

theorem mem_listedVerbs_iff {services : List (String × List String)}
    {service raw : String} :
    raw ∈ listedVerbs services service ↔
      ∃ s ∈ services, foldCase (trim s.1) = service ∧ raw ∈ s.2 := by
  unfold listedVerbs
  rw [List.mem_flatMap]
  refine exists_congr fun s => and_congr_right fun _ => ?_
  by_cases hs : foldCase (trim s.1) = service <;> simp [hs]

theorem spelling?_register (c : Catalog) (name : String) (verbs : List String)
    (service verb : String) :
    (c.register name verbs).spelling? service verb =
      (c.spelling? service verb).or
        (((if foldCase (trim name) = service then verbs else []).find?
          fun raw => foldCase (trim raw) = foldCase verb).map trim) := by
  unfold spelling? register
  rw [SortedMap.get?_alter]
  by_cases hname : foldCase (trim name) = service
  · rw [if_pos hname, if_pos hname, Option.bind_some,
      VerbTable.get?_foldl_addVerb, hname]
    cases c.services.get? service with
    | none => simp
    | some t => simp
  · simp [hname]

theorem spelling?_foldl_register (services : List (String × List String))
    (c : Catalog) (service verb : String) :
    (services.foldl (fun c s => c.register s.1 s.2) c).spelling? service verb =
      (c.spelling? service verb).or
        (((listedVerbs services service).find?
          fun raw => foldCase (trim raw) = foldCase verb).map trim) := by
  induction services generalizing c with
  | nil => simp [listedVerbs]
  | cons s services ih =>
      rw [List.foldl_cons, ih, spelling?_register]
      simp only [listedVerbs, List.flatMap_cons, List.find?_append]
      cases c.spelling? service verb with
      | some known => simp
      | none => simp [Option.map_or]

/-- A catalog spells a verb as its first registration does. -/
theorem spelling?_ofServices (services : List (String × List String))
    (service verb : String) :
    (ofServices services).spelling? service verb =
      ((listedVerbs services service).find?
        fun raw => foldCase (trim raw) = foldCase verb).map trim := by
  have hempty : empty.spelling? service verb = none := rfl
  rw [ofServices, spelling?_foldl_register, hempty, Option.none_or]

theorem spelling?_eq_some {services : List (String × List String)}
    {service verb spelling : String}
    (h : (ofServices services).spelling? service verb = some spelling) :
    ∃ raw ∈ listedVerbs services service,
      foldCase (trim raw) = foldCase verb ∧ trim raw = spelling := by
  rw [spelling?_ofServices, Option.map_eq_some_iff] at h
  obtain ⟨raw, hfind, hraw⟩ := h
  have hfold := List.find?_some hfind
  exact ⟨raw, List.mem_of_find?_eq_some hfind, by simpa using hfold, hraw⟩

theorem spelling?_isSome_iff {services : List (String × List String)}
    {service verb : String} :
    ((ofServices services).spelling? service verb).isSome = true ↔
      ∃ raw ∈ listedVerbs services service,
        foldCase (trim raw) = foldCase verb := by
  rw [spelling?_ofServices, Option.isSome_map, List.find?_isSome]
  simp

theorem knows_iff {c : Catalog} {a : Action} :
    c.knows a = true ↔ c.spelling? a.service a.verb = some a.verb := by
  rw [knows, beq_iff_eq]

/-! ## Normalization -/

theorem normalize?_eq_some_iff {c : Catalog} {raw : String} {a : Action} :
    c.normalize? raw = some a ↔
      ∃ service verb,
        splitFirst ':' (trimChars raw.toList) = some (service, verb) ∧
          a.service = foldCase (String.ofList service) ∧
            c.spelling? a.service (String.ofList verb) = some a.verb := by
  unfold normalize?
  cases hsplit : splitFirst ':' (trimChars raw.toList) with
  | none => simp
  | some parts =>
      obtain ⟨service, verb⟩ := parts
      simp only [Option.map_eq_some_iff, Option.some.injEq, Prod.mk.injEq]
      constructor
      · rintro ⟨spelling, hspelling, rfl⟩
        exact ⟨service, verb, ⟨rfl, rfl⟩, rfl, hspelling⟩
      · rintro ⟨_, _, ⟨rfl, rfl⟩, hservice, hspelling⟩
        rw [hservice] at hspelling
        refine ⟨a.verb, hspelling, ?_⟩
        rw [← hservice]

/-- The text of an action is cut into its service and its verb. -/
theorem splitFirst_text {a : Action} (hcolon : ':' ∉ a.service.toList)
    (hservice : IsTrimmed a.service.toList) (hverb : IsTrimmed a.verb.toList) :
    splitFirst ':' (trimChars a.text.toList) =
      some (a.service.toList, a.verb.toList) := by
  have htext : a.text.toList = a.service.toList ++ ':' :: a.verb.toList := by
    simp [Action.text]
  rw [htext, (hservice.append_cons hverb (by decide)).trimChars_eq,
    splitFirst_eq_some_iff]
  exact ⟨hcolon, rfl⟩

/-- What a catalog normalizes is in normal form: writing the action out and
normalizing again gives the same action. -/
theorem normalize?_text {services : List (String × List String)} {raw : String}
    {a : Action} (h : (ofServices services).normalize? raw = some a) :
    (ofServices services).normalize? a.text = some a := by
  obtain ⟨service, verb, hsplit, hservice, hspelling⟩ :=
    normalize?_eq_some_iff.mp h
  obtain ⟨listed, hlisted, hfold, hverb⟩ := spelling?_eq_some hspelling
  obtain ⟨s, -, hname, -⟩ := mem_listedVerbs_iff.mp hlisted
  have hcolon : ':' ∉ a.service.toList := by
    rw [hservice, foldCase, String.toList_ofList, mem_foldChars_colon_iff,
      String.toList_ofList]
    exact (splitFirst_eq_some_iff.mp hsplit).1
  have htrimService : IsTrimmed a.service.toList := by
    rw [← hname, ← trim_foldCase, trim, String.toList_ofList]
    exact isTrimmed_trimChars _
  have htrimVerb : IsTrimmed a.verb.toList := by
    rw [← hverb, trim, String.toList_ofList]
    exact isTrimmed_trimChars _
  refine normalize?_eq_some_iff.mpr
    ⟨_, _, splitFirst_text hcolon htrimService htrimVerb, ?_, ?_⟩
  · rw [String.ofList_toList, hservice, foldCase_foldCase]
  · rw [String.ofList_toList, ← hspelling, spelling?_ofServices,
      spelling?_ofServices, ← hverb, hfold]

/-! ## Names of actions -/

/-- The spelling of a verb is found for every letter case of it. -/
theorem spelling?_eq_of_foldCase (c : Catalog) (service : String)
    {verb verb' : String} (h : foldCase verb = foldCase verb') :
    c.spelling? service verb = c.spelling? service verb' := by
  unfold spelling?
  rw [h]

end Catalog

namespace Action

/-- The action with its verb in small letters. -/
def folded (a : Action) : Action :=
  ⟨a.service, foldCase a.verb⟩

/-- The service and the verb that a text names, in small letters. -/
def named? (raw : String) : Option Action :=
  (splitFirst ':' (trimChars raw.toList)).map fun parts =>
    ⟨foldCase (String.ofList parts.1), foldCase (String.ofList parts.2)⟩

theorem folded_of_named? {raw : String} {a : Action} (h : named? raw = some a) :
    a.folded = a := by
  obtain ⟨parts, -, rfl⟩ := Option.map_eq_some_iff.mp h
  rw [folded, foldCase_foldCase]

/-- Texts that are equal up to letter case and blank ends name the same
action. -/
theorem named?_eq_of_foldCase {raw raw' : String}
    (h : foldCase (trim raw) = foldCase (trim raw')) :
    named? raw = named? raw' := by
  have hsplit : ∀ text : String, named? text =
      (splitFirst ':' (foldCase (trim text)).toList).map fun parts =>
        ⟨String.ofList parts.1, String.ofList parts.2⟩ := by
    intro text
    rw [named?, trim, foldCase, String.toList_ofList, String.toList_ofList,
      splitFirst_foldChars, Option.map_map]
    simp only [Function.comp_def, Prod.map, foldCase, String.toList_ofList]
  rw [hsplit, hsplit, h]

end Action

namespace Catalog

/-- Normalizing a text looks up the spelling of the action that it names. -/
theorem normalize?_eq_bind (c : Catalog) (raw : String) :
    c.normalize? raw =
      (Action.named? raw).bind fun a =>
        (c.spelling? a.service a.verb).map (Action.mk a.service) := by
  unfold normalize? Action.named?
  cases splitFirst ':' (trimChars raw.toList) with
  | none => rfl
  | some parts =>
      rw [Option.map_some, Option.bind_some,
        c.spelling?_eq_of_foldCase _ (foldCase_foldCase _)]

/-- A text that names an action is normalized to its spelling. -/
theorem normalize?_of_named? (c : Catalog) {raw : String} {a : Action}
    (h : Action.named? raw = some a.folded) :
    c.normalize? raw =
      (c.spelling? a.service a.verb).map (Action.mk a.service) := by
  rw [normalize?_eq_bind, h, Option.bind_some, Action.folded,
    c.spelling?_eq_of_foldCase _ (foldCase_foldCase a.verb)]

/-- What a text is normalized to is the action that it names, and is spelled as
the catalog does. -/
theorem named?_of_normalize? {services : List (String × List String)}
    {raw : String} {a : Action}
    (h : (ofServices services).normalize? raw = some a) :
    Action.named? raw = some a.folded ∧
      (ofServices services).spelling? a.service a.verb = some a.verb := by
  rw [normalize?_eq_bind] at h
  obtain ⟨named, hnamed, h⟩ := Option.bind_eq_some_iff.mp h
  obtain ⟨verb, hspelling, rfl⟩ := Option.map_eq_some_iff.mp h
  obtain ⟨listed, -, hfold, rfl⟩ := spelling?_eq_some hspelling
  have hfolded : (Action.mk named.service (trim listed)).folded = named := by
    rw [← Action.folded_of_named? hnamed, Action.folded, Action.folded, hfold]
  rw [hfolded]
  refine ⟨hnamed, ?_⟩
  rw [← hspelling]
  exact (ofServices services).spelling?_eq_of_foldCase _ hfold

/-- A catalog spells an action in one way. -/
theorem eq_of_folded_eq {c : Catalog} {a a' : Action}
    (ha : c.spelling? a.service a.verb = some a.verb)
    (ha' : c.spelling? a'.service a'.verb = some a'.verb)
    (h : a.folded = a'.folded) : a = a' := by
  obtain ⟨service, verb⟩ := a
  obtain ⟨service', verb'⟩ := a'
  obtain ⟨rfl, hverb⟩ := Action.mk.inj h
  have hspelling := c.spelling?_eq_of_foldCase service hverb
  have hsame : verb = verb' :=
    Option.some.inj (ha.symm.trans (hspelling.trans ha'))
  rw [hsame]

end Catalog

end RolePolicy
