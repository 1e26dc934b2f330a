import Mathlib.Data.Finset.Card
import Mathlib.Data.List.Dedup
import RolePolicy.Proofs.Catalog

/-!
# Runs of registrations

A catalog arises from a run of registrations, which may repeat an action in any
spelling.  What the catalog knows is said in terms of the run alone: a text is
normalized to the spelling of the first registration of the action that it
names, so later registrations change nothing about it, and the catalog has one
verb for each registered action.
-/

namespace RolePolicy

open Text

namespace Catalog

/-! ## First registrations -/

/-- The registrations of a run in order, each the name of a service with a
verb. -/
def registrations (services : List (String × List String)) :
    List (String × String) :=
  services.flatMap fun s => s.2.map fun verb => (s.1, verb)

/-- The action that is registered, in small letters and without blank ends. -/
def registered (e : String × String) : Action :=
  ⟨foldCase (trim e.1), foldCase (trim e.2)⟩

/-- The verb of the action is the trimmed verb of its first registration. -/
def SpelledFirst (services : List (String × List String)) (a : Action) : Prop :=
  ∃ front e back, registrations services = front ++ e :: back ∧
    registered e = a.folded ∧ (∀ e' ∈ front, registered e' ≠ a.folded) ∧
      a.verb = trim e.2

theorem listedVerbs_eq_map (services : List (String × List String))
    (service : String) :
    listedVerbs services service =
      ((registrations services).filter
        fun e => foldCase (trim e.1) = service).map Prod.snd := by
  rw [listedVerbs, registrations, List.filter_flatMap, List.map_flatMap]
  refine List.flatMap_congr fun s _ => ?_
  by_cases hs : foldCase (trim s.1) = service
  · simp [hs, List.filter_map, Function.comp_def]
  · simp [hs, List.filter_map, Function.comp_def]

/-- A catalog has exactly the spellings of first registrations. -/
theorem spelling?_eq_verb_iff {services : List (String × List String)}
    {a : Action} :
    (ofServices services).spelling? a.service a.verb = some a.verb ↔
      SpelledFirst services a := by
  have hfind : (listedVerbs services a.service).find?
        (fun raw => foldCase (trim raw) = foldCase a.verb) =
      ((registrations services).find? fun e => registered e = a.folded).map
        Prod.snd := by
    rw [listedVerbs_eq_map, List.find?_map, List.find?_filter]
    simp only [registered, Action.folded, Action.mk.injEq, Function.comp_def,
      Bool.decide_and, Bool.decide_eq_true]
  rw [spelling?_ofServices, hfind, Option.map_map, Option.map_eq_some_iff]
  simp only [List.find?_eq_some_iff_append, SpelledFirst, Function.comp_apply]
  constructor
  · rintro ⟨e, ⟨he, front, back, hrun, hfront⟩, hverb⟩
    exact ⟨front, e, back, hrun, by simpa using he, by simpa using hfront,
      hverb.symm⟩
  · rintro ⟨front, e, back, hrun, he, hfront, hverb⟩
    exact ⟨e, ⟨by simpa using he, front, back, hrun, by simpa using hfront⟩,
      hverb.symm⟩

/-- A text is normalized to the action that it names, in the spelling of its
first registration. -/
theorem normalize?_eq_some_iff_spelledFirst
    {services : List (String × List String)} {raw : String} {a : Action} :
    (ofServices services).normalize? raw = some a ↔
      Action.named? raw = some a.folded ∧ SpelledFirst services a := by
  rw [← spelling?_eq_verb_iff]
  constructor
  · exact named?_of_normalize?
  · rintro ⟨hnamed, hspelling⟩
    rw [normalize?_of_named? _ hnamed, hspelling]
    rfl

/-! ## Later registrations -/

theorem ofServices_append (services more : List (String × List String)) :
    ofServices (services ++ more) =
      more.foldl (fun c s => c.register s.1 s.2) (ofServices services) :=
  List.foldl_append

/-- Further registrations leave the spelling of a known verb as it is. -/
theorem spelling?_append_of_eq_some
    {services : List (String × List String)} {service verb spelling : String}
    (h : (ofServices services).spelling? service verb = some spelling)
    (more : List (String × List String)) :
    (ofServices (services ++ more)).spelling? service verb = some spelling := by
  rw [ofServices_append, spelling?_foldl_register, h, Option.some_or]

theorem normalize?_append_of_eq_some
    {services : List (String × List String)} {raw : String} {a : Action}
    (h : (ofServices services).normalize? raw = some a)
    (more : List (String × List String)) :
    (ofServices (services ++ more)).normalize? raw = some a := by
  obtain ⟨service, verb, hsplit, hservice, hspelling⟩ :=
    normalize?_eq_some_iff.mp h
  exact normalize?_eq_some_iff.mpr ⟨service, verb, hsplit, hservice,
    spelling?_append_of_eq_some hspelling more⟩

/-! ## The number of actions -/

/-- The actions of a catalog in small letters, service by service. -/
def names (c : Catalog) : List Action :=
  c.services.entries.flatMap fun e => e.2.keys.map (Action.mk e.1)

theorem mem_names_iff {c : Catalog} {a : Action} :
    a ∈ c.names ↔
      ((c.services.get? a.service).bind (·.get? a.verb)).isSome = true := by
  simp only [names, SortedMap.keys, List.mem_flatMap, List.mem_map,
    Option.isSome_iff_exists, Option.bind_eq_some_iff,
    SortedMap.get?_eq_some_iff]
  constructor
  · rintro ⟨⟨service, verbs⟩, he, _, ⟨⟨verb, spelling⟩, hverb, rfl⟩, rfl⟩
    exact ⟨spelling, verbs, he, hverb⟩
  · rintro ⟨spelling, verbs, he, hverb⟩
    exact ⟨_, he, _, ⟨_, hverb, rfl⟩, rfl⟩

/-- Registering adds the actions that are registered. -/
theorem mem_names_register {c : Catalog} {service : String}
    {verbs : List String} {a : Action} :
    a ∈ (c.register service verbs).names ↔
      a ∈ c.names ∨ ∃ verb ∈ verbs, registered (service, verb) = a := by
  have hregistered : ∀ verb, registered (service, verb) = a ↔
      foldCase (trim service) = a.service ∧ foldCase (trim verb) = a.verb := by
    obtain ⟨service', verb'⟩ := a
    simp [registered]
  simp only [mem_names_iff, hregistered, register, SortedMap.get?_alter]
  by_cases hservice : foldCase (trim service) = a.service
  · rw [if_pos hservice, Option.bind_some, VerbTable.get?_foldl_addVerb,
      Option.isSome_or, Bool.or_eq_true, Option.isSome_map, List.find?_isSome,
      hservice]
    cases c.services.get? a.service <;> simp
  · simp [hservice]

/-- After a run the catalog has the actions that have been registered. -/
theorem mem_names_ofServices {services : List (String × List String)}
    {a : Action} :
    a ∈ (ofServices services).names ↔
      a ∈ (registrations services).map registered := by
  induction services using List.reverseRecOn with
  | nil => rfl
  | append_singleton services s ih =>
      rw [ofServices_append, List.foldl_cons, List.foldl_nil,
        mem_names_register, ih]
      simp [registrations]

/-- A catalog lists each of its actions once. -/
theorem nodup_names (c : Catalog) : c.names.Nodup := by
  rw [names, List.nodup_flatMap]
  constructor
  · intro e _
    exact e.2.nodup_keys.map fun _ _ h => (Action.mk.inj h).2
  · apply c.services.ascending.imp
    intro e e' hlt a ha ha'
    obtain ⟨_, -, rfl⟩ := List.mem_map.mp ha
    obtain ⟨_, -, hsame⟩ := List.mem_map.mp ha'
    rw [(Action.mk.inj hsame).1] at hlt
    exact StrictTotalOrder.irrefl e.1 hlt

theorem size_eq_length_flatMap (c : Catalog) :
    c.size = (c.services.values.flatMap SortedMap.entries).length := by
  rw [size, List.length_flatMap, List.sum_eq_foldl_nat, List.foldl_map]
  rfl

theorem size_eq_length_names (c : Catalog) : c.size = c.names.length := by
  rw [size_eq_length_flatMap, names, List.length_flatMap, List.length_flatMap,
    SortedMap.values, List.map_map]
  simp [SortedMap.keys, Function.comp_def]

theorem size_ofServices (services : List (String × List String)) :
    (ofServices services).size =
      ((registrations services).map registered).toFinset.card := by
  have hnames : (ofServices services).names.toFinset =
      ((registrations services).map registered).toFinset := by
    ext a
    rw [List.mem_toFinset, List.mem_toFinset, mem_names_ofServices]
  rw [size_eq_length_names, ← hnames,
    List.toFinset_card_of_nodup (nodup_names _)]

/-- The listing of a catalog has as many verbs as the catalog has actions. -/
theorem length_flatten_entries (c : Catalog) :
    c.entries.values.flatten.length = c.size := by
  rw [size_eq_length_flatMap, List.length_flatten, List.length_flatMap, entries,
    SortedMap.mapValues, SortedMap.values, SortedMap.values, List.map_map,
    List.map_map, List.map_map]
  simp [SortedMap.values, Function.comp_def]

/-- After any run of registrations, what a text is normalized to is known, is
normalized to itself, and stays what the text is normalized to under further
registrations.  It is the action that the text names, spelled as it has been
registered first.  The catalog counts the registered actions up to letter case
and blank ends, and lists as many. -/
theorem registrations_spell_once (services : List (String × List String)) :
    (∀ raw a, (ofServices services).normalize? raw = some a →
      (ofServices services).normalize? a.text = some a ∧
        (ofServices services).knows a = true ∧
        ∀ more, (ofServices (services ++ more)).normalize? raw = some a ∧
          (ofServices (services ++ more)).knows a = true) ∧
    (∀ raw a, (ofServices services).normalize? raw = some a ↔
      Action.named? raw = some a.folded ∧ SpelledFirst services a) ∧
    (ofServices services).size =
      ((registrations services).map registered).toFinset.card ∧
    (ofServices services).size =
      (ofServices services).entries.values.flatten.length := by
  refine ⟨?_, ?_, size_ofServices services, ?_⟩
  · intro raw a h
    have hspelling := (named?_of_normalize? h).2
    refine ⟨normalize?_text h, knows_iff.mpr hspelling, ?_⟩
    intro more
    exact ⟨normalize?_append_of_eq_some h more,
      knows_iff.mpr (spelling?_append_of_eq_some hspelling more)⟩
  · intro raw a
    exact normalize?_eq_some_iff_spelledFirst
  · exact (length_flatten_entries _).symm

/-- A run in which a service and its verbs come in several spellings, one of its
verbs is empty and another one has a colon. -/
def respelledRun : List (String × List String) :=
  [(" IAM ", [" CreateRole", "x:y"]), ("iam", ["createrole ", "", "X:Y"]),
    ("a:b", ["c"]), ("Iam", ["DELETEROLE"])]

/-- Of the seven registrations five are of different actions, and the first
spelling of the creation of roles stays. -/
theorem respelledRun_spells_once :
    let created : Action := ⟨"iam", "CreateRole"⟩
    let later := [("IAM", ["CREATEROLE", "GetRole"])]
    (ofServices respelledRun).normalize? " iam:CREATEROLE\t" = some created ∧
      (ofServices respelledRun).normalize? created.text = some created ∧
      (ofServices respelledRun).knows created = true ∧
      (ofServices (respelledRun ++ later)).normalize? " iam:CREATEROLE\t" =
        some created ∧
      (ofServices (respelledRun ++ later)).knows created = true ∧
      SpelledFirst respelledRun created ∧
      (registrations respelledRun).length = 7 ∧
      ((registrations respelledRun).map registered).toFinset.card = 5 := by
  intro created later
  have hnormalize : (ofServices respelledRun).normalize? " iam:CREATEROLE\t" =
      some created := by
    decide +kernel
  have hlength : (registrations respelledRun).length = 7 := by decide +kernel
  have hfive : (ofServices respelledRun).size = 5 := by decide +kernel
  obtain ⟨hknown, hspelled, hsize, -⟩ := registrations_spell_once respelledRun
  obtain ⟨hself, hknows, hstays⟩ := hknown _ _ hnormalize
  obtain ⟨hstays, hstaysKnown⟩ := hstays later
  exact ⟨hnormalize, hself, hknows, hstays, hstaysKnown,
    ((hspelled _ _).mp hnormalize).2, hlength, hsize.symm.trans hfive⟩

end Catalog

end RolePolicy
