import RolePolicy.CommandLine.Run
import RolePolicy.Files.Tree
import RolePolicy.Proofs.FirstDefect
import RolePolicy.Proofs.Sorted
import RolePolicy.Proofs.Text.Spelling

/-!
# Attributes laid over a context

Attributes of the command line are grouped by key before they are laid over the
attributes of a file.  Key by key, both steps are simple: a group holds the
values given for its key in their order, and a group takes the place of what the
file says.  The order of the arguments therefore counts among arguments of one
key only.
-/

namespace RolePolicy.CommandLine

/-! ## Reading one attribute -/

/-- An attribute is cut at its first equals sign, and its key is not empty. -/
theorem parseAttribute_eq_ok_iff {text key value : String} :
    parseAttribute text = .ok (key, value) ↔
      key ≠ "" ∧ '=' ∉ key.toList ∧ text = key ++ "=" ++ value := by
  constructor
  · intro h
    unfold parseAttribute at h
    split at h
    · rename_i c front back hsplit
      obtain ⟨rfl, rfl⟩ := Prod.mk.inj (Except.ok.inj h)
      obtain ⟨hsep, htext⟩ := Text.splitFirst_eq_some_iff.mp hsplit
      refine ⟨by simp, by rwa [String.toList_ofList], ?_⟩
      rw [← String.toList_inj, htext]
      simp
    · cases h
  · rintro ⟨hkey, hsep, rfl⟩
    have hsplit : Text.splitFirst '=' (key ++ "=" ++ value).toList =
        some (key.toList, value.toList) :=
      Text.splitFirst_eq_some_iff.mpr ⟨hsep, by simp⟩
    obtain ⟨c, front, hfront⟩ :=
      List.exists_cons_of_ne_nil (mt String.toList_eq_nil_iff.mp hkey)
    rw [parseAttribute, hsplit, hfront]
    simp [← hfront]

/-- An attribute without an equals sign, or with nothing in front of it, is
refused, and the refusal shows it. -/
theorem parseAttribute_eq_error_iff {text : String} {f : Failure} :
    parseAttribute text = .error f ↔
      ('=' ∉ text.toList ∨ text.toList.head? = some '=') ∧
        f = .badRequest ("expected `key=value`, got `" ++ text ++ "`") := by
  rw [parseAttribute]
  rcases hsplit : Text.splitFirst '=' text.toList with _ | ⟨_ | ⟨c, front⟩, back⟩
  · have hnone := Text.splitFirst_eq_none_iff.mp hsplit
    simp [hnone, eq_comm]
  · obtain ⟨-, htext⟩ := Text.splitFirst_eq_some_iff.mp hsplit
    simp [htext, eq_comm]
  · obtain ⟨hfront, htext⟩ := Text.splitFirst_eq_some_iff.mp hsplit
    have hc : c ≠ '=' := fun hc => hfront (hc ▸ List.mem_cons_self)
    simp [htext, hc]

/-- An attribute has an equals sign with a key in front of it. -/
theorem isAttribute_eq_true_iff {text : String} :
    isAttribute text = true ↔
      '=' ∈ text.toList ∧ text.toList.head? ≠ some '=' := by
  rw [isAttribute]
  cases h : parseAttribute text with
  | error f =>
      have hrefused := (parseAttribute_eq_error_iff.mp h).1
      simpa [Except.isOk, Except.toBool, or_iff_not_imp_left] using hrefused
  | ok pair =>
      have haccepted : ¬∃ f, parseAttribute text = .error f := by simp [h]
      simp only [parseAttribute_eq_error_iff] at haccepted
      simpa [Except.isOk, Except.toBool] using haccepted

/-- The words that give an attribute: behind its switch, or attached to it by an
equals sign. -/
inductive GivesAttribute (text : String) : List String → Prop
  | behind (h : Word.read text = .plain text) :
      GivesAttribute text ["--set", text]
  | attached : GivesAttribute text ["--set=" ++ text]

theorem read_attached (text : String) :
    Word.read ("--set=" ++ text) = .named "set" (some text) := by
  have hlist : ("--set=" ++ text).toList =
      '-' :: '-' :: 's' :: 'e' :: 't' :: '=' :: text.toList := by
    rw [String.toList_append]
    rfl
  have hsplit : Text.splitFirst '=' ('s' :: 'e' :: 't' :: '=' :: text.toList) =
      some (['s', 'e', 't'], text.toList) := by
    simp [Text.splitFirst]
  rw [Word.read, hlist]
  simp only [hsplit, String.ofList_toList]

/-- On the command line of a request, an attribute is put behind what has been
given, unless it is refused and the line with it. -/
theorem read_set {level : Level}
    (hlevel : level = simulateLevel ∨ level = assumeLevel) (given : Given)
    (rest : List String) {text : String} {words : List String}
    (hwords : GivesAttribute text words) :
    level.read given (words ++ rest) =
      if '=' ∈ text.toList ∧ text.toList.head? ≠ some '=' then
        level.read (given ++ [("set", text)]) rest
      else .error .usage := by
  have hcommands : ∀ word, level.commands.contains word = false := by
    rcases hlevel with rfl | rfl <;> exact fun _ => rfl
  have hswitch : ∀ value, level.ofName "set" value =
      .ok ({ name := "set", repeats := true, accepts := isAttribute }, value) := by
    rcases hlevel with rfl | rfl <;> exact fun _ => rfl
  simp only [← isAttribute_eq_true_iff]
  conv_lhs => unfold Level.read
  cases hwords with
  | behind hplain =>
      have hword : Word.read "--set" = .named "set" none := by decide
      simp only [List.cons_append, List.nil_append, hcommands, hword, hplain,
        Level.ofWord, hswitch]
      cases haccepts : isAttribute text <;>
        simp [Level.add, haccepts, bind, Except.bind]
  | attached =>
      have hbarrier : "--set=" ++ text ≠ "--" := by
        intro heq
        have hbare : Word.read "--" = .barrier := by decide
        have hread := read_attached text
        rw [heq, hbare] at hread
        cases hread
      simp only [List.cons_append, List.nil_append, hcommands, hbarrier,
        read_attached, Level.ofWord, hswitch]
      cases haccepts : isAttribute text <;>
        simp [Level.add, haccepts, bind, Except.bind]

/-! ## Groups -/

/-- The values given for a key, in their order. -/
def valuesOf (key : String) (pairs : List (String × String)) : List String :=
  (pairs.filter fun pair => pair.1 = key).map Prod.snd

theorem valuesOf_cons (key : String) (pair : String × String)
    (pairs : List (String × String)) :
    valuesOf key (pair :: pairs) =
      if pair.1 = key then pair.2 :: valuesOf key pairs
        else valuesOf key pairs := by
  by_cases h : pair.1 = key <;> simp [valuesOf, h]

/-- The values in the group of a key. -/
def group? (groups : List (String × List String)) (key : String) :
    Option (List String) :=
  (groups.find? fun group => group.1 = key).map Prod.snd

theorem group?_cons (group : String × List String)
    (groups : List (String × List String)) (key : String) :
    group? (group :: groups) key =
      if group.1 = key then some group.2 else group? groups key := by
  by_cases h : group.1 = key <;> simp [group?, h]

/-- A value goes to the end of the group of its key. -/
theorem group?_collect (groups : List (String × List String))
    (key value k : String) :
    group? (collect groups key value) k =
      if key = k then some ((group? groups key).getD [] ++ [value])
        else group? groups k := by
  induction groups with
  | nil => by_cases hk : key = k <;> simp [collect, group?, hk]
  | cons group groups ih =>
      obtain ⟨k', values⟩ := group
      by_cases hkey : k' = key
      · subst hkey
        by_cases hk : k' = k <;> simp [collect, group?_cons, hk]
      · rw [collect, if_neg hkey, group?_cons, group?_cons, group?_cons,
          if_neg hkey, ih]
        by_cases hk : k' = k
        · have hne : key ≠ k := fun h => hkey (hk.trans h.symm)
          simp [hk, hne]
        · simp [hk]

theorem mem_keys_collect {groups : List (String × List String)}
    {key value k : String} :
    k ∈ (collect groups key value).map Prod.fst ↔
      k = key ∨ k ∈ groups.map Prod.fst := by
  induction groups with
  | nil => simp [collect]
  | cons group groups ih =>
      obtain ⟨k', values⟩ := group
      by_cases hkey : k' = key
      · simp [collect, hkey]
      · rw [collect, if_neg hkey, List.map_cons, List.mem_cons, ih,
          List.map_cons, List.mem_cons, or_left_comm]

/-- There is one group for each key. -/
theorem nodup_keys_collect {groups : List (String × List String)}
    (h : (groups.map Prod.fst).Nodup) (key value : String) :
    ((collect groups key value).map Prod.fst).Nodup := by
  induction groups with
  | nil => simp [collect]
  | cons group groups ih =>
      obtain ⟨k', values⟩ := group
      obtain ⟨hnot, hrest⟩ := List.nodup_cons.mp h
      by_cases hkey : k' = key
      · rw [collect, if_pos hkey]
        exact h
      · rw [collect, if_neg hkey, List.map_cons, List.nodup_cons,
          mem_keys_collect]
        exact ⟨not_or.mpr ⟨hkey, hnot⟩, ih hrest⟩

/-- Values that are added to groups follow, key by key, those that are there. -/
theorem group?_foldl_collect (groups : List (String × List String))
    (pairs : List (String × String)) (k : String) :
    group? (pairs.foldl (fun gs pair => collect gs pair.1 pair.2) groups) k =
      if valuesOf k pairs = [] then group? groups k
        else some ((group? groups k).getD [] ++ valuesOf k pairs) := by
  induction pairs generalizing groups with
  | nil => simp [valuesOf]
  | cons pair pairs ih =>
      rw [List.foldl_cons, ih, group?_collect, valuesOf_cons]
      by_cases hk : pair.1 = k
      · by_cases hrest : valuesOf k pairs = [] <;> simp [hk, hrest]
      · simp [hk]

theorem nodup_keys_foldl_collect {groups : List (String × List String)}
    (h : (groups.map Prod.fst).Nodup) (pairs : List (String × String)) :
    ((pairs.foldl (fun gs pair => collect gs pair.1 pair.2) groups).map
      Prod.fst).Nodup := by
  induction pairs generalizing groups with
  | nil => exact h
  | cons pair pairs ih => exact ih (nodup_keys_collect h pair.1 pair.2)

/-- The groups are the values of each key. -/
theorem group?_collectAll (pairs : List (String × String)) (k : String) :
    group? (collectAll pairs) k =
      if valuesOf k pairs = [] then none else some (valuesOf k pairs) := by
  have hempty : group? [] k = none := rfl
  have hgroups := group?_foldl_collect [] pairs k
  rwa [hempty, Option.getD_none, List.nil_append] at hgroups

/-! ## Groups laid over a context -/

/-- The attributes that are given take the place of those of the context, one
value as a single one and several as a list of them; the others stay. -/
structure Overlays (context : RequestContext) (pairs : List (String × String))
    (result : RequestContext) : Prop where
  kept : ∀ key, valuesOf key pairs = [] → result.get? key = context.get? key
  single : ∀ key value, valuesOf key pairs = [value] →
    result.get? key = some (.single value)
  multi : ∀ key, 1 < (valuesOf key pairs).length →
    result.get? key = some (.multi (valuesOf key pairs))

theorem get?_withAttributes (context : RequestContext)
    (pairs : List (String × String)) (key : String) :
    (withAttributes context pairs).get? key =
      if valuesOf key pairs = [] then context.get? key
        else some (attributeValue (valuesOf key pairs)) := by
  have hfold : withAttributes context pairs =
      ((collectAll pairs).map fun group =>
        (group.1, attributeValue group.2)).foldl
          (fun c entry => c.insert entry.1 entry.2) context := by
    rw [List.foldl_map]
    rfl
  have hkeys : (((collectAll pairs).map fun group =>
      (group.1, attributeValue group.2)).map Prod.fst).Nodup := by
    rw [List.map_map]
    have hempty : (([] : List (String × List String)).map Prod.fst).Nodup :=
      List.nodup_nil
    exact nodup_keys_foldl_collect hempty pairs
  have hfind : (((collectAll pairs).map fun group =>
        (group.1, attributeValue group.2)).find? fun entry =>
          entry.1 = key).map Prod.snd =
      (group? (collectAll pairs) key).map attributeValue := by
    rw [List.find?_map, group?, Option.map_map, Option.map_map]
    rfl
  rw [hfold, SortedMap.get?_foldl_insert hkeys, hfind, group?_collectAll]
  by_cases hvalues : valuesOf key pairs = [] <;> simp [hvalues]

theorem overlays_withAttributes (context : RequestContext)
    (pairs : List (String × String)) :
    Overlays context pairs (withAttributes context pairs) := by
  constructor
  · intro key hvalues
    rw [get?_withAttributes, if_pos hvalues]
  · intro key value hvalues
    simp [get?_withAttributes, hvalues, attributeValue]
  · intro key hvalues
    rw [get?_withAttributes]
    rcases hlist : valuesOf key pairs with _ | ⟨first, _ | ⟨second, rest⟩⟩
    · simp [hlist] at hvalues
    · simp [hlist] at hvalues
    · rfl

/-- Arguments in another order are laid over a context alike if those of each key
come in the same order. -/
theorem withAttributes_congr (context : RequestContext)
    {pairs pairs' : List (String × String)}
    (h : ∀ key, (pairs'.filter fun pair => pair.1 = key) =
      pairs.filter fun pair => pair.1 = key) :
    withAttributes context pairs' = withAttributes context pairs := by
  apply SortedMap.ext_get?
  intro key
  rw [get?_withAttributes, get?_withAttributes, valuesOf, h key]
  rfl

/-! ## The context of a request -/

/-- The texts that are given as attributes, in their order. -/
def Given.attributeTexts (given : Given) : List String :=
  given.filterMap fun (name, text) => if name = "set" then some text else none

/-- The pairs of a request are those that its texts spell. -/
theorem Given.pairs_attributes {given : Given} {pairs : List (String × String)}
    (h : (Given.attributeTexts given).mapM parseAttribute = .ok pairs) :
    (Given.attributes given).pairs = pairs := by
  have hpairs : (Given.attributes given).pairs =
      (Given.attributeTexts given).filterMap fun text =>
        (parseAttribute text).toOption := by
    rw [Given.attributes, Given.attributeTexts, List.filterMap_filterMap]
    apply List.filterMap_congr
    rintro ⟨name, text⟩ -
    by_cases hname : name = "set" <;> simp [hname]
  rw [hpairs]
  have hread := mapM_eq_ok_iff.mp h
  have hsome : ∀ text pair, parseAttribute text = .ok pair →
      (parseAttribute text).toOption = some pair :=
    fun _ _ hpair => by rw [hpair]; rfl
  rw [filterMap_eq_of_forall₂ hsome hread, List.filterMap_some]

/-- The file of a request holds the context, and reading it leaves the files in
the second state; a request without a file has the empty context. -/
def AttributeSource.HoldsContext {σ : Type} [FileAccess (StateM σ)]
    (source : AttributeSource) (s s' : σ) (context : RequestContext) : Prop :=
  match source.file with
  | none => context = ∅ ∧ s' = s
  | some path => ∃ text,
    FileAccess.readText? (m := StateM σ) path s = (some text, s') ∧
      RequestContext.ofJsonText text = .ok context

theorem AttributeSource.HoldsContext.load_eq {σ : Type} [FileAccess (StateM σ)]
    {source : AttributeSource} {s s' : σ} {context : RequestContext}
    (h : source.HoldsContext s s' context) :
    source.load (m := StateM σ) s =
      (.ok (withAttributes context source.pairs), s') := by
  unfold HoldsContext at h
  unfold load
  split at h
  · obtain ⟨rfl, rfl⟩ := h
    rename_i hfile
    simp only [hfile]
    rfl
  · obtain ⟨text, hread, hcontext⟩ := h
    rename_i path hfile
    simp only [hfile, bind, StateT.bind, hread, hcontext]
    rfl

/-- The context of a request has, for each key that is given on the command line,
the values given for it in their order in place of what the file says, and for
every other key what the file says.  An attribute is cut at its first equals
sign, and refused without one or without a key, whether it stands behind its switch
or is attached to it; only the order among attributes of one key counts. -/
theorem Given.load_overlays_values_by_key {σ : Type} [FileAccess (StateM σ)]
    {given : Given} {pairs : List (String × String)}
    (haccepted :
      (Given.attributeTexts given).mapM parseAttribute = .ok pairs) :
    (∀ (s s' : σ) (context : RequestContext),
      (Given.attributes given).HoldsContext s s' context →
        ∃ result,
          (Given.attributes given).load (m := StateM σ) s = (.ok result, s') ∧
            Overlays context pairs result) ∧
    (∀ text key value, parseAttribute text = .ok (key, value) ↔
      key ≠ "" ∧ '=' ∉ key.toList ∧ text = key ++ "=" ++ value) ∧
    (∀ text f, parseAttribute text = .error f ↔
      ('=' ∉ text.toList ∨ text.toList.head? = some '=') ∧
        f = .badRequest ("expected `key=value`, got `" ++ text ++ "`")) ∧
    (∀ level, level = simulateLevel ∨ level = assumeLevel →
      ∀ (earlier : Given) (rest : List String) (text : String) words,
        GivesAttribute text words →
          level.read earlier (words ++ rest) =
            if '=' ∈ text.toList ∧ text.toList.head? ≠ some '=' then
              level.read (earlier ++ [("set", text)]) rest
            else .error .usage) ∧
    ∀ (given' : Given) (pairs' : List (String × String)),
      given'.lookup "context" = given.lookup "context" →
      (Given.attributeTexts given').mapM parseAttribute = .ok pairs' →
      (∀ key, (pairs'.filter fun pair => pair.1 = key) =
        pairs.filter fun pair => pair.1 = key) →
      ∀ s : σ, (Given.attributes given').load (m := StateM σ) s =
        (Given.attributes given).load (m := StateM σ) s := by
  refine ⟨?_, fun _ _ _ => parseAttribute_eq_ok_iff,
    fun _ _ => parseAttribute_eq_error_iff,
    fun _ hlevel earlier rest _ _ hwords =>
      read_set hlevel earlier rest hwords, ?_⟩
  · intro s s' context hholds
    refine ⟨withAttributes context pairs, ?_,
      overlays_withAttributes context pairs⟩
    rw [hholds.load_eq, Given.pairs_attributes haccepted]
  · intro given' pairs' hfile haccepted' hsame s
    have hlaid : ∀ context, withAttributes context pairs' =
        withAttributes context pairs :=
      fun context => withAttributes_congr context hsame
    have hfile' : (Given.attributes given').file =
        (Given.attributes given).file := hfile
    simp only [AttributeSource.load, hfile',
      Given.pairs_attributes haccepted, Given.pairs_attributes haccepted',
      hlaid]

/-- The text of a context with three attributes. -/
def stagingText : String :=
  "\x7b \"tag:Env\": [\"prod\", \"test\"], \"aws:TagKeys\": \"Owner\", " ++
    "\"aws:ResourceAccount\": \"111111111111\" \x7d"

/-- The files around a request: its context. -/
def stagingTree : FileTree where
  current := []
  nodes := SortedMap.ofList [(["context.json"], .file stagingText.toUTF8)]

/-- Of the three attributes of the file two are given on the command line, one
of them twice with another attribute in between. -/
theorem staging_load_overlays :
    let given : Given :=
      [("role", "Builder"), ("set", "aws:TagKeys=Team"),
        ("context", "context.json"), ("set", "tag:Env=a=b"),
        ("set", "aws:TagKeys=Project")]
    (Given.attributeTexts given).mapM parseAttribute =
        .ok [("aws:TagKeys", "Team"), ("tag:Env", "a=b"),
          ("aws:TagKeys", "Project")] ∧
      ∃ result,
        (Given.attributes given).load (m := StateM FileTree) stagingTree =
            (.ok result, stagingTree) ∧
          result.get? "tag:Env" = some (.single "a=b") ∧
          result.get? "aws:TagKeys" = some (.multi ["Team", "Project"]) ∧
          result.get? "aws:ResourceAccount" =
            some (.single "111111111111") := by
  intro given
  have haccepted : (Given.attributeTexts given).mapM parseAttribute =
      .ok [("aws:TagKeys", "Team"), ("tag:Env", "a=b"),
        ("aws:TagKeys", "Project")] := by
    decide +kernel
  obtain ⟨hload, -⟩ := Given.load_overlays_values_by_key (σ := FileTree) haccepted
  have hholds : (Given.attributes given).HoldsContext stagingTree stagingTree
      (SortedMap.ofList [("tag:Env", .multi ["prod", "test"]),
        ("aws:TagKeys", .single "Owner"),
        ("aws:ResourceAccount", .single "111111111111")]) :=
    ⟨stagingText, rfl, by decide +kernel⟩
  obtain ⟨result, hresult, hoverlays⟩ := hload _ _ _ hholds
  refine ⟨haccepted, result, hresult, ?_, ?_, ?_⟩
  · exact hoverlays.single _ _ (by decide)
  · exact hoverlays.multi _ (by decide)
  · rw [hoverlays.kept _ (by decide)]
    decide +kernel

end RolePolicy.CommandLine
