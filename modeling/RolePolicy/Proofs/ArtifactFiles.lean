import RolePolicy.Artifact.Files
import RolePolicy.Proofs.Files.Tree
import RolePolicy.Proofs.Rendering
import RolePolicy.Proofs.Validity.Manifest

/-!
# Files of artifacts

Every role has two files of its own, since the names of roles differ and what is
put behind them tells the two apart, and none of them is the file of the outputs.
A role name holds no slash, so all files are children of one directory.  Writing
them leaves in each the rendering of its own document and touches nothing else,
in every file system whose operations do what they are for.
-/

namespace RolePolicy

/-! ## Names of artifact files -/

/-- Names with endings of which none ends the other one are different. -/
theorem append_ne_append {ending ending' : String}
    (h : ¬ending.toList <:+ ending'.toList ∧ ¬ending'.toList <:+ ending.toList)
    (name name' : String) : name ++ ending ≠ name' ++ ending' := by
  intro heq
  have hlists := congrArg String.toList heq
  rw [String.toList_append, String.toList_append] at hlists
  rcases List.suffix_or_suffix_of_suffix
    (hlists ▸ List.suffix_append name.toList ending.toList)
    (List.suffix_append name'.toList ending'.toList) with hsuffix | hsuffix
  · exact h.1 hsuffix
  · exact h.2 hsuffix

namespace Artifacts

/-- The names of the files for roles of the given names, in the order in which
they are written. -/
def fileNames (roles : List String) : List String :=
  (roles.flatMap fun name => [name ++ ".policy.json", name ++ ".trust.json"]) ++
    ["outputs.json"]

theorem map_fst_files (a : Artifacts) (pretty : Bool) :
    (a.files pretty).map Prod.fst = fileNames (a.roles.map RoleArtifact.name) := by
  rw [files, List.map_append, List.map_flatMap, fileNames, List.flatMap_map]
  rfl

theorem map_fst_filesIn (a : Artifacts) (directory : String) (pretty : Bool) :
    (a.filesIn directory pretty).map Prod.fst =
      ((a.files pretty).map Prod.fst).map (Path.join directory) := by
  rw [filesIn, List.map_map, List.map_map]
  rfl

/-- No two files have the same name. -/
theorem nodup_fileNames {roles : List String} (h : roles.Nodup) :
    (fileNames roles).Nodup := by
  -- Role names may end like files, but the three kinds of files end differently.
  have hkinds : ∀ name name', name ++ ".policy.json" ≠ name' ++ ".trust.json" := by
    apply append_ne_append
    decide
  have hpolicy : ∀ name, name ++ ".policy.json" ≠ "" ++ "outputs.json" := by
    intro name
    apply append_ne_append
    decide
  have htrust : ∀ name, name ++ ".trust.json" ≠ "" ++ "outputs.json" := by
    intro name
    apply append_ne_append
    decide
  rw [fileNames, List.nodup_append]
  refine ⟨?_, List.nodup_singleton _, ?_⟩
  · rw [List.nodup_flatMap]
    refine ⟨fun name _ => by simp [hkinds], h.imp ?_⟩
    intro name name' hne file hfile hfile'
    simp only [List.mem_cons, List.not_mem_nil, or_false] at hfile hfile'
    rcases hfile with rfl | rfl <;> rcases hfile' with heq | heq
    · exact hne ((String.append_left_inj _).mp heq)
    · exact hkinds _ _ heq
    · exact hkinds _ _ heq.symm
    · exact hne ((String.append_left_inj _).mp heq)
  · intro file hfile other hother
    rw [List.mem_singleton] at hother
    obtain ⟨name, -, hname⟩ := List.mem_flatMap.mp hfile
    simp only [List.mem_cons, List.not_mem_nil, or_false] at hname
    rcases hname with rfl | rfl
    · exact hother ▸ hpolicy name
    · exact hother ▸ htrust name

theorem isPlain_of_mem_fileNames {roles : List String}
    (h : ∀ name ∈ roles, '/' ∉ name.toList) {file : String}
    (hfile : file ∈ fileNames roles) : Path.IsPlain file := by
  rw [fileNames, List.mem_append, List.mem_singleton, List.mem_flatMap] at hfile
  rcases hfile with ⟨name, hname, hfile⟩ | rfl
  · simp only [List.mem_cons, List.not_mem_nil, or_false] at hfile
    rcases hfile with rfl | rfl
    · exact .of_append (h name hname) (by decide) (by decide)
    · exact .of_append (h name hname) (by decide) (by decide)
  · constructor <;> decide

end Artifacts

theorem Role.not_mem_slash_of_isName {name : String} (h : isName name = true) :
    '/' ∉ name.toList := by
  intro hslash
  rcases (isName_eq_true_iff.mp h).chars '/' hslash with hchar | hchar
  · exact absurd hchar (by decide)
  · exact absurd hchar (by decide)

/-! ## Runs of writes -/

namespace Artifacts

variable {σ : Type} [FileAccess (StateM σ)]

/-- A run that succeeds creates the directory and writes all files, and returns
their paths. -/
theorem writeTo_eq_ok {a : Artifacts} {directory : String} {pretty : Bool}
    {files files' : σ} {written : List String}
    (h : a.writeTo (m := StateM σ) directory pretty files = (.ok written, files')) :
    written = (a.filesIn directory pretty).map Prod.fst ∧
      ∃ between,
        FileAccess.makeDirectories (m := StateM σ) directory files =
            (true, between) ∧
          writeAll (m := StateM σ) (a.filesIn directory pretty) between =
            (true, files') := by
  rw [writeTo, stateM_bind] at h
  rcases hmade : FileAccess.makeDirectories (m := StateM σ) directory files with
    ⟨_ | _, between⟩
  · rw [hmade] at h
    cases h
  rw [hmade, if_pos rfl, stateM_bind] at h
  rcases hwritten : writeAll (m := StateM σ) (a.filesIn directory pretty) between
    with ⟨_ | _, last⟩
  · rw [hwritten] at h
    cases h
  · rw [hwritten] at h
    obtain ⟨hpaths, rfl⟩ := Prod.mk.inj h
    exact ⟨(Except.ok.inj hpaths).symm, between, rfl, hwritten⟩

/-- Files of which each can be written are all written. -/
theorem exists_writeAll {list : List (String × String)}
    (h : ∀ file ∈ list, ∀ files,
      (FileAccess.write (m := StateM σ) file.1 file.2 files).1 = true)
    (files : σ) : ∃ files', writeAll (m := StateM σ) list files = (true, files') := by
  induction list generalizing files with
  | nil => exact ⟨files, rfl⟩
  | cons file list ih =>
      obtain ⟨hfile, hlist⟩ := List.forall_mem_cons.mp h
      rw [writeAll, stateM_bind, if_pos (hfile files)]
      exact ih hlist _

/-- Artifacts are written where the directory can be created and every file in it
can be written. -/
theorem exists_writeTo {a : Artifacts} {directory : String} {pretty : Bool}
    (hdirectory : ∀ files,
      (FileAccess.makeDirectories (m := StateM σ) directory files).1 = true)
    (hwrite : ∀ path ∈ (a.filesIn directory pretty).map Prod.fst,
      ∀ text files, (FileAccess.write (m := StateM σ) path text files).1 = true)
    (files : σ) :
    ∃ files', a.writeTo (m := StateM σ) directory pretty files =
      (.ok ((a.filesIn directory pretty).map Prod.fst), files') := by
  rw [List.forall_mem_map] at hwrite
  obtain ⟨files', hwritten⟩ := exists_writeAll
    (fun file hfile => hwrite file hfile file.2)
    (FileAccess.makeDirectories (m := StateM σ) directory files).2
  refine ⟨files', ?_⟩
  rw [writeTo, stateM_bind, if_pos (hdirectory files), stateM_bind, hwritten]
  rfl

variable {view : FileView σ}

theorem writesAll_of_writeAll (hview : view.IsLawful)
    {list : List (String × String)} {files files' : σ}
    (h : writeAll (m := StateM σ) list files = (true, files')) :
    view.WritesAll files list files' := by
  induction list generalizing files with
  | nil =>
      obtain rfl : files = files' := (Prod.mk.inj h).2
      exact .nil view files
  | cons file list ih =>
      rw [writeAll, stateM_bind] at h
      rcases hfirst : FileAccess.write (m := StateM σ) file.1 file.2 files
        with ⟨_ | _, next⟩
      · rw [hfirst] at h
        cases h
      · rw [hfirst, if_pos rfl] at h
        exact (hview.write _ _ _ _ hfirst).cons (ih h)

/-- Artifacts whose files have different plain names are written each with its
own text, and nothing else but new directories changes. -/
theorem find?_of_writeTo (hview : view.IsLawful) {a : Artifacts}
    {directory : String} {pretty : Bool} {files files' : σ} {written : List String}
    (hnames : ((a.files pretty).map Prod.fst).Nodup)
    (hplain : ∀ file ∈ a.files pretty, Path.IsPlain file.1)
    (h : a.writeTo (m := StateM σ) directory pretty files =
      (.ok written, files')) :
    (view.NamesApart directory files → ∀ file ∈ a.files pretty,
      view.find? files' (Path.join directory file.1) =
        some (.file file.2.toUTF8)) ∧
    ∀ other, (∀ path ∈ written, view.place? files' path ≠ some other) →
      view.node? files' other = view.node? files other ∨
        view.node? files other = none ∧
          view.node? files' other = some .directory := by
  obtain ⟨rfl, between, hmade, hwritten⟩ := writeTo_eq_ok h
  obtain ⟨hgrows, hkeeps⟩ := hview.makeDirectories _ _ _ hmade
  have hwrites := writesAll_of_writeAll hview hwritten
  constructor
  · intro hdistinct file hfile
    have hapart : (a.filesIn directory pretty).Pairwise fun f g =>
        ∀ place, view.place? between f.1 = some place →
          view.place? between g.1 ≠ some place := by
      rw [filesIn, List.pairwise_map]
      apply (List.pairwise_map.mp hnames).imp_of_mem
      intro f g hf hg hne
      exact hkeeps hdistinct _ _ (hplain f hf) (hplain g hg) hne
    exact hwrites.written hapart _ (List.mem_map_of_mem hfile)
  · intro other hother
    have hkept : view.node? files' other = view.node? between other := by
      apply hwrites.others other
      intro file hfile
      rw [← hwrites.places]
      exact hother file.1 (List.mem_map_of_mem hfile)
    rw [hkept]
    exact hgrows other

end Artifacts

/-! ## Files in a tree -/

namespace FileTree

/-- A name in a directory is that of a child with the text. -/
structure HoldsFile (tree : FileTree) (directory : String)
    (place : List String) (name text : String) : Prop where
  leads : tree.resolve (Path.join directory name) = some (place ++ [name])
  content : tree.node? (place ++ [name]) = some (.file text.toUTF8)

theorem holdsFile_of_find? {tree : FileTree} {directory name text : String}
    (hname : Path.IsPlain name)
    (h : view.find? tree (Path.join directory name) = some (.file text.toUTF8)) :
    ∃ place, tree.resolve (Path.orCurrent directory) = some place ∧
      tree.hasDirectory place = true ∧
      tree.HoldsFile directory place name text := by
  obtain ⟨child, hchild, hcontent⟩ := Option.bind_eq_some_iff.mp h
  obtain ⟨place, hplace, hdirectory, rfl⟩ := resolve_join hname hchild
  exact ⟨place, hplace, hdirectory, hchild, hcontent⟩

/-- Named files that are found in a directory are children of the place to which
its path leads. -/
theorem exists_holdsFile {tree : FileTree} {directory : String}
    {list : List (String × String)} (hne : list ≠ [])
    (hnames : ∀ file ∈ list, Path.IsPlain file.1)
    (h : ∀ file ∈ list, view.find? tree (Path.join directory file.1) =
      some (.file file.2.toUTF8)) :
    ∃ place, tree.resolve (Path.orCurrent directory) = some place ∧
      tree.hasDirectory place = true ∧
      ∀ file ∈ list, tree.HoldsFile directory place file.1 file.2 := by
  obtain ⟨first, hfirst⟩ := List.exists_mem_of_ne_nil list hne
  obtain ⟨place, hplace, hdirectory, -⟩ :=
    holdsFile_of_find? (hnames first hfirst) (h first hfirst)
  refine ⟨place, hplace, hdirectory, ?_⟩
  intro file hfile
  obtain ⟨place', hplace', -, hholds⟩ :=
    holdsFile_of_find? (hnames file hfile) (h file hfile)
  obtain rfl : place' = place := Option.some.inj (hplace'.symm.trans hplace)
  exact hholds

end FileTree

/-! ## The files of compiled roles -/

/-- Each document of the roles has its rendering in the file that is named for
it, and so have the outputs. -/
structure CompiledRoles.AreRendered (c : CompiledRoles) (pretty : Bool)
    (has : String → String → Prop) : Prop where
  policies : ∀ r ∈ c.roles, ∃ text,
    Renders PolicyDocument.toJson pretty r.policyDocument text ∧
      has (r.name ++ ".policy.json") text
  trusts : ∀ r ∈ c.roles, ∃ text,
    Renders TrustDocument.toJson pretty r.trustDocument text ∧
      has (r.name ++ ".trust.json") text
  outputs : ∃ text, Renders Artifacts.outputsToJson pretty c.outputs text ∧
    has "outputs.json" text

/-- The files of the artifacts are renderings of the documents. -/
theorem CompiledRoles.areRendered_of_forall_mem_files {c : CompiledRoles}
    {pretty : Bool} {has : String → String → Prop}
    (h : ∀ file ∈ c.artifacts.files pretty, has file.1 file.2) :
    c.AreRendered pretty has := by
  obtain ⟨hroles, houtputs⟩ := List.forall_mem_append.mp h
  have hrole : ∀ r ∈ c.roles,
      has (r.name ++ ".policy.json")
          (Artifacts.fileText pretty r.policyDocument.toJson) ∧
        has (r.name ++ ".trust.json")
          (Artifacts.fileText pretty r.trustDocument.toJson) := by
    intro r hr
    have hfiles := List.forall_mem_flatMap.mp hroles (c.artifact r)
      (List.mem_map_of_mem hr)
    obtain ⟨hpolicy, hrest⟩ := List.forall_mem_cons.mp hfiles
    exact ⟨hpolicy, hrest _ List.mem_cons_self⟩
  constructor
  · exact fun r hr => ⟨_, r.policyDocument.renders pretty, (hrole r hr).1⟩
  · exact fun r hr => ⟨_, r.trustDocument.renders pretty, (hrole r hr).2⟩
  · exact ⟨_, Artifacts.renders_outputs c.outputs pretty,
      houtputs _ List.mem_cons_self⟩

namespace Manifest

open Artifacts (fileNames)

section Compiled

variable {m : Manifest} {s : Substitutions} {c : CompiledRoles}

theorem map_fst_files_of_compile (h : m.compile s = .ok c) (pretty : Bool) :
    (c.artifacts.files pretty).map Prod.fst =
      fileNames (m.roles.map RoleSpec.name) := by
  rw [Artifacts.map_fst_files, CompiledRoles.artifacts, List.map_map,
    ← map_name_of_compile h]
  rfl

theorem nodup_fileNames_of_compile (h : m.compile s = .ok c) :
    (fileNames (m.roles.map RoleSpec.name)).Nodup := by
  rw [← map_name_of_compile h]
  exact Artifacts.nodup_fileNames (nodup_names_of_compile h)

theorem isPlain_of_compile (h : m.compile s = .ok c) {name : String}
    (hname : name ∈ fileNames (m.roles.map RoleSpec.name)) :
    Path.IsPlain name := by
  apply Artifacts.isPlain_of_mem_fileNames _ hname
  rw [← map_name_of_compile h, List.forall_mem_map]
  intro r hr
  exact Role.not_mem_slash_of_isName (isComposed_of_compile h hr).isName

end Compiled

/-- The files of the artifacts of a manifest that compiles have different paths,
two for each role in the order of the manifest and one for the outputs, all of
them children of the directory, and they are returned if every one can be written.
A run that succeeds changes nothing else but that directories may be created, and
where no name in the directory is a link, it leaves in each file the rendering of
its own document; so it does in a tree, where the files are children of the place
to which the path of the directory leads. -/
theorem writeTo_keeps_files_apart {m : Manifest} {s : Substitutions}
    {c : CompiledRoles} (h : m.compile s = .ok c) (directory : String)
    (pretty : Bool) :
    let names := fileNames (m.roles.map RoleSpec.name)
    (names.map (Path.join directory)).Nodup ∧
    (∀ name ∈ names, Path.IsPlain name) ∧
    (∀ {σ : Type} [FileAccess (StateM σ)],
      (∀ files,
        (FileAccess.makeDirectories (m := StateM σ) directory files).1 = true) →
      (∀ path ∈ names.map (Path.join directory), ∀ text files,
        (FileAccess.write (m := StateM σ) path text files).1 = true) →
      ∀ files, ∃ files', c.artifacts.writeTo (m := StateM σ) directory pretty files =
        (.ok (names.map (Path.join directory)), files')) ∧
    (∀ {σ : Type} [FileAccess (StateM σ)] (files files' : σ) written,
      c.artifacts.writeTo (m := StateM σ) directory pretty files =
          (.ok written, files') →
        written = names.map (Path.join directory) ∧
        ∀ view : FileView σ, view.IsLawful →
          (view.NamesApart directory files →
            c.AreRendered pretty fun name text =>
              FileAccess.read? (m := StateM σ) (Path.join directory name) files' =
                (some text.toUTF8, files')) ∧
          ∀ other, (∀ path ∈ written, view.place? files' path ≠ some other) →
            view.node? files' other = view.node? files other ∨
              view.node? files other = none ∧
                view.node? files' other = some .directory) ∧
    ∀ (tree tree' : FileTree) written,
      c.artifacts.writeTo (m := StateM FileTree) directory pretty tree =
          (.ok written, tree') →
      ∃ place, tree'.resolve (Path.orCurrent directory) = some place ∧
        tree'.hasDirectory place = true ∧
        c.AreRendered pretty (tree'.HoldsFile directory place) ∧
        ∀ other, (∀ path ∈ written, tree'.resolve path ≠ some other) →
          tree'.node? other = tree.node? other ∨
            tree.node? other = none ∧
              tree'.node? other = some .directory := by
  intro names
  have hfiles : (c.artifacts.files pretty).map Prod.fst = names :=
    map_fst_files_of_compile h pretty
  have hpaths : (c.artifacts.filesIn directory pretty).map Prod.fst =
      names.map (Path.join directory) := by
    rw [Artifacts.map_fst_filesIn, hfiles]
  have hnodup : names.Nodup := nodup_fileNames_of_compile h
  have hplain : ∀ name ∈ names, Path.IsPlain name :=
    fun _ => isPlain_of_compile h
  have hnames : ∀ file ∈ c.artifacts.files pretty, Path.IsPlain file.1 :=
    fun file hfile => hplain _ (hfiles ▸ List.mem_map_of_mem hfile)
  refine ⟨hnodup.map_on fun name hname name' hname' =>
    Path.join_injective (hplain name hname) (hplain name' hname'),
    hplain, ?_, ?_, ?_⟩
  · intro σ _ hdirectory hwrite files
    rw [← hpaths] at hwrite ⊢
    exact Artifacts.exists_writeTo hdirectory hwrite files
  · intro σ _ files files' written hwritten
    constructor
    · obtain ⟨rfl, -⟩ := Artifacts.writeTo_eq_ok hwritten
      exact hpaths
    · intro view hview
      obtain ⟨hfound, hothers⟩ :=
        Artifacts.find?_of_writeTo hview (hfiles ▸ hnodup) hnames hwritten
      refine ⟨fun hdistinct => ?_, hothers⟩
      apply CompiledRoles.areRendered_of_forall_mem_files
      intro file hfile
      rw [hview.read, FileView.content?, hfound hdistinct file hfile]
  · intro tree tree' written hwritten
    obtain ⟨hfound, hothers⟩ := Artifacts.find?_of_writeTo FileTree.isLawful_view
      (hfiles ▸ hnodup) hnames hwritten
    have hfilled : c.artifacts.files pretty ≠ [] := by
      simp [Artifacts.files]
    obtain ⟨place, hplace, hdirectory, hholds⟩ :=
      FileTree.exists_holdsFile hfilled hnames
        (hfound (FileTree.namesApart directory tree))
    exact ⟨place, hplace, hdirectory,
      CompiledRoles.areRendered_of_forall_mem_files hholds, hothers⟩

/-- Two roles with names that look like names of files. -/
def lookalikes : Manifest where
  catalog := ∅
  roles :=
    [{ name := "outputs"
       kind := .operational
       trust := { principal := "datazone.amazonaws.com", conditions := [] }
       permissionBoundary := none
       bundles := [] },
     { name := "outputs.policy"
       kind := .provisioning
       trust := { principal := "lambda.amazonaws.com", conditions := [] }
       permissionBoundary := none
       bundles := [] }]

/-- The two roles, composed. -/
def lookalikeRoles : CompiledRoles where
  catalog := lookalikes.actionCatalog
  roles :=
    [{ name := "outputs"
       kind := .operational
       trust := ⟨"datazone.amazonaws.com", .unconditional⟩
       bundles := []
       permissionBoundary := none },
     { name := "outputs.policy"
       kind := .provisioning
       trust := ⟨"lambda.amazonaws.com", .unconditional⟩
       bundles := []
       permissionBoundary := none }]
  substitutions := ∅

theorem compile_lookalikes : lookalikes.compile ∅ = .ok lookalikeRoles := by
  decide +kernel

/-- A directory with earlier outputs beside a file of another kind. -/
def workTree : FileTree where
  current := ["work"]
  nodes := SortedMap.ofList
    [(["work"], .directory), (["work", "out"], .directory),
      (["work", "out", "notes.txt"], .file "keep".toUTF8),
      (["work", "out", "outputs.json"], .file "stale".toUTF8)]

/-- The paths of the files of the two roles. -/
def lookalikePaths : List String :=
  ["out/outputs.policy.json", "out/outputs.trust.json",
    "out/outputs.policy.policy.json", "out/outputs.policy.trust.json",
    "out/outputs.json"]

/-- The text of the outputs of the two roles. -/
def lookalikeOutputs : String :=
  "\x7b\n  \"operational-role-arn\": \"outputs\",\n" ++
    "  \"provisioning-role-arn\": \"outputs.policy\"\n\x7d\n"

/-- The policy of the first role has a path that begins like the paths of the
second role, and the earlier outputs are replaced once. -/
theorem lookalikes_files_apart :
    lookalikes.compile ∅ = .ok lookalikeRoles ∧
      ∃ tree' place,
        lookalikeRoles.artifacts.writeTo (m := StateM FileTree) "out" true
            workTree = (.ok lookalikePaths, tree') ∧
        lookalikeRoles.AreRendered true (tree'.HoldsFile "out" place) ∧
        FileAccess.read? (m := StateM FileTree) "out/outputs.json" tree' =
          (some lookalikeOutputs.toUTF8, tree') ∧
        tree'.node? ["work", "out", "notes.txt"] =
          some (.file "keep".toUTF8) := by
  have hpaths : (lookalikeRoles.artifacts.writeTo (m := StateM FileTree) "out"
      true workTree).1 = .ok lookalikePaths := by
    decide +kernel
  have hnotes : ∀ path ∈ lookalikePaths,
      (lookalikeRoles.artifacts.writeTo (m := StateM FileTree) "out" true
        workTree).2.resolve path ≠ some ["work", "out", "notes.txt"] := by
    decide +kernel
  generalize hresult : lookalikeRoles.artifacts.writeTo (m := StateM FileTree)
    "out" true workTree = result at hpaths hnotes
  obtain ⟨outcome, tree'⟩ := result
  obtain rfl : outcome = .ok lookalikePaths := hpaths
  obtain ⟨-, -, -, hany, hrun⟩ :=
    writeTo_keeps_files_apart compile_lookalikes "out" true
  obtain ⟨place, -, -, hrendered, hothers⟩ := hrun _ _ _ hresult
  obtain ⟨hread, -⟩ := (hany _ _ _ hresult).2 _ FileTree.isLawful_view
  obtain ⟨text, htext, houtputs⟩ :=
    (hread (FileTree.namesApart "out" workTree)).outputs
  have hpath : Path.join "out" "outputs.json" = "out/outputs.json" := by decide
  have hexplicit : text = lookalikeOutputs := by
    rw [htext.layout]
    decide +kernel
  rw [hpath, hexplicit] at houtputs
  refine ⟨compile_lookalikes, tree', place, rfl, hrendered, houtputs, ?_⟩
  rcases hothers ["work", "out", "notes.txt"] hnotes with hkept | ⟨hnone, -⟩
  · exact hkept
  · cases hnone

end Manifest

end RolePolicy
