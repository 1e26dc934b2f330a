import Mathlib.Control.Monad.Basic
import RolePolicy.Manifest.Directory
import RolePolicy.Proofs.Files.Tree
import RolePolicy.Proofs.FirstDefect

/-!
# Directories listed in any order

What a directory holds is a map from names to contents; a file system lists the
names in an order of its own.  The manifest files are put into the order of their
names before they are read one after the other, so the manifest of a directory is
a function of what it holds.  The first file that is no manifest decides the
outcome whatever stands behind it.
-/

namespace RolePolicy

/-! ## Manifest files in ascending order -/

/-- What the names in a directory read as; there is no content where a name is
not that of a file that can be read. -/
abbrev DirectoryContent :=
  SortedMap String (Option ByteArray)

namespace ManifestFormat

variable {names : List String}

theorem mem_ofNames_iff {name : String} {format : ManifestFormat} :
    (name, format) ∈ ofNames names ↔
      name ∈ names ∧ ofName? name = some format := by
  rw [ofNames, List.mem_mergeSort, List.mem_filterMap]
  constructor
  · rintro ⟨_, hname, hentry⟩
    obtain ⟨_, hformat, heq⟩ := Option.map_eq_some_iff.mp hentry
    obtain ⟨rfl, rfl⟩ := Prod.mk.inj heq
    exact ⟨hname, hformat⟩
  · rintro ⟨hname, hformat⟩
    exact ⟨name, hname, by rw [hformat]; rfl⟩

/-- Names that are listed once each are put into strictly ascending order. -/
theorem pairwise_name_ofNames (h : names.Nodup) :
    (ofNames names).Pairwise fun e e' => e.1 < e'.1 := by
  rw [← List.pairwise_map, ofNames,
    List.map_mergeSort (s := fun a b => decide (a ≤ b)) fun _ _ _ _ => rfl]
  apply pairwise_mergeSort_lt
  rw [List.Nodup, List.pairwise_map, List.pairwise_filterMap]
  apply h.imp
  intro name name' hne e he e' he'
  obtain ⟨-, -, rfl⟩ := Option.map_eq_some_iff.mp he
  obtain ⟨-, -, rfl⟩ := Option.map_eq_some_iff.mp he'
  exact hne

end ManifestFormat

namespace ManifestFile

/-- The manifest files of a directory, in ascending order of their names. -/
def ofContent (content : DirectoryContent) : List ManifestFile :=
  content.entries.filterMap fun (name, data) =>
    (ManifestFormat.ofName? name).map fun format =>
      { name, format, text := data.bind String.fromUTF8? }

variable {content : DirectoryContent} {file : ManifestFile}

theorem mem_ofContent_iff :
    file ∈ ofContent content ↔
      ManifestFormat.ofName? file.name = some file.format ∧
        ∃ data, content.get? file.name = some data ∧
          file.text = data.bind String.fromUTF8? := by
  rw [ofContent, List.mem_filterMap]
  constructor
  · rintro ⟨⟨name, data⟩, hentry, hfile⟩
    obtain ⟨format, hformat, rfl⟩ := Option.map_eq_some_iff.mp hfile
    exact ⟨hformat, data, SortedMap.get?_eq_some_iff.mpr hentry, rfl⟩
  · rintro ⟨hformat, data, hdata, htext⟩
    refine ⟨(file.name, data), SortedMap.get?_eq_some_iff.mp hdata, ?_⟩
    simp [hformat, ← htext]

/-- Only the names of manifest files are looked at. -/
theorem mem_ofContent_congr {content' : DirectoryContent}
    (h : (ManifestFormat.ofName? file.name).isSome →
      content'.get? file.name = content.get? file.name) :
    file ∈ ofContent content' ↔ file ∈ ofContent content := by
  rw [mem_ofContent_iff, mem_ofContent_iff]
  apply and_congr_right
  intro hformat
  rw [h (Option.isSome_of_eq_some hformat)]

theorem pairwise_name_ofContent (content : DirectoryContent) :
    (ofContent content).Pairwise fun f g => f.name < g.name := by
  rw [ofContent, List.pairwise_filterMap]
  apply content.ascending.imp
  intro e e' hlt f hf g hg
  obtain ⟨-, -, rfl⟩ := Option.map_eq_some_iff.mp hf
  obtain ⟨-, -, rfl⟩ := Option.map_eq_some_iff.mp hg
  exact hlt

/-- The names of the manifest files of a directory, with their formats, are the
same in whatever order the names are listed. -/
theorem ofNames_eq_map_ofContent {names : List String}
    (h : names.Perm content.keys) :
    ManifestFormat.ofNames names =
      (ofContent content).map fun file => (file.name, file.format) := by
  have hnodup : names.Nodup := h.nodup_iff.mpr content.nodup_keys
  apply eq_of_ascending_of_mem_iff (ManifestFormat.pairwise_name_ofNames hnodup)
    (List.pairwise_map.mpr (pairwise_name_ofContent content))
  rintro ⟨name, format⟩
  rw [ManifestFormat.mem_ofNames_iff, h.mem_iff, SortedMap.mem_keys_iff,
    List.mem_map]
  constructor
  · rintro ⟨⟨data, hdata⟩, hformat⟩
    exact ⟨⟨name, format, data.bind String.fromUTF8?⟩,
      mem_ofContent_iff.mpr ⟨hformat, data, hdata, rfl⟩, rfl⟩
  · rintro ⟨file, hfile, heq⟩
    obtain ⟨rfl, rfl⟩ := Prod.mk.inj heq
    obtain ⟨hformat, data, hdata, -⟩ := mem_ofContent_iff.mp hfile
    exact ⟨⟨data, hdata⟩, hformat⟩

theorem ofContent_congr {content' : DirectoryContent}
    (h : ∀ name, (ManifestFormat.ofName? name).isSome →
      content'.get? name = content.get? name) :
    ofContent content' = ofContent content := by
  apply eq_of_ascending_of_mem_iff (pairwise_name_ofContent content')
    (pairwise_name_ofContent content)
  exact fun file => mem_ofContent_congr (h file.name)

/-- Whether a file is the first one with a property depends on the files up to it
only. -/
theorem isFirst_ofContent_congr {content' : DirectoryContent}
    {P : ManifestFile → Prop}
    (h : ∀ name, (ManifestFormat.ofName? name).isSome → name ≤ file.name →
      content'.get? name = content.get? name)
    (hfirst : IsFirst P (ofContent content) file) :
    IsFirst P (ofContent content') file := by
  have hiff : ∀ c, IsFirst P (ofContent c) file ↔ file ∈ ofContent c ∧ P file ∧
      ∀ f ∈ ofContent c, f.name < file.name → ¬P f :=
    fun c => isFirst_iff_of_ascending (pairwise_name_ofContent c)
  -- Files in front have lesser names, about which both directories agree.
  rw [hiff] at hfirst ⊢
  obtain ⟨hmem, hP, hlesser⟩ := hfirst
  refine ⟨?_, hP, ?_⟩
  · rwa [mem_ofContent_congr fun hformat => h _ hformat (String.le_refl _)]
  · intro f hf hlt
    have hle : f.name ≤ file.name :=
      String.not_lt.mp (StrictTotalOrder.asymm hlt)
    rw [mem_ofContent_congr fun hformat => h _ hformat hle] at hf
    exact hlesser f hf hlt

end ManifestFile

namespace Manifest

/-! ## Reading files one after the other -/

/-- What reading files one after the other comes to: the merge of what they say,
or what is wrong with the first one that says nothing. -/
inductive ReadsAs (directory : String) (files : List ManifestFile) :
    Except CompileError Manifest → Prop where
  | merged {manifests : List Manifest} :
      List.Forall₂ (fun file manifest => file.parse directory = .ok manifest)
        files manifests →
      ReadsAs directory files (.ok (mergeAll manifests))
  | failed {file : ManifestFile} {e : CompileError} :
      IsFirst (fun f => ∃ e', f.parse directory = .error e') files file →
      file.parse directory = .error e →
      ReadsAs directory files (.error e)

theorem readsAs_iff {directory : String} {files : List ManifestFile}
    {outcome : Except CompileError Manifest} :
    ReadsAs directory files outcome ↔
      (files.mapM (ManifestFile.parse directory)).map mergeAll = outcome := by
  constructor
  · intro h
    cases h with
    | merged hfiles => rw [mapM_eq_ok_iff.mpr hfiles]; rfl
    | failed hfirst he => rw [mapM_eq_error_iff.mpr ⟨_, hfirst, he⟩]; rfl
  · rintro rfl
    cases hfiles : files.mapM (ManifestFile.parse directory) with
    | ok manifests => exact .merged (mapM_eq_ok_iff.mp hfiles)
    | error e =>
        obtain ⟨file, hfirst, he⟩ := mapM_eq_error_iff.mp hfiles
        exact .failed hfirst he

/-! ## Directories of a file system -/

/-- All manifest files in front of a name are manifests, so that the reading of
the directory comes to the name. -/
def Reaches (directory : String) (content : DirectoryContent)
    (name : String) : Prop :=
  ∀ file ∈ ManifestFile.ofContent content, file.name < name →
    ∃ manifest, file.parse directory = .ok manifest

/-- The files show a directory with a content, its names listed in some order.
Nothing is said of what stands behind the first file that is no manifest. -/
structure ShowsDirectory {σ : Type} [FileAccess (StateM σ)] (files : σ)
    (directory : String) (content : DirectoryContent) : Prop where
  isDirectory :
    FileAccess.isDirectory (m := StateM σ) directory files = (true, files)
  listed : ∃ names, names.Perm content.keys ∧
    FileAccess.names? (m := StateM σ) directory files = (some names, files)
  read : ∀ name data, content.get? name = some data →
    (ManifestFormat.ofName? name).isSome → Reaches directory content name →
      FileAccess.read? (m := StateM σ) (Path.join directory name) files =
        (data, files)

section Reading

variable {σ : Type} [FileAccess (StateM σ)] {files : σ} {directory : String}

/-- Files that are there until one is no manifest are merged in their order. -/
theorem loadFiles_eq {list : List ManifestFile} (merged : Manifest)
    (h : ∀ before file after, list = before ++ file :: after →
      (∀ f ∈ before, ∃ manifest, f.parse directory = .ok manifest) →
        FileAccess.readText? (m := StateM σ) (Path.join directory file.name)
          files = (file.text, files)) :
    loadFiles (m := StateM σ) directory merged
        (list.map fun file => (file.name, file.format)) files =
      ((list.mapM (ManifestFile.parse directory)).map
        (List.foldl merge merged), files) := by
  induction list generalizing merged with
  | nil => rfl
  | cons file list ih =>
      have hread := h [] file list rfl (by simp)
      rw [List.map_cons, loadFiles, stateM_bind, hread, List.mapM_cons]
      cases hparse : file.parse directory with
      | error e => rfl
      | ok manifest =>
          have hrest := ih (merged.merge manifest) fun before f after hlist hbefore =>
            h (file :: before) f after (by rw [hlist, List.cons_append])
              (List.forall_mem_cons.mpr ⟨⟨manifest, hparse⟩, hbefore⟩)
          simp only [hrest]
          cases list.mapM (ManifestFile.parse directory) with
          | error e => rfl
          | ok manifests => rfl

namespace ShowsDirectory

variable {content : DirectoryContent}

theorem readText?_eq (h : ShowsDirectory files directory content)
    {file : ManifestFile} (hfile : file ∈ ManifestFile.ofContent content)
    (hreaches : Reaches directory content file.name) :
    FileAccess.readText? (m := StateM σ) (Path.join directory file.name) files =
      (file.text, files) := by
  obtain ⟨hformat, data, hdata, htext⟩ := ManifestFile.mem_ofContent_iff.mp hfile
  rw [FileAccess.readText?, stateM_bind,
    h.read file.name data hdata (Option.isSome_of_eq_some hformat) hreaches, htext]
  rfl

theorem load_eq (h : ShowsDirectory files directory content) :
    load (m := StateM σ) directory files =
      (((ManifestFile.ofContent content).mapM
        (ManifestFile.parse directory)).map mergeAll, files) := by
  obtain ⟨names, hperm, hnames⟩ := h.listed
  rw [load, stateM_bind, h.isDirectory, if_pos rfl, stateM_bind, hnames]
  simp only
  rw [ManifestFile.ofNames_eq_map_ofContent hperm]
  apply loadFiles_eq
  intro before file after hlist hbefore
  apply h.readText?_eq
  · rw [hlist]
    exact List.mem_append_right _ List.mem_cons_self
  · intro f hf hlt
    have hsorted := ManifestFile.pairwise_name_ofContent content
    rw [hlist] at hf hsorted
    exact hbefore f ((mem_before_iff_of_ascending hsorted).mpr ⟨hf, hlt⟩)

end ShowsDirectory

end Reading

end Manifest

/-! ## Directories of a tree -/

namespace FileTree

/-- What the names in a directory of a tree read as. -/
def directoryContent (tree : FileTree) (directory : String)
    (place : List String) : DirectoryContent :=
  SortedMap.ofList ((tree.namesIn place).map fun name =>
    (name, view.content? tree (Path.join directory name)))

/-- The files of a tree, with the names in a directory listed in an order of
one's own. -/
@[reducible] def listedBy (order : List String → List String) :
    FileAccess (StateM FileTree) :=
  { (inferInstance : FileAccess (StateM FileTree)) with
    names? := fun path tree =>
      ((FileAccess.names? (m := StateM FileTree) path tree).1.map order, tree) }

theorem perm_entries_directoryContent (tree : FileTree) (directory : String)
    (place : List String) :
    (tree.directoryContent directory place).entries.Perm
      ((tree.namesIn place).map fun name =>
        (name, view.content? tree (Path.join directory name))) := by
  apply SortedMap.perm_entries_ofList
  rw [List.map_map]
  exact (List.map_id _).symm ▸ tree.nodup_namesIn place

theorem perm_keys_directoryContent (tree : FileTree) (directory : String)
    (place : List String) :
    (tree.namesIn place).Perm (tree.directoryContent directory place).keys := by
  have hkeys :=
    (tree.perm_entries_directoryContent directory place).map Prod.fst
  rw [List.map_map] at hkeys
  exact (List.map_id (tree.namesIn place) ▸ hkeys).symm

theorem showsDirectory {order : List String → List String}
    (horder : ∀ names, (order names).Perm names) {tree : FileTree}
    {directory : String} {place : List String}
    (hplace : tree.resolve directory = some place)
    (hdirectory : tree.hasDirectory place = true) :
    @Manifest.ShowsDirectory FileTree (listedBy order) tree directory
      (tree.directoryContent directory place) := by
  have hfound : tree.find? directory = tree.node? place := by
    rw [find?, hplace, Option.bind_some]
  refine @Manifest.ShowsDirectory.mk FileTree (listedBy order) _ _ _ ?_ ?_ ?_
  · exact Prod.ext (by rw [← hdirectory, hasDirectory, ← hfound]; rfl) rfl
  · refine ⟨order (tree.namesIn place), (horder _).trans
      (tree.perm_keys_directoryContent directory place), Prod.ext ?_ rfl⟩
    have hnames : (FileAccess.names? (m := StateM FileTree) directory tree).1 =
        some (tree.namesIn place) := by
      simp [FileAccess.names?, hplace, hdirectory]
    exact congrArg (Option.map order) hnames
  · intro name data hdata _ _
    have hentry := SortedMap.get?_eq_some_iff.mp hdata
    rw [(tree.perm_entries_directoryContent directory place).mem_iff] at hentry
    obtain ⟨_, -, heq⟩ := List.mem_map.mp hentry
    obtain ⟨rfl, rfl⟩ := Prod.mk.inj heq
    rfl

end FileTree

namespace Manifest

/-! ## The manifest of a directory -/

/-- The manifest in a directory is what its `.kdl` and `.json` files come to in
ascending order of their names, for every file system that shows the directory
and every order in which it lists the names; other files do not matter.  If a
file is the first one that is no manifest, nothing behind it matters. -/
theorem load_merges_in_name_order (directory : String)
    (content : DirectoryContent) :
    (ManifestFile.ofContent content).Pairwise (fun f g => f.name < g.name) ∧
    ∃ outcome, ReadsAs directory (ManifestFile.ofContent content) outcome ∧
      (∀ {σ : Type} [FileAccess (StateM σ)] (files : σ)
        (content' : DirectoryContent),
        (∀ name, (ManifestFormat.ofName? name).isSome →
          content'.get? name = content.get? name) →
        ShowsDirectory files directory content' →
        load (m := StateM σ) directory files = (outcome, files)) ∧
      ∀ bad e,
        IsFirst (fun f => ∃ e', f.parse directory = .error e')
          (ManifestFile.ofContent content) bad →
        bad.parse directory = .error e →
        outcome = .error e ∧
        ∀ {σ : Type} [FileAccess (StateM σ)] (files : σ)
          (content' : DirectoryContent),
          (∀ name, (ManifestFormat.ofName? name).isSome → name ≤ bad.name →
            content'.get? name = content.get? name) →
          ShowsDirectory files directory content' →
          load (m := StateM σ) directory files = (.error e, files) := by
  refine ⟨ManifestFile.pairwise_name_ofContent content, _,
    readsAs_iff.mpr rfl, ?_, ?_⟩
  · intro σ _ files content' hsame hshows
    have hfiles : ManifestFile.ofContent content' =
        ManifestFile.ofContent content :=
      ManifestFile.ofContent_congr hsame
    rw [hshows.load_eq, hfiles]
  · intro bad e hfirst he
    have hfailed : ∀ {files}, IsFirst (fun f => ∃ e', f.parse directory = .error e')
        files bad → (files.mapM (ManifestFile.parse directory)).map mergeAll =
          .error e :=
      fun h => readsAs_iff.mp (.failed h he)
    refine ⟨hfailed hfirst, ?_⟩
    intro σ _ files content' hsame hshows
    rw [hshows.load_eq, hfailed (ManifestFile.isFirst_ofContent_congr hsame hfirst)]

/-- The text of a manifest with one verb. -/
def readText : String :=
  "\x7b\"catalog\": \x7b\"s3\": [\"GetObject\"]\x7d\x7d"

/-- The text of a manifest with another verb of the same service. -/
def writeText : String :=
  "catalog \x7b\n service \"s3\" \x7b\n - \"PutObject\"\n\x7d\n\x7d"

/-- A directory of two manifests and a file that is none, with further entries. -/
def layers (more : List (List String × FileNode)) : FileTree where
  current := []
  nodes := SortedMap.ofList
    ([(["manifests"], .directory),
      (["manifests", "00.json"], .file readText.toUTF8),
      (["manifests", "10.kdl"], .file writeText.toUTF8),
      (["manifests", "README.md"], .file "the roles".toUTF8)] ++ more)

/-- What the entries of the directory read as. -/
def layersContent (more : List (List String × FileNode)) : DirectoryContent :=
  (layers more).directoryContent "manifests" ["manifests"]

/-- A directory with the name of a manifest file. -/
def tornEntry : List String × FileNode :=
  (["manifests", "05.json"], .directory)

/-- A manifest file with nothing of a manifest in it. -/
def lastEntry : List String × FileNode :=
  (["manifests", "20.kdl"], .file "~".toUTF8)

/-- What reading the directory with further entries comes to if its names are
listed in the given order. -/
def layersLoaded (order : List String → List String)
    (more : List (List String × FileNode)) : Except CompileError Manifest :=
  (@load (StateM FileTree) _ (FileTree.listedBy order) "manifests"
    (layers more)).1

theorem isFirst_torn :
    IsFirst (fun f => ∃ e', ManifestFile.parse "manifests" f = .error e')
      (ManifestFile.ofContent (layersContent [tornEntry])) ⟨"05.json", .json, none⟩ := by
  refine ⟨[⟨"00.json", .json, some readText⟩], [⟨"10.kdl", .kdl, some writeText⟩],
    by decide +kernel, ⟨_, rfl⟩, ?_⟩
  have hread : ManifestFile.parse "manifests" ⟨"00.json", .json, some readText⟩ =
      .ok ⟨SortedMap.ofList [("s3", ["GetObject"])], []⟩ := by
    decide +kernel
  simp [hread]

theorem get?_layersContent_last {name : String} (h : name ≤ "05.json") :
    (layersContent [tornEntry, lastEntry]).get? name = (layersContent [tornEntry]).get? name := by
  have hinsert : layersContent [tornEntry, lastEntry] =
      (layersContent [tornEntry]).insert "20.kdl" (some "~".toUTF8) := by
    decide +kernel
  have hne : "20.kdl" ≠ name := by
    rintro rfl
    exact absurd h (by decide)
  rw [hinsert, SortedMap.get?_insert, if_neg hne]

/-- In whatever order the entries are listed, the verbs come in the order of the
files, and a directory with the name of a manifest file stops the reading
whatever comes behind it. -/
theorem layers_load_merges_in_name_order :
    layersLoaded id [] =
        .ok ⟨SortedMap.ofList [("s3", ["GetObject", "PutObject"])], []⟩ ∧
      layersLoaded List.reverse [] = layersLoaded id [] ∧
      layersLoaded id [tornEntry] =
        .error (.unreadableFile "manifests/05.json") ∧
      layersLoaded List.reverse [tornEntry, lastEntry] = layersLoaded id [tornEntry] := by
  have hreverse : ∀ names : List String, names.reverse.Perm names :=
    List.reverse_perm
  obtain ⟨-, merged, hmerged, hload, -⟩ :=
    load_merges_in_name_order "manifests" (layersContent [])
  have hfull : ∀ order : List String → List String,
      (∀ names, (order names).Perm names) → layersLoaded order [] = merged :=
    fun order horder => congrArg Prod.fst <|
      @hload FileTree (FileTree.listedBy order) (layers []) _ (fun _ _ => rfl)
        (FileTree.showsDirectory horder (by decide +kernel) (by decide +kernel))
  obtain ⟨-, _, -, htorn, hfailed⟩ :=
    load_merges_in_name_order "manifests" (layersContent [tornEntry])
  obtain ⟨rfl, hbehind⟩ := hfailed _ _ isFirst_torn rfl
  have hstopped : layersLoaded id [tornEntry] =
      .error (.unreadableFile "manifests/05.json") :=
    congrArg Prod.fst <|
      @htorn FileTree (FileTree.listedBy id) (layers [tornEntry]) _ (fun _ _ => rfl)
        (FileTree.showsDirectory List.Perm.refl (by decide +kernel)
          (by decide +kernel))
  refine ⟨?_, ?_, hstopped, ?_⟩
  · rw [hfull id List.Perm.refl, ← readsAs_iff.mp hmerged]
    decide +kernel
  · rw [hfull _ hreverse, hfull id List.Perm.refl]
  · rw [hstopped]
    exact congrArg Prod.fst <|
      @hbehind FileTree (FileTree.listedBy List.reverse) (layers [tornEntry, lastEntry]) _
        (fun _ _ => get?_layersContent_last)
        (FileTree.showsDirectory hreverse (by decide +kernel)
          (by decide +kernel))

end Manifest

end RolePolicy
