import RolePolicy.Files.Tree
import RolePolicy.Proofs.Files.Path

/-!
# What file operations do

A file system shows where paths lead and what stands there.  Its laws say what
reading, creating directories and writing have to do with it.  From them follows
what writing files one after the other leaves behind: where no two paths lead to
the same place, each file has its own content, and nothing else has changed.
Several paths may lead to one place, as links do.
-/

namespace RolePolicy

/-! ## Steps on a state -/

theorem stateM_bind {σ α β : Type} (x : StateM σ α) (f : α → StateM σ β)
    (s : σ) : (x >>= f) s = f (x s).1 (x s).2 :=
  rfl

/-! ## Places and nodes -/

/-- Where the paths of a file system lead, and what stands at each place. -/
structure FileView (σ : Type) where
  Place : Type
  place? : σ → String → Option Place
  node? : σ → Place → Option FileNode

namespace FileView

variable {σ : Type}

/-- What stands where a path leads. -/
def find? (view : FileView σ) (files : σ) (path : String) : Option FileNode :=
  (view.place? files path).bind (view.node? files)

/-- The content of the file to which a path leads. -/
def content? (view : FileView σ) (files : σ) (path : String) : Option ByteArray :=
  match view.find? files path with
  | some (.file content) => some content
  | _ => none

/-- No two names in a directory lead to the same place. -/
def NamesApart (view : FileView σ) (directory : String) (files : σ) : Prop :=
  ∀ name name', Path.IsPlain name → Path.IsPlain name' → name ≠ name' →
    ∀ place, view.place? files (Path.join directory name) = some place →
      view.place? files (Path.join directory name') ≠ some place

/-- Directories are added where there was nothing; all else is kept. -/
def Grows (view : FileView σ) (files files' : σ) : Prop :=
  ∀ place, view.node? files' place = view.node? files place ∨
    view.node? files place = none ∧ view.node? files' place = some .directory

theorem Grows.refl {view : FileView σ} (files : σ) : view.Grows files files :=
  fun _ => Or.inl rfl

theorem Grows.trans {view : FileView σ} {files next files' : σ}
    (h : view.Grows files next) (h' : view.Grows next files') :
    view.Grows files files' := by
  intro place
  rcases h' place with hkept' | ⟨hnone', hmade'⟩
  · rw [hkept']
    exact h place
  · rcases h place with hkept | ⟨-, hmade⟩
    · exact Or.inr ⟨hkept.symm.trans hnone', hmade'⟩
    · rw [hmade] at hnone'
      cases hnone'

/-- Writing a file keeps where paths lead and what stands at other places. -/
structure Writes (view : FileView σ) (files : σ) (path text : String)
    (files' : σ) : Prop where
  places : ∀ path', view.place? files' path' = view.place? files path'
  written : view.find? files' path = some (.file text.toUTF8)
  others : ∀ place, view.place? files path ≠ some place →
    view.node? files' place = view.node? files place

/-- What the operations of a file system have to do with its view: reading shows
the content of a file, creating directories adds nothing but directories, and no
links to a directory that had none, and writing puts a text where its path leads. -/
structure IsLawful [FileAccess (StateM σ)] (view : FileView σ) : Prop where
  read : ∀ path files, FileAccess.read? (m := StateM σ) path files =
    (view.content? files path, files)
  makeDirectories : ∀ path files files',
    FileAccess.makeDirectories (m := StateM σ) path files = (true, files') →
      view.Grows files files' ∧
        (view.NamesApart path files → view.NamesApart path files')
  write : ∀ path text files files',
    FileAccess.write (m := StateM σ) path text files = (true, files') →
      view.Writes files path text files'

/-! ## Runs of writes -/

/-- Writing files one after the other keeps where paths lead and what stands at
places to which none of their paths leads.  If no two of them lead to the same
place, each file has its own content in the end. -/
structure WritesAll (view : FileView σ) (files : σ)
    (list : List (String × String)) (files' : σ) : Prop where
  places : ∀ path, view.place? files' path = view.place? files path
  written : (list.Pairwise fun f g => ∀ place,
      view.place? files f.1 = some place → view.place? files g.1 ≠ some place) →
    ∀ file ∈ list, view.find? files' file.1 = some (.file file.2.toUTF8)
  others : ∀ place, (∀ file ∈ list, view.place? files file.1 ≠ some place) →
    view.node? files' place = view.node? files place

variable {view : FileView σ} {files next files' : σ}

theorem WritesAll.nil (view : FileView σ) (files : σ) :
    view.WritesAll files [] files :=
  ⟨fun _ => rfl, by simp, fun _ _ => rfl⟩

/-- A file is written in front of the others. -/
theorem Writes.cons {file : String × String} {list : List (String × String)}
    (hfile : view.Writes files file.1 file.2 next)
    (hlist : view.WritesAll next list files') :
    view.WritesAll files (file :: list) files' := by
  constructor
  · exact fun path => (hlist.places path).trans (hfile.places path)
  · intro hapart
    obtain ⟨hfirst, hrest⟩ := List.pairwise_cons.mp hapart
    rw [List.forall_mem_cons]
    constructor
    · obtain ⟨place, hplace, hnode⟩ := Option.bind_eq_some_iff.mp hfile.written
      have hplace' : view.place? files file.1 = some place := by
        rwa [hfile.places] at hplace
      -- No later path leads to this place, so what is written here stays.
      rw [find?, hlist.places, hplace, Option.bind_some, hlist.others place, hnode]
      intro later hlater
      rw [hfile.places]
      exact hfirst later hlater place hplace'
    · apply hlist.written
      simpa only [hfile.places] using hrest
  · intro place hnot
    obtain ⟨hfirst, hrest⟩ := List.forall_mem_cons.mp hnot
    rw [hlist.others place, hfile.others place hfirst]
    simpa only [hfile.places] using hrest

end FileView

end RolePolicy
