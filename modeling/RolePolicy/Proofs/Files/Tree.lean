import Mathlib.Data.List.Nodup
import RolePolicy.Proofs.Files.View
import RolePolicy.Proofs.Sorted

/-!
# What changes in a file tree

Paths are resolved through directories only, so that writing a file, which
neither makes nor replaces a directory, leaves every path where it leads.
Creating directories adds nodes where there are none.  A tree therefore meets the
laws of file operations, and there are no links in it.
-/

namespace RolePolicy

namespace FileTree

/-! ## What a tree holds -/

/-- A directory lists no name twice. -/
theorem nodup_namesIn (tree : FileTree) (place : List String) :
    (tree.namesIn place).Nodup := by
  rw [namesIn, List.Nodup, List.pairwise_filterMap]
  apply (List.nodup_iff_pairwise_ne.mp tree.nodes.nodup_keys).imp
  intro key key' hne name hname name' hname' heq
  have hlast : ∀ {key : List String} {name : String},
      (if key.dropLast = place then key.getLast? else none) = some name →
        key = place ++ [name] := by
    intro key name h
    split at h
    · rename_i hplace
      rw [← hplace]
      exact (List.dropLast_append_getLast? name h).symm
    · cases h
  exact hne (by rw [hlast hname, hlast hname', heq])

/-! ## Where paths lead -/

section Resolve

variable {tree : FileTree} {directory name : String}

theorem follow_append (tree : FileTree) (place : List String)
    (steps more : List String) :
    tree.follow place (steps ++ more) =
      (tree.follow place steps).bind fun reached => tree.follow reached more := by
  induction steps generalizing place with
  | nil => rfl
  | cons step steps ih =>
      rw [List.cons_append, follow, follow]
      split
      · exact ih _
      · rfl

/-- A name in a directory leads to a child of the place to which the path of the
directory leads. -/
theorem resolve_join (h : Path.IsPlain name) {child : List String}
    (hchild : tree.resolve (Path.join directory name) = some child) :
    ∃ place, tree.resolve (Path.orCurrent directory) = some place ∧
      tree.hasDirectory place = true ∧ child = place ++ [name] := by
  rw [resolve, Path.isAbsolute_join h, Path.steps_join h] at hchild
  split at hchild
  · cases hchild
  rename_i hpath
  rw [follow_append] at hchild
  obtain ⟨place, hplace, hlast⟩ := Option.bind_eq_some_iff.mp hchild
  have hdirectory : tree.hasDirectory place = true := by
    by_contra hnot
    simp [follow, hnot] at hlast
  have hchild : child = place ++ [name] := by
    simpa [follow, hdirectory, h.notCurrent, h.notParent, eq_comm] using hlast
  refine ⟨place, ?_, hdirectory, hchild⟩
  have hsize := Path.utf8ByteSize_le_join h directory
  rw [resolve, if_neg]
  -- One more `.` stays in the place, which is a directory.
  · rcases Path.steps_orCurrent directory with hsteps | hsteps
    · rw [hsteps, hplace]
    · rw [hsteps, follow_append, hplace]
      simp [follow, hdirectory]
  · rw [not_or, not_lt] at hpath ⊢
    exact ⟨Path.orCurrent_ne_empty directory, hsize.trans hpath.2⟩

/-- Different names in a directory do not lead to the same place. -/
theorem resolve_join_ne {name' : String} (h : Path.IsPlain name)
    (h' : Path.IsPlain name') (hne : name ≠ name') {child : List String}
    (hchild : tree.resolve (Path.join directory name) = some child) :
    tree.resolve (Path.join directory name') ≠ some child := by
  intro hchild'
  obtain ⟨place, -, -, rfl⟩ := resolve_join h hchild
  obtain ⟨place', -, -, heq⟩ := resolve_join h' hchild'
  exact hne (List.singleton_inj.mp (List.append_inj_right' heq rfl))

end Resolve

/-! ## Trees with the same directories -/

/-- The trees have the same current directory and directories at the same
places. -/
structure SameDirectories (tree tree' : FileTree) : Prop where
  current : tree'.current = tree.current
  hasDirectory : ∀ place, tree'.hasDirectory place = tree.hasDirectory place

namespace SameDirectories

variable {tree tree' tree'' : FileTree}

theorem refl (tree : FileTree) : SameDirectories tree tree :=
  ⟨rfl, fun _ => rfl⟩

theorem trans (h : SameDirectories tree tree')
    (h' : SameDirectories tree' tree'') : SameDirectories tree tree'' :=
  ⟨h'.current.trans h.current,
    fun place => (h'.hasDirectory place).trans (h.hasDirectory place)⟩

theorem follow_eq (h : SameDirectories tree tree') (place steps : List String) :
    tree'.follow place steps = tree.follow place steps := by
  induction steps generalizing place with
  | nil => rfl
  | cons step steps ih => rw [follow, follow, h.hasDirectory, ih]

theorem resolve_eq (h : SameDirectories tree tree') (path : String) :
    tree'.resolve path = tree.resolve path := by
  rw [resolve, resolve, h.current, h.follow_eq]

end SameDirectories

/-! ## Writing files -/

theorem eq_some_of_attempt {change : FileTree → Option FileTree}
    {tree tree' : FileTree} (h : attempt change tree = (true, tree')) :
    change tree = some tree' := by
  rw [attempt] at h
  split at h
  · rename_i hchange
    rw [hchange, (Prod.mk.inj h).2]
  · cases h

/-- One node of a tree is put in place of another one or of nothing. -/
theorem node?_insert (tree : FileTree) {place : List String} (h : place ≠ [])
    (node : FileNode) (place' : List String) :
    ({ tree with nodes := tree.nodes.insert place node } : FileTree).node? place' =
      if place = place' then some node else tree.node? place' := by
  cases place' with
  | nil => rw [if_neg h]; rfl
  | cons name names => exact SortedMap.get?_insert ..

/-- Where paths lead in a tree. -/
def view : FileView FileTree where
  Place := List String
  place? := resolve
  node? := node?

theorem writes_of_write {tree tree' : FileTree} {path text : String}
    (h : tree.write path text.toUTF8 = some tree') :
    view.Writes tree path text tree' := by
  obtain ⟨place, hplace, hinsert⟩ := Option.bind_eq_some_iff.mp h
  split at hinsert
  · cases hinsert
  rename_i hallowed
  simp only [Bool.or_eq_true, not_or] at hallowed
  have hfile : tree.hasDirectory place = false := by
    simpa using hallowed.1.1
  have hroot : place ≠ [] := by
    rintro rfl
    cases hfile
  obtain rfl := Option.some.inj hinsert
  have hsame : SameDirectories tree
      { tree with nodes := tree.nodes.insert place (.file text.toUTF8) } := by
    refine ⟨rfl, fun place' => ?_⟩
    rw [hasDirectory, node?_insert tree hroot]
    split
    · rename_i heq
      rw [← heq, hfile]
      rfl
    · rfl
  have hnode := node?_insert tree hroot (.file text.toUTF8)
  constructor
  · exact hsame.resolve_eq
  · refine Option.bind_eq_some_iff.mpr ⟨place, ?_, ?_⟩
    · exact (hsame.resolve_eq path).trans hplace
    · exact (hnode place).trans (if_pos rfl)
  · intro place' hne
    apply (hnode place').trans
    rw [if_neg]
    · rfl
    · rintro rfl
      exact hne hplace

/-! ## Creating directories -/

theorem grows_of_makeDirectory {tree tree' : FileTree} {path : String}
    (h : tree.makeDirectory path = some tree') : view.Grows tree tree' := by
  obtain ⟨place, -, hmade⟩ := Option.bind_eq_some_iff.mp h
  split at hmade
  · obtain rfl := Option.some.inj hmade
    exact .refl tree
  · cases hmade
  · rename_i hnone
    split at hmade
    · obtain rfl := Option.some.inj hmade
      have hroot : place ≠ [] := by
        rintro rfl
        cases hnone
      intro place'
      have hnode := node?_insert tree hroot .directory place'
      by_cases heq : place = place'
      · subst heq
        exact Or.inr ⟨hnone, hnode.trans (if_pos rfl)⟩
      · exact Or.inl (hnode.trans (if_neg heq))
    · cases hmade

theorem grows_of_makeDirectories {tree tree' : FileTree} {path : String}
    (h : tree.makeDirectories path = some tree') : view.Grows tree tree' := by
  rw [makeDirectories] at h
  split at h
  · obtain rfl := Option.some.inj h
    exact .refl tree
  · generalize ancestry path = paths at h
    induction paths generalizing tree with
    | nil =>
        obtain rfl := Option.some.inj h
        exact .refl tree
    | cons first paths ih =>
        rw [List.foldlM_cons] at h
        obtain ⟨next, hnext, hrest⟩ := Option.bind_eq_some_iff.mp h
        exact (grows_of_makeDirectory hnext).trans (ih hrest)

/-! ## Laws -/

/-- There are no links in a tree. -/
theorem namesApart (directory : String) (tree : FileTree) :
    view.NamesApart directory tree :=
  fun _ _ hname hname' hne _ hchild => resolve_join_ne hname hname' hne hchild

theorem isLawful_view : view.IsLawful := by
  constructor
  · exact fun _ _ => rfl
  · intro path tree tree' hmade
    exact ⟨grows_of_makeDirectories (eq_some_of_attempt hmade),
      fun _ => namesApart path tree'⟩
  · intro path text tree tree' hwritten
    exact writes_of_write (eq_some_of_attempt hwritten)

end FileTree

end RolePolicy
