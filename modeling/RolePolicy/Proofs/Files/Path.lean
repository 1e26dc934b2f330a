import RolePolicy.Files.Path
import RolePolicy.Proofs.Text.Spelling

/-!
# Names joined to a directory

A name without slashes that is neither `.` nor `..` can be told from the path
that it makes with a directory, and adds one last step to those of the
directory.
-/

namespace RolePolicy.Path

/-- What an entry of a directory can be called. -/
structure IsPlain (name : String) : Prop where
  nonempty : name ≠ ""
  notCurrent : name ≠ "."
  notParent : name ≠ ".."
  noSlash : '/' ∉ name.toList

/-- A name with an ending that is longer than two characters is plain if there
are no slashes in it. -/
theorem IsPlain.of_append {name ending : String} (hname : '/' ∉ name.toList)
    (hending : '/' ∉ ending.toList) (hlength : 2 < ending.length) :
    IsPlain (name ++ ending) := by
  have hne : ∀ short : String, short.length ≤ 2 → name ++ ending ≠ short := by
    intro short hshort heq
    have hlengths := congrArg String.length heq
    rw [String.length_append] at hlengths
    omega
  constructor
  · exact hne "" (by decide)
  · exact hne "." (by decide)
  · exact hne ".." (by decide)
  · simp [hname, hending]

theorem IsPlain.isAbsolute_eq_false {name : String} (h : IsPlain name) :
    isAbsolute name = false := by
  rw [isAbsolute, beq_eq_false_iff_ne]
  intro hhead
  exact h.noSlash (List.mem_of_mem_head? hhead)

/-- What a directory puts in front of a name. -/
def front (directory : String) : List Char :=
  if directory = "" then []
  else if directory.toList.getLast? = some '/' then directory.toList
  else directory.toList ++ ['/']

theorem toList_join {name : String} (h : IsPlain name) (directory : String) :
    (join directory name).toList = front directory ++ name.toList := by
  rw [join, h.isAbsolute_eq_false, Bool.false_or, front]
  by_cases hempty : directory = ""
  · simp [hempty]
  · by_cases hslash : directory.toList.getLast? = some '/'
    · simp [hempty, hslash]
    · simp [hempty, hslash]

/-- What stands in front of a name ends with a slash, which the path of the
directory may have or not. -/
theorem exists_front_eq {directory : String} (h : directory ≠ "") :
    ∃ cs, front directory = cs ++ ['/'] ∧
      (directory.toList = cs ∨ directory.toList = cs ++ ['/']) := by
  rw [front, if_neg h]
  split
  · rename_i hslash
    obtain ⟨cs, hcs⟩ := List.getLast?_eq_some_iff.mp hslash
    exact ⟨cs, hcs, Or.inr hcs⟩
  · exact ⟨directory.toList, rfl, Or.inl rfl⟩

/-- Names are told apart in one directory. -/
theorem join_injective {directory name name' : String} (h : IsPlain name)
    (h' : IsPlain name') (heq : join directory name = join directory name') :
    name = name' := by
  have hlists := congrArg String.toList heq
  rw [toList_join h, toList_join h'] at hlists
  exact String.toList_inj.mp (List.append_cancel_left hlists)

/-- An empty path stands for the current directory. -/
def orCurrent (path : String) : String :=
  if path = "" then "." else path

theorem orCurrent_ne_empty (path : String) : orCurrent path ≠ "" := by
  rw [orCurrent]
  split
  · decide
  · assumption

theorem isAbsolute_join {name : String} (h : IsPlain name) (directory : String) :
    isAbsolute (join directory name) = isAbsolute (orCurrent directory) := by
  rw [orCurrent]
  by_cases hempty : directory = ""
  · have hjoin : join directory name = name := by simp [join, hempty]
    rw [hjoin, if_pos hempty, h.isAbsolute_eq_false]
    rfl
  · have hne : directory.toList ≠ [] := mt String.toList_eq_nil_iff.mp hempty
    obtain ⟨cs, hfront, hcs | hcs⟩ := exists_front_eq hempty
    · rw [if_neg hempty, isAbsolute, toList_join h, hfront, isAbsolute, hcs]
      cases cs with
      | nil => exact absurd hcs hne
      | cons c cs => rfl
    · rw [if_neg hempty, isAbsolute, toList_join h, hfront, isAbsolute, hcs]
      cases cs <;> rfl

theorem utf8ByteSize_le_join {name : String} (h : IsPlain name)
    (directory : String) :
    (orCurrent directory).utf8ByteSize ≤ (join directory name).utf8ByteSize := by
  rw [orCurrent, join, h.isAbsolute_eq_false, Bool.false_or]
  by_cases hempty : directory = ""
  · have hsize : name.utf8ByteSize ≠ 0 :=
      mt String.utf8ByteSize_eq_zero_iff.mp h.nonempty
    simp only [hempty, decide_true, if_true]
    exact Nat.one_le_iff_ne_zero.mpr hsize
  · simp only [hempty, decide_false, Bool.false_eq_true, if_false]
    split
    · simp
    · simp [Nat.add_assoc]

/-- The names of a path between its slashes, `.` and `..` among them. -/
def pieces (path : String) : List String :=
  ((Text.splitAll '/' path.toList).filter (!·.isEmpty)).map String.ofList

/-- The steps of a directory are its names, and `.` where a slash ends the path or
nothing is named. -/
theorem steps_orCurrent (directory : String) :
    steps (orCurrent directory) = pieces directory ∨
      steps (orCurrent directory) = pieces directory ++ ["."] := by
  rw [orCurrent]
  split
  · rename_i hempty
    exact Or.inr (hempty ▸ rfl)
  · rw [steps]
    split
    · exact Or.inr rfl
    · exact Or.inl rfl

/-- A name is the last step of its path. -/
theorem steps_join {name : String} (h : IsPlain name) (directory : String) :
    steps (join directory name) = pieces directory ++ [name] := by
  have hname : name.toList ≠ [] := mt String.toList_eq_nil_iff.mp h.nonempty
  have hsplit : Text.splitAll '/' name.toList = [name.toList] :=
    Text.splitAll_of_not_mem h.noSlash
  rw [steps, pieces, toList_join h]
  by_cases hempty : directory = ""
  · simp [front, hempty, hsplit, hname, Text.splitAll]
  · obtain ⟨cs, hfront, hcs | hcs⟩ := exists_front_eq hempty
    · rw [hfront, hcs, List.append_assoc, List.singleton_append,
        Text.splitAll_append, hsplit]
      simp [hname]
    · rw [hfront, hcs, List.append_assoc, List.singleton_append,
        Text.splitAll_append, Text.splitAll_append, hsplit]
      simp [hname, Text.splitAll]

end RolePolicy.Path
