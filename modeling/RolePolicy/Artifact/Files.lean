import RolePolicy.Artifact
import RolePolicy.Error
import RolePolicy.Files.Access

/-!
# Writing artifacts

The documents of each role and the outputs become files of one directory, which is created where it
does not exist.
-/

namespace RolePolicy.Artifacts

variable {m : Type → Type} [Monad m] [FileAccess m]

/-- The paths and contents of the files, in the order in which they are written. -/
def filesIn (a : Artifacts) (directory : String) (pretty : Bool) : List (String × String) :=
  (a.files pretty).map fun (name, content) => (Path.join directory name, content)

/-- Write files in order and stop at the first failure. -/
def writeAll : List (String × String) → m Bool
  | [] => return true
  | (path, content) :: files => do
    if ← FileAccess.write path content then writeAll files else return false

/-- Write the artifacts into a directory; the result lists the paths of the files. -/
def writeTo (a : Artifacts) (directory : String) (pretty : Bool) :
    m (Except CompileError (List String)) := do
  let files := a.filesIn directory pretty
  if ← FileAccess.makeDirectories directory then
    if ← writeAll files then return .ok (files.map (·.1))
  return .error .inputOutput

end RolePolicy.Artifacts
