import RolePolicy.Compiled
import RolePolicy.Files.Access
import RolePolicy.Manifest.Json
import RolePolicy.Manifest.Kdl

/-!
# Manifest directories

A manifest may be spread over the `.kdl` and `.json` files of a directory.  They are read in
ascending order of their names, whatever order the directory lists them in, and each is merged before
the next one is read; the first file that is no manifest decides the outcome, and no file behind it is
read.
-/

namespace RolePolicy

/-- The formats of manifest files. -/
inductive ManifestFormat where
  | kdl
  | json
  deriving DecidableEq, Repr

/-- The format of a file by its name; other files are not looked at. -/
def ManifestFormat.ofName? (name : String) : Option ManifestFormat :=
  if Path.extension? name = some "kdl" then some kdl
  else if Path.extension? name = some "json" then some json
  else none

/-- A manifest file of a directory; there is no text where it could not be read. -/
structure ManifestFile where
  name : String
  format : ManifestFormat
  text : Option String
  deriving DecidableEq, Repr

namespace ManifestFile

def parse (directory : String) (file : ManifestFile) : Except CompileError Manifest :=
  match file.text with
  | none => .error (.unreadableFile (Path.join directory file.name))
  | some text =>
    match file.format with
    | .kdl => Manifest.ofKdlText text
    | .json => Manifest.ofJsonText text

end ManifestFile

/-- The names of manifest files among names, in ascending order, with their formats. -/
def ManifestFormat.ofNames (names : List String) : List (String × ManifestFormat) :=
  (names.filterMap fun name => (ofName? name).map (name, ·)).mergeSort
    fun a b => decide (a.1 ≤ b.1)

namespace Manifest

variable {m : Type → Type} [Monad m] [FileAccess m]

/-- Read files in order and merge each into the manifest of those in front; the first one that is no
manifest ends the reading. -/
def loadFiles (directory : String) (merged : Manifest) :
    List (String × ManifestFormat) → m (Except CompileError Manifest)
  | [] => return .ok merged
  | (name, format) :: rest => do
    let text ← FileAccess.readText? (Path.join directory name)
    match ManifestFile.parse directory { name, format, text } with
    | .ok next => loadFiles directory (merged.merge next) rest
    | .error e => return .error e

/-- Read the manifest in a directory. -/
def load (directory : String) : m (Except CompileError Manifest) := do
  if ← FileAccess.isDirectory directory then
    match ← FileAccess.names? directory with
    | none => return .error .inputOutput
    | some names => loadFiles directory empty (ManifestFormat.ofNames names)
  else return .error (.invalidManifest (.missingDirectory directory))

/-- Read the manifest in a directory and compile it. -/
def loadCompiled (directory : String) (substitutions : Substitutions) :
    m (Except CompileError CompiledRoles) := do
  return (← load directory).bind (compile · substitutions)

end Manifest

end RolePolicy
