import RolePolicy.Failure
import RolePolicy.Files.Access
import RolePolicy.Settings.Basic
import RolePolicy.Toml.Reader

/-!
# Loading settings

The layer of a file lies below the layer of the environment.  A file that does not exist counts as
empty; one that exists has to be a TOML file.
-/

namespace RolePolicy

/-- What surrounds a command: the variables of its environment and its current directory. -/
structure Environment where
  bindings : List (String × String)
  currentDirectory : String

namespace Settings

/-- The start of the names of variables that are settings, in small letters. -/
def variableStart : String := "rolewright__"

/-- Put a point for every pair of underscores. -/
def pointed : List Char → List Char
  | '_' :: '_' :: rest => '.' :: pointed rest
  | c :: rest => c :: pointed rest
  | [] => []

/-- The setting that a variable gives. -/
def ofVariable? (name value : String) : Option (String × Toml) :=
  (variableStart.toList.isPrefixOf? (Text.small name).toList).map fun key =>
    (String.ofList (pointed key), .string value)

/-- The layer of the environment. -/
def environmentLayer (bindings : List (String × String)) : Toml.Fields :=
  bindings.filterMap fun (name, value) => ofVariable? name value

variable {m : Type → Type} [Monad m] [FileAccess m]

/-- The path without slashes and points at its end. -/
def trimmedPath (path : String) : String :=
  let rec trim : List Char → List Char
    | '/' :: rest => trim rest
    | '.' :: '/' :: rest => trim rest
    | cs => cs
  String.ofList (trim path.toList.reverse).reverse

/-- The settings file that stands for a path at which something exists: the file itself, or the file
beside a directory that has its name and the extension. -/
def fileFor? (path : String) : m (Option String) := do
  let name := Path.lastName path
  if ← FileAccess.isFile path then
    return if Path.extension? name = some "toml" then some path else none
  else if name = "" ∨ name = ".." then return none
  else
    let file := trimmedPath path ++ ".toml"
    return if ← FileAccess.isFile file then some file else none

/-- The layer of the settings file at a path. -/
def fileLayer (path : String) : m (Option Toml.Fields) := do
  if (← FileAccess.isFile path) || (← FileAccess.isDirectory path) then
    match ← fileFor? path with
    | none => return none
    | some file => return (← FileAccess.readText? file).bind fun text => Toml.read? text.toList
  else return some []

/-- Load the settings of a file and the environment. -/
def load (environment : Environment) (path : String) : m (Except Failure Settings) := do
  let file ←
    if path = "" then pure (some [])
    else fileLayer (Path.join environment.currentDirectory path)
  let settings := file.bind fun file =>
    ofLayers? [file, environmentLayer environment.bindings]
  return match settings with
    | some settings => .ok (settings.within environment.currentDirectory)
    | none => .error .settings

end Settings

end RolePolicy
