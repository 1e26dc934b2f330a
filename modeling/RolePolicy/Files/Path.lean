import RolePolicy.Text.Split

/-!
# Paths

A path is a text of names set apart by slashes; it is absolute if a slash stands in front.  Joining
paths is textual: neither `.` nor `..` is resolved.
-/

namespace RolePolicy.Path

def isAbsolute (path : String) : Bool :=
  path.toList.head? == some '/'

/-- The path as seen from a directory. -/
def join (directory path : String) : String :=
  if isAbsolute path || directory = "" then path
  else if directory.toList.getLast? == some '/' then directory ++ path
  else directory ++ "/" ++ path

/-- The path without the slashes at its end; the root stays as it is. -/
def withoutEndSlashes (path : String) : String :=
  match path.toList.reverse.dropWhile (· == '/') with
  | [] => path
  | cs => String.ofList cs.reverse

/-- The steps of a path from where it starts: names, `..`, and `.` where it asks for a directory. -/
def steps (path : String) : List String :=
  let pieces := Text.splitAll '/' path.toList
  let names := (pieces.filter (!·.isEmpty)).map String.ofList
  if pieces.getLast? = some [] then names ++ ["."] else names

/-- The names of a path without `.`. -/
def names (path : String) : List String :=
  (steps path).filter (· ≠ ".")

/-- The last name of a path. -/
def lastName (path : String) : String :=
  ((names path).getLast?).getD ""

/-- What follows the last dot of a name; a name that only begins with a dot has no extension. -/
def extension? (name : String) : Option String :=
  match Text.splitLast '.' name.toList with
  | some (_ :: _, back) => some (String.ofList back)
  | _ => none

end RolePolicy.Path
