import RolePolicy.Files.Path

/-!
# Access to files

What the program asks of the files around it.  Relative paths are seen from the current directory.
An operation that fails says so and tells no more.
-/

namespace RolePolicy

class FileAccess (m : Type → Type) where
  isFile (path : String) : m Bool
  isDirectory (path : String) : m Bool
  /-- The content of a file. -/
  read? (path : String) : m (Option ByteArray)
  /-- The names in a directory, in any order. -/
  names? (path : String) : m (Option (List String))
  /-- Create a directory and those in which it lies; one that is there already is no failure, and
  neither is an empty path. -/
  makeDirectories (path : String) : m Bool
  /-- Create or replace a file. -/
  write (path : String) (content : String) : m Bool

namespace FileAccess

variable {m : Type → Type} [Monad m] [FileAccess m]

/-- The text of a file; a file that is not UTF-8 has none. -/
def readText? (path : String) : m (Option String) := do
  return (← read? path).bind String.fromUTF8?

end FileAccess

end RolePolicy
