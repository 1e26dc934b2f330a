import RolePolicy.Files.Access
import RolePolicy.Sorted.Map

/-!
# File trees

A finite tree of directories and files, and the operations of `FileAccess` on it.  Paths are resolved
step by step: every step but the last has to start in a directory, and `..` leads to the directory
above.
-/

namespace RolePolicy

inductive FileNode where
  | file (content : ByteArray)
  | directory

def FileNode.isDirectory : FileNode → Bool
  | directory => true
  | file _ => false

/-- What stands at each absolute place, and the place from which relative paths are seen.  The root
is a directory and is not listed. -/
structure FileTree where
  current : List String
  nodes : SortedMap (List String) FileNode

namespace FileTree

/-- The non-empty prefixes of a list of names, shortest first. -/
def prefixes (names : List String) : List (List String) :=
  (List.range names.length).map fun k => names.take (k + 1)

/-- The tree in which only the current directory exists. -/
def ofCurrent (current : List String) : FileTree where
  current := current
  nodes := SortedMap.ofList ((prefixes current).map (·, .directory))

def node? (tree : FileTree) : List String → Option FileNode
  | [] => some .directory
  | place => tree.nodes.get? place

def hasDirectory (tree : FileTree) (place : List String) : Bool :=
  (tree.node? place).any FileNode.isDirectory

/-- Follow the steps of a path; the last one need not lead to anything that exists. -/
def follow (tree : FileTree) (place : List String) : List String → Option (List String)
  | [] => some place
  | step :: steps =>
    if tree.hasDirectory place then
      tree.follow
        (if step = "." then place else if step = ".." then place.dropLast else place ++ [step]) steps
    else none

/-- The longest path in bytes. -/
def maxPathBytes : Nat := 4095

/-- The place to which a path leads. -/
def resolve (tree : FileTree) (path : String) : Option (List String) :=
  if path = "" ∨ maxPathBytes < path.utf8ByteSize then none
  else tree.follow (if Path.isAbsolute path then [] else tree.current) (Path.steps path)

def find? (tree : FileTree) (path : String) : Option FileNode :=
  (tree.resolve path).bind tree.node?

/-- The longest name of a file in bytes. -/
def maxNameBytes : Nat := 255

def isName (name : String) : Bool :=
  name.utf8ByteSize ≤ maxNameBytes && !name.toList.contains '\x00'

/-- Create the directory at the end of a path, or find it there. -/
def makeDirectory (tree : FileTree) (path : String) : Option FileTree :=
  (tree.resolve path).bind fun place =>
    match tree.node? place with
    | some .directory => some tree
    | some (.file _) => none
    | none =>
      if tree.hasDirectory place.dropLast && place.getLast?.all isName then
        some { tree with nodes := tree.nodes.insert place .directory }
      else none

/-- The path and the paths in front of it, shortest first.  A slash at the end of a path does not ask
for a directory that is there already. -/
def ancestry (path : String) : List String :=
  let front := if Path.isAbsolute path then "/" else ""
  ((prefixes (Path.names path).dropLast).map fun names => front ++ "/".intercalate names) ++
    [Path.withoutEndSlashes path]

/-- Create a directory and those in which it lies; an empty path asks for none. -/
def makeDirectories (tree : FileTree) (path : String) : Option FileTree :=
  if path = "" then some tree else (ancestry path).foldlM makeDirectory tree

def write (tree : FileTree) (path : String) (content : ByteArray) : Option FileTree :=
  (tree.resolve path).bind fun place =>
    if tree.hasDirectory place || !tree.hasDirectory place.dropLast || !place.getLast?.all isName then
      none
    else some { tree with nodes := tree.nodes.insert place (.file content) }

/-- The names in the directory at a place. -/
def namesIn (tree : FileTree) (place : List String) : List String :=
  tree.nodes.keys.filterMap fun key =>
    if key.dropLast = place then key.getLast? else none

/-- Change the tree by an operation that may fail. -/
def attempt (change : FileTree → Option FileTree) : StateM FileTree Bool :=
  fun tree =>
    match change tree with
    | some tree => (true, tree)
    | none => (false, tree)

instance : FileAccess (StateM FileTree) where
  isFile path := fun tree =>
    (match tree.find? path with
      | some (.file _) => true
      | _ => false, tree)
  isDirectory path := fun tree => ((tree.find? path).any FileNode.isDirectory, tree)
  read? path := fun tree =>
    (match tree.find? path with
      | some (.file content) => some content
      | _ => none, tree)
  names? path := fun tree =>
    ((tree.resolve path).bind fun place =>
      if tree.hasDirectory place then some (tree.namesIn place) else none, tree)
  makeDirectories path := attempt (·.makeDirectories path)
  write path content := attempt (·.write path content.toUTF8)

end FileTree

end RolePolicy
