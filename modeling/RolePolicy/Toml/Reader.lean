import RolePolicy.Toml.Draft
import RolePolicy.Toml.Literal

/-!
# Reading TOML

A document is a list of lines: blank ones, headers of tables, and keys with their values.
`Toml.read?` gives the fields of its root table, or nothing where the text is no document.
-/

namespace RolePolicy.Toml

/-! ### Keys -/

def isKeyChar (c : Char) : Bool :=
  c.isAlphanum || c == '-' || c == '_'

/-- One name of a key. -/
def readName (cs : List Char) : Option (String × List Char) :=
  match cs with
  | '"' :: rest =>
    (readBasic (rest.length + 1) rest).map fun (text, rest) => (String.ofList text, rest)
  | '\'' :: rest => (readLiteral rest).map fun (text, rest) => (String.ofList text, rest)
  | cs =>
    match cs.takeWhile isKeyChar with
    | [] => none
    | name => some (String.ofList name, cs.dropWhile isKeyChar)

/-- The names of a dotted key, at least one. -/
def readNames : Nat → List Char → Option (List String × List Char)
  | 0, _ => none
  | fuel + 1, cs => do
    let (name, cs) ← readName (skipBlanks cs)
    match skipBlanks cs with
    | '.' :: rest => do
      let (names, rest) ← readNames fuel rest
      return (name :: names, rest)
    | rest => return ([name], rest)

/-- Keys and values go less than this number of levels deep. -/
def maxDepth : Nat := 80

/-- The first name of a dotted key, and the other ones. -/
def readKey (cs : List Char) : Option ((String × List String) × List Char) := do
  match ← readNames (cs.length + 1) cs with
  | (name :: path, rest) => if path.length + 1 < maxDepth then some ((name, path), rest) else none
  | ([], _) => none

/-! ### Values -/

/-- Drop the comment at the front of a text, up to the end of its line. -/
def skipComment : List Char → List Char
  | '#' :: rest => rest.dropWhile isPlain
  | cs => cs

/-- Drop blanks, comments and line breaks. -/
def skipFiller : Nat → List Char → List Char
  | 0, cs => cs
  | fuel + 1, cs =>
    match skipBlanks cs with
    | '#' :: rest => skipFiller fuel (rest.dropWhile isPlain)
    | cs =>
      match newline? cs with
      | some rest => skipFiller fuel rest
      | none => cs

def skipAllFiller (cs : List Char) : List Char :=
  skipFiller (cs.length + 1) cs

mutual

/-- Read a value; `depth` is the number of levels that it may have, `fuel` bounds its parts. -/
def readValue (fuel depth : Nat) (cs : List Char) : Option (Toml × List Char) :=
  match fuel with
  | 0 => none
  | fuel + 1 =>
    match cs, depth with
    | '[' :: _, 0 | '\x7b' :: _, 0 => none
    | '[' :: rest, depth + 1 =>
      (readItems fuel depth (skipAllFiller rest)).map fun (items, rest) => (.array items, rest)
    | '\x7b' :: rest, depth + 1 =>
      match skipBlanks rest with
      | '\x7d' :: rest => some (.table [], rest)
      | rest =>
        (readPairs fuel depth [] rest).map fun (fields, rest) =>
          (.table (Draft.finishFields fields), rest)
    | cs, _ => readScalar cs

/-- Read the items of an array up to its end; there may be a comma after the last one. -/
def readItems (fuel depth : Nat) (cs : List Char) : Option (List Toml × List Char) :=
  match fuel with
  | 0 => none
  | fuel + 1 =>
    match cs with
    | ']' :: rest => some ([], rest)
    | cs => do
      let (item, cs) ← readValue fuel depth cs
      match skipAllFiller cs with
      | ',' :: rest => do
        let (items, rest) ← readItems fuel depth (skipAllFiller rest)
        return (item :: items, rest)
      | ']' :: rest => return ([item], rest)
      | _ => none

/-- Read the pairs of an inline table up to its end. -/
def readPairs (fuel depth : Nat) (fields : Draft.Fields) (cs : List Char) :
    Option (Draft.Fields × List Char) :=
  match fuel with
  | 0 => none
  | fuel + 1 => do
    let ((name, path), cs) ← readKey cs
    let cs ← expectChar '=' cs
    let (value, cs) ← readValue fuel depth (skipBlanks cs)
    let fields ← Draft.bind value name path fields
    match skipBlanks cs with
    | ',' :: rest => readPairs fuel depth fields rest
    | '\x7d' :: rest => return (fields, rest)
    | _ => none

end

/-! ### Documents -/

/-- A line of a document. -/
inductive Statement where
  | table (name : String) (path : List String)
  | row (name : String) (path : List String)
  | pair (name : String) (path : List String) (value : Toml)

/-- What follows the end of a line: blanks, a comment and a line break. -/
def endOfLine? (cs : List Char) : Option (List Char) :=
  match skipComment (skipBlanks cs) with
  | [] => some []
  | cs => newline? cs

/-- A header or a pair. -/
def readStatement (cs : List Char) : Option (Statement × List Char) :=
  match cs with
  | '[' :: '[' :: rest => do
    let ((name, path), rest) ← readKey rest
    let rest ← expectChar ']' rest
    let rest ← expectChar ']' rest
    return (.row name path, rest)
  | '[' :: rest => do
    let ((name, path), rest) ← readKey rest
    let rest ← expectChar ']' rest
    return (.table name path, rest)
  | cs => do
    let ((name, path), rest) ← readKey cs
    let rest ← expectChar '=' rest
    let (value, rest) ← readValue (2 * rest.length + 2) (maxDepth - 1) (skipBlanks rest)
    return (.pair name path value, rest)

/-- The statements of a text. -/
def readStatements : Nat → List Char → Option (List Statement)
  | 0, _ => none
  | fuel + 1, cs =>
    match skipAllFiller cs with
    | [] => some []
    | cs => do
      let (statement, rest) ← readStatement cs
      let rest ← endOfLine? rest
      return statement :: (← readStatements fuel rest)

/-- A draft of a document, and the path of the table that is being filled. -/
structure Progress where
  root : Draft.Fields
  path : List String

/-- All names of a key but the last, and the last. -/
def splitKey (name : String) : List String → List String × String
  | [] => ([], name)
  | next :: path =>
    let (front, last) := splitKey next path
    (name :: front, last)

namespace Progress

def add (p : Progress) : Statement → Option Progress
  | .table name path => do
    let (front, last) := splitKey name path
    return ⟨← Draft.alterAt (Draft.defineTable last) front p.root, name :: path⟩
  | .row name path => do
    let (front, last) := splitKey name path
    return ⟨← Draft.alterAt (Draft.addRow last) front p.root, name :: path⟩
  | .pair name path value => do
    return { p with root := ← Draft.alterAt (Draft.bind value name path) p.path p.root }

end Progress

/-- A byte order mark in front of a document does not count. -/
def dropMark : List Char → List Char
  | '\ufeff' :: rest => rest
  | cs => cs

/-- The fields of a document, of which the root may not stand for a date. -/
def read? (cs : List Char) : Option Fields := do
  let cs := dropMark cs
  let statements ← readStatements (cs.length + 1) cs
  let progress ← statements.foldlM Progress.add ⟨[], []⟩
  match ← resolveDates (.table (Draft.finishFields progress.root)) with
  | .table fields => return fields
  | _ => none

end RolePolicy.Toml
