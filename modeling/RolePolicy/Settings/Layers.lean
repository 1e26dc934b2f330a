import RolePolicy.Text.Small
import RolePolicy.Toml.Basic

/-!
# Layers of settings

Settings come in layers, and a later layer wins over an earlier one: a table is merged into the table
that is there, and any other value takes the place of what is there.  Names are compared in small
letters.  A key of a layer may be a path such as `output.dir`.
-/

namespace RolePolicy.Settings

open Toml (Fields)

/-- Bind a name at its place, or at the end. -/
def put (fields : Fields) (name : String) (value : Toml) : Fields :=
  match fields with
  | [] => [(name, value)]
  | (n, v) :: rest => if n = name then (n, value) :: rest else (n, v) :: put rest name value

mutual

/-- Bind a name to a value; a table is merged into what is there. -/
def assign (fields : Fields) (name : String) : Toml → Fields
  | .table incoming =>
    let name := Text.small name
    put fields name (mergeInto ((fields.lookup name).getD (.table [])) incoming)
  | value => put fields (Text.small name) value

/-- Merge the fields of a table into a value, which becomes a table if there are any. -/
def mergeInto (target : Toml) : Fields → Toml
  | [] => target
  | (name, value) :: rest => mergeInto (.table (assign target.fields name value)) rest

end

/-! ### Paths -/

/-- A step from a value to a part of it.  An index below zero counts from the end. -/
inductive Step where
  | name (name : String)
  | index (index : Int)
  deriving DecidableEq, Repr

def isNameChar (c : Char) : Bool :=
  c.isAlphanum || c == ' ' || c == '_' || c == '-'

/-- The name at the front of a text, at least one character. -/
def readName (cs : List Char) : Option (String × List Char) :=
  match cs.takeWhile isNameChar with
  | [] => none
  | name => some (String.ofList name, cs.dropWhile isNameChar)

/-- The sign and the digits of a number of 64 bits; blanks may stand around them, but not between. -/
def readIndex (cs : List Char) : Option (Int × List Char) :=
  let isBlank (c : Char) : Bool := c == ' ' || c == '\t'
  let (negative, cs) := match cs.dropWhile isBlank with
    | '-' :: rest => (true, rest)
    | cs => (false, cs)
  match cs.takeWhile Char.isDigit, (cs.dropWhile Char.isDigit).dropWhile isBlank with
  | [], _ => none
  | digits, ']' :: rest =>
    let n : Nat := digits.foldl (fun n c => 10 * n + (c.toNat - '0'.toNat)) 0
    let index : Int := if negative then -n else n
    if fitsSigned 64 index then some (index, rest) else none
  | _, _ => none

def readSteps : Nat → List Char → Option (List Step)
  | _, [] => some []
  | fuel + 1, '.' :: rest => do
    let (name, rest) ← readName rest
    return .name name :: (← readSteps fuel rest)
  | fuel + 1, '[' :: rest => do
    let (index, rest) ← readIndex rest
    return .index index :: (← readSteps fuel rest)
  | _, _ => none

/-- The path that a key spells; any other key is a name as a whole. -/
def path (key : String) : String × List Step :=
  let cs := key.toList
  match readName cs with
  | none => (key, [])
  | some (name, rest) =>
    match readSteps rest.length rest with
    | none => (key, [])
    | some steps => (name, steps)

/-- What stands where nothing has been set. -/
def nothing : Toml := .table []

/-- A list that is long enough for an index, and the place of the index in it.  It grows at its end,
or at its start for an index below zero. -/
def grown (items : List Toml) (index : Int) : List Toml × Nat :=
  let place : Int := if index < 0 then items.length + index else index
  if place < 0 then (List.replicate place.natAbs nothing ++ items, 0)
  else (items ++ List.replicate (place.toNat + 1 - items.length) nothing, place.toNat)

/-- The items of an array; other values have none. -/
def items : Toml → List Toml
  | .array items => items
  | _ => []

/-- Set a value at the end of a path within another value, which takes the shape that the path
needs. -/
def assignAt (value : Toml) (target : Toml) : List Step → Toml
  | [] => value
  | [.name name] => .table (assign target.fields name value)
  | .name name :: steps =>
    let name := Text.small name
    let inner := (target.fields.lookup name).getD nothing
    .table (put target.fields name (assignAt value inner steps))
  | .index index :: steps =>
    let (items, place) := grown (items target) index
    .array (items.set place (assignAt value ((items[place]?).getD nothing) steps))

/-- Set a key of a layer. -/
def set (fields : Fields) (key : String) (value : Toml) : Fields :=
  match path key with
  | (name, []) => assign fields name value
  | (name, steps) =>
    let name := Text.small name
    put fields name (assignAt value ((fields.lookup name).getD nothing) steps)

/-- Lay a layer over the fields that are there. -/
def overlay (fields layer : Fields) : Fields :=
  layer.foldl (fun fields (key, value) => set fields key value) fields

end RolePolicy.Settings
