import RolePolicy.Toml.Basic

/-!
# TOML documents under construction

A document fills its tables step by step, and a table may be defined only once.  A draft remembers
how each table came about: under a header of its own, through the header of a table inside it, or
through a dotted key.
-/

namespace RolePolicy.Toml

/-- How a table came about. -/
inductive Origin where
  | header
  | deeperHeader
  | dottedKey
  deriving DecidableEq, Repr

/-- A value of a document that is not complete.  Of an array of tables the last row comes first. -/
inductive Draft where
  | value (value : Toml)
  | table (origin : Origin) (fields : List (String × Draft))
  | rows (rows : List (List (String × Draft)))

namespace Draft

abbrev Fields := List (String × Draft)

/-- Bind a name at its place, or at the end. -/
def put (fields : Fields) (name : String) (draft : Draft) : Fields :=
  match fields with
  | [] => [(name, draft)]
  | (n, d) :: rest => if n = name then (n, draft) :: rest else (n, d) :: put rest name draft

/-- Change the table to which the path of a header leads; tables on the way are created, and of an
array of tables the last row counts. -/
def alterAt (change : Fields → Option Fields) : List String → Fields → Option Fields
  | [], fields => change fields
  | name :: path, fields =>
    match fields.lookup name with
    | none => (alterAt change path []).map fun sub => put fields name (.table .deeperHeader sub)
    | some (.value _) => none
    | some (.table origin sub) =>
      (alterAt change path sub).map fun sub => put fields name (.table origin sub)
    | some (.rows []) => none
    | some (.rows (last :: earlier)) =>
      (alterAt change path last).map fun last => put fields name (.rows (last :: earlier))

/-- Define the table of a header; only a table that stems from deeper headers may be there already,
and it moves to the end. -/
def defineTable (name : String) (fields : Fields) : Option Fields :=
  match fields.lookup name with
  | none => some (put fields name (.table .header []))
  | some (.table .deeperHeader sub) =>
    some (fields.filter (·.1 ≠ name) ++ [(name, .table .header sub)])
  | some _ => none

/-- Add a row to the array of tables of a header. -/
def addRow (name : String) (fields : Fields) : Option Fields :=
  match fields.lookup name with
  | none => some (put fields name (.rows [[]]))
  | some (.rows earlier) => some (put fields name (.rows ([] :: earlier)))
  | some _ => none

/-- Bind a dotted key, given as its first name and the other ones.  Tables on the way are created;
one under a header of its own is closed, and the last one must stem from dotted keys. -/
def bind (bound : Toml) (name : String) : List String → Fields → Option Fields
  | [], fields =>
    match fields.lookup name with
    | none => some (put fields name (.value bound))
    | some _ => none
  | next :: path, fields =>
    match fields.lookup name with
    | none => (bind bound next path []).map fun sub => put fields name (.table .dottedKey sub)
    | some (.table .dottedKey sub) =>
      (bind bound next path sub).map fun sub => put fields name (.table .dottedKey sub)
    | some (.table .deeperHeader sub) =>
      if path.isEmpty then none
      else (bind bound next path sub).map fun sub => put fields name (.table .deeperHeader sub)
    | some (.rows (last :: earlier)) =>
      if path.isEmpty then none
      else (bind bound next path last).map fun last => put fields name (.rows (last :: earlier))
    | some _ => none

mutual

def finish : Draft → Toml
  | .value whole => whole
  | .table _ fields => .table (finishFields fields)
  | .rows lines => .array (finishRows lines [])

def finishFields : Fields → Toml.Fields
  | [] => []
  | (name, draft) :: rest => (name, finish draft) :: finishFields rest

/-- The rows in order, in front of those of `later`. -/
def finishRows : List Fields → List Toml → List Toml
  | [], later => later
  | row :: earlier, later => finishRows earlier (.table (finishFields row) :: later)

end

end Draft

end RolePolicy.Toml
