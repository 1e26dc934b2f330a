import RolePolicy.Json.Reader
import RolePolicy.Text.Quoted

/-!
# Decoding JSON values

A decoder turns a value into a value of a domain type, or reports the first fault in the order of the
text.  A record may be written as an object or as an array of its fields in order; unknown fields are
skipped whatever they hold.
-/

namespace RolePolicy.Json

/-- What stands where something else is expected. -/
inductive Found where
  | null
  | boolean (value : Bool)
  | integer (value : Int)
  | real (negative : Bool) (magnitude : Binary64)
  | string (text : String)
  | sequence
  | map
  deriving DecidableEq, Repr

/-- A value that is well written and has the wrong shape. -/
inductive Mismatch where
  | wrongType (found : Found) (expected : String)
  | missingField (name : String)
  | repeatedField (name : String)
  | tooFewFields (count : Nat) (expected : String)
  | unknownVariant (name : String) (known : List String)
  | noVariant (title : String)
  deriving DecidableEq, Repr

/-- Why a text cannot be decoded. -/
inductive Fault where
  | misspelt
  | surplus (count : Nat)
  | mismatch (reason : Mismatch)
  deriving DecidableEq, Repr

namespace Found

def text : Found → String
  | null => "null"
  | boolean value => s!"boolean `{value}`"
  | integer value => s!"integer `{value}`"
  | real negative magnitude =>
    let sign := if negative then "-" else ""
    s!"floating point `{sign}{String.ofList magnitude.exponential}`"
  | string value => "string " ++ Text.quoted value
  | sequence => "sequence"
  | map => "map"

end Found

namespace Mismatch

def message : Mismatch → String
  | wrongType found expected => s!"invalid type: {found.text}, expected {expected}"
  | missingField name => s!"missing field `{name}`"
  | repeatedField name => s!"duplicate field `{name}`"
  | tooFewFields count expected => s!"invalid length {count}, expected {expected}"
  | unknownVariant name known =>
    let names := " or ".intercalate (known.map fun n => s!"`{n}`")
    s!"unknown variant `{name}`, expected {names}"
  | noVariant title => s!"data did not match any variant of untagged enum {title}"

end Mismatch

namespace Fault

/-- What is wrong with the shape of a value that was not given as text. -/
def shapeMessage? : Fault → Option String
  | misspelt => none
  | surplus count => some s!"invalid length {count}, expected fewer elements in array"
  | mismatch reason => some reason.message

end Fault

/-- The fault of a value that is not what is expected. -/
def unexpected (expected : String) : Json → Fault
  | .unreadable | .garbled => .misspelt
  | .null => .mismatch (.wrongType .null expected)
  | .boolean value => .mismatch (.wrongType (.boolean value) expected)
  | .string text => .mismatch (.wrongType (.string text) expected)
  | .array _ => .mismatch (.wrongType .sequence expected)
  | .members _ => .mismatch (.wrongType .map expected)
  | .number numeral =>
    match numeral.value with
    | .integer value => .mismatch (.wrongType (.integer value) expected)
    | .real negative magnitude => .mismatch (.wrongType (.real negative magnitude) expected)
    | .outOfRange => .misspelt

def decodeString : Json → Except Fault String
  | .string text => .ok text
  | value => .error (unexpected "a string" value)

def decodeBoolean : Json → Except Fault Bool
  | .boolean value => .ok value
  | value => .error (unexpected "a boolean" value)

def decodeList {α : Type} (item : Json → Except Fault α) : Json → Except Fault (List α)
  | .array items => items.mapM item
  | value => .error (unexpected "a sequence" value)

def decodeStrings : Json → Except Fault (List String) :=
  decodeList decodeString

/-- `null` or a value. -/
def decodeOptional {α : Type} (some? : Json → Except Fault α) : Json → Except Fault (Option α)
  | .null => .ok none
  | value => (some? value).map some

/-- The name of a member as text. -/
def decodeName : Json → Except Fault String
  | .string name => .ok name
  | _ => .error .misspelt

/-- The entries of an object in order. -/
def decodeEntries {α : Type} (item : Json → Except Fault α) :
    Json → Except Fault (List (String × α))
  | .members pairs => pairs.mapM fun (name, value) => do
    let key ← decodeName name
    return (key, ← item value)
  | value => .error (unexpected "a map" value)

mutual

/-- Some part of the value could not be read. -/
def isBroken : Json → Bool
  | .unreadable => true
  | .array items => anyBroken items
  | .members pairs => anyBrokenMember pairs
  | _ => false

def anyBroken : List Json → Bool
  | [] => false
  | item :: items => isBroken item || anyBroken items

def anyBrokenMember : List (Json × Json) → Bool
  | [] => false
  | (name, value) :: pairs => !name.isName || isBroken value || anyBrokenMember pairs

end

/-- The deepest nesting of arrays and objects in a text whose values are kept. -/
def maxNesting : Nat := 127

mutual

/-- Some part of the value could not be read, spells no text, exceeds the range of numbers, or lies
deeper than `depth` levels of arrays and objects. -/
def isUnsound (depth : Nat) : Json → Bool
  | .unreadable | .garbled => true
  | .number numeral => numeral.value = .outOfRange
  | .array items =>
    match depth with
    | 0 => true
    | depth + 1 => anyUnsound depth items
  | .members pairs =>
    match depth with
    | 0 => true
    | depth + 1 => anyUnsoundMember depth pairs
  | _ => false

def anyUnsound (depth : Nat) : List Json → Bool
  | [] => false
  | item :: items => isUnsound depth item || anyUnsound depth items

def anyUnsoundMember (depth : Nat) : List (Json × Json) → Bool
  | [] => false
  | (name, value) :: pairs =>
    name.text?.isNone || isUnsound depth value || anyUnsoundMember depth pairs

end

/-- A record type as JSON shows it: its name, its fields in order, how a field is read into a draft
of the record, and the record of a draft, or else the first field that it lacks. -/
structure Shape (δ α : Type) where
  title : String
  names : List String
  start : δ
  add : δ → String → Json → Except Fault δ
  finish : δ → Except String α

/-- Read a field that may occur only once. -/
def once {α : Type} (name : String) (present : Option α) (decoded : Except Fault α) :
    Except Fault (Option α) :=
  match present with
  | some _ => .error (.mismatch (.repeatedField name))
  | none => decoded.map some

namespace Shape

variable {δ α : Type}

/-- Read the members of an object into a draft; unknown fields only have to be readable. -/
def addMembers (shape : Shape δ α) (draft : δ) : List (Json × Json) → Except Fault δ
  | [] => .ok draft
  | (name, value) :: pairs => do
    let name ← decodeName name
    if shape.names.contains name then
      shape.addMembers (← shape.add draft name value) pairs
    else if isBroken value then .error .misspelt
    else shape.addMembers draft pairs

/-- Read the items of an array into the fields of a draft in order. -/
def addItems (shape : Shape δ α) (draft : δ) : List String → List Json → Except Fault δ
  | name :: names, value :: values => do
    shape.addItems (← shape.add draft name value) names values
  | _, _ => .ok draft

/-- The number of fields in words. -/
def expectedLength (shape : Shape δ α) : String :=
  s!"struct {shape.title} with {shape.names.length} elements"

def decode (shape : Shape δ α) : Json → Except Fault α
  | .members pairs => do
    match shape.finish (← shape.addMembers shape.start pairs) with
    | .ok record => .ok record
    | .error missing => .error (.mismatch (.missingField missing))
  | .array items => do
    match shape.finish (← shape.addItems shape.start shape.names items) with
    | .ok record =>
      if shape.names.length < items.length then .error (.surplus items.length) else .ok record
    | .error missing =>
      .error (.mismatch (.tooFewFields (shape.names.idxOf missing) shape.expectedLength))
  | value => .error (unexpected s!"struct {shape.title}" value)

end Shape

/-- Decode a text; after the value there may be only space. -/
def decodeText {α : Type} (decode : Json → Except Fault α) (text : String) : Except Fault α :=
  let (value, complete) := read text
  match decode value with
  | .ok result => if complete then .ok result else .error .misspelt
  | .error fault => .error fault

end RolePolicy.Json
