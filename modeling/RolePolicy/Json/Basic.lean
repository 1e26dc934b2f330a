import RolePolicy.Json.Numeral

/-!
# JSON values

A JSON value, or as much of one as could be read: `unreadable` stands where reading a text stopped,
and `garbled` for a string whose escapes spell no text.  The members of an object are pairs of a name
and a value; a name that is not a string is what stands in its place.  Decoding meets the parts of a
value in the order of its text, so it reports the first fault of the text, be it of syntax or of
shape.
-/

namespace RolePolicy

inductive Json where
  | null
  | boolean (value : Bool)
  | number (numeral : Json.Numeral)
  | string (text : String)
  | garbled
  | array (items : List Json)
  | members (members : List (Json × Json))
  | unreadable

namespace Json

instance : Inhabited Json := ⟨null⟩

/-- The object with the given fields. -/
def object (fields : List (String × Json)) : Json :=
  .members (fields.map fun (name, value) => (.string name, value))

def ofNat (n : Nat) : Json :=
  .number (Numeral.ofNat n)

/-- The value is a string, so that a member may have it for a name. -/
def isName : Json → Bool
  | string _ | garbled => true
  | _ => false

/-- The text of a string. -/
def text? : Json → Option String
  | string text => some text
  | _ => none

def ofStrings (texts : List String) : Json :=
  .array (texts.map .string)

/-- A text or `null`. -/
def ofOptional (text : Option String) : Json :=
  (text.map string).getD null

end Json

end RolePolicy
