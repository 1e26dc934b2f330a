import RolePolicy.Condition.Context
import RolePolicy.Json.Decode

/-!
# Request contexts as JSON

A context is an object.  An attribute of one value is a string, an attribute of several values an
array of strings; where a key is repeated its last value counts.
-/

namespace RolePolicy

namespace ContextValue

/-- A string or an array of strings.  A value of another shape is looked at as a whole before it is
refused, so a fault of syntax inside it is reported first. -/
def ofJson (value : Json) : Except Json.Fault ContextValue :=
  if value.isUnsound Json.maxNesting.pred then .error .misspelt
  else
    match value with
    | .string text => .ok (.single text)
    | .array items =>
      match items.mapM Json.text? with
      | some texts => .ok (.multi texts)
      | none => .error (.mismatch (.noVariant "ContextValue"))
    | _ => .error (.mismatch (.noVariant "ContextValue"))

def toJson : ContextValue → Json
  | single value => .string value
  | multi values => .ofStrings values

end ContextValue

namespace RequestContext

def ofJson (value : Json) : Except Json.Fault RequestContext :=
  (Json.decodeEntries ContextValue.ofJson value).map SortedMap.ofList

/-- Read a context from JSON text. -/
def ofJsonText (text : String) : Except Json.Fault RequestContext :=
  Json.decodeText ofJson text

def toJson (context : RequestContext) : Json :=
  .object (context.entries.map fun (key, value) => (key, value.toJson))

end RequestContext

end RolePolicy
