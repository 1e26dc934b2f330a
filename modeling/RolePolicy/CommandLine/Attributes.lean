import RolePolicy.Condition.Context
import RolePolicy.Failure
import RolePolicy.Text.Split

/-!
# Attributes on the command line

A request attribute is written `key=value`.  A key that is given several times has all its values in
their order, and the attributes of the command line take the place of those of a file.
-/

namespace RolePolicy.CommandLine

/-- The key and the value of an attribute; the first equals sign parts them. -/
def parseAttribute (text : String) : Except Failure (String × String) :=
  match Text.splitFirst '=' text.toList with
  | some (c :: key, value) => .ok (String.ofList (c :: key), String.ofList value)
  | _ => .error (.badRequest ("expected `key=value`, got `" ++ text ++ "`"))

/-- Add a value to the values of its key, which keep the order in which their keys came first. -/
def collect (groups : List (String × List String)) (key value : String) :
    List (String × List String) :=
  match groups with
  | [] => [(key, [value])]
  | (k, values) :: rest =>
    if k = key then (k, values ++ [value]) :: rest else (k, values) :: collect rest key value

/-- The values of each key. -/
def collectAll (pairs : List (String × String)) : List (String × List String) :=
  pairs.foldl (fun groups (key, value) => collect groups key value) []

/-- The attribute of the values given for a key. -/
def attributeValue : List String → ContextValue
  | [value] => .single value
  | values => .multi values

/-- A context with the attributes of the command line in it. -/
def withAttributes (context : RequestContext) (pairs : List (String × String)) : RequestContext :=
  (collectAll pairs).foldl (fun c (key, values) => c.insert key (attributeValue values)) context

end RolePolicy.CommandLine
