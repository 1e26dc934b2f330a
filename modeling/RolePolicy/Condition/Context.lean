import RolePolicy.Sorted.Map

/-!
# Request contexts

The attributes that accompany a request, by key.  An attribute has one value or a list of them, and
the list may be empty.
-/

namespace RolePolicy

inductive ContextValue where
  | single (value : String)
  | multi (values : List String)
  deriving DecidableEq, Repr

/-- The values of an attribute in order. -/
def ContextValue.toList : ContextValue → List String
  | single value => [value]
  | multi values => values

/-- The attributes of a request by key. -/
abbrev RequestContext := SortedMap String ContextValue

/-- The value of an attribute that has exactly one. -/
def RequestContext.sole? (context : RequestContext) (key : String) : Option String :=
  match (context.get? key).map ContextValue.toList with
  | some [value] => some value
  | _ => none

end RolePolicy
