import RolePolicy.Condition.Context
import RolePolicy.Condition.Predicate
import RolePolicy.Glob

/-!
# Evaluation of conditions

Whether a clause holds in a request context.  Policy variables in the values are resolved against the
same context; a clause whose variables cannot be resolved does not hold.
-/

namespace RolePolicy

/-- The text of a piece in a context: a variable stands for an attribute that has exactly one
value. -/
def RequestContext.resolvePiece (context : RequestContext) : Text.Piece → Option (List Char)
  | .literal c => some [c]
  | .variable name => (context.sole? (String.ofList name)).map String.toList
  | .unclosed _ => none

/-- A value with its variables replaced once. -/
def RequestContext.resolve (context : RequestContext) (value : String) : Option String :=
  ((Text.pieces value.toList).mapM context.resolvePiece).map fun texts =>
    String.ofList texts.flatten

namespace Operator

/-- One value of an attribute passes against the expected values. -/
def passes (operator : Operator) (expected : List String) (value : String) : Bool :=
  match operator with
  | equals => expected.contains value
  | notEquals => !expected.contains value
  | like => expected.any (Glob.accepts · value)
  | null => false

end Operator

namespace Clause

/-- The clause holds in the context.  A missing key fails it, unless the clause asks for absence or
speaks about all values. -/
def holds (c : Clause) (context : RequestContext) : Bool :=
  let entry := (context.get? c.key).map ContextValue.toList
  if c.operator = .null then
    entry.isNone == decide ("true" ∈ c.values)
  else
    match c.values.toList.mapM context.resolve with
    | none => false
    | some expected =>
      match c.quantifier, entry with
      | .allValues, none => true
      | .allValues, some values => values.all (c.operator.passes expected)
      | .anyValue, none => false
      | .anyValue, some values => values.any (c.operator.passes expected)
      | .plain, none => false
      | .plain, some values => !values.isEmpty && values.all (c.operator.passes expected)

end Clause

/-- Every clause holds. -/
def Predicate.holds (p : Predicate) (context : RequestContext) : Bool :=
  p.clauses.all (·.holds context)

end RolePolicy
