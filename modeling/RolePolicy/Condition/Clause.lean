import RolePolicy.Condition.Operator
import RolePolicy.Sorted.Set
import RolePolicy.Text.Basic
import RolePolicy.Text.Split
import RolePolicy.Text.Template

/-!
# Condition clauses

A clause names a request attribute by its key, `prefix:name`, and compares it with a set of values by
a quantified operator.  `Clause.parse` checks a clause as written; its values may hold policy
variables, which are closed and namespaced.
-/

namespace RolePolicy

/-- A clause that has been checked. -/
structure Clause where
  operator : Operator
  quantifier : Quantifier
  key : String
  values : SortedSet String
  deriving DecidableEq

namespace Clause

/-- Characters of the part of a key before its first colon. -/
def isKeyPrefixChar (c : Char) : Bool :=
  c.isAlphanum || c == '-' || c == '_'

/-- A key is `prefix:name`, both parts non-empty, without blank or control characters. -/
def isKey (key : String) : Bool :=
  match Text.splitFirst ':' key.toList with
  | none => false
  | some (front, name) =>
    !front.isEmpty && !name.isEmpty && front.all isKeyPrefixChar &&
      !key.toList.any Text.isBlankOrControl

/-- The first fault among the pieces of a value: a variable that is not closed or not namespaced. -/
def valueFault? (key value : String) : List Text.Piece → Option ClauseFault
  | [] => none
  | .literal _ :: rest => valueFault? key value rest
  | .unclosed _ :: _ => some (.unclosedVariable value key)
  | .variable name :: rest =>
    if Text.isNamespaced name then valueFault? key value rest
    else some (.placeholder (String.ofList name) key)

def checkValue (key value : String) : Except ClauseFault Unit :=
  match valueFault? key value (Text.pieces value.toList) with
  | none => .ok ()
  | some fault => .error fault

/-- The value of a `Null` clause is a truth value in any letter case. -/
def nullValue? : List String → Option String
  | [value] =>
    let folded := Text.foldCase value
    if folded = "true" ∨ folded = "false" then some folded else none
  | _ => none

/-- The values of a clause as a set. -/
def parseValues (operator : Operator) (key : String) (values : List String) :
    Except ClauseFault (SortedSet String) :=
  if operator = .null then
    match nullValue? values with
    | some value => .ok (SortedSet.singleton value)
    | none => .error (.badNullValue key)
  else if values = [] then .error (.noValue operator key)
  else do
    values.forM (checkValue key)
    return SortedSet.ofList values

/-- Check a clause as written; the first rule that it breaks is reported. -/
def parse (operator key : String) (values : List String) : Except ClauseFault Clause := do
  let (quantifier, operator) ← Operator.parse operator
  if isKey key then
    return { operator, quantifier, key, values := ← parseValues operator key values }
  else
    .error (.badKey key)

/-- `Null` with the value `false`: the key must be present. -/
def isPresenceCheck (c : Clause) : Bool :=
  c.operator = .null && "false" ∈ c.values

/-- The operator block of a policy document to which the clause belongs. -/
def block (c : Clause) : String :=
  c.quantifier.wirePrefix ++ c.operator.wireName

end Clause

end RolePolicy
