/-!
# Condition operators

A condition clause compares a request attribute with the values of the manifest by an operator, which
may carry a quantifier for attributes of several values.  Each operator has a wire name, used in
policy documents, and may be written in a short form in manifests.
-/

namespace RolePolicy

/-- How a clause treats an attribute of several values: every value of an attribute that is there,
at least one value, or every value of an attribute that may be missing. -/
inductive Quantifier where
  | plain
  | anyValue
  | allValues
  deriving DecidableEq, Repr

inductive Operator where
  | equals
  | notEquals
  | null
  | like
  deriving DecidableEq, Repr

/-- Why a condition clause is refused. -/
inductive ClauseFault where
  | unknownOperator (name : String)
  | quantifiedNull (raw : String)
  | badKey (key : String)
  | badNullValue (key : String)
  | noValue (operator : Operator) (key : String)
  | unclosedVariable (value key : String)
  | placeholder (name key : String)
  | repeated (block key : String)
  | missingOperator
  | missingKey (operator : String)
  | unquotedValue (operator key : String)
  | unquotedItem
  deriving DecidableEq, Repr

namespace Quantifier

def wirePrefix : Quantifier → String
  | plain => ""
  | anyValue => "ForAnyValue:"
  | allValues => "ForAllValues:"

end Quantifier

namespace Operator

def wireName : Operator → String
  | equals => "StringEquals"
  | notEquals => "StringNotEquals"
  | null => "Null"
  | like => "StringLike"

/-- The operator of a wire name or a short form. -/
def ofName? (name : String) : Option Operator :=
  if name = "StringEquals" ∨ name = "Equals" then some equals
  else if name = "StringNotEquals" ∨ name = "NotEquals" then some notEquals
  else if name = "StringLike" then some like
  else if name = "Null" then some null
  else none

end Operator

namespace Quantifier

/-- The quantifier at the front of an operator as written, and the name behind it. -/
def split (raw : String) : Quantifier × String :=
  match anyValue.wirePrefix.toList.isPrefixOf? raw.toList with
  | some name => (anyValue, String.ofList name)
  | none =>
    match allValues.wirePrefix.toList.isPrefixOf? raw.toList with
    | some name => (allValues, String.ofList name)
    | none => (plain, raw)

end Quantifier

namespace ClauseFault

def message : ClauseFault → String
  | unknownOperator name => s!"unknown operator `{name}`"
  | quantifiedNull raw => s!"`{raw}`: Null does not take a set quantifier"
  | badKey key => s!"invalid condition key `{key}` (expected `prefix:name`)"
  | badNullValue key => s!"Null on `{key}` takes exactly one value, \"true\" or \"false\""
  | noValue operator key => s!"{operator.wireName} on `{key}` requires at least one value"
  | unclosedVariable value key => s!"unterminated variable in value `{value}` of `{key}`"
  | placeholder name key => "unresolved placeholder `$\x7b" ++ name ++ s!"\x7d` in value of `{key}`"
  | repeated block key => s!"duplicate {block} clause on `{key}`"
  | missingOperator =>
    "condition node requires an operator argument (e.g. condition \"StringEquals\")"
  | missingKey operator => s!"`{operator}` condition missing `key` property"
  | unquotedValue operator key =>
    s!"`{operator}` condition on `{key}` has a non-string `value` (quote it)"
  | unquotedItem => "`-` item under `condition` must be a quoted string"

end ClauseFault

/-- Read an operator as written in a manifest. -/
def Operator.parse (raw : String) : Except ClauseFault (Quantifier × Operator) :=
  let (quantifier, name) := Quantifier.split raw
  match Operator.ofName? name with
  | none => .error (.unknownOperator name)
  | some operator =>
    if operator = .null ∧ quantifier ≠ .plain then .error (.quantifiedNull raw)
    else .ok (quantifier, operator)

end RolePolicy
