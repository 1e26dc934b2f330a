import RolePolicy.Json.Basic
import RolePolicy.Role.Basic

/-!
# Roles as JSON

A composed role with every field, and the clauses of its conditions one by one.
-/

namespace RolePolicy

/-- The name of an operator apart from policy documents. -/
def Operator.name : Operator → String
  | equals => "Equals"
  | notEquals => "NotEquals"
  | null => "Null"
  | like => "StringLike"

/-- The name of a quantifier apart from policy documents. -/
def Quantifier.name : Quantifier → String
  | plain => "None"
  | anyValue => "ForAny"
  | allValues => "ForAll"

def Clause.toJson (c : Clause) : Json :=
  .object [("operator", .string c.operator.name), ("quantifier", .string c.quantifier.name),
    ("key", .string c.key), ("values", .ofStrings c.values.toList)]

def Predicate.toJson (p : Predicate) : Json :=
  .array (p.clauses.map Clause.toJson)

def Bundle.toJson (b : Bundle) : Json :=
  .object [("sid", .ofOptional b.sid), ("effect", .string b.effect.text),
    ("actions", .ofStrings (b.actions.toList.map Action.text)),
    ("resources", .ofStrings (b.resources.map ResourcePattern.text)),
    ("conditions", b.conditions.toJson)]

def Trust.toJson (t : Trust) : Json :=
  .object [("principal", .string t.principal), ("conditions", t.conditions.toJson)]

def Role.toJson (r : Role) : Json :=
  .object [("name", .string r.name), ("kind", .string r.kind.text), ("trust", r.trust.toJson),
    ("bundles", .array (r.bundles.map Bundle.toJson)),
    ("permission_boundary", .ofOptional (r.permissionBoundary.map ResourcePattern.text))]

end RolePolicy
