import RolePolicy.Compiled
import RolePolicy.Json.Printer

/-!
# Policy documents

The documents that a deployment takes for a role: what the role may do, one statement for each
bundle, and who may assume it.  Actions, resources and condition values are listed in ascending
order, each once.
-/

namespace RolePolicy

/-- The version of the policy language. -/
def policyVersion : String := "2012-10-17"

/-- A statement of a policy document. -/
structure Statement where
  sid : Option String
  effect : Effect
  action : List String
  resource : List String
  condition : ConditionBlocks
  deriving DecidableEq

structure PolicyDocument where
  statements : List Statement
  deriving DecidableEq

/-- Whether a principal is a service or an account's user or role. -/
inductive PrincipalType where
  | service
  | aws
  deriving DecidableEq, Repr

/-- The one statement of a trust document. -/
structure TrustDocument where
  principalType : PrincipalType
  principal : String
  condition : ConditionBlocks
  deriving DecidableEq

namespace PrincipalType

def text : PrincipalType → String
  | service => "Service"
  | aws => "AWS"

/-- Services are the principals under `amazonaws.com`. -/
def ofPrincipal (principal : String) : PrincipalType :=
  if ".amazonaws.com".toList.isSuffixOf principal.toList then service else aws

end PrincipalType

/-- The texts of a list in ascending order, each once. -/
def ascendingTexts (texts : List String) : List String :=
  (SortedSet.ofList texts).toList

namespace Statement

def ofBundle (b : Bundle) : Statement where
  sid := b.sid
  effect := b.effect
  action := (b.actions.toList.map Action.text).mergeSort fun a b => decide (a ≤ b)
  resource := ascendingTexts (b.resources.map ResourcePattern.text)
  condition := b.conditions.blocks

end Statement

namespace Role

def policyDocument (r : Role) : PolicyDocument :=
  ⟨r.bundles.map Statement.ofBundle⟩

def trustDocument (r : Role) : TrustDocument where
  principalType := PrincipalType.ofPrincipal r.trust.principal
  principal := r.trust.principal
  condition := r.trust.conditions.blocks

end Role

namespace ConditionBlocks

def toJson (blocks : ConditionBlocks) : Json :=
  .object (blocks.entries.map fun (block, keys) =>
    (block, .object (keys.entries.map fun (key, values) => (key, .ofStrings values))))

/-- The field of a condition; there is none without blocks. -/
def toField (blocks : ConditionBlocks) : List (String × Json) :=
  if blocks.isEmpty then [] else [("Condition", toJson blocks)]

end ConditionBlocks

namespace Statement

def toJson (s : Statement) : Json :=
  .object ((s.sid.map fun sid => ("Sid", Json.string sid)).toList ++
    [("Effect", .string s.effect.text), ("Action", .ofStrings s.action),
      ("Resource", .ofStrings s.resource)] ++ ConditionBlocks.toField s.condition)

end Statement

namespace PolicyDocument

def toJson (d : PolicyDocument) : Json :=
  .object [("Version", .string policyVersion),
    ("Statement", .array (d.statements.map Statement.toJson))]

end PolicyDocument

namespace TrustDocument

def toJson (d : TrustDocument) : Json :=
  .object [("Version", .string policyVersion),
    ("Statement", .array [.object (
      [("Effect", .string Effect.allow.text),
        ("Principal", .object [(d.principalType.text, .string d.principal)]),
        ("Action", .string "sts:AssumeRole")] ++ ConditionBlocks.toField d.condition)])]

end TrustDocument

end RolePolicy
