import RolePolicy.Action.Category
import RolePolicy.Compiled

/-!
# Linting roles

Findings about composed roles: grants that reach too far, and role creation without a boundary.
Findings are advice; whether they block a deployment is a question to the report.
-/

namespace RolePolicy

/-- The condition keys that the rules look for, in any letter case, and whether warnings block. -/
structure LintConfig where
  strict : Bool := false
  /-- A clause on a key with one of these fronts asks for a tag. -/
  tagKeyPrefixes : List String :=
    ["aws:ResourceTag/", "aws:RequestTag/", "aws:TagKeys", "tag:"]
  /-- Keys that attribute a request to a calling service. -/
  callChainKeys : List String := ["aws:CalledVia", "aws:CalledViaFirst", "aws:CalledViaLast"]
  /-- Trust keys that pin the calling account. -/
  accountKeys : List String :=
    ["aws:SourceAccount", "aws:SourceArn", "aws:SourceOwner", "aws:PrincipalAccount"]
  deriving DecidableEq, Repr

inductive Severity where
  | warning
  | error
  deriving DecidableEq, Repr

inductive LintRule where
  | overlyBroadGrant
  | missingPermissionBoundary
  | unboundedPrivilege
  deriving DecidableEq, Repr

structure Finding where
  severity : Severity
  rule : LintRule
  bundle : BundleRef
  message : String
  deriving DecidableEq, Repr

def Severity.text : Severity → String
  | warning => "warning"
  | error => "error"

def LintRule.text : LintRule → String
  | overlyBroadGrant => "overly-broad-grant"
  | missingPermissionBoundary => "missing-permission-boundary"
  | unboundedPrivilege => "unbounded-privilege"

/-- The key by which a bundle can demand a boundary of the roles that it creates. -/
def boundaryKey : String := "iam:PermissionsBoundary"

namespace Clause

/-- The clause can hold only for requests that carry the key with one of certain values. -/
def requiresKey (c : Clause) : Bool :=
  c.quantifier ≠ .allValues &&
    match c.operator with
    | .null => c.isPresenceCheck
    | .notEquals => false
    | .equals => true
    | .like => !c.values.toList.contains "*"

/-- The key is one of a list, up to letter case. -/
def hasKeyIn (c : Clause) (keys : List String) : Bool :=
  keys.any (Text.sameFolded · c.key)

/-- The key begins with one of a list, up to letter case. -/
def hasKeyFront (c : Clause) (fronts : List String) : Bool :=
  fronts.any (Text.beginsFolded · c.key)

/-- The clause asks for a tag or for a calling service. -/
def narrows (config : LintConfig) (c : Clause) : Bool :=
  c.requiresKey && (c.hasKeyFront config.tagKeyPrefixes || c.hasKeyIn config.callChainKeys)

end Clause

namespace Predicate

/-- Some clause pins the calling account. -/
def pinsAccount (config : LintConfig) (p : Predicate) : Bool :=
  p.clauses.any fun c => c.requiresKey && c.hasKeyIn config.accountKeys

/-- Some clause demands a boundary of created roles. -/
def requiresBoundary (p : Predicate) : Bool :=
  p.clauses.any fun c =>
    decide (c.operator = .equals) && c.requiresKey && Text.sameFolded c.key boundaryKey

end Predicate

namespace Bundle

def mutatingActions (b : Bundle) : List Action :=
  b.actions.toList.filter Action.isMutating

/-- The bundle changes resources of any account, and no clause narrows it. -/
def isBroad (config : LintConfig) (b : Bundle) : Bool :=
  !b.mutatingActions.isEmpty && b.resources.any ResourcePattern.isAccountWildcard &&
    !b.conditions.clauses.any (Clause.narrows config)

def createsRoles (b : Bundle) : Bool :=
  b.actions.toList.any Action.isRoleCreation

end Bundle

namespace Finding

def broadMessage (b : Bundle) : String :=
  let actions := ", ".intercalate (b.mutatingActions.map Action.text)
  s!"overly broad grant: {actions} on a wildcard resource " ++
    "without a tag-presence or call-chain condition"

def unboundedMessage (role : String) (b : Bundle) : String :=
  let actions := ", ".intercalate (b.mutatingActions.map Action.text)
  s!"unbounded privilege: {actions} on a wildcard resource, " ++
    s!"and the trust policy of `{role}` does not constrain the calling account"

def boundaryMessage (role : String) : String :=
  s!"missing permission boundary: bundle creates roles but `{role}` declares no permission " ++
    s!"boundary and the bundle does not require `{boundaryKey}`"

/-- The finding about a bundle that is broad; how grave it is depends on the trust of its role. -/
def broad (r : Role) (pinned : Bool) (b : Bundle) (index : Nat) : Finding :=
  if pinned then ⟨.warning, .overlyBroadGrant, ⟨index, b.sid⟩, broadMessage b⟩
  else ⟨.error, .unboundedPrivilege, ⟨index, b.sid⟩, unboundedMessage r.name b⟩

/-- The finding about a bundle that creates roles without a boundary. -/
def boundary (r : Role) (b : Bundle) (index : Nat) : Finding :=
  ⟨.warning, .missingPermissionBoundary, ⟨index, b.sid⟩, boundaryMessage r.name⟩

end Finding

namespace Role

/-- Findings about the bundle at a position. -/
def lintBundle (config : LintConfig) (r : Role) (b : Bundle) (index : Nat) : List Finding :=
  if b.effect = .allow then
    (if b.isBroad config then
      [Finding.broad r (r.trust.conditions.pinsAccount config) b index] else []) ++
    if b.createsRoles ∧ r.permissionBoundary = none ∧ ¬b.conditions.requiresBoundary then
      [Finding.boundary r b index] else []
  else []

/-- Findings in bundle order. -/
def lint (config : LintConfig) (r : Role) : List Finding :=
  r.bundles.zipIdx.flatMap fun (b, index) => r.lintBundle config b index

end Role

/-- Findings by role name. -/
structure LintReport where
  roles : SortedMap String (List Finding)
  deriving DecidableEq

namespace LintReport

def findings (report : LintReport) : List Finding :=
  report.roles.values.flatten

def count (report : LintReport) (severity : Severity) : Nat :=
  report.findings.countP (·.severity == severity)

def isClean (report : LintReport) : Bool :=
  report.findings.isEmpty

/-- Errors block a deployment; in strict mode every finding does. -/
def blocks (report : LintReport) (strict : Bool) : Bool :=
  if strict then !report.isClean else 0 < report.count .error

end LintReport

namespace CompiledRoles

/-- Findings about a role by name. -/
def lint (c : CompiledRoles) (role : String) (config : LintConfig) :
    Except CompileError (List Finding) :=
  match c.role? role with
  | some r => .ok (r.lint config)
  | none => .error (.unknownRole role)

/-- The report on a single role. -/
def lintRole (c : CompiledRoles) (role : String) (config : LintConfig) :
    Except CompileError LintReport :=
  (c.lint role config).map fun findings => ⟨SortedMap.ofList [(role, findings)]⟩

/-- The report on all roles. -/
def lintAll (c : CompiledRoles) (config : LintConfig) : LintReport :=
  ⟨SortedMap.ofList (c.roles.map fun r => (r.name, r.lint config))⟩

end CompiledRoles

end RolePolicy
