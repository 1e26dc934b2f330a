import RolePolicy.Manifest.Substitution
import RolePolicy.Role.Compose

/-!
# Compiled roles

Compiling a manifest substitutes placeholders, builds the catalog, and composes the roles in order.
Either every role is compiled, or the first defect is reported and there is no result.
-/

namespace RolePolicy

/-- The roles of a manifest with the catalog that they were checked against. -/
structure CompiledRoles where
  catalog : Catalog
  roles : List Role
  substitutions : Substitutions
  deriving DecidableEq

namespace RoleSpec

/-- Names are unique, and there is at most one role of each kind; `earlier` holds the roles in front
of those of the list, the last one first. -/
def checkDistinct (earlier : List RoleSpec) : List RoleSpec → Except CompileError Unit
  | [] => .ok ()
  | r :: rest =>
    if earlier.any (·.name == r.name) then .error (.invalidManifest (.repeatedRole r.name))
    else
      match earlier.find? (·.kind == r.kind) with
      | some e => .error (.invalidManifest (.repeatedKind e.name r.name r.kind))
      | none => checkDistinct (r :: earlier) rest

end RoleSpec

/-- The catalog of a manifest. -/
def Manifest.actionCatalog (m : Manifest) : Catalog :=
  Catalog.ofServices m.catalog.entries

/-- Compile a manifest under substitutions. -/
def Manifest.compile (m : Manifest) (substitutions : Substitutions) :
    Except CompileError CompiledRoles := do
  let m := substitutions.applyManifest m
  let catalog := m.actionCatalog
  RoleSpec.checkDistinct [] m.roles
  let roles ← m.roles.mapM (Role.compose catalog)
  return { catalog, roles, substitutions }

namespace CompiledRoles

def role? (c : CompiledRoles) (name : String) : Option Role :=
  c.roles.find? (·.name == name)

def roleOfKind? (c : CompiledRoles) (kind : RoleKind) : Option Role :=
  c.roles.find? (·.kind == kind)

/-- The ARN of a role, or its bare name where no account is known. -/
def identifier (c : CompiledRoles) (r : Role) : String :=
  match c.substitutions.account? with
  | some account => s!"arn:{c.substitutions.partition}:iam::{account}:role/{r.name}"
  | none => r.name

/-- The identifiers that a deployment reads, by output name. -/
def outputs (c : CompiledRoles) : SortedMap String String :=
  SortedMap.ofList (c.roles.map fun r => (r.kind.outputName, c.identifier r))

end CompiledRoles

end RolePolicy
