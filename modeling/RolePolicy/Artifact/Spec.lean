import RolePolicy.Artifact

/-!
# Roles read back from artifacts

The documents of a role say all that its manifest said, up to spelling and order.  An artifact read
back is a role as written, with one bundle for each statement and one clause for each block and key.
-/

namespace RolePolicy

/-- The clauses that a condition states, by block and then by key. -/
def ConditionBlocks.toSpecs (blocks : ConditionBlocks) : List ClauseSpec :=
  blocks.entries.flatMap fun (block, keys) =>
    keys.entries.map fun (key, values) => { operator := block, key, values }

def Statement.toSpec (s : Statement) : BundleSpec where
  sid := s.sid
  effect := s.effect.text
  actions := s.action
  resources := s.resource
  conditions := ConditionBlocks.toSpecs s.condition

def TrustDocument.toSpec (d : TrustDocument) : TrustSpec where
  principal := d.principal
  conditions := ConditionBlocks.toSpecs d.condition

/-- The role that an artifact describes. -/
def RoleArtifact.toSpec (a : RoleArtifact) : RoleSpec where
  name := a.name
  kind := a.kind
  trust := a.trustDocument.toSpec
  permissionBoundary := a.permissionBoundary
  bundles := a.policyDocument.statements.map Statement.toSpec

end RolePolicy
