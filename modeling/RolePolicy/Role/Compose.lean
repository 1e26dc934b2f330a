import RolePolicy.Action.Catalog
import RolePolicy.Error
import RolePolicy.Manifest.Basic
import RolePolicy.Role.Basic

/-!
# Composing roles

A role as written is checked against a catalog and turned into a role.  The checks come in a fixed
order, name, trust, permission boundary, bundles, and the first one that fails is reported.  Bundles
keep their order and are not merged.
-/

namespace RolePolicy

namespace Effect

/-- The effect named in any letter case. -/
def ofText? (s : String) : Option Effect :=
  if Text.sameFolded s "allow" then some allow
  else if Text.sameFolded s "deny" then some deny
  else none

end Effect

namespace Predicate

/-- Check the clauses of a list, and then that no two share a slot. -/
def ofSpecs (specs : List ClauseSpec) : Except ClauseFault Predicate := do
  ofClauses (← specs.mapM fun c => Clause.parse c.operator c.key c.values)

end Predicate

namespace Trust

/-- A principal is not empty, holds no blank character and no variable. -/
def isPrincipal (cs : List Char) : Bool :=
  !cs.isEmpty && !Text.opensVariable cs && !cs.any Text.isBlank

/-- Check the trust of a role; the principal counts without blank characters around it. -/
def compose (role : String) (t : TrustSpec) : Except CompileError Trust :=
  let principal := Text.trimChars t.principal.toList
  if isPrincipal principal then do
    let conditions ← (Predicate.ofSpecs t.conditions).mapError .malformedClause
    return { principal := String.ofList principal, conditions }
  else .error (.invalidManifest (.badPrincipal role t.principal))

end Trust

namespace ResourcePattern

/-- Check a pattern and report a fault together with the pattern. -/
def compose (raw : String) : Except CompileError ResourcePattern :=
  (parse raw).mapError (.malformedPattern raw)

/-- A permission boundary names a policy; `*` names none. -/
def composeBoundary (raw : String) : Except CompileError ResourcePattern :=
  if raw = "*" then .error (.malformedPattern raw .manyPolicies) else compose raw

end ResourcePattern

namespace Catalog

/-- The action that a text stands for, or the report that there is none. -/
def compose (c : Catalog) (raw : String) : Except CompileError Action :=
  match c.normalize? raw with
  | some action => .ok action
  | none => .error (.unknownAction raw)

end Catalog

namespace Bundle

/-- Check the bundle at a position of a role. -/
def compose (role : String) (catalog : Catalog) (b : BundleSpec) (index : Nat) :
    Except CompileError Bundle :=
  let label : BundleLabel := { sid := b.sid, index, role }
  match Effect.ofText? b.effect with
  | none => .error (.invalidManifest (.unknownEffect label b.effect))
  | some effect =>
    if b.actions = [] then .error (.invalidManifest (.noActions label))
    else if b.resources = [] then .error (.invalidManifest (.noResources label))
    else do
      let actions ← b.actions.mapM catalog.compose
      let resources ← b.resources.mapM ResourcePattern.compose
      let conditions ← (Predicate.ofSpecs b.conditions).mapError .malformedClause
      return { sid := b.sid, effect, actions := SortedSet.ofList actions, resources, conditions }

end Bundle

namespace Role

/-- The greatest length of a role name. -/
def maxNameLength : Nat := 64

def isNameChar (c : Char) : Bool :=
  c.isAlphanum || ['+', '=', ',', '.', '@', '_', '-'].contains c

/-- A name has between 1 and 64 characters, all of them letters, digits or marks of a short list. -/
def isName (name : String) : Bool :=
  name ≠ "" && name.utf8ByteSize ≤ maxNameLength && name.toList.all isNameChar

/-- Check a role as written. -/
def compose (catalog : Catalog) (r : RoleSpec) : Except CompileError Role :=
  if isName r.name then do
    let trust ← Trust.compose r.name r.trust
    let permissionBoundary ← r.permissionBoundary.mapM ResourcePattern.composeBoundary
    let bundles ← r.bundles.zipIdx.mapM fun (b, index) => Bundle.compose r.name catalog b index
    return { name := r.name, kind := r.kind, trust, bundles, permissionBoundary }
  else .error (.invalidManifest (.badRoleName r.name))

end Role

end RolePolicy
