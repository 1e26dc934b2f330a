import RolePolicy.Action.Basic
import RolePolicy.Condition.Predicate
import RolePolicy.ResourcePattern
import RolePolicy.Role.Kind

/-!
# Roles

A role that has been composed: who may assume it, and the bundles of grants that it carries, in
manifest order.
-/

namespace RolePolicy

/-- A bundle grants or forbids its actions on its resources while its conditions hold. -/
structure Bundle where
  sid : Option String
  effect : Effect
  actions : SortedSet Action
  resources : List ResourcePattern
  conditions : Predicate
  deriving DecidableEq

/-- Who may assume a role, and under which conditions. -/
structure Trust where
  principal : String
  conditions : Predicate
  deriving DecidableEq

structure Role where
  name : String
  kind : RoleKind
  trust : Trust
  bundles : List Bundle
  permissionBoundary : Option ResourcePattern
  deriving DecidableEq

/-- A bundle of a role by its position, with its statement id if it has one. -/
structure BundleRef where
  index : Nat
  sid : Option String
  deriving DecidableEq, Repr

namespace BundleRef

def text (r : BundleRef) : String :=
  match r.sid with
  | some sid => s!"#{r.index} ({sid})"
  | none => s!"#{r.index}"

end BundleRef

namespace Role

def bundleRef (r : Role) (index : Nat) : BundleRef :=
  ⟨index, (r.bundles[index]?).bind (·.sid)⟩

end Role

end RolePolicy
