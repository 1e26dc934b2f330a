import RolePolicy.Role.Kind
import RolePolicy.Sorted.Map

/-!
# Manifests

A manifest lists the verbs of each service and describes roles as their author wrote them.  Nothing
in it is checked beyond its shape; composing a role checks it.
-/

namespace RolePolicy

/-- A condition clause as written. -/
structure ClauseSpec where
  operator : String
  key : String
  values : List String
  deriving DecidableEq, Repr

/-- Who may assume a role, and on which conditions, as written. -/
structure TrustSpec where
  principal : String
  conditions : List ClauseSpec
  deriving DecidableEq, Repr

/-- A bundle of grants as written. -/
structure BundleSpec where
  sid : Option String
  effect : String
  actions : List String
  resources : List String
  conditions : List ClauseSpec
  deriving DecidableEq, Repr

/-- The effect of a bundle that names none. -/
def BundleSpec.defaultEffect : String := "allow"

/-- A role as written. -/
structure RoleSpec where
  name : String
  kind : RoleKind
  trust : TrustSpec
  permissionBoundary : Option String
  bundles : List BundleSpec
  deriving DecidableEq, Repr

/-- A catalog by service and a list of roles. -/
structure Manifest where
  catalog : SortedMap String (List String)
  roles : List RoleSpec
  deriving DecidableEq

namespace Manifest

def empty : Manifest := ⟨∅, []⟩

/-- List further verbs of a service after those that it has. -/
def addVerbs (catalog : SortedMap String (List String)) (service : String)
    (verbs : List String) : SortedMap String (List String) :=
  catalog.alter service fun known => known.getD [] ++ verbs

/-- Put a second manifest after the first: the verbs of each service and the roles follow one another
in this order. -/
def merge (first second : Manifest) : Manifest where
  catalog := second.catalog.entries.foldl (fun c e => addVerbs c e.1 e.2) first.catalog
  roles := first.roles ++ second.roles

/-- The manifests of a list, one after the other. -/
def mergeAll (manifests : List Manifest) : Manifest :=
  manifests.foldl merge empty

end Manifest

end RolePolicy
