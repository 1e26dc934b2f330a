import RolePolicy.Action.Basic
import RolePolicy.Sorted.Map
import RolePolicy.Sorted.Set
import RolePolicy.Text.Basic
import RolePolicy.Text.Split

/-!
# Action catalogs

A catalog lists the verbs of each service.  Services and verbs are found in any letter case; a found
verb has the spelling in which it was registered first.
-/

namespace RolePolicy

/-- The verbs of a service as first spelled, by their folded spelling. -/
abbrev VerbTable := SortedMap String String

/-- The verbs of each service, by its folded name. -/
structure Catalog where
  services : SortedMap String VerbTable
  deriving DecidableEq

/-- Add a verb, unless it is known in some spelling. -/
def VerbTable.addVerb (verbs : VerbTable) (raw : String) : VerbTable :=
  let verb := Text.trim raw
  verbs.alter (Text.foldCase verb) fun known => known.getD verb

namespace Catalog

def empty : Catalog := ⟨∅⟩

/-- Add the verbs of a service. -/
def register (c : Catalog) (service : String) (verbs : List String) : Catalog :=
  ⟨c.services.alter (Text.foldCase (Text.trim service)) fun known =>
    verbs.foldl VerbTable.addVerb (known.getD ∅)⟩

/-- The catalog in which the services of a list are registered in turn. -/
def ofServices (services : List (String × List String)) : Catalog :=
  services.foldl (fun c s => c.register s.1 s.2) empty

/-- The known spelling of a verb. -/
def spelling? (c : Catalog) (service verb : String) : Option String :=
  (c.services.get? service).bind (·.get? (Text.foldCase verb))

/-- The action that a text `service:Verb` stands for. -/
def normalize? (c : Catalog) (raw : String) : Option Action :=
  match Text.splitFirst ':' (Text.trimChars raw.toList) with
  | none => none
  | some (service, verb) =>
    let service := Text.foldCase (String.ofList service)
    (c.spelling? service (String.ofList verb)).map fun verb => { service, verb }

/-- The catalog has the action in exactly this spelling. -/
def knows (c : Catalog) (a : Action) : Bool :=
  c.spelling? a.service a.verb == some a.verb

/-- The number of verbs of all services. -/
def size (c : Catalog) : Nat :=
  c.services.values.foldl (fun n verbs => n + verbs.size) 0

/-- The services in order, each with its verbs in order. -/
def entries (c : Catalog) : SortedMap String (List String) :=
  c.services.mapValues fun verbs => verbs.values.mergeSort fun a b => decide (a ≤ b)

end Catalog

end RolePolicy
