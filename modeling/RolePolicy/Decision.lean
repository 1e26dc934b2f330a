import RolePolicy.Compiled
import RolePolicy.Condition.Evaluation
import RolePolicy.Json.Basic

/-!
# Decisions

How a role decides a request.  Every bundle is looked at: a matching `Deny` bundle wins over any
matching `Allow` bundle, and where nothing matches the request is denied implicitly.  The answer
lists the bundles that brought it about.
-/

namespace RolePolicy

inductive Decision where
  | allow
  | deny
  | implicitDeny
  deriving DecidableEq, Repr

def Decision.text : Decision → String
  | allow => "ALLOW"
  | deny => "DENY"
  | implicitDeny => "IMPLICIT_DENY"

/-- A decision and the bundles of the winning effect that match. -/
structure Evaluation where
  decision : Decision
  matched : List BundleRef
  deriving DecidableEq, Repr

/-- What is asked of a role: an action as written, a resource, and the attributes of the request. -/
structure Request where
  action : String
  resource : String
  context : RequestContext

namespace Evaluation

def nothingMatched : Evaluation := ⟨.implicitDeny, []⟩

/-- The evaluation of a request that the bundles of the two lists match. -/
def ofMatches (allows denies : List BundleRef) : Evaluation :=
  if denies ≠ [] then ⟨.deny, denies⟩
  else if allows ≠ [] then ⟨.allow, allows⟩
  else nothingMatched

end Evaluation

namespace Bundle

/-- The bundle speaks about the action on the resource, and its conditions hold. -/
def appliesTo (b : Bundle) (action : Action) (resource : String) (context : RequestContext) :
    Bool :=
  decide (action ∈ b.actions) && ResourcePattern.anyCovers b.resources resource &&
    b.conditions.holds context

end Bundle

namespace Role

/-- References to the bundles of an effect that apply, in order. -/
def matching (r : Role) (effect : Effect) (action : Action) (resource : String)
    (context : RequestContext) : List BundleRef :=
  r.bundles.zipIdx.filterMap fun (b, index) =>
    if b.effect = effect ∧ b.appliesTo action resource context then some ⟨index, b.sid⟩ else none

/-- Evaluate a request against a role; an action that the catalog does not know matches nothing. -/
def evaluate (catalog : Catalog) (r : Role) (request : Request) : Evaluation :=
  match catalog.normalize? request.action with
  | none => .nothingMatched
  | some action =>
    .ofMatches (r.matching .allow action request.resource request.context)
      (r.matching .deny action request.resource request.context)

/-- Whether a principal may assume the role. -/
def decideAssume (r : Role) (principal : String) (context : RequestContext) : Decision :=
  if r.trust.principal = principal ∧ r.trust.conditions.holds context then .allow
  else .implicitDeny

end Role

namespace CompiledRoles

/-- Evaluate a request against a role by name; an unknown role grants nothing. -/
def evaluate (c : CompiledRoles) (role : String) (request : Request) : Evaluation :=
  match c.role? role with
  | some r => r.evaluate c.catalog request
  | none => .nothingMatched

def decide (c : CompiledRoles) (role : String) (request : Request) : Decision :=
  (c.evaluate role request).decision

def decideAssume (c : CompiledRoles) (role principal : String) (context : RequestContext) :
    Decision :=
  match c.role? role with
  | some r => r.decideAssume principal context
  | none => .implicitDeny

end CompiledRoles

/-! ### Evaluations as JSON -/

/-- A reference has the statement id only if the bundle has one. -/
def BundleRef.toJson (r : BundleRef) : Json :=
  .object (("index", .ofNat r.index) :: (r.sid.map fun sid => ("sid", Json.string sid)).toList)

def Decision.toJson (decision : Decision) : Json :=
  .string decision.text

def Evaluation.toJson (evaluation : Evaluation) : Json :=
  .object [("decision", evaluation.decision.toJson),
    ("matched", .array (evaluation.matched.map BundleRef.toJson))]

end RolePolicy
