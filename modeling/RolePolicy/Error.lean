import RolePolicy.Condition.Operator
import RolePolicy.Json.Decode
import RolePolicy.ResourcePattern
import RolePolicy.Role.Kind

/-!
# Compile errors

What can be wrong with a manifest, and how it is reported: a message, a diagnostic code, and help
where there is any.
-/

namespace RolePolicy

/-- How a bundle is named in messages: by its statement id, or by its position. -/
structure BundleLabel where
  sid : Option String
  index : Nat
  role : String
  deriving DecidableEq, Repr

/-- Lists of a bundle or a service whose items are quoted strings. -/
inductive ListNode where
  | service
  | actions
  | resources
  deriving DecidableEq, Repr

/-- A defect of a manifest as a whole, of a role or of a bundle. -/
inductive ManifestFault where
  | missingDirectory (path : String)
  | serviceWithoutName
  | strayInCatalog (name : String)
  | unquotedItem (list : ListNode)
  | roleWithoutName
  | roleWithoutKind (role : String)
  | unknownKind (role kind : String)
  | secondTrust (role : String)
  | trustWithoutPrincipal (role : String)
  | secondBoundary (role : String)
  | boundaryWithoutPolicy (role : String)
  | strayInRole (name role : String)
  | noTrust (role : String)
  | strayInBundle (name role : String)
  | repeatedRole (role : String)
  | repeatedKind (earlier later : String) (kind : RoleKind)
  | badRoleName (name : String)
  | badPrincipal (role principal : String)
  | unknownEffect (bundle : BundleLabel) (effect : String)
  | noActions (bundle : BundleLabel)
  | noResources (bundle : BundleLabel)
  deriving DecidableEq, Repr

/-- Why a manifest does not compile. -/
inductive CompileError where
  | unknownAction (action : String)
  | malformedPattern (pattern : String) (fault : PatternFault)
  | malformedClause (fault : ClauseFault)
  | invalidManifest (fault : ManifestFault)
  | unknownRole (name : String)
  | misspeltKdl
  | manifestJson (fault : Json.Fault)
  | unreadableFile (path : String)
  | inputOutput
  deriving DecidableEq, Repr

namespace BundleLabel

def text (b : BundleLabel) : String :=
  match b.sid with
  | some sid => s!"bundle `{sid}` of role `{b.role}`"
  | none => s!"bundle #{b.index} of role `{b.role}`"

end BundleLabel

namespace ListNode

def name : ListNode → String
  | service => "service"
  | actions => "actions"
  | resources => "resources"

end ListNode

namespace ManifestFault

def message : ManifestFault → String
  | missingDirectory path => s!"manifest directory `{path}` does not exist or is not a directory"
  | serviceWithoutName => "service node requires a string argument (e.g. service \"iam\")"
  | strayInCatalog name => s!"unexpected child `{name}` in catalog (expected `service`)"
  | unquotedItem list => s!"`-` item under `{list.name}` must be a quoted string"
  | roleWithoutName =>
    "role node requires a string argument (e.g. role \"ProvisionRole\" kind=\"provisioning\")"
  | roleWithoutKind role =>
    s!"role `{role}` missing `kind` property (\"operational\" or \"provisioning\")"
  | unknownKind role kind =>
    s!"role `{role}` has unknown kind `{kind}` (expected \"operational\" or \"provisioning\")"
  | secondTrust role => s!"role `{role}` has more than one `trust` node"
  | trustWithoutPrincipal role =>
    s!"trust in role `{role}` requires a principal argument (e.g. trust \"datazone.amazonaws.com\")"
  | secondBoundary role => s!"role `{role}` has more than one `permission-boundary` node"
  | boundaryWithoutPolicy role =>
    s!"permission-boundary in role `{role}` requires a policy ARN argument"
  | strayInRole name role =>
    s!"unexpected child `{name}` in role `{role}` " ++
      "(expected `trust`, `permission-boundary` or `bundle`)"
  | noTrust role => s!"role `{role}` has no `trust` node"
  | strayInBundle name role =>
    s!"unexpected child `{name}` in bundle of role `{role}` " ++
      "(expected `actions`, `resources` or `condition`)"
  | repeatedRole role => s!"role `{role}` is defined more than once"
  | repeatedKind earlier later kind =>
    s!"roles `{earlier}` and `{later}` both have kind `{kind.text}`"
  | badRoleName name => s!"invalid role name `{name}` (1-64 characters of [A-Za-z0-9+=,.@_-])"
  | badPrincipal role principal =>
    s!"role `{role}` has an invalid trust principal `{principal}`"
  | unknownEffect bundle effect =>
    s!"{bundle.text} has unknown effect `{effect}` (expected \"allow\" or \"deny\")"
  | noActions bundle => s!"{bundle.text} lists no actions"
  | noResources bundle => s!"{bundle.text} lists no resources"

end ManifestFault

namespace CompileError

/-- The report of an error.  Positions in JSON text and reasons of the operating system are not part
of it. -/
def message : CompileError → String
  | unknownAction action => s!"Unknown action `{action}`"
  | malformedPattern pattern fault =>
    s!"Malformed resource pattern `{pattern}`: {fault.message}"
  | malformedClause fault => s!"Malformed condition clause: {fault.message}"
  | invalidManifest fault => s!"Invalid manifest: {fault.message}"
  | unknownRole name => s!"Unknown role `{name}`"
  | misspeltKdl => "KDL parse error: Failed to parse KDL document"
  | manifestJson (.mismatch reason) => s!"JSON manifest error: {reason.message}"
  | manifestJson _ => "JSON manifest error"
  | unreadableFile path => s!"Failed to load manifest file `{path}`"
  | inputOutput => "I/O error"

def code : CompileError → String
  | unknownAction _ => "rolewright::authz::unknown_action"
  | malformedPattern _ _ => "rolewright::authz::malformed_resource"
  | malformedClause _ => "rolewright::authz::malformed_condition"
  | invalidManifest _ => "rolewright::authz::invalid_manifest"
  | unknownRole _ => "rolewright::authz::unknown_role"
  | misspeltKdl => "rolewright::authz::kdl_parse"
  | manifestJson _ => "rolewright::authz::manifest_json"
  | unreadableFile _ => "rolewright::authz::manifest_load"
  | inputOutput => "rolewright::authz::io"

def help? : CompileError → Option String
  | unknownAction _ => some <|
    "Actions are written `service:Verb` and must be listed in a " ++
      "`catalog \x7b service \"<name>\" \x7b - \"<Verb>\" \x7d \x7d` block"
  | malformedPattern _ _ => some <|
    "Resource patterns are `*` or ARN-shaped: " ++
      "arn:<partition>:<service>:<region>:<account>:<resource>"
  | malformedClause _ => some <|
    "Supported operators: StringEquals, StringNotEquals, StringLike, Null, optionally prefixed by " ++
      "ForAnyValue: or ForAllValues:. Keys use `prefix:name`"
  | invalidManifest _ => some "Each manifest file may contain `catalog` and `role` KDL nodes"
  | unknownRole _ => some "Role names come from the `role \"<name>\"` nodes of the compiled manifest"
  | misspeltKdl => some "Check your KDL file syntax, see https://kdl.dev"
  | manifestJson _ => none
  | unreadableFile _ => some "Check that the file exists and is readable"
  | inputOutput => none

end CompileError

end RolePolicy
