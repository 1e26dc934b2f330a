import RolePolicy.Document

/-!
# Artifacts

What a deployment takes from a compiled manifest: the documents of each role in manifest order, and
the outputs.  Written out, each document is a file of its own.
-/

namespace RolePolicy

/-- A compiled role with its documents. -/
structure RoleArtifact where
  name : String
  kind : RoleKind
  identifier : String
  permissionBoundary : Option String
  trustDocument : TrustDocument
  policyDocument : PolicyDocument
  deriving DecidableEq

structure Artifacts where
  roles : List RoleArtifact
  outputs : SortedMap String String
  deriving DecidableEq

namespace CompiledRoles

def artifact (c : CompiledRoles) (r : Role) : RoleArtifact where
  name := r.name
  kind := r.kind
  identifier := c.identifier r
  permissionBoundary := r.permissionBoundary.map ResourcePattern.text
  trustDocument := r.trustDocument
  policyDocument := r.policyDocument

def artifacts (c : CompiledRoles) : Artifacts where
  roles := c.roles.map c.artifact
  outputs := c.outputs

end CompiledRoles

namespace RoleArtifact

def toJson (a : RoleArtifact) : Json :=
  .object ([("name", .string a.name), ("kind", .string a.kind.text),
      ("identifier", .string a.identifier)] ++
    (a.permissionBoundary.map fun policy => ("permission_boundary", Json.string policy)).toList ++
    [("trust_document", a.trustDocument.toJson), ("policy_document", a.policyDocument.toJson)])

def policyFileName (a : RoleArtifact) : String :=
  a.name ++ ".policy.json"

def trustFileName (a : RoleArtifact) : String :=
  a.name ++ ".trust.json"

end RoleArtifact

namespace Artifacts

def outputsToJson (outputs : SortedMap String String) : Json :=
  .object (outputs.entries.map fun (name, identifier) => (name, .string identifier))

def toJson (a : Artifacts) : Json :=
  .object [("roles", .array (a.roles.map RoleArtifact.toJson)),
    ("outputs", outputsToJson a.outputs)]

/-- The text of the artifacts on indented lines. -/
def toJsonText (a : Artifacts) : String :=
  a.toJson.pretty

def outputsFileName : String := "outputs.json"

/-- The content of a file: a document on one line or on indented lines, and a newline. -/
def fileText (pretty : Bool) (document : Json) : String :=
  (if pretty then document.pretty else document.compact) ++ "\n"

/-- The files of the artifacts, by name, in the order in which they are written. -/
def files (a : Artifacts) (pretty : Bool) : List (String × String) :=
  (a.roles.flatMap fun r =>
    [(r.policyFileName, fileText pretty r.policyDocument.toJson),
      (r.trustFileName, fileText pretty r.trustDocument.toJson)]) ++
    [(outputsFileName, fileText pretty (outputsToJson a.outputs))]

end Artifacts

end RolePolicy
