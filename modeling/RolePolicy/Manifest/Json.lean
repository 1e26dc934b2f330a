import RolePolicy.Error
import RolePolicy.Json.Decode
import RolePolicy.Json.Printer
import RolePolicy.Manifest.Basic

/-!
# Manifests as JSON

A manifest is an object, or an array of its fields in order.  `Manifest.ofJson` decodes a value,
`Manifest.toJson` encodes a manifest with every field present.
-/

namespace RolePolicy

open Json (Fault Shape once)

namespace ClauseSpec

structure Draft where
  operator : Option String := none
  key : Option String := none
  values : Option (List String) := none

def Draft.add (d : Draft) (name : String) (value : Json) : Except Fault Draft :=
  match name with
  | "operator" => return { d with operator := ← once name d.operator (Json.decodeString value) }
  | "key" => return { d with key := ← once name d.key (Json.decodeString value) }
  | "values" => return { d with values := ← once name d.values (Json.decodeStrings value) }
  | _ => .ok d

def Draft.finish (d : Draft) : Except String ClauseSpec :=
  match d.operator, d.key with
  | none, _ => .error "operator"
  | _, none => .error "key"
  | some operator, some key => .ok { operator, key, values := d.values.getD [] }

def shape : Shape Draft ClauseSpec where
  title := "ClauseManifest"
  names := ["operator", "key", "values"]
  start := {}
  add := Draft.add
  finish := Draft.finish

def ofJson (value : Json) : Except Fault ClauseSpec :=
  shape.decode value

def toJson (c : ClauseSpec) : Json :=
  .object [("operator", .string c.operator), ("key", .string c.key),
    ("values", .ofStrings c.values)]

end ClauseSpec

namespace TrustSpec

structure Draft where
  principal : Option String := none
  conditions : Option (List ClauseSpec) := none

def Draft.add (d : Draft) (name : String) (value : Json) : Except Fault Draft :=
  match name with
  | "principal" => return { d with principal := ← once name d.principal (Json.decodeString value) }
  | "conditions" =>
    return { d with conditions := ← once name d.conditions (Json.decodeList ClauseSpec.ofJson value) }
  | _ => .ok d

def Draft.finish (d : Draft) : Except String TrustSpec :=
  match d.principal with
  | none => .error "principal"
  | some principal => .ok { principal, conditions := d.conditions.getD [] }

def shape : Shape Draft TrustSpec where
  title := "TrustManifest"
  names := ["principal", "conditions"]
  start := {}
  add := Draft.add
  finish := Draft.finish

def ofJson (value : Json) : Except Fault TrustSpec :=
  shape.decode value

def toJson (t : TrustSpec) : Json :=
  .object [("principal", .string t.principal),
    ("conditions", .array (t.conditions.map ClauseSpec.toJson))]

end TrustSpec

namespace BundleSpec

structure Draft where
  sid : Option (Option String) := none
  effect : Option String := none
  actions : Option (List String) := none
  resources : Option (List String) := none
  conditions : Option (List ClauseSpec) := none

def Draft.add (d : Draft) (name : String) (value : Json) : Except Fault Draft :=
  match name with
  | "sid" => return { d with sid := ← once name d.sid (Json.decodeOptional Json.decodeString value) }
  | "effect" => return { d with effect := ← once name d.effect (Json.decodeString value) }
  | "actions" => return { d with actions := ← once name d.actions (Json.decodeStrings value) }
  | "resources" => return { d with resources := ← once name d.resources (Json.decodeStrings value) }
  | "conditions" =>
    return { d with conditions := ← once name d.conditions (Json.decodeList ClauseSpec.ofJson value) }
  | _ => .ok d

def Draft.finish (d : Draft) : Except String BundleSpec :=
  match d.actions, d.resources with
  | none, _ => .error "actions"
  | _, none => .error "resources"
  | some actions, some resources =>
    .ok {
      sid := d.sid.getD none
      effect := d.effect.getD defaultEffect
      actions, resources
      conditions := d.conditions.getD [] }

def shape : Shape Draft BundleSpec where
  title := "BundleManifest"
  names := ["sid", "effect", "actions", "resources", "conditions"]
  start := {}
  add := Draft.add
  finish := Draft.finish

def ofJson (value : Json) : Except Fault BundleSpec :=
  shape.decode value

def toJson (b : BundleSpec) : Json :=
  .object [("sid", .ofOptional b.sid), ("effect", .string b.effect),
    ("actions", .ofStrings b.actions), ("resources", .ofStrings b.resources),
    ("conditions", .array (b.conditions.map ClauseSpec.toJson))]

end BundleSpec

namespace RoleKind

def ofName (name : String) : Except Fault RoleKind :=
  match ofText? name with
  | some kind => .ok kind
  | none =>
    .error (.mismatch (.unknownVariant name [operational.text, provisioning.text]))

/-- A kind is written as a string, or as an object whose one field has the value `null`.  The name of
the field is judged before what follows it. -/
def ofJson : Json → Except Fault RoleKind
  | .string name => ofName name
  | .members ((.string name, value) :: pairs) => do
    let kind ← ofName name
    match value with
    | .null => if pairs.isEmpty then return kind else .error .misspelt
    | value => .error (Json.unexpected "unit" value)
  | _ => .error .misspelt

def toJson (kind : RoleKind) : Json :=
  .string kind.text

end RoleKind

namespace RoleSpec

structure Draft where
  name : Option String := none
  kind : Option RoleKind := none
  trust : Option TrustSpec := none
  permissionBoundary : Option (Option String) := none
  bundles : Option (List BundleSpec) := none

def Draft.add (d : Draft) (name : String) (value : Json) : Except Fault Draft :=
  match name with
  | "name" => return { d with name := ← once name d.name (Json.decodeString value) }
  | "kind" => return { d with kind := ← once name d.kind (RoleKind.ofJson value) }
  | "trust" => return { d with trust := ← once name d.trust (TrustSpec.ofJson value) }
  | "permission_boundary" =>
    return { d with
      permissionBoundary :=
        ← once name d.permissionBoundary (Json.decodeOptional Json.decodeString value) }
  | "bundles" =>
    return { d with bundles := ← once name d.bundles (Json.decodeList BundleSpec.ofJson value) }
  | _ => .ok d

def Draft.finish (d : Draft) : Except String RoleSpec :=
  match d.name, d.kind, d.trust with
  | none, _, _ => .error "name"
  | _, none, _ => .error "kind"
  | _, _, none => .error "trust"
  | some name, some kind, some trust =>
    .ok {
      name, kind, trust
      permissionBoundary := d.permissionBoundary.getD none
      bundles := d.bundles.getD [] }

def shape : Shape Draft RoleSpec where
  title := "RoleManifest"
  names := ["name", "kind", "trust", "permission_boundary", "bundles"]
  start := {}
  add := Draft.add
  finish := Draft.finish

def ofJson (value : Json) : Except Fault RoleSpec :=
  shape.decode value

def toJson (r : RoleSpec) : Json :=
  .object [("name", .string r.name), ("kind", r.kind.toJson), ("trust", r.trust.toJson),
    ("permission_boundary", .ofOptional r.permissionBoundary),
    ("bundles", .array (r.bundles.map BundleSpec.toJson))]

end RoleSpec

namespace Manifest

structure Draft where
  catalog : Option (List (String × List String)) := none
  roles : Option (List RoleSpec) := none

def Draft.add (d : Draft) (name : String) (value : Json) : Except Fault Draft :=
  match name with
  | "catalog" =>
    return { d with catalog := ← once name d.catalog (Json.decodeEntries Json.decodeStrings value) }
  | "roles" =>
    return { d with roles := ← once name d.roles (Json.decodeList RoleSpec.ofJson value) }
  | _ => .ok d

def Draft.finish (d : Draft) : Except String Manifest :=
  .ok { catalog := SortedMap.ofList (d.catalog.getD []), roles := d.roles.getD [] }

def shape : Shape Draft Manifest where
  title := "Manifest"
  names := ["catalog", "roles"]
  start := {}
  add := Draft.add
  finish := Draft.finish

def ofJson (value : Json) : Except Fault Manifest :=
  shape.decode value

def toJson (m : Manifest) : Json :=
  .object [("catalog", .object (m.catalog.entries.map fun e => (e.1, Json.ofStrings e.2))),
    ("roles", .array (m.roles.map RoleSpec.toJson))]

/-- Read a manifest from JSON text. -/
def ofJsonText (text : String) : Except CompileError Manifest :=
  (Json.decodeText ofJson text).mapError .manifestJson

/-- The JSON text of a manifest. -/
def toJsonText (m : Manifest) : String :=
  m.toJson.compact

end Manifest

end RolePolicy
