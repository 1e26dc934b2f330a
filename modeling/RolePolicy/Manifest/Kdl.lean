import RolePolicy.Error
import RolePolicy.Kdl.Reader
import RolePolicy.Manifest.Basic

/-!
# Manifests as KDL nodes

A document holds `catalog` and `role` nodes; other nodes are ignored.  Lists are written as children
named `-`, each with a string argument.  `Manifest.ofNodes` interprets the nodes of a document in
order and reports the first defect; `Manifest.toNodes` writes a manifest out.
-/

namespace RolePolicy

open Kdl (Node Entry)

/-- The texts of the `-` children of a node. -/
def dashItems {ε : Type} (fault : ε) (node : Node) : Except ε (List String) :=
  (node.children.filter (·.name == "-")).mapM fun item =>
    match item.firstArgument? with
    | some text => .ok text
    | none => .error fault

/-- The items of a list node. -/
def listItems (list : ListNode) (node : Node) : Except CompileError (List String) :=
  dashItems (.invalidManifest (.unquotedItem list)) node

namespace ClauseSpec

/-- The clause of a `condition` node.  A value given as a property precedes those given as
children. -/
def ofNode (node : Node) : Except ClauseFault ClauseSpec :=
  match node.firstArgument? with
  | none => .error .missingOperator
  | some operator =>
    match node.stringProperty? "key" with
    | none => .error (.missingKey operator)
    | some key => do
      let items ← dashItems .unquotedItem node
      match node.property? "value" with
      | none => return { operator, key, values := items }
      | some (.string value) => return { operator, key, values := value :: items }
      | some _ => .error (.unquotedValue operator key)

/-- The clauses of the `condition` children of a node; its other children are not looked at. -/
def ofChildren (node : Node) : Except CompileError (List ClauseSpec) :=
  (node.children.filter (·.name == "condition")).mapM fun child =>
    (ofNode child).mapError .malformedClause

/-- The `condition` node of a clause. -/
def toNode (c : ClauseSpec) : Node :=
  .mk "condition" [.argument c.operator, .property "key" c.key]
    (some (c.values.map fun value => .mk "-" [.argument value] none))

end ClauseSpec

namespace BundleSpec

/-- The items collected from the `actions` and `resources` children of a bundle. -/
structure Items where
  actions : List String
  resources : List String
  deriving DecidableEq, Repr

/-- Collect the items of the children of a bundle in order. -/
def collect (role : String) (items : Items) : List Node → Except CompileError Items
  | [] => .ok items
  | child :: rest =>
    if child.name = "actions" then do
      collect role { items with actions := items.actions ++ (← listItems .actions child) } rest
    else if child.name = "resources" then do
      collect role { items with resources := items.resources ++ (← listItems .resources child) } rest
    else if child.name = "condition" then collect role items rest
    else .error (.invalidManifest (.strayInBundle child.name role))

/-- The bundle of a `bundle` node of a role. -/
def ofNode (role : String) (node : Node) : Except CompileError BundleSpec := do
  let items ← collect role ⟨[], []⟩ node.children
  return {
    sid := node.firstArgument?
    effect := (node.stringProperty? "effect").getD defaultEffect
    actions := items.actions
    resources := items.resources
    conditions := ← ClauseSpec.ofChildren node }

/-- A list node with one `-` child for each text. -/
def listNode (name : String) (texts : List String) : Node :=
  .mk name [] (some (texts.map fun text => .mk "-" [.argument text] none))

/-- The `bundle` node of a bundle. -/
def toNode (b : BundleSpec) : Node :=
  .mk "bundle" ((b.sid.map Entry.argument).toList ++ [.property "effect" b.effect])
    (some (listNode "actions" b.actions :: listNode "resources" b.resources ::
      b.conditions.map ClauseSpec.toNode))

end BundleSpec

namespace TrustSpec

/-- The trust of a `trust` node of a role. -/
def ofNode (role : String) (node : Node) : Except CompileError TrustSpec :=
  match node.firstArgument? with
  | none => .error (.invalidManifest (.trustWithoutPrincipal role))
  | some principal => return { principal, conditions := ← ClauseSpec.ofChildren node }

/-- The `trust` node of a trust. -/
def toNode (t : TrustSpec) : Node :=
  .mk "trust" [.argument t.principal] (some (t.conditions.map ClauseSpec.toNode))

end TrustSpec

namespace RoleSpec

/-- The parts of a role that its children have given so far. -/
structure Parts where
  trust : Option TrustSpec
  permissionBoundary : Option String
  bundles : List BundleSpec
  deriving DecidableEq, Repr

/-- Add the part that a child of a role gives. -/
def Parts.add (role : String) (parts : Parts) (child : Node) : Except CompileError Parts :=
  if child.name = "trust" then
    match parts.trust with
    | some _ => .error (.invalidManifest (.secondTrust role))
    | none => return { parts with trust := some (← TrustSpec.ofNode role child) }
  else if child.name = "permission-boundary" then
    match parts.permissionBoundary, child.firstArgument? with
    | some _, _ => .error (.invalidManifest (.secondBoundary role))
    | none, none => .error (.invalidManifest (.boundaryWithoutPolicy role))
    | none, some policy => .ok { parts with permissionBoundary := some policy }
  else if child.name = "bundle" then do
    return { parts with bundles := parts.bundles ++ [← BundleSpec.ofNode role child] }
  else .error (.invalidManifest (.strayInRole child.name role))

/-- The kind that the `kind` property of a role node names. -/
def kindOfNode (role : String) (node : Node) : Except CompileError RoleKind :=
  match node.stringProperty? "kind" with
  | none => .error (.invalidManifest (.roleWithoutKind role))
  | some text =>
    match RoleKind.ofText? text with
    | none => .error (.invalidManifest (.unknownKind role text))
    | some kind => .ok kind

/-- The role of a `role` node. -/
def ofNode (node : Node) : Except CompileError RoleSpec :=
  match node.firstArgument? with
  | none => .error (.invalidManifest .roleWithoutName)
  | some name => do
    let kind ← kindOfNode name node
    let parts ← node.children.foldlM (Parts.add name) ⟨none, none, []⟩
    match parts.trust with
    | none => .error (.invalidManifest (.noTrust name))
    | some trust =>
      return {
        name, kind, trust
        permissionBoundary := parts.permissionBoundary
        bundles := parts.bundles }

/-- The `role` node of a role. -/
def toNode (r : RoleSpec) : Node :=
  .mk "role" [.argument r.name, .property "kind" r.kind.text]
    (some (r.trust.toNode ::
      ((r.permissionBoundary.map fun policy =>
        Node.mk "permission-boundary" [.argument policy] none).toList ++
      r.bundles.map BundleSpec.toNode)))

end RoleSpec

namespace Manifest

/-- Add the verbs that a child of a `catalog` node lists. -/
def addService (catalog : SortedMap String (List String)) (child : Node) :
    Except CompileError (SortedMap String (List String)) :=
  if child.name = "service" then
    match child.firstArgument? with
    | none => .error (.invalidManifest .serviceWithoutName)
    | some service => return addVerbs catalog service (← listItems .service child)
  else .error (.invalidManifest (.strayInCatalog child.name))

/-- Add what a node of a document says. -/
def addNode (m : Manifest) (node : Node) : Except CompileError Manifest :=
  if node.name = "catalog" then
    return { m with catalog := ← node.children.foldlM addService m.catalog }
  else if node.name = "role" then
    return { m with roles := m.roles ++ [← RoleSpec.ofNode node] }
  else .ok m

/-- The manifest that the nodes of a document describe. -/
def ofNodes (nodes : List Node) : Except CompileError Manifest :=
  nodes.foldlM addNode empty

/-- Read a manifest from KDL text. -/
def ofKdlText (text : String) : Except CompileError Manifest :=
  match Kdl.read? text with
  | some nodes => ofNodes nodes
  | none => .error .misspeltKdl

/-- The `catalog` node of a catalog. -/
def catalogNode (catalog : SortedMap String (List String)) : Node :=
  .mk "catalog" [] (some (catalog.entries.map fun entry =>
    .mk "service" [.argument entry.1]
      (some (entry.2.map fun verb => .mk "-" [.argument verb] none))))

/-- The nodes of a document that describes the manifest. -/
def toNodes (m : Manifest) : List Node :=
  catalogNode m.catalog :: m.roles.map RoleSpec.toNode

end Manifest

end RolePolicy
