import RolePolicy.Manifest.Basic
import RolePolicy.Text.Template

/-!
# Substitution of placeholders

Before a manifest is compiled, placeholders such as `${account}` are replaced by values known only at
deployment.  Policy variables, whose names are namespaced, and placeholders without a value stay as
they are.  Inserted values are not looked at again.
-/

namespace RolePolicy

/-- The values of placeholders by name. -/
abbrev Substitutions := SortedMap String String

namespace Substitutions

/-- The account that role identifiers name. -/
def account? (s : Substitutions) : Option String :=
  s.get? "account"

/-- The partition that role identifiers name. -/
def partition (s : Substitutions) : String :=
  (s.get? "partition").getD "aws"

/-- The value that takes the place of a variable. -/
def value? (s : Substitutions) (name : List Char) : Option String :=
  if Text.isNamespaced name then none else s.get? (String.ofList name)

/-- The text of a piece after substitution. -/
def applyPiece (s : Substitutions) : Text.Piece → List Char
  | .variable name =>
    match s.value? name with
    | some value => value.toList
    | none => (Text.Piece.variable name).render
  | piece => piece.render

/-- The text with its known placeholders replaced. -/
def apply (s : Substitutions) (text : String) : String :=
  String.ofList ((Text.pieces text.toList).flatMap s.applyPiece)

def applyClause (s : Substitutions) (c : ClauseSpec) : ClauseSpec :=
  { c with values := c.values.map s.apply }

def applyTrust (s : Substitutions) (t : TrustSpec) : TrustSpec where
  principal := s.apply t.principal
  conditions := t.conditions.map s.applyClause

def applyBundle (s : Substitutions) (b : BundleSpec) : BundleSpec :=
  { b with
    resources := b.resources.map s.apply
    conditions := b.conditions.map s.applyClause }

def applyRole (s : Substitutions) (r : RoleSpec) : RoleSpec :=
  { r with
    trust := s.applyTrust r.trust
    permissionBoundary := r.permissionBoundary.map s.apply
    bundles := r.bundles.map s.applyBundle }

/-- Substitute through trust principals, permission boundaries, resources and condition values. -/
def applyManifest (s : Substitutions) (m : Manifest) : Manifest :=
  { m with roles := m.roles.map s.applyRole }

end Substitutions

end RolePolicy
