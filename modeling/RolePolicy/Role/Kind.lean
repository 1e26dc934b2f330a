/-!
# Kinds of roles and effects of grants
-/

namespace RolePolicy

/-- An operational role is narrow and stays; a provisioning role is broader and is used only while
dependent infrastructure is created or torn down. -/
inductive RoleKind where
  | operational
  | provisioning
  deriving DecidableEq, Repr

namespace RoleKind

def text : RoleKind → String
  | operational => "operational"
  | provisioning => "provisioning"

def ofText? (s : String) : Option RoleKind :=
  if s = "operational" then some operational
  else if s = "provisioning" then some provisioning
  else none

/-- The output under which a deployment finds the identifier of the role of this kind. -/
def outputName : RoleKind → String
  | operational => "operational-role-arn"
  | provisioning => "provisioning-role-arn"

end RoleKind

/-- Whether a bundle grants or forbids. -/
inductive Effect where
  | allow
  | deny
  deriving DecidableEq, Repr

namespace Effect

/-- The effect as policy documents spell it. -/
def text : Effect → String
  | allow => "Allow"
  | deny => "Deny"

end Effect

end RolePolicy
