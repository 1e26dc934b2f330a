import RolePolicy.Action.Basic

/-!
# Categories of actions

What an action does, judged by the leading word of its verb.
-/

namespace RolePolicy

inductive Category where
  | read
  | create
  | update
  | delete
  | attach
  | detach
  | passRole
  | tagging
  | other
  deriving DecidableEq, Repr

namespace Category

def isMutating : Category → Bool
  | create | update | delete | attach | detach | passRole => true
  | read | tagging | other => false

/-- The leading words and what they say about a verb. -/
def leadingWords : List (String × Category) :=
  [("BatchGet", read), ("Get", read), ("List", read), ("Describe", read), ("Search", read),
   ("Create", create),
   ("Update", update), ("Put", update), ("Modify", update),
   ("Delete", delete), ("Remove", delete),
   ("Attach", attach), ("Associate", attach), ("Add", attach),
   ("Detach", detach), ("Disassociate", detach),
   ("Untag", tagging), ("UnTag", tagging), ("Tag", tagging)]

/-- `word` stands at the front of `verb` and is followed by a capital or by nothing, so that
`Address` does not begin with the word `Add`. -/
def isLeadingWord (word verb : String) : Bool :=
  match word.toList.isPrefixOf? verb.toList with
  | none => false
  | some [] => true
  | some (c :: _) => c.isUpper

/-- The category of the first leading word in a table. -/
def ofVerb (table : List (String × Category)) (verb : String) : Category :=
  match table.find? fun entry => isLeadingWord entry.1 verb with
  | some entry => entry.2
  | none => other

end Category

namespace Action

/-- Handing a role to a service. -/
def isPassRole (a : Action) : Bool :=
  a.service == "iam" && a.verb == "PassRole"

/-- Creating a role.  Service-linked roles cannot carry a boundary and do not count. -/
def isRoleCreation (a : Action) : Bool :=
  a.service == "iam" && a.verb == "CreateRole"

def category (a : Action) : Category :=
  if a.isPassRole then .passRole else Category.ofVerb Category.leadingWords a.verb

def isMutating (a : Action) : Bool :=
  a.category.isMutating

end Action

end RolePolicy
