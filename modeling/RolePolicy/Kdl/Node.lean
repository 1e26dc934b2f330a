/-!
# KDL nodes

The tree that a KDL document describes.  A node has a name, entries, which are arguments and
properties in the order written, and possibly a block of children.
-/

namespace RolePolicy.Kdl

inductive Value where
  | string (text : String)
  | integer (value : Int)
  | decimal
  | infinity
  | notANumber
  | boolean (value : Bool)
  | null
  deriving DecidableEq, Repr

namespace Value

def string? : Value → Option String
  | string text => some text
  | _ => none

end Value

/-- An argument, or a property if it has a name. -/
structure Entry where
  name : Option String
  value : Value
  deriving DecidableEq, Repr

namespace Entry

def argument (text : String) : Entry :=
  ⟨none, .string text⟩

def property (name text : String) : Entry :=
  ⟨some name, .string text⟩

end Entry

inductive Node where
  | mk (name : String) (entries : List Entry) (children : Option (List Node))

namespace Node

def name : Node → String
  | mk name _ _ => name

def entries : Node → List Entry
  | mk _ entries _ => entries

/-- The children; a node without a block has none. -/
def children : Node → List Node
  | mk _ _ children => children.getD []

/-- The first argument, provided that it is a string. -/
def firstArgument? (node : Node) : Option String :=
  (node.entries.find? (·.name.isNone)).bind (·.value.string?)

/-- The value of a property; of several of one name the last one counts. -/
def property? (node : Node) (name : String) : Option Value :=
  (node.entries.reverse.find? (·.name == some name)).map (·.value)

def stringProperty? (node : Node) (name : String) : Option String :=
  (node.property? name).bind Value.string?

end Node

end RolePolicy.Kdl
