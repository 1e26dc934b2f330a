/-!
# Templates

Manifest strings may hold variables written `${name}`.  Reading from the left, each `${` is closed
by the next `}`; what stands between is the name, whatever characters it has.  Every use of
variables, their substitution, their validation and their resolution, works on the pieces found by
this one scan.
-/

namespace RolePolicy.Text

/-- A piece of a template: a character that stands for itself, a variable, or the text after a `${`
that is never closed. -/
inductive Piece where
  | literal (c : Char)
  | variable (name : List Char)
  | unclosed (rest : List Char)
  deriving DecidableEq, Repr

mutual

/-- The pieces of a text. -/
def pieces : List Char → List Piece
  | '$' :: '{' :: cs => piecesInside [] cs
  | c :: cs => .literal c :: pieces cs
  | [] => []

/-- The pieces of a text that follows `${` and the characters of `name`, last one first. -/
def piecesInside (name : List Char) : List Char → List Piece
  | '}' :: cs => .variable name.reverse :: pieces cs
  | c :: cs => piecesInside (c :: name) cs
  | [] => [.unclosed name.reverse]

end

/-- The text of a piece. -/
def Piece.render : Piece → List Char
  | .literal c => [c]
  | .variable name => '$' :: '{' :: (name ++ ['}'])
  | .unclosed rest => '$' :: '{' :: rest

/-- A `${` occurs in the text. -/
def opensVariable : List Char → Bool
  | '$' :: '{' :: _ => true
  | _ :: cs => opensVariable cs
  | [] => false

/-- A namespaced name belongs to a policy variable, which is resolved only when a request is
evaluated; any other name belongs to a placeholder of the manifest. -/
def isNamespaced (name : List Char) : Bool :=
  name.contains ':'

end RolePolicy.Text
