import RolePolicy.Kdl.Token

/-!
# Reading KDL documents

The nodes that a list of tokens describes.  Anything may be commented out by a slashdash in front of
it: a node, an entry or a block of children.  A reader gives what it has read and the tokens behind
it, or nothing if it cannot read; what only may follow is tried and left where it stands if it cannot
be read.  `fuel` bounds the depth of the recursion.
-/

namespace RolePolicy.Kdl

namespace Token

def isBetweenLines : Token → Bool
  | space | lineEnd => true
  | _ => false

def dropSpace (ts : List Token) : List Token :=
  ts.dropWhile (· == space)

/-- Drop spaces and line ends. -/
def dropLines (ts : List Token) : List Token :=
  ts.dropWhile isBetweenLines

end Token

open Token (dropSpace dropLines)

/-- Drop a type annotation, which holds a string, and the space behind it. -/
def dropType? : List Token → Option (List Token)
  | .openType :: rest =>
    match dropSpace rest with
    | .value (.string _) :: rest =>
      match dropSpace rest with
      | .closeType :: rest => some (dropSpace rest)
      | _ => none
    | _ => none
  | ts => some ts

/-- A value, possibly behind a type annotation. -/
def readTyped (ts : List Token) : Option (Value × List Token) :=
  match dropType? ts with
  | some (.value v :: rest) => some (v, rest)
  | _ => none

/-- An argument or a property; the name of a property has no type annotation. -/
def readArgument (ts : List Token) : Option (Entry × List Token) :=
  match ts with
  | .value (.string text) :: rest =>
    match dropSpace rest with
    | .equals :: behind =>
      (readTyped (dropSpace behind)).map fun (v, rest) => (⟨some text, v⟩, rest)
    | _ => some (⟨none, .string text⟩, rest)
  | ts => (readTyped ts).map fun (v, rest) => (⟨none, v⟩, rest)

/-- The tokens behind a slashdash that stands in front after at least one space. -/
def dropSlashdash? (ts : List Token) : Option (List Token) :=
  match ts.head?, dropSpace ts with
  | some .space, .slashdash :: rest => some (dropLines rest)
  | _, _ => none

mutual

/-- The entry behind spaces; the entries in front of it that are commented out do not count. -/
def readEntry (fuel : Nat) (ts : List Token) : Option (Entry × List Token) :=
  match fuel with
  | 0 => none
  | fuel + 1 =>
    match dropSpace ts with
    | .slashdash :: rest =>
      match skipEntries fuel (dropLines rest) with
      | some (.space :: rest) => readArgument (dropSpace rest)
      | _ => none
    | rest => readArgument rest

/-- The tokens behind entries that are commented out, each by a slashdash of its own, the first of
which has been read. -/
def skipEntries (fuel : Nat) (ts : List Token) : Option (List Token) :=
  match fuel with
  | 0 => none
  | fuel + 1 =>
    match readEntry fuel ts with
    | none => none
    | some (_, rest) => some (((dropSlashdash? rest).bind (skipEntries fuel)).getD rest)

end

/-- The entries of a node, each behind a space. -/
def readEntries (fuel : Nat) (ts : List Token) : List Entry × List Token :=
  match fuel with
  | 0 => ([], ts)
  | fuel + 1 =>
    if ts.head? = some .space then
      match readEntry fuel ts with
      | none => ([], ts)
      | some (entry, rest) =>
        let (entries, rest) := readEntries fuel rest
        (entry :: entries, rest)
    else ([], ts)

mutual

/-- Drop spaces, line ends and nodes that are commented out.  Nothing has to end such a node, and no
semicolon may. -/
def dropFiller (fuel : Nat) (ts : List Token) : List Token :=
  match fuel with
  | 0 => ts
  | fuel + 1 =>
    match dropLines ts with
    | .slashdash :: rest =>
      match readNode fuel (dropLines rest) with
      | some (_, rest) => dropFiller fuel rest
      | none => .slashdash :: rest
    | rest => rest

/-- Nodes up to the end of the tokens or of a block.  A node is ended by a line end or by a
semicolon; behind the last one only filler may follow. -/
def readNodes (fuel : Nat) (ts : List Token) : Option (List Node × List Token) :=
  match fuel with
  | 0 => none
  | fuel + 1 =>
    match dropFiller fuel ts with
    | [] => some ([], [])
    | .closeBlock :: rest => some ([], .closeBlock :: rest)
    | ts => do
      let (node, rest) ← readNode fuel ts
      match rest with
      | .lineEnd :: rest | .semicolon :: rest =>
        let (nodes, rest) ← readNodes fuel rest
        return (node :: nodes, rest)
      | rest => return ([node], dropFiller fuel rest)

/-- A node without what ends it, and the spaces behind it. -/
def readNode (fuel : Nat) (ts : List Token) : Option (Node × List Token) :=
  match fuel with
  | 0 => none
  | fuel + 1 =>
    match dropType? ts with
    | some (.value (.string name) :: rest) =>
      let (entries, rest) := readEntries fuel rest
      match skipToBlock fuel rest with
      | .openBlock :: rest => do
        let (nodes, rest) ← readBlock fuel rest
        let rest := dropSpace rest
        return (.mk name entries (some nodes), dropSpace ((skipBlocks fuel rest).getD rest))
      | rest => some (.mk name entries none, rest)
    | _ => none

/-- Drop what may stand between the entries of a node and its block: spaces, entries that are
commented out, and behind them blocks that are. -/
def skipToBlock (fuel : Nat) (ts : List Token) : List Token :=
  match fuel with
  | 0 => ts
  | fuel + 1 =>
    if ts.head? = some .space then
      let rest := ((dropSlashdash? ts).bind (skipEntries fuel)).getD ts
      if rest.head? = some .space then
        dropSpace ((skipBlocks fuel (dropSpace rest)).getD rest)
      else rest
    else ts

/-- The tokens behind blocks that are commented out, at least one, with spaces between them. -/
def skipBlocks (fuel : Nat) (ts : List Token) : Option (List Token) :=
  match fuel, ts with
  | fuel + 1, .slashdash :: rest =>
    match dropLines rest with
    | .openBlock :: rest => do
      let (_, rest) ← readBlock fuel rest
      if rest.head? = some .space then
        return (skipBlocks fuel (dropSpace rest)).getD rest
      else return rest
    | _ => none
  | _, _ => none

/-- The nodes of a block whose opening brace has been read. -/
def readBlock (fuel : Nat) (ts : List Token) : Option (List Node × List Token) :=
  match fuel with
  | 0 => none
  | fuel + 1 => do
    let (nodes, rest) ← readNodes fuel ts
    match rest with
    | .closeBlock :: rest => return (nodes, rest)
    | _ => none

end

/-- The nodes of a document, unless its text is misspelt. -/
def read? (text : String) : Option (List Node) := do
  let tokens ← Token.scan text
  match ← readNodes (4 * tokens.length + 4) tokens with
  | (nodes, []) => some nodes
  | _ => none

end RolePolicy.Kdl
