import RolePolicy.Kdl.Literal

/-!
# KDL tokens

The text of a document as a list of tokens.  Spaces, block comments and continued lines are one
token of space; the end of a line, with a comment in front of it or not, is one of line end.
-/

namespace RolePolicy.Kdl

inductive Token where
  | space
  | lineEnd
  | slashdash
  | openType
  | closeType
  | openBlock
  | closeBlock
  | equals
  | semicolon
  | value (value : Value)
  deriving DecidableEq, Repr

namespace Token

/-- The text behind a block comment whose opening has been read; comments nest, and `depth` of them
are open. -/
def skipBlock : (depth : Nat) → List Char → Option (List Char)
  | 0, rest => some rest
  | depth + 1, '*' :: '/' :: rest => skipBlock depth rest
  | depth + 1, '/' :: '*' :: rest => skipBlock (depth + 2) rest
  | depth + 1, _ :: rest => skipBlock (depth + 1) rest
  | _ + 1, [] => none

/-- The text from the end of the line on. -/
def skipLine (cs : List Char) : List Char :=
  cs.dropWhile fun c => !isLineEnd c

/-- The text behind a line end, if the text begins with one or ends here. -/
def dropLineEndOrEnd? (cs : List Char) : Option (List Char) :=
  if cs.isEmpty then some [] else dropLineEnd? cs

/-- The text behind spaces and block comments. -/
def skipSpaces : Nat → List Char → Option (List Char)
  | 0, cs => some cs
  | fuel + 1, cs =>
    match cs with
    | '/' :: '*' :: rest => (skipBlock 1 rest).bind (skipSpaces fuel)
    | c :: rest => if isSpace c then skipSpaces fuel rest else some (c :: rest)
    | [] => some []

/-- The text behind a line that is continued, after its backslash. -/
def skipContinuation (cs : List Char) : Option (List Char) :=
  match skipSpaces cs.length cs with
  | none => none
  | some ('/' :: '/' :: rest) => dropLineEndOrEnd? (skipLine rest)
  | some rest => dropLineEndOrEnd? rest

/-- What may stand right behind a string or a number: the end of the text, a space, a line end, a
comment, or a mark that ends a value. -/
def endsValue : List Char → Bool
  | [] => true
  | '/' :: c :: _ => c == '/' || c == '*'
  | c :: _ => isSpace c || isLineEnd c || ['\\', ';', '=', ')', '\x7b', '\x7d'].contains c

/-- A string or a number as a token, unless something else is stuck to it. -/
def ofValue? (v : Value) (rest : List Char) : Option (Token × List Char) :=
  if endsValue rest then some (value v, rest) else none

/-- The first token of a text that is not empty, and the text behind it. -/
def next? (cs : List Char) : Option (Token × List Char) :=
  match cs with
  | [] => none
  | '/' :: '/' :: rest => (dropLineEndOrEnd? (skipLine rest)).map (lineEnd, ·)
  | '/' :: '*' :: rest => (skipBlock 1 rest).map (space, ·)
  | '/' :: '-' :: rest => some (slashdash, rest)
  | '\\' :: rest => (skipContinuation rest).map (space, ·)
  | '(' :: rest => some (openType, rest)
  | ')' :: rest => some (closeType, rest)
  | '{' :: rest => some (openBlock, rest)
  | '}' :: rest => some (closeBlock, rest)
  | '=' :: rest => some (equals, rest)
  | ';' :: rest => some (semicolon, rest)
  | '"' :: _ => (string? 0 cs).bind fun (text, rest) => ofValue? (.string text) rest
  | '#' :: rest =>
    let behind := cs.dropWhile (· == '#')
    if behind.head? == some '"' then
      (string? (cs.takeWhile (· == '#')).length behind).bind fun (text, rest) =>
        ofValue? (.string text) rest
    else (keyword? rest).map fun (v, rest) => (value v, rest)
  | c :: rest =>
    if isSpace c then some (space, rest)
    else
      match dropLineEnd? cs with
      | some rest => some (lineEnd, rest)
      | none =>
        if isWordChar c then
          (word? (cs.takeWhile isWordChar)).bind fun v => ofValue? v (cs.dropWhile isWordChar)
        else none

/-- The tokens of a text, each of which takes at least one character; `fuel` bounds their number. -/
def scanFrom : Nat → List Char → Option (List Token)
  | _, [] => some []
  | 0, _ => none
  | fuel + 1, cs =>
    match next? cs with
    | none => none
    | some (token, rest) => (scanFrom fuel rest).map (token :: ·)

/-- The tokens of a document; a byte order mark in front of it does not count. -/
def scan (text : String) : Option (List Token) :=
  let cs := text.toList
  let cs := if cs.head?.any fun c => c.toNat == 0xFEFF then cs.tail else cs
  scanFrom cs.length cs

end Token

end RolePolicy.Kdl
