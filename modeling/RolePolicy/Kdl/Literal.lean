import RolePolicy.Kdl.Character
import RolePolicy.Kdl.Node
import RolePolicy.Text.Basic

/-!
# KDL literals

Words, numbers, keywords and the four kinds of string literals.  A string of several lines is freed
of the indentation of its last line; whitespace escapes join lines before that, and all other
escapes count as text.
-/

namespace RolePolicy.Kdl

/-! ### Words and numbers -/

def isSign (c : Char) : Bool :=
  c == '+' || c == '-'

/-- Words that are reserved for keywords. -/
def reservedWords : List (List Char) :=
  ["true", "false", "null", "inf", "nan"].map String.toList

/-- A word that looks like a number is none. -/
def isNumberLike : List Char → Bool
  | '.' :: c :: _ => c.isDigit
  | c :: rest =>
    c.isDigit || (isSign c && match rest with
      | '.' :: d :: _ => d.isDigit
      | d :: _ => d.isDigit
      | [] => false)
  | [] => false

/-- The greatest number that digits may spell, be they an integer or a part of a decimal. -/
def maxDigits : Nat := Nat.pow 2 127 - 1

/-- The number of a digit string, in which underscores are ignored after the first digit. -/
def natural? (base : Nat) : List Char → Option Nat
  | [] => none
  | c :: rest => do
    let n ← rest.foldlM
      (fun n c => if c == '_' then some n else (Text.digit? base c).map (n * base + ·))
      (← Text.digit? base c)
    if n ≤ maxDigits then some n else none

def integer (negative : Bool) (magnitude : Nat) : Value :=
  .integer (if negative then -(magnitude : Int) else magnitude)

/-- An exponent: a sign, or none, and digits. -/
def isExponent : List Char → Bool
  | c :: rest => if isSign c then (natural? 10 rest).isSome else (natural? 10 (c :: rest)).isSome
  | [] => false

/-- A decimal number without its sign. -/
def decimal? (negative : Bool) (cs : List Char) : Option Value :=
  let isPart (c : Char) : Bool := c.isDigit || c == '_'
  let whole := cs.takeWhile isPart
  let rest := cs.dropWhile isPart
  match natural? 10 whole, rest with
  | none, _ => none
  | some n, [] => some (integer negative n)
  | some _, '.' :: rest =>
    let fraction := rest.takeWhile isPart
    match natural? 10 fraction, rest.dropWhile isPart with
    | some _, [] => some .decimal
    | some _, c :: rest =>
      if (c == 'e' || c == 'E') && isExponent rest then some .decimal else none
    | none, _ => none
  | some _, c :: rest => if (c == 'e' || c == 'E') && isExponent rest then some .decimal else none

/-- The base that a letter after a leading zero stands for. -/
def base? (c : Char) : Option Nat :=
  if c == 'x' || c == 'X' then some 16
  else if c == 'o' || c == 'O' then some 8
  else if c == 'b' || c == 'B' then some 2
  else none

/-- A number without its sign. -/
def magnitude? (negative : Bool) (cs : List Char) : Option Value :=
  match cs with
  | '0' :: c :: rest =>
    match base? c with
    | some base => (natural? base rest).map (integer negative)
    | none => decimal? negative cs
  | cs => decimal? negative cs

def number? : List Char → Option Value
  | '-' :: rest => magnitude? true rest
  | '+' :: rest => magnitude? false rest
  | cs => magnitude? false cs

/-- The value of a word: a number if it looks like one, and otherwise a string, unless the word is
reserved. -/
def word? (cs : List Char) : Option Value :=
  if isNumberLike cs then number? cs
  else if reservedWords.contains cs then none
  else some (.string (String.ofList cs))

/-- The keywords after their `#`, and their values. -/
def keywords : List (String × Value) :=
  [("true", .boolean true), ("false", .boolean false), ("null", .null), ("inf", .infinity),
   ("-inf", .infinity), ("nan", .notANumber)]

/-- The keyword at the front of a text, after its `#`, and the text behind it, which may begin with
any character. -/
def keyword? (cs : List Char) : Option (Value × List Char) :=
  keywords.findSome? fun (name, value) => (name.toList.isPrefixOf? cs).map (value, ·)

/-! ### Strings -/

/-- A character of a string literal.  Only characters written literally can be indentation or a line
end. -/
inductive StringChar where
  | literal (c : Char)
  | escaped (c : Char)
  deriving DecidableEq, Repr

namespace StringChar

def char : StringChar → Char
  | literal c => c
  | escaped c => c

def isIndentation : StringChar → Bool
  | literal c => isSpace c
  | escaped _ => false

end StringChar

/-- The character of a one-letter escape. -/
def escape? : Char → Option Char
  | '"' => some '"'
  | '\\' => some '\\'
  | 'b' => some '\x08'
  | 'f' => some '\x0c'
  | 'n' => some '\n'
  | 'r' => some '\r'
  | 't' => some '\t'
  | 's' => some ' '
  | _ => none

/-- The character of a numeric escape, after its opening brace, and the text behind it. -/
def numericEscape? (cs : List Char) : Option (Char × List Char) :=
  let digits := cs.takeWhile fun c => (Text.digit? 16 c).isSome
  match digits.length, cs.dropWhile fun c => (Text.digit? 16 c).isSome with
  | 0, _ => none
  | length, '}' :: rest =>
    match natural? 16 digits with
    | some n => if length ≤ 6 && n.isValidChar then some (Char.ofNat n, rest) else none
    | none => none
  | _, _ => none

def isSpaceOrLineEnd (c : Char) : Bool :=
  isSpace c || isLineEnd c

/-- The characters of a string up to `close`, and the text behind it.  Line ends may occur only if
`lines` says so; each counts as a line feed.  `fuel` bounds the number of characters. -/
def escapedChars (lines : Bool) (close : List Char) :
    Nat → List Char → Option (List StringChar × List Char)
  | 0, _ => none
  | fuel + 1, cs =>
    match close.isPrefixOf? cs with
    | some rest => some ([], rest)
    | none =>
      let more (c : StringChar) (rest : List Char) :=
        (escapedChars lines close fuel rest).map fun (cs, rest) => (c :: cs, rest)
      match dropLineEnd? cs with
      | some rest => if lines then more (.literal '\n') rest else none
      | none =>
        match cs with
        | [] => none
        | '\\' :: 'u' :: '{' :: rest =>
          (numericEscape? rest).bind fun (c, rest) => more (.escaped c) rest
        | '\\' :: c :: rest =>
          if isSpaceOrLineEnd c then
            escapedChars lines close fuel (rest.dropWhile isSpaceOrLineEnd)
          else (escape? c).bind fun c => more (.escaped c) rest
        | c :: rest =>
          if isForbidden c || c == '\\' || (c == '"' && !lines) then none
          else more (.literal c) rest

/-- The characters of a raw string up to `close`, and the text behind it. -/
def rawChars (lines : Bool) (close : List Char) :
    Nat → List Char → Option (List StringChar × List Char)
  | 0, _ => none
  | fuel + 1, cs =>
    match close.isPrefixOf? cs with
    | some rest => some ([], rest)
    | none =>
      let more (c : Char) (rest : List Char) :=
        (rawChars lines close fuel rest).map fun (cs, rest) => (StringChar.literal c :: cs, rest)
      match dropLineEnd? cs with
      | some rest => if lines then more '\n' rest else none
      | none =>
        match cs with
        | [] => none
        | c :: rest => if isForbidden c then none else more c rest

/-- The lines of a string. -/
def stringLines : List StringChar → List (List StringChar)
  | [] => [[]]
  | .literal '\n' :: rest => [] :: stringLines rest
  | c :: rest =>
    match stringLines rest with
    | line :: lines => (c :: line) :: lines
    | [] => [[c]]

/-- A line without the indentation; a line of nothing but spaces is empty. -/
def dedentLine? (indentation line : List StringChar) : Option (List Char) :=
  if line.all StringChar.isIndentation then some []
  else (indentation.isPrefixOf? line).map (·.map StringChar.char)

/-- The text of a string of several lines: the lines before the last one without its indentation. -/
def dedent? (cs : List StringChar) : Option (List Char) :=
  match (stringLines cs).reverse with
  | [] => none
  | indentation :: before =>
    if indentation.all StringChar.isIndentation then
      (before.reverse.mapM (dedentLine? indentation)).map fun lines =>
        ['\n'].intercalate lines
    else none

/-- The string whose opening quote comes next, with `hashes` around it, and the text behind it. -/
def anyString? (hashes : Nat) (cs : List Char) : Option (String × List Char) :=
  let read := if hashes = 0 then escapedChars else rawChars
  let fence := List.replicate hashes '#'
  let inLine (rest : List Char) :=
    (read false ('"' :: fence) (rest.length + 1) rest).map fun (cs, rest) =>
      (String.ofList (cs.map StringChar.char), rest)
  match cs with
  | '"' :: '"' :: '"' :: rest =>
    match dropLineEnd? rest with
    | none => inLine ('"' :: '"' :: rest)
    | some rest => do
      let (cs, rest) ← read true ('"' :: '"' :: '"' :: fence) (rest.length + 1) rest
      return (String.ofList (← dedent? cs), rest)
  | '"' :: rest => inLine rest
  | _ => none

/-- The string whose opening quote comes next; a raw string may not be a single quote, which would
look like the start of several lines. -/
def string? (hashes : Nat) (cs : List Char) : Option (String × List Char) :=
  match anyString? hashes cs with
  | some (text, rest) => if hashes ≠ 0 ∧ text = "\"" then none else some (text, rest)
  | none => none

end RolePolicy.Kdl
