import RolePolicy.Toml.Basic
import RolePolicy.Toml.DateTime

/-!
# TOML literals

Strings and numbers.  Each reader takes a literal from the front of a text and returns
the rest.  A line break in a string of several lines counts as a line feed.
-/

namespace RolePolicy.Toml

def isBlank (c : Char) : Bool :=
  c == ' ' || c == '\t'

def skipBlanks (cs : List Char) : List Char :=
  cs.dropWhile isBlank

/-- Characters that stand for themselves in comments and strings: tabs and all but control
characters. -/
def isPlain (c : Char) : Bool :=
  c == '\t' || (0x20 ≤ c.toNat && c.toNat ≠ 0x7F)

/-- What follows a line break. -/
def newline? : List Char → Option (List Char)
  | '\n' :: rest => some rest
  | '\r' :: '\n' :: rest => some rest
  | _ => none

/-- Drop blanks and line breaks. -/
def skipBlankLines : List Char → List Char
  | '\r' :: '\n' :: rest => skipBlankLines rest
  | c :: rest => if isBlank c || c == '\n' then skipBlankLines rest else c :: rest
  | [] => []

/-! ### Digits -/

/-- Digits after a first one; an underscore stands between two digits. -/
def moreDigits (base : Nat) : List Char → Option (List Nat × List Char)
  | '_' :: c :: rest => do
    let d ← Text.digit? base c
    let (digits, rest) ← moreDigits base rest
    return (d :: digits, rest)
  | '_' :: [] => none
  | c :: rest =>
    match Text.digit? base c with
    | none => some ([], c :: rest)
    | some d => do
      let (digits, rest) ← moreDigits base rest
      return (d :: digits, rest)
  | [] => some ([], [])

/-- One digit or more. -/
def digits (base : Nat) : List Char → Option (List Nat × List Char)
  | c :: rest => do
    let d ← Text.digit? base c
    let (digits, rest) ← moreDigits base rest
    return (d :: digits, rest)
  | [] => none

def ofDigits (base : Nat) (digits : List Nat) : Nat :=
  digits.foldl (fun value d => value * base + d) 0

/-! ### Strings -/

/-- The character of an escape, after its backslash. -/
def readEscape : List Char → Option (Char × List Char)
  | 'b' :: rest => some ('\x08', rest)
  | 't' :: rest => some ('\t', rest)
  | 'n' :: rest => some ('\n', rest)
  | 'f' :: rest => some ('\x0c', rest)
  | 'r' :: rest => some ('\r', rest)
  | '"' :: rest => some ('"', rest)
  | '\\' :: rest => some ('\\', rest)
  | 'u' :: rest => codePoint 4 rest
  | 'U' :: rest => codePoint 8 rest
  | _ => none
where
  /-- The character of `n` hexadecimal digits. -/
  codePoint (n : Nat) (cs : List Char) : Option (Char × List Char) := do
    let (value, rest) ← fixedDigits 16 n cs
    if value.isValidChar then some (Char.ofNat value, rest) else none

/-- The text of a string up to its closing quote; `fuel` is at least the length of the text. -/
def readBasic : Nat → List Char → Option (List Char × List Char)
  | 0, _ => none
  | _ + 1, [] => none
  | fuel + 1, c :: rest =>
    if c == '"' then some ([], rest)
    else if c == '\\' then do
      let (e, rest) ← readEscape rest
      let (text, rest) ← readBasic fuel rest
      return (e :: text, rest)
    else if isPlain c then do
      let (text, rest) ← readBasic fuel rest
      return (c :: text, rest)
    else none

/-- The text up to the next single quote, on one line. -/
def readLiteral (cs : List Char) : Option (List Char × List Char) :=
  match cs.dropWhile fun c => isPlain c && c != '\'' with
  | '\'' :: rest => some (cs.takeWhile fun c => isPlain c && c != '\'', rest)
  | _ => none

/-- The quotes of a run at which a string of several lines ends: one or two of them may still belong
to the text. -/
def closingRun (count : Nat) : Option Nat :=
  if 3 ≤ count ∧ count ≤ 5 then some (count - 3) else none

/-- The text of a string of several lines up to its three closing quotes.  A backslash at the end of
a line joins it with the next line that is not blank; where there are no escapes, a backslash stands
for itself. -/
def readLines (quote : Char) (escapes : Bool) :
    Nat → List Char → Option (List Char × List Char)
  | 0, _ => none
  | _ + 1, [] => none
  | fuel + 1, c :: rest =>
    if c == quote then
      let count := 1 + (rest.takeWhile (· == quote)).length
      let rest := rest.dropWhile (· == quote)
      if count < 3 then do
        let (text, rest) ← readLines quote escapes fuel rest
        return (List.replicate count quote ++ text, rest)
      else (closingRun count).map fun kept => (List.replicate kept quote, rest)
    else if c == '\\' && escapes then
      match newline? (skipBlanks rest) with
      | some rest => readLines quote escapes fuel (skipBlankLines rest)
      | none => do
        let (e, rest) ← readEscape rest
        let (text, rest) ← readLines quote escapes fuel rest
        return (e :: text, rest)
    else
      match newline? (c :: rest) with
      | some rest => do
        let (text, rest) ← readLines quote escapes fuel rest
        return ('\n' :: text, rest)
      | none =>
        if isPlain c then do
          let (text, rest) ← readLines quote escapes fuel rest
          return (c :: text, rest)
        else none

/-- A line break right after the opening quotes does not count. -/
def dropFirstNewline (cs : List Char) : List Char :=
  (newline? cs).getD cs

/-- A string of any of the four kinds. -/
def readString : List Char → Option (List Char × List Char)
  | '"' :: '"' :: '"' :: rest => readLines '"' true (rest.length + 1) (dropFirstNewline rest)
  | '"' :: rest => readBasic (rest.length + 1) rest
  | '\'' :: '\'' :: '\'' :: rest => readLines '\'' false (rest.length + 1) (dropFirstNewline rest)
  | '\'' :: rest => readLiteral rest
  | _ => none

/-! ### Numbers -/

/-- A sign in front: whether it is negative, and the rest. -/
def readSign : List Char → Bool × List Char
  | '-' :: rest => (true, rest)
  | '+' :: rest => (false, rest)
  | cs => (false, cs)

/-- Digits without a zero in front, or a single zero. -/
def readWhole (cs : List Char) : Option (List Nat × List Char) :=
  match cs with
  | '0' :: rest => some ([0], rest)
  | cs => digits 10 cs

/-- An integer that fits into 64 bits. -/
def integer? (value : Int) : Option Toml :=
  if fitsSigned 64 value then some (.integer value) else none

/-- The real number `n * 10 ^ e`; one that is too great is infinite. -/
def realOf (negative : Bool) (n : Nat) (e : Int) : Real :=
  let point : Int := (Nat.toDigits 10 n).length + e
  if n = 0 ∨ point < -400 then .finite negative ⟨0, Binary64.leastExponent⟩
  else if 400 < point then .infinite negative
  else
    match Binary64.ofDecimal n e with
    | some magnitude => .finite negative magnitude
    | none => .infinite negative

/-- Numbers may be too great only below zero. -/
def real? (negative : Bool) (n : Nat) (e : Int) : Option Toml :=
  match realOf negative n e with
  | .infinite false => none
  | value => some (.real value)

/-- The exponent of a number, if there is one. -/
def readExponent : List Char → Option (Option Int × List Char)
  | c :: rest =>
    if c == 'e' || c == 'E' then do
      let (negative, rest) := readSign rest
      let (ds, rest) ← digits 10 rest
      let n : Int := ofDigits 10 ds
      return (some (if negative then -n else n), rest)
    else some (none, c :: rest)
  | [] => some (none, [])

/-- A decimal number after its sign. -/
def readDecimal (negative : Bool) (cs : List Char) : Option (Toml × List Char) := do
  let (whole, cs) ← readWhole cs
  let (fraction, cs) ← match cs with
    | '.' :: rest => (digits 10 rest).map fun (ds, rest) => (some ds, rest)
    | cs => some (none, cs)
  let (exponent, cs) ← readExponent cs
  let value ←
    match fraction, exponent with
    | none, none =>
      let n : Int := ofDigits 10 whole
      integer? (if negative then -n else n)
    | fraction, exponent =>
      let ds := fraction.getD []
      real? negative (ofDigits 10 (whole ++ ds)) (exponent.getD 0 - ds.length)
  return (value, cs)

/-- An integer in another base than ten. -/
def readBased (base : Nat) (cs : List Char) : Option (Toml × List Char) := do
  let (ds, rest) ← digits base cs
  return (← integer? (ofDigits base ds), rest)

/-- A number that is no date or time. -/
def readNumber : List Char → Option (Toml × List Char)
  | '0' :: 'x' :: rest => readBased 16 rest
  | '0' :: 'o' :: rest => readBased 8 rest
  | '0' :: 'b' :: rest => readBased 2 rest
  | cs =>
    match readSign cs with
    | (negative, 'i' :: 'n' :: 'f' :: rest) => some (.real (.infinite negative), rest)
    | (_, 'n' :: 'a' :: 'n' :: rest) => some (.real .undefined, rest)
    | (negative, cs) => readDecimal negative cs

/-- A value that is neither an array nor a table. -/
def readScalar (cs : List Char) : Option (Toml × List Char) :=
  match cs with
  | 't' :: 'r' :: 'u' :: 'e' :: rest => some (.boolean true, rest)
  | 'f' :: 'a' :: 'l' :: 's' :: 'e' :: rest => some (.boolean false, rest)
  | c :: _ =>
    if c == '"' || c == '\'' then
      (readString cs).map fun (text, rest) => (.string (String.ofList text), rest)
    else
      match readDateTime cs with
      | some (text, rest) => some (.dateTime (String.ofList text), rest)
      | none => readNumber cs
  | [] => none

end RolePolicy.Toml
