import RolePolicy.Json.Basic
import RolePolicy.Text.Basic

/-!
# Reading JSON text

The grammar of RFC 8259.  Reading does not fail: at the first fault of syntax it leaves `unreadable`
in the value that it was reading and stops.
-/

namespace RolePolicy.Json

def isSpace (c : Char) : Bool :=
  c == ' ' || c == '\t' || c == '\n' || c == '\r'

def skipSpace (cs : List Char) : List Char :=
  cs.dropWhile isSpace

/-- A part of a string: a character, or a UTF-16 unit given by an escape. -/
inductive StringPart where
  | char (c : Char)
  | unit (n : Nat)
  deriving DecidableEq, Repr

/-- The UTF-16 unit of four hexadecimal digits. -/
def unit? (a b c d : Char) : Option Nat :=
  ([a, b, c, d].mapM (Text.digit? 16)).map (·.foldl (fun n d => n * 16 + d) 0)

/-- The character of a two-character escape. -/
def escaped? : Char → Option Char
  | '"' => some '"'
  | '\\' => some '\\'
  | '/' => some '/'
  | 'b' => some '\x08'
  | 'f' => some '\x0c'
  | 'n' => some '\n'
  | 'r' => some '\r'
  | 't' => some '\t'
  | _ => none

/-- The parts of a string after its opening quote, and the text after its closing one. -/
def readParts : List Char → Option (List StringPart × List Char)
  | '"' :: rest => some ([], rest)
  | '\\' :: 'u' :: a :: b :: c :: d :: rest =>
    match unit? a b c d with
    | none => none
    | some n => (readParts rest).map fun (parts, rest) => (.unit n :: parts, rest)
  | '\\' :: c :: rest =>
    match escaped? c with
    | none => none
    | some e => (readParts rest).map fun (parts, rest) => (.char e :: parts, rest)
  | c :: rest =>
    if c.toNat < 0x20 || c == '\\' then none
    else (readParts rest).map fun (parts, rest) => (.char c :: parts, rest)
  | [] => none

def isHighSurrogate (n : Nat) : Bool :=
  0xD800 ≤ n && n ≤ 0xDBFF

def isLowSurrogate (n : Nat) : Bool :=
  0xDC00 ≤ n && n ≤ 0xDFFF

/-- The text that the parts of a string spell; surrogates count only in pairs. -/
def spell : List StringPart → Option (List Char)
  | [] => some []
  | .char c :: rest => (spell rest).map (c :: ·)
  | .unit high :: rest =>
    if isHighSurrogate high then
      match rest with
      | .unit low :: rest =>
        if isLowSurrogate low then
          (spell rest).map (Char.ofNat (0x10000 + (high - 0xD800) * 0x400 + (low - 0xDC00)) :: ·)
        else none
      | _ => none
    else if isLowSurrogate high then none
    else (spell rest).map (Char.ofNat high :: ·)

/-- The digits at the front of a text, at least one. -/
def readDigits (cs : List Char) : Option (List Char × List Char) :=
  match cs.takeWhile Char.isDigit with
  | [] => none
  | digits => some (digits, cs.dropWhile Char.isDigit)

/-- The digits before the point: a single zero, or digits without a zero in front. -/
def readWhole (cs : List Char) : Option (List Char × List Char) :=
  match readDigits cs with
  | some ('0' :: _ :: _, _) => none
  | r => r

def readFraction : List Char → Option (List Char × List Char)
  | '.' :: rest => readDigits rest
  | rest => some ([], rest)

def decimalValue (digits : List Char) : Nat :=
  digits.foldl (fun n c => n * 10 + Numeral.digitValue c) 0

def readExponentDigits (negative : Bool) (cs : List Char) : Option (Option Int × List Char) :=
  (readDigits cs).map fun (digits, rest) =>
    (some (if negative then -(decimalValue digits : Int) else decimalValue digits), rest)

def readExponent : List Char → Option (Option Int × List Char)
  | c :: rest =>
    if c == 'e' || c == 'E' then
      match rest with
      | '+' :: rest => readExponentDigits false rest
      | '-' :: rest => readExponentDigits true rest
      | rest => readExponentDigits false rest
    else some (none, c :: rest)
  | [] => some (none, [])

def readNumeral (cs : List Char) : Option (Numeral × List Char) := do
  let (negative, cs) := match cs with
    | '-' :: rest => (true, rest)
    | cs => (false, cs)
  let (whole, cs) ← readWhole cs
  let (fraction, cs) ← readFraction cs
  let (exponent, cs) ← readExponent cs
  return ({ negative, whole, fraction, exponent }, cs)

/-- A value that could be read only in part is the last thing read. -/
abbrev Reading (α : Type) := α × Option (List Char)

mutual

/-- Read a value; `fuel` bounds the nesting. -/
def readValue (fuel : Nat) (cs : List Char) : Reading Json :=
  match fuel with
  | 0 => (.unreadable, none)
  | fuel + 1 =>
    match skipSpace cs with
    | 'n' :: 'u' :: 'l' :: 'l' :: rest => (.null, some rest)
    | 't' :: 'r' :: 'u' :: 'e' :: rest => (.boolean true, some rest)
    | 'f' :: 'a' :: 'l' :: 's' :: 'e' :: rest => (.boolean false, some rest)
    | '"' :: rest =>
      match readParts rest with
      | none => (.unreadable, none)
      | some (parts, rest) =>
        match spell parts with
        | none => (.garbled, some rest)
        | some text => (.string (String.ofList text), some rest)
    | '[' :: rest =>
      match skipSpace rest with
      | ']' :: rest => (.array [], some rest)
      | rest =>
        let (items, rest) := readItems fuel rest
        (.array items, rest)
    | '{' :: rest =>
      match skipSpace rest with
      | '}' :: rest => (.members [], some rest)
      | rest =>
        let (pairs, rest) := readMembers fuel rest
        (.members pairs, rest)
    | rest =>
      match readNumeral rest with
      | none => (.unreadable, none)
      | some (numeral, rest) => (.number numeral, some rest)

/-- Read the items of an array up to its end. -/
def readItems (fuel : Nat) (cs : List Char) : Reading (List Json) :=
  match fuel with
  | 0 => ([.unreadable], none)
  | fuel + 1 =>
    match readValue fuel cs with
    | (item, none) => ([item], none)
    | (item, some rest) =>
      match skipSpace rest with
      | ']' :: rest => ([item], some rest)
      | ',' :: rest =>
        let (items, rest) := readItems fuel rest
        (item :: items, rest)
      | _ => ([item, .unreadable], none)

/-- Read the members of an object up to its end.  Reading stops at a name that is not a string. -/
def readMembers (fuel : Nat) (cs : List Char) : Reading (List (Json × Json)) :=
  match fuel with
  | 0 => ([(.unreadable, .unreadable)], none)
  | fuel + 1 =>
    match readValue fuel cs with
    | (name, none) => ([(name, .unreadable)], none)
    | (name, some rest) =>
      match name.isName, skipSpace rest with
      | true, ':' :: rest =>
        match readValue fuel rest with
        | (value, none) => ([(name, value)], none)
        | (value, some rest) =>
          match skipSpace rest with
          | '}' :: rest => ([(name, value)], some rest)
          | ',' :: rest =>
            let (pairs, rest) := readMembers fuel rest
            ((name, value) :: pairs, rest)
          | _ => ([(name, value), (.unreadable, .unreadable)], none)
      | _, _ => ([(name, .unreadable)], none)

end

/-- The value of a text, and whether nothing but space follows it. -/
def read (text : String) : Json × Bool :=
  let cs := text.toList
  match readValue (2 * cs.length + 2) cs with
  | (value, none) => (value, false)
  | (value, some rest) => (value, (skipSpace rest).isEmpty)

end RolePolicy.Json
