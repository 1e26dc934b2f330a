import RolePolicy.Json.Basic

/-!
# Printing JSON text

A value is printed on one line, or with each item and field on a line of its own, indented by two
spaces for each level; an empty array or object takes no lines.  In strings only quotes, backslashes
and control characters below the space are escaped.
-/

namespace RolePolicy.Json

def hexDigit (n : Nat) : Char :=
  if n < 10 then Char.ofNat ('0'.toNat + n) else Char.ofNat ('a'.toNat + (n - 10))

/-- The spelling of a character in a string. -/
def escapeChar (c : Char) : List Char :=
  if c = '"' then ['\\', '"']
  else if c = '\\' then ['\\', '\\']
  else if c = '\x08' then ['\\', 'b']
  else if c = '\x0c' then ['\\', 'f']
  else if c = '\n' then ['\\', 'n']
  else if c = '\r' then ['\\', 'r']
  else if c = '\t' then ['\\', 't']
  else if c.toNat < 0x20 then ['\\', 'u', '0', '0', hexDigit (c.toNat / 16), hexDigit (c.toNat % 16)]
  else [c]

def stringText (s : String) : List Char :=
  '"' :: (s.toList.flatMap escapeChar ++ ['"'])

/-- How the parts of a value are set apart: on one line, or on lines indented by `level`. -/
inductive Layout where
  | line
  | indented (level : Nat)

namespace Layout

def deeper : Layout → Layout
  | line => line
  | indented level => indented (level + 1)

/-- What stands before an item, and before the closing bracket of the level above. -/
def lineBreak : Layout → List Char
  | line => []
  | indented level => '\n' :: List.replicate (2 * level) ' '

def colon : Layout → List Char
  | line => [':']
  | indented _ => [':', ' ']

end Layout

mutual

def print (layout : Layout) : Json → List Char
  | .null => ['n', 'u', 'l', 'l']
  | .boolean true => ['t', 'r', 'u', 'e']
  | .boolean false => ['f', 'a', 'l', 's', 'e']
  | .number numeral => numeral.text.toList
  | .string text => stringText text
  | .array [] => ['[', ']']
  | .array (item :: items) =>
    '[' :: (layout.deeper.lineBreak ++ print layout.deeper item ++ printItems layout.deeper items ++
      layout.lineBreak ++ [']'])
  | .members [] => ['{', '}']
  | .members ((name, value) :: pairs) =>
    '{' :: (layout.deeper.lineBreak ++ print layout.deeper name ++ layout.colon ++
      print layout.deeper value ++ printMembers layout.deeper pairs ++ layout.lineBreak ++ ['}'])
  | .garbled | .unreadable => []

/-- The items after the first one. -/
def printItems (layout : Layout) : List Json → List Char
  | [] => []
  | item :: items =>
    ',' :: (layout.lineBreak ++ print layout item ++ printItems layout items)

/-- The members after the first one. -/
def printMembers (layout : Layout) : List (Json × Json) → List Char
  | [] => []
  | (name, value) :: pairs =>
    ',' :: (layout.lineBreak ++ print layout name ++ layout.colon ++ print layout value ++
      printMembers layout pairs)

end

/-- The text of a value on one line. -/
def compact (value : Json) : String :=
  String.ofList (print .line value)

/-- The text of a value on indented lines. -/
def pretty (value : Json) : String :=
  String.ofList (print (.indented 0) value)

end RolePolicy.Json
