/-!
# Characters of KDL text

Spaces, line ends, the characters that words are made of, and the code points that may not occur
literally.
-/

namespace RolePolicy.Kdl

def isSpace (c : Char) : Bool :=
  let n := c.toNat
  n == 0x09 || n == 0x20 || n == 0xA0 || n == 0x1680 || (0x2000 ≤ n && n ≤ 0x200A) ||
    n == 0x202F || n == 0x205F || n == 0x3000

/-- The characters that end a line; a carriage return and a line feed end it together. -/
def isLineEnd (c : Char) : Bool :=
  let n := c.toNat
  (0x0A ≤ n && n ≤ 0x0D) || n == 0x85 || n == 0x2028 || n == 0x2029

/-- Control characters, marks of text direction and the byte order mark. -/
def isForbidden (c : Char) : Bool :=
  let n := c.toNat
  n ≤ 0x08 || (0x0E ≤ n && n ≤ 0x1F) || (0x200E ≤ n && n ≤ 0x200F) ||
    (0x202A ≤ n && n ≤ 0x202E) || (0x2066 ≤ n && n ≤ 0x2069) || n == 0xFEFF

/-- Characters that end a word. -/
def isMark (c : Char) : Bool :=
  ['\\', '/', '(', ')', '{', '}', '[', ']', ';', '"', '#', '='].contains c

def isWordChar (c : Char) : Bool :=
  !isMark c && !isSpace c && !isLineEnd c && !isForbidden c

/-- Drop the line end at the front of a text. -/
def dropLineEnd? : List Char → Option (List Char)
  | '\r' :: '\n' :: rest => some rest
  | c :: rest => if isLineEnd c then some rest else none
  | [] => none

end RolePolicy.Kdl
