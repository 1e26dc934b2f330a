/-!
# Characters and texts

Classes of characters, and the two ways in which spellings of a name may differ: by blank characters
around it and by the case of its letters.  Blank characters are those with the Unicode property
`White_Space`, control characters those of the general category `Cc`.  Names of services, verbs,
effects and condition keys are compared without regard to the case of ASCII letters; every other
character stands for itself.
-/

namespace RolePolicy.Text

/-! ### Blank and control characters -/

/-- Unicode `White_Space`. -/
def isBlank (c : Char) : Bool :=
  let n := c.toNat
  (0x09 ≤ n && n ≤ 0x0D) || n == 0x20 || n == 0x85 || n == 0xA0 || n == 0x1680 ||
    (0x2000 ≤ n && n ≤ 0x200A) || n == 0x2028 || n == 0x2029 || n == 0x202F || n == 0x205F ||
    n == 0x3000

/-- Unicode general category `Cc`. -/
def isControl (c : Char) : Bool :=
  let n := c.toNat
  n ≤ 0x1F || (0x7F ≤ n && n ≤ 0x9F)

def isBlankOrControl (c : Char) : Bool :=
  isBlank c || isControl c

/-- The characters between the first and the last one that is not blank. -/
def trimChars (cs : List Char) : List Char :=
  ((cs.dropWhile isBlank).reverse.dropWhile isBlank).reverse

/-- The text without blank characters at its ends. -/
def trim (s : String) : String :=
  String.ofList (trimChars s.toList)

/-! ### Letter case -/

def foldChars (cs : List Char) : List Char :=
  cs.map Char.toLower

/-- The text with its ASCII capitals made small. -/
def foldCase (s : String) : String :=
  String.ofList (foldChars s.toList)

/-- Equality up to the case of ASCII letters. -/
def sameFolded (s t : String) : Bool :=
  foldCase s == foldCase t

/-- `s` begins with `p`, up to the case of ASCII letters. -/
def beginsFolded (p s : String) : Bool :=
  (foldChars p.toList).isPrefixOf (foldChars s.toList)

/-! ### Digits -/

/-- The value of a digit in a base up to sixteen. -/
def digit? (base : Nat) (c : Char) : Option Nat :=
  let value :=
    if c.isDigit then c.toNat - '0'.toNat
    else if 'a' ≤ c && c ≤ 'f' then c.toNat - 'a'.toNat + 10
    else if 'A' ≤ c && c ≤ 'F' then c.toNat - 'A'.toNat + 10
    else base
  if value < base then some value else none

end RolePolicy.Text
