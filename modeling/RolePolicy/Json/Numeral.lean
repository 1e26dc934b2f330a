import RolePolicy.Number.Binary64

/-!
# JSON numerals

A numeral is kept as written.  Its value is an integer when it is written as one and fits into 64
bits, and a double otherwise; the double is found by scaling the first digits by a power of ten, so
it may miss the nearest one by a unit in the last place.
-/

namespace RolePolicy.Json

/-- A numeral as written: its digits before and after the point, and its exponent. -/
structure Numeral where
  negative : Bool
  whole : List Char
  fraction : List Char
  exponent : Option Int
  deriving DecidableEq, Repr

/-- What a numeral denotes. -/
inductive NumeralValue where
  | integer (value : Int)
  | real (negative : Bool) (magnitude : Binary64)
  | outOfRange
  deriving DecidableEq, Repr

namespace Numeral

def ofNat (n : Nat) : Numeral :=
  { negative := false, whole := Nat.toDigits 10 n, fraction := [], exponent := none }

def text (n : Numeral) : String :=
  String.ofList <|
    (if n.negative then ['-'] else []) ++ n.whole ++
      (if n.fraction.isEmpty then [] else '.' :: n.fraction) ++
      match n.exponent with
      | none => []
      | some e => 'e' :: (toString e).toList

def digitValue (c : Char) : Nat :=
  c.toNat - '0'.toNat

/-- Read digits into `acc` as long as the result stays below `2 ^ 64`; the rest is left. -/
def accumulate (acc : Nat) : List Char → Nat × List Char
  | [] => (acc, [])
  | c :: cs =>
    let next := acc * 10 + digitValue c
    if next < Nat.pow 2 64 then accumulate next cs else (acc, c :: cs)

/-- The double `10 ^ k`, for `k` up to 308. -/
def powerOfTen (k : Nat) : Binary64 :=
  (Binary64.ofDecimal 1 k).getD ⟨0, 0⟩

/-- `f * 10 ^ e` by steps of at most `10 ^ 308`. -/
def scale : Nat → Binary64 → Int → Option Binary64
  | 0, f, _ => some f
  | fuel + 1, f, e =>
    if e.natAbs ≤ 308 then
      if 0 ≤ e then f.mul (powerOfTen e.toNat) else f.div (powerOfTen e.natAbs)
    else if f.isZero then some f
    else if 0 ≤ e then none
    else (f.div (powerOfTen 308)).bind fun f => scale fuel f (e + 308)

def value (n : Numeral) : NumeralValue :=
  let (significand, wholeRest) := accumulate 0 n.whole
  if n.fraction.isEmpty && n.exponent.isNone && wholeRest.isEmpty &&
      !(n.negative && (significand == 0 || Nat.pow 2 63 < significand)) then
    .integer (if n.negative then -(significand : Int) else significand)
  else
    let (significand, fractionRest) := accumulate significand n.fraction
    let shift : Int := wholeRest.length - ((n.fraction.length - fractionRest.length : Nat) : Int)
    match (Binary64.ofRatio significand 1).bind
        fun f => scale 5 f (shift + n.exponent.getD 0) with
    | some magnitude => .real n.negative magnitude
    | none => .outOfRange

end Numeral

end RolePolicy.Json
