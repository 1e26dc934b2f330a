/-!
# Double-precision numbers

A finite double is a signed product of an integer below `2 ^ 53` and a power of two.  This module
rounds a quotient of naturals to the nearest double, a half going to the even neighbour, and finds
the fewest decimal digits that round back to a double, of several the nearest, a half going to the
even one.
-/

namespace RolePolicy

/-- The magnitude of a finite double, `mantissa * 2 ^ exponent`.  The mantissa is below `2 ^ 53`, and
it is below `2 ^ 52` only with the least exponent. -/
structure Binary64 where
  mantissa : Nat
  exponent : Int
  deriving DecidableEq, Repr

namespace Binary64

def leastExponent : Int := -1074

def greatestExponent : Int := 971

/-- `n * b ^ e` as a quotient of naturals. -/
def scaled (n b : Nat) (e : Int) : Nat × Nat :=
  if 0 ≤ e then (n * Nat.pow b e.toNat, 1) else (n, Nat.pow b (-e).toNat)

/-- The natural nearest to `n / d`, a half going to the even neighbour. -/
def divNearest (n d : Nat) : Nat :=
  let q := n / d
  let twice := 2 * (n % d)
  if twice < d ∨ (twice = d ∧ q % 2 = 0) then q else q + 1

/-- The exponent at which `n / d` has 53 digits, or the least exponent. -/
def fittingExponent (n d : Nat) : Int :=
  let guess : Int := (n.log2 : Int) - (d.log2 : Int) - 53
  let wide (e : Int) : Bool :=
    let (a, b) := scaled d 2 e
    Nat.pow 2 53 * a ≤ n * b
  let e := if wide (guess + 1) then guess + 2 else if wide guess then guess + 1 else guess
  if e < leastExponent then leastExponent else e

/-- The double nearest to `n / d`, unless that is too great. -/
def ofRatio (n d : Nat) : Option Binary64 :=
  if n = 0 then some ⟨0, leastExponent⟩
  else
    let e := fittingExponent n d
    let (a, b) := scaled d 2 e
    let m := divNearest (n * b) a
    let (m, e) := if m = Nat.pow 2 53 then (Nat.pow 2 52, e + 1) else (m, e)
    if greatestExponent < e then none else some ⟨m, e⟩

/-- The value as a quotient of naturals. -/
def ratio (x : Binary64) : Nat × Nat :=
  scaled x.mantissa 2 x.exponent

def isZero (x : Binary64) : Bool :=
  x.mantissa == 0

/-- The product of two doubles, rounded. -/
def mul (x y : Binary64) : Option Binary64 :=
  ofRatio (x.ratio.1 * y.ratio.1) (x.ratio.2 * y.ratio.2)

/-- The quotient of two doubles, rounded. -/
def div (x y : Binary64) : Option Binary64 :=
  ofRatio (x.ratio.1 * y.ratio.2) (x.ratio.2 * y.ratio.1)

/-- The double nearest to `n * 10 ^ e`. -/
def ofDecimal (n : Nat) (e : Int) : Option Binary64 :=
  let (a, b) := scaled n 10 e
  ofRatio a b

/-- The decimal `d * 10 ^ k` rounds to the double. -/
def roundsBack (x : Binary64) (d : Nat) (k : Int) : Bool :=
  ofDecimal d k == some x

/-- The number of decimal digits before the point; not positive for a value below one tenth. -/
def decimalPoint (x : Binary64) : Int :=
  let (n, d) := x.ratio
  let guess : Int := ((n.log2 : Int) - (d.log2 : Int)) * 30103 / 100000 - 2
  let reaches (k : Int) : Bool :=
    let (a, b) := scaled 1 10 k
    a * d ≤ n * b
  let rec climb : Nat → Int → Int
    | 0, k => k
    | fuel + 1, k => if reaches k then climb fuel (k + 1) else k
  climb 6 guess

/-- Which of two decimals at the same distance is taken: the one with an even last digit, or the
greater one. -/
inductive Tie where
  | toEven
  | upward
  deriving DecidableEq, Repr

/-- The lower of two decimals at the same distance, whose last digits are those of `low`, is taken. -/
def Tie.takesLower (tie : Tie) (low : Nat) : Bool :=
  match tie with
  | toEven => low % 2 == 0
  | upward => false

/-- The digits of the value on the grid of `n` significant digits, if a neighbour on the grid rounds
back. -/
def digitsAt (x : Binary64) (tie : Tie) (point : Int) (n : Nat) : Option (Nat × Int) :=
  let k := point - n
  let (a, b) := x.ratio
  let (u, v) := scaled 1 10 k
  let low := a * v / (b * u)
  let rest := a * v % (b * u)
  let lower := roundsBack x low k
  let upper := roundsBack x (low + 1) k
  if lower && upper then
    let twice := 2 * rest
    if twice < b * u ∨ (twice = b * u ∧ tie.takesLower low) then some (low, k)
    else some (low + 1, k)
  else if lower then some (low, k)
  else if upper then some (low + 1, k)
  else none

/-- The fewest digits that round back to a value other than zero, and the power of ten of the last
one. -/
def shortest (x : Binary64) (tie : Tie) : Nat × Int :=
  let point := x.decimalPoint
  ((List.range' 1 17).findSome? (x.digitsAt tie point)).getD (0, 0)

/-- Strip the zeros at the end of a digit string, counting them into the power of ten. -/
def stripZeros : Nat → Nat → Int → Nat × Int
  | 0, d, k => (d, k)
  | fuel + 1, d, k => if d ≠ 0 ∧ d % 10 = 0 then stripZeros fuel (d / 10) (k + 1) else (d, k)

/-- The digits of the value without zeros at the end, and the power of ten of the last one. -/
def decimal (x : Binary64) (tie : Tie) : List Char × Int :=
  let (d, k) := x.shortest tie
  let (d, k) := stripZeros 20 d k
  (Nat.toDigits 10 d, k)

/-- Positional notation; a whole number has no point. -/
def positional (x : Binary64) : List Char :=
  if x.isZero then ['0']
  else
    let (digits, k) := x.decimal .upward
    let point : Int := digits.length + k
    if 0 ≤ k then digits ++ List.replicate k.toNat '0'
    else if 0 < point then
      digits.take point.toNat ++ '.' :: digits.drop point.toNat
    else '0' :: '.' :: (List.replicate (-point).toNat '0' ++ digits)

/-- Positional notation with at least one digit after the point for values from `1e-5` up to below
`1e16`, and an exponent with its sign for all others. -/
def exponential (x : Binary64) : List Char :=
  if x.isZero then ['0', '.', '0']
  else
    let (digits, k) := x.decimal .toEven
    let point : Int := digits.length + k
    if 0 ≤ k ∧ point ≤ 16 then digits ++ List.replicate k.toNat '0' ++ ['.', '0']
    else if 0 < point ∧ point ≤ 16 then
      digits.take point.toNat ++ '.' :: digits.drop point.toNat
    else if -5 < point ∧ point ≤ 0 then
      '0' :: '.' :: (List.replicate (-point).toNat '0' ++ digits)
    else
      let sign := if point < 1 then '-' else '+'
      let exponent := sign :: Nat.toDigits 10 (point - 1).natAbs
      match digits with
      | [d] => d :: 'e' :: exponent
      | d :: rest => d :: '.' :: (rest ++ 'e' :: exponent)
      | [] => []

end Binary64

end RolePolicy
