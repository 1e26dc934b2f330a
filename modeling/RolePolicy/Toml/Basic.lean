import RolePolicy.Number.Binary64

/-!
# TOML values

The values of a TOML document.  A date or time is kept as its normal text.
-/

namespace RolePolicy

/-- The integer fits into a number of bits, one of which is for its sign. -/
def fitsSigned (bits : Nat) (value : Int) : Bool :=
  if 0 ≤ value then value.natAbs < Nat.pow 2 (bits - 1) else value.natAbs ≤ Nat.pow 2 (bits - 1)

namespace Toml

/-- A number with a point or an exponent. -/
inductive Real where
  | finite (negative : Bool) (magnitude : Binary64)
  | infinite (negative : Bool)
  | undefined
  deriving DecidableEq, Repr

end Toml

inductive Toml where
  | string (text : String)
  | integer (value : Int)
  | real (value : Toml.Real)
  | boolean (value : Bool)
  | dateTime (text : String)
  | array (items : List Toml)
  | table (fields : List (String × Toml))

namespace Toml

instance : Inhabited Toml := ⟨table []⟩

/-- The fields of a table by name. -/
abbrev Fields := List (String × Toml)

/-- The fields of a table; other values have none. -/
def fields : Toml → Fields
  | table fields => fields
  | _ => []

namespace Real

/-- Positional notation; a whole number has no point. -/
def text : Real → String
  | finite negative magnitude =>
    String.ofList ((if negative then ['-'] else []) ++ magnitude.positional)
  | infinite negative => if negative then "-inf" else "inf"
  | undefined => "NaN"

def isZero : Real → Bool
  | finite _ magnitude => magnitude.isZero
  | _ => false

end Real

end Toml

end RolePolicy
