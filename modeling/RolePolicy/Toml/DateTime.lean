import RolePolicy.Text.Basic
import RolePolicy.Toml.Basic

/-!
# Dates and times

A date, a time or both, read into their normal text: as literals of a document, and from the string
of a table that stands for a date.
-/

namespace RolePolicy.Toml

/-! ### Literals -/

/-- The number that exactly `n` digits spell. -/
def fixedDigits (base n : Nat) (cs : List Char) : Option (Nat × List Char) :=
  if cs.length < n then none
  else do
    let digits ← (cs.take n).mapM (Text.digit? base)
    return (digits.foldl (fun value d => value * base + d) 0, cs.drop n)

/-- A number of two digits within bounds. -/
def twoDigits (low high : Nat) (cs : List Char) : Option (Nat × List Char) := do
  let (n, rest) ← fixedDigits 10 2 cs
  if low ≤ n ∧ n ≤ high then some (n, rest) else none

def expectChar (c : Char) : List Char → Option (List Char)
  | d :: rest => if c = d then some rest else none
  | [] => none

def daysIn (year month : Nat) : Nat :=
  if month = 2 then
    if year % 4 = 0 ∧ (year % 100 ≠ 0 ∨ year % 400 = 0) then 29 else 28
  else if month = 4 ∨ month = 6 ∨ month = 9 ∨ month = 11 then 30
  else 31

/-- A number with zeros in front up to a width. -/
def padded (width n : Nat) : List Char :=
  let digits := Nat.toDigits 10 n
  List.replicate (width - digits.length) '0' ++ digits

def readDate (cs : List Char) : Option (List Char × List Char) := do
  let (year, cs) ← fixedDigits 10 4 cs
  let cs ← expectChar '-' cs
  let (month, cs) ← twoDigits 1 12 cs
  let cs ← expectChar '-' cs
  let (day, cs) ← twoDigits 1 (daysIn year month) cs
  return (padded 4 year ++ '-' :: padded 2 month ++ '-' :: padded 2 day, cs)

/-- A fraction of a second: nine digits count, zeros at the end do not. -/
def readSecondFraction : List Char → Option (List Char × List Char)
  | '.' :: rest =>
    match rest.takeWhile Char.isDigit with
    | [] => none
    | digits =>
      let kept := ((digits.take 9).reverse.dropWhile (· == '0')).reverse
      some (if kept.isEmpty then [] else '.' :: kept, rest.dropWhile Char.isDigit)
  | rest => some ([], rest)

/-- A time of day of which the hour is at most `lastHour`. -/
def readTime (lastHour : Nat) (cs : List Char) : Option (List Char × List Char) := do
  let (hour, cs) ← twoDigits 0 lastHour cs
  let cs ← expectChar ':' cs
  let (minute, cs) ← twoDigits 0 59 cs
  let cs ← expectChar ':' cs
  let (second, cs) ← twoDigits 0 60 cs
  let (fraction, cs) ← match readSecondFraction cs with
    | some found => some found
    | none => some ([], cs)
  return (padded 2 hour ++ ':' :: padded 2 minute ++ ':' :: padded 2 second ++ fraction, cs)

/-- The distance from universal time; there may be none. -/
def readOffset : List Char → Option (List Char × List Char)
  | [] => some ([], [])
  | c :: rest =>
    if c == 'Z' || c == 'z' then some (['Z'], rest)
    else if c == '+' || c == '-' then do
      let (hour, cs) ← twoDigits 0 23 rest
      let cs ← expectChar ':' cs
      let (minute, cs) ← twoDigits 0 59 cs
      let sign := if hour = 0 ∧ minute = 0 then '+' else c
      return (sign :: padded 2 hour ++ ':' :: padded 2 minute, cs)
    else some ([], c :: rest)

def isTimeDelimiter (c : Char) : Bool :=
  c == 'T' || c == 't' || c == ' '

/-- A time after a date, or the date alone. -/
def readTimeAfter (date : List Char) : List Char → Option (List Char × List Char)
  | c :: rest =>
    if isTimeDelimiter c then
      match readTime 23 rest with
      | none => some (date, c :: rest)
      | some (time, rest) =>
        (readOffset rest).map fun (offset, rest) => (date ++ 'T' :: time ++ offset, rest)
    else some (date, c :: rest)
  | [] => some (date, [])

/-- The normal text of a date, a time or both. -/
def readDateTime (cs : List Char) : Option (List Char × List Char) :=
  match readDate cs with
  | some (date, rest) => readTimeAfter date rest
  | none => readTime 23 cs

/-! ### Tables that stand for dates -/

/-- A distance of at most a day, given as hours and minutes, up to the end of a text. -/
def offsetOfText? : List Char → Option (List Char)
  | [] => some []
  | c :: rest =>
    if c == 'Z' || c == 'z' then if rest.isEmpty then some ['Z'] else none
    else if c == '+' || c == '-' then do
      let (hours, rest) ← twoDigits 0 99 rest
      let rest ← expectChar ':' rest
      let (minutes, rest) ← twoDigits 0 99 rest
      let total := hours * 60 + minutes
      if total ≤ 24 * 60 ∧ rest.isEmpty then
        let sign := if total = 0 then '+' else c
        return sign :: padded 2 (total / 60) ++ ':' :: padded 2 (total % 60)
      else none
    else none

/-- The normal text of a date, a time or both that a text spells as a whole. -/
def dateTimeOfText? (cs : List Char) : Option (List Char) :=
  if cs[2]? = some ':' then do
    let (time, rest) ← readTime 24 cs
    if rest.isEmpty then some time else none
  else do
    let (date, rest) ← readDate cs
    match rest with
    | [] => return date
    | c :: rest =>
      if isTimeDelimiter c then
        let (time, rest) ← readTime 24 rest
        return date ++ 'T' :: time ++ (← offsetOfText? rest)
      else none

/-- The name of the field that makes a table stand for a date. -/
def dateField : String := "$__toml_private_datetime"

mutual

/-- Replace the tables that stand for dates: those whose first field has the name for it, with the
date in a string. -/
def resolveDates : Toml → Option Toml
  | .array items => (resolveItems items).map .array
  | .table [] => some (.table [])
  | .table ((name, value) :: rest) =>
    if name = dateField then
      match value with
      | .string text => (dateTimeOfText? text.toList).map fun cs => .dateTime (String.ofList cs)
      | _ => none
    else (resolveFields ((name, value) :: rest)).map .table
  | value => some value

def resolveItems : List Toml → Option (List Toml)
  | [] => some []
  | item :: items => do
    let item ← resolveDates item
    return item :: (← resolveItems items)

def resolveFields : List (String × Toml) → Option (List (String × Toml))
  | [] => some []
  | (name, value) :: fields => do
    let value ← resolveDates value
    return (name, value) :: (← resolveFields fields)

end

end RolePolicy.Toml
