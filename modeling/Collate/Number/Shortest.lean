import Collate.Number.Binary64

namespace Collate.Number

/-! For one, two, … seventeen digits, the two neighbours of a number on the grid
of decimals with so many digits are tried. The first grid that has a point in
the interval of what rounds to the number wins, and of its points the nearer. -/

/-- A decimal number `digits[0].digits[1]digits[2]… * 10 ^ exponent`, without
trailing zeros. -/
structure Decimal where
  digits : List Nat
  exponent : Int
deriving DecidableEq, Inhabited

namespace Decimal

def digitsOf (value : Nat) : List Nat :=
  (Nat.toDigits 10 value).map fun character => character.toNat - '0'.toNat

def ofScaled (value : Nat) (power : Int) : Decimal :=
  let digits := digitsOf value
  { digits := (digits.reverse.dropWhile (· = 0)).reverse
    exponent := power + digits.length - 1 }

end Decimal

private def timesPowerOfTen (ratio : Nat × Nat) (power : Int) : Nat × Nat :=
  if 0 ≤ power then (ratio.1 * Nat.pow 10 power.toNat, ratio.2)
  else (ratio.1, ratio.2 * Nat.pow 10 (-power).toNat)

private def leadingExponent (ratio : Nat × Nat) : Int :=
  if ratio.2 ≤ ratio.1 then
    ((Decimal.digitsOf (ratio.1 / ratio.2)).length : Int) - 1
  else
    -- the reciprocal has `length` digits, so the first digit stands at
    -- `-length` or one below
    let length := (Decimal.digitsOf (ratio.2 / ratio.1)).length
    if ratio.2 ≤ ratio.1 * Nat.pow 10 (length - 1) then -((length : Int) - 1)
    else -length

/-- Ends of the interval of reals that round to a positive number, and whether
they belong to it. The lower end is nearer when the mantissa is the least one of
its exponent. -/
private structure Rounding where
  low : Nat
  high : Nat
  denominator : Nat
  closed : Bool

private def Rounding.of (number : Binary64) : Rounding :=
  let unit := Nat.pow 2 number.scale
  let narrow := number.mantissa = Nat.pow 2 52 && 0 < number.scale
  { low := number.mantissa * unit * 4 - (if narrow then unit else 2 * unit)
    high := number.mantissa * unit * 4 + 2 * unit
    denominator := 4 * Nat.pow 2 Binary64.leastScale
    closed := number.mantissa % 2 = 0 }

private def Rounding.contains (rounding : Rounding)
    (ratio : Nat × Nat) : Bool :=
  let low := rounding.low * ratio.2
  let high := rounding.high * ratio.2
  let point := ratio.1 * rounding.denominator
  if rounding.closed then
    low ≤ point && point ≤ high else low < point && point < high

inductive Tie where
  | even
  | away
deriving DecidableEq, Inhabited

private def Tie.nearest (tie : Tie) (ratio : Nat × Nat) : Nat :=
  let below := ratio.1 / ratio.2
  match compare (2 * (ratio.1 % ratio.2)) ratio.2 with
  | .lt => below
  | .gt => below + 1
  | .eq =>
      match tie with
      | .even => below + below % 2
      | .away => below + 1

private def neighbour? (tie : Tie) (rounding : Rounding)
    (ratio : Nat × Nat) (power : Int) :
    Option Nat :=
  let scaled := timesPowerOfTen ratio (-power)
  let below := scaled.1 / scaled.2
  let isHit (value : Nat) : Bool :=
    rounding.contains (timesPowerOfTen (value, 1) power)
  match isHit below, isHit (below + 1) with
  | true, true => some (tie.nearest scaled)
  | true, false => some below
  | false, true => some (below + 1)
  | false, false => none

/-- Tries grids with one digit more each time; seventeen digits tell all numbers
apart. -/
private def searchGrids (tie : Tie) (rounding : Rounding) (ratio : Nat × Nat)
    (exponent : Int) : (tries : Nat) → (places : Int) → Decimal
  | 0, places => Decimal.ofScaled 0 (exponent - places)
  | tries + 1, places =>
      match neighbour? tie rounding ratio (exponent - places) with
      | some value => Decimal.ofScaled value (exponent - places)
      | none => searchGrids tie rounding ratio exponent tries (places + 1)

/-- The shortest decimal that reads back as the magnitude of a finite number
other than zero. -/
def Binary64.shortest (number : Binary64) (tie : Tie) : Decimal :=
  let ratio := number.ratio
  searchGrids tie (Rounding.of number) ratio (leadingExponent ratio) 17 0

end Collate.Number
