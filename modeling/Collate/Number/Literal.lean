import Collate.Number.Binary64
import Collate.Number.Integer

namespace Collate.Number

/-- A literal's digits as one whole number, with the power of ten that belongs
to it. -/
structure Literal where
  significand : Nat
  power : Int

/-- The exact value of a literal, rounded once. Powers far outside the range of
numbers are cut off, which their results do not show. -/
def Literal.nearest (literal : Literal) (negative : Bool) : Binary64 :=
  let digits := literal.significand.log2 + 1
  if literal.significand = 0 || literal.power < -400 - digits then
    Binary64.ofBits negative 0
  else if 400 < literal.power then
    if negative then Binary64.infinity.negated else Binary64.infinity
  else if 0 ≤ literal.power then
    Binary64.ofRatio negative
      (literal.significand * Nat.pow 10 literal.power.toNat) 1
  else Binary64.ofRatio negative literal.significand
    (Nat.pow 10 (-literal.power).toNat)

private def power? : List Char → Option Int
  | [] => some 0
  | mark :: rest => if mark = 'e' || mark = 'E' then integer? rest else none

def Literal.ofText? (characters : List Char) : Option Literal := do
  let whole := characters.takeWhile Char.isDigit
  let behind := characters.dropWhile Char.isDigit
  let (fraction, tail) := match behind with
    | '.' :: rest => (rest.takeWhile Char.isDigit, rest.dropWhile Char.isDigit)
    | _ => ([], behind)
  let significand ← natural? (whole ++ fraction)
  let power ← power? tail
  return { significand, power := power - fraction.length }

def float? (text : String) : Option Binary64 :=
  let characters := text.toList
  let (negative, magnitude) := match characters with
    | '-' :: rest => (true, rest)
    | '+' :: rest => (false, rest)
    | _ => (false, characters)
  let name := String.ofList (magnitude.map Char.toLower)
  let signed (number : Binary64) : Binary64 :=
    if negative then number.negated else number
  if name = "inf" || name = "infinity" then some (signed Binary64.infinity)
  else if name = "nan" then some (signed Binary64.nan)
  else (Literal.ofText? magnitude).map fun literal => literal.nearest negative

end Collate.Number
