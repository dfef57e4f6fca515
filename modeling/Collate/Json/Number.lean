import Collate.Json.Basic
import Collate.Number.Integer

namespace Collate.Json.Number

/-! A number that is not whole, or does not fit into 64 bits, is read in two
roundings: its digits as a whole number of 64 bits, further digits being
dropped, and that number scaled by a power of ten. -/

open Collate.Number

/-- The digits read so far, the power of ten that they are to be scaled by, and
whether a digit on the same side of the point has been left out because the
digits would not fit. -/
private structure Digits where
  significand : Nat
  power : Int
  isFull : Bool

private def Digits.addWhole (digits : Digits) (digit : Nat) : Digits :=
  let significand := 10 * digits.significand + digit
  if digits.isFull || unsignedLimit ≤ significand then
    { digits with power := digits.power + 1, isFull := true }
  else { digits with significand }

private def Digits.addFraction (digits : Digits) (digit : Nat) : Digits :=
  let significand := 10 * digits.significand + digit
  if digits.isFull || unsignedLimit ≤ significand then
    { digits with isFull := true }
  else { digits with significand, power := digits.power - 1 }

private def digitValues (characters : List Char) : List Nat :=
  characters.map fun character => character.toNat - '0'.toNat

private def greatestPower : Nat := 308

/-- Scales down by the largest power of ten until what is left is at most that
power. The number is zero after three rounds at the latest. -/
private def scaleDown (number : Binary64) (power : Nat) :
    (rounds : Nat) → Binary64
  | 0 => Binary64.zero
  | rounds + 1 =>
      if power ≤ greatestPower then
        number.dividedBy (Binary64.ofNat (Nat.pow 10 power))
      else if number.isZero then number
      else
        scaleDown (number.dividedBy (Binary64.ofNat (Nat.pow 10 greatestPower)))
          (power - greatestPower) rounds

private def scaled? (significand : Nat) (power : Int) : Option Binary64 :=
  let number := Binary64.ofNat significand
  if power < 0 then some (scaleDown number (-power).toNat 4)
  else if greatestPower < power.toNat then
    if significand = 0 then some number else none
  else
    let product := number.times (Binary64.ofNat (Nat.pow 10 power.toNat))
    if product.isInfinite then none else some product

private def signed (negative : Bool) (number : Binary64) : Number :=
  .real (if negative then number.negated else number)

private def valueOf (characters : List Char) : Nat :=
  (digitValues characters).foldl (fun value digit => 10 * value + digit) 0

private def powerOf (negative : Bool) (characters : List Char) : Int :=
  if negative then -(valueOf characters) else valueOf characters

/-- A number without a point and a power of ten. The whole numbers are those of
64 bits, signed or unsigned; minus zero is a floating-point number. -/
private def ofWhole? (negative : Bool) (characters : List Char) :
    Option Number :=
  let value := valueOf characters
  let digits := (digitValues characters).foldl Digits.addWhole ⟨0, 0, false⟩
  if negative then
    if value = 0 then some (.real Binary64.zero.negated)
    else if (value : Int) ≤ signedLimit then some (.integer (-value))
    else (scaled? digits.significand digits.power).map (signed true)
  else if value < unsignedLimit then some (.integer value)
  else (scaled? digits.significand digits.power).map (signed false)

private def powerSign : List Char → Bool × List Char
  | '-' :: rest => (true, rest)
  | '+' :: rest => (false, rest)
  | characters => (false, characters)

private def readPower (negative : Bool) (digits : Digits)
    (characters : List Char) : Option (Number × List Char) :=
  match characters with
  | mark :: behind =>
      if mark = 'e' || mark = 'E' then
        let (isNegative, tail) := powerSign behind
        let written := tail.takeWhile Char.isDigit
        if written.isEmpty then none
        else
          (scaled? digits.significand
            (digits.power + powerOf isNegative written)).map
            fun number => (signed negative number, tail.dropWhile Char.isDigit)
      else
        (scaled? digits.significand digits.power).map
          fun number => (signed negative number, characters)
  | [] =>
      (scaled? digits.significand digits.power).map
        fun number => (signed negative number, [])

private def readTail (negative : Bool) (whole : List Char)
    (characters : List Char) : Option (Number × List Char) :=
  let digits := (digitValues whole).foldl Digits.addWhole ⟨0, 0, false⟩
  match characters with
  | '.' :: behind =>
      let fraction := behind.takeWhile Char.isDigit
      if fraction.isEmpty then none
      else
        let digits := (digitValues fraction).foldl Digits.addFraction
            { digits with isFull := false }
        readPower negative digits (behind.dropWhile Char.isDigit)
  | mark :: _ =>
      if mark = 'e' || mark = 'E' then readPower negative digits characters
      else (ofWhole? negative whole).map fun number => (number, characters)
  | [] => (ofWhole? negative whole).map fun number => (number, [])

def read (characters : List Char) : Option (Number × List Char) :=
  let (negative, characters) := match characters with
    | '-' :: rest => (true, rest)
    | _ => (false, characters)
  let whole := characters.takeWhile Char.isDigit
  let behind := characters.dropWhile Char.isDigit
  match whole with
  | [] => none
  | '0' :: _ :: _ => none
  | _ => readTail negative whole behind

end Collate.Json.Number
