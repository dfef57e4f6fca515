import Collate.Config.Toml.Moment
import Collate.Config.Value
import Collate.Number.Hexadecimal
import Collate.Number.Literal

namespace Collate.Config.Toml

open Collate.Number (Binary64)

def isWordCharacter (character : Char) : Bool :=
  character.isAlphanum || character = '_' || character = '+' || character =
    '-' || character = '.' || character = ':'

/-- Digits without the underscores between them. Each underscore has a digit on
both sides. -/
private def plainDigits? (isDigit : Char → Bool) :
    List Char → Option (List Char)
  | [] => none
  | [digit] => if isDigit digit then some [digit] else none
  | digit :: '_' :: rest =>
      if isDigit digit then
        (plainDigits? isDigit rest).map fun digits => digit :: digits else none
  | digit :: rest =>
      if isDigit digit then
        (plainDigits? isDigit rest).map fun digits => digit :: digits else none

private def isDigitOf (base : Nat) (character : Char) : Bool :=
  (Number.hexDigit? character).any fun digit => digit < base

private def natural? (base : Nat) (characters : List Char) : Option Nat :=
  (plainDigits? (isDigitOf base) characters).map fun digits =>
    digits.foldl
      (fun value digit => base * value + (Number.hexDigit? digit).getD 0) 0

private def decimal? (characters : List Char) : Option (List Char) :=
  (plainDigits? Char.isDigit characters).filter fun digits =>
    digits.length = 1 || digits.head? ≠ some '0'

private def sign : List Char → Bool × List Char
  | '-' :: rest => (true, rest)
  | '+' :: rest => (false, rest)
  | rest => (false, rest)

private def integer? (characters : List Char) : Option Int := do
  let value : Int ← match characters with
    | '0' :: 'x' :: rest => (natural? 16 rest).map Int.ofNat
    | '0' :: 'o' :: rest => (natural? 8 rest).map Int.ofNat
    | '0' :: 'b' :: rest => (natural? 2 rest).map Int.ofNat
    | _ =>
        let (negative, digits) := sign characters
        (decimal? digits).bind fun digits =>
          (Number.natural? digits).map fun value =>
            if negative then -(value : Int) else value
  if Number.leastSigned ≤ value && value < Number.signedLimit then
    return value
  else none

private def power? (characters : List Char) : Option Int := do
  let (negative, digits) := sign characters
  let value ← natural? 10 digits
  return if negative then -(value : Int) else value

private def isMark (character : Char) : Bool :=
  character = 'e' || character = 'E'

private def literal? (characters : List Char) : Option Number.Literal := do
  if !characters.any
    fun character => character = '.' || isMark character then none
  let mantissa := characters.takeWhile fun character => !isMark character
  let power ← match characters.dropWhile fun character => !isMark character with
    | [] => some 0
    | _ :: rest => power? rest
  let whole ← decimal? (mantissa.takeWhile fun character => character ≠ '.')
  let fraction ← match mantissa.dropWhile fun character => character ≠ '.' with
    | [] => some []
    | _ :: rest => plainDigits? Char.isDigit rest
  let significand ← Number.natural? (whole ++ fraction)
  return { significand, power := power - fraction.length }

/-- A floating-point number. One too large to be written is refused, but not its
opposite. -/
private def real? (characters : List Char) : Option Binary64 :=
  let (negative, magnitude) := sign characters
  let signed (number : Binary64) : Binary64 :=
    if negative then number.negated else number
  if magnitude = "inf".toList then some (signed .infinity)
  else if magnitude = "nan".toList then some (signed .nan)
  else
    ((literal? magnitude).map fun literal => literal.nearest negative).filter
      fun number =>
        number ≠ .infinity

def scalar? (word : List Char) : Option Value :=
  if word = "true".toList then some (.bool true)
  else if word = "false".toList then some (.bool false)
  else
    match integer? word, real? word with
    | some value, _ => some (.integer value)
    | none, some value => some (.real value)
    | none, none => (Moment.ofText? word).map fun moment => .text moment.text

end Collate.Config.Toml
