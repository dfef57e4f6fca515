namespace Collate.Number

def digit? (character : Char) : Option Nat :=
  if character.isDigit then some (character.toNat - '0'.toNat) else none

def digitsFrom? (value : Nat) : List Char → Option Nat
  | [] => some value
  | character :: rest =>
      match digit? character with
      | some digit => digitsFrom? (10 * value + digit) rest
      | none => none

def natural? : List Char → Option Nat
  | [] => none
  | characters => digitsFrom? 0 characters

def integer? : List Char → Option Int
  | '+' :: rest => (natural? rest).map Int.ofNat
  | '-' :: rest => (natural? rest).map fun value => -Int.ofNat value
  | characters => (natural? characters).map Int.ofNat

def leastSigned : Int := -Int.pow 2 63

def signedLimit : Int := Int.pow 2 63

def unsignedLimit : Nat := Nat.pow 2 64

def unsigned32Limit : Nat := Nat.pow 2 32

def signed64? (text : String) : Option Int :=
  (integer? text.toList).filter
    fun value => leastSigned ≤ value && value < signedLimit

/-- An unsigned 64-bit number from its text, where only a plus may stand in
front. -/
def unsigned64? (text : String) : Option Nat :=
  let digits := match text.toList with
    | '+' :: rest => rest
    | characters => characters
  (natural? digits).filter fun value => value < unsignedLimit

def unsigned32? (value : Int) : Option Nat :=
  if 0 ≤ value && value < unsigned32Limit then some value.toNat else none

end Collate.Number
