namespace Collate.Number

/-- A floating-point number: a sign bit, eleven exponent bits, fifty-two
fraction bits. -/
structure Binary64 where
  bits : UInt64
deriving DecidableEq, Inhabited

namespace Binary64

private def fractionLimit : Nat := Nat.pow 2 52

private def exponentMask : Nat := 0x7FF

private def infiniteBits : Nat := exponentMask * fractionLimit

private def signBit : Nat := Nat.pow 2 63

def ofBits (negative : Bool) (magnitude : Nat) : Binary64 :=
  ⟨UInt64.ofNat (if negative then signBit + magnitude else magnitude)⟩

def isNegative (number : Binary64) : Bool :=
  signBit ≤ number.bits.toNat

def magnitudeBits (number : Binary64) : Nat :=
  number.bits.toNat % signBit

def isNaN (number : Binary64) : Bool :=
  infiniteBits < number.magnitudeBits

def isInfinite (number : Binary64) : Bool :=
  number.magnitudeBits = infiniteBits

def isZero (number : Binary64) : Bool :=
  number.magnitudeBits = 0

def zero : Binary64 := ofBits false 0

def infinity : Binary64 := ofBits false infiniteBits

def nan : Binary64 := ofBits false (infiniteBits + Nat.pow 2 51)

def negated (number : Binary64) : Binary64 :=
  ofBits (!number.isNegative) number.magnitudeBits

/-- The mantissa of a finite number: `mantissa * 2 ^ (scale - 1074)` is its
magnitude. -/
def mantissa (number : Binary64) : Nat :=
  let fraction := number.magnitudeBits % fractionLimit
  if number.magnitudeBits < fractionLimit then fraction
    else fractionLimit + fraction

def scale (number : Binary64) : Nat :=
  number.magnitudeBits / fractionLimit - 1

def leastScale : Nat := 1074

def ratio (number : Binary64) : Nat × Nat :=
  (number.mantissa * Nat.pow 2 number.scale, Nat.pow 2 leastScale)

/-- Numbers that compare as equal: the two zeros do, and a NaN equals
nothing. -/
def same (left right : Binary64) : Bool :=
  !left.isNaN && !right.isNaN && (left = right || left.isZero && right.isZero)

def roundedQuotient (numerator denominator : Nat) : Nat :=
  let quotient := numerator / denominator
  let twice := 2 * (numerator % denominator)
  if twice < denominator then quotient
  else if denominator < twice then quotient + 1
  else quotient + quotient % 2

/-- The number nearest to a ratio. The mantissa is taken with 53 bits, or with
as many as the least exponent leaves; a mantissa that rounds up to 54 bits
carries into the exponent by itself. -/
def ofRatio (negative : Bool) (numerator denominator : Nat) : Binary64 :=
  let scaled := numerator * Nat.pow 2 leastScale
  let width := (scaled / denominator).log2
  let shift := width - 52
  let mantissa := roundedQuotient scaled (denominator * Nat.pow 2 shift)
  ofBits negative (min (shift * fractionLimit + mantissa) infiniteBits)

def ofNat (value : Nat) : Binary64 :=
  ofRatio false value 1

def ofInt (value : Int) : Binary64 :=
  ofRatio (value < 0) value.natAbs 1

def times (left right : Binary64) : Binary64 :=
  ofRatio false (left.ratio.1 * right.ratio.1) (left.ratio.2 * right.ratio.2)

def dividedBy (left right : Binary64) : Binary64 :=
  ofRatio false (left.ratio.1 * right.ratio.2) (left.ratio.2 * right.ratio.1)

/-- The nearest whole number to a magnitude, a half going up, within the
unsigned 64-bit range: negative numbers and NaN give zero, and numbers above the
range its end. -/
def toUnsigned64 (number : Binary64) : Nat :=
  if number.isNaN || number.isNegative then 0
  else if number.isInfinite then Nat.pow 2 64 - 1
  else
    let (numerator, denominator) := number.ratio
    min ((2 * numerator + denominator) / (2 * denominator)) (Nat.pow 2 64 - 1)

end Binary64

end Collate.Number
