/-!
Binary floating point of 64 bits, held as its bit pattern and computed with in exact integers.
`Binary64.nearest` gives the representable number nearest to a fraction, of two equally near ones
the one whose last bit is zero; scaling by ten and reading a decimal are instances of it.
Conversions to integers truncate or round the exact value and then saturate.
-/

set_option autoImplicit false
set_option relaxedAutoImplicit false

namespace HeadlessDisplay

/-- A floating-point number, as its 64 bits. Two patterns are equal only bit for bit, so signed
zeros differ and a pattern that is not a number equals itself. -/
structure Binary64 where
  /-- Sign, eleven exponent bits and fifty-two fraction bits. -/
  bits : UInt64
deriving DecidableEq, Inhabited

namespace Binary64

/-- What a bit pattern stands for. -/
inductive Meaning
  /-- Not a number. -/
  | undefined
  /-- An infinity of the given sign. -/
  | infinite (negative : Bool)
  /-- The number `mantissa * 2 ^ exponent` with the given sign. -/
  | finite (negative : Bool) (mantissa : Nat) (exponent : Int)
deriving DecidableEq

/-- The sign bit. -/
def signBit : Nat := 1 <<< 63

/-- The number of fractions. -/
def fractionSpan : Nat := 1 <<< 52

/-- The exponent bits of infinities and of what is not a number. -/
def topExponent : Nat := 2047

/-- Decodes sign, exponent and fraction. -/
def meaning (x : Binary64) : Meaning :=
  let pattern : Nat := x.bits.toNat
  let negative := decide (signBit ≤ pattern)
  let biased : Nat := pattern / fractionSpan % (topExponent + 1)
  let fraction : Nat := pattern % fractionSpan
  if biased = topExponent then
    if fraction = 0 then .infinite negative else .undefined
  else if biased = 0 then
    .finite negative fraction (-1074)
  else
    .finite negative (fractionSpan + fraction) ((biased : Int) - 1075)

/-- The magnitude bits of an infinity. -/
def infinityMagnitude : Nat :=
  topExponent * fractionSpan

/-- Puts the sign bit in front of magnitude bits. -/
def withSign (negative : Bool) (magnitude : Nat) : Binary64 :=
  ⟨UInt64.ofNat ((if negative then signBit else 0) + magnitude)⟩

/-- The pattern conventionally given to a result that is not a number. -/
def quietUndefined (negative : Bool) : Binary64 :=
  withSign negative (infinityMagnitude + fractionSpan / 2)

/-- An infinity of the given sign. -/
def infinity (negative : Bool) : Binary64 :=
  withSign negative infinityMagnitude

/-- The quotient rounded to the nearest integer, an exact half to the even one. -/
def divNearestEven (numerator denominator : Nat) : Nat :=
  let quotient := numerator / denominator
  let twice := 2 * (numerator % denominator)
  if twice < denominator then quotient
  else if denominator < twice then quotient + 1
  else quotient + quotient % 2

/-- The largest `k` with `2 ^ k ≤ numerator / denominator`, for positive arguments. -/
def floorLog (numerator denominator : Nat) : Int :=
  let guess := (numerator.log2 : Int) - denominator.log2
  let reached :=
    if 0 ≤ guess then denominator <<< guess.toNat ≤ numerator
    else denominator ≤ numerator <<< (-guess).toNat
  if reached then guess else guess - 1

/-- The number nearest to `numerator / denominator` with the given sign: fifty-three significant
bits, fewer near zero, and an infinity beyond the largest finite number. -/
def nearest (negative : Bool) (numerator denominator : Nat) : Binary64 :=
  if numerator = 0 then withSign negative 0
  else
    let exponent := max (floorLog numerator denominator - 52) (-1074)
    let significand :=
      if 0 ≤ exponent then divNearestEven numerator (denominator <<< exponent.toNat)
      else divNearestEven (numerator <<< (-exponent).toNat) denominator
    let magnitude := (exponent + 1074).toNat * fractionSpan + significand
    withSign negative (min magnitude infinityMagnitude)

/-- The product with a natural number, rounded to nearest. -/
def scale (x : Binary64) (factor : Nat) : Binary64 :=
  match x.meaning with
  | .undefined => x
  | .infinite _ => x
  | .finite negative mantissa exponent =>
    if 0 ≤ exponent then nearest negative ((mantissa * factor) <<< exponent.toNat) 1
    else nearest negative (mantissa * factor) (1 <<< (-exponent).toNat)

/-- Restores a sign to a magnitude. -/
def signed (negative : Bool) (magnitude : Nat) : Int :=
  if negative then -(magnitude : Int) else magnitude

/-- The integer part of a magnitude `mantissa * 2 ^ exponent`. -/
def wholePart (mantissa : Nat) (exponent : Int) : Nat :=
  if 0 ≤ exponent then mantissa <<< exponent.toNat else mantissa >>> (-exponent).toNat

/-- The integer nearest to a magnitude `mantissa * 2 ^ exponent`, a half going up. -/
def roundedPart (mantissa : Nat) (exponent : Int) : Nat :=
  if 0 ≤ exponent then mantissa <<< exponent.toNat
  else (2 * mantissa + 1 <<< (-exponent).toNat) / (2 <<< (-exponent).toNat)

/-- An integer moved into the closed interval from `low` to `high`. -/
def confine (low high value : Int) : Int :=
  max low (min high value)

/-- Drops the fraction and saturates into the closed interval from `low` to `high`; a pattern that
is not a number gives zero. -/
def truncateInto (low high : Int) (x : Binary64) : Int :=
  match x.meaning with
  | .undefined => 0
  | .infinite negative => if negative then low else high
  | .finite negative mantissa exponent =>
    confine low high (signed negative (wholePart mantissa exponent))

/-- Rounds halves away from zero and saturates into the closed interval from `low` to `high`; a
pattern that is not a number gives zero. -/
def roundInto (low high : Int) (x : Binary64) : Int :=
  match x.meaning with
  | .undefined => 0
  | .infinite negative => if negative then low else high
  | .finite negative mantissa exponent =>
    confine low high (signed negative (roundedPart mantissa exponent))

/-- The least integer of a signed word of 32 bits. -/
def minInt32 : Int := -2147483648

/-- The greatest integer of a signed word of 32 bits. -/
def maxInt32 : Int := 2147483647

/-- The integer part as a signed word of 32 bits. -/
def toInt32 (x : Binary64) : Int32 :=
  Int32.ofInt (truncateInto minInt32 maxInt32 x)

end Binary64

end HeadlessDisplay
