import HeadlessDisplay.Binary64

/-!
Numerals in texts. A whole number is a run of digits of some base; a decimal has an optional sign,
digits with an optional point among them and an optional power of ten. A decimal stands for an exact
fraction, and `Binary64.ofNumeral?` rounds that fraction once.
-/

set_option autoImplicit false
set_option relaxedAutoImplicit false

namespace HeadlessDisplay

namespace Numeral

/-- The value of a digit below a base of at most sixteen. -/
def digit? (base : Nat) (c : Char) : Option Nat :=
  let value :=
    if '0' ≤ c ∧ c ≤ '9' then some (c.toNat - '0'.toNat)
    else if 'a' ≤ c ∧ c ≤ 'f' then some (c.toNat - 'a'.toNat + 10)
    else if 'A' ≤ c ∧ c ≤ 'F' then some (c.toNat - 'A'.toNat + 10)
    else none
  value.filter (· < base)

/-- Whether a character is a digit of a base. -/
def isDigit (base : Nat) (c : Char) : Bool :=
  (digit? base c).isSome

/-- The number that digits spell. -/
def ofDigits (base : Nat) (digits : List Char) : Nat :=
  digits.foldl (fun value c ↦ value * base + (digit? base c).getD 0) 0

/-- The number that a text of at least one digit spells. -/
def natural? (base : Nat) (text : List Char) : Option Nat :=
  if !text.isEmpty && text.all (isDigit base) then some (ofDigits base text) else none

/-- Takes the sign off a text; no sign is positive. -/
def signOf : List Char → Bool × List Char
  | '-' :: rest => (true, rest)
  | '+' :: rest => (false, rest)
  | text => (false, text)

/-- The whole number that a text spells in decimal digits after an optional sign. -/
def integer? (text : List Char) : Option Int :=
  let (negative, magnitude) := signOf text
  (natural? 10 magnitude).map (Binary64.signed negative)

/-- The greatest integer of a signed word of 64 bits. -/
def maxInt64 : Int := 9223372036854775807

/-- The whole number that a text spells, if a signed word of 64 bits can hold it. -/
def int64? (text : List Char) : Option Int :=
  (integer? text).filter fun value ↦ -maxInt64 - 1 ≤ value && value ≤ maxInt64

end Numeral

/-- The fraction `digits * 10 ^ exponent` with a sign. -/
structure Decimal where
  negative : Bool
  digits : Nat
  exponent : Int
deriving DecidableEq

namespace Decimal

/-- Decimals of a magnitude of at least ten to this power are beyond all finite numbers. -/
def overflowOrder : Int := 310

/-- Decimals of a magnitude below ten to this power are nearer to zero than to any other number. -/
def underflowOrder : Int := -330

/-- The nearest number. -/
def toBinary64 (decimal : Decimal) : Binary64 :=
  let order : Int := (Nat.toDigits 10 decimal.digits).length + decimal.exponent
  if decimal.digits = 0 ∨ order < underflowOrder then .withSign decimal.negative 0
  else if overflowOrder < order then .infinity decimal.negative
  else if 0 ≤ decimal.exponent then
    .nearest decimal.negative (decimal.digits * Nat.pow 10 decimal.exponent.toNat) 1
  else .nearest decimal.negative decimal.digits (Nat.pow 10 (-decimal.exponent).toNat)

/-- Whether a letter begins the power of ten of a decimal. -/
def isExponentMark (letter : Char) : Bool :=
  letter = 'e' || letter = 'E'

/-- The power of ten at the end of a decimal. -/
def exponentOf? : List Char → Option Int
  | [] => some 0
  | letter :: rest => if isExponentMark letter then Numeral.integer? rest else none

/-- The decimal that a text spells after its sign: digits before or after a point or both, and a
power of ten. -/
def ofMagnitude? (negative : Bool) (text : List Char) : Option Decimal :=
  let whole := text.takeWhile (Numeral.isDigit 10)
  let fraction : List Char × List Char :=
    match text.dropWhile (Numeral.isDigit 10) with
    | '.' :: rest => (rest.takeWhile (Numeral.isDigit 10), rest.dropWhile (Numeral.isDigit 10))
    | rest => ([], rest)
  let digits := whole ++ fraction.1
  if digits.isEmpty then none
  else
    (exponentOf? fraction.2).map fun exponent ↦
      ⟨negative, Numeral.ofDigits 10 digits, exponent - fraction.1.length⟩

end Decimal

namespace Binary64

/-- The number that a text spells: a decimal or, in letters of either case, an infinity or what is
not a number. -/
def ofNumeral? (text : List Char) : Option Binary64 :=
  let (negative, magnitude) := Numeral.signOf text
  let word := String.ofList (magnitude.map Char.toLower)
  if word = "inf" ∨ word = "infinity" then some (infinity negative)
  else if word = "nan" then some (quietUndefined negative)
  else (Decimal.ofMagnitude? negative magnitude).map Decimal.toBinary64

end Binary64

end HeadlessDisplay
