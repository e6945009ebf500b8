import HeadlessDisplay.Numeral
import HeadlessDisplay.Toml.Reader
import HeadlessDisplay.Toml.Value

/-!
Numbers of TOML. Single underscores may stand between digits. A whole number is written in decimal
digits, with a sign or without and with no superfluous zero in front, or without a sign in
hexadecimal, octal or binary digits after a base mark; it must fit a signed word of 64 bits. A float
is a decimal whole number with a fraction, a power of ten or both, or it is an infinity or not a
number; a positive one must not round to infinity.
-/

set_option autoImplicit false
set_option relaxedAutoImplicit false

namespace HeadlessDisplay.Toml.Number

open Reader

/-- Takes the digits that follow a digit, with single underscores between. -/
def moreDigits (base : Nat) : Reader (List Char)
  | '_' :: c :: rest =>
    if Numeral.isDigit base c then
      (moreDigits base rest).map fun (digits, rest) ↦ (c :: digits, rest)
    else none
  | c :: rest =>
    if c = '_' then none
    else if Numeral.isDigit base c then
      (moreDigits base rest).map fun (digits, rest) ↦ (c :: digits, rest)
    else some ([], c :: rest)
  | [] => some ([], [])

/-- Takes digits with single underscores between. -/
def digits (base : Nat) : Reader (List Char)
  | [] => none
  | c :: rest =>
    if Numeral.isDigit base c then
      (moreDigits base rest).map fun (more, rest) ↦ (c :: more, rest)
    else none

/-- Takes decimal digits that do not begin with a superfluous zero. -/
def wholeDigits : Reader (List Char)
  | '0' :: rest => some (['0'], rest)
  | text => digits 10 text

/-- Takes a sign, if there is one. -/
def sign : List Char → List Char × List Char
  | '+' :: rest => (['+'], rest)
  | '-' :: rest => (['-'], rest)
  | text => ([], text)

/-- Takes a fraction, if there is one. -/
def fraction : Reader (List Char)
  | '.' :: rest => (digits 10 rest).map fun (digits, rest) ↦ ('.' :: digits, rest)
  | text => some ([], text)

/-- Takes a power of ten, if there is one. -/
def exponent : Reader (List Char)
  | c :: rest =>
    if c = 'e' ∨ c = 'E' then
      let (sign, rest) := sign rest
      (digits 10 rest).map fun (digits, rest) ↦ (c :: sign ++ digits, rest)
    else some ([], c :: rest)
  | [] => some ([], [])

/-- A float that is not positively infinite. -/
def float? (written : List Char) : Option Value :=
  ((Binary64.ofNumeral? written).filter (· ≠ .infinity false)).map .float

/-- Reads a number in decimal digits. -/
def decimal : Reader Value := fun text ↦ do
  let (sign, text) := sign text
  let (whole, text) ← wholeDigits text
  let (fraction, text) ← fraction text
  let (exponent, text) ← exponent text
  let value ←
    if fraction.isEmpty && exponent.isEmpty then (Numeral.int64? (sign ++ whole)).map Value.integer
    else float? (sign ++ whole ++ fraction ++ exponent)
  return (value, text)

/-- Reads the digits of a base that follow its mark. -/
def based (base : Nat) : Reader Value := fun text ↦
  (digits base text).bind fun (digits, rest) ↦
    let value : Int := Numeral.ofDigits base digits
    if value ≤ Numeral.maxInt64 then some (.integer value, rest) else none

/-- Reads the name of an infinity or of what is not a number. -/
def special : Reader Value := fun text ↦
  let (sign, rest) := sign text
  let name := rest.take 3
  if name = ['i', 'n', 'f'] ∨ name = ['n', 'a', 'n'] then
    (Binary64.ofNumeral? (sign ++ name)).map fun value ↦ (.float value, rest.drop 3)
  else none

/-- Reads a number. -/
def read : Reader Value
  | '0' :: 'x' :: rest => based 16 rest
  | '0' :: 'o' :: rest => based 8 rest
  | '0' :: 'b' :: rest => based 2 rest
  | text =>
    match special text with
    | some number => some number
    | none => decimal text

end HeadlessDisplay.Toml.Number
