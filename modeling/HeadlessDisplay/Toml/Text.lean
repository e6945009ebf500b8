import HeadlessDisplay.Numeral
import HeadlessDisplay.Toml.Reader

/-!
Strings of TOML, in four notations: in double quotes, where a backslash begins an escape, and in
single quotes, where everything stands for itself; each on one line, or between triple quotes over
any number of lines. An end of line in a string is a line feed however it is written, and one right
after the opening triple quotes is dropped. A string in triple quotes may end in up to two quotes of
its own.
-/

set_option autoImplicit false
set_option relaxedAutoImplicit false

namespace HeadlessDisplay.Toml.Text

open Reader

/-- The character with a code point, surrogates excepted. -/
def scalar? (codePoint : Nat) : Option Char :=
  if codePoint < 0xD800 ∨ (0xDFFF < codePoint ∧ codePoint < 0x110000) then
    some (Char.ofNat codePoint)
  else none

/-- The character whose code point is written in the given number of hexadecimal digits. -/
def codePoint (width : Nat) : Reader Char := fun text ↦
  let digits := text.take width
  if digits.length = width then
    ((Numeral.natural? 16 digits).bind scalar?).map fun c ↦ (c, text.drop width)
  else none

/-- What may follow a backslash. -/
def escape : Reader Char
  | 'b' :: rest => some ('\x08', rest)
  | 'f' :: rest => some ('\x0c', rest)
  | 'n' :: rest => some ('\n', rest)
  | 'r' :: rest => some ('\r', rest)
  | 't' :: rest => some ('\t', rest)
  | '\\' :: rest => some ('\\', rest)
  | '"' :: rest => some ('"', rest)
  | 'u' :: rest => codePoint 4 rest
  | 'U' :: rest => codePoint 8 rest
  | _ => none

/-- Puts a character in front of a string read from the rest. -/
def prepend (c : Char) (read : Option (List Char × List Char)) :
    Option (List Char × List Char) :=
  read.map fun (content, rest) ↦ (c :: content, rest)

/-- Reads up to a closing double quote. The bound is on the number of characters. -/
def basicWithin : Nat → Reader (List Char)
  | 0, _ => none
  | bound + 1, text =>
    match text with
    | [] => none
    | '"' :: rest => some ([], rest)
    | '\\' :: rest => (escape rest).bind fun (c, rest) ↦ prepend c (basicWithin bound rest)
    | c :: rest => if isPrintable c then prepend c (basicWithin bound rest) else none

/-- Reads up to a closing single quote. -/
def literal : Reader (List Char)
  | [] => none
  | '\'' :: rest => some ([], rest)
  | c :: rest => if isPrintable c then prepend c (literal rest) else none

/-- Skips blanks and ends of lines, in a bounded number of lines. -/
def skipContinuationWithin : Nat → List Char → List Char
  | 0, text => text
  | bound + 1, text =>
    let text := skipBlanks text
    match lineEnd? text with
    | some rest => skipContinuationWithin bound rest
    | none => text

/-- What follows a backslash at the end of a line: blanks up to that end, and then all blanks and
ends of lines. -/
def continuation? (text : List Char) : Option (List Char) :=
  (lineEnd? (skipBlanks text)).map fun rest ↦ skipContinuationWithin rest.length rest

/-- The quotes at the end of a string in triple quotes: the closing three, before them up to two
that belong to the string. -/
def closing? (quote : Char) (text : List Char) : Option (List Char × List Char) :=
  let count := (text.takeWhile (· = quote)).length
  if count < 3 then none
  else some (List.replicate (min count 5 - 3) quote, text.drop (min count 5))

/-- Reads up to closing triple double quotes. The bound is on the number of characters. -/
def longBasicWithin : Nat → Reader (List Char)
  | 0, _ => none
  | bound + 1, text =>
    match closing? '"' text with
    | some closed => some closed
    | none =>
      match lineEnd? text with
      | some rest => prepend '\n' (longBasicWithin bound rest)
      | none =>
        match text with
        | [] => none
        | '\\' :: rest =>
          match continuation? rest with
          | some rest => longBasicWithin bound rest
          | none => (escape rest).bind fun (c, rest) ↦ prepend c (longBasicWithin bound rest)
        | c :: rest => if isPrintable c then prepend c (longBasicWithin bound rest) else none

/-- Reads up to closing triple single quotes. The bound is on the number of characters. -/
def longLiteralWithin : Nat → Reader (List Char)
  | 0, _ => none
  | bound + 1, text =>
    match closing? '\'' text with
    | some closed => some closed
    | none =>
      match lineEnd? text with
      | some rest => prepend '\n' (longLiteralWithin bound rest)
      | none =>
        match text with
        | [] => none
        | c :: rest => if isPrintable c then prepend c (longLiteralWithin bound rest) else none

/-- Drops an end of line that begins the text. -/
def dropFirstLineEnd (text : List Char) : List Char :=
  (lineEnd? text).getD text

/-- Reads a string on one line. -/
def short : Reader String
  | '"' :: rest => (basicWithin (rest.length + 1) rest).map fun (s, rest) ↦ (String.ofList s, rest)
  | '\'' :: rest => (literal rest).map fun (s, rest) ↦ (String.ofList s, rest)
  | _ => none

/-- Reads a string in any notation. -/
def any : Reader String
  | '"' :: '"' :: '"' :: rest =>
    let rest := dropFirstLineEnd rest
    (longBasicWithin (rest.length + 1) rest).map fun (s, rest) ↦ (String.ofList s, rest)
  | '\'' :: '\'' :: '\'' :: rest =>
    let rest := dropFirstLineEnd rest
    (longLiteralWithin (rest.length + 1) rest).map fun (s, rest) ↦ (String.ofList s, rest)
  | text => short text

end HeadlessDisplay.Toml.Text
