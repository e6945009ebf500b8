import HeadlessDisplay.Numeral
import HeadlessDisplay.Toml.Reader

/-!
Dates and times of TOML: a date, a time of day, or both with an optional offset. Every number in
them has a fixed count of digits and must be one that a calendar or a clock shows; a minute may have
a sixty-first second.
-/

set_option autoImplicit false
set_option relaxedAutoImplicit false

namespace HeadlessDisplay.Toml.Moment

open Reader

/-- Reads a number of the given count of digits that lies between two bounds. -/
def number (count low high : Nat) : Reader Nat := fun text ↦
  let digits := text.take count
  if digits.length = count then
    ((Numeral.natural? 10 digits).filter fun n ↦ low ≤ n && n ≤ high).map
      fun n ↦ (n, text.drop count)
  else none

/-- Whether a year has a twenty-ninth of February. -/
def isLeap (year : Nat) : Bool :=
  year % 4 = 0 && (year % 100 ≠ 0 || year % 400 = 0)

/-- The number of days in a month. -/
def daysIn (year month : Nat) : Nat :=
  if month = 2 then if isLeap year then 29 else 28
  else if month = 4 ∨ month = 6 ∨ month = 9 ∨ month = 11 then 30
  else 31

/-- Takes a date. -/
def date? (text : List Char) : Option (List Char) := do
  let (year, text) ← number 4 0 9999 text
  let text ← expect? '-' text
  let (month, text) ← number 2 1 12 text
  let text ← expect? '-' text
  let (_, text) ← number 2 1 (daysIn year month) text
  return text

/-- Takes a fraction of a second, if there is one. -/
def fraction? : List Char → Option (List Char)
  | '.' :: rest =>
    if (rest.head?.map (Numeral.isDigit 10)).getD false then
      some (rest.dropWhile (Numeral.isDigit 10))
    else some ('.' :: rest)
  | text => some text

/-- Takes a time of day. -/
def time? (text : List Char) : Option (List Char) := do
  let (_, text) ← number 2 0 23 text
  let text ← expect? ':' text
  let (_, text) ← number 2 0 59 text
  let text ← expect? ':' text
  let (_, text) ← number 2 0 60 text
  fraction? text

/-- Takes an offset, if there is one. -/
def offset? : List Char → Option (List Char)
  | 'Z' :: rest | 'z' :: rest => some rest
  | '+' :: rest | '-' :: rest => do
    let (_, text) ← number 2 0 23 rest
    let text ← expect? ':' text
    let (_, text) ← number 2 0 59 text
    return text
  | text => some text

/-- Takes the time of day that may follow a date. -/
def timeAfterDate? (text : List Char) : Option (List Char) :=
  match text with
  | c :: rest =>
    if c = 'T' ∨ c = 't' ∨ (c = ' ' ∧ (time? rest).isSome) then (time? rest).bind offset?
    else some text
  | [] => some text

/-- Takes a date, a time, or both. -/
def take? (text : List Char) : Option (List Char) :=
  match date? text with
  | some rest => timeAfterDate? rest
  | none => time? text

/-- Reads a date, a time, or both, as it is written. -/
def read : Reader String := fun text ↦
  (take? text).map fun rest ↦ (String.ofList (text.take (text.length - rest.length)), rest)

end HeadlessDisplay.Toml.Moment
