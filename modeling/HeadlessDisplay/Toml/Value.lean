import HeadlessDisplay.Binary64

/-!
Values of TOML documents, and the rules by which keys and headers build tables. A table remembers
how it came about, because that decides how it may grow: a table written in braces is finished, one
under a header may not be extended by dotted keys from outside, one made by dotted keys may not be
given a header, and one that headers only passed through may still be given one.
-/

set_option autoImplicit false
set_option relaxedAutoImplicit false

namespace HeadlessDisplay.Toml

/-- How a table came about. -/
inductive TableForm
  /-- Written in braces. -/
  | inline
  /-- Given a header of its own. -/
  | headed
  /-- Passed through by a header. -/
  | implied
  /-- Passed through by a dotted key. -/
  | dotted
deriving DecidableEq

/-- A value. -/
inductive Value
  | text (content : String)
  | integer (value : Int)
  | float (value : Binary64)
  | boolean (value : Bool)
  /-- A date, a time, or both, as it is written. -/
  | moment (written : String)
  | array (items : List Value)
  | table (form : TableForm) (entries : List (String × Value))
  /-- The tables under repeated headers in double brackets. -/
  | tables (elements : List (List (String × Value)))

/-- The entries of a table in the order of their keys' first mention. -/
abbrev Entries := List (String × Value)

namespace Entries

/-- Puts a value under a key that is there. -/
def replace (entries : Entries) (key : String) (value : Value) : Entries :=
  entries.map fun entry ↦ if entry.1 = key then (key, value) else entry

/-- Changes the table that a path leads to from a table of the given form, making tables on the way
where there are none. A path of a dotted key extends only tables without a header. -/
def descend (isDotted : Bool) (change : TableForm → Entries → Option Entries) :
    List String → TableForm → Entries → Option Entries
  | [], form, entries => change form entries
  | key :: path, _, entries =>
    match entries.lookup key with
    | none =>
      let form := if isDotted then TableForm.dotted else .implied
      (descend isDotted change path form []).map fun inner ↦ entries ++ [(key, .table form inner)]
    | some (.table form inner) =>
      if form = .inline ∨ (isDotted ∧ form = .headed) then none
      else
        (descend isDotted change path form inner).map fun inner ↦
          entries.replace key (.table form inner)
    | some (.tables elements) =>
      elements.getLast?.bind fun last ↦
        (descend isDotted change path .headed last).map fun last ↦
          entries.replace key (.tables (elements.dropLast ++ [last]))
    | some _ => none

/-- Gives a value to a new key; a dotted key ends in a table that dotted keys made. -/
def assign (path : List String) (key : String) (value : Value) (form : TableForm)
    (entries : Entries) : Option Entries :=
  descend true
    (fun form entries ↦
      if path.isEmpty = decide (form = .dotted) ∨ (entries.lookup key).isSome then none
      else some (entries ++ [(key, value)]))
    path form entries

/-- Opens the table of a header in brackets. -/
def openTable (path : List String) (key : String) (entries : Entries) : Option Entries :=
  descend false
    (fun _ entries ↦
      match entries.lookup key with
      | none => some (entries ++ [(key, .table .headed [])])
      | some (.table .implied inner) => some (entries.replace key (.table .headed inner))
      | some _ => none)
    path .headed entries

/-- Opens a further table of a header in double brackets. -/
def openElement (path : List String) (key : String) (entries : Entries) : Option Entries :=
  descend false
    (fun _ entries ↦
      match entries.lookup key with
      | none => some (entries ++ [(key, .tables [[]])])
      | some (.tables elements) => some (entries.replace key (.tables (elements ++ [[]])))
      | some _ => none)
    path .headed entries

end Entries

end HeadlessDisplay.Toml
