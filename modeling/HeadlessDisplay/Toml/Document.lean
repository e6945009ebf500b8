import HeadlessDisplay.Toml.Moment
import HeadlessDisplay.Toml.Number
import HeadlessDisplay.Toml.Text

/-!
Documents of TOML 1.0. A document is a sequence of statements, each with a line to itself: a key
with its value, or a header that says which table the following keys belong to. Every statement is
read by its grammar and then carried out on the root table.

Keys of very many parts and values nested very deep are refused.
-/

set_option autoImplicit false
set_option relaxedAutoImplicit false

namespace HeadlessDisplay.Toml

open Reader

/-- The number that neither the parts of a key nor the levels of a value reach. -/
def nestingLimit : Nat := 80

/-- Whether a character may stand in a key without quotes. -/
def isKeyCharacter (c : Char) : Bool :=
  c.isAlphanum || c = '-' || c = '_'

/-- Reads one part of a key, with the blanks around it. -/
def keyPart : Reader String := fun text ↦
  let text := skipBlanks text
  let read :=
    match text with
    | '"' :: _ | '\'' :: _ => Text.short text
    | _ =>
      let bare := text.takeWhile isKeyCharacter
      if bare.isEmpty then none else some (String.ofList bare, text.dropWhile isKeyCharacter)
  read.map fun (part, rest) ↦ (part, skipBlanks rest)

/-- Reads a key: the parts before the last, and the last. -/
def key : Reader (List String × String) := fun text ↦
  let (parts, rest) := separated '.' keyPart text
  if nestingLimit ≤ parts.length then none
  else parts.getLast?.map fun last ↦ ((parts.dropLast, last), rest)

/-- Reads the items of an array after its opening bracket. -/
def arrayItems (item : Reader Value) : Reader Value := fun text ↦
  let spaced : Reader Value := fun text ↦
    (item (skipLines text)).map fun (value, rest) ↦ (value, skipLines rest)
  let (items, rest) := separated ',' spaced text
  let rest := if items.isEmpty then rest else (expect? ',' rest).getD rest
  (expect? ']' (skipLines rest)).map fun rest ↦ (.array items, rest)

/-- Reads a key with its value. -/
def assignment (item : Reader Value) : Reader ((List String × String) × Value) := fun text ↦ do
  let (key, text) ← key text
  let text ← expect? '=' text
  let (value, text) ← item (skipBlanks text)
  return ((key, value), text)

/-- Reads the entries of a table in braces after the opening one. -/
def inlineEntries (item : Reader Value) : Reader Value := fun text ↦
  let spaced := fun text ↦
    (assignment item text).map fun (assignment, rest) ↦ (assignment, skipBlanks rest)
  let (assignments, rest) := separated ',' spaced text
  (expect? '}' (skipBlanks rest)).bind fun rest ↦
    (assignments.foldlM
      (fun entries ((path, key), value) ↦ Entries.assign path key value .inline entries) []).map
      fun entries ↦ (.table .inline entries, rest)

/-- Reads a word that stands for a truth value. -/
def truth : Reader Value := fun text ↦
  match expectAll? "true".toList text with
  | some rest => some (.boolean true, rest)
  | none => (expectAll? "false".toList text).map fun rest ↦ (.boolean false, rest)

/-- Reads a value that has no values in it. -/
def atom : Reader Value := fun text ↦
  match text with
  | '"' :: _ | '\'' :: _ => (Text.any text).map fun (content, rest) ↦ (.text content, rest)
  | 't' :: _ | 'f' :: _ => truth text
  | _ =>
    match Moment.read text with
    | some (written, rest) => some (.moment written, rest)
    | none => Number.read text

/-- Reads a value of fewer than the given number of levels of arrays and tables. -/
def value : Nat → Reader Value
  | 0, '[' :: _ | 0, '{' :: _ => none
  | levels + 1, '[' :: rest => arrayItems (value levels) rest
  | levels + 1, '{' :: rest => inlineEntries (value levels) rest
  | _, text => atom text

/-- A statement of a document. -/
inductive Statement
  | assign (path : List String) (key : String) (value : Value)
  /-- A header in brackets. -/
  | openTable (path : List String) (key : String)
  /-- A header in double brackets. -/
  | openElement (path : List String) (key : String)

/-- Reads a header or a key with its value. -/
def statement : Reader Statement
  | '[' :: '[' :: rest => do
    let ((path, key), rest) ← key rest
    let rest ← expectAll? [']', ']'] rest
    return (.openElement path key, rest)
  | '[' :: rest => do
    let ((path, key), rest) ← key rest
    let rest ← expect? ']' rest
    return (.openTable path key, rest)
  | text => do
    let (((path, key), value), rest) ← assignment (value (nestingLimit - 1)) text
    return (.assign path key value, rest)

/-- The statements of a text, in a bounded number of lines. -/
def statementsWithin : Nat → List Char → Option (List Statement)
  | 0, _ => none
  | bound + 1, text =>
    match skipBlanks text with
    | [] => some []
    | '#' :: rest => (endOfStatement? ('#' :: rest)).bind (statementsWithin bound)
    | '\n' :: rest | '\r' :: '\n' :: rest => statementsWithin bound rest
    | text => do
      let (first, rest) ← statement text
      let rest ← endOfStatement? rest
      let more ← statementsWithin bound rest
      return first :: more

/-- The statements of a text; a byte order mark may stand before them. -/
def statements? (text : List Char) : Option (List Statement) :=
  let text := match text with
    | '\uFEFF' :: rest => rest
    | text => text
  statementsWithin (text.length + 1) text

/-- The root table so far, and the path of the table that keys belong to. -/
structure Document where
  entries : Entries
  path : List String

namespace Document

/-- Nothing has been said. -/
def empty : Document := ⟨[], []⟩

/-- Carries out a statement. -/
def carryOut (document : Document) : Statement → Option Document
  | .assign path key value =>
    (document.entries.descend false (Entries.assign path key value) document.path .headed).map
      fun entries ↦ { document with entries }
  | .openTable path key =>
    (document.entries.openTable path key).map fun entries ↦ ⟨entries, path ++ [key]⟩
  | .openElement path key =>
    (document.entries.openElement path key).map fun entries ↦ ⟨entries, path ++ [key]⟩

/-- The root table of a text, if the text is a document. -/
def read? (text : String) : Option Entries := do
  let statements ← statements? text.toList
  let document ← statements.foldlM carryOut empty
  return document.entries

end Document

end HeadlessDisplay.Toml
