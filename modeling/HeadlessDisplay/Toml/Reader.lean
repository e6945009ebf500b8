/-!
Readers of TOML source. A reader takes something from the beginning of a text and gives back the
rest, or finds that the text does not begin with it. Lines end in a line feed, which a carriage
return may precede; no other control character but the tab is allowed anywhere.
-/

set_option autoImplicit false
set_option relaxedAutoImplicit false

namespace HeadlessDisplay.Toml

/-- Takes a value from the beginning of a text and leaves the rest. -/
abbrev Reader (α : Type) := List Char → Option (α × List Char)

namespace Reader

/-- Whether a character is a blank within a line. -/
def isBlank (c : Char) : Bool :=
  c = ' ' || c = '\t'

/-- Whether a character may stand in comments and strings: all but the control characters, the tab
excepted. -/
def isPrintable (c : Char) : Bool :=
  c = '\t' || (' ' ≤ c && c ≠ '\x7f')

/-- Skips blanks. -/
def skipBlanks (text : List Char) : List Char :=
  text.dropWhile isBlank

/-- Skips the comment that begins the text, if there is one. -/
def skipComment : List Char → List Char
  | '#' :: rest => rest.dropWhile isPrintable
  | text => text

/-- Takes one end of line. -/
def lineEnd? : List Char → Option (List Char)
  | '\n' :: rest => some rest
  | '\r' :: '\n' :: rest => some rest
  | _ => none

/-- Takes what may follow a statement on its line, with the end of the line or of the text. -/
def endOfStatement? (text : List Char) : Option (List Char) :=
  match skipComment (skipBlanks text) with
  | [] => some []
  | rest => lineEnd? rest

/-- Takes one character. -/
def expect? (c : Char) : List Char → Option (List Char)
  | [] => none
  | first :: rest => if first = c then some rest else none

/-- Takes the given characters. -/
def expectAll? : List Char → List Char → Option (List Char)
  | [], text => some text
  | c :: more, text => (expect? c text).bind (expectAll? more)

/-- Skips blanks, ends of lines and comments, in a bounded number of lines. -/
def skipLinesWithin : Nat → List Char → List Char
  | 0, text => text
  | bound + 1, text =>
    let text := skipBlanks text
    match text with
    | '#' :: _ =>
      match lineEnd? (skipComment text) with
      | some rest => skipLinesWithin bound rest
      | none => text
    | _ =>
      match lineEnd? text with
      | some rest => skipLinesWithin bound rest
      | none => text

/-- Skips blanks, ends of lines and comments. -/
def skipLines (text : List Char) : List Char :=
  skipLinesWithin text.length text

/-- Reads items with a separator between them, none or more, and leaves a separator that no item
follows; the bound is on the number of items. -/
def separatedWithin {α : Type} (separator : Char) (item : Reader α) :
    Nat → List Char → List α × List Char
  | 0, text => ([], text)
  | bound + 1, text =>
    match item text with
    | none => ([], text)
    | some (first, rest) =>
      match expect? separator rest with
      | none => ([first], rest)
      | some after =>
        match separatedWithin separator item bound after with
        | ([], _) => ([first], rest)
        | (more, rest) => (first :: more, rest)

/-- Reads items with a separator between them, none or more, and leaves a separator that no item
follows. -/
def separated {α : Type} (separator : Char) (item : Reader α) (text : List Char) :
    List α × List Char :=
  separatedWithin separator item (text.length + 1) text

end Reader

end HeadlessDisplay.Toml
