/-!
Errors as a program reports them when it gives up: what it was doing, and under that the error with
all that lies behind it, from the outside in. The causes are numbered if there are several.
-/

set_option autoImplicit false
set_option relaxedAutoImplicit false

namespace HeadlessDisplay

/-- An error for the reader of a terminal. -/
structure Report where
  /-- What the program was doing. -/
  activity : String
  /-- What went wrong, from the outside in. -/
  causes : List String
deriving DecidableEq

namespace Report

/-- A cause on lines of its own, after a margin for its first line and one for the others. -/
def indented (first others cause : String) : String :=
  first ++ ("\n" ++ others).intercalate (cause.splitOn "\n")

/-- A number with the margin of numbered causes. -/
def numbered (index : Nat) (cause : String) : String :=
  let number := toString index
  indented (String.ofList (List.replicate (5 - number.length) ' ') ++ number ++ ": ") "       " cause

/-- The lines under the activity. -/
def causeLines : List String → List String
  | [] => []
  | [cause] => ["", "Caused by:", indented "    " "    " cause]
  | causes => "" :: "Caused by:" :: causes.zipIdx.map fun (cause, index) ↦ numbered index cause

/-- The report as it is printed. -/
def text (report : Report) : String :=
  "\n".intercalate (("Error: " ++ report.activity) :: causeLines report.causes)

end Report

end HeadlessDisplay
