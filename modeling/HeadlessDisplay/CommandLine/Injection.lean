import HeadlessDisplay.Client
import HeadlessDisplay.CommandLine.Options
import HeadlessDisplay.Numeral

/-!
The command line that sends one event. After the options stands a verb, and after the verb its
operands. A number among the operands may be negative if it is written with digits, at most one
point after the first of them, and at most one power of ten without a sign; anything else that
begins with a hyphen is taken for a flag, unless the mark that ends the options precedes it.
-/

set_option autoImplicit false
set_option relaxedAutoImplicit false

namespace HeadlessDisplay.CommandLine

/-- What an event is sent for. -/
inductive Verb
  /-- A key is pressed or released. -/
  | key
  /-- The pointer moves to a position. -/
  | move
  /-- A pointer button is pressed or released. -/
  | button
  /-- The wheel is turned by a number of steps. -/
  | scroll
deriving DecidableEq

/-- What an operand says. -/
inductive OperandKind
  | code
  | press
  | axis
  | number
deriving DecidableEq

/-- An operand. -/
inductive Operand
  | code (value : UInt32)
  | press (value : Press)
  | axis (value : ScrollAxis)
  | number (value : Binary64)
deriving DecidableEq

namespace Verb

/-- The verbs. -/
def all : List Verb :=
  [.key, .move, .button, .scroll]

/-- The word for a verb. -/
def word : Verb → String
  | .key => "key"
  | .move => "move"
  | .button => "button"
  | .scroll => "scroll"

/-- The verb that a word stands for. -/
def ofWord? (word : String) : Option Verb :=
  all.find? (·.word = word)

/-- The operands of a verb. -/
def operands : Verb → List OperandKind
  | .key | .button => [.code, .press]
  | .move => [.number, .number]
  | .scroll => [.axis, .number]

/-- The event of a verb with its operands. -/
def event? (timestamp : UInt64) : Verb → List Operand → Option InputEvent
  | .key, [.code code, .press press] => some (.key timestamp code press)
  | .button, [.code code, .press press] => some (.button timestamp code press)
  | .move, [.number x, .number y] => some (.motion timestamp x y)
  | .scroll, [.axis axis, .number value] => some (.scroll timestamp axis value)
  | _, _ => none

end Verb

/-- The word that follows a command for help. -/
def helpWord : String := "help"

/-- Whether a number that begins with a hyphen is not taken for a flag, given what follows the
hyphen. -/
def isNegativeNumber (magnitude : List Char) : Bool :=
  let digits := Numeral.isDigit 10
  let mantissa := magnitude.takeWhile (!Decimal.isExponentMark ·)
  let exponent := (magnitude.dropWhile (!Decimal.isExponentMark ·)).drop 1
  let fraction := (mantissa.dropWhile (· ≠ '.')).drop 1
  let whole := mantissa.takeWhile (· ≠ '.')
  !whole.isEmpty && whole.all digits && fraction.all digits && exponent.all digits
    && (!exponent.isEmpty || !magnitude.any Decimal.isExponentMark)

/-- The operand of a kind that a text stands for. -/
def OperandKind.read? (text : String) : OperandKind → Option Operand
  | .code =>
    ((Numeral.int64? text.toList).filter fun value ↦ 0 ≤ value && value < 0x100000000).map
      fun value ↦ .code (.ofNat value.toNat)
  | .press => (Press.ofName? text).map .press
  | .axis => (ScrollAxis.ofName? text).map .axis
  | .number => (Binary64.ofNumeral? text.toList).map .number

/-- Whether an argument that looks like short flags is an operand after all. -/
def OperandKind.takesHyphen (first : Char) (more : List Char) : OperandKind → Bool
  | .number => isNegativeNumber (first :: more)
  | _ => false

/-- Reads operands of the given kinds; `optionsEnded` tells whether the mark that ends options has
been passed. -/
def readOperands (optionsEnded : Bool) :
    List OperandKind → List String → Except Notice (List Operand)
  | [], [] => .ok []
  | _ :: _, [] => .error .misuse
  | kinds, word :: rest =>
    let asOperand : Except Notice (List Operand) :=
      match kinds with
      | [] => .error .misuse
      | kind :: kinds =>
        match kind.read? word with
        | none => .error .misuse
        | some operand => (readOperands optionsEnded kinds rest).map (operand :: ·)
    if optionsEnded then asOperand
    else
      match Argument.of word with
      | .endOfOptions => readOperands true kinds rest
      | .long name value => .error (if name = "help" ∧ value.isNone then .help else .misuse)
      | .short first more =>
        if kinds.head?.any (·.takesHyphen first more) then asOperand
        else .error (if first = 'h' then .help else .misuse)
      | .plain _ => asOperand

/-- What follows the word for help: nothing, the word for a verb, or the word for help again. -/
def readHelp : List String → Notice
  | [] => .help
  | [word] => if (Verb.ofWord? word).isSome ∨ word = helpWord then .help else .misuse
  | _ => .misuse

/-- What the command line asks for. -/
structure Injection where
  socketPath : String
  event : InputEvent
deriving DecidableEq

namespace Injection

/-- The program's name. -/
def programName : String := "vfb-inject"

/-- The option for the path of the socket. -/
def socketOption : OptionForm := ⟨"socket-path", some "VFB_SOCKET", false⟩

/-- The options. -/
def forms : List OptionForm := [socketOption]

/-- Reads the words from the verb on. -/
def readVerb (timestamp : UInt64) : List String → Except Notice InputEvent
  | [] => .error .misuse
  | word :: rest =>
    match Verb.ofWord? word with
    | none => .error (readHelp rest)
    | some verb =>
      (readOperands false verb.operands rest).bind fun operands ↦
        match verb.event? timestamp operands with
        | some event => .ok event
        | none => .error .misuse

/-- Reads a command line; the event is given the timestamp. -/
def read (environment : Environment) (timestamp : UInt64) (words : List String) :
    Except Notice Injection := do
  let isCommand (word : String) : Bool := (Verb.ofWord? word).isSome || word = helpWord
  let (options, rest) ← Options.none.read forms isCommand words
  let event ← readVerb timestamp rest
  let options ← options.complete forms environment
  return ⟨(options.value? socketOption.name).getD SocketFile.defaultPath, event⟩

end Injection

end HeadlessDisplay.CommandLine
