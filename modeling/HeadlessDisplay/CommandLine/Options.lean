import HeadlessDisplay.Settings.Loading

/-!
Command lines. An argument is a long option, with its value attached or following, a cluster of
short flags, the mark after which there are no options, or plain. Options take one value and are
given at most once; one that is not given may be set by a variable of the environment. Asking for
help or for the version ends the reading at once, but a value that came before is looked at first.
-/

set_option autoImplicit false
set_option relaxedAutoImplicit false

namespace HeadlessDisplay.CommandLine

/-- Why a command line does not lead to a run. -/
inductive Notice
  /-- Help was asked for. -/
  | help
  /-- The version was asked for. -/
  | version
  /-- The command line is not understood. -/
  | misuse
deriving DecidableEq

/-- The exit code of a program that does not run. -/
def Notice.exitCode : Notice → Nat
  | .help | .version => 0
  | .misuse => 2

/-- The version of the programs. -/
def versionNumber : String := "0.1.0"

/-- What a program of the given name prints instead of running. What is printed for help is not laid
down. -/
def Notice.output (program : String) : Notice → String
  | .version => s!"{program} {versionNumber}\n"
  | .help | .misuse => ""

/-- What an argument looks like. -/
inductive Argument
  /-- The mark after which there are no options. -/
  | endOfOptions
  /-- A long option, with its attached value. -/
  | long (name : String) (value : Option String)
  /-- Short flags, at least one. -/
  | short (first : Char) (more : List Char)
  | plain (value : String)
deriving DecidableEq

/-- Splits at the first equals sign. -/
def splitAtEquals (text : List Char) : String × Option String :=
  (String.ofList (text.takeWhile (· ≠ '=')),
    match text.dropWhile (· ≠ '=') with
    | [] => none
    | _ :: value => some (String.ofList value))

/-- Tells what an argument looks like. -/
def Argument.of (word : String) : Argument :=
  match word.toList with
  | ['-', '-'] => .endOfOptions
  | '-' :: '-' :: rest =>
    let (name, value) := splitAtEquals rest
    .long name value
  | '-' :: first :: more => .short first more
  | _ => .plain word

/-- An option that takes a value. -/
structure OptionForm where
  name : String
  /-- The variable of the environment that stands in for it. -/
  standIn : Option String
  /-- Whether its value may be empty. -/
  mayBeEmpty : Bool
deriving DecidableEq

/-- The options that have been read. -/
structure Options where
  /-- The values given so far. -/
  values : List (String × String)
  /-- An option that was named but has not been looked at, with its value if that has come. -/
  pending : Option (OptionForm × Option String)
deriving DecidableEq

namespace Options

/-- No option has been read. -/
def none : Options := ⟨[], .none⟩

/-- Gives a value to an option. -/
def give (options : Options) (form : OptionForm) (value : String) : Except Notice Options :=
  if (options.values.lookup form.name).isSome ∨ (value.isEmpty ∧ ¬ form.mayBeEmpty) then
    .error .misuse
  else .ok { options with values := options.values ++ [(form.name, value)] }

/-- Looks at the option that is pending. -/
def settle (options : Options) : Except Notice Options :=
  match options.pending with
  | .none => .ok options
  | some (_, .none) => .error .misuse
  | some (form, some value) => { options with pending := .none }.give form value

/-- Whether the next plain argument is the value of an option. -/
def awaitsValue (options : Options) : Bool :=
  options.pending.any fun pending ↦ pending.2.isNone

/-- What a long flag asks for. -/
def longFlag? (name : String) : Option Notice :=
  if name = "help" then some .help else if name = "version" then some .version else .none

/-- What a short flag asks for. -/
def shortFlag? (letter : Char) : Option Notice :=
  if letter = 'h' then some .help else if letter = 'V' then some .version else .none

/-- Ends the reading with what a flag asks for. -/
def raise {α : Type} (options : Options) (notice : Notice) : Except Notice α :=
  options.settle.bind fun _ ↦ .error notice

/-- Reads a long option. -/
def readLong (forms : List OptionForm) (options : Options) (name : String)
    (value : Option String) : Except Notice Options :=
  match longFlag? name, forms.find? (·.name = name), value with
  | some notice, _, .none => options.raise notice
  | some _, _, some _ => .error .misuse
  | .none, .none, _ => .error .misuse
  | .none, some form, some value => options.settle.bind fun options ↦ options.give form value
  | .none, some form, .none =>
    options.settle.bind fun options ↦ .ok { options with pending := some (form, .none) }

/-- Reads short flags. -/
def readShort (options : Options) (first : Char) : Except Notice Options :=
  match shortFlag? first with
  | some notice => options.raise notice
  | .none => .error .misuse

/-- Reads a plain argument. -/
def readPlain (options : Options) (value : String) : Except Notice Options :=
  match options.pending with
  | some (form, .none) => .ok { options with pending := some (form, some value) }
  | _ => .error .misuse

/-- Reads options up to a command, which is left with all that follows. -/
def read (forms : List OptionForm) (isCommand : String → Bool) (options : Options) :
    List String → Except Notice (Options × List String)
  | [] => .ok (options, [])
  | word :: rest =>
    if isCommand word && !options.awaitsValue then .ok (options, word :: rest)
    else
      match Argument.of word with
      | .endOfOptions => if rest.isEmpty then .ok (options, []) else .error .misuse
      | .long name value =>
        (options.readLong forms name value).bind fun options ↦ read forms isCommand options rest
      | .short first _ =>
        (options.readShort first).bind fun options ↦ read forms isCommand options rest
      | .plain value =>
        (options.readPlain value).bind fun options ↦ read forms isCommand options rest

/-- Sets an option that was not given from the environment. -/
def fill (environment : Environment) (options : Options) (form : OptionForm) :
    Except Notice Options :=
  match options.values.lookup form.name, form.standIn.bind environment.value? with
  | .none, some value => options.give form value
  | _, _ => .ok options

/-- Looks at what is pending and sets the options that were not given from the environment. -/
def complete (forms : List OptionForm) (environment : Environment) (options : Options) :
    Except Notice Options :=
  options.settle.bind fun options ↦ forms.foldlM (fill environment) options

/-- The value of an option. -/
def value? (options : Options) (name : String) : Option String :=
  options.values.lookup name

end Options

end HeadlessDisplay.CommandLine
