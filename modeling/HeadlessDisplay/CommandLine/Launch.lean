import HeadlessDisplay.CommandLine.Options

/-!
The command line that starts the display program: where its settings are, and which of them are
replaced by others whatever the document says.
-/

set_option autoImplicit false
set_option relaxedAutoImplicit false

namespace HeadlessDisplay

/-- Settings that replace those of the document. -/
structure Overrides where
  socketPath : Option String
  device : Option String
  logLevel : Option String
deriving DecidableEq

/-- Replaces settings. -/
def Settings.override (settings : Settings) (overrides : Overrides) : Settings :=
  { settings with
    input := { settings.input with
      socketPath := overrides.socketPath.getD settings.input.socketPath }
    output := { settings.output with device := overrides.device.getD settings.output.device }
    logging := { settings.logging with
      logLevel := overrides.logLevel.getD settings.logging.logLevel } }

/-- The paths at which the display program makes files of its own. -/
def Settings.paths (settings : Settings) : List String :=
  [settings.output.device, settings.input.socketPath]

namespace CommandLine

/-- What the command line asks for. -/
structure Launch where
  /-- The path of the document with the settings. -/
  config : Option String
  overrides : Overrides
deriving DecidableEq

namespace Launch

/-- The program's name. -/
def programName : String := "vfb-backend"

/-- The option for the path of the document. -/
def configOption : OptionForm := ⟨"config", none, false⟩

/-- The option for the path of the socket. -/
def socketOption : OptionForm := ⟨"socket-path", some "VFB_SOCKET", false⟩

/-- The option for the path of the framebuffer file. -/
def deviceOption : OptionForm := ⟨"device", some "VFB_DEVICE", false⟩

/-- The option for what is logged. -/
def logOption : OptionForm := ⟨"log-level", some "VFB_LOG", true⟩

/-- The options. -/
def forms : List OptionForm :=
  [configOption, socketOption, deviceOption, logOption]

/-- Reads a command line. -/
def read (environment : Environment) (words : List String) : Except Notice Launch := do
  let (options, _) ← Options.none.read forms (fun _ ↦ false) words
  let options ← options.complete forms environment
  return ⟨options.value? configOption.name,
    ⟨options.value? socketOption.name, options.value? deviceOption.name,
      options.value? logOption.name⟩⟩

end Launch

end CommandLine

end HeadlessDisplay
