import HeadlessDisplay.Settings.Decoding

/-!
Where settings come from. A path that is given must lead to a document. Otherwise the document is
looked for in the directory for configurations that the environment names; if it is not there, or
the environment names none, every setting has its default. Settings from a document are returned
only if they are sound.
-/

set_option autoImplicit false
set_option relaxedAutoImplicit false

namespace HeadlessDisplay

/-- The variables of the environment a program is started in. -/
structure Environment where
  entries : List (String × String)
deriving DecidableEq

/-- The value of a variable. -/
def Environment.value? (environment : Environment) (name : String) : Option String :=
  environment.entries.lookup name

/-- Why there are no settings. -/
inductive SettingsError
  /-- The environment names no directory for configurations. -/
  | noDirectory
  /-- The document cannot be read. -/
  | unreadable (path : String) (fault : Fault)
  /-- The text is no document with settings. -/
  | malformed
  /-- The settings are unsound. -/
  | unsound (reason : UnsoundSettings)
deriving DecidableEq

/-- The error in words. -/
def SettingsError.message : SettingsError → String
  | .noDirectory => "could not determine config directory"
  | .unreadable path fault =>
    let text := fault.message
    s!"I/O error accessing config at {path}: {text}"
  | .malformed => "failed to parse config TOML"
  | .unsound reason =>
    let text := reason.message
    s!"invalid config: {text}"

/-- What lies behind the error, in words. Of a malformed text no more is told than what it should
be. -/
def SettingsError.causes : SettingsError → List String
  | .unreadable _ fault => [fault.message]
  | .malformed => ["expected a TOML document of settings"]
  | .noDirectory | .unsound _ => []

namespace Settings

/-- The path of the document for which no other is given. -/
def defaultPath (environment : Environment) : Except SettingsError String :=
  let below (base : String) : String :=
    FileTree.join (FileTree.join base "vfb") "config.toml"
  match environment.value? "XDG_CONFIG_HOME", environment.value? "HOME" with
  | some base, _ => .ok (below base)
  | none, some home => .ok (below (FileTree.join home ".config"))
  | none, none => .error .noDirectory

/-- The settings of a text. -/
def parse (text : String) : Except SettingsError Settings :=
  match ofText? text with
  | some settings => .ok settings
  | none => .error .malformed

/-- The settings, if they are sound. -/
def checked (settings : Settings) : Except SettingsError Settings :=
  match settings.validate with
  | .ok () => .ok settings
  | .error reason => .error (.unsound reason)

/-- The settings of the document at a path. -/
def loadFile (tree : FileTree) (path : String) (required : Bool) : Except SettingsError Settings :=
  match tree.readText path with
  | .ok text => (parse text).bind checked
  | .error fault =>
    if fault.kind = .notFound ∧ ¬ required then checked default
    else .error (.unreadable path fault)

/-- The settings that a program is to be started with. -/
def load (tree : FileTree) (environment : Environment) (explicit : Option String) :
    Except SettingsError Settings :=
  match explicit, defaultPath environment with
  | some path, _ => loadFile tree path true
  | none, .ok path => loadFile tree path false
  | none, .error _ => .ok default

end Settings

end HeadlessDisplay
