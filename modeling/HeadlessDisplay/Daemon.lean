import HeadlessDisplay.Backend.SharedFiles
import HeadlessDisplay.CommandLine.Launch
import HeadlessDisplay.Report

/-!
The display program. It loads its settings, brings up its output on a framebuffer file, paints it
and binds the socket for input events; it gives up at the first of these that fails. Then it passes
through the loop of its stage until it is told to stop, and lets everything go. The system refuses
nothing that it asks for at its socket.
-/

set_option autoImplicit false
set_option relaxedAutoImplicit false

namespace HeadlessDisplay

/-- Why the display program gives up. -/
inductive LaunchError
  | settings (error : SettingsError)
  /-- The output on a framebuffer file cannot be used. -/
  | output (device : String) (error : OutputError)
  | socket (error : BindError)
deriving DecidableEq

/-- The report of the error. -/
def LaunchError.report : LaunchError → Report
  | .settings error => ⟨"loading configuration", error.message :: error.causes⟩
  | .output device error => ⟨s!"creating output on {device}", error.message :: error.causes⟩
  | .socket error => ⟨"binding input socket", error.message :: error.causes⟩

/-- The display program while it runs. -/
structure Daemon where
  settings : Settings
  stage : Stage FileStorage
  /-- The files when the socket was bound, or after it went. -/
  tree : FileTree

namespace Daemon

/-- The stage before the first output. -/
def emptyStage (settings : Settings) : Stage FileStorage :=
  .start (.always (ConfiguredScreen.answer ⟨settings.output.descriptor⟩))
    (.solid settings.renderer.background fun _ ↦ none) (.atTime 0)

/-- The framebuffer file that the settings name. -/
def storage (tree : FileTree) (settings : Settings) : FileStorage :=
  .atPath tree settings.output.device settings.output.deviceMode.toNat

/-- Brings up the output and paints it. -/
def openStage (tree : FileTree) (settings : Settings) (now : Nat) :
    Except OutputError (Stage FileStorage) :=
  let device := storage tree settings
  let (result, stage) := (emptyStage settings).step (.addOutput settings.output.name device)
  match result with
  | .added (.error error) => .error error
  | _ => .ok (stage.run (Stage.firstPaint now))

/-- Starts the program. -/
def start (tree : FileTree) (environment : Environment) (launch : CommandLine.Launch)
    (now : Nat) : Except LaunchError Daemon :=
  match Settings.load tree environment launch.config with
  | .error error => .error (.settings error)
  | .ok loaded =>
    let settings := loaded.override launch.overrides
    match openStage tree settings now with
    | .error error => .error (.output settings.output.device error)
    | .ok stage =>
      let input := settings.input
      let painted := stage.filesAfter tree
      match SocketFile.bind painted input.socketPath input.socketMode.toNat 0 with
      | .error error => .error (.socket error)
      | .ok tree => .ok ⟨settings, stage.among tree, tree⟩

/-- Passes through the loop once for each wakeup. -/
def loop (daemon : Daemon) (wakeups : List Stage.Wakeup) : Daemon :=
  { daemon with stage := daemon.stage.loop wakeups }

/-- The files as they are now. -/
def files (daemon : Daemon) : FileTree :=
  daemon.stage.filesAfter daemon.tree

/-- Stops the program: its outputs are destroyed and its socket goes. -/
def stop (daemon : Daemon) : Daemon :=
  let stage := (daemon.stage.step .shutdown).2
  let tree := SocketFile.unbind (stage.filesAfter daemon.tree) daemon.settings.input.socketPath
  { daemon with stage := stage.among tree, tree }

end Daemon

end HeadlessDisplay
