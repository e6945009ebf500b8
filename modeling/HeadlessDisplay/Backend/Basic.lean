import HeadlessDisplay.Output.Lifecycle

/-!
The outputs of a display and the session they belong to. While the session is inactive no output is
mapped; when it becomes active every output is brought back in order and is damaged as a whole. An
output that does not come back is destroyed and dropped, and the host is told; the others are not
affected. A new output that cannot be used is dropped at once.

Operations that drop outputs return the devices that were let go.
-/

set_option autoImplicit false
set_option relaxedAutoImplicit false

namespace HeadlessDisplay

/-- The outputs in the order they were added, and whether the session is active. -/
structure Backend (δ : Type) where
  outputs : List (Output δ)
  active : Bool

/-- What a pass over the outputs at the activation of the session leaves. -/
structure ReenablePass (δ : Type) where
  /-- The outputs that came back. -/
  kept : List (Output δ)
  /-- The devices of those that did not. -/
  released : List δ
  source : ScreenSource
  host : Host

namespace Backend

/-- No outputs, in an active session. -/
def empty {δ : Type} : Backend δ := ⟨[], true⟩

variable {δ : Type} [FramebufferDevice δ]

/-- Adds an output, enabled and damaged as a whole if the session is active. -/
def addOutput (backend : Backend δ) (name : String) (device : δ) (source : ScreenSource) :
    Except OutputError Unit × Backend δ × List δ × ScreenSource :=
  match Output.create name device source with
  | (.error (error, device), source) => (.error error, backend, [device], source)
  | (.ok output, source) =>
    if backend.active then
      match output.enable with
      | (.error error, output) => (.error error, backend, [output.drop.device], source)
      | (.ok (), output) =>
        (.ok (), { backend with outputs := backend.outputs ++ [output.damageAll] }, [], source)
    else (.ok (), { backend with outputs := backend.outputs ++ [output] }, [], source)

/-- The first output of a name. -/
def output? (backend : Backend δ) (name : String) : Option (Output δ) :=
  backend.outputs.find? fun output ↦ output.name == name

/-- Brings outputs back one after another. -/
def reenableAll : List (Output δ) → ScreenSource → Host → ReenablePass δ
  | [], source, host => ⟨[], [], source, host⟩
  | output :: rest, source, host =>
    match output.reenable source with
    | (.ok _, output, source) =>
      let pass := reenableAll rest source host
      { pass with kept := output.damageAll :: pass.kept }
    | (.error _, output, source) =>
      let destroyed := output.destroy
      let pass := reenableAll rest source (host.tell (.removed destroyed.name))
      { pass with released := destroyed.device :: pass.released }

/-- Activates or deactivates the session. -/
def notifySession (backend : Backend δ) (active : Bool) (source : ScreenSource) (host : Host) :
    Backend δ × List δ × ScreenSource × Host :=
  if active then
    let pass := reenableAll backend.outputs source host
    (⟨pass.kept, true⟩, pass.released, pass.source, pass.host)
  else (⟨backend.outputs.map Output.disable, false⟩, [], source, host)

/-- Has the pending damage of mapped outputs painted, and counts the outputs painted. -/
def repaintOutputs (now : Nat) : List (Output δ) → Renderer → Nat × List (Output δ) × Renderer
  | [], renderer => (0, [], renderer)
  | output :: rest, renderer =>
    if output.state = .mapped ∧ output.hasPendingDamage then
      let (result, output, renderer) := output.repaintPending renderer now
      let (count, rest, renderer) := repaintOutputs now rest renderer
      let painted := match result with
        | .ok .painted => 1
        | _ => 0
      (painted + count, output :: rest, renderer)
    else
      let (count, rest, renderer) := repaintOutputs now rest renderer
      (count, output :: rest, renderer)

/-- Has the pending damage of all mapped outputs painted. -/
def repaintPending (backend : Backend δ) (renderer : Renderer) (now : Nat) :
    Nat × Backend δ × Renderer :=
  let (count, outputs, renderer) := repaintOutputs now backend.outputs renderer
  (count, { backend with outputs }, renderer)

/-- Damages every output as a whole. -/
def damageAll (backend : Backend δ) : Backend δ :=
  { backend with outputs := backend.outputs.map Output.damageAll }

/-- Fires the timers that are due, and counts them. -/
def dispatchOutputs (now : Nat) : List (Output δ) → Host → Nat × List (Output δ) × Host
  | [], host => (0, [], host)
  | output :: rest, host =>
    let (fired, output, host) := output.dispatchTimer now host
    let (count, rest, host) := dispatchOutputs now rest host
    (fired.toNat + count, output :: rest, host)

/-- Fires the timers of all outputs that are due. -/
def dispatchTimers (backend : Backend δ) (now : Nat) (host : Host) : Nat × Backend δ × Host :=
  let (count, outputs, host) := dispatchOutputs now backend.outputs host
  (count, { backend with outputs }, host)

/-- The earliest deadline of a frame timer. -/
def nextFrameDeadline (backend : Backend δ) : Option Nat :=
  (backend.outputs.filterMap fun output ↦ output.timer.deadline).min?

/-- Tells the host to begin with every output. -/
def startRepaintLoop (backend : Backend δ) (host : Host) : Host :=
  backend.outputs.foldl (fun host output ↦ output.startRepaintLoop host) host

/-- Destroys every output. -/
def shutdown (backend : Backend δ) : Backend δ × List δ :=
  ({ backend with outputs := [] }, backend.outputs.map fun output ↦ output.destroy.device)

/-- What becomes of a backend that nobody uses any more: it drops the outputs it holds. -/
def drop (backend : Backend δ) : Backend δ × List δ :=
  ({ backend with outputs := [] }, backend.outputs.map fun output ↦ output.drop.device)

end Backend

end HeadlessDisplay
