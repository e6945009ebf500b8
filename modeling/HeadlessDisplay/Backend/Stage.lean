import HeadlessDisplay.Backend.Basic

/-!
A backend together with all it deals with: the source of descriptors, the renderer, the host, and
the devices it has let go. A run is a sequence of steps on a stage; the loop of the display program
is made of the same steps.
-/

set_option autoImplicit false
set_option relaxedAutoImplicit false

namespace HeadlessDisplay

/-- A backend and its surroundings. -/
structure Stage (δ : Type) where
  backend : Backend δ
  source : ScreenSource
  renderer : Renderer
  host : Host
  /-- The devices that were let go, in order. -/
  released : List δ

/-- An operation on a backend. -/
inductive BackendStep (δ : Type)
  | addOutput (name : String) (device : δ)
  | notifySession (active : Bool)
  | repaintPending (now : Nat)
  | damageAll
  | dispatchTimers (now : Nat)
  | startRepaintLoop
  | shutdown

/-- What an operation returns. -/
inductive StepResult
  /-- Whether the output was added. -/
  | added (result : Except OutputError Unit)
  /-- How many outputs were concerned. -/
  | count (number : Nat)
  | done

namespace Stage

/-- A backend without outputs in the given surroundings. -/
def start {δ : Type} (source : ScreenSource) (renderer : Renderer) (host : Host) : Stage δ :=
  ⟨.empty, source, renderer, host, []⟩

variable {δ : Type} [FramebufferDevice δ]

/-- Carries out one operation. -/
def step (stage : Stage δ) : BackendStep δ → StepResult × Stage δ
  | .addOutput name device =>
    let (result, backend, released, source) := stage.backend.addOutput name device stage.source
    (.added result, { stage with backend, source, released := stage.released ++ released })
  | .notifySession active =>
    let (backend, released, source, host) :=
      stage.backend.notifySession active stage.source stage.host
    (.done, { stage with backend, source, host, released := stage.released ++ released })
  | .repaintPending now =>
    let (count, backend, renderer) := stage.backend.repaintPending stage.renderer now
    (.count count, { stage with backend, renderer })
  | .damageAll => (.done, { stage with backend := stage.backend.damageAll })
  | .dispatchTimers now =>
    let (count, backend, host) := stage.backend.dispatchTimers now stage.host
    (.count count, { stage with backend, host })
  | .startRepaintLoop => (.done, { stage with host := stage.backend.startRepaintLoop stage.host })
  | .shutdown =>
    let (backend, released) := stage.backend.shutdown
    (.done, { stage with backend, released := stage.released ++ released })

/-- Carries out operations one after another. -/
def run (stage : Stage δ) (steps : List (BackendStep δ)) : Stage δ :=
  steps.foldl (fun stage step ↦ (stage.step step).2) stage

/-- The surroundings after the backend was dropped, with none of its outputs left. -/
def drop (stage : Stage δ) : Stage δ :=
  let (backend, released) := stage.backend.drop
  { stage with backend, released := stage.released ++ released }

/-- What wakes the loop of the display program. -/
inductive Wakeup
  /-- A frame deadline has come. -/
  | deadline (now : Nat)
  /-- The session is to be deactivated. -/
  | deactivate
  /-- The session is to be activated. -/
  | activate (now : Nat)

/-- The operations that follow a wakeup. -/
def Wakeup.steps : Wakeup → List (BackendStep δ)
  | .deadline now => [.dispatchTimers now, .repaintPending now]
  | .deactivate => [.notifySession false]
  | .activate now => [.notifySession true, .repaintPending now]

/-- The operations that follow the first output and precede the loop. -/
def firstPaint (now : Nat) : List (BackendStep δ) :=
  [.startRepaintLoop, .repaintPending now]

/-- The operations before the loop, with the first output. -/
def openingSteps (name : String) (device : δ) (now : Nat) : List (BackendStep δ) :=
  .addOutput name device :: firstPaint now

/-- Passes through the loop once for each wakeup. -/
def loop (stage : Stage δ) (wakeups : List Wakeup) : Stage δ :=
  stage.run (wakeups.flatMap Wakeup.steps)

end Stage

end HeadlessDisplay
