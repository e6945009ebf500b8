import HeadlessDisplay.Output.Lifecycle

/-!
An output by itself, together with all it deals with: the source of descriptors, the renderer and
the host. Its life is a sequence of steps, and a step that fails does not end it.
-/

set_option autoImplicit false
set_option relaxedAutoImplicit false

namespace HeadlessDisplay

/-- An output and its surroundings. -/
structure Solo (δ : Type) where
  output : Output δ
  source : ScreenSource
  renderer : Renderer
  host : Host

/-- An operation on an output. -/
inductive OutputStep
  | enable
  | disable
  | reenable
  | repaint (damage : Damage) (now : Nat)
  | repaintPending (now : Nat)
  | addDamage (damage : Damage)
  | damageAll
  | takeDamage
  | dispatchTimer (now : Nat)
  | startRepaintLoop
  | destroy
deriving DecidableEq

/-- What an operation on an output returns. -/
inductive OutputStepResult
  /-- Whether the output is drawable. -/
  | enabled (result : Except OutputError Unit)
  /-- How the output came back. -/
  | reenabled (result : Except OutputError Reenabled)
  /-- What was painted. -/
  | repainted (result : Except OutputError Repainted)
  /-- The damage that was kept. -/
  | taken (damage : Damage)
  /-- Whether the timer fired. -/
  | dispatched (fired : Bool)
  | done

namespace Solo

variable {δ : Type} [FramebufferDevice δ]

/-- Carries out one operation. -/
def step (solo : Solo δ) : OutputStep → OutputStepResult × Solo δ
  | .enable =>
    let (result, output) := solo.output.enable
    (.enabled result, { solo with output })
  | .disable => (.done, { solo with output := solo.output.disable })
  | .reenable =>
    let (result, output, source) := solo.output.reenable solo.source
    (.reenabled result, { solo with output, source })
  | .repaint damage now =>
    let (result, output, renderer) := solo.output.repaint damage solo.renderer now
    (.repainted result, { solo with output, renderer })
  | .repaintPending now =>
    let (result, output, renderer) := solo.output.repaintPending solo.renderer now
    (.repainted result, { solo with output, renderer })
  | .addDamage damage => (.done, { solo with output := solo.output.addDamage damage })
  | .damageAll => (.done, { solo with output := solo.output.damageAll })
  | .takeDamage =>
    let (damage, output) := solo.output.takeDamage
    (.taken damage, { solo with output })
  | .dispatchTimer now =>
    let (fired, output, host) := solo.output.dispatchTimer now solo.host
    (.dispatched fired, { solo with output, host })
  | .startRepaintLoop => (.done, { solo with host := solo.output.startRepaintLoop solo.host })
  | .destroy => (.done, { solo with output := solo.output.destroy })

/-- Carries out operations one after another. -/
def run (solo : Solo δ) (steps : List OutputStep) : Solo δ :=
  steps.foldl (fun solo step ↦ (solo.step step).2) solo

end Solo

end HeadlessDisplay
