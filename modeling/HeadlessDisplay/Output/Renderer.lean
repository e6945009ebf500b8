import HeadlessDisplay.Screen.Surface

/-!
Renderers. A renderer is given a surface and the damage to paint, draws some strokes and either
succeeds or fails; it cannot touch the surface in any other way. What a renderer does at each of
its calls is not restricted, and the calls are kept in order.

`Renderer.solid` fills the damage with one colour, except at the calls that are prescribed to fail,
where it draws nothing.
-/

set_option autoImplicit false
set_option relaxedAutoImplicit false

namespace HeadlessDisplay

/-- A renderer that could not paint, and why. -/
structure RenderError where
  reason : String
deriving DecidableEq, Repr

/-- The error in words. -/
def RenderError.message (error : RenderError) : String :=
  let reason := error.reason
  s!"renderer failure: {reason}"

/-- What a renderer draws, and whether it fails. -/
structure Rendering where
  strokes : List Stroke
  failure : Option RenderError

/-- A call that was made on a renderer. -/
structure RenderCall where
  damage : Damage
  succeeded : Bool
deriving DecidableEq

/-- What a renderer does, and the calls made on it. -/
structure Renderer where
  /-- What it does at the call that follows the given number of calls. -/
  behaviour : Nat → Surface → Damage → Rendering
  calls : List RenderCall

namespace Renderer

/-- Has the damage painted. -/
def paint (renderer : Renderer) (surface : Surface) (damage : Damage) :
    Except RenderError Unit × Surface × Renderer :=
  let rendering := renderer.behaviour renderer.calls.length surface damage
  let painted := surface.drawAll rendering.strokes
  let renderer :=
    { renderer with calls := renderer.calls ++ [⟨damage, rendering.failure.isNone⟩] }
  match rendering.failure with
  | some error => (.error error, painted, renderer)
  | none => (.ok (), painted, renderer)

/-- How many calls succeeded. -/
def frames (renderer : Renderer) : Nat :=
  renderer.calls.countP RenderCall.succeeded

/-- The colour painted where no other is given: opaque dark grey. -/
def defaultColor : UInt32 := 0xff202020

/-- The strokes that fill damage with a colour. -/
def fillStrokes (color : UInt32) (damage : Damage) : List Stroke :=
  damage.rects.map fun rect ↦ .rectangle rect color

/-- Fills damage with a colour, but fails at the calls for which a failure is prescribed. -/
def fillBehaviour (color : UInt32) (failure : Nat → Option RenderError) (call : Nat)
    (_ : Surface) (damage : Damage) : Rendering :=
  match failure call with
  | some error => ⟨[], some error⟩
  | none => ⟨fillStrokes color damage, none⟩

/-- A renderer of one colour, with the failures prescribed. -/
def solid (color : UInt32) (failure : Nat → Option RenderError) : Renderer :=
  ⟨fillBehaviour color failure, []⟩

/-- From the next call on, the renderer fills with the given colour, and fails as prescribed. -/
def filling (renderer : Renderer) (color : UInt32) (failure : Nat → Option RenderError) :
    Renderer :=
  { renderer with behaviour := fillBehaviour color failure }

end Renderer

end HeadlessDisplay
