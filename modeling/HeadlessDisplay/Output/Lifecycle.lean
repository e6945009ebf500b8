import HeadlessDisplay.FrameTimer
import HeadlessDisplay.Output.Host
import HeadlessDisplay.Output.Renderer
import HeadlessDisplay.Output.Storage
import HeadlessDisplay.Screen.Source

/-!
One virtual output, from its creation to its destruction. An output is created over open storage;
enabling it maps the storage as a surface, disabling it hands the mapping back and keeps the
descriptor. When it is enabled again the source is asked for the current mode: an unchanged mode
has the storage mapped as it is, a changed one has it closed, opened at the new layout and mapped.

Repainting a mapped output has the renderer paint the damage that lies on the surface and arms the
frame timer, whether or not the renderer succeeds; damage that could not be painted is kept for the
next time. An operation that fails leaves the output in a state from which only destroying it, or
trying again, makes sense; a destroyed output stays so and touches its storage no more.
-/

set_option autoImplicit false
set_option relaxedAutoImplicit false

namespace HeadlessDisplay

/-- Why an output cannot be used. -/
inductive OutputError
  /-- The source of descriptors gave no answer. -/
  | descriptorQuery (reason : String)
  /-- The descriptor has no layout. -/
  | invalidDescriptor (error : ScreenError)
  /-- The storage failed. -/
  | storage (failure : StorageFailure)
  /-- The mapping has the wrong length. -/
  | surface (error : SurfaceError)
  /-- The output has been destroyed. -/
  | destroyed (name : String)
  /-- The renderer failed. -/
  | render (error : RenderError)
deriving DecidableEq, Repr

/-- The error in words. -/
def OutputError.message : OutputError → String
  | .descriptorQuery reason => s!"screen descriptor query failed: {reason}"
  | .invalidDescriptor error =>
    let text := error.message
    s!"invalid screen descriptor: {text}"
  | .storage ⟨operation, target, fault⟩ =>
    let text := fault.message
    s!"framebuffer storage {operation} failed for {target}: {text}"
  | .surface error =>
    let text := error.message
    s!"framebuffer mapping rejected: {text}"
  | .destroyed name => s!"output {name} has been destroyed"
  | .render error =>
    let text := error.message
    s!"renderer failed: {text}"

/-- What lies behind the error, in words. -/
def OutputError.causes : OutputError → List String
  | .descriptorQuery _ | .destroyed _ => []
  | .invalidDescriptor error => [error.message]
  | .storage failure => [failure.fault.message]
  | .surface error => [error.message]
  | .render error => [error.message]

/-- Where an output is in its life. -/
inductive OutputState
  /-- Nothing is mapped. Its storage is open, unless a change of mode failed to open it. -/
  | unopened
  /-- Its storage is mapped as a surface. -/
  | mapped
  /-- Its mapping was handed back; it waits to be enabled again. -/
  | disabled
  | destroyed
deriving DecidableEq, Repr

/-- How an output came back. -/
inductive Reenabled
  /-- The mode is unchanged and the storage was mapped as it is. -/
  | remapped
  /-- The mode changed and the storage was opened anew. -/
  | recreated
  /-- The output had been mapped all along. -/
  | alreadyMapped
deriving DecidableEq, Repr

/-- What a repaint did. -/
inductive Repainted
  /-- The renderer painted. -/
  | painted
  /-- Nothing is mapped, and the request was dropped. -/
  | dropped
deriving DecidableEq, Repr

/-- A mapping in use as a surface. -/
structure Framebuffer where
  /-- The token of the mapping. -/
  token : Nat
  surface : Surface

/-- The mapping with the memory as it is now. -/
def Framebuffer.mapping (framebuffer : Framebuffer) : Mapping :=
  ⟨framebuffer.token, framebuffer.surface.memory⟩

/-- A virtual output over a device. -/
structure Output (δ : Type) where
  name : String
  device : δ
  descriptor : ScreenDescriptor
  layout : Layout
  framebuffer : Option Framebuffer
  state : OutputState
  timer : FrameTimer
  /-- Damage to be painted. -/
  pending : Damage

namespace Output

variable {δ : Type} [FramebufferDevice δ]

/-- Asks the source for a descriptor and opens the device at its layout. On failure the device is
given back. -/
def create (name : String) (device : δ) (source : ScreenSource) :
    Except (OutputError × δ) (Output δ) × ScreenSource :=
  match source.ask with
  | (.error reason, source) => (.error (.descriptorQuery reason, device), source)
  | (.ok descriptor, source) =>
    match descriptor.layout with
    | .error error => (.error (.invalidDescriptor error, device), source)
    | .ok layout =>
      match FramebufferDevice.openAt device layout with
      | (.error failure, device) => (.error (.storage failure, device), source)
      | (.ok (), device) =>
        (.ok { name, device, descriptor, layout, framebuffer := none, state := .unopened,
               timer := .ofRefresh descriptor.refreshMhz, pending := .none }, source)

/-- Maps the storage as a surface; a mapping of the wrong length is handed back. -/
def mapSurface (output : Output δ) : Except OutputError Unit × Output δ :=
  match FramebufferDevice.map output.device output.layout with
  | (.error failure, device) => (.error (.storage failure), { output with device })
  | (.ok mapping, device) =>
    match Surface.ofMemory output.layout mapping.memory with
    | .error error =>
      (.error (.surface error), { output with device := FramebufferDevice.unmap device mapping })
    | .ok surface =>
      (.ok (), { output with device, framebuffer := some ⟨mapping.token, surface⟩,
                             state := .mapped })

/-- Makes the output drawable, unless it is so already. -/
def enable (output : Output δ) : Except OutputError Unit × Output δ :=
  match output.state with
  | .destroyed => (.error (.destroyed output.name), output)
  | .mapped => (.ok (), output)
  | .unopened | .disabled => output.mapSurface

/-- Hands the mapping back, if there is one. -/
def release (output : Output δ) : Output δ :=
  match output.framebuffer with
  | none => output
  | some framebuffer =>
    { output with device := FramebufferDevice.unmap output.device framebuffer.mapping,
                  framebuffer := none }

/-- Takes a mapped output out of use; any other stays as it is. -/
def disable (output : Output δ) : Output δ :=
  if output.state = .mapped then { output.release with pending := .none, state := .disabled }
  else output

/-- Closes the storage and opens it at another layout. -/
def reopen (output : Output δ) (descriptor : ScreenDescriptor) (layout : Layout) :
    Except OutputError Unit × Output δ :=
  let closed :=
    { output with device := FramebufferDevice.close output.device, state := .unopened }
  match FramebufferDevice.openAt closed.device layout with
  | (.error failure, device) => (.error (.storage failure), { closed with device })
  | (.ok (), device) =>
    (.ok (), { closed with device, descriptor, layout,
                           timer := closed.timer.setRefresh descriptor.refreshMhz })

/-- Brings an output back in the mode that the descriptor names. -/
def adopt (output : Output δ) (fresh : ScreenDescriptor) :
    Except OutputError Reenabled × Output δ :=
  if fresh.sameMode output.descriptor then
    match ({ output with descriptor := fresh } : Output δ).enable with
    | (.error error, output) => (.error error, output)
    | (.ok (), output) => (.ok .remapped, output)
  else
    match fresh.layout with
    | .error error => (.error (.invalidDescriptor error), output)
    | .ok layout =>
      match output.reopen fresh layout with
      | (.error error, output) => (.error error, output)
      | (.ok (), output) =>
        match output.enable with
        | (.error error, output) => (.error error, output)
        | (.ok (), output) => (.ok .recreated, output)

/-- Brings an output back in the mode that the source now names. -/
def reenable (output : Output δ) (source : ScreenSource) :
    Except OutputError Reenabled × Output δ × ScreenSource :=
  match output.state with
  | .destroyed => (.error (.destroyed output.name), output, source)
  | .mapped => (.ok .alreadyMapped, output, source)
  | .unopened | .disabled =>
    match source.ask with
    | (.error reason, source) => (.error (.descriptorQuery reason), output, source)
    | (.ok fresh, source) =>
      let (result, output) := output.adopt fresh
      (result, output, source)

/-- Has the damage on the surface painted and arms the timer. -/
def repaint (output : Output δ) (damage : Damage) (renderer : Renderer) (now : Nat) :
    Except OutputError Repainted × Output δ × Renderer :=
  match output.framebuffer with
  | none => (.ok .dropped, output, renderer)
  | some framebuffer =>
    let visible := damage.clip output.layout.width output.layout.height
    let (result, surface, renderer) := renderer.paint framebuffer.surface visible
    let painted :=
      { output with framebuffer := some { framebuffer with surface },
                    device := FramebufferDevice.writeThrough output.device surface.memory,
                    timer := output.timer.arm now }
    match result with
    | .ok () => (.ok .painted, painted, renderer)
    | .error error =>
      (.error (.render error), { painted with pending := painted.pending.extend visible }, renderer)

/-- Tells the host to begin, with a time that is not that of a presentation. -/
def startRepaintLoop (output : Output δ) (host : Host) : Host :=
  host.finishFrame output.name .invalid

/-- Tells the host of a finished frame if the timer fires. -/
def dispatchTimer (output : Output δ) (now : Nat) (host : Host) : Bool × Output δ × Host :=
  match output.timer.poll now with
  | (false, _) => (false, output, host)
  | (true, timer) => (true, { output with timer }, host.finishFrame output.name .none)

/-- Keeps damage for the next repaint of a mapped output. -/
def addDamage (output : Output δ) (damage : Damage) : Output δ :=
  if output.state = .mapped then { output with pending := output.pending.extend damage }
  else output

/-- Keeps the whole output as damage. -/
def damageAll (output : Output δ) : Output δ :=
  output.addDamage (.full output.layout.width output.layout.height)

/-- Whether there is damage to be painted. -/
def hasPendingDamage (output : Output δ) : Bool :=
  !output.pending.isEmpty

/-- Takes the damage that is to be painted. -/
def takeDamage (output : Output δ) : Damage × Output δ :=
  (output.pending, { output with pending := .none })

/-- Has the damage painted that was kept. -/
def repaintPending (output : Output δ) (renderer : Renderer) (now : Nat) :
    Except OutputError Repainted × Output δ × Renderer :=
  let (damage, output) := output.takeDamage
  output.repaint damage renderer now

/-- Hands the mapping back and closes the storage, once. -/
def destroy (output : Output δ) : Output δ :=
  if output.state = .destroyed then output
  else
    let released := output.release
    { released with device := FramebufferDevice.close released.device, pending := .none,
                    state := .destroyed }

/-- What becomes of an output that nobody uses any more: it is destroyed, unless it was before. -/
def drop (output : Output δ) : Output δ :=
  if output.state = .destroyed then output else output.destroy

theorem state_destroy (output : Output δ) : output.destroy.state = .destroyed := by
  unfold destroy
  split
  · next hstate => exact hstate
  · rfl

/-- An output that is dropped is destroyed. -/
theorem drop_eq_destroy (output : Output δ) : output.drop = output.destroy := by
  unfold drop
  split
  · next hstate => rw [destroy, if_pos hstate]
  · rfl

/-- An output that was destroyed is left alone when it is dropped. -/
theorem drop_destroy (output : Output δ) : output.destroy.drop = output.destroy := by
  rw [drop, if_pos output.state_destroy]

end Output

end HeadlessDisplay
