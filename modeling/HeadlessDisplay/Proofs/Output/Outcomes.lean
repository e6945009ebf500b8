import HeadlessDisplay.Output.Lifecycle

/-!
# What the operations on an output can come to

Creating an output, mapping its storage, opening it anew, bringing the output back and repainting it
can each fail at several points, and what is left behind differs from point to point. This module
says once what these operations can come to: `CreateOutcome`, `MapOutcome`, `ReopenOutcome`,
`AdoptOutcome`, `ReenableOutcome` and `RepaintOutcome` have one case for each way through the
operation, with the answers of the device, the source or the renderer that lead there and the
output that is left. The invariants of outputs are derived from these cases and do not open the
operations themselves.
-/

set_option autoImplicit false
set_option relaxedAutoImplicit false

namespace HeadlessDisplay

namespace Output

variable {δ : Type} [FramebufferDevice δ]

/-- The output is neither mapped nor destroyed, so it can be enabled. -/
def Waiting (output : Output δ) : Prop :=
  output.state = .unopened ∨ output.state = .disabled

/-! ### Creation -/

/-- What creating an output over a device comes to. -/
inductive CreateOutcome (name : String) (device : δ) (source : ScreenSource) :
    Except (OutputError × δ) (Output δ) × ScreenSource → Prop
  /-- The source does not answer. -/
  | queryFailed {reason : String} (hanswer : source.answer source.asked = .error reason) :
      CreateOutcome name device source (.error (.descriptorQuery reason, device), source.ask.2)
  /-- The descriptor has no layout. -/
  | invalid {descriptor : ScreenDescriptor} {error : ScreenError}
      (hanswer : source.answer source.asked = .ok descriptor)
      (hlayout : descriptor.layout = .error error) :
      CreateOutcome name device source (.error (.invalidDescriptor error, device), source.ask.2)
  /-- The device cannot be opened at the layout. -/
  | openFailed {descriptor : ScreenDescriptor} {layout : Layout} {failure : StorageFailure}
      {left : δ} (hanswer : source.answer source.asked = .ok descriptor)
      (hlayout : descriptor.layout = .ok layout)
      (hopen : FramebufferDevice.openAt device layout = (.error failure, left)) :
      CreateOutcome name device source (.error (.storage failure, left), source.ask.2)
  /-- The device is open at the layout. -/
  | created {descriptor : ScreenDescriptor} {layout : Layout} {opened : δ}
      (hanswer : source.answer source.asked = .ok descriptor)
      (hlayout : descriptor.layout = .ok layout)
      (hopen : FramebufferDevice.openAt device layout = (.ok (), opened)) :
      CreateOutcome name device source
        (.ok { name, device := opened, descriptor, layout, framebuffer := none,
               state := .unopened, timer := .ofRefresh descriptor.refreshMhz,
               pending := .none }, source.ask.2)

/-- Creation comes to one of its outcomes. -/
theorem CreateOutcome.of_eq {name : String} {device : δ} {source : ScreenSource}
    {outcome : Except (OutputError × δ) (Output δ) × ScreenSource}
    (hcreate : create name device source = outcome) :
    CreateOutcome name device source outcome := by
  rw [← hcreate]
  unfold create ScreenSource.ask
  cases hanswer : source.answer source.asked with
  | error reason => exact .queryFailed hanswer
  | ok descriptor =>
    dsimp only
    cases hlayout : descriptor.layout with
    | error error => exact .invalid hanswer hlayout
    | ok layout =>
      dsimp only
      split
      · next failure left hopen => exact .openFailed hanswer hlayout hopen
      · next opened hopen => exact .created hanswer hlayout hopen

/-! ### Mapping -/

/-- What mapping the storage of an output comes to. -/
inductive MapOutcome (output : Output δ) : Except OutputError Unit × Output δ → Prop
  /-- The device does not map. -/
  | failed {failure : StorageFailure} {device : δ}
      (hmap : FramebufferDevice.map output.device output.layout = (.error failure, device)) :
      MapOutcome output (.error (.storage failure), { output with device })
  /-- The mapping has the wrong length and is handed back. -/
  | rejected {mapping : Mapping} {device : δ}
      (hmap : FramebufferDevice.map output.device output.layout = (.ok mapping, device))
      (hsize : mapping.memory.size ≠ output.layout.length) :
      MapOutcome output
        (.error (.surface (.lengthMismatch output.layout.length mapping.memory.size)),
          { output with device := FramebufferDevice.unmap device mapping })
  /-- The mapping is the surface from now on. -/
  | mapped {mapping : Mapping} {device : δ}
      (hmap : FramebufferDevice.map output.device output.layout = (.ok mapping, device))
      (hsize : mapping.memory.size = output.layout.length) :
      MapOutcome output
        (.ok (), { output with device, state := .mapped,
                               framebuffer := some ⟨mapping.token,
                                 ⟨output.layout, mapping.memory, hsize⟩⟩ })

/-- Mapping comes to one of its outcomes. -/
theorem MapOutcome.of_eq {output : Output δ} {outcome : Except OutputError Unit × Output δ}
    (hmap : output.mapSurface = outcome) : MapOutcome output outcome := by
  rw [← hmap]
  unfold mapSurface
  split
  · next failure device hmap => exact .failed hmap
  · next mapping device hmap =>
    unfold Surface.ofMemory
    by_cases hsize : mapping.memory.size = output.layout.length
    · rw [dif_pos hsize]
      exact .mapped hmap hsize
    · rw [dif_neg hsize]
      exact .rejected hmap hsize

theorem enable_of_waiting {output : Output δ} (hwaiting : output.Waiting) :
    output.enable = output.mapSurface := by
  rcases hwaiting with hstate | hstate <;> simp only [enable, hstate]

theorem enable_of_mapped {output : Output δ} (hstate : output.state = .mapped) :
    output.enable = (.ok (), output) := by
  simp only [enable, hstate]

/-- Enabling a waiting output comes to one of the outcomes of mapping. -/
theorem Waiting.mapOutcome {output : Output δ} (hwaiting : output.Waiting) :
    MapOutcome output output.enable := by
  rw [enable_of_waiting hwaiting]
  exact MapOutcome.of_eq rfl

/-! ### Opening anew -/

/-- What closing the storage of an output and opening it at another layout comes to. -/
inductive ReopenOutcome (output : Output δ) (descriptor : ScreenDescriptor) (layout : Layout) :
    Except OutputError Unit × Output δ → Prop
  /-- The device does not open; the mode of the output stays what it was. -/
  | failed {failure : StorageFailure} {device : δ}
      (hopen : FramebufferDevice.openAt (FramebufferDevice.close output.device) layout =
        (.error failure, device)) :
      ReopenOutcome output descriptor layout
        (.error (.storage failure), { output with device, state := .unopened })
  /-- The device is open at the layout, and the output has the new mode. -/
  | reopened {device : δ}
      (hopen : FramebufferDevice.openAt (FramebufferDevice.close output.device) layout =
        (.ok (), device)) :
      ReopenOutcome output descriptor layout
        (.ok (), { output with device, descriptor, layout, state := .unopened,
                               timer := output.timer.setRefresh descriptor.refreshMhz })

/-- Opening anew comes to one of its outcomes. -/
theorem ReopenOutcome.of_eq {output : Output δ} {descriptor : ScreenDescriptor} {layout : Layout}
    {outcome : Except OutputError Unit × Output δ}
    (hreopen : output.reopen descriptor layout = outcome) :
    ReopenOutcome output descriptor layout outcome := by
  rw [← hreopen]
  unfold reopen
  dsimp only
  split
  · next failure device hopen => exact .failed hopen
  · next device hopen => exact .reopened hopen

/-! ### Coming back -/

/-- What bringing an output back in the mode of a descriptor comes to. -/
inductive AdoptOutcome (output : Output δ) (fresh : ScreenDescriptor) :
    Except OutputError Reenabled × Output δ → Prop
  /-- The mode is unchanged and the storage cannot be mapped. -/
  | remapFailed {error : OutputError} {left : Output δ}
      (hsame : fresh.sameMode output.descriptor)
      (henable : ({ output with descriptor := fresh } : Output δ).enable = (.error error, left)) :
      AdoptOutcome output fresh (.error error, left)
  /-- The mode is unchanged and the storage is mapped again. -/
  | remapped {back : Output δ} (hsame : fresh.sameMode output.descriptor)
      (henable : ({ output with descriptor := fresh } : Output δ).enable = (.ok (), back)) :
      AdoptOutcome output fresh (.ok .remapped, back)
  /-- The mode changed to one without a layout. -/
  | invalid {error : ScreenError} (hchanged : ¬fresh.sameMode output.descriptor)
      (hlayout : fresh.layout = .error error) :
      AdoptOutcome output fresh (.error (.invalidDescriptor error), output)
  /-- The mode changed and the storage cannot be opened at its layout. -/
  | reopenFailed {layout : Layout} {error : OutputError} {left : Output δ}
      (hchanged : ¬fresh.sameMode output.descriptor) (hlayout : fresh.layout = .ok layout)
      (hreopen : output.reopen fresh layout = (.error error, left)) :
      AdoptOutcome output fresh (.error error, left)
  /-- The mode changed and the storage, open at its layout, cannot be mapped. -/
  | recreateFailed {layout : Layout} {reopened : Output δ} {error : OutputError} {left : Output δ}
      (hchanged : ¬fresh.sameMode output.descriptor) (hlayout : fresh.layout = .ok layout)
      (hreopen : output.reopen fresh layout = (.ok (), reopened))
      (henable : reopened.enable = (.error error, left)) :
      AdoptOutcome output fresh (.error error, left)
  /-- The mode changed and the storage is open at its layout and mapped. -/
  | recreated {layout : Layout} {reopened back : Output δ}
      (hchanged : ¬fresh.sameMode output.descriptor) (hlayout : fresh.layout = .ok layout)
      (hreopen : output.reopen fresh layout = (.ok (), reopened))
      (henable : reopened.enable = (.ok (), back)) :
      AdoptOutcome output fresh (.ok .recreated, back)

/-- Bringing an output back comes to one of its outcomes. -/
theorem AdoptOutcome.of_eq {output : Output δ} {fresh : ScreenDescriptor}
    {outcome : Except OutputError Reenabled × Output δ} (hadopt : output.adopt fresh = outcome) :
    AdoptOutcome output fresh outcome := by
  rw [← hadopt]
  unfold adopt
  by_cases hsame : fresh.sameMode output.descriptor
  · rw [if_pos hsame]
    split
    · next error left henable => exact .remapFailed hsame henable
    · next back henable => exact .remapped hsame henable
  · rw [if_neg hsame]
    split
    · next error hlayout => exact .invalid hsame hlayout
    · next layout hlayout =>
      split
      · next error left hreopen => exact .reopenFailed hsame hlayout hreopen
      · next reopened hreopen =>
        split
        · next error left henable => exact .recreateFailed hsame hlayout hreopen henable
        · next back henable => exact .recreated hsame hlayout hreopen henable

/-- What asking the source and bringing an output back comes to. -/
inductive ReenableOutcome (output : Output δ) (source : ScreenSource) :
    Except OutputError Reenabled × Output δ × ScreenSource → Prop
  /-- The output is destroyed. -/
  | destroyed (hstate : output.state = .destroyed) :
      ReenableOutcome output source (.error (.destroyed output.name), output, source)
  /-- The output is mapped already. -/
  | alreadyMapped (hstate : output.state = .mapped) :
      ReenableOutcome output source (.ok .alreadyMapped, output, source)
  /-- The source does not answer. -/
  | queryFailed {reason : String} (hwaiting : output.Waiting)
      (hanswer : source.answer source.asked = .error reason) :
      ReenableOutcome output source (.error (.descriptorQuery reason), output, source.ask.2)
  /-- The source answers with a descriptor. -/
  | answered {fresh : ScreenDescriptor} {result : Except OutputError Reenabled} {left : Output δ}
      (hwaiting : output.Waiting) (hanswer : source.answer source.asked = .ok fresh)
      (hadopt : AdoptOutcome output fresh (result, left)) :
      ReenableOutcome output source (result, left, source.ask.2)

/-- Asking the source and bringing an output back comes to one of its outcomes. -/
theorem ReenableOutcome.of_eq {output : Output δ} {source : ScreenSource}
    {outcome : Except OutputError Reenabled × Output δ × ScreenSource}
    (hreenable : output.reenable source = outcome) : ReenableOutcome output source outcome := by
  rw [← hreenable]
  have hwaiting (hwait : output.Waiting) (hreenable : output.reenable source =
      match source.answer source.asked with
      | .error reason => (.error (.descriptorQuery reason), output, source.ask.2)
      | .ok fresh => ((output.adopt fresh).1, (output.adopt fresh).2, source.ask.2)) :
      ReenableOutcome output source (output.reenable source) := by
    rw [hreenable]
    cases hanswer : source.answer source.asked with
    | error reason => exact .queryFailed hwait hanswer
    | ok fresh => exact .answered hwait hanswer (AdoptOutcome.of_eq rfl)
  cases hstate : output.state with
  | unopened =>
    apply hwaiting (.inl hstate)
    cases hanswer : source.answer source.asked <;>
      simp [reenable, hstate, ScreenSource.ask, hanswer]
  | disabled =>
    apply hwaiting (.inr hstate)
    cases hanswer : source.answer source.asked <;>
      simp [reenable, hstate, ScreenSource.ask, hanswer]
  | mapped =>
    simp only [reenable, hstate]
    exact .alreadyMapped hstate
  | destroyed =>
    simp only [reenable, hstate]
    exact .destroyed hstate

/-! ### Painting -/

/-- What repainting an output comes to. -/
inductive RepaintOutcome (output : Output δ) (damage : Damage) (renderer : Renderer) (now : Nat) :
    Except OutputError Repainted × Output δ × Renderer → Prop
  /-- There is no surface, and the renderer is not called. -/
  | dropped (hnone : output.framebuffer = none) :
      RepaintOutcome output damage renderer now (.ok .dropped, output, renderer)
  /-- The renderer paints the damage on the surface. -/
  | painted {framebuffer : Framebuffer} {surface : Surface} {after : Renderer}
      (hframebuffer : output.framebuffer = some framebuffer)
      (hpaint : renderer.paint framebuffer.surface
        (damage.clip output.layout.width output.layout.height) = (.ok (), surface, after)) :
      RepaintOutcome output damage renderer now
        (.ok .painted,
          { output with framebuffer := some { framebuffer with surface },
                        device := FramebufferDevice.writeThrough output.device surface.memory,
                        timer := output.timer.arm now },
          after)
  /-- The renderer fails, and the damage on the surface is kept. -/
  | failed {framebuffer : Framebuffer} {error : RenderError} {surface : Surface} {after : Renderer}
      (hframebuffer : output.framebuffer = some framebuffer)
      (hpaint : renderer.paint framebuffer.surface
        (damage.clip output.layout.width output.layout.height) = (.error error, surface, after)) :
      RepaintOutcome output damage renderer now
        (.error (.render error),
          { output with framebuffer := some { framebuffer with surface },
                        device := FramebufferDevice.writeThrough output.device surface.memory,
                        timer := output.timer.arm now,
                        pending := output.pending.extend
                          (damage.clip output.layout.width output.layout.height) },
          after)

/-- Repainting comes to one of its outcomes. -/
theorem RepaintOutcome.of_eq {output : Output δ} {damage : Damage} {renderer : Renderer}
    {now : Nat} {outcome : Except OutputError Repainted × Output δ × Renderer}
    (hrepaint : output.repaint damage renderer now = outcome) :
    RepaintOutcome output damage renderer now outcome := by
  rw [← hrepaint]
  unfold repaint
  split
  · next hnone => exact .dropped hnone
  · next framebuffer hframebuffer =>
    dsimp only
    generalize hpaint : renderer.paint framebuffer.surface
      (damage.clip output.layout.width output.layout.height) = painting
    obtain ⟨result, surface, after⟩ := painting
    cases result with
    | ok => exact .painted hframebuffer hpaint
    | error error => exact .failed hframebuffer hpaint

end Output

end HeadlessDisplay
