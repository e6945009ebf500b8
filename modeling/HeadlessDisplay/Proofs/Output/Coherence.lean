import HeadlessDisplay.Output.Solo
import HeadlessDisplay.Proofs.Output.Outcomes
import HeadlessDisplay.Proofs.Screen.Layouts
import HeadlessDisplay.Proofs.Screen.Pixels

/-!
# Coherence of an output

The fields of an output tell one story, whatever has failed before. A surface is there exactly
while the output is mapped, and it has the output's layout; the layout is that of the descriptor;
the frame timer has the period of the descriptor's refresh rate; and damage is kept for a mapped
output only. `Coherent` collects these facts, `coherent_create` starts them and each operation
keeps them, with any device, source and renderer. `coherent_run` is the invariant along the life
of one output, continued after operations that failed.
-/

set_option autoImplicit false
set_option relaxedAutoImplicit false

namespace HeadlessDisplay

/-- Two descriptors that agree in everything but the identifier have one refresh rate. -/
theorem ScreenDescriptor.refreshMhz_eq_of_sameMode {first second : ScreenDescriptor}
    (hsame : first.sameMode second) : first.refreshMhz = second.refreshMhz := by
  have hequal : { first with id := second.id } = second := of_decide_eq_true hsame
  rw [← hequal]

@[simp] theorem FrameTimer.interval_poll (timer : FrameTimer) (now : Nat) :
    (timer.poll now).2.interval = timer.interval := by
  unfold FrameTimer.poll
  split <;> rfl

namespace Output

variable {δ : Type}

/-- The fields of an output tell one story. -/
structure Coherent (output : Output δ) : Prop where
  /-- A surface is there exactly while the output is mapped. -/
  mapped_iff : output.state = .mapped ↔ output.framebuffer.isSome
  /-- The surface has the layout of the output. -/
  surface_layout : ∀ framebuffer, output.framebuffer = some framebuffer →
    framebuffer.surface.layout = output.layout
  /-- The layout is that of the descriptor. -/
  descriptor_layout : output.descriptor.layout = .ok output.layout
  /-- The timer has the period of the descriptor's refresh rate. -/
  interval_eq : output.timer.interval = refreshInterval output.descriptor.refreshMhz
  /-- Damage is kept for a mapped output only. -/
  pending_eq : output.state ≠ .mapped → output.pending = .none

theorem Waiting.state_ne_mapped {output : Output δ} (hwaiting : output.Waiting) :
    output.state ≠ .mapped := by
  rcases hwaiting with hstate | hstate <;> rw [hstate] <;> decide

theorem waiting_of_state_ne {output : Output δ} (hmapped : output.state ≠ .mapped)
    (hdestroyed : output.state ≠ .destroyed) : output.Waiting := by
  cases hstate : output.state with
  | unopened => exact .inl hstate
  | disabled => exact .inr hstate
  | mapped => exact absurd hstate hmapped
  | destroyed => exact absurd hstate hdestroyed

namespace Coherent

variable {output : Output δ}

/-- A coherent output that is not mapped has no surface. -/
theorem framebuffer_eq_none (hcoherent : output.Coherent) (hstate : output.state ≠ .mapped) :
    output.framebuffer = none := by
  rw [← Option.not_isSome_iff_eq_none, ← hcoherent.mapped_iff]
  exact hstate

/-- A coherent output that is mapped has a surface of its layout. -/
theorem exists_framebuffer (hcoherent : output.Coherent) (hstate : output.state = .mapped) :
    ∃ framebuffer, output.framebuffer = some framebuffer ∧
      framebuffer.surface.layout = output.layout := by
  obtain ⟨framebuffer, hframebuffer⟩ := Option.isSome_iff_exists.mp (hcoherent.mapped_iff.mp hstate)
  exact ⟨framebuffer, hframebuffer, hcoherent.surface_layout framebuffer hframebuffer⟩

/-- A descriptor of the same mode keeps an output coherent. -/
theorem withDescriptor (hcoherent : output.Coherent) {fresh : ScreenDescriptor}
    (hsame : fresh.sameMode output.descriptor) :
    ({ output with descriptor := fresh } : Output δ).Coherent :=
  { hcoherent with
    descriptor_layout := by
      rw [ScreenDescriptor.layout_eq_of_sameMode hsame, hcoherent.descriptor_layout]
    interval_eq := by
      rw [ScreenDescriptor.refreshMhz_eq_of_sameMode hsame, hcoherent.interval_eq] }

/-- Other damage keeps a mapped output coherent. -/
theorem withPending (hcoherent : output.Coherent)
    (hstate : output.state = .mapped) (damage : Damage) :
    ({ output with pending := damage } : Output δ).Coherent :=
  { hcoherent with pending_eq := fun hidle ↦ absurd hstate hidle }

end Coherent

/-! ### Damage and timer -/

@[simp] theorem state_damageAll (output : Output δ) : output.damageAll.state = output.state := by
  unfold damageAll addDamage
  split <;> rfl

@[simp] theorem state_dispatchTimer (output : Output δ) (now : Nat) (host : Host) :
    (output.dispatchTimer now host).2.1.state = output.state := by
  unfold dispatchTimer
  split <;> rfl

theorem coherent_addDamage {output : Output δ} (hcoherent : output.Coherent) (damage : Damage) :
    (output.addDamage damage).Coherent := by
  unfold addDamage
  by_cases hstate : output.state = .mapped
  · rw [if_pos hstate]
    exact hcoherent.withPending hstate _
  · rwa [if_neg hstate]

theorem coherent_damageAll {output : Output δ} (hcoherent : output.Coherent) :
    output.damageAll.Coherent :=
  coherent_addDamage hcoherent _

theorem coherent_takeDamage {output : Output δ} (hcoherent : output.Coherent) :
    output.takeDamage.2.Coherent :=
  { hcoherent with pending_eq := fun _ ↦ rfl }

theorem coherent_dispatchTimer {output : Output δ} (hcoherent : output.Coherent) (now : Nat)
    (host : Host) : (output.dispatchTimer now host).2.1.Coherent := by
  unfold dispatchTimer
  split
  · exact hcoherent
  · next timer hpoll =>
    have hinterval : timer.interval = output.timer.interval := by
      rw [← output.timer.interval_poll now, hpoll]
    exact { hcoherent with interval_eq := hinterval.trans hcoherent.interval_eq }

variable [FramebufferDevice δ]

/-! ### Creation and activation -/

/-- An output is coherent when it has been created. -/
theorem coherent_create {name : String} {device : δ} {source after : ScreenSource}
    {output : Output δ} (hcreate : create name device source = (.ok output, after)) :
    output.Coherent := by
  cases CreateOutcome.of_eq hcreate with
  | created hanswer hlayout hopen => exact ⟨by simp, by simp, hlayout, rfl, fun _ ↦ rfl⟩

/-- Mapping keeps an output coherent, whatever it comes to. -/
theorem MapOutcome.coherent {output : Output δ} {outcome : Except OutputError Unit × Output δ}
    (houtcome : MapOutcome output outcome) (hcoherent : output.Coherent)
    (hwaiting : output.Waiting) : outcome.2.Coherent := by
  have hidle := hcoherent.pending_eq hwaiting.state_ne_mapped
  cases houtcome with
  | failed hmap => exact { hcoherent with }
  | rejected hmap hsize => exact { hcoherent with }
  | mapped hmap hsize =>
    exact { hcoherent with
      mapped_iff := by simp
      surface_layout := by simp
      pending_eq := fun _ ↦ hidle }

/-- What has been opened anew waits, whatever that came to. -/
theorem ReopenOutcome.waiting {output : Output δ} {descriptor : ScreenDescriptor}
    {layout : Layout} {outcome : Except OutputError Unit × Output δ}
    (houtcome : ReopenOutcome output descriptor layout outcome) : outcome.2.Waiting := by
  cases houtcome <;> exact .inl rfl

/-- Opening anew keeps an output coherent, whatever it comes to. -/
theorem ReopenOutcome.coherent {output : Output δ} {descriptor : ScreenDescriptor}
    {layout : Layout} {outcome : Except OutputError Unit × Output δ}
    (houtcome : ReopenOutcome output descriptor layout outcome) (hcoherent : output.Coherent)
    (hwaiting : output.Waiting) (hlayout : descriptor.layout = .ok layout) :
    outcome.2.Coherent := by
  have hidle := hcoherent.pending_eq hwaiting.state_ne_mapped
  have hnone := hcoherent.framebuffer_eq_none hwaiting.state_ne_mapped
  cases houtcome with
  | failed hopen =>
    exact { hcoherent with
      mapped_iff := by simp [hnone]
      pending_eq := fun _ ↦ hidle }
  | reopened hopen =>
    exact
      { mapped_iff := by simp [hnone]
        surface_layout := by simp [hnone]
        descriptor_layout := hlayout
        interval_eq := rfl
        pending_eq := fun _ ↦ hidle }

theorem coherent_enable {output : Output δ} (hcoherent : output.Coherent) :
    output.enable.2.Coherent := by
  cases hstate : output.state with
  | unopened => exact (Waiting.mapOutcome (.inl hstate)).coherent hcoherent (.inl hstate)
  | disabled => exact (Waiting.mapOutcome (.inr hstate)).coherent hcoherent (.inr hstate)
  | mapped => rwa [enable_of_mapped hstate]
  | destroyed => simpa only [enable, hstate] using hcoherent

theorem Coherent.of_enable {output left : Output δ} {result : Except OutputError Unit}
    (hcoherent : output.Coherent) (henable : output.enable = (result, left)) : left.Coherent := by
  simpa only [henable] using coherent_enable hcoherent

/-- Coming back keeps an output coherent, whatever it comes to. -/
theorem AdoptOutcome.coherent {output : Output δ} {fresh : ScreenDescriptor}
    {outcome : Except OutputError Reenabled × Output δ}
    (houtcome : AdoptOutcome output fresh outcome) (hcoherent : output.Coherent)
    (hwaiting : output.Waiting) : outcome.2.Coherent := by
  cases houtcome with
  | remapFailed hsame henable => exact (hcoherent.withDescriptor hsame).of_enable henable
  | remapped hsame henable => exact (hcoherent.withDescriptor hsame).of_enable henable
  | invalid hchanged hlayout => exact hcoherent
  | reopenFailed hchanged hlayout hreopen =>
    exact (ReopenOutcome.of_eq hreopen).coherent hcoherent hwaiting hlayout
  | recreateFailed hchanged hlayout hreopen henable =>
    have hreopened := (ReopenOutcome.of_eq hreopen).coherent hcoherent hwaiting hlayout
    exact hreopened.of_enable henable
  | recreated hchanged hlayout hreopen henable =>
    have hreopened := (ReopenOutcome.of_eq hreopen).coherent hcoherent hwaiting hlayout
    exact hreopened.of_enable henable

/-- Asking the source and coming back keeps an output coherent, whatever it comes to. -/
theorem ReenableOutcome.coherent {output : Output δ} {source : ScreenSource}
    {outcome : Except OutputError Reenabled × Output δ × ScreenSource}
    (houtcome : ReenableOutcome output source outcome) (hcoherent : output.Coherent) :
    outcome.2.1.Coherent := by
  cases houtcome with
  | destroyed hstate => exact hcoherent
  | alreadyMapped hstate => exact hcoherent
  | queryFailed hwaiting hanswer => exact hcoherent
  | answered hwaiting hanswer hadopt => exact hadopt.coherent hcoherent hwaiting

theorem coherent_reenable {output : Output δ} (hcoherent : output.Coherent)
    (source : ScreenSource) : (output.reenable source).2.1.Coherent :=
  (ReenableOutcome.of_eq rfl).coherent hcoherent

theorem Coherent.of_reenable {output left : Output δ} {source after : ScreenSource}
    {result : Except OutputError Reenabled} (hcoherent : output.Coherent)
    (hreenable : output.reenable source = (result, left, after)) : left.Coherent := by
  simpa only [hreenable] using coherent_reenable hcoherent source

/-! ### Use and teardown -/

theorem state_disable_ne_mapped (output : Output δ) : output.disable.state ≠ .mapped := by
  unfold disable
  split
  · simp
  · next hstate => exact hstate

theorem coherent_disable {output : Output δ} (hcoherent : output.Coherent) :
    output.disable.Coherent := by
  unfold disable
  by_cases hstate : output.state = .mapped
  · obtain ⟨framebuffer, hframebuffer, -⟩ := hcoherent.exists_framebuffer hstate
    rw [if_pos hstate]
    simp only [release, hframebuffer]
    exact { hcoherent with
      mapped_iff := by simp
      surface_layout := by simp
      pending_eq := fun _ ↦ rfl }
  · rwa [if_neg hstate]

theorem coherent_destroy {output : Output δ} (hcoherent : output.Coherent) :
    output.destroy.Coherent := by
  unfold destroy
  by_cases hstate : output.state = .destroyed
  · rwa [if_pos hstate]
  · rw [if_neg hstate]
    unfold release
    split
    · next hnone =>
      exact { hcoherent with
        mapped_iff := by simp [hnone]
        pending_eq := fun _ ↦ rfl }
    · exact { hcoherent with
        mapped_iff := by simp
        surface_layout := by simp
        pending_eq := fun _ ↦ rfl }

/-- A surface of the same layout keeps an output coherent, and so does arming the timer. -/
theorem Coherent.withSurface {output : Output δ} (hcoherent : output.Coherent)
    {framebuffer : Framebuffer} (hframebuffer : output.framebuffer = some framebuffer)
    {surface : Surface} (hlayout : surface.layout = framebuffer.surface.layout) (now : Nat) :
    ({ output with framebuffer := some { framebuffer with surface },
                   device := FramebufferDevice.writeThrough output.device surface.memory,
                   timer := output.timer.arm now } : Output δ).Coherent :=
  { hcoherent with
    mapped_iff := by rw [hcoherent.mapped_iff, hframebuffer]; rfl
    surface_layout := by
      rintro _ ⟨⟩
      exact hlayout.trans (hcoherent.surface_layout framebuffer hframebuffer) }

/-- Painting keeps the layout of the surface, whatever it comes to. -/
theorem layout_of_paint {renderer after : Renderer} {surface painted : Surface} {damage : Damage}
    {result : Except RenderError Unit}
    (hpaint : renderer.paint surface damage = (result, painted, after)) :
    painted.layout = surface.layout := by
  simpa only [hpaint] using Surface.layout_paint renderer surface damage

/-- Repainting keeps an output coherent, whatever it comes to. -/
theorem RepaintOutcome.coherent {output : Output δ} {damage : Damage} {renderer : Renderer}
    {now : Nat} {outcome : Except OutputError Repainted × Output δ × Renderer}
    (houtcome : RepaintOutcome output damage renderer now outcome) (hcoherent : output.Coherent) :
    outcome.2.1.Coherent := by
  cases houtcome with
  | dropped hnone => exact hcoherent
  | painted hframebuffer hpaint =>
    exact hcoherent.withSurface hframebuffer (layout_of_paint hpaint) now
  | failed hframebuffer hpaint =>
    refine (hcoherent.withSurface hframebuffer (layout_of_paint hpaint) now).withPending ?_ _
    exact hcoherent.mapped_iff.mpr (by simp [hframebuffer])

/-- Repainting keeps an output coherent, whether or not the renderer succeeds. -/
theorem coherent_repaint {output : Output δ} (hcoherent : output.Coherent) (damage : Damage)
    (renderer : Renderer) (now : Nat) : (output.repaint damage renderer now).2.1.Coherent :=
  (RepaintOutcome.of_eq rfl).coherent hcoherent

end Output

namespace Solo

variable {δ : Type} [FramebufferDevice δ]

theorem coherent_step {solo : Solo δ} (hcoherent : solo.output.Coherent) (step : OutputStep) :
    (solo.step step).2.output.Coherent := by
  cases step with
  | enable => exact Output.coherent_enable hcoherent
  | disable => exact Output.coherent_disable hcoherent
  | reenable => exact Output.coherent_reenable hcoherent solo.source
  | repaint damage now => exact Output.coherent_repaint hcoherent damage solo.renderer now
  | repaintPending now =>
    exact Output.coherent_repaint (Output.coherent_takeDamage hcoherent) _ solo.renderer now
  | addDamage damage => exact Output.coherent_addDamage hcoherent damage
  | damageAll => exact Output.coherent_damageAll hcoherent
  | takeDamage => exact Output.coherent_takeDamage hcoherent
  | dispatchTimer now => exact Output.coherent_dispatchTimer hcoherent now solo.host
  | startRepaintLoop => exact hcoherent
  | destroy => exact Output.coherent_destroy hcoherent

/-- An output stays coherent along its life. -/
theorem coherent_run {solo : Solo δ} (hcoherent : solo.output.Coherent) (steps : List OutputStep) :
    (solo.run steps).output.Coherent := by
  induction steps generalizing solo with
  | nil => exact hcoherent
  | cons step rest ih => exact ih (coherent_step hcoherent step)

end Solo

end HeadlessDisplay
