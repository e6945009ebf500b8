import HeadlessDisplay.Output.HeapStorage
import HeadlessDisplay.Proofs.Output.Coherence

/-!
# What holds of an output at every moment of its life

`Coherence` shows that the fields of an output tell one story along its life. This module adds what
is needed to say so of the fields one by one. Damage that was made up by reporting rectangles has
no empty one among them (`Damage.Proper`), and an output keeps only such damage if it is given only
such: what it puts back after a failure is what lay on the surface. A destroyed output stays as it
is to its device and its source, whatever it is asked to do (`Solo.retired_run`).

`coherent_life` states it of every moment in a life that began with a creation, after operations
that succeeded and after operations that failed.
-/

set_option autoImplicit false
set_option relaxedAutoImplicit false

namespace HeadlessDisplay

/-! ### Damage without empty rectangles -/

namespace Damage

/-- None of the rectangles is empty. -/
def Proper (damage : Damage) : Prop :=
  ∀ rect ∈ damage.rects, rect.isEmpty = false

theorem proper_none : none.Proper := by
  simp [Proper, none]

/-- Reporting a rectangle keeps damage proper, because an empty one is dropped. -/
theorem Proper.add {damage : Damage} (hproper : damage.Proper) (rect : Rect) :
    (damage.add rect).Proper := by
  unfold Damage.add
  split
  · exact hproper
  · next hempty =>
    have hempty : rect.isEmpty = false := Bool.not_eq_true _ ▸ hempty
    simpa [Proper, or_imp, forall_and] using ⟨hproper, hempty⟩

theorem Proper.extend {first second : Damage} (hfirst : first.Proper) (hsecond : second.Proper) :
    (first.extend second).Proper := by
  simpa [Proper, Damage.extend, or_imp, forall_and] using ⟨hfirst, hsecond⟩

/-- Damage made up by reporting rectangles is proper. -/
theorem proper_ofRects (rects : List Rect) : (ofRects rects).Proper := by
  have hfrom (start : Damage) (hstart : start.Proper) : (rects.foldl Damage.add start).Proper := by
    induction rects generalizing start with
    | nil => exact hstart
    | cons rect rest ih => exact ih (start.add rect) (hstart.add rect)
  exact hfrom none proper_none

theorem proper_full (width height : UInt32) : (full width height).Proper :=
  proper_none.add _

/-- What lies of any damage on a screen is proper. -/
theorem proper_clip (damage : Damage) (width height : UInt32) :
    (damage.clip width height).Proper :=
  fun _ hrect ↦ (within_of_mem_clip hrect).isEmpty_eq_false

end Damage

namespace Output

variable {δ : Type} [FramebufferDevice δ]

/-! ### What an output keeps of damage -/

theorem MapOutcome.pending_eq {output : Output δ} {outcome : Except OutputError Unit × Output δ}
    (houtcome : MapOutcome output outcome) : outcome.2.pending = output.pending := by
  cases houtcome <;> rfl

theorem ReopenOutcome.pending_eq {output : Output δ} {descriptor : ScreenDescriptor}
    {layout : Layout} {outcome : Except OutputError Unit × Output δ}
    (houtcome : ReopenOutcome output descriptor layout outcome) :
    outcome.2.pending = output.pending := by
  cases houtcome <;> rfl

/-- Enabling an output leaves its damage alone, whatever it comes to. -/
theorem pending_enable (output : Output δ) : output.enable.2.pending = output.pending := by
  have hmapped : output.mapSurface.2.pending = output.pending :=
    (MapOutcome.of_eq rfl).pending_eq
  unfold enable
  split
  · rfl
  · rfl
  · exact hmapped
  · exact hmapped

theorem pending_of_enable {output left : Output δ} {result : Except OutputError Unit}
    (henable : output.enable = (result, left)) : left.pending = output.pending := by
  simpa only [henable] using pending_enable output

theorem AdoptOutcome.pending_eq {output : Output δ} {fresh : ScreenDescriptor}
    {outcome : Except OutputError Reenabled × Output δ}
    (houtcome : AdoptOutcome output fresh outcome) : outcome.2.pending = output.pending := by
  cases houtcome with
  | remapFailed hsame henable =>
    have hkept := pending_of_enable henable
    exact hkept
  | remapped hsame henable =>
    have hkept := pending_of_enable henable
    exact hkept
  | invalid hchanged hlayout => rfl
  | reopenFailed hchanged hlayout hreopen => exact (ReopenOutcome.of_eq hreopen).pending_eq
  | recreateFailed hchanged hlayout hreopen henable =>
    exact (pending_of_enable henable).trans (ReopenOutcome.of_eq hreopen).pending_eq
  | recreated hchanged hlayout hreopen henable =>
    exact (pending_of_enable henable).trans (ReopenOutcome.of_eq hreopen).pending_eq

/-- Bringing an output back leaves its damage alone, whatever it comes to. -/
theorem pending_reenable (output : Output δ) (source : ScreenSource) :
    (output.reenable source).2.1.pending = output.pending := by
  generalize hreenable : output.reenable source = outcome
  cases ReenableOutcome.of_eq hreenable with
  | destroyed hstate => rfl
  | alreadyMapped hstate => rfl
  | queryFailed hwaiting hanswer => rfl
  | answered hwaiting hanswer hadopt => exact hadopt.pending_eq

/-- What is put back after a failure is what lay on the surface. -/
theorem proper_repaint {output : Output δ} (hproper : output.pending.Proper) (damage : Damage)
    (renderer : Renderer) (now : Nat) :
    (output.repaint damage renderer now).2.1.pending.Proper := by
  generalize hrepaint : output.repaint damage renderer now = outcome
  cases RepaintOutcome.of_eq hrepaint with
  | dropped hnone => exact hproper
  | painted hframebuffer hpaint => exact hproper
  | failed hframebuffer hpaint => exact hproper.extend (damage.proper_clip _ _)

omit [FramebufferDevice δ] in
theorem proper_addDamage {output : Output δ} (hproper : output.pending.Proper) {damage : Damage}
    (hdamage : damage.Proper) : (output.addDamage damage).pending.Proper := by
  unfold addDamage
  split
  · exact hproper.extend hdamage
  · exact hproper

/-! ### A destroyed output -/

omit [FramebufferDevice δ] in
/-- A destroyed output has no surface. -/
theorem Coherent.framebuffer_of_destroyed {output : Output δ} (hcoherent : output.Coherent)
    (hstate : output.state = .destroyed) : output.framebuffer = none :=
  hcoherent.framebuffer_eq_none (by rw [hstate]; decide)

theorem enable_of_destroyed {output : Output δ} (hstate : output.state = .destroyed) :
    output.enable = (.error (.destroyed output.name), output) := by
  simp only [enable, hstate]

theorem reenable_of_destroyed {output : Output δ} (hstate : output.state = .destroyed)
    (source : ScreenSource) :
    output.reenable source = (.error (.destroyed output.name), output, source) := by
  simp only [reenable, hstate]

/-- A request to repaint an output without a surface is dropped, and the renderer is not called. -/
theorem repaint_of_none {output : Output δ} (hnone : output.framebuffer = none) (damage : Damage)
    (renderer : Renderer) (now : Nat) :
    output.repaint damage renderer now = (.ok .dropped, output, renderer) := by
  simp only [repaint, hnone]

end Output

namespace Solo

variable {δ : Type} [FramebufferDevice δ]

/-- Each operation keeps the damage of an output proper, if the damage it records is so. -/
theorem proper_step {solo : Solo δ} (hproper : solo.output.pending.Proper) {step : OutputStep}
    (hrecorded : ∀ damage, step = .addDamage damage → damage.Proper) :
    (solo.step step).2.output.pending.Proper := by
  cases step with
  | enable => simpa only [Solo.step, Output.pending_enable] using hproper
  | disable =>
    simp only [Solo.step, Output.disable]
    split
    · exact Damage.proper_none
    · exact hproper
  | reenable => simpa only [Solo.step, Output.pending_reenable] using hproper
  | repaint damage now => exact Output.proper_repaint hproper damage solo.renderer now
  | repaintPending now =>
    have htaken : solo.output.takeDamage.2.pending.Proper := Damage.proper_none
    exact Output.proper_repaint htaken _ solo.renderer now
  | addDamage damage => exact Output.proper_addDamage hproper (hrecorded damage rfl)
  | damageAll => exact Output.proper_addDamage hproper (Damage.proper_full _ _)
  | takeDamage => exact Damage.proper_none
  | dispatchTimer now =>
    simp only [Solo.step, Output.dispatchTimer]
    split <;> exact hproper
  | startRepaintLoop => exact hproper
  | destroy =>
    simp only [Solo.step, Output.destroy]
    split
    · exact hproper
    · exact Damage.proper_none

/-- The damage of an output stays proper along its life, if the damage recorded is so. -/
theorem proper_run {solo : Solo δ} (hproper : solo.output.pending.Proper) {steps : List OutputStep}
    (hrecorded : ∀ damage, .addDamage damage ∈ steps → damage.Proper) :
    (solo.run steps).output.pending.Proper := by
  induction steps generalizing solo with
  | nil => exact hproper
  | cons step rest ih =>
    apply ih (proper_step hproper ?_)
    · intro damage hdamage
      exact hrecorded damage (.tail _ hdamage)
    · rintro damage rfl
      exact hrecorded damage (.head _)

/-- The output is destroyed, and so it has no surface. -/
structure Retired (solo : Solo δ) : Prop where
  coherent : solo.output.Coherent
  destroyed : solo.output.state = .destroyed

/-- No operation brings a destroyed output back or touches its device. -/
theorem retired_step {solo : Solo δ} (hretired : solo.Retired) (step : OutputStep) :
    (solo.step step).2.Retired ∧ (solo.step step).2.output.device = solo.output.device := by
  obtain ⟨hcoherent, hstate⟩ := hretired
  have hnone := hcoherent.framebuffer_of_destroyed hstate
  have hafter := coherent_step hcoherent step
  have hkept : (solo.step step).2.output.state = .destroyed ∧
      (solo.step step).2.output.device = solo.output.device := by
    cases step with
    | enable => simp [Solo.step, Output.enable_of_destroyed hstate, hstate]
    | disable => simp [Solo.step, Output.disable, hstate]
    | reenable => simp [Solo.step, Output.reenable_of_destroyed hstate, hstate]
    | repaint damage now => simp [Solo.step, Output.repaint_of_none hnone, hstate]
    | repaintPending now =>
      simp [Solo.step, Output.repaintPending, Output.takeDamage, Output.repaint_of_none, hnone,
        hstate]
    | addDamage damage => simp [Solo.step, Output.addDamage, hstate]
    | damageAll => simp [Solo.step, Output.damageAll, Output.addDamage, hstate]
    | takeDamage => simp [Solo.step, Output.takeDamage, hstate]
    | dispatchTimer now =>
      simp only [Solo.step, Output.dispatchTimer]
      split <;> simp [hstate]
    | startRepaintLoop => simp [Solo.step, hstate]
    | destroy => simp [Solo.step, Output.destroy, hstate]
  exact ⟨⟨hafter, hkept.1⟩, hkept.2⟩

/-- A destroyed output stays destroyed, and its device is not touched any more. -/
theorem retired_run {solo : Solo δ} (hretired : solo.Retired) (steps : List OutputStep) :
    (solo.run steps).Retired ∧ (solo.run steps).output.device = solo.output.device := by
  induction steps generalizing solo with
  | nil => exact ⟨hretired, rfl⟩
  | cons step rest ih =>
    obtain ⟨hnext, hdevice⟩ := retired_step hretired step
    obtain ⟨hlast, hrest⟩ := ih hnext
    exact ⟨hlast, hrest.trans hdevice⟩

end Solo

variable {δ : Type} [FramebufferDevice δ]

/-- At every moment in the life of an output, whatever has succeeded or failed before,

* there is a surface exactly while the output is mapped, and it has the output's layout and as many
  octets as that asks for,
* the layout is that of the descriptor, and the timer has the period of its refresh rate,
* damage is kept for a mapped output only, and none of its rectangles is empty if what was reported
  was made up by reporting rectangles,
* a destroyed output stays so; enabling it and bringing it back fail for this reason, and a request
  to repaint it is dropped without a call of the renderer. -/
theorem coherent_life {name : String} {device : δ} {source after : ScreenSource} {output : Output δ}
    (hcreate : Output.create name device source = (.ok output, after)) (renderer : Renderer)
    (host : Host) (steps : List OutputStep) :
    let reached := (Solo.mk output after renderer host).run steps
    let now := reached.output
    (now.state = .mapped ↔ now.framebuffer.isSome) ∧
    (∀ framebuffer, now.framebuffer = some framebuffer →
      framebuffer.surface.layout = now.layout ∧
        framebuffer.surface.memory.size = now.layout.length) ∧
    now.descriptor.layout = .ok now.layout ∧
    now.timer.interval = refreshInterval now.descriptor.refreshMhz ∧
    (now.state ≠ .mapped → now.pending = .none) ∧
    ((∀ damage, .addDamage damage ∈ steps → ∃ rects, damage = .ofRects rects) →
      ∀ rect ∈ now.pending.rects, rect.isEmpty = false) ∧
    (now.state = .destroyed →
      (∀ more, (reached.run more).output.state = .destroyed) ∧
      now.enable = (.error (.destroyed now.name), now) ∧
      (∀ screens, now.reenable screens = (.error (.destroyed now.name), now, screens)) ∧
      ∀ damage painter time, now.repaint damage painter time = (.ok .dropped, now, painter)) := by
  intro reached now
  have hbegun : output.Coherent := Output.coherent_create hcreate
  have hcoherent : now.Coherent := Solo.coherent_run hbegun steps
  refine ⟨hcoherent.mapped_iff, ?_, hcoherent.descriptor_layout, hcoherent.interval_eq,
    hcoherent.pending_eq, ?_, ?_⟩
  · intro framebuffer hframebuffer
    have hlayout := hcoherent.surface_layout framebuffer hframebuffer
    refine ⟨hlayout, ?_⟩
    rw [framebuffer.surface.size_eq, hlayout]
  · intro hreported
    have hnothing : (Solo.mk output after renderer host).output.pending.Proper := by
      cases Output.CreateOutcome.of_eq hcreate with
      | created hanswer hlayout hopen => exact Damage.proper_none
    apply Solo.proper_run hnothing
    intro damage hdamage
    obtain ⟨rects, rfl⟩ := hreported damage hdamage
    exact Damage.proper_ofRects rects
  · intro hstate
    have hretired : reached.Retired := ⟨hcoherent, hstate⟩
    refine ⟨fun more ↦ (Solo.retired_run hretired more).1.destroyed,
      Output.enable_of_destroyed hstate, Output.reenable_of_destroyed hstate, ?_⟩
    exact Output.repaint_of_none (hcoherent.framebuffer_of_destroyed hstate)

/-- An output that came back in a wider and slower mode, was damaged beyond its edge and could not
be repainted has a surface of the new size, the new period and one rectangle to paint. -/
theorem coherent_after_mode_change :
    let narrow := ScreenDescriptor.withSize 2 1
    let wide := { ScreenDescriptor.withSize 4 1 with refreshMhz := 50000 }
    let source : ScreenSource := ⟨fun asked ↦ .ok (if asked = 0 then narrow else wide), 0⟩
    let renderer := Renderer.solid Renderer.defaultColor fun _ ↦ some ⟨"no surface"⟩
    let damage := Damage.ofRects [⟨-1, 0, 2, 9⟩, ⟨0, 0, 0, 5⟩]
    let steps := [.enable, .disable, .reenable, .addDamage damage, .repaintPending 0]
    ∃ output after, Output.create "main" HeapStorage.working source = (.ok output, after) ∧
      let now := ((Solo.mk output after renderer (.atTime 0)).run steps).output
      now.state = .mapped ∧ now.timer.interval = 20000 ∧ now.pending.rects.length = 1 ∧
        (∃ framebuffer, now.framebuffer = some framebuffer ∧
          framebuffer.surface.memory.size = 16) ∧
        ∀ rect ∈ now.pending.rects, rect.isEmpty = false := by
  intro narrow wide source renderer damage steps
  have hcreate : Output.create "main" HeapStorage.working source = (.ok _, _) := rfl
  refine ⟨_, _, hcreate, ?_⟩
  intro now
  have hstate : now.state = .mapped := by decide +kernel
  have hrefresh : now.descriptor.refreshMhz = 50000 := by decide +kernel
  have hlength : now.layout.length = 16 := by decide +kernel
  have hcount : now.pending.rects.length = 1 := by decide +kernel
  have hreported : ∀ damage, .addDamage damage ∈ steps → ∃ rects, damage = .ofRects rects := by
    intro other hother
    simp only [steps, List.mem_cons, reduceCtorEq, OutputStep.addDamage.injEq, false_or,
      List.not_mem_nil, or_false] at hother
    exact ⟨_, hother⟩
  simp only [now] at hstate hrefresh hlength hcount ⊢
  obtain ⟨hmapped, hsurface, -, hinterval, -, hproper, -⟩ :=
    coherent_life hcreate renderer (.atTime 0) steps
  obtain ⟨framebuffer, hframebuffer⟩ := Option.isSome_iff_exists.mp (hmapped.mp hstate)
  have hsize := (hsurface framebuffer hframebuffer).2
  rw [hlength] at hsize
  rw [hrefresh] at hinterval
  exact ⟨hstate, hinterval, hcount, ⟨framebuffer, hframebuffer, hsize⟩, hproper hreported⟩

end HeadlessDisplay
