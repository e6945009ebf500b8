import HeadlessDisplay.Output.HeapStorage
import HeadlessDisplay.Proofs.Backend.Laws
import HeadlessDisplay.Proofs.Output.Coherence

/-!
# No damage is lost

Damage of a mapped output is taken, cut to the surface and given to the renderer, and is put back
when the renderer fails. `Solo.Carries` is what this comes to from one moment to a later one: a
pixel that was to be painted is still to be painted, or a call made in between covered it and
succeeded. It is a statement about the pixels covered, which cutting and putting back respect,
and not about the list of rectangles, which they do not. Each operation but those that take damage
away has it (`carries_step`), it is transitive, and so every run has it (`carries_run`).

`damage_kept` states this for damage that is recorded at any moment in the life of an output at
which it is mapped. The request to repaint is then never dropped, because a mapped output has a
surface (`repaintPending_ne_dropped`).
-/

set_option autoImplicit false
set_option relaxedAutoImplicit false

namespace HeadlessDisplay

namespace OutputStep

/-- The operation does not take away what is to be painted of a mapped output. -/
def keepsDamage : OutputStep → Bool
  | .disable | .destroy | .takeDamage => false
  | .enable | .reenable | .repaint .. | .repaintPending _ | .addDamage _ | .damageAll
  | .dispatchTimer _ | .startRepaintLoop => true

/-- The damage that the operation records of a mapped output with the given layout. -/
def recorded (layout : Layout) : OutputStep → Damage
  | .addDamage damage => damage
  | .damageAll => .full layout.width layout.height
  | .enable | .disable | .reenable | .repaint .. | .repaintPending _ | .takeDamage
  | .dispatchTimer _ | .startRepaintLoop | .destroy => .none

end OutputStep

namespace Renderer

/-- A call that succeeds is put on record. -/
theorem calls_of_paint_ok {renderer after : Renderer} {surface painted : Surface} {damage : Damage}
    (hpaint : renderer.paint surface damage = (.ok (), painted, after)) :
    after.calls = renderer.calls ++ [⟨damage, true⟩] := by
  unfold paint at hpaint
  dsimp only at hpaint
  split at hpaint
  · simp at hpaint
  · next hnone =>
    simp only [Prod.mk.injEq] at hpaint
    obtain ⟨-, -, rfl⟩ := hpaint
    simp [hnone]

/-- A call that fails is put on record. -/
theorem calls_of_paint_error {renderer after : Renderer} {surface painted : Surface}
    {damage : Damage} {error : RenderError}
    (hpaint : renderer.paint surface damage = (.error error, painted, after)) :
    after.calls = renderer.calls ++ [⟨damage, false⟩] := by
  unfold paint at hpaint
  dsimp only at hpaint
  split at hpaint
  · next hsome =>
    simp only [Prod.mk.injEq] at hpaint
    obtain ⟨-, -, rfl⟩ := hpaint
    simp [hsome]
  · simp at hpaint

end Renderer

namespace Output

variable {δ : Type} [FramebufferDevice δ]

/-- A request to repaint a mapped output is not dropped. -/
theorem repaintPending_ne_dropped {output : Output δ} (hcoherent : output.Coherent)
    (hstate : output.state = .mapped) (renderer : Renderer) (now : Nat) :
    (output.repaintPending renderer now).1 ≠ .ok .dropped := by
  obtain ⟨framebuffer, hframebuffer, -⟩ := hcoherent.exists_framebuffer hstate
  generalize hrepaint : output.repaintPending renderer now = outcome
  have houtcome : RepaintOutcome output.takeDamage.2 output.pending renderer now outcome :=
    .of_eq hrepaint
  cases houtcome with
  | dropped hnone => exact absurd (hframebuffer.symm.trans hnone) (by simp)
  | painted hframebuffer hpaint => simp
  | failed hframebuffer hpaint => simp

end Output

namespace Solo

variable {δ : Type}

/-- From one moment to a later one, with the given calls of the renderer in between, the output
stays mapped and nothing that was to be painted is lost. -/
structure Carries (before : Solo δ) (made : List RenderCall) (after : Solo δ) : Prop where
  mapped : after.output.state = .mapped
  layout_eq : after.output.layout = before.output.layout
  calls_eq : after.renderer.calls = before.renderer.calls ++ made
  /-- The renderer is given parts of the surface only. -/
  within : ∀ call ∈ made, ∀ rect ∈ call.damage.rects,
    rect.Within before.output.layout.width before.output.layout.height
  /-- A pixel to be painted is still to be painted or has been painted. -/
  kept : ∀ column row,
    Rect.OnScreen before.output.layout.width before.output.layout.height column row →
      before.output.pending.Covers column row →
        after.output.pending.Covers column row ∨
          ∃ call ∈ made, call.succeeded ∧ call.damage.Covers column row

/-- Nothing is lost if nothing is painted and nothing taken away. -/
theorem carries_of_pending {before after : Solo δ} (hmapped : after.output.state = .mapped)
    (hlayout : after.output.layout = before.output.layout)
    (hrenderer : after.renderer = before.renderer)
    (hpending : ∀ column row, before.output.pending.Covers column row →
      after.output.pending.Covers column row) : before.Carries [] after where
  mapped := hmapped
  layout_eq := hlayout
  calls_eq := by rw [hrenderer, List.append_nil]
  within := by simp
  kept column row _ hcovers := .inl (hpending column row hcovers)

/-- What is kept from one moment to the next, and from there to a third, is kept. -/
theorem Carries.trans {first second third : Solo δ} {early late : List RenderCall}
    (hfirst : first.Carries early second) (hsecond : second.Carries late third) :
    first.Carries (early ++ late) third where
  mapped := hsecond.mapped
  layout_eq := hsecond.layout_eq.trans hfirst.layout_eq
  calls_eq := by rw [hsecond.calls_eq, hfirst.calls_eq, List.append_assoc]
  within := by
    intro call hcall
    rcases List.mem_append.mp hcall with hearly | hlate
    · exact hfirst.within call hearly
    · rw [← hfirst.layout_eq]
      exact hsecond.within call hlate
  kept := by
    intro column row hon hcovers
    rcases hfirst.kept column row hon hcovers with hpending | ⟨call, hcall, hpainted⟩
    · rw [← hfirst.layout_eq] at hon
      apply (hsecond.kept column row hon hpending).imp_right
      rintro ⟨call, hcall, hpainted⟩
      exact ⟨call, List.mem_append_right _ hcall, hpainted⟩
    · exact .inr ⟨call, List.mem_append_left _ hcall, hpainted⟩

/-- Recording damage takes nothing away. -/
theorem carries_addDamage {solo : Solo δ} (hmapped : solo.output.state = .mapped)
    (damage : Damage) : solo.Carries [] { solo with output := solo.output.addDamage damage } := by
  have hadded : solo.output.addDamage damage =
      { solo.output with pending := solo.output.pending.extend damage } := by
    rw [Output.addDamage, if_pos hmapped]
  rw [hadded]
  refine carries_of_pending hmapped rfl rfl ?_
  intro column row hcovers
  rw [Damage.covers_extend]
  exact .inl hcovers

variable [FramebufferDevice δ]

/-- Nothing is lost when damage is painted of an output with other damage pending, if together they
are what was pending before. -/
theorem carries_repaint {solo after : Solo δ} (output : Output δ) (damage : Damage) (now : Nat)
    (hmapped : output.state = .mapped) (hcoherent : output.Coherent)
    (hlayout : output.layout = solo.output.layout)
    (hpending : ∀ column row, solo.output.pending.Covers column row →
      output.pending.Covers column row ∨ damage.Covers column row)
    (hafter : after = { solo with output := (output.repaint damage solo.renderer now).2.1,
                                  renderer := (output.repaint damage solo.renderer now).2.2 }) :
    ∃ made, solo.Carries made after := by
  obtain ⟨framebuffer, hframebuffer, -⟩ := hcoherent.exists_framebuffer hmapped
  generalize hrepaint : output.repaint damage solo.renderer now = outcome at hafter
  have houtcome := Output.RepaintOutcome.of_eq hrepaint
  subst hafter
  -- What the renderer is given is what was pending, but for pixels off the surface.
  have hvisible {column row : Int}
      (hon : Rect.OnScreen solo.output.layout.width solo.output.layout.height column row)
      (hcovers : damage.Covers column row) :
      (damage.clip output.layout.width output.layout.height).Covers column row := by
    rw [hlayout]
    exact (Damage.covers_clip_of_onScreen hon damage).mpr hcovers
  have hwithin : ∀ rect ∈ (damage.clip output.layout.width output.layout.height).rects,
      rect.Within solo.output.layout.width solo.output.layout.height := by
    intro rect hrect
    rw [← hlayout]
    exact Damage.within_of_mem_clip hrect
  cases houtcome with
  | dropped hnone =>
    rw [hframebuffer] at hnone
    simp at hnone
  | @painted _ surface renderer hframebuffer hpaint =>
    refine ⟨[⟨damage.clip output.layout.width output.layout.height, true⟩], ?_⟩
    refine ⟨hmapped, hlayout, Renderer.calls_of_paint_ok hpaint, by simpa using hwithin, ?_⟩
    intro column row hon hcovers
    apply (hpending column row hcovers).imp_right
    intro hpainted
    exact ⟨_, List.mem_singleton_self _, rfl, hvisible hon hpainted⟩
  | @failed _ error surface renderer hframebuffer hpaint =>
    refine ⟨[⟨damage.clip output.layout.width output.layout.height, false⟩], ?_⟩
    refine ⟨hmapped, hlayout, Renderer.calls_of_paint_error hpaint, by simpa using hwithin, ?_⟩
    intro column row hon hcovers
    left
    rw [Damage.covers_extend]
    apply (hpending column row hcovers).imp_right
    intro hput
    exact hvisible hon hput

/-- No operation but those that take damage away loses anything of a mapped output. -/
theorem carries_step {solo : Solo δ} (hcoherent : solo.output.Coherent)
    (hmapped : solo.output.state = .mapped) {step : OutputStep} (hkeeps : step.keepsDamage) :
    ∃ made, solo.Carries made (solo.step step).2 := by
  cases step with
  | enable =>
    refine ⟨[], carries_of_pending ?_ ?_ rfl ?_⟩ <;>
      simp [Solo.step, Output.enable_of_mapped hmapped, hmapped]
  | reenable =>
    refine ⟨[], carries_of_pending ?_ ?_ rfl ?_⟩ <;>
      simp [Solo.step, Output.reenable, hmapped]
  | repaint damage now =>
    exact carries_repaint solo.output damage now hmapped hcoherent rfl (fun _ _ ↦ .inl) rfl
  | repaintPending now =>
    exact carries_repaint solo.output.takeDamage.2 solo.output.pending now hmapped
      (Output.coherent_takeDamage hcoherent) rfl (fun _ _ ↦ .inr) rfl
  | addDamage damage => exact ⟨[], carries_addDamage hmapped damage⟩
  | damageAll => exact ⟨[], carries_addDamage hmapped _⟩
  | dispatchTimer now =>
    refine ⟨[], carries_of_pending ?_ ?_ rfl ?_⟩ <;>
      simp only [Solo.step, Output.dispatchTimer] <;> split <;> simp [hmapped]
  | startRepaintLoop => exact ⟨[], carries_of_pending hmapped rfl rfl fun _ _ ↦ id⟩
  | disable => simp [OutputStep.keepsDamage] at hkeeps
  | takeDamage => simp [OutputStep.keepsDamage] at hkeeps
  | destroy => simp [OutputStep.keepsDamage] at hkeeps

/-- No run without the operations that take damage away loses anything of a mapped output. -/
theorem carries_run {solo : Solo δ} (hcoherent : solo.output.Coherent)
    (hmapped : solo.output.state = .mapped) {steps : List OutputStep}
    (hkeeps : ∀ step ∈ steps, step.keepsDamage) :
    ∃ made, solo.Carries made (solo.run steps) := by
  induction steps generalizing solo with
  | nil => exact ⟨[], carries_of_pending hmapped rfl rfl fun _ _ ↦ id⟩
  | cons step rest ih =>
    obtain ⟨early, hfirst⟩ := carries_step hcoherent hmapped (hkeeps step (.head _))
    obtain ⟨late, hrest⟩ := ih (coherent_step hcoherent step) hfirst.mapped
      fun later hlater ↦ hkeeps later (.tail _ hlater)
    exact ⟨early ++ late, hfirst.trans hrest⟩

/-- What an operation records of a mapped output is to be painted next. -/
theorem covers_pending_step {solo : Solo δ} (hmapped : solo.output.state = .mapped)
    {step : OutputStep} {column row : Int}
    (hcovers : (step.recorded solo.output.layout).Covers column row) :
    (solo.step step).2.output.pending.Covers column row := by
  have hadded {damage : Damage} (hdamage : damage.Covers column row) :
      (solo.output.addDamage damage).pending.Covers column row := by
    rw [Output.addDamage, if_pos hmapped, Damage.covers_extend]
    exact .inr hdamage
  cases step with
  | addDamage damage => exact hadded hcovers
  | damageAll => exact hadded hcovers
  | _ => exact absurd hcovers (Damage.not_covers_none column row)

end Solo

variable {δ : Type} [FramebufferDevice δ]

/-- At whatever moment in the life of an output an operation records damage while the output is
mapped, and whatever follows that takes no damage away: the calls made of the renderer since are
given rectangles on the surface only, none of them empty; every pixel of the surface that was
recorded is to be painted still or was covered by one of these calls that succeeded; and a request
to repaint is not dropped. Nor is it by a backend, whose outputs have lived such lives. -/
theorem damage_kept {name : String} {device : δ} {source after : ScreenSource} {output : Output δ}
    (hcreate : Output.create name device source = (.ok output, after)) (renderer : Renderer)
    (host : Host) (earlier : List OutputStep) {before : Solo δ}
    (hbefore : before = (Solo.mk output after renderer host).run earlier)
    (hmapped : before.output.state = .mapped) {record : OutputStep} {later : List OutputStep}
    (hkeeps : ∀ step ∈ record :: later, step.keepsDamage) :
    let layout := before.output.layout
    let reached := before.run (record :: later)
    (∃ made, reached.renderer.calls = before.renderer.calls ++ made ∧
      (∀ call ∈ made, ∀ rect ∈ call.damage.rects,
        rect.isEmpty = false ∧ rect.Within layout.width layout.height) ∧
      ∀ column row, Rect.OnScreen layout.width layout.height column row →
        (record.recorded layout).Covers column row →
          reached.output.pending.Covers column row ∨
            ∃ call ∈ made, call.succeeded ∧ call.damage.Covers column row) ∧
    (∃ framebuffer, reached.output.framebuffer = some framebuffer ∧
      framebuffer.surface.layout = layout) ∧
    (∀ now, (reached.output.repaintPending reached.renderer now).1 ≠ .ok .dropped) ∧
    ∀ (screens : ScreenSource) (painter : Renderer) (keeper : Host) (steps : List (BackendStep δ)),
      ∀ held ∈ ((Stage.start screens painter keeper).run steps).backend.outputs,
        held.state = .mapped →
          ∀ other now, (held.repaintPending other now).1 ≠ .ok .dropped := by
  intro layout reached
  have hcoherent : before.output.Coherent := by
    rw [hbefore]
    exact Solo.coherent_run (Output.coherent_create hcreate) earlier
  obtain ⟨early, hrecord⟩ := Solo.carries_step hcoherent hmapped (hkeeps record (.head _))
  have hrecorded := Solo.coherent_step hcoherent record
  obtain ⟨late, hlater⟩ := Solo.carries_run hrecorded hrecord.mapped
    fun step hstep ↦ hkeeps step (.tail _ hstep)
  have hcarries : before.Carries (early ++ late) reached := hrecord.trans hlater
  have hreached : reached.output.Coherent := Solo.coherent_run hcoherent (record :: later)
  refine ⟨⟨early ++ late, hcarries.calls_eq, ?_, ?_⟩, ?_, ?_, ?_⟩
  · intro call hcall rect hrect
    have hwithin := hcarries.within call hcall rect hrect
    exact ⟨hwithin.isEmpty_eq_false, hwithin⟩
  · intro column row hon hcovers
    have hpending := Solo.covers_pending_step hmapped hcovers
    have hstays := hlater.kept column row
    rw [hrecord.layout_eq] at hstays
    apply (hstays hon hpending).imp_right
    rintro ⟨call, hcall, hpainted⟩
    exact ⟨call, List.mem_append_right _ hcall, hpainted⟩
  · obtain ⟨framebuffer, hframebuffer, hsurface⟩ := hreached.exists_framebuffer hcarries.mapped
    exact ⟨framebuffer, hframebuffer, hsurface.trans hcarries.layout_eq⟩
  · exact fun now ↦ Output.repaintPending_ne_dropped hreached hcarries.mapped _ now
  · intro screens painter keeper steps held hheld hstate other now
    have hheld := coherent_of_mem_run screens painter keeper steps hheld
    exact Output.repaintPending_ne_dropped hheld hstate other now

/-- Damage that overhangs a screen of two pixels survives a repaint that fails. -/
theorem damage_kept_after_failure :
    let source := ScreenSource.always (.ok (.withSize 2 1))
    let renderer := Renderer.solid Renderer.defaultColor fun _ ↦ some ⟨"no surface"⟩
    ∃ output after, Output.create "main" HeapStorage.working source = (.ok output, after) ∧
      let before := (Solo.mk output after renderer (.atTime 0)).run [.enable]
      let steps := [.addDamage ⟨[⟨-1, 0, 2, 9⟩]⟩, .repaintPending 0]
      before.output.state = .mapped ∧ (∀ step ∈ steps, step.keepsDamage) ∧
        (before.run steps).output.pending.Covers 0 0 := by
  intro source renderer
  refine ⟨_, _, rfl, ?_⟩
  intro before steps
  have hmapped : before.output.state = .mapped := rfl
  have hkeeps : ∀ step ∈ steps, step.keepsDamage := by decide
  refine ⟨hmapped, hkeeps, ?_⟩
  have hcreate : Output.create "main" HeapStorage.working source = (.ok _, _) := rfl
  obtain ⟨⟨made, hmade, -, hkept⟩, -⟩ :=
    damage_kept hcreate renderer (.atTime 0) [.enable] rfl hmapped hkeeps
  have hfailed : ∀ call ∈ (before.run steps).renderer.calls, call.succeeded = false := by
    decide +kernel
  refine (hkept 0 0 ?_ ⟨_, .head _, by decide⟩).resolve_right ?_
  · show (0 ≤ 0 ∧ 0 < 2) ∧ 0 ≤ 0 ∧ 0 < 1
    decide
  · rintro ⟨call, hcall, hsucceeded, -⟩
    rw [hmade] at hfailed
    simp [hfailed call (List.mem_append_right _ hcall)] at hsucceeded

end HeadlessDisplay
