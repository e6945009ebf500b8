import HeadlessDisplay.Proofs.Backend.Passes
import HeadlessDisplay.Proofs.Output.DamageKept

/-!
# Damage waits for a deadline

The loop of the display program sleeps until the next frame deadline, so damage that no deadline
stands for would never be painted. Damage without a deadline does come about: activation damages
every output and arms nothing, and a timer that fires is at rest before its output is painted
again. `Output.Scheduled` therefore holds at the head of the loop only. A repaint arms the timer of
each output that it is due for, whether the renderer paints or fails, and deactivation leaves no
output mapped; as each way through the loop ends with one or the other, all outputs are scheduled
after it (`settled_wakeup`), and so after every run of the loop (`settled_loop`).

A wakeup at a deadline asks the renderer for the damage of all outputs that are due, failing calls
included (`demands_deadline`). `damage_awaits_deadline` puts this together.
-/

set_option autoImplicit false
set_option relaxedAutoImplicit false

namespace HeadlessDisplay

variable {δ : Type} [FramebufferDevice δ]

/-! ### One output -/

namespace Output

/-- Damage of a mapped output does not wait without a deadline. -/
def Scheduled (output : Output δ) : Prop :=
  output.isDue → output.timer.isArmed

/-- What the renderer is asked to paint when the output is due. -/
def demand (output : Output δ) : Damage :=
  output.pending.clip output.layout.width output.layout.height

omit [FramebufferDevice δ] in
/-- A due output that is coherent has a surface. -/
theorem exists_framebuffer_of_isDue {output : Output δ} (hcoherent : output.Coherent)
    (hdue : output.isDue) : ∃ framebuffer, output.framebuffer = some framebuffer := by
  obtain ⟨framebuffer, hframebuffer, -⟩ :=
    hcoherent.exists_framebuffer ((isDue_iff output).mp hdue).1
  exact ⟨framebuffer, hframebuffer⟩

/-- Repainting a due output arms its timer and makes one call, whether or not it succeeds. -/
theorem repaintPending_of_isDue {output : Output δ} (hcoherent : output.Coherent)
    (hdue : output.isDue) (renderer : Renderer) (now : Nat) :
    (output.repaintPending renderer now).2.1.timer.isArmed ∧
      (output.repaintPending renderer now).2.2.calls.map RenderCall.damage =
        renderer.calls.map RenderCall.damage ++ [output.demand] := by
  obtain ⟨present, hpresent⟩ := exists_framebuffer_of_isDue hcoherent hdue
  generalize hrepaint : output.repaintPending renderer now = outcome
  have houtcome : RepaintOutcome output.takeDamage.2 output.pending renderer now outcome :=
    .of_eq hrepaint
  cases houtcome with
  | dropped hnone => exact absurd (hpresent.symm.trans hnone) (by simp)
  | painted hframebuffer hpaint =>
    exact ⟨rfl, by rw [Renderer.calls_of_paint_ok hpaint, List.map_append]; rfl⟩
  | failed hframebuffer hpaint =>
    exact ⟨rfl, by rw [Renderer.calls_of_paint_error hpaint, List.map_append]; rfl⟩

end Output

/-! ### The outputs of a backend -/

namespace Backend

/-- A pass of repaints leaves every output scheduled, and asks for the damage of those that were
due. -/
theorem scheduled_repaintOutputs {outputs : List (Output δ)}
    (hcoherent : ∀ output ∈ outputs, output.Coherent) (renderer : Renderer) (now : Nat) :
    (∀ output ∈ (repaintOutputs now outputs renderer).2.1, output.Scheduled) ∧
      (repaintOutputs now outputs renderer).2.2.calls.map RenderCall.damage =
        renderer.calls.map RenderCall.damage ++
          (outputs.filter Output.isDue).map Output.demand := by
  induction outputs generalizing renderer with
  | nil => simp [repaintOutputs]
  | cons output rest ih =>
    have hrest := ih fun other hother ↦ hcoherent other (.tail _ hother)
    unfold repaintOutputs
    split
    · next hpending =>
      have hdue : output.isDue := output.isDue_iff.mpr hpending
      obtain ⟨harmed, hcall⟩ :=
        Output.repaintPending_of_isDue (hcoherent output (.head _)) hdue renderer now
      obtain ⟨hscheduled, hcalls⟩ := hrest (output.repaintPending renderer now).2.2
      refine ⟨List.forall_mem_cons.mpr ⟨fun _ ↦ harmed, hscheduled⟩, ?_⟩
      simp [hcalls, hcall, hdue]
    · next hidle =>
      have hnotDue : ¬ output.isDue := fun hdue ↦ hidle (output.isDue_iff.mp hdue)
      obtain ⟨hscheduled, hcalls⟩ := hrest renderer
      refine ⟨List.forall_mem_cons.mpr ⟨fun hdue ↦ absurd hdue hnotDue, hscheduled⟩, ?_⟩
      simp [hcalls, hnotDue]

omit [FramebufferDevice δ] in
/-- An armed output has a deadline, and the next deadline is no later. -/
theorem exists_nextFrameDeadline_le {backend : Backend δ} {output : Output δ}
    (houtput : output ∈ backend.outputs) (harmed : output.timer.isArmed) :
    ∃ deadline next, output.timer.deadline = some deadline ∧
      backend.nextFrameDeadline = some next ∧ next ≤ deadline := by
  obtain ⟨deadline, hdeadline⟩ := Option.isSome_iff_exists.mp harmed
  have hmem : deadline ∈ backend.outputs.filterMap fun output ↦ output.timer.deadline :=
    List.mem_filterMap.mpr ⟨output, houtput, hdeadline⟩
  cases hnext : backend.nextFrameDeadline with
  | none =>
    rw [List.min?_eq_none_iff.mp hnext] at hmem
    exact absurd hmem List.not_mem_nil
  | some next =>
    exact ⟨deadline, next, hdeadline, rfl, (List.min?_eq_some_iff.mp hnext).2 deadline hmem⟩

end Backend

/-! ### The loop -/

namespace Stage

/-- At the head of the loop every output is coherent, and scheduled if it is due. -/
structure Settled (stage : Stage δ) : Prop where
  coherent : coherentLaw.Holds stage
  scheduled : ∀ output ∈ stage.backend.outputs, output.Scheduled

/-- A pass of repaints settles the outputs. -/
theorem settled_repaintPending {stage : Stage δ} (hcoherent : coherentLaw.Holds stage)
    (now : Nat) : (stage.step (.repaintPending now)).2.Settled where
  coherent := OutputLaw.holds_step hcoherent _ (by simp [BackendStep.devices])
  scheduled := (Backend.scheduled_repaintOutputs hcoherent.held stage.renderer now).1

/-- Each way through the loop leaves the outputs settled: it ends with a pass of repaints, or with
no output mapped. -/
theorem settled_wakeup {stage : Stage δ} (hsettled : stage.Settled) (wakeup : Wakeup) :
    (stage.run wakeup.steps).Settled := by
  have hcoherent := hsettled.coherent
  have hnone {step : BackendStep δ} (hdevices : step.devices = []) :
      coherentLaw.Holds (stage.step step).2 :=
    OutputLaw.holds_step hcoherent step (by simp [hdevices])
  cases wakeup with
  | deadline now => exact settled_repaintPending (hnone rfl) now
  | activate now => exact settled_repaintPending (hnone rfl) now
  | deactivate =>
    refine ⟨hnone rfl, fun output houtput hdue ↦ ?_⟩
    obtain ⟨before, -, rfl⟩ := List.mem_map.mp houtput
    exact absurd (Output.isDue_iff _ |>.mp hdue).1 before.state_disable_ne_mapped

/-- The outputs are settled after every run of the loop. -/
theorem settled_loop {stage : Stage δ} (hsettled : stage.Settled) (wakeups : List Wakeup) :
    (stage.loop wakeups).Settled := by
  induction wakeups generalizing stage with
  | nil => exact hsettled
  | cons wakeup rest ih =>
    have hloop : stage.loop (wakeup :: rest) = (stage.run wakeup.steps).loop rest := by
      simp [loop, run]
    rw [hloop]
    exact ih (settled_wakeup hsettled wakeup)

/-- The outputs are settled when the loop begins. -/
theorem settled_opening (source : ScreenSource) (renderer : Renderer) (host : Host) (name : String)
    (device : δ) (now : Nat) :
    ((start source renderer host).run (openingSteps name device now)).Settled := by
  have hstart : coherentLaw.Holds (start source renderer host : Stage δ) :=
    coherentLaw.holds_start source host trivial
  have hadded := OutputLaw.holds_run hstart [.addOutput name device, .startRepaintLoop]
    fun _ _ _ _ ↦ trivial
  exact settled_repaintPending hadded now

/-- A wakeup at a deadline asks the renderer for the damage of all outputs that are due. -/
theorem demands_deadline {stage : Stage δ} (hcoherent : coherentLaw.Holds stage) (now : Nat) :
    (stage.loop [.deadline now]).renderer.calls.map RenderCall.damage =
      stage.renderer.calls.map RenderCall.damage ++
        (stage.backend.outputs.filter Output.isDue).map Output.demand := by
  have hfired : coherentLaw.Holds (stage.step (.dispatchTimers now)).2 :=
    OutputLaw.holds_step hcoherent _ (by simp [BackendStep.devices])
  refine (Backend.scheduled_repaintOutputs hfired.held stage.renderer now).2.trans ?_
  have houtputs : (stage.step (.dispatchTimers now)).2.backend.outputs =
      stage.backend.outputs.map fun output ↦ { output with timer := (output.timer.poll now).2 } :=
    Backend.outputs_dispatchOutputs now stage.backend.outputs stage.host
  rw [houtputs, List.filter_map, List.map_map]
  rfl

end Stage

/-- In every run of the display program, whatever the devices, the source and the renderer answer,
and whatever wakes its loop, at the head of the loop

* every mapped output with damage has a deadline, and the loop sleeps no longer than until then,
* a wakeup at a deadline asks the renderer for the damage of every such output, even where the
  renderer fails for some of them. -/
theorem damage_awaits_deadline (source : ScreenSource) (renderer : Renderer) (host : Host)
    (name : String) (device : δ) (now : Nat) (wakeups : List Stage.Wakeup) :
    let stage :=
      ((Stage.start source renderer host).run (Stage.openingSteps name device now)).loop wakeups
    (∀ output ∈ stage.backend.outputs, output.state = .mapped → output.hasPendingDamage →
      ∃ deadline next, output.timer.deadline = some deadline ∧
        stage.backend.nextFrameDeadline = some next ∧ next ≤ deadline) ∧
    ∀ later, (stage.loop [.deadline later]).renderer.calls.map RenderCall.damage =
      stage.renderer.calls.map RenderCall.damage ++
        (stage.backend.outputs.filter Output.isDue).map Output.demand := by
  intro stage
  have hsettled : stage.Settled :=
    Stage.settled_loop (Stage.settled_opening source renderer host name device now) wakeups
  constructor
  · intro output houtput hmapped hpending
    have hdue : output.isDue := output.isDue_iff.mpr ⟨hmapped, hpending⟩
    exact Backend.exists_nextFrameDeadline_le houtput (hsettled.scheduled output houtput hdue)
  · exact Stage.demands_deadline hsettled.coherent

/-- The renderer fails at every call. The output comes back after a switch away, is damaged as a
whole and cannot be painted, waits for its deadline and is tried again. -/
theorem failing_renderer_is_asked_again :
    let source := ScreenSource.always (.ok (.withSize 2 1))
    let renderer := Renderer.solid Renderer.defaultColor fun _ ↦ some ⟨"no surface"⟩
    let opened := (Stage.start source renderer (.atTime 0)).run
      (Stage.openingSteps "left" HeapStorage.working 0)
    let stage := opened.loop [.deactivate, .activate 9]
    (∃ output ∈ stage.backend.outputs, output.state = .mapped ∧ output.hasPendingDamage ∧
      ∃ deadline next, output.timer.deadline = some deadline ∧
        stage.backend.nextFrameDeadline = some next ∧ next ≤ deadline) ∧
    stage.backend.nextFrameDeadline = some 16009 ∧
    (stage.loop [.deadline 16009]).renderer.calls.map RenderCall.damage =
      [.full 2 1, .full 2 1, .full 2 1] := by
  intro source renderer opened stage
  obtain ⟨hwaits, hasked⟩ := damage_awaits_deadline source renderer (.atTime 0) "left"
    HeapStorage.working 0 [.deactivate, .activate 9]
  have hreached : stage.backend.outputs.length = 1 ∧ ∀ output ∈ stage.backend.outputs,
      output.state = .mapped ∧ output.hasPendingDamage := by decide +kernel
  have hcalls : stage.renderer.calls.map RenderCall.damage ++
      (stage.backend.outputs.filter Output.isDue).map Output.demand =
        [.full 2 1, .full 2 1, .full 2 1] := by decide +kernel
  have hone : 0 < stage.backend.outputs.length := by rw [hreached.1]; exact Nat.one_pos
  obtain ⟨output, houtput⟩ := List.exists_mem_of_length_pos hone
  obtain ⟨hmapped, hpending⟩ := hreached.2 output houtput
  refine ⟨⟨output, houtput, hmapped, hpending, hwaits output houtput hmapped hpending⟩, ?_, ?_⟩
  · decide +kernel
  · rw [hasked]
    exact hcalls

end HeadlessDisplay
