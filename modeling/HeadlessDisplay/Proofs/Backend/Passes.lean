import HeadlessDisplay.Proofs.Backend.StorageLife

/-!
# Passes over the outputs

An operation of a backend goes over its outputs one after another and hands the source, the renderer
and the host from one to the next. Where the source gives one answer, the clock shows one time and
the renderer fills with one colour throughout, nothing of what is handed on reaches an output, and
the operation acts on each output as if it were the only one. `Moment` is what such an operation
meets; `Output.next`, `Output.letGo`, `Output.told` and `Output.counts` say what becomes of one
output, and `Stage.acts_pointwise` that an operation on a backend is that for each of its outputs,
in their order, together with what it adds.
-/

set_option autoImplicit false
set_option relaxedAutoImplicit false

namespace HeadlessDisplay

/-- What an operation meets: the answer of the source to all questions, the time that the clock
shows, and the colour that the renderer fills with. -/
structure Moment where
  answer : ScreenAnswer
  time : Nat
  color : UInt32

namespace Moment

/-- A source that gives the answer. -/
def source (moment : Moment) : ScreenSource :=
  .always moment.answer

/-- A renderer that fills with the colour and never fails. -/
def renderer (moment : Moment) : Renderer :=
  .solid moment.color fun _ ↦ none

end Moment

variable {δ : Type}

namespace Stage

/-- The stage with the source, the renderer and the clock as the moment has them. -/
def meet (stage : Stage δ) (moment : Moment) : Stage δ :=
  { stage with
    source := stage.source.answering moment.answer
    renderer := stage.renderer.filling moment.color fun _ ↦ none
    host := stage.host.setClock moment.time }

@[simp] theorem backend_meet (stage : Stage δ) (moment : Moment) :
    (stage.meet moment).backend = stage.backend := rfl

@[simp] theorem released_meet (stage : Stage δ) (moment : Moment) :
    (stage.meet moment).released = stage.released := rfl

end Stage

/-! ### The surroundings do not matter -/

/-- What a renderer of one colour paints does not depend on the calls made on it. -/
theorem Renderer.paint_of_behaviour {color : UInt32} {renderer : Renderer}
    (hfills : renderer.behaviour = fillBehaviour color fun _ ↦ none) (surface : Surface)
    (damage : Damage) :
    renderer.paint surface damage = (.ok (), surface.drawAll (fillStrokes color damage),
      { renderer with calls := renderer.calls ++ [⟨damage, true⟩] }) := by
  simp [paint, hfills, fillBehaviour]

section

variable [FramebufferDevice δ]

/-- A repaint by a renderer of one colour is the repaint by any other of that colour. -/
theorem Output.repaint_of_behaviour {color : UInt32} {renderer : Renderer}
    (hfills : renderer.behaviour = Renderer.fillBehaviour color fun _ ↦ none) (output : Output δ)
    (damage : Damage) (now : Nat) :
    (output.repaint damage renderer now).1 =
        (output.repaint damage (.solid color fun _ ↦ none) now).1 ∧
      (output.repaint damage renderer now).2.1 =
        (output.repaint damage (.solid color fun _ ↦ none) now).2.1 ∧
      (output.repaint damage renderer now).2.2.behaviour = renderer.behaviour := by
  have hsolid : (Renderer.solid color fun _ ↦ none).behaviour =
      Renderer.fillBehaviour color fun _ ↦ none := rfl
  unfold repaint
  cases output.framebuffer with
  | none => exact ⟨rfl, rfl, rfl⟩
  | some framebuffer =>
    simp only [Renderer.paint_of_behaviour hfills, Renderer.paint_of_behaviour hsolid]
    exact ⟨trivial, trivial, trivial⟩

/-- An output that asks once needs to know no more of the source than its next answer. -/
theorem Output.reenable_of_answer {source : ScreenSource} {answer : ScreenAnswer}
    (hanswer : source.answer = fun _ ↦ answer) (output : Output δ) :
    (output.reenable source).1 = (output.reenable (.always answer)).1 ∧
      (output.reenable source).2.1 = (output.reenable (.always answer)).2.1 ∧
      (output.reenable source).2.2.answer = source.answer := by
  unfold reenable ScreenSource.ask ScreenSource.always
  simp only [hanswer]
  cases output.state <;> cases answer <;> exact ⟨rfl, rfl, by simp [hanswer]⟩

/-- A new output needs to know no more of the source than its next answer. -/
theorem Output.create_of_answer {source : ScreenSource} {answer : ScreenAnswer}
    (hanswer : source.answer = fun _ ↦ answer) (name : String) (device : δ) :
    (create name device source).1 = (create name device (.always answer)).1 := by
  unfold create ScreenSource.ask ScreenSource.always
  simp only [hanswer]
  cases answer with
  | error reason => rfl
  | ok descriptor =>
    dsimp only
    cases descriptor.layout with
    | error error => rfl
    | ok layout =>
      dsimp only
      split <;> rfl

end

/-! ### What becomes of one output -/

namespace Output

/-- Whether a pass of repaints calls the renderer for the output. -/
def isDue (output : Output δ) : Bool :=
  decide (output.state = .mapped) && output.hasPendingDamage

theorem isDue_iff (output : Output δ) :
    output.isDue ↔ output.state = .mapped ∧ output.hasPendingDamage := by
  simp [isDue]

variable [FramebufferDevice δ]

/-- The output after an operation, if it is still held. -/
def next (moment : Moment) (output : Output δ) : BackendStep δ → Option (Output δ)
  | .addOutput .. | .startRepaintLoop => some output
  | .notifySession true =>
    match output.reenable moment.source with
    | (.ok _, back, _) => some back.damageAll
    | (.error _, _, _) => none
  | .notifySession false => some output.disable
  | .repaintPending now =>
    some (if output.isDue then (output.repaintPending moment.renderer now).2.1 else output)
  | .damageAll => some output.damageAll
  | .dispatchTimers now => some { output with timer := (output.timer.poll now).2 }
  | .shutdown => none

/-- The device of the output, if the operation lets it go. -/
def letGo (moment : Moment) (output : Output δ) : BackendStep δ → Option δ
  | .notifySession true =>
    match output.reenable moment.source with
    | (.ok _, _, _) => none
    | (.error _, left, _) => some left.destroy.device
  | .shutdown => some output.destroy.device
  | _ => none

/-- What the host is told for the output. -/
def told (moment : Moment) (output : Output δ) : BackendStep δ → List HostEvent
  | .notifySession true =>
    match output.reenable moment.source with
    | (.ok _, _, _) => []
    | (.error _, left, _) => [.removed left.destroy.name]
  | .dispatchTimers now =>
    if output.timer.isDue now then [.finished output.name moment.time .none] else []
  | .startRepaintLoop => [.finished output.name moment.time .invalid]
  | _ => []

/-- Whether the operation counts the output. -/
def counts (moment : Moment) (output : Output δ) : BackendStep δ → Bool
  | .repaintPending now =>
    output.isDue &&
      match (output.repaintPending moment.renderer now).1 with
      | .ok .painted => true
      | _ => false
  | .dispatchTimers now => output.timer.isDue now
  | _ => false

end Output

/-! ### What a host hears -/

/-- Whether the host is told of a finished frame. -/
def HostEvent.isFrame : HostEvent → Bool
  | .finished .. => true
  | .removed _ => false

namespace Host

/-- From one moment to the other the host was told the given things, and the clock was read once
for each finished frame. -/
structure Hears (before : Host) (told : List HostEvent) (after : Host) : Prop where
  events : after.events = before.events ++ told
  readings : after.readings = before.readings + told.countP HostEvent.isFrame

theorem hears_nil (host : Host) : host.Hears [] host :=
  ⟨by simp, by simp⟩

theorem Hears.append {first second third : Host} {early late : List HostEvent}
    (hearly : first.Hears early second) (hlate : second.Hears late third) :
    first.Hears (early ++ late) third where
  events := by rw [hlate.events, hearly.events, List.append_assoc]
  readings := by rw [hlate.readings, hearly.readings, List.countP_append, Nat.add_assoc]

theorem hears_removed (host : Host) (output : String) :
    host.Hears [.removed output] (host.tell (.removed output)) :=
  ⟨rfl, rfl⟩

/-- The clock shows the given time at every reading. -/
def Shows (host : Host) (time : Nat) : Prop :=
  host.clock = fun _ ↦ time

/-- A frame is finished at the time that the clock shows, and the clock stands. -/
theorem Shows.finishFrame {host : Host} {time : Nat} (hshows : host.Shows time)
    (output : String) (flags : FrameFlags) :
    (host.finishFrame output flags).Shows time ∧
      host.Hears [.finished output time flags] (host.finishFrame output flags) := by
  unfold Shows at hshows
  exact ⟨hshows, by simp [Host.finishFrame, readClock, tell, hshows], rfl⟩

end Host

/-! ### The passes -/

/-- Firing a timer polls it, and the host is told if it was due. -/
theorem Output.dispatchTimer_eq (output : Output δ) (now : Nat) (host : Host) :
    output.dispatchTimer now host =
      (output.timer.isDue now, { output with timer := (output.timer.poll now).2 },
        if output.timer.isDue now then host.finishFrame output.name .none else host) := by
  unfold dispatchTimer FrameTimer.poll
  cases output.timer.isDue now <;> rfl

/-- Firing the timers polls each of them and changes nothing else of the outputs. -/
theorem Backend.outputs_dispatchOutputs (now : Nat) (outputs : List (Output δ)) (host : Host) :
    (dispatchOutputs now outputs host).2.1 =
      outputs.map fun output ↦ { output with timer := (output.timer.poll now).2 } := by
  induction outputs generalizing host with
  | nil => rfl
  | cons output rest ih => simp only [dispatchOutputs, output.dispatchTimer_eq, ih, List.map_cons]

variable [FramebufferDevice δ]

namespace Backend

variable {moment : Moment}

/-- Firing the timers tells the host of each that is due. -/
theorem dispatchOutputs_pointwise {host : Host} (hshows : host.Shows moment.time) (now : Nat)
    (outputs : List (Output δ)) :
    (dispatchOutputs now outputs host).1 =
        outputs.countP (·.counts moment (.dispatchTimers now)) ∧
      host.Hears (outputs.flatMap (·.told moment (.dispatchTimers now)))
        (dispatchOutputs now outputs host).2.2 := by
  induction outputs generalizing host with
  | nil => exact ⟨rfl, host.hears_nil⟩
  | cons output rest ih =>
    simp only [dispatchOutputs, output.dispatchTimer_eq]
    cases hdue : output.timer.isDue now with
    | false =>
      obtain ⟨hcount, hhears⟩ := ih hshows
      simp only [Bool.false_eq_true, if_false]
      rw [hcount]
      exact ⟨by simp [Output.counts, hdue], by simpa [Output.told, hdue] using hhears⟩
    | true =>
      obtain ⟨hstands, hfirst⟩ := hshows.finishFrame output.name .none
      obtain ⟨hcount, hhears⟩ := ih hstands
      simp only [if_true]
      rw [hcount]
      exact ⟨by simp [Output.counts, hdue, Nat.add_comm],
        by simpa [Output.told, hdue] using hfirst.append hhears⟩

/-- Repainting the outputs repaints each of those that are due. -/
theorem repaintOutputs_pointwise {renderer : Renderer}
    (hfills : renderer.behaviour = moment.renderer.behaviour) (now : Nat)
    (outputs : List (Output δ)) :
    (repaintOutputs now outputs renderer).1 =
        outputs.countP (·.counts moment (.repaintPending now)) ∧
      (repaintOutputs now outputs renderer).2.1 =
        outputs.filterMap (·.next moment (.repaintPending now)) := by
  induction outputs generalizing renderer with
  | nil => simp [repaintOutputs]
  | cons output rest ih =>
    simp only [repaintOutputs]
    by_cases hdue : output.state = .mapped ∧ output.hasPendingDamage = true
    · obtain ⟨hresult, hafter, hkept⟩ :
          (output.repaintPending renderer now).1 = (output.repaintPending moment.renderer now).1 ∧
          (output.repaintPending renderer now).2.1 =
            (output.repaintPending moment.renderer now).2.1 ∧
          (output.repaintPending renderer now).2.2.behaviour = renderer.behaviour :=
        Output.repaint_of_behaviour hfills output.takeDamage.2 output.takeDamage.1 now
      obtain ⟨hcount, houtputs⟩ := ih (hkept.trans hfills)
      have hpainted := output.isDue_iff.mpr hdue
      rw [if_pos hdue]
      simp only [hcount, houtputs, hresult, hafter]
      refine ⟨?_, by simp [Output.next, hpainted]⟩
      rw [List.countP_cons, Nat.add_comm]
      simp only [Output.counts, hpainted, Bool.true_and]
      split <;> simp_all
    · obtain ⟨hcount, houtputs⟩ := ih hfills
      have hidle : output.isDue = false := by simpa using mt output.isDue_iff.mp hdue
      rw [if_neg hdue]
      simp [hcount, houtputs, Output.counts, Output.next, hidle]

/-- Bringing the outputs back brings each of them back or lets it go. -/
theorem reenableAll_pointwise {source : ScreenSource}
    (hanswer : source.answer = fun _ ↦ moment.answer) (host : Host) (outputs : List (Output δ)) :
    (reenableAll outputs source host).kept =
        outputs.filterMap (·.next moment (.notifySession true)) ∧
      (reenableAll outputs source host).released =
        outputs.filterMap (·.letGo moment (.notifySession true)) ∧
      host.Hears (outputs.flatMap (·.told moment (.notifySession true)))
        (reenableAll outputs source host).host := by
  induction outputs generalizing source host with
  | nil => exact ⟨rfl, rfl, host.hears_nil⟩
  | cons output rest ih =>
    obtain ⟨hresult, hafter, hkept⟩ := Output.reenable_of_answer hanswer output
    rcases hmeets : output.reenable moment.source with ⟨answered, held, later⟩
    have hsource : output.reenable (.always moment.answer) = (answered, held, later) := hmeets
    rw [hsource] at hresult hafter
    unfold reenableAll
    split
    · next result back after hreenable =>
      rw [hreenable] at hresult hafter hkept
      subst hresult hafter
      obtain ⟨hback, hreleased, hhears⟩ := ih (hkept.trans hanswer) host
      simp only [hback, hreleased]
      refine ⟨by simp [Output.next, hmeets], by simp [Output.letGo, hmeets], ?_⟩
      simpa [Output.told, hmeets] using hhears
    · next error left after hreenable =>
      rw [hreenable] at hresult hafter hkept
      subst hresult hafter
      have hfirst := host.hears_removed left.destroy.name
      obtain ⟨hback, hreleased, hhears⟩ := ih (hkept.trans hanswer)
        (host.tell (.removed left.destroy.name))
      simp only [hback, hreleased]
      refine ⟨by simp [Output.next, hmeets], by simp [Output.letGo, hmeets], ?_⟩
      simpa [Output.told, hmeets] using hfirst.append hhears

/-- What comes of adding an output, and the device let go if it cannot be used, depend on whether the
session is active and on nothing else of the backend. -/
theorem addOutput_pointwise {source : ScreenSource}
    (hanswer : source.answer = fun _ ↦ moment.answer) (backend : Backend δ) (name : String)
    (device : δ) :
    let entry := addOutput ⟨[], backend.active⟩ name device moment.source
    (backend.addOutput name device source).2.1.outputs = backend.outputs ++ entry.2.1.outputs ∧
      (backend.addOutput name device source).2.2.1 = entry.2.2.1 := by
  intro entry
  have hcreate := Output.create_of_answer hanswer name device
  rcases hmeets : Output.create name device source with ⟨created, later⟩
  rcases hentry : Output.create name device moment.source with ⟨answered, other⟩
  have hsource : Output.create name device (.always moment.answer) = (answered, other) := hentry
  rw [hmeets, hsource] at hcreate
  subst hcreate
  simp only [entry, addOutput, hmeets, hentry]
  cases created with
  | error refused => simp
  | ok output =>
    dsimp only
    cases backend.active with
    | false => simp
    | true =>
      simp only [if_true]
      split <;> simp

/-- Beginning with the outputs tells the host of each of them. -/
theorem hears_startRepaintLoop {host : Host} (hshows : host.Shows moment.time)
    (backend : Backend δ) :
    host.Hears (backend.outputs.flatMap (·.told moment .startRepaintLoop))
      (backend.startRepaintLoop host) := by
  unfold startRepaintLoop
  generalize backend.outputs = outputs
  induction outputs generalizing host with
  | nil => exact host.hears_nil
  | cons output rest ih =>
    obtain ⟨hstands, hfirst⟩ := hshows.finishFrame output.name .invalid
    exact hfirst.append (ih hstands)

end Backend

/-! ### An operation on a backend -/

/-- How many outputs an operation says that it concerned. -/
def StepResult.total : StepResult → Nat
  | .count number => number
  | .added _ | .done => 0

/-- The outputs that an operation adds and the devices that it lets go at once, in an active or
inactive session. -/
def BackendStep.entry (moment : Moment) (active : Bool) : BackendStep δ → List (Output δ) × List δ
  | .addOutput name device =>
    let (_, backend, left, _) := Backend.addOutput ⟨[], active⟩ name device moment.source
    (backend.outputs, left)
  | _ => ([], [])

namespace Stage

/-- Carries out one operation in the moment. -/
def stepIn (stage : Stage δ) (moment : Moment) (step : BackendStep δ) : StepResult × Stage δ :=
  (stage.meet moment).step step

/-- An operation acts on each output as if it were the only one, whatever the others come to. -/
structure ActsPointwise (stage : Stage δ) (moment : Moment) (step : BackendStep δ) : Prop where
  outputs : (stage.stepIn moment step).2.backend.outputs =
    stage.backend.outputs.filterMap (·.next moment step) ++
      (step.entry moment stage.backend.active).1
  released : (stage.stepIn moment step).2.released =
    stage.released ++ (stage.backend.outputs.filterMap (·.letGo moment step) ++
      (step.entry moment stage.backend.active).2)
  hears : stage.host.Hears (stage.backend.outputs.flatMap (·.told moment step))
    (stage.stepIn moment step).2.host
  total : (stage.stepIn moment step).1.total =
    stage.backend.outputs.countP (·.counts moment step)

theorem acts_pointwise (stage : Stage δ) (moment : Moment) (step : BackendStep δ) :
    stage.ActsPointwise moment step := by
  have hshows : (stage.meet moment).host.Shows moment.time := rfl
  have hanswer : (stage.meet moment).source.answer = fun _ ↦ moment.answer := rfl
  have hfills : (stage.meet moment).renderer.behaviour = moment.renderer.behaviour := rfl
  have hmeet {told : List HostEvent} {after : Host}
      (hhears : (stage.meet moment).host.Hears told after) : stage.host.Hears told after :=
    ⟨hhears.events, hhears.readings⟩
  -- Most operations tell the host nothing of any output.
  have hsilent : stage.host.Hears (stage.backend.outputs.flatMap fun _ ↦ [])
      (stage.meet moment).host := by
    rw [List.flatMap_eq_nil_iff.mpr fun _ _ ↦ rfl]
    exact hmeet (stage.meet moment).host.hears_nil
  cases step with
  | addOutput name device =>
    obtain ⟨houtputs, hreleased⟩ :=
      Backend.addOutput_pointwise hanswer stage.backend name device
    refine ⟨?_, ?_, hsilent, ?_⟩ <;>
      simp [stepIn, step, BackendStep.entry, StepResult.total, Output.next, Output.letGo,
        Output.counts, houtputs, hreleased]
  | notifySession active =>
    cases active with
    | false =>
      refine ⟨?_, ?_, hsilent, ?_⟩ <;>
        simp [stepIn, step, Backend.notifySession, BackendStep.entry, StepResult.total,
          Output.next, Output.letGo, Output.counts, List.filterMap_eq_map']
    | true =>
      obtain ⟨hkept, hreleased, hhears⟩ :=
        Backend.reenableAll_pointwise hanswer (stage.meet moment).host stage.backend.outputs
      refine ⟨?_, ?_, hmeet hhears, ?_⟩ <;>
        simp [stepIn, step, Backend.notifySession, BackendStep.entry, StepResult.total,
          Output.counts, hkept, hreleased]
  | repaintPending now =>
    obtain ⟨hcount, houtputs⟩ :=
      Backend.repaintOutputs_pointwise hfills now stage.backend.outputs
    refine ⟨?_, ?_, hsilent, ?_⟩ <;>
      simp [stepIn, step, Backend.repaintPending, BackendStep.entry, StepResult.total,
        Output.letGo, hcount, houtputs]
  | damageAll =>
    refine ⟨?_, ?_, hsilent, ?_⟩ <;>
      simp [stepIn, step, Backend.damageAll, BackendStep.entry, StepResult.total, Output.next,
        Output.letGo, Output.counts, List.filterMap_eq_map']
  | dispatchTimers now =>
    obtain ⟨hcount, hhears⟩ :=
      Backend.dispatchOutputs_pointwise hshows now stage.backend.outputs
    refine ⟨?_, ?_, hmeet hhears, ?_⟩ <;>
      simp [stepIn, step, Backend.dispatchTimers, BackendStep.entry, StepResult.total,
        Output.next, Output.letGo, Backend.outputs_dispatchOutputs, hcount,
        List.filterMap_eq_map']
  | startRepaintLoop =>
    have hhears := Backend.hears_startRepaintLoop hshows stage.backend
    refine ⟨?_, ?_, hmeet hhears, ?_⟩ <;>
      simp [stepIn, step, BackendStep.entry, StepResult.total, Output.next, Output.letGo,
        Output.counts]
  | shutdown =>
    refine ⟨?_, ?_, hsilent, ?_⟩ <;>
      simp [stepIn, step, Backend.shutdown, BackendStep.entry, StepResult.total, Output.next,
        Output.letGo, Output.counts, List.filterMap_eq_map']

end Stage

end HeadlessDisplay
