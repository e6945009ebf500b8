import HeadlessDisplay.Output.HeapStorage
import HeadlessDisplay.Proofs.Backend.Comeback
import HeadlessDisplay.Proofs.Backend.Passes
import HeadlessDisplay.Proofs.Output.DamageKept
import Mathlib.Data.List.Induction

/-!
# When a frame timer fires

The deadline of a frame timer is a field that survives most of what happens to an output. Here it
is read off the history instead. `TimerCue` is what an operation is to the timer, judged by what
was asked and what was returned: a repaint that reached the renderer, a firing, or neither; that it
reached the renderer is that the renderer was called (`RepaintOutcome.rendered_iff`).
`pace_step` says that a repaint which reached the renderer sets the deadline by the refresh rate
of that moment, that a firing clears it, and that everything else, coming back at another rate
included, leaves it alone. Along a life this makes the deadline that of the last repaint since the
last firing (`deadline_run`), and `fires_iff_last_repaint_due` says what firing the timer does by
the history alone. Times are those that the operations were given, in any order.
-/

set_option autoImplicit false
set_option relaxedAutoImplicit false

namespace HeadlessDisplay

/-! ### Cues -/

/-- What an operation is to the timer. -/
inductive TimerCue
  /-- A repaint at the given time, with the given refresh rate in force, reached the renderer. -/
  | rendered (made : Nat) (refreshMhz : UInt32)
  /-- The timer fired. -/
  | fired
  /-- The operation does not concern the timer. -/
  | silent
deriving DecidableEq

namespace TimerCue

/-- The cue in a repaint: it reached the renderer if it painted or failed, and did not if it was
dropped. -/
def ofRepaint (made : Nat) (refreshMhz : UInt32) : Except OutputError Repainted → TimerCue
  | .ok .dropped => .silent
  | .ok .painted | .error _ => .rendered made refreshMhz

/-- The cue in an operation that was carried out while the given refresh rate was in force. -/
def of (refreshMhz : UInt32) : OutputStep → OutputStepResult → TimerCue
  | .repaint _ now, .repainted result | .repaintPending now, .repainted result =>
    .ofRepaint now refreshMhz result
  | .dispatchTimer _, .dispatched true => .fired
  | _, _ => .silent

/-- The deadline after a cue. -/
def deadline (before : Option Nat) : TimerCue → Option Nat
  | .rendered made refreshMhz => some (made + refreshInterval refreshMhz)
  | .fired => none
  | .silent => before

end TimerCue

/-- Since the last firing a repaint reached the renderer, and the last that did was made at the
given time with the given refresh rate in force. -/
def LastRepaint (cues : List TimerCue) (made : Nat) (refreshMhz : UInt32) : Prop :=
  ∃ early late, cues = early ++ .rendered made refreshMhz :: late ∧ ∀ cue ∈ late, cue = .silent

namespace LastRepaint

variable {cues : List TimerCue} {made : Nat} {refreshMhz : UInt32}

theorem not_nil : ¬LastRepaint [] made refreshMhz := by
  rintro ⟨early, late, hcues, -⟩
  simp at hcues

/-- A further cue is the repaint itself, or it is silent and the repaint came before. -/
theorem concat_iff {cue : TimerCue} :
    LastRepaint (cues ++ [cue]) made refreshMhz ↔
      cue = .rendered made refreshMhz ∨ cue = .silent ∧ LastRepaint cues made refreshMhz := by
  constructor
  · rintro ⟨early, late, hcues, hlate⟩
    rcases List.eq_nil_or_concat late with rfl | ⟨before, last, rfl⟩
    · obtain ⟨-, hcue⟩ := List.append_inj' hcues rfl
      exact .inl (List.singleton_inj.mp hcue)
    · rw [List.concat_eq_append, ← List.cons_append, ← List.append_assoc] at hcues
      obtain ⟨hbefore, hcue⟩ := List.append_inj' hcues rfl
      rw [List.singleton_inj.mp hcue]
      exact .inr ⟨hlate last (by simp), early, before, hbefore,
        fun cue hcue ↦ hlate cue (by simp [hcue])⟩
  · rintro (rfl | ⟨rfl, early, late, rfl, hlate⟩)
    · exact ⟨cues, [], rfl, by simp⟩
    · refine ⟨early, late ++ [.silent], by simp, ?_⟩
      intro cue hcue
      rcases List.mem_append.mp hcue with hmem | hmem
      · exact hlate cue hmem
      · exact List.mem_singleton.mp hmem

end LastRepaint

/-! ### Steps -/

namespace Solo

variable {δ : Type} [FramebufferDevice δ]

/-- What an operation on the output is to its timer. -/
def cue (solo : Solo δ) (step : OutputStep) : TimerCue :=
  .of solo.output.descriptor.refreshMhz step (solo.step step).1

/-- What operations on the output, carried out one after another, are to its timer. -/
def cues : Solo δ → List OutputStep → List TimerCue
  | _, [] => []
  | solo, step :: rest => solo.cue step :: (solo.step step).2.cues rest

theorem cues_concat (solo : Solo δ) (steps : List OutputStep) (step : OutputStep) :
    solo.cues (steps ++ [step]) = solo.cues steps ++ [(solo.run steps).cue step] := by
  induction steps generalizing solo with
  | nil => rfl
  | cons first rest ih => simp only [List.cons_append, cues, ih, run, List.foldl_cons]

theorem run_concat (solo : Solo δ) (steps : List OutputStep) (step : OutputStep) :
    solo.run (steps ++ [step]) = ((solo.run steps).step step).2 := by
  simp only [run, List.foldl_append, List.foldl_cons, List.foldl_nil]

end Solo

namespace Output

variable {δ : Type}

theorem samePace_addDamage (output : Output δ) (damage : Damage) :
    output.SamePace (output.addDamage damage) := by
  unfold addDamage
  split <;> exact ⟨rfl, rfl⟩

variable [FramebufferDevice δ]

/-- A repaint that reached the renderer arms the timer with the period of the refresh rate in force;
one that was dropped leaves the timer alone. -/
theorem RepaintOutcome.pace {output : Output δ} {damage : Damage} {renderer : Renderer}
    {now : Nat} {outcome : Except OutputError Repainted × Output δ × Renderer}
    (houtcome : RepaintOutcome output damage renderer now outcome) (hcoherent : output.Coherent) :
    outcome.2.1.name = output.name ∧ outcome.2.1.timer.deadline =
      (TimerCue.ofRepaint now output.descriptor.refreshMhz outcome.1).deadline
        output.timer.deadline := by
  have harmed : (output.timer.arm now).deadline =
      some (now + refreshInterval output.descriptor.refreshMhz) := by
    rw [FrameTimer.arm, hcoherent.interval_eq]
  cases houtcome with
  | dropped hnone => exact ⟨rfl, rfl⟩
  | painted hframebuffer hpaint => exact ⟨rfl, harmed⟩
  | failed hframebuffer hpaint => exact ⟨rfl, harmed⟩

/-- The cue in a repaint is that it reached the renderer exactly if the renderer was called. -/
theorem RepaintOutcome.rendered_iff {output : Output δ} {damage : Damage} {renderer : Renderer}
    {now : Nat} {outcome : Except OutputError Repainted × Output δ × Renderer}
    (houtcome : RepaintOutcome output damage renderer now outcome) (refreshMhz : UInt32) :
    TimerCue.ofRepaint now refreshMhz outcome.1 = .rendered now refreshMhz ↔
      outcome.2.2.calls ≠ renderer.calls := by
  cases houtcome with
  | dropped hnone => simp [TimerCue.ofRepaint]
  | painted hframebuffer hpaint => simp [TimerCue.ofRepaint, Renderer.calls_of_paint_ok hpaint]
  | failed hframebuffer hpaint => simp [TimerCue.ofRepaint, Renderer.calls_of_paint_error hpaint]

end Output

namespace Solo

variable {δ : Type} [FramebufferDevice δ] {solo : Solo δ}

/-- An operation keeps the name of the output and leaves of the deadline what its cue says. -/
theorem pace_step (hcoherent : solo.output.Coherent) (step : OutputStep) :
    (solo.step step).2.output.name = solo.output.name ∧
      (solo.step step).2.output.timer.deadline =
        (solo.cue step).deadline solo.output.timer.deadline := by
  have hkept {after : Output δ} (hpace : solo.output.SamePace after) :
      after.name = solo.output.name ∧ after.timer.deadline = solo.output.timer.deadline :=
    ⟨hpace.name_eq, hpace.deadline_eq⟩
  cases step with
  | enable => exact hkept solo.output.samePace_enable
  | disable => exact hkept solo.output.samePace_disable
  | reenable => exact hkept (solo.output.samePace_reenable solo.source)
  | repaint damage now => exact (Output.RepaintOutcome.of_eq rfl).pace hcoherent
  | repaintPending now =>
    have htaken := Output.coherent_takeDamage hcoherent
    exact (Output.RepaintOutcome.of_eq rfl).pace htaken
  | addDamage damage => exact hkept (solo.output.samePace_addDamage damage)
  | damageAll => exact hkept solo.output.samePace_damageAll
  | takeDamage => exact ⟨rfl, rfl⟩
  | dispatchTimer now =>
    simp only [cue, step, solo.output.dispatchTimer_eq, FrameTimer.poll]
    cases solo.output.timer.isDue now <;> simp [TimerCue.of, TimerCue.deadline]
  | startRepaintLoop => exact ⟨rfl, rfl⟩
  | destroy => exact hkept solo.output.samePace_destroy

/-- The name that an output was created with is kept along its life. -/
theorem name_run (hcoherent : solo.output.Coherent) (steps : List OutputStep) :
    (solo.run steps).output.name = solo.output.name := by
  induction steps generalizing solo with
  | nil => rfl
  | cons step rest ih =>
    exact (ih (coherent_step hcoherent step)).trans (pace_step hcoherent step).1

/-- If the timer was at rest, it has a deadline exactly if a repaint reached the renderer since it
last fired, and then the last of these set it. The induction is on the life from its end. -/
theorem deadline_run (hcoherent : solo.output.Coherent) (hrest : solo.output.timer.deadline = none)
    (steps : List OutputStep) (deadline : Nat) :
    (solo.run steps).output.timer.deadline = some deadline ↔
      ∃ made refreshMhz, LastRepaint (solo.cues steps) made refreshMhz ∧
        deadline = made + refreshInterval refreshMhz := by
  induction steps using List.reverseRecOn with
  | nil => simp [run, cues, hrest, LastRepaint.not_nil]
  | append_singleton steps step ih =>
    have hreached := coherent_run hcoherent steps
    rw [run_concat, (pace_step hreached step).2, cues_concat]
    cases (solo.run steps).cue step with
    | rendered made refreshMhz =>
      simp [TimerCue.deadline, LastRepaint.concat_iff, eq_comm]
    | fired => simp [TimerCue.deadline, LastRepaint.concat_iff]
    | silent => simpa [TimerCue.deadline, LastRepaint.concat_iff] using ih

/-- The timer is due if the last repaint since it last fired is a period of its refresh rate ago. -/
theorem isDue_run_iff (hcoherent : solo.output.Coherent)
    (hrest : solo.output.timer.deadline = none) (steps : List OutputStep) (now : Nat) :
    (solo.run steps).output.timer.isDue now ↔
      ∃ made refreshMhz, LastRepaint (solo.cues steps) made refreshMhz ∧
        made + refreshInterval refreshMhz ≤ now := by
  have hdeadline := deadline_run hcoherent hrest steps
  simp only [FrameTimer.isDue, Option.any_eq_true, decide_eq_true_eq, hdeadline]
  constructor
  · rintro ⟨_, ⟨made, refreshMhz, hlast, rfl⟩, hdue⟩
    exact ⟨made, refreshMhz, hlast, hdue⟩
  · rintro ⟨made, refreshMhz, hlast, hdue⟩
    exact ⟨_, ⟨made, refreshMhz, hlast, rfl⟩, hdue⟩

end Solo

namespace Output

variable {δ : Type}

/-- The timer of an output that has just been created is at rest. -/
theorem created_at_rest [FramebufferDevice δ] {name : String} {device : δ}
    {source after : ScreenSource} {output : Output δ}
    (hcreate : create name device source = (.ok output, after)) :
    output.name = name ∧ output.timer.deadline = none := by
  cases CreateOutcome.of_eq hcreate with
  | created hanswer hlayout hopen => exact ⟨rfl, rfl⟩

end Output

variable {δ : Type} [FramebufferDevice δ]

/-- Whatever is done with an output, in whatever order and at whatever times,

* firing its timer succeeds exactly if, since the timer last fired, a repaint reached the renderer,
  and the last that did is at least one period ago, the period being that of the refresh rate that
  was in force when the repaint was made;
* if it succeeds, the host's clock is read once, the host is told once of a frame presented at that
  reading, and nothing else changes but that the timer is at rest;
* if it does not, nothing changes at all. -/
theorem fires_iff_last_repaint_due {name : String} {device : δ} {source after : ScreenSource}
    {output : Output δ} (hcreate : Output.create name device source = (.ok output, after))
    (renderer : Renderer) (host : Host) (steps : List OutputStep) (now : Nat) :
    let solo := Solo.mk output after renderer host
    let reached := solo.run steps
    let due := ∃ made refreshMhz, LastRepaint (solo.cues steps) made refreshMhz ∧
      made + refreshInterval refreshMhz ≤ now
    let rested := { reached.output with timer := ⟨reached.output.timer.interval, none⟩ }
    let told :=
      { reached.host with
        readings := reached.host.readings + 1
        events := reached.host.events ++
          [.finished name (reached.host.clock reached.host.readings) .none] }
    ((reached.step (.dispatchTimer now)).1 = .dispatched true ↔ due) ∧
    (due → reached.step (.dispatchTimer now) =
      (.dispatched true, { reached with output := rested, host := told })) ∧
    (¬due → reached.step (.dispatchTimer now) = (.dispatched false, reached)) := by
  intro solo reached due rested told
  obtain ⟨hname, hrest⟩ := Output.created_at_rest hcreate
  have hcoherent : solo.output.Coherent := Output.coherent_create hcreate
  have hkept : reached.output.name = name := (Solo.name_run hcoherent steps).trans hname
  have hdue : reached.output.timer.isDue now ↔ due :=
    Solo.isDue_run_iff hcoherent hrest steps now
  have htold : reached.host.finishFrame reached.output.name .none = told := by
    rw [hkept]
    rfl
  have hfires (hyes : due) : reached.step (.dispatchTimer now) =
      (.dispatched true, { reached with output := rested, host := told }) := by
    simp only [Solo.step, Output.dispatchTimer_eq, FrameTimer.poll, hdue.mpr hyes, if_true, htold]
    rfl
  have hwaits (hno : ¬due) : reached.step (.dispatchTimer now) = (.dispatched false, reached) := by
    have hearly : reached.output.timer.isDue now = false := by
      simpa only [Bool.not_eq_true] using mt hdue.mp hno
    simp [Solo.step, Output.dispatchTimer_eq, FrameTimer.poll, hearly]
  refine ⟨⟨?_, fun hyes ↦ congrArg Prod.fst (hfires hyes)⟩, hfires, hwaits⟩
  intro hfired
  by_contra hno
  simp [hwaits hno] at hfired

/-- An output is repainted twice, the second time with an earlier time, and comes back at half the
refresh rate. The second repaint counts, and at the rate at which it was made. -/
theorem fires_by_second_repaint :
    let fast := ScreenDescriptor.withSize 2 1
    let source : ScreenSource :=
      ⟨fun asked ↦ .ok (if asked = 0 then fast else { fast with refreshMhz := 30000 }), 0⟩
    let renderer := Renderer.solid Renderer.defaultColor fun _ ↦ none
    let steps := [.enable, .repaint .none 9000, .repaint .none 5000, .disable, .reenable]
    ∃ output after, Output.create "main" HeapStorage.working source = (.ok output, after) ∧
      let reached := (Solo.mk output after renderer (.atTime 40000)).run steps
      let fired := reached.step (.dispatchTimer 21000)
      reached.output.timer.interval = 33000 ∧
        reached.step (.dispatchTimer 20999) = (.dispatched false, reached) ∧
        fired.1 = .dispatched true ∧ fired.2.host.events = [.finished "main" 40000 .none] := by
  intro fast source renderer steps
  have hcreate : Output.create "main" HeapStorage.working source = (.ok _, _) := rfl
  refine ⟨_, _, hcreate, by decide +kernel, ?_, ?_, by decide +kernel⟩
  · obtain ⟨-, -, hwaits⟩ :=
      fires_iff_last_repaint_due hcreate renderer (.atTime 40000) steps 20999
    apply hwaits
    rintro ⟨made, refreshMhz, hlast, hdue⟩
    have hsecond : LastRepaint
        ([.silent, .rendered 9000 60000] ++ [.rendered 5000 60000] ++ [.silent] ++ [.silent])
        made refreshMhz := hlast
    simp only [LastRepaint.concat_iff, reduceCtorEq, false_and, or_false, true_and, false_or,
      TimerCue.rendered.injEq] at hsecond
    obtain ⟨rfl, rfl⟩ := hsecond
    exact absurd hdue (by decide)
  · obtain ⟨hiff, -, -⟩ :=
      fires_iff_last_repaint_due hcreate renderer (.atTime 40000) steps 21000
    refine hiff.mpr ⟨5000, 60000, ?_, by decide⟩
    exact ⟨[.silent, .rendered 9000 60000], [.silent, .silent], rfl, by simp⟩

end HeadlessDisplay
