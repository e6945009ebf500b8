import HeadlessDisplay.Output.HeapStorage
import HeadlessDisplay.Proofs.Backend.Chronicle
import HeadlessDisplay.Proofs.Backend.Retry
import Mathlib.Order.Bounds.Basic

/-!
# Frame deadlines

Firing the timers is one pass that polls each of them and hands the host on from one to the next.
`Backend.dispatchOutputs_eq` says in closed form what it does: the outputs whose deadline has come
are told of in their order, each at the reading of the clock that is its turn, their timers are at
rest, and nothing else has changed. What is left of the deadlines are those later than the time of
the pass, so the pass and `nextFrameDeadline` agree on the bound: something fires exactly if the
next deadline has come (`one_le_length_due_iff`), and afterwards it is the least of the later ones
(`nextFrameDeadline_rested_eq_some_iff`).

The loop of the display program sleeps until the next deadline. `Stage.Timely` says no more of a
run than that, and `frames_of_timely` that no wakeup at a deadline is then in vain. A period may be
shorter than a millisecond and counts as none, so that a deadline may come at the time it was set;
each wakeup presents a frame nevertheless.
-/

set_option autoImplicit false
set_option relaxedAutoImplicit false

namespace HeadlessDisplay

variable {δ : Type}

/-! ### One output -/

namespace Output

/-- The deadline of the output has come. -/
def Expired (output : Output δ) (now : Nat) : Prop :=
  ∃ deadline, output.timer.deadline = some deadline ∧ deadline ≤ now

theorem isDue_timer_iff (output : Output δ) (now : Nat) :
    output.timer.isDue now ↔ output.Expired now := by
  simp only [FrameTimer.isDue, Expired, Option.any_eq_true, decide_eq_true_eq]

instance (output : Output δ) (now : Nat) : Decidable (output.Expired now) :=
  decidable_of_iff _ (output.isDue_timer_iff now)

/-- The output with its timer at rest. -/
def rested (output : Output δ) : Output δ :=
  { output with timer := { output.timer with deadline := none } }

/-- The output after its timer was looked at. -/
def afterDispatch (now : Nat) (output : Output δ) : Output δ :=
  if output.Expired now then output.rested else output

theorem dispatchTimer_of_expired {output : Output δ} {now : Nat} (hexpired : output.Expired now)
    (host : Host) :
    output.dispatchTimer now host = (true, output.rested, host.finishFrame output.name .none) := by
  have hdue := (output.isDue_timer_iff now).mpr hexpired
  simp only [dispatchTimer_eq, FrameTimer.poll, hdue, if_true, rested]

theorem dispatchTimer_of_not_expired {output : Output δ} {now : Nat}
    (hwaits : ¬output.Expired now) (host : Host) :
    output.dispatchTimer now host = (false, output, host) := by
  have hearly : output.timer.isDue now = false := by
    simpa only [Bool.not_eq_true] using mt (output.isDue_timer_iff now).mp hwaits
  simp only [dispatchTimer_eq, FrameTimer.poll, hearly, Bool.false_eq_true, if_false]

/-- The deadlines that are left are those that have not come. -/
theorem deadline_afterDispatch (output : Output δ) (now deadline : Nat) :
    (output.afterDispatch now).timer.deadline = some deadline ↔
      output.timer.deadline = some deadline ∧ now < deadline := by
  unfold afterDispatch
  split
  · next hexpired =>
    obtain ⟨due, hdue, hle⟩ := hexpired
    simp only [rested, hdue, Option.some.injEq, reduceCtorEq, false_iff, not_and, not_lt]
    rintro rfl
    exact hle
  · next hwaits =>
    refine ⟨fun hdeadline ↦ ⟨hdeadline, ?_⟩, And.left⟩
    exact Nat.lt_of_not_le fun hle ↦ hwaits ⟨deadline, hdeadline, hle⟩

/-- No deadline is left that has come by then. -/
theorem not_expired_afterDispatch (output : Output δ) {now earlier : Nat} (hle : earlier ≤ now) :
    ¬(output.afterDispatch now).Expired earlier := by
  rintro ⟨deadline, hdeadline, hcome⟩
  obtain ⟨-, hlater⟩ := (output.deadline_afterDispatch now deadline).mp hdeadline
  omega

end Output

/-! ### A pass over the outputs -/

/-- The host after a frame of each of the outputs was finished, one after another. -/
def Host.presentEach (host : Host) (outputs : List (Output δ)) : Host :=
  { host with
    readings := host.readings + outputs.length
    events := host.events ++ outputs.mapIdx fun index output ↦
      .finished output.name (host.clock (host.readings + index)) .none }

theorem Host.presentEach_nil (host : Host) : host.presentEach ([] : List (Output δ)) = host := by
  simp [presentEach]

theorem Host.presentEach_cons (host : Host) (output : Output δ) (rest : List (Output δ)) :
    host.presentEach (output :: rest) = (host.finishFrame output.name .none).presentEach rest := by
  simp only [presentEach, finishFrame, readClock, tell, List.mapIdx_cons, List.length_cons,
    List.append_assoc, List.singleton_append, Nat.add_zero, Nat.add_assoc, Nat.add_comm 1]

namespace Backend

/-- The outputs whose deadline has come, in their order. -/
def due (backend : Backend δ) (now : Nat) : List (Output δ) :=
  backend.outputs.filter (·.Expired now)

/-- The backend after its timers were looked at. -/
def rested (backend : Backend δ) (now : Nat) : Backend δ :=
  { backend with outputs := backend.outputs.map (Output.afterDispatch now) }

/-- A pass over the timers counts the outputs whose deadline has come, sets their timers at rest and
finishes their frames. -/
theorem dispatchOutputs_eq (now : Nat) (outputs : List (Output δ)) (host : Host) :
    dispatchOutputs now outputs host =
      ((outputs.filter (·.Expired now)).length, outputs.map (Output.afterDispatch now),
        host.presentEach (outputs.filter (·.Expired now))) := by
  induction outputs generalizing host with
  | nil => simp [dispatchOutputs, Host.presentEach_nil]
  | cons output rest ih =>
    by_cases hexpired : output.Expired now
    · simp [dispatchOutputs, Output.dispatchTimer_of_expired hexpired, ih, hexpired,
        Output.afterDispatch, Host.presentEach_cons, Nat.add_comm]
    · simp [dispatchOutputs, Output.dispatchTimer_of_not_expired hexpired, ih, hexpired,
        Output.afterDispatch]

theorem dispatchTimers_eq (backend : Backend δ) (now : Nat) (host : Host) :
    backend.dispatchTimers now host =
      ((backend.due now).length, backend.rested now, host.presentEach (backend.due now)) := by
  simp only [dispatchTimers, dispatchOutputs_eq, rested, due]

/-- The next deadline is the least of those that there are. -/
theorem nextFrameDeadline_eq_some_iff (backend : Backend δ) (next : Nat) :
    backend.nextFrameDeadline = some next ↔
      IsLeast {deadline | ∃ output ∈ backend.outputs, output.timer.deadline = some deadline}
        next := by
  simp only [nextFrameDeadline, List.min?_eq_some_iff, List.mem_filterMap, IsLeast, lowerBounds,
    Set.mem_ofPred_eq]

theorem nextFrameDeadline_eq_none_iff (backend : Backend δ) :
    backend.nextFrameDeadline = none ↔
      ∀ output ∈ backend.outputs, output.timer.deadline = none := by
  simp [nextFrameDeadline, List.filterMap_eq_nil_iff]

/-- Something fires exactly if the next deadline has come. -/
theorem one_le_length_due_iff (backend : Backend δ) (now : Nat) :
    1 ≤ (backend.due now).length ↔
      ∃ deadline, backend.nextFrameDeadline = some deadline ∧ deadline ≤ now := by
  rw [Nat.one_le_iff_ne_zero, Ne, List.length_eq_zero_iff, due, List.filter_eq_nil_iff]
  push Not
  simp only [decide_eq_true_eq]
  constructor
  · rintro ⟨output, houtput, deadline, hdeadline, hcome⟩
    have harmed : output.timer.isArmed := by simp [FrameTimer.isArmed, hdeadline]
    obtain ⟨armed, next, harmed, hnext, hle⟩ := exists_nextFrameDeadline_le houtput harmed
    obtain rfl : armed = deadline := Option.some.inj (harmed.symm.trans hdeadline)
    exact ⟨next, hnext, hle.trans hcome⟩
  · rintro ⟨deadline, hnext, hcome⟩
    obtain ⟨⟨output, houtput, hdeadline⟩, -⟩ :=
      (backend.nextFrameDeadline_eq_some_iff deadline).mp hnext
    exact ⟨output, houtput, deadline, hdeadline, hcome⟩

/-- Afterwards the next deadline is the least of those that had not come. -/
theorem nextFrameDeadline_rested_eq_some_iff (backend : Backend δ) (now next : Nat) :
    (backend.rested now).nextFrameDeadline = some next ↔
      IsLeast {deadline | now < deadline ∧
        ∃ output ∈ backend.outputs, output.timer.deadline = some deadline} next := by
  rw [nextFrameDeadline_eq_some_iff]
  refine iff_of_eq (congrArg (IsLeast · next) (Set.ext fun deadline ↦ ?_))
  simp only [rested, Set.mem_ofPred_eq, List.mem_map, exists_exists_and_eq_and,
    Output.deadline_afterDispatch]
  tauto

/-- Afterwards there is no next deadline exactly if none was left to come. -/
theorem nextFrameDeadline_rested_eq_none_iff (backend : Backend δ) (now : Nat) :
    (backend.rested now).nextFrameDeadline = none ↔
      ∀ output ∈ backend.outputs, output.timer.deadline = none ∨ output.Expired now := by
  rw [nextFrameDeadline_eq_none_iff, rested, List.forall_mem_map]
  refine forall₂_congr fun output _ ↦ ?_
  unfold Output.afterDispatch
  split
  · next hexpired => simp [Output.rested, hexpired]
  · next hwaits => simp [hwaits]

/-- A backend of which no deadline has come is left as it is. -/
theorem dispatchTimers_of_due_eq_nil {backend : Backend δ} {now : Nat}
    (hnone : backend.due now = []) (host : Host) :
    backend.dispatchTimers now host = (0, backend, host) := by
  have hwaits := List.filter_eq_nil_iff.mp hnone
  have hkept : backend.rested now = backend := by
    refine congrArg (Backend.mk · backend.active) ?_
    refine (List.map_congr_left fun output houtput ↦ ?_).trans (List.map_id _)
    exact if_neg (by simpa using hwaits output houtput)
  rw [dispatchTimers_eq, hnone, hkept, Host.presentEach_nil, List.length_nil]

/-- A second pass at the same time, or an earlier one, finds nothing. -/
theorem due_rested_eq_nil (backend : Backend δ) {now earlier : Nat} (hle : earlier ≤ now) :
    (backend.rested now).due earlier = [] := by
  refine List.filter_eq_nil_iff.mpr fun output houtput ↦ ?_
  obtain ⟨before, -, rfl⟩ := List.mem_map.mp houtput
  simpa using before.not_expired_afterDispatch hle

end Backend

/-! ### The loop -/

namespace Stage

variable [FramebufferDevice δ]

/-- A wakeup at a deadline does not come before the next deadline. -/
def Awaits (stage : Stage δ) : Wakeup → Prop
  | .deadline now => ∃ deadline, stage.backend.nextFrameDeadline = some deadline ∧ deadline ≤ now
  | .deactivate | .activate _ => True

/-- At each pass through the loop, the loop has slept until the next deadline unless the session
woke it. -/
def Timely : Stage δ → List Wakeup → Prop
  | _, [] => True
  | stage, wakeup :: rest => stage.Awaits wakeup ∧ Timely (stage.loop [wakeup]) rest

/-- The wakeup is one at a deadline. -/
def Wakeup.isDeadline : Wakeup → Bool
  | .deadline _ => true
  | .deactivate | .activate _ => false

/-- Each wakeup presents the frames that are due, and there is one at least if the loop was woken
at a deadline. -/
theorem frames_wakeup {stage : Stage δ} {wakeup : Wakeup} (hawaits : stage.Awaits wakeup) :
    stage.host.frames + wakeup.isDeadline.toNat ≤ (stage.loop [wakeup]).host.frames := by
  have hrun : stage.loop [wakeup] = stage.run wakeup.steps := by simp [loop]
  rw [hrun, frames_run]
  refine Nat.add_le_add_left ?_ _
  cases wakeup with
  | deadline now =>
    have hfires := (stage.backend.one_le_length_due_iff now).mpr hawaits
    have hcount : (stage.step (.dispatchTimers now)).1.total = (stage.backend.due now).length := by
      simp only [step, Backend.dispatchTimers_eq]
      rfl
    simpa [Wakeup.steps, fired, along, fires, hcount, Wakeup.isDeadline] using hfires
  | deactivate => exact Nat.zero_le _
  | activate now => exact Nat.zero_le _

/-- No wakeup at a deadline is in vain. -/
theorem frames_of_timely {stage : Stage δ} {wakeups : List Wakeup}
    (htimely : stage.Timely wakeups) :
    stage.host.frames + wakeups.countP Wakeup.isDeadline ≤ (stage.loop wakeups).host.frames := by
  induction wakeups generalizing stage with
  | nil => exact Nat.le_refl _
  | cons wakeup rest ih =>
    obtain ⟨hawaits, hrest⟩ := htimely
    have hloop : stage.loop (wakeup :: rest) = (stage.loop [wakeup]).loop rest := by
      simp [loop, run]
    have hfirst := frames_wakeup hawaits
    have hothers := ih hrest
    rw [hloop, List.countP_cons]
    cases hdeadline : wakeup.isDeadline <;> simp [hdeadline] at hfirst ⊢ <;> omega

end Stage

variable [FramebufferDevice δ]

/-- In any state of a backend, at any time and with any host,

* a pass over the timers counts the outputs whose deadline has come, tells the host once of each of
  them in their order, sets their timers at rest and changes nothing else;
* it counts one at least exactly if the next deadline has come;
* the next deadline is then the least of those that had not come, and there is none if all had;
* a second pass at the same time changes nothing and tells nobody anything;
* as long as the loop sleeps until the next deadline, each wakeup at a deadline presents a frame,
  whatever else wakes the loop in between. -/
theorem dispatch_fires_exactly_due (stage : Stage δ) (now : Nat) :
    let backend := stage.backend
    let due := backend.outputs.filter fun output ↦ output.Expired now
    let after : Backend δ :=
      { backend with
        outputs := backend.outputs.map fun output ↦
          if output.Expired now then output.rested else output }
    let told : Host :=
      { stage.host with
        readings := stage.host.readings + due.length
        events := stage.host.events ++ due.mapIdx fun index output ↦
          .finished output.name (stage.host.clock (stage.host.readings + index)) .none }
    backend.dispatchTimers now stage.host = (due.length, after, told) ∧
    (1 ≤ due.length ↔
      ∃ deadline, backend.nextFrameDeadline = some deadline ∧ deadline ≤ now) ∧
    (∀ deadline, after.nextFrameDeadline = some deadline ↔
      IsLeast {later | now < later ∧
        ∃ output ∈ backend.outputs, output.timer.deadline = some later} deadline) ∧
    (after.nextFrameDeadline = none ↔
      ∀ output ∈ backend.outputs, output.timer.deadline = none ∨ output.Expired now) ∧
    (∀ host, after.dispatchTimers now host = (0, after, host)) ∧
    ∀ wakeups, stage.Timely wakeups →
      stage.host.frames + wakeups.countP Stage.Wakeup.isDeadline ≤
        (stage.loop wakeups).host.frames := by
  intro backend due after told
  have hafter : after = backend.rested now := rfl
  refine ⟨backend.dispatchTimers_eq now stage.host, backend.one_le_length_due_iff now, ?_, ?_, ?_,
    fun wakeups htimely ↦ Stage.frames_of_timely htimely⟩
  · intro deadline
    exact backend.nextFrameDeadline_rested_eq_some_iff now deadline
  · rw [hafter]
    exact backend.nextFrameDeadline_rested_eq_none_iff now
  · intro host
    exact Backend.dispatchTimers_of_due_eq_nil (backend.due_rested_eq_nil (Nat.le_refl now)) host

/-- Three outputs, of which the first was painted before the second and the third never, are all
disabled. At the very deadline of the first, it alone fires, and the second is waited for. Painted
again at an activation, all wait for one later deadline. -/
theorem first_of_three_fires :
    let source := ScreenSource.always (.ok (.withSize 2 1))
    let renderer := Renderer.solid Renderer.defaultColor fun _ ↦ none
    let stage := (Stage.start source renderer (.atTime 7)).run
      [.addOutput "first" HeapStorage.working, .repaintPending 0,
        .addOutput "second" HeapStorage.working, .repaintPending 5000,
        .addOutput "third" HeapStorage.working, .notifySession false]
    let (count, after, host) := stage.backend.dispatchTimers 16000 stage.host
    let wakeups := [.deadline 16000, .activate 20000, .deadline 36000]
    (stage.backend.outputs.map fun output ↦ output.timer.deadline) =
      [some 16000, some 21000, none] ∧
    (∀ output ∈ stage.backend.outputs, output.state = .disabled) ∧
    count = 1 ∧ host.events = [.finished "first" 7 .none] ∧
    after.nextFrameDeadline = some 21000 ∧ after.dispatchTimers 16000 host = (0, after, host) ∧
    stage.Timely wakeups ∧ 2 ≤ (stage.loop wakeups).host.frames := by
  intro source renderer stage
  obtain ⟨hpass, -, -, -, hagain, hframes⟩ := dispatch_fires_exactly_due stage 16000
  have htimely : stage.Timely [.deadline 16000, .activate 20000, .deadline 36000] :=
    ⟨⟨16000, by decide +kernel, by decide⟩, trivial, ⟨36000, by decide +kernel, by decide⟩, trivial⟩
  rw [hpass]
  refine ⟨by decide +kernel, by decide +kernel, by decide +kernel, by decide +kernel,
    by decide +kernel, hagain _, htimely, ?_⟩
  exact (by decide +kernel : 2 ≤ stage.host.frames + 2).trans (hframes _ htimely)

end HeadlessDisplay
