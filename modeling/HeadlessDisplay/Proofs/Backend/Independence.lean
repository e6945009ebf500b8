import HeadlessDisplay.Proofs.Backend.Activation
import HeadlessDisplay.Proofs.Backend.Passes

/-!
# Outputs do not interfere

A backend serves each of its outputs as if there were no other. The devices handed in are on record
and numbered; `withoutOthers` takes out of a run the operations that add an output of another
number, and every other operation stays, in its moment. `Alone` is the relation between a stage
and the stage with one number only, which every operation keeps: the outputs and the devices let go
are those of that number, in the same state, with the same calls made on them. Whatever the host
is told is told for one output (`reports`), and where an output is alone the host hears what it is
told for that output and nothing else.

What a backend says of all its outputs is put together from what it says where each is alone: the
next deadline is the least, and the outputs painted and the timers fired are the sum
(`outputs_do_not_interfere`).

The renderer fills with one colour. A renderer that counts its calls, or fails at some of them,
would carry something from one output to the next.
-/

set_option autoImplicit false
set_option relaxedAutoImplicit false

namespace HeadlessDisplay

/-! ### Lists that fall apart by number -/

/-- Elements sorted by their number are the elements. -/
theorem perm_flatMap_filter {α : Type} (number : α → Nat) (elements : List α) (bound : Nat) :
    ((List.range bound).flatMap fun place ↦ elements.filter (number · == place)).Perm
      (elements.filter (number · < bound)) := by
  induction bound with
  | zero => simp
  | succ bound ih =>
    rw [List.range_succ, List.flatMap_append, List.flatMap_singleton]
    have hsplit := List.filter_append_perm (number · < bound)
      (elements.filter (number · < bound + 1))
    simp only [List.filter_filter] at hsplit
    refine .trans (.trans (ih.append_right _) (.of_eq ?_)) hsplit
    congr 1 <;> refine List.filter_congr fun element _ ↦ ?_ <;> grind

/-- The least of all is the least of the least of each part. -/
theorem min?_eq_min?_of_parts {κ : Type} {parts : List κ} {times : κ → List Nat} {all : List Nat}
    (hparts : ∀ time, time ∈ all ↔ ∃ part ∈ parts, time ∈ times part) :
    all.min? = (parts.filterMap fun part ↦ (times part).min?).min? := by
  refine Option.ext fun least ↦ ?_
  simp only [List.min?_eq_some_iff, List.mem_filterMap]
  constructor
  · rintro ⟨hmem, hleast⟩
    obtain ⟨part, hpart, htime⟩ := (hparts least).mp hmem
    refine ⟨⟨part, hpart, htime, fun time hin ↦ hleast time ((hparts time).mpr ⟨part, hpart, hin⟩)⟩,
      ?_⟩
    rintro time ⟨other, hother, hin, -⟩
    exact hleast time ((hparts time).mpr ⟨other, hother, hin⟩)
  · rintro ⟨⟨part, hpart, htime, -⟩, hleast⟩
    refine ⟨(hparts least).mpr ⟨part, hpart, htime⟩, fun time hmem ↦ ?_⟩
    obtain ⟨other, hother, hin⟩ := (hparts time).mp hmem
    obtain ⟨first, hfirst⟩ : ∃ first, (times other).min? = some first :=
      Option.ne_none_iff_exists'.mp fun hnone ↦ by
        rw [List.min?_eq_none_iff.mp hnone] at hin
        exact absurd hin List.not_mem_nil
    have hpair := List.min?_eq_some_iff.mp hfirst
    exact (hleast first ⟨other, hother, hpair⟩).trans (hpair.2 time hin)

/-- What keeps a test commutes with it. -/
theorem filter_filterMap_of_kept {α β : Type} {next : α → Option β} {before : α → Bool}
    {after : β → Bool} (hkept : ∀ element result, next element = some result →
      after result = before element) (elements : List α) :
    (elements.filterMap next).filter after = (elements.filter before).filterMap next := by
  rw [List.filter_filterMap, List.filterMap_filter]
  refine List.filterMap_congr fun element _ ↦ ?_
  cases hnext : next element with
  | none => simp
  | some result =>
    have htest := hkept element result hnext
    cases hbefore : before element <;> simp [htest, hbefore, Option.filter]

variable {δ : Type}

theorem length_recordedSteps (number : Nat) (steps : List (BackendStep δ)) :
    (recordedSteps number steps).length = steps.length := by
  induction steps generalizing number with
  | nil => rfl
  | cons step rest ih => simp [recordedSteps, ih]

variable [FramebufferDevice δ]

/-! ### An operation keeps devices with their outputs -/

namespace KeptByCalls

variable {τ : Type} {tag : δ → τ} (htag : KeptByCalls tag)

include htag

/-- An output keeps its device. -/
theorem next {moment : Moment} {output after : Output δ} {step : BackendStep δ}
    (hnext : output.next moment step = some after) : tag after.device = tag output.device := by
  cases step with
  | addOutput _ _ | startRepaintLoop =>
    obtain rfl := Option.some.inj hnext
    rfl
  | notifySession active =>
    cases active with
    | true =>
      unfold Output.next at hnext
      dsimp only at hnext
      split at hnext
      · next back _ hreenable =>
        have hdevice := htag.reenable output moment.source
        rw [hreenable] at hdevice
        obtain rfl := Option.some.inj hnext
        simpa using hdevice
      · simp at hnext
    | false =>
      obtain rfl := Option.some.inj hnext
      exact htag.disable output
  | repaintPending now =>
    obtain rfl := Option.some.inj hnext
    split
    · exact htag.repaint output.takeDamage.2 output.takeDamage.1 moment.renderer now
    · rfl
  | damageAll =>
    obtain rfl := Option.some.inj hnext
    simp
  | dispatchTimers now =>
    obtain rfl := Option.some.inj hnext
    rfl
  | shutdown => simp [Output.next] at hnext

/-- The device let go is that of the output. -/
theorem letGo {moment : Moment} {output : Output δ} {left : δ} {step : BackendStep δ}
    (hletGo : output.letGo moment step = some left) : tag left = tag output.device := by
  cases step with
  | notifySession active =>
    cases active with
    | true =>
      unfold Output.letGo at hletGo
      dsimp only at hletGo
      split at hletGo
      · simp at hletGo
      · next other _ hreenable =>
        have hdevice := htag.reenable output moment.source
        rw [hreenable] at hdevice
        obtain rfl := Option.some.inj hletGo
        exact (htag.destroy other).trans hdevice
    | false => simp [Output.letGo] at hletGo
  | shutdown =>
    obtain rfl := Option.some.inj hletGo
    exact htag.destroy output
  | _ => simp [Output.letGo] at hletGo

/-- What an operation adds or lets go at once is what it was handed. -/
theorem entry (moment : Moment) (active : Bool) (step : BackendStep δ) :
    (∀ added ∈ (step.entry moment active).1,
      ∃ device ∈ step.devices, tag added.device = tag device) ∧
    ∀ left ∈ (step.entry moment active).2, ∃ device ∈ step.devices, tag left = tag device := by
  cases step with
  | addOutput name device =>
    have hperm := htag.perm_addOutput ⟨[], active⟩ name device moment.source
    simp only [List.map_nil, List.nil_append] at hperm
    constructor
    · intro added hadded
      have hmem := hperm.subset (List.mem_append_right _ (List.mem_map_of_mem hadded))
      exact ⟨device, .head _, List.mem_singleton.mp hmem⟩
    · intro left hleft
      have hmem := hperm.subset (List.mem_append_left _ (List.mem_map_of_mem hleft))
      exact ⟨device, .head _, List.mem_singleton.mp hmem⟩
  | _ => simp [BackendStep.entry]

end KeptByCalls

/-! ### Runs through moments -/

/-- Carries out operations one after another, each in its moment. -/
def Stage.runThrough (stage : Stage δ) (steps : List (Moment × BackendStep δ)) : Stage δ :=
  steps.foldl (fun stage (moment, step) ↦ (stage.stepIn moment step).2) stage

/-- The operations over recorded devices, numbered from zero on. -/
def recordedThrough (steps : List (Moment × BackendStep δ)) :
    List (Moment × BackendStep (RecordedStorage δ)) :=
  (steps.map Prod.fst).zip (recordedSteps 0 (steps.map Prod.snd))

/-- The operations but for those that are about outputs of other numbers. -/
def withoutOthers (number : Nat) (steps : List (Moment × BackendStep (RecordedStorage δ))) :
    List (Moment × BackendStep (RecordedStorage δ)) :=
  steps.filter fun (_, step) ↦ step.devices.all (·.number == number)

/-- What the host is told in a run, with the number of the output that it is told for. -/
def reports (stage : Stage (RecordedStorage δ)) :
    List (Moment × BackendStep (RecordedStorage δ)) → List (Nat × HostEvent)
  | [] => []
  | (moment, step) :: rest =>
    (stage.backend.outputs.flatMap fun output ↦
      (output.told moment step).map (output.device.number, ·)) ++
    reports (stage.stepIn moment step).2 rest

/-- The outputs of one number are all that there is on the second stage, and they are the same. -/
structure Alone (number : Nat) (full alone : Stage (RecordedStorage δ)) : Prop where
  active : alone.backend.active = full.backend.active
  outputs : alone.backend.outputs = full.backend.outputs.filter (·.device.number == number)
  released : alone.released = full.released.filter (·.number == number)

/-- The host is told of the outputs of a number what it is told where they are alone. -/
theorem map_filter_told (moment : Moment) (step : BackendStep (RecordedStorage δ)) (number : Nat)
    (outputs : List (Output (RecordedStorage δ))) :
    (((outputs.flatMap fun output ↦ (output.told moment step).map (output.device.number, ·)).filter
      (·.1 == number)).map Prod.snd) =
    (outputs.filter (·.device.number == number)).flatMap (·.told moment step) := by
  induction outputs with
  | nil => rfl
  | cons output rest ih =>
    rw [List.flatMap_cons, List.filter_append, List.map_append, ih, List.filter_map]
    cases hnumber : output.device.number == number <;>
      simp [hnumber, Function.comp_def]

/-- Adding an output tells the host nothing of the others. -/
theorem flatMap_told_addOutput (moment : Moment) (name : String) (device : RecordedStorage δ)
    (outputs : List (Output (RecordedStorage δ))) :
    outputs.flatMap (·.told moment (.addOutput name device)) = [] :=
  List.flatMap_eq_nil_iff.mpr fun _ _ ↦ rfl

/-- What an operation about one number adds or lets go at once is of that number. -/
theorem filter_entry_of_all {number : Nat} {step : BackendStep (RecordedStorage δ)}
    (hkept : step.devices.all (·.number == number)) (moment : Moment) (active : Bool) :
    (step.entry moment active).1.filter (·.device.number == number) =
        (step.entry moment active).1 ∧
      (step.entry moment active).2.filter (·.number == number) =
        (step.entry moment active).2 := by
  obtain ⟨hadded, hleft⟩ := RecordedStorage.number_keptByCalls.entry moment active step
  rw [List.all_eq_true] at hkept
  constructor
  · refine List.filter_eq_self.mpr fun added hmem ↦ ?_
    obtain ⟨device, hdevice, hnumber⟩ := hadded added hmem
    rw [hnumber]
    exact hkept device hdevice
  · refine List.filter_eq_self.mpr fun left hmem ↦ ?_
    obtain ⟨device, hdevice, hnumber⟩ := hleft left hmem
    rw [hnumber]
    exact hkept device hdevice

namespace Alone

variable {number : Nat} {full alone : Stage (RecordedStorage δ)} (halone : Alone number full alone)

include halone

/-- An operation that is not about the outputs of other numbers keeps the relation. -/
theorem stepIn (moment : Moment) {step : BackendStep (RecordedStorage δ)}
    (hkept : step.devices.all (·.number == number)) :
    Alone number (full.stepIn moment step).2 (alone.stepIn moment step).2 := by
  have hfull := full.acts_pointwise moment step
  have hsingle := alone.acts_pointwise moment step
  have htag : KeptByCalls (RecordedStorage.number : RecordedStorage δ → Nat) :=
    RecordedStorage.number_keptByCalls
  obtain ⟨hadded, hleft⟩ := filter_entry_of_all hkept moment full.backend.active
  constructor
  · simp only [Stage.stepIn, Stage.active_step, Stage.backend_meet, halone.active]
  · rw [hsingle.outputs, hfull.outputs, halone.outputs, halone.active, List.filter_append, hadded,
      filter_filterMap_of_kept fun output after hnext ↦ by rw [htag.next hnext]]
  · rw [hsingle.released, hfull.released, halone.released, halone.outputs, halone.active,
      List.filter_append, List.filter_append, hleft,
      filter_filterMap_of_kept fun output left hletGo ↦ by rw [htag.letGo hletGo]]

/-- Where an output of another number is added, nothing happens to this one. -/
theorem dropped (moment : Moment) {step : BackendStep (RecordedStorage δ)}
    (hdropped : step.devices.all (·.number == number) = false) :
    Alone number (full.stepIn moment step).2 alone := by
  have hfull := full.acts_pointwise moment step
  obtain ⟨hadded, hleft⟩ :=
    RecordedStorage.number_keptByCalls.entry moment full.backend.active step
  cases step with
  | addOutput name device =>
    have hother : (device.number == number) = false := by
      simpa [BackendStep.devices] using hdropped
    simp only [BackendStep.devices, List.mem_singleton, exists_eq_left] at hadded hleft
    have hnone : ((BackendStep.addOutput name device).entry moment full.backend.active).1.filter
        (·.device.number == number) = [] :=
      List.filter_eq_nil_iff.mpr fun added hmem ↦ by simp [hadded added hmem, hother]
    have hgone : ((BackendStep.addOutput name device).entry moment full.backend.active).2.filter
        (·.number == number) = [] :=
      List.filter_eq_nil_iff.mpr fun left hmem ↦ by simp [hleft left hmem, hother]
    constructor
    · simp only [halone.active, Stage.stepIn, Stage.active_step, Stage.backend_meet]
      rfl
    · rw [hfull.outputs, List.filter_append, hnone]
      simp [Output.next, halone.outputs]
    · rw [hfull.released, List.filter_append, List.filter_append, hgone]
      simp [Output.letGo, halone.released]
  | _ => simp [BackendStep.devices] at hdropped

/-- An output stays as it is, and the host hears the same for it, where the outputs of other numbers
are left out. -/
theorem run (steps : List (Moment × BackendStep (RecordedStorage δ))) :
    Alone number (full.runThrough steps) (alone.runThrough (withoutOthers number steps)) ∧
      alone.host.Hears (((reports full steps).filter (·.1 == number)).map Prod.snd)
        (alone.runThrough (withoutOthers number steps)).host := by
  induction steps generalizing full alone with
  | nil => exact ⟨halone, alone.host.hears_nil⟩
  | cons first rest ih =>
    obtain ⟨moment, step⟩ := first
    simp only [reports, List.filter_append, List.map_append, map_filter_told]
    cases hkept : step.devices.all (·.number == number) with
    | true =>
      obtain ⟨hafter, hlater⟩ := ih (halone.stepIn moment hkept)
      have hsteps : withoutOthers number ((moment, step) :: rest) =
          (moment, step) :: withoutOthers number rest :=
        List.filter_cons_of_pos hkept
      have hfirst := (alone.acts_pointwise moment step).hears
      rw [halone.outputs] at hfirst
      rw [hsteps]
      exact ⟨hafter, hfirst.append hlater⟩
    | false =>
      obtain ⟨hafter, hlater⟩ := ih (halone.dropped moment hkept)
      have hsteps : withoutOthers number ((moment, step) :: rest) = withoutOthers number rest :=
        List.filter_cons_of_neg (by simp [hkept])
      rw [hsteps]
      refine ⟨hafter, ?_⟩
      cases step with
      | addOutput name device =>
        rw [flatMap_told_addOutput]
        exact hlater
      | _ => simp [BackendStep.devices] at hkept

end Alone

/-! ### The backend as a whole -/

/-- The host hears what the reports say. -/
theorem hears_runThrough (stage : Stage (RecordedStorage δ))
    (steps : List (Moment × BackendStep (RecordedStorage δ))) :
    stage.host.Hears ((reports stage steps).map Prod.snd) (stage.runThrough steps).host := by
  induction steps generalizing stage with
  | nil => exact stage.host.hears_nil
  | cons first rest ih =>
    obtain ⟨moment, step⟩ := first
    have hall := (stage.acts_pointwise moment step).hears.append (ih _)
    simp only [reports, List.map_append, List.map_flatMap, List.map_map, Function.comp_def,
      List.map_id']
    exact hall

/-- The devices of a run are those handed in. -/
theorem perm_devices_runThrough (stage : Stage (RecordedStorage δ))
    (steps : List (Moment × BackendStep (RecordedStorage δ))) :
    ((stage.runThrough steps).devices.map RecordedStorage.number).Perm
      (stage.devices.map RecordedStorage.number ++
        (handedIn (steps.map Prod.snd)).map RecordedStorage.number) := by
  induction steps generalizing stage with
  | nil => simp [Stage.runThrough, handedIn]
  | cons first rest ih =>
    obtain ⟨moment, step⟩ := first
    refine (ih (stage.stepIn moment step).2).trans ?_
    simp only [handedIn, List.map_cons, List.flatMap_cons, List.map_append]
    rw [← List.append_assoc]
    exact (RecordedStorage.number_keptByCalls.perm_step (stage.meet moment) step).append_right _

/-- The devices of a recorded run have the numbers that were given out, each once. -/
theorem perm_devices_recordedThrough (source : ScreenSource) (renderer : Renderer) (host : Host)
    (steps : List (Moment × BackendStep δ)) :
    (((Stage.start source renderer host).runThrough (recordedThrough steps)).devices.map
      RecordedStorage.number).Perm (List.range (handedIn (steps.map Prod.snd)).length) := by
  have hperm := perm_devices_runThrough (Stage.start source renderer host) (recordedThrough steps)
  have hsteps : (recordedThrough steps).map Prod.snd = recordedSteps 0 (steps.map Prod.snd) :=
    List.map_snd_zip (by simp [length_recordedSteps])
  rw [hsteps, map_number_handedIn_recordedSteps, ← List.range_eq_range'] at hperm
  exact hperm

section

variable {full : Stage (RecordedStorage δ)} {alone : Nat → Stage (RecordedStorage δ)} {bound : Nat}
  (halone : ∀ number, Alone number full (alone number))
  (hbound : ∀ output ∈ full.backend.outputs, output.device.number < bound)

include halone hbound

omit [FramebufferDevice δ] in
/-- The next deadline is the least of those where each output is alone. -/
theorem nextFrameDeadline_of_alone :
    full.backend.nextFrameDeadline =
      ((List.range bound).filterMap fun number ↦
        (alone number).backend.nextFrameDeadline).min? := by
  refine min?_eq_min?_of_parts fun time ↦ ?_
  simp only [(halone _).outputs, List.mem_filterMap, List.mem_filter, List.mem_range, beq_iff_eq]
  constructor
  · rintro ⟨output, houtput, hdeadline⟩
    exact ⟨output.device.number, hbound output houtput, output, ⟨houtput, rfl⟩, hdeadline⟩
  · rintro ⟨number, -, output, ⟨houtput, -⟩, hdeadline⟩
    exact ⟨output, houtput, hdeadline⟩

/-- An operation concerns as many outputs as where each of them is alone. -/
theorem total_of_alone (moment : Moment) (step : BackendStep (RecordedStorage δ)) :
    (full.stepIn moment step).1.total =
      ((List.range bound).map fun number ↦ ((alone number).stepIn moment step).1.total).sum := by
  have hparts := perm_flatMap_filter (·.device.number) full.backend.outputs bound
  have hall : full.backend.outputs.filter (·.device.number < bound) = full.backend.outputs :=
    List.filter_eq_self.mpr fun output houtput ↦ by simpa using hbound output houtput
  rw [hall] at hparts
  have htotal (number : Nat) : ((alone number).stepIn moment step).1.total =
      (full.backend.outputs.filter (·.device.number == number)).countP
        (·.counts moment step) := by
    rw [((alone number).acts_pointwise moment step).total, (halone number).outputs]
  rw [(full.acts_pointwise moment step).total, ← hparts.countP_eq, List.countP_flatMap]
  simp only [htotal, Function.comp_def]

end

/-- In every run of a backend in which each operation meets one answer of the source, one time of
the clock and a renderer of one colour, whatever the devices do,

* each output, held or let go, is at every point what it is where the outputs of other numbers were
  never added and everything else was done as in the run: the same state, surface and deadline, with
  the same calls made on its device,
* the host is told for it what it is told there, and is told nothing else in between but what it is
  told for other outputs,
* the numbers are those of the devices handed in, so that nothing is left out,
* the next deadline is the least of those of the outputs by themselves,
* every operation concerns as many outputs as it does, one by one, with each of them by itself. -/
theorem outputs_do_not_interfere (source : ScreenSource) (renderer : Renderer) (host : Host)
    (steps : List (Moment × BackendStep δ)) :
    let start : Stage (RecordedStorage δ) := .start source renderer host
    let numbered := recordedThrough steps
    let count := (handedIn (steps.map Prod.snd)).length
    let full := start.runThrough numbered
    let alone number := start.runThrough (withoutOthers number numbered)
    (∀ number, Alone number full (alone number)) ∧
    (∀ number, host.Hears (((reports start numbered).filter (·.1 == number)).map Prod.snd)
      (alone number).host) ∧
    host.Hears ((reports start numbered).map Prod.snd) full.host ∧
    (full.devices.map RecordedStorage.number).Perm (List.range count) ∧
    full.backend.nextFrameDeadline =
      ((List.range count).filterMap fun number ↦ (alone number).backend.nextFrameDeadline).min? ∧
    ∀ moment step, (full.stepIn moment step).1.total =
      ((List.range count).map fun number ↦ ((alone number).stepIn moment step).1.total).sum := by
  intro start numbered count full alone
  have hstart (number : Nat) : Alone number start start :=
    ⟨rfl, by simp [start, Stage.start, Backend.empty], by simp [start, Stage.start]⟩
  have halone (number : Nat) : Alone number full (alone number) :=
    ((hstart number).run numbered).1
  have hperm : (full.devices.map RecordedStorage.number).Perm (List.range count) :=
    perm_devices_recordedThrough source renderer host steps
  have hbound : ∀ output ∈ full.backend.outputs, output.device.number < count := by
    intro output houtput
    have hdevice : output.device ∈ full.devices :=
      List.mem_append_right _ (List.mem_map_of_mem houtput)
    exact List.mem_range.mp (hperm.subset (List.mem_map_of_mem hdevice))
  refine ⟨halone, fun number ↦ ((hstart number).run numbered).2,
    hears_runThrough start numbered, hperm, nextFrameDeadline_of_alone halone hbound, ?_⟩
  intro moment step
  exact total_of_alone halone hbound moment step

end HeadlessDisplay
