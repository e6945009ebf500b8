import HeadlessDisplay.Proofs.Backend.Laws
import HeadlessDisplay.Proofs.Output.StorageLife
import Mathlib.Data.List.Nodup

/-!
# The life cycle of every device handed to a backend

Every use that a backend makes of a device follows the device's own life cycle, in every run and
whatever the devices, the source and the renderer answer. The devices handed in are put on record
and numbered in the order in which they are handed in (`recordedSteps`); `Stage.devices` are the
devices that are held by an output or were let go.

`attachedLaw` lifts the life cycle under one output to a backend. `KeptByCalls.perm_run` says that
no device is lost or doubled: the numbers of all devices are always those given out. Dropping a
backend drops the outputs it still holds, which to their devices is the same as shutting it down
(`Stage.drop_eq_shutdown`). `storage_life` puts these together: the calls on each device follow the
automaton of `StoragePhase.after`, a device that was let go is closed and is not called again, an
output that cannot be added leaves the outputs as they were, and shutting down or dropping lets
every device go.
-/

set_option autoImplicit false
set_option relaxedAutoImplicit false

namespace HeadlessDisplay

variable {δ : Type}

/-! ### Devices on record -/

/-- The operation over recorded devices, where a device that is handed in gets a number. -/
def BackendStep.recorded (number : Nat) : BackendStep δ → BackendStep (RecordedStorage δ)
  | .addOutput name device => .addOutput name (.fresh number device)
  | .notifySession active => .notifySession active
  | .repaintPending now => .repaintPending now
  | .damageAll => .damageAll
  | .dispatchTimers now => .dispatchTimers now
  | .startRepaintLoop => .startRepaintLoop
  | .shutdown => .shutdown

/-- The operations over recorded devices, numbered from the given number on. -/
def recordedSteps : Nat → List (BackendStep δ) → List (BackendStep (RecordedStorage δ))
  | _, [] => []
  | number, step :: rest =>
    step.recorded number :: recordedSteps (number + step.devices.length) rest

/-- The devices that operations hand in. -/
def handedIn (steps : List (BackendStep δ)) : List δ :=
  steps.flatMap BackendStep.devices

/-- The devices let go and those of the outputs. -/
def Stage.devices (stage : Stage δ) : List δ :=
  stage.released ++ stage.backend.outputs.map Output.device

/-- Recording goes on with the next number. -/
theorem recordedSteps_append (number : Nat) (first second : List (BackendStep δ)) :
    recordedSteps number (first ++ second) =
      recordedSteps number first ++ recordedSteps (number + (handedIn first).length) second := by
  induction first generalizing number with
  | nil => rfl
  | cons step rest ih =>
    simp only [List.cons_append, recordedSteps, ih, handedIn, List.flatMap_cons, List.length_append]
    rw [Nat.add_assoc]

/-- Shutting down hands in no device. -/
theorem length_handedIn_shutdown (steps : List (BackendStep δ)) :
    (handedIn (steps ++ [.shutdown])).length = (handedIn steps).length := by
  simp [handedIn, BackendStep.devices]

/-- Recorded devices have consecutive numbers. -/
theorem map_number_handedIn_recordedSteps (number : Nat) (steps : List (BackendStep δ)) :
    (handedIn (recordedSteps number steps)).map RecordedStorage.number =
      List.range' number (handedIn steps).length := by
  induction steps generalizing number with
  | nil => rfl
  | cons step rest ih =>
    simp only [handedIn] at ih
    simp only [handedIn, recordedSteps, List.flatMap_cons, List.map_append, ih, List.length_append]
    cases step with
    | addOutput name device =>
      simp only [BackendStep.recorded, BackendStep.devices, RecordedStorage.fresh, List.map_cons,
        List.map_nil, List.length_singleton]
      rw [Nat.add_comm 1, List.range'_succ]
      rfl
    | _ => simp [BackendStep.recorded, BackendStep.devices]

/-- No call was made on a recorded device before it is handed in. -/
theorem calls_eq_nil_of_mem_recordedSteps {number : Nat} {steps : List (BackendStep δ)}
    {step : BackendStep (RecordedStorage δ)} (hstep : step ∈ recordedSteps number steps)
    {device : RecordedStorage δ} (hdevice : device ∈ step.devices) : device.calls = [] := by
  induction steps generalizing number with
  | nil => simp [recordedSteps] at hstep
  | cons first rest ih =>
    rcases List.mem_cons.mp hstep with rfl | hlater
    · cases first with
      | addOutput name device =>
        obtain rfl := List.mem_singleton.mp hdevice
        rfl
      | _ => simp [BackendStep.recorded, BackendStep.devices] at hdevice
    · exact ih hlater

@[simp]
theorem Output.device_damageAll (output : Output δ) : output.damageAll.device = output.device := by
  unfold damageAll addDamage
  split <;> rfl

@[simp]
theorem Output.device_dispatchTimer (output : Output δ) (now : Nat) (host : Host) :
    (output.dispatchTimer now host).2.1.device = output.device := by
  unfold dispatchTimer
  split <;> rfl

/-- Firing the timers keeps each device with its output. -/
theorem Backend.map_dispatchOutputs {τ : Type} (now : Nat) (outputs : List (Output δ)) (host : Host)
    (tag : δ → τ) :
    ((dispatchOutputs now outputs host).2.1.map fun output ↦ tag output.device) =
      outputs.map fun output ↦ tag output.device := by
  induction outputs generalizing host with
  | nil => rfl
  | cons output rest ih =>
    have hdevice := congrArg tag (output.device_dispatchTimer now host)
    exact congrArg₂ List.cons hdevice (ih _)

variable [FramebufferDevice δ]

/-- No call on a device changes the tag. -/
structure KeptByCalls {τ : Type} (tag : δ → τ) : Prop where
  openAt : ∀ device layout, tag (FramebufferDevice.openAt device layout).2 = tag device
  map : ∀ device layout, tag (FramebufferDevice.map device layout).2 = tag device
  unmap : ∀ device mapping, tag (FramebufferDevice.unmap device mapping) = tag device
  close : ∀ device, tag (FramebufferDevice.close device) = tag device
  writeThrough : ∀ device memory, tag (FramebufferDevice.writeThrough device memory) = tag device

/-- A recorded device keeps its number. -/
theorem RecordedStorage.number_keptByCalls :
    KeptByCalls (RecordedStorage.number : RecordedStorage δ → Nat) where
  openAt storage layout := by
    simp only [FramebufferDevice.openAt]
    split <;> rfl
  map storage layout := by
    simp only [FramebufferDevice.map]
    split <;> rfl
  unmap _ _ := rfl
  close _ := rfl
  writeThrough _ _ := rfl

/-!
### No device is lost or doubled

An operation on an output makes calls on its device, so a tag that calls keep stays with the output.
-/

namespace KeptByCalls

variable {τ : Type} {tag : δ → τ} (htag : KeptByCalls tag)

include htag

theorem of_openAt {device after : δ} {layout : Layout} {result : Except StorageFailure Unit}
    (hopen : FramebufferDevice.openAt device layout = (result, after)) :
    tag after = tag device := by
  simpa only [hopen] using htag.openAt device layout

theorem of_map {device after : δ} {layout : Layout} {result : Except StorageFailure Mapping}
    (hmap : FramebufferDevice.map device layout = (result, after)) : tag after = tag device := by
  simpa only [hmap] using htag.map device layout

/-- Creating an output keeps the tag of the device, whether it is held or given back. -/
theorem create {name : String} {device : δ} {source : ScreenSource}
    {outcome : Except (OutputError × δ) (Output δ) × ScreenSource}
    (houtcome : Output.CreateOutcome name device source outcome) :
    (∀ output, outcome.1 = .ok output → tag output.device = tag device) ∧
      ∀ error left, outcome.1 = .error (error, left) → tag left = tag device := by
  cases houtcome with
  | queryFailed hanswer => simp
  | invalid hanswer hlayout => simp
  | openFailed hanswer hlayout hopen => simpa using htag.of_openAt hopen
  | created hanswer hlayout hopen => simpa using htag.of_openAt hopen

theorem mapOutcome {output : Output δ} {outcome : Except OutputError Unit × Output δ}
    (houtcome : Output.MapOutcome output outcome) : tag outcome.2.device = tag output.device := by
  cases houtcome with
  | failed hmap => exact htag.of_map hmap
  | rejected hmap hsize => exact (htag.unmap _ _).trans (htag.of_map hmap)
  | mapped hmap hsize => exact htag.of_map hmap

theorem enable (output : Output δ) : tag output.enable.2.device = tag output.device := by
  have hmapped := htag.mapOutcome (.of_eq (Eq.refl output.mapSurface))
  unfold Output.enable
  split
  · rfl
  · rfl
  · exact hmapped
  · exact hmapped

theorem of_enable {output left : Output δ} {result : Except OutputError Unit}
    (henable : output.enable = (result, left)) : tag left.device = tag output.device := by
  simpa only [henable] using htag.enable output

theorem reopenOutcome {output : Output δ} {descriptor : ScreenDescriptor} {layout : Layout}
    {outcome : Except OutputError Unit × Output δ}
    (houtcome : Output.ReopenOutcome output descriptor layout outcome) :
    tag outcome.2.device = tag output.device := by
  cases houtcome with
  | failed hopen => exact (htag.of_openAt hopen).trans (htag.close _)
  | reopened hopen => exact (htag.of_openAt hopen).trans (htag.close _)

theorem adoptOutcome {output : Output δ} {fresh : ScreenDescriptor}
    {outcome : Except OutputError Reenabled × Output δ}
    (houtcome : Output.AdoptOutcome output fresh outcome) :
    tag outcome.2.device = tag output.device := by
  cases houtcome with
  | remapFailed hsame henable =>
    have hkept := htag.of_enable henable
    exact hkept
  | remapped hsame henable =>
    have hkept := htag.of_enable henable
    exact hkept
  | invalid hchanged hlayout => rfl
  | reopenFailed hchanged hlayout hreopen => exact htag.reopenOutcome (.of_eq hreopen)
  | recreateFailed hchanged hlayout hreopen henable =>
    exact (htag.of_enable henable).trans (htag.reopenOutcome (.of_eq hreopen))
  | recreated hchanged hlayout hreopen henable =>
    exact (htag.of_enable henable).trans (htag.reopenOutcome (.of_eq hreopen))

theorem reenable (output : Output δ) (source : ScreenSource) :
    tag (output.reenable source).2.1.device = tag output.device := by
  generalize hreenable : output.reenable source = outcome
  cases Output.ReenableOutcome.of_eq hreenable with
  | destroyed hstate => rfl
  | alreadyMapped hstate => rfl
  | queryFailed hwaiting hanswer => rfl
  | answered hwaiting hanswer hadopt => exact htag.adoptOutcome hadopt

theorem release (output : Output δ) : tag output.release.device = tag output.device := by
  unfold Output.release
  split
  · rfl
  · exact htag.unmap _ _

theorem disable (output : Output δ) : tag output.disable.device = tag output.device := by
  unfold Output.disable
  split
  · exact htag.release output
  · rfl

theorem destroy (output : Output δ) : tag output.destroy.device = tag output.device := by
  unfold Output.destroy
  split
  · rfl
  · exact (htag.close _).trans (htag.release output)

theorem repaint (output : Output δ) (damage : Damage) (renderer : Renderer) (now : Nat) :
    tag (output.repaint damage renderer now).2.1.device = tag output.device := by
  generalize hrepaint : output.repaint damage renderer now = outcome
  cases Output.RepaintOutcome.of_eq hrepaint with
  | dropped hnone => rfl
  | painted hframebuffer hpaint => exact htag.writeThrough _ _
  | failed hframebuffer hpaint => exact htag.writeThrough _ _

/-- Adding an output puts the device with the outputs or lets it go. -/
theorem perm_addOutput (backend : Backend δ) (name : String) (device : δ) (source : ScreenSource) :
    ((backend.addOutput name device source).2.2.1.map tag ++
      (backend.addOutput name device source).2.1.outputs.map fun output ↦ tag output.device).Perm
    ((backend.outputs.map fun output ↦ tag output.device) ++ [tag device]) := by
  simp only [Backend.addOutput, Output.drop_eq_destroy]
  split
  · next error left after hcreate =>
    have hleft := (htag.create (.of_eq hcreate)).2 error left rfl
    simpa [hleft] using (List.perm_append_singleton (tag device) _).symm
  · next output after hcreate =>
    have hdevice := (htag.create (.of_eq hcreate)).1 output rfl
    split
    · split
      · next error left henable =>
        simpa [htag.destroy, htag.of_enable henable, hdevice] using
          (List.perm_append_singleton (tag device) _).symm
      · next back henable =>
        simp [Output.device_damageAll, htag.of_enable henable, hdevice]
    · simp [hdevice]

/-- Bringing the outputs back keeps each device with its output or lets it go. -/
theorem perm_reenableAll (outputs : List (Output δ)) (source : ScreenSource) (host : Host) :
    ((Backend.reenableAll outputs source host).released.map tag ++
      (Backend.reenableAll outputs source host).kept.map fun output ↦ tag output.device).Perm
    (outputs.map fun output ↦ tag output.device) := by
  induction outputs generalizing source host with
  | nil => exact .refl _
  | cons output rest ih =>
    have hdevice := htag.reenable output source
    unfold Backend.reenableAll
    split
    · next result back after hreenable =>
      rw [hreenable] at hdevice
      simp only [List.map_cons, Output.device_damageAll, hdevice]
      exact List.perm_middle.trans ((ih after host).cons _)
    · next error left after hreenable =>
      rw [hreenable] at hdevice
      simp only [List.map_cons, htag.destroy, hdevice, List.cons_append]
      exact (ih after _).cons _

/-- Repainting the outputs keeps each device with its output. -/
theorem map_repaintOutputs (now : Nat) (outputs : List (Output δ)) (renderer : Renderer) :
    ((Backend.repaintOutputs now outputs renderer).2.1.map fun output ↦ tag output.device) =
      outputs.map fun output ↦ tag output.device := by
  induction outputs generalizing renderer with
  | nil => rfl
  | cons output rest ih =>
    have hdevice := htag.repaint output.takeDamage.2 output.takeDamage.1 renderer now
    unfold Backend.repaintOutputs
    split
    · exact congrArg₂ List.cons hdevice (ih _)
    · exact congrArg₂ List.cons rfl (ih _)

/-- Each operation keeps every device with its output or lets it go, and takes in the device that
it is handed. -/
theorem perm_step (stage : Stage δ) (step : BackendStep δ) :
    ((stage.step step).2.devices.map tag).Perm
      (stage.devices.map tag ++ step.devices.map tag) := by
  simp only [Stage.devices, List.map_append, List.map_map, List.append_assoc]
  cases step with
  | addOutput name device =>
    simp only [Stage.step, BackendStep.devices, List.map_append, List.append_assoc]
    exact (htag.perm_addOutput stage.backend name device stage.source).append_left _
  | notifySession active =>
    cases active with
    | false =>
      simp [Stage.step, Backend.notifySession, BackendStep.devices, Function.comp_def, htag.disable]
    | true =>
      simp only [Stage.step, Backend.notifySession, BackendStep.devices, if_true, List.map_append,
        List.append_assoc, List.map_nil, List.append_nil]
      exact (htag.perm_reenableAll _ stage.source stage.host).append_left _
  | repaintPending now =>
    simp only [Stage.step, Backend.repaintPending, BackendStep.devices, List.map_nil,
      List.append_nil]
    exact .of_eq (congrArg _ (htag.map_repaintOutputs now stage.backend.outputs stage.renderer))
  | damageAll =>
    simp [Stage.step, Backend.damageAll, BackendStep.devices, Function.comp_def]
  | dispatchTimers now =>
    simp only [Stage.step, Backend.dispatchTimers, BackendStep.devices, List.map_nil,
      List.append_nil]
    exact .of_eq (congrArg _ (Backend.map_dispatchOutputs now stage.backend.outputs stage.host tag))
  | startRepaintLoop => simp [Stage.step, BackendStep.devices]
  | shutdown =>
    simp [Stage.step, Backend.shutdown, BackendStep.devices, Function.comp_def, htag.destroy]

/-- After every run the devices are those from before and those handed in. -/
theorem perm_run (stage : Stage δ) (steps : List (BackendStep δ)) :
    ((stage.run steps).devices.map tag).Perm
      (stage.devices.map tag ++ (handedIn steps).map tag) := by
  induction steps generalizing stage with
  | nil => simp [Stage.run, handedIn]
  | cons step rest ih =>
    refine (ih (stage.step step).2).trans ?_
    simp only [handedIn, List.flatMap_cons, List.map_append]
    rw [← List.append_assoc]
    exact (htag.perm_step stage step).append_right _

end KeptByCalls

/-! ### Devices let go -/

theorem released_prefix_step (stage : Stage δ) (step : BackendStep δ) :
    stage.released <+: (stage.step step).2.released := by
  cases step with
  | addOutput name device => exact List.prefix_append _ _
  | notifySession active => exact List.prefix_append _ _
  | repaintPending now => exact List.prefix_rfl
  | damageAll => exact List.prefix_rfl
  | dispatchTimers now => exact List.prefix_rfl
  | startRepaintLoop => exact List.prefix_rfl
  | shutdown => exact List.prefix_append _ _

/-- A run leaves the devices alone that were let go before it. -/
theorem released_prefix_run (stage : Stage δ) (steps : List (BackendStep δ)) :
    stage.released <+: (stage.run steps).released := by
  induction steps generalizing stage with
  | nil => exact List.prefix_rfl
  | cons step rest ih => exact (released_prefix_step stage step).trans (ih _)

/-- An output that cannot be added leaves the outputs as they are, and one device is let go. -/
theorem addOutput_error {backend after : Backend δ} {name : String} {device : δ}
    {source later : ScreenSource} {error : OutputError} {released : List δ}
    (hadd : backend.addOutput name device source = (.error error, after, released, later)) :
    after = backend ∧ ∃ left, released = [left] := by
  unfold Backend.addOutput at hadd
  split at hadd
  · simp only [Prod.mk.injEq] at hadd
    exact ⟨hadd.2.1.symm, _, hadd.2.2.1.symm⟩
  · split at hadd
    · split at hadd
      · simp only [Prod.mk.injEq] at hadd
        exact ⟨hadd.2.1.symm, _, hadd.2.2.1.symm⟩
      · simp at hadd
    · simp at hadd

/-- Dropping a backend is to its devices the same as shutting it down. -/
theorem Stage.drop_eq_shutdown (stage : Stage δ) : stage.drop = (stage.step .shutdown).2 := by
  simp only [Stage.drop, Backend.drop, Stage.step, Backend.shutdown, Output.drop_eq_destroy]

/-! ### The life cycle in a backend -/

/-- The outputs held are attached, and the devices let go are closed. -/
def attachedLaw : OutputLaw (RecordedStorage δ) where
  handed device := device.phase? = some .closed
  held _ output := output.Attached
  letGo device := device.phase? = some .closed
  painting _ := True
  refused hhanded hcreate := Output.phase?_create_error hhanded hcreate
  created hhanded hcreate := Output.attached_create hhanded hcreate
  enabled hheld henable := Output.attached_damageAll (hheld.of_enable henable)
  unusable hheld henable := Output.phase?_destroy (hheld.of_enable henable).detachable
  disabled hheld := Output.attached_disable hheld
  reenabled hheld hreenable := Output.attached_damageAll (Output.attached_reenable hheld hreenable)
  removed hheld hreenable := Output.phase?_destroy (Output.detachable_reenable hheld hreenable)
  damaged hheld := Output.attached_damageAll hheld
  repainted hheld _ _ now := Output.attached_repaintPending hheld _ now
  rendered _ _ _ := trivial
  dispatched hheld now host := Output.attached_dispatchTimer hheld now host
  destroyed hheld := Output.phase?_destroy hheld.detachable

/-- What a run over recorded devices reaches from a backend without outputs. -/
def Stage.recordedRun (source : ScreenSource) (renderer : Renderer) (host : Host)
    (steps : List (BackendStep δ)) : Stage (RecordedStorage δ) :=
  (Stage.start source renderer host).run (recordedSteps 0 steps)

section

variable (source : ScreenSource) (renderer : Renderer) (host : Host) (steps : List (BackendStep δ))

/-- A recorded run goes on with the number after those given out. -/
theorem recordedRun_append (more : List (BackendStep δ)) :
    Stage.recordedRun source renderer host (steps ++ more) =
      (Stage.recordedRun source renderer host steps).run
        (recordedSteps (handedIn steps).length more) := by
  simp only [Stage.recordedRun, recordedSteps_append, Nat.zero_add, Stage.run, List.foldl_append]

/-- In a recorded run the outputs held are attached and the devices let go are closed. -/
theorem holds_recordedRun :
    attachedLaw.Holds (Stage.recordedRun source renderer host steps) := by
  apply OutputLaw.holds_run (attachedLaw.holds_start source host trivial)
  intro step hstep device hdevice
  show device.phase? = some .closed
  rw [RecordedStorage.phase?, calls_eq_nil_of_mem_recordedSteps hstep hdevice]
  rfl

/-- The devices of a recorded run have the numbers that were given out, each once. -/
theorem perm_devices_recordedRun :
    ((Stage.recordedRun source renderer host steps).devices.map RecordedStorage.number).Perm
      (List.range (handedIn steps).length) := by
  have hperm := RecordedStorage.number_keptByCalls.perm_run
    (Stage.start source renderer host) (recordedSteps 0 steps)
  rw [map_number_handedIn_recordedSteps, ← List.range_eq_range'] at hperm
  exact hperm

/-- A device that was let go stays as it is in whatever follows. -/
theorem eq_of_number_eq_recordedRun (more : List (BackendStep δ))
    {device later : RecordedStorage δ}
    (hreleased : device ∈ (Stage.recordedRun source renderer host steps).released)
    (hlater : later ∈ (Stage.recordedRun source renderer host (steps ++ more)).devices)
    (hnumber : later.number = device.number) : later = device := by
  have hgrown := released_prefix_run (Stage.recordedRun source renderer host steps)
    (recordedSteps (handedIn steps).length more)
  rw [← recordedRun_append] at hgrown
  have hdevice := List.mem_append_left
    ((Stage.recordedRun source renderer host (steps ++ more)).backend.outputs.map Output.device)
    (hgrown.subset hreleased)
  have hnodup := (perm_devices_recordedRun source renderer host (steps ++ more)).nodup_iff.mpr
    List.nodup_range
  exact List.inj_on_of_nodup_map hnodup hlater hdevice hnumber

/-- Once a run was shut down every device is closed. -/
theorem phase?_of_mem_devices_shutdown {device : RecordedStorage δ}
    (hdevice : device ∈
      ((Stage.recordedRun source renderer host steps).step .shutdown).2.devices) :
    device.phase? = some .closed := by
  have hshut := OutputLaw.holds_step (holds_recordedRun source renderer host steps) .shutdown
    (by simp [BackendStep.devices])
  rcases List.mem_append.mp hdevice with hreleased | hheld
  · exact hshut.letGo device hreleased
  · exact absurd hheld List.not_mem_nil

/-- Dropping the backend at the end of a run is one more operation of it, as far as devices go. -/
theorem drop_recordedRun :
    (Stage.recordedRun source renderer host steps).drop =
      Stage.recordedRun source renderer host (steps ++ [.shutdown]) := by
  rw [Stage.drop_eq_shutdown, recordedRun_append]
  rfl

/-- An output that cannot be added leaves the backend as it was, and its device is let go
closed. -/
theorem addOutput_error_recordedRun {name : String} {device : δ} {error : OutputError}
    {after : Stage (RecordedStorage δ)}
    (hstep : (Stage.recordedRun source renderer host steps).step
      ((BackendStep.addOutput name device).recorded (handedIn steps).length) =
        (.added (.error error), after)) :
    after.backend = (Stage.recordedRun source renderer host steps).backend ∧
      ∃ left, after.released = (Stage.recordedRun source renderer host steps).released ++ [left] ∧
        left.number = (handedIn steps).length ∧ left.phase? = some .closed := by
  have hholds := holds_recordedRun source renderer host steps
  generalize Stage.recordedRun source renderer host steps = stage at hholds hstep ⊢
  have hafter := OutputLaw.holds_step hholds
    ((BackendStep.addOutput name device).recorded (handedIn steps).length)
    (by simp [BackendStep.recorded, BackendStep.devices, attachedLaw, RecordedStorage.phase?,
      RecordedStorage.fresh])
  have hperm := RecordedStorage.number_keptByCalls.perm_addOutput stage.backend name
    (.fresh (handedIn steps).length device) stage.source
  rw [hstep] at hafter
  simp only [Stage.step, BackendStep.recorded] at hstep
  obtain ⟨hresult, rfl⟩ := Prod.mk.inj hstep
  obtain ⟨hbackend, left, hleft⟩ := addOutput_error (Prod.ext (StepResult.added.inj hresult) rfl)
  rw [hbackend, hleft] at hperm
  refine ⟨hbackend, left, congrArg (stage.released ++ ·) hleft, ?_, ?_⟩
  · have hsingle := (List.perm_append_left_iff _).mp (List.perm_append_comm.trans hperm)
    exact List.singleton_perm_singleton.mp hsingle
  · exact hafter.letGo left (List.mem_append_right _ (by simp [hleft]))

end

/-- In every run of a backend, whatever the devices, the source and the renderer answer,

* every device handed in is once held by an output or let go,
* the calls on the device of an output have led, by the life cycle of devices, to where the output
  says its device is,
* the calls on a device that was let go have led to a closed one, and no later operation calls it,
* an output that cannot be added leaves the backend as it was, and its device is let go,
* shutting down leaves no output, and every device is closed,
* the backend can be dropped at any moment: each output that it still holds closes its device, and
  one that was destroyed before makes no call; then no device is lost, every device is closed, and
  none is called any more. -/
theorem storage_life (source : ScreenSource) (renderer : Renderer) (host : Host)
    (steps : List (BackendStep δ)) :
    let stage := Stage.recordedRun source renderer host steps
    (stage.devices.map RecordedStorage.number).Perm (List.range (handedIn steps).length) ∧
    (∀ output ∈ stage.backend.outputs, output.device.phase? = some output.storagePhase) ∧
    (∀ device ∈ stage.released, device.phase? = some .closed ∧
      ∀ more, ∀ later ∈ (Stage.recordedRun source renderer host (steps ++ more)).devices,
        later.number = device.number → later = device) ∧
    (∀ name device error after,
      stage.step ((BackendStep.addOutput name device).recorded (handedIn steps).length) =
        (.added (.error error), after) →
      after.backend = stage.backend ∧ ∃ left, after.released = stage.released ++ [left] ∧
        left.number = (handedIn steps).length ∧ left.phase? = some .closed) ∧
    ((stage.step .shutdown).2.backend.outputs = [] ∧
      ∀ device ∈ (stage.step .shutdown).2.devices, device.phase? = some .closed) ∧
    (stage.drop.backend.outputs = [] ∧
      stage.drop.released = stage.released ++ stage.backend.outputs.map (·.drop.device) ∧
      (∀ output ∈ stage.backend.outputs, output.drop.device.phase? = some .closed ∧
        output.destroy.drop = output.destroy) ∧
      (stage.drop.devices.map RecordedStorage.number).Perm (List.range (handedIn steps).length) ∧
      ∀ device ∈ stage.drop.devices, device.phase? = some .closed ∧
        ∀ more, ∀ later ∈ (stage.drop.run (recordedSteps (handedIn steps).length more)).devices,
          later.number = device.number → later = device) := by
  intro stage
  have hholds : attachedLaw.Holds stage := holds_recordedRun source renderer host steps
  have hcount := length_handedIn_shutdown steps
  have hdropped : stage.drop = Stage.recordedRun source renderer host (steps ++ [.shutdown]) :=
    drop_recordedRun source renderer host steps
  refine ⟨perm_devices_recordedRun source renderer host steps,
    fun output houtput ↦ (hholds.held output houtput).phase_eq, ?released, ?refused,
    ⟨rfl, fun device ↦ phase?_of_mem_devices_shutdown source renderer host steps⟩,
    rfl, rfl, ?held, ?lost, ?dropped⟩
  case released =>
    intro device hdevice
    constructor
    · exact hholds.letGo device hdevice
    · intro more later hlater hnumber
      exact eq_of_number_eq_recordedRun source renderer host steps more hdevice hlater hnumber
  case refused =>
    intro name device error after hstep
    exact addOutput_error_recordedRun source renderer host steps hstep
  case held =>
    intro output houtput
    rw [Output.drop_eq_destroy]
    exact ⟨Output.phase?_destroy (hholds.held output houtput).detachable, output.drop_destroy⟩
  case lost =>
    rw [hdropped, ← hcount]
    exact perm_devices_recordedRun source renderer host (steps ++ [.shutdown])
  case dropped =>
    intro device hdevice
    constructor
    · rw [stage.drop_eq_shutdown] at hdevice
      exact phase?_of_mem_devices_shutdown source renderer host steps hdevice
    · intro more later hlater hnumber
      have hreleased : device ∈ stage.drop.released := by
        simpa [Stage.devices, Stage.drop, Backend.drop] using hdevice
      rw [hdropped] at hreleased hlater
      rw [← hcount, ← recordedRun_append] at hlater
      exact eq_of_number_eq_recordedRun source renderer host (steps ++ [.shutdown]) more hreleased
        hlater hnumber

end HeadlessDisplay
