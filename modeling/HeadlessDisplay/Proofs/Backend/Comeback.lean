import HeadlessDisplay.Output.HeapStorage
import HeadlessDisplay.Proofs.Backend.Activation
import HeadlessDisplay.Proofs.Backend.StorageLife
import HeadlessDisplay.Proofs.Output.CoherentLife
import HeadlessDisplay.Proofs.Output.Mappings

/-!
# Activation splits the outputs

When the session becomes active every output is brought back, one after another. `Comeback` says
how it went for one output and `Backend.comebacks` for all of them, each with the source as those
before it have left it; what an output comes to never decides whether the next one has its turn.
`reenableAll_eq` says what a pass leaves in terms of these: the outputs that came back are kept in
their order and damaged as a whole, the others are destroyed, and the host is told of them in their
order. `activation_splits_outputs` adds what is known of each of the two kinds.

An output in use is `Output.Attached`, as all outputs of a backend are (`holds_recordedRun`). Only
what is said of devices asks for it; everything else holds of any outputs.
-/

set_option autoImplicit false
set_option relaxedAutoImplicit false

namespace HeadlessDisplay

/-- The source after a number of further questions. -/
def ScreenSource.onward (source : ScreenSource) (questions : Nat) : ScreenSource :=
  { source with asked := source.asked + questions }

theorem ScreenSource.onward_onward (source : ScreenSource) (first second : Nat) :
    (source.onward first).onward second = source.onward (first + second) := by
  simp only [onward, Nat.add_assoc]

/-- No layout is without pixels. -/
theorem Rect.isEmpty_whole (layout : Layout) :
    (whole layout.width layout.height).isEmpty = false := by
  have hwidth := layout.width_pos
  have hheight := layout.height_pos
  simp only [isEmpty, whole, Bool.or_eq_false_iff, beq_eq_false_iff_ne]
  constructor <;> rintro hzero <;> simp [hzero] at hwidth hheight

namespace Output

variable {δ : Type}

/-! ### What an output keeps -/

/-- The output has the same name, and its timer the same deadline. -/
structure SamePace (before after : Output δ) : Prop where
  name_eq : after.name = before.name
  deadline_eq : after.timer.deadline = before.timer.deadline

theorem SamePace.refl (output : Output δ) : output.SamePace output :=
  ⟨rfl, rfl⟩

theorem SamePace.trans {first second third : Output δ} (hfirst : first.SamePace second)
    (hsecond : second.SamePace third) : first.SamePace third :=
  ⟨hsecond.name_eq.trans hfirst.name_eq, hsecond.deadline_eq.trans hfirst.deadline_eq⟩

/-- The output is neither mapped nor destroyed. -/
def waits (output : Output δ) : Bool :=
  output.state = .unopened ∨ output.state = .disabled

theorem samePace_damageAll (output : Output δ) : output.SamePace output.damageAll := by
  unfold damageAll addDamage
  split <;> exact ⟨rfl, rfl⟩

theorem layout_damageAll (output : Output δ) : output.damageAll.layout = output.layout := by
  unfold damageAll addDamage
  split <;> rfl

/-- The damage of a whole output comes after the damage that it had. -/
theorem rects_damageAll {output : Output δ} (hmapped : output.state = .mapped) :
    output.damageAll.pending.rects =
      output.pending.rects ++ [Rect.whole output.layout.width output.layout.height] := by
  have hsome := Rect.isEmpty_whole output.layout
  rw [damageAll, addDamage, if_pos hmapped]
  simp [Damage.extend, Damage.full, Damage.none, Damage.add, hsome]

variable [FramebufferDevice δ]

theorem samePace_release (output : Output δ) : output.SamePace output.release := by
  unfold release
  split <;> exact ⟨rfl, rfl⟩

theorem samePace_disable (output : Output δ) : output.SamePace output.disable := by
  have hrelease := output.samePace_release
  unfold disable
  split
  · exact ⟨hrelease.name_eq, hrelease.deadline_eq⟩
  · exact .refl output

theorem samePace_destroy (output : Output δ) : output.SamePace output.destroy := by
  have hrelease := output.samePace_release
  unfold destroy
  split
  · exact .refl output
  · exact ⟨hrelease.name_eq, hrelease.deadline_eq⟩

theorem MapOutcome.samePace {output : Output δ} {outcome : Except OutputError Unit × Output δ}
    (houtcome : MapOutcome output outcome) : output.SamePace outcome.2 := by
  cases houtcome <;> exact ⟨rfl, rfl⟩

theorem samePace_enable (output : Output δ) : output.SamePace output.enable.2 := by
  have hmapped : output.SamePace output.mapSurface.2 := (MapOutcome.of_eq rfl).samePace
  unfold enable
  split
  · exact .refl output
  · exact .refl output
  · exact hmapped
  · exact hmapped

theorem samePace_of_enable {output left : Output δ} {result : Except OutputError Unit}
    (henable : output.enable = (result, left)) : output.SamePace left := by
  simpa only [henable] using output.samePace_enable

/-- Opening anew changes the period of the timer and leaves its deadline alone. -/
theorem ReopenOutcome.samePace {output : Output δ} {descriptor : ScreenDescriptor}
    {layout : Layout} {outcome : Except OutputError Unit × Output δ}
    (houtcome : ReopenOutcome output descriptor layout outcome) : output.SamePace outcome.2 := by
  cases houtcome <;> exact ⟨rfl, rfl⟩

theorem AdoptOutcome.samePace {output : Output δ} {fresh : ScreenDescriptor}
    {outcome : Except OutputError Reenabled × Output δ}
    (houtcome : AdoptOutcome output fresh outcome) : output.SamePace outcome.2 := by
  cases houtcome with
  | remapFailed hsame henable =>
    have hkept := samePace_of_enable henable
    exact ⟨hkept.name_eq, hkept.deadline_eq⟩
  | remapped hsame henable =>
    have hkept := samePace_of_enable henable
    exact ⟨hkept.name_eq, hkept.deadline_eq⟩
  | invalid hchanged hlayout => exact .refl output
  | reopenFailed hchanged hlayout hreopen => exact (ReopenOutcome.of_eq hreopen).samePace
  | recreateFailed hchanged hlayout hreopen henable =>
    exact (ReopenOutcome.of_eq hreopen).samePace.trans (samePace_of_enable henable)
  | recreated hchanged hlayout hreopen henable =>
    exact (ReopenOutcome.of_eq hreopen).samePace.trans (samePace_of_enable henable)

theorem samePace_reenable (output : Output δ) (source : ScreenSource) :
    output.SamePace (output.reenable source).2.1 := by
  generalize hreenable : output.reenable source = outcome
  cases ReenableOutcome.of_eq hreenable with
  | destroyed hstate => exact .refl output
  | alreadyMapped hstate => exact .refl output
  | queryFailed hwaiting hanswer => exact .refl output
  | answered hwaiting hanswer hadopt => exact hadopt.samePace

/-- An output that waits asks the source once, and no other asks. -/
theorem source_reenable (output : Output δ) (source : ScreenSource) :
    (output.reenable source).2.2 = source.onward (if output.waits then 1 else 0) := by
  generalize hreenable : output.reenable source = outcome
  cases ReenableOutcome.of_eq hreenable with
  | destroyed hstate => simp [waits, hstate, ScreenSource.onward]
  | alreadyMapped hstate => simp [waits, hstate, ScreenSource.onward]
  | queryFailed hwaiting hanswer =>
    have hwaits : output.waits = true := decide_eq_true hwaiting
    rw [hwaits]
    rfl
  | answered hwaiting hanswer hadopt =>
    have hwaits : output.waits = true := decide_eq_true hwaiting
    rw [hwaits]
    rfl

end Output

/-! ### How it goes for each output -/

variable {δ : Type}

/-- How bringing an output back went. -/
structure Comeback (δ : Type) where
  before : Output δ
  result : Except OutputError Reenabled
  /-- What is left of the output. -/
  left : Output δ

namespace Comeback

/-- The output came back. -/
def succeeded (comeback : Comeback δ) : Bool :=
  comeback.result.toOption.isSome

@[simp]
theorem succeeded_ok (before left : Output δ) (result : Reenabled) :
    (⟨before, .ok result, left⟩ : Comeback δ).succeeded = true :=
  rfl

@[simp]
theorem succeeded_error (before left : Output δ) (error : OutputError) :
    (⟨before, .error error, left⟩ : Comeback δ).succeeded = false :=
  rfl

/-- What is kept of an output that came back. -/
def kept (comeback : Comeback δ) : Output δ :=
  comeback.left.damageAll

variable [FramebufferDevice δ]

/-- What becomes of an output that did not. -/
def removed (comeback : Comeback δ) : Output δ :=
  comeback.left.destroy

/-- How bringing an output back goes with a source. -/
def of (output : Output δ) (source : ScreenSource) : Comeback δ :=
  ⟨output, (output.reenable source).1, (output.reenable source).2.1⟩

end Comeback

variable [FramebufferDevice δ]

namespace Backend

/-- How it goes for outputs that are brought back one after another. -/
def comebacks : List (Output δ) → ScreenSource → List (Comeback δ)
  | [], _ => []
  | output :: rest, source => .of output source :: comebacks rest (output.reenable source).2.2

theorem map_before_comebacks (outputs : List (Output δ)) (source : ScreenSource) :
    (comebacks outputs source).map Comeback.before = outputs := by
  induction outputs generalizing source with
  | nil => rfl
  | cons output rest ih => exact congrArg (output :: ·) (ih _)

theorem map_name_comebacks (outputs : List (Output δ)) (source : ScreenSource) :
    (comebacks outputs source).map (·.before.name) = outputs.map Output.name := by
  conv_rhs => rw [← map_before_comebacks outputs source, List.map_map]
  rfl

/-- Every output finds the source as it is after those before it have asked once each. -/
theorem getElem?_comebacks (outputs : List (Output δ)) (source : ScreenSource) (place : Nat) :
    (comebacks outputs source)[place]? = outputs[place]?.map fun output ↦
      .of output (source.onward ((outputs.take place).countP Output.waits)) := by
  induction outputs generalizing source place with
  | nil => rfl
  | cons output rest ih =>
    cases place with
    | zero => rfl
    | succ place =>
      rw [comebacks, List.getElem?_cons_succ, ih, List.getElem?_cons_succ, List.take_succ_cons,
        List.countP_cons, Output.source_reenable, ScreenSource.onward_onward, Nat.add_comm]

/-- What a pass over the outputs leaves, by how it went for each of them. -/
theorem reenableAll_eq (outputs : List (Output δ)) (source : ScreenSource) (host : Host) :
    let came := (comebacks outputs source).filter Comeback.succeeded
    let failed := (comebacks outputs source).filter (!·.succeeded)
    reenableAll outputs source host =
      { kept := came.map Comeback.kept
        released := failed.map (·.removed.device)
        source := source.onward (outputs.countP Output.waits)
        host := { host with events := host.events ++ failed.map (.removed ·.before.name) } } := by
  induction outputs generalizing source host with
  | nil => simp [reenableAll, comebacks, ScreenSource.onward]
  | cons output rest ih =>
    have hsource := output.source_reenable source
    have hname := (output.samePace_reenable source).name_eq
    have hquestions : source.onward (List.countP Output.waits (output :: rest)) =
        (output.reenable source).2.2.onward (rest.countP Output.waits) := by
      rw [hsource, ScreenSource.onward_onward, List.countP_cons, Nat.add_comm]
    dsimp only
    rw [hquestions]
    unfold reenableAll comebacks
    split
    · next result back after hreenable =>
      have hcomeback : Comeback.of output source = ⟨output, .ok result, back⟩ := by
        rw [Comeback.of, hreenable]
      rw [hcomeback, hreenable]
      simp [ih, List.filter_cons, Comeback.kept]
    · next error left after hreenable =>
      have hcomeback : Comeback.of output source = ⟨output, .error error, left⟩ := by
        rw [Comeback.of, hreenable]
      rw [hreenable] at hname
      have hdestroyed : left.destroy.name = output.name :=
        left.samePace_destroy.name_eq.trans hname
      rw [hcomeback, hreenable]
      simp [ih, Comeback.removed, Host.tell, hdestroyed]

theorem eq_of_mem_comebacks {outputs : List (Output δ)} {source : ScreenSource}
    {comeback : Comeback δ} (hmem : comeback ∈ comebacks outputs source) :
    ∃ output later, comeback = .of output later := by
  induction outputs generalizing source with
  | nil => exact absurd hmem List.not_mem_nil
  | cons output rest ih =>
    rcases List.mem_cons.mp hmem with rfl | hrest
    · exact ⟨output, source, rfl⟩
    · exact ih hrest

end Backend

/-! ### What is kept and what is removed -/

namespace Comeback

section

variable (output : Output δ) (source : ScreenSource)

theorem samePace_kept : output.SamePace (Comeback.of output source).kept :=
  (output.samePace_reenable source).trans (Output.samePace_damageAll _)

theorem name_removed : (Comeback.of output source).removed.name = output.name :=
  ((output.samePace_reenable source).trans (Output.samePace_destroy _)).name_eq

end

variable {output : Output δ} {source : ScreenSource}

/-- An output that came back was brought back without a failure. -/
theorem reenable_of_succeeded (hsucceeded : (Comeback.of output source).succeeded = true) :
    ∃ result, output.reenable source =
      (.ok result, (Comeback.of output source).left, (output.reenable source).2.2) := by
  simp only [succeeded, of] at hsucceeded ⊢
  cases hresult : (output.reenable source).1 with
  | error error => simp [hresult, Except.toOption] at hsucceeded
  | ok result => exact ⟨result, Prod.ext hresult rfl⟩

/-- Of an output that did not come back the failure is known. -/
theorem reenable_of_not_succeeded (hfailed : (Comeback.of output source).succeeded = false) :
    ∃ error, output.reenable source =
      (.error error, (Comeback.of output source).left, (output.reenable source).2.2) := by
  simp only [succeeded, of] at hfailed ⊢
  cases hresult : (output.reenable source).1 with
  | error error => exact ⟨error, Prod.ext hresult rfl⟩
  | ok result => simp [hresult, Except.toOption] at hfailed

/-- What is kept is mapped, and the whole of it is to be painted. -/
theorem damaged_of_succeeded (hsucceeded : (Comeback.of output source).succeeded = true) :
    let kept := (Comeback.of output source).kept
    kept.state = .mapped ∧
      kept.pending.rects =
        output.pending.rects ++ [Rect.whole kept.layout.width kept.layout.height] := by
  obtain ⟨result, hreenable⟩ := reenable_of_succeeded hsucceeded
  have hmapped := Output.state_of_reenable_ok hreenable
  have hpending : (Comeback.of output source).left.pending = output.pending :=
    output.pending_reenable source
  simp only [kept, Output.state_damageAll, Output.layout_damageAll]
  rw [Output.rects_damageAll hmapped, hpending]
  exact ⟨hmapped, rfl⟩

end Comeback

namespace Comeback

variable {output : Output (RecordedStorage δ)} {source : ScreenSource}

theorem attached_kept (hattached : output.Attached)
    (hsucceeded : (Comeback.of output source).succeeded = true) :
    (Comeback.of output source).kept.Attached := by
  obtain ⟨result, hreenable⟩ := reenable_of_succeeded hsucceeded
  exact Output.attached_damageAll (Output.attached_reenable hattached hreenable)

/-- The device of what is removed was given its mapping back and is closed. -/
theorem closed_of_not_succeeded (hattached : output.Attached)
    (hfailed : (Comeback.of output source).succeeded = false) :
    (Comeback.of output source).removed.framebuffer = none ∧
      (Comeback.of output source).removed.device.phase? = some .closed := by
  obtain ⟨error, hreenable⟩ := reenable_of_not_succeeded hfailed
  have hdetachable := Output.detachable_reenable hattached hreenable
  refine ⟨?_, Output.phase?_destroy hdetachable⟩
  rw [removed, Output.destroy, if_neg hdetachable.not_destroyed]
  exact Output.framebuffer_release _

end Comeback

/-- Whatever the outputs, the answers of the source and the failures of the devices, activating the
session

* brings every output back once and in order, each with the source as it is after those before it
  have asked, whether or not they came back,
* keeps those that came back in their order, lets the devices of the others go and tells the host of
  each of them once and in order, and is over with an active session,
* keeps an output under its name with its device, mapped, and with the whole of its surface to be
  painted after the damage that it had,
* leaves of each of the others a destroyed output, its mapping handed back and its device closed.

What is said of surfaces and closed devices holds of attached outputs, as all outputs of a backend
are in every run. -/
theorem activation_splits_outputs (backend : Backend (RecordedStorage δ)) (source : ScreenSource)
    (host : Host) :
    let comebacks := Backend.comebacks backend.outputs source
    let came := comebacks.filter Comeback.succeeded
    let failed := comebacks.filter (!·.succeeded)
    comebacks.map Comeback.before = backend.outputs ∧
    (∀ place, comebacks[place]? = backend.outputs[place]?.map fun output ↦
      Comeback.of output (source.onward ((backend.outputs.take place).countP Output.waits))) ∧
    backend.notifySession true source host =
      (⟨came.map Comeback.kept, true⟩, failed.map (·.removed.device),
        source.onward (backend.outputs.countP Output.waits),
        { host with events := host.events ++ failed.map (.removed ·.before.name) }) ∧
    (∀ comeback ∈ came,
      comeback.kept.name = comeback.before.name ∧
      comeback.kept.device.number = comeback.before.device.number ∧
      comeback.kept.state = .mapped ∧
      comeback.kept.pending.rects = comeback.before.pending.rects ++
        [Rect.whole comeback.kept.layout.width comeback.kept.layout.height] ∧
      (comeback.before.Attached → ∃ framebuffer, comeback.kept.framebuffer = some framebuffer ∧
        framebuffer.surface.layout = comeback.kept.layout)) ∧
    (∀ comeback ∈ failed,
      comeback.removed.name = comeback.before.name ∧
      comeback.removed.device.number = comeback.before.device.number ∧
      comeback.removed.state = .destroyed ∧
      (comeback.before.Attached → comeback.removed.framebuffer = none ∧
        comeback.removed.device.phase? = some .closed)) ∧
    ∀ (screens : ScreenSource) (renderer : Renderer) (begun : Host) (steps : List (BackendStep δ)),
      backend = (Stage.recordedRun screens renderer begun steps).backend →
        ∀ output ∈ backend.outputs, output.Attached := by
  intro comebacks came failed
  have hnumber : KeptByCalls (RecordedStorage.number : RecordedStorage δ → Nat) :=
    RecordedStorage.number_keptByCalls
  refine ⟨Backend.map_before_comebacks _ _, Backend.getElem?_comebacks _ _, ?_, ?_, ?_, ?_⟩
  · simp only [Backend.notifySession, if_true, Backend.reenableAll_eq]
    rfl
  · intro comeback hcomeback
    obtain ⟨hmem, hsucceeded⟩ := List.mem_filter.mp hcomeback
    obtain ⟨output, later, rfl⟩ := Backend.eq_of_mem_comebacks hmem
    obtain ⟨hmapped, hrects⟩ := Comeback.damaged_of_succeeded hsucceeded
    refine ⟨(Comeback.samePace_kept output later).name_eq, ?_, hmapped, hrects, ?_⟩
    · rw [Comeback.kept, Output.device_damageAll]
      exact hnumber.reenable output later
    · intro hattached
      exact (Comeback.attached_kept hattached hsucceeded).coherent.exists_framebuffer hmapped
  · intro comeback hcomeback
    obtain ⟨hmem, hnot⟩ := List.mem_filter.mp hcomeback
    obtain ⟨output, later, rfl⟩ := Backend.eq_of_mem_comebacks hmem
    have hfailed := (Bool.not_eq_true' _).mp hnot
    refine ⟨Comeback.name_removed output later, ?_, Output.state_destroy _, ?_⟩
    · exact (hnumber.destroy _).trans (hnumber.reenable output later)
    · intro hattached
      exact Comeback.closed_of_not_succeeded hattached hfailed
  · rintro screens renderer begun steps rfl output houtput
    exact (holds_recordedRun screens renderer begun steps).held output houtput

/-- Of three outputs the second does not come back, and the third is found in a wider mode. -/
theorem activation_past_failure :
    let narrow := ScreenDescriptor.withSize 2 1
    let wide := ScreenDescriptor.withSize 4 1
    let source : ScreenSource := ⟨fun asked ↦
      if asked = 4 then .error "unplugged" else .ok (if asked = 5 then wide else narrow), 0⟩
    let steps := [.addOutput "left" HeapStorage.working, .addOutput "middle" HeapStorage.working,
      .addOutput "right" HeapStorage.working, .notifySession false]
    let renderer := Renderer.solid Renderer.defaultColor fun _ ↦ none
    let stage := Stage.recordedRun source renderer (.atTime 0) steps
    let after := (stage.step (.notifySession true)).2
    after.backend.active ∧ after.backend.outputs.map Output.name = ["left", "right"] ∧
      after.host.events = [.removed "middle"] ∧
      (∀ output ∈ after.backend.outputs, output.state = .mapped) ∧
      ∀ device ∈ after.released, device.phase? = some .closed := by
  intro narrow wide source steps renderer stage after
  obtain ⟨hbefore, -, hafter, hkept, hremoved, hattached⟩ :=
    activation_splits_outputs stage.backend stage.source stage.host
  have hinUse : ∀ comeback ∈ Backend.comebacks stage.backend.outputs stage.source,
      comeback.before.Attached := by
    intro comeback hcomeback
    apply hattached source renderer (.atTime 0) steps rfl
    rw [← hbefore]
    exact List.mem_map_of_mem hcomeback
  have hreached : after.backend.outputs.map Output.name = ["left", "right"] ∧
      after.host.events = [.removed "middle"] ∧ stage.released.isEmpty := by decide +kernel
  -- From here on the stage is any stage of which these facts are known.
  clear_value stage
  refine ⟨congrArg (·.1.active) hafter, hreached.1, hreached.2.1, ?_, ?_⟩
  · intro output houtput
    have houtputs : after.backend.outputs = _ := congrArg (·.1.outputs) hafter
    rw [houtputs] at houtput
    obtain ⟨comeback, hcomeback, rfl⟩ := List.mem_map.mp houtput
    exact (hkept comeback hcomeback).2.2.1
  · intro device hdevice
    have hreleased : after.released = stage.released ++
        (stage.backend.notifySession true stage.source stage.host).2.1 := rfl
    rw [hreleased, hafter, List.isEmpty_iff.mp hreached.2.2, List.nil_append] at hdevice
    obtain ⟨comeback, hcomeback, rfl⟩ := List.mem_map.mp hdevice
    exact ((hremoved comeback hcomeback).2.2.2
      (hinUse comeback (List.mem_of_mem_filter hcomeback))).2

end HeadlessDisplay
