import HeadlessDisplay.Output.HeapStorage
import HeadlessDisplay.Proofs.Backend.Laws

/-!
# The outputs follow the session

In every run of a backend each output it holds is mapped while the session is active and is not
mapped while it is inactive, and none is destroyed. Enabling an output or bringing it back ends with
a mapped one or fails, and then the output is not kept (`state_of_enable_ok`,
`state_of_reenable_ok`); disabling it ends with one that is not mapped (`state_disable_ne_mapped`);
everything else that a backend does with its outputs leaves their state alone. `Output.Follows`
collects what holds of one output, `followingLaw` lifts it to a backend.

Whether the session is active is what the last notification said (`sessionActivity`), and a new
backend begins with an active one.
-/

set_option autoImplicit false
set_option relaxedAutoImplicit false

namespace HeadlessDisplay

variable {δ : Type}

/-! ### Whether the session is active -/

/-- Whether the session is active after an operation, given whether it was so before. -/
def BackendStep.activity (before : Bool) : BackendStep δ → Bool
  | .notifySession active => active
  | .addOutput .. | .repaintPending _ | .damageAll | .dispatchTimers _ | .startRepaintLoop
  | .shutdown => before

/-- Whether the session is active after operations on a new backend. -/
def sessionActivity (steps : List (BackendStep δ)) : Bool :=
  steps.foldl BackendStep.activity true

section

variable [FramebufferDevice δ]

theorem Backend.active_addOutput (backend : Backend δ) (name : String) (device : δ)
    (source : ScreenSource) :
    (backend.addOutput name device source).2.1.active = backend.active := by
  unfold Backend.addOutput
  split
  · rfl
  · split
    · split <;> rfl
    · rfl

theorem Stage.active_step (stage : Stage δ) (step : BackendStep δ) :
    (stage.step step).2.backend.active = step.activity stage.backend.active := by
  cases step with
  | addOutput name device => exact stage.backend.active_addOutput name device stage.source
  | notifySession active => cases active <;> rfl
  | _ => rfl

theorem Stage.active_run (stage : Stage δ) (steps : List (BackendStep δ)) :
    (stage.run steps).backend.active = steps.foldl BackendStep.activity stage.backend.active := by
  induction steps generalizing stage with
  | nil => rfl
  | cons step rest ih =>
    rw [List.foldl_cons, ← stage.active_step step]
    exact ih (stage.step step).2

end

/-! ### The state of one output -/

namespace Output

/-- The output is in use, and it is mapped exactly if the session is active. -/
structure Follows (output : Output δ) (active : Bool) : Prop where
  coherent : output.Coherent
  mapped_iff_active : output.state = .mapped ↔ active = true
  not_destroyed : output.state ≠ .destroyed

/-- A mapped output follows an active session. -/
theorem follows_of_mapped {output : Output δ} (hcoherent : output.Coherent)
    (hstate : output.state = .mapped) : output.Follows true :=
  ⟨hcoherent, by simp [hstate], by simp [hstate]⟩

/-- An output that is as it was before follows the session as before. -/
theorem Follows.of_state_eq {output left : Output δ} {active : Bool}
    (hfollows : output.Follows active) (hcoherent : left.Coherent)
    (hstate : left.state = output.state) : left.Follows active :=
  ⟨hcoherent, by rw [hstate, hfollows.mapped_iff_active], by
    rw [hstate]; exact hfollows.not_destroyed⟩

/-- What follows an inactive session waits to be enabled. -/
theorem Follows.waiting {output : Output δ} (hfollows : output.Follows false) :
    output.Waiting :=
  waiting_of_state_ne (by simpa using hfollows.mapped_iff_active) hfollows.not_destroyed

variable [FramebufferDevice δ]

/-- Repainting leaves the state alone, whatever it comes to. -/
@[simp] theorem state_repaint (output : Output δ) (damage : Damage) (renderer : Renderer)
    (now : Nat) : (output.repaint damage renderer now).2.1.state = output.state := by
  generalize hrepaint : output.repaint damage renderer now = outcome
  cases RepaintOutcome.of_eq hrepaint <;> rfl

/-- Enabling an output makes it mapped or fails. -/
theorem state_of_enable_ok {output back : Output δ} (henable : output.enable = (.ok (), back)) :
    back.state = .mapped := by
  have hwaiting (hwait : output.Waiting) : back.state = .mapped := by
    have houtcome := hwait.mapOutcome
    rw [henable] at houtcome
    cases houtcome with
    | mapped hmap hsize => rfl
  cases hstate : output.state with
  | unopened => exact hwaiting (.inl hstate)
  | disabled => exact hwaiting (.inr hstate)
  | mapped =>
    rw [enable_of_mapped hstate] at henable
    obtain rfl := (Prod.mk.inj henable).2
    exact hstate
  | destroyed => simp [enable, hstate] at henable

/-- Bringing an output back makes it mapped or fails. -/
theorem state_of_reenable_ok {output back : Output δ} {source after : ScreenSource}
    {result : Reenabled} (hreenable : output.reenable source = (.ok result, back, after)) :
    back.state = .mapped := by
  cases ReenableOutcome.of_eq hreenable with
  | alreadyMapped hstate => exact hstate
  | answered hwaiting hanswer hadopt =>
    cases hadopt with
    | remapped hsame henable => exact state_of_enable_ok henable
    | recreated hchanged hlayout hreopen henable => exact state_of_enable_ok henable

theorem state_disable_ne_destroyed {output : Output δ} (hstate : output.state ≠ .destroyed) :
    output.disable.state ≠ .destroyed := by
  unfold disable
  split
  · simp
  · exact hstate

/-- A created output waits for the session to be active. -/
theorem follows_create {name : String} {device : δ} {source after : ScreenSource}
    {output : Output δ} (hcreate : create name device source = (.ok output, after)) :
    output.Follows false := by
  have hcoherent := coherent_create hcreate
  cases CreateOutcome.of_eq hcreate with
  | created hanswer hlayout hopen => exact ⟨hcoherent, by simp, by simp⟩

theorem Follows.disable {output : Output δ} {active : Bool} (hfollows : output.Follows active) :
    output.disable.Follows false where
  coherent := coherent_disable hfollows.coherent
  mapped_iff_active := by simpa using output.state_disable_ne_mapped
  not_destroyed := state_disable_ne_destroyed hfollows.not_destroyed

end Output

/-! ### The outputs of a backend -/

variable [FramebufferDevice δ]

/-- Every output follows the session. -/
def followingLaw : OutputLaw δ where
  handed _ := True
  held active output := output.Follows active
  letGo _ := True
  painting _ := True
  refused _ _ := trivial
  created _ hcreate := Output.follows_create hcreate
  enabled hheld henable :=
    Output.follows_of_mapped (Output.coherent_damageAll (hheld.coherent.of_enable henable))
      (by rw [Output.state_damageAll, Output.state_of_enable_ok henable])
  unusable _ _ := trivial
  disabled hheld := hheld.disable
  reenabled hheld hreenable :=
    Output.follows_of_mapped (Output.coherent_damageAll (hheld.coherent.of_reenable hreenable))
      (by rw [Output.state_damageAll, Output.state_of_reenable_ok hreenable])
  removed _ _ := trivial
  damaged hheld :=
    hheld.of_state_eq (Output.coherent_damageAll hheld.coherent) (Output.state_damageAll _)
  repainted hheld _ _ now :=
    hheld.of_state_eq (Output.coherent_repaint (Output.coherent_takeDamage hheld.coherent) _ _ now)
      (Output.state_repaint _ _ _ now)
  rendered _ _ _ := trivial
  dispatched hheld now host :=
    hheld.of_state_eq (Output.coherent_dispatchTimer hheld.coherent now host)
      (Output.state_dispatchTimer _ now host)
  destroyed _ := trivial

/-- In every run of a backend, whatever the devices, the source and the renderer answer, the session
is active if it was last said to be so, and every output

* is mapped exactly if the session is active,
* waits to be enabled if it is not,
* is not destroyed as long as it is held,
* has damage to be painted only if it is mapped. -/
theorem mapped_iff_session_active (source : ScreenSource) (renderer : Renderer) (host : Host)
    (steps : List (BackendStep δ)) :
    let backend := ((Stage.start source renderer host).run steps).backend
    backend.active = sessionActivity steps ∧
    ∀ output ∈ backend.outputs,
      (output.state = .mapped ↔ backend.active = true) ∧
      (backend.active = false → output.state = .unopened ∨ output.state = .disabled) ∧
      output.state ≠ .destroyed ∧
      (output.hasPendingDamage → output.state = .mapped) := by
  intro backend
  have hstart : followingLaw.Holds (Stage.start source renderer host : Stage δ) :=
    followingLaw.holds_start source host trivial
  have hholds := OutputLaw.holds_run hstart steps fun _ _ _ _ ↦ trivial
  refine ⟨Stage.active_run (Stage.start source renderer host) steps, ?_⟩
  intro output houtput
  have hfollows : output.Follows backend.active := hholds.held output houtput
  refine ⟨hfollows.mapped_iff_active, ?_, hfollows.not_destroyed, ?_⟩
  · intro hinactive
    rw [hinactive] at hfollows
    exact hfollows.waiting
  · intro hpending
    by_contra hidle
    simp [Output.hasPendingDamage, hfollows.coherent.pending_eq hidle, Damage.isEmpty, Damage.none]
      at hpending

/-- Of two outputs, the second added while the session was inactive, the first does not come back;
the other is mapped although it could not be repainted. -/
theorem second_output_follows_session :
    let source : ScreenSource :=
      ⟨fun asked ↦ if asked = 2 then .error "unplugged" else .ok (.withSize 2 1), 0⟩
    let renderer := Renderer.solid Renderer.defaultColor fun _ ↦ some ⟨"no surface"⟩
    let steps := [.addOutput "left" HeapStorage.working, .notifySession false,
      .addOutput "right" HeapStorage.working, .notifySession true, .repaintPending 0]
    let backend := ((Stage.start source renderer (.atTime 0)).run steps).backend
    backend.outputs.map Output.name = ["right"] ∧
      ∀ output ∈ backend.outputs, output.hasPendingDamage ∧ output.state = .mapped := by
  intro source renderer steps backend
  obtain ⟨-, hfollow⟩ := mapped_iff_session_active source renderer (.atTime 0) steps
  have hreached : backend.outputs.map Output.name = ["right"] ∧
      ∀ output ∈ backend.outputs, output.hasPendingDamage := by decide +kernel
  refine ⟨hreached.1, ?_⟩
  intro output houtput
  have hpending := hreached.2 output houtput
  exact ⟨hpending, (hfollow output houtput).2.2.2 hpending⟩

end HeadlessDisplay
