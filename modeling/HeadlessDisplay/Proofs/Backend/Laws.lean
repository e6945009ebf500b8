import HeadlessDisplay.Backend.Stage
import HeadlessDisplay.Proofs.Output.Coherence

/-!
# Laws of outputs in a backend

A backend does the same few things to each of its outputs: it creates and enables one, disables it,
brings it back and damages it, repaints it, fires its timer and destroys it. A `SourcedLaw` is a
property of outputs, one for an active and one for an inactive session, together with a property of
the devices that are let go, which these things keep. Its fields are the obligations, each about
one output; `SourcedLaw.holds_step` concludes that each operation of a backend keeps the law of all
outputs and of all devices let go.

A law may assume something of the devices that are handed in (`handed`), of the renderer
(`painting`) and of the source (`asking`). An `OutputLaw` assumes nothing of the source, and
`OutputLaw.holds_run` concludes that it holds after every run of a backend. The law that assumes
nothing at all is the coherence of every output, `coherentLaw`.
-/

set_option autoImplicit false
set_option relaxedAutoImplicit false

namespace HeadlessDisplay

variable {δ : Type}

/-- The devices that an operation hands in. -/
def BackendStep.devices : BackendStep δ → List δ
  | .addOutput _ device => [device]
  | .notifySession _ | .repaintPending _ | .damageAll | .dispatchTimers _ | .startRepaintLoop
  | .shutdown => []

variable [FramebufferDevice δ]

/-- A property of outputs that a backend keeps, whether the session is active or not, as long as the
source is what is assumed of it. -/
structure SourcedLaw (δ : Type) [FramebufferDevice δ] where
  /-- What is assumed of a device that is handed in. -/
  handed : δ → Prop
  /-- What holds of an output of an active or inactive session. -/
  held : Bool → Output δ → Prop
  /-- What holds of a device that is let go. -/
  letGo : δ → Prop
  /-- What is assumed of the renderer. -/
  painting : Renderer → Prop
  /-- What is assumed of the source. -/
  asking : ScreenSource → Prop
  asked : ∀ {source}, asking source → asking source.ask.2
  refused : ∀ {name device source error left after}, handed device → asking source →
    Output.create name device source = (.error (error, left), after) → letGo left
  created : ∀ {name device source output after}, handed device → asking source →
    Output.create name device source = (.ok output, after) → held false output
  enabled : ∀ {output back}, held false output →
    output.enable = (.ok (), back) → held true back.damageAll
  unusable : ∀ {output error left}, held false output →
    output.enable = (.error error, left) → letGo left.destroy.device
  disabled : ∀ {active output}, held active output → held false output.disable
  reenabled : ∀ {active output source result back after}, held active output → asking source →
    output.reenable source = (.ok result, back, after) → held true back.damageAll
  removed : ∀ {active output source error left after}, held active output → asking source →
    output.reenable source = (.error error, left, after) → letGo left.destroy.device
  damaged : ∀ {active output}, held active output → held active output.damageAll
  repainted : ∀ {active output renderer}, held active output → output.state = .mapped →
    painting renderer → ∀ now, held active (output.repaintPending renderer now).2.1
  rendered : ∀ {renderer}, painting renderer →
    ∀ surface damage, painting (renderer.paint surface damage).2.2
  dispatched : ∀ {active output}, held active output →
    ∀ now host, held active (output.dispatchTimer now host).2.1
  destroyed : ∀ {active output}, held active output → letGo output.destroy.device

/-- A property of outputs that a backend keeps, whether the session is active or not and whatever
the source answers. -/
structure OutputLaw (δ : Type) [FramebufferDevice δ] where
  /-- What is assumed of a device that is handed in. -/
  handed : δ → Prop
  /-- What holds of an output of an active or inactive session. -/
  held : Bool → Output δ → Prop
  /-- What holds of a device that is let go. -/
  letGo : δ → Prop
  /-- What is assumed of the renderer. -/
  painting : Renderer → Prop
  refused : ∀ {name device source error left after}, handed device →
    Output.create name device source = (.error (error, left), after) → letGo left
  created : ∀ {name device source output after}, handed device →
    Output.create name device source = (.ok output, after) → held false output
  enabled : ∀ {output back}, held false output →
    output.enable = (.ok (), back) → held true back.damageAll
  unusable : ∀ {output error left}, held false output →
    output.enable = (.error error, left) → letGo left.destroy.device
  disabled : ∀ {active output}, held active output → held false output.disable
  reenabled : ∀ {active output source result back after}, held active output →
    output.reenable source = (.ok result, back, after) → held true back.damageAll
  removed : ∀ {active output source error left after}, held active output →
    output.reenable source = (.error error, left, after) → letGo left.destroy.device
  damaged : ∀ {active output}, held active output → held active output.damageAll
  repainted : ∀ {active output renderer}, held active output → output.state = .mapped →
    painting renderer → ∀ now, held active (output.repaintPending renderer now).2.1
  rendered : ∀ {renderer}, painting renderer →
    ∀ surface damage, painting (renderer.paint surface damage).2.2
  dispatched : ∀ {active output}, held active output →
    ∀ now host, held active (output.dispatchTimer now host).2.1
  destroyed : ∀ {active output}, held active output → letGo output.destroy.device

/-- A repaint calls the renderer at most once. -/
theorem Output.renderer_repaint (output : Output δ) (damage : Damage) (renderer : Renderer)
    (now : Nat) : (output.repaint damage renderer now).2.2 = renderer ∨
      ∃ surface visible, (output.repaint damage renderer now).2.2 =
        (renderer.paint surface visible).2.2 := by
  unfold Output.repaint
  split
  · exact .inl rfl
  · next framebuffer _ =>
    refine .inr ⟨framebuffer.surface, damage.clip output.layout.width output.layout.height, ?_⟩
    dsimp only
    split <;> rfl

/-- Creating an output asks the source once. -/
theorem Output.source_create (name : String) (device : δ) (source : ScreenSource) :
    (create name device source).2 = source.ask.2 := by
  generalize hcreate : create name device source = outcome
  cases CreateOutcome.of_eq hcreate <;> rfl

/-- Bringing an output back asks the source at most once. -/
theorem Output.source_reenable_or (output : Output δ) (source : ScreenSource) :
    (output.reenable source).2.2 = source ∨ (output.reenable source).2.2 = source.ask.2 := by
  generalize hreenable : output.reenable source = outcome
  cases ReenableOutcome.of_eq hreenable with
  | destroyed hstate => exact .inl rfl
  | alreadyMapped hstate => exact .inl rfl
  | queryFailed hwaiting hanswer => exact .inr rfl
  | answered hwaiting hanswer hadopt => exact .inr rfl

namespace SourcedLaw

variable (law : SourcedLaw δ)

/-- The law holds of all outputs and of all devices let go. -/
structure Holds (stage : Stage δ) : Prop where
  painting : law.painting stage.renderer
  asking : law.asking stage.source
  held : ∀ output ∈ stage.backend.outputs, law.held stage.backend.active output
  letGo : ∀ device ∈ stage.released, law.letGo device

variable {law}

/-- A repaint keeps the renderer what it is assumed to be. -/
theorem painting_repaint {renderer : Renderer} (hpainting : law.painting renderer)
    (output : Output δ) (damage : Damage) (now : Nat) :
    law.painting (output.repaint damage renderer now).2.2 := by
  rcases output.renderer_repaint damage renderer now with hsame | ⟨surface, visible, hpaint⟩
  · rwa [hsame]
  · rw [hpaint]
    exact law.rendered hpainting surface visible

/-- Creating an output keeps the source what it is assumed to be. -/
theorem asking_create {source : ScreenSource} (hasking : law.asking source) (name : String)
    (device : δ) : law.asking (Output.create name device source).2 := by
  rw [Output.source_create]
  exact law.asked hasking

/-- Bringing an output back keeps the source what it is assumed to be. -/
theorem asking_reenable {source : ScreenSource} (hasking : law.asking source)
    (output : Output δ) : law.asking (output.reenable source).2.2 := by
  rcases output.source_reenable_or source with hsame | hask
  · rwa [hsame]
  · rw [hask]
    exact law.asked hasking

/-- Adding an output keeps the law, whether or not it succeeds. -/
theorem held_addOutput {backend : Backend δ} {device : δ} {source : ScreenSource}
    (hhanded : law.handed device) (hasking : law.asking source)
    (hheld : ∀ output ∈ backend.outputs, law.held backend.active output) (name : String) :
    (∀ output ∈ (backend.addOutput name device source).2.1.outputs,
      law.held (backend.addOutput name device source).2.1.active output) ∧
    (∀ left ∈ (backend.addOutput name device source).2.2.1, law.letGo left) ∧
    law.asking (backend.addOutput name device source).2.2.2 := by
  have hafter := asking_create hasking name device
  simp only [Backend.addOutput, Output.drop_eq_destroy]
  split
  · next error left after hcreate =>
    rw [hcreate] at hafter
    exact ⟨hheld, by simpa using law.refused hhanded hasking hcreate, hafter⟩
  · next output after hcreate =>
    rw [hcreate] at hafter
    have hcreated := law.created hhanded hasking hcreate
    cases hactive : backend.active with
    | false =>
      rw [hactive] at hheld
      simpa [hactive, or_imp, forall_and] using ⟨⟨hheld, hcreated⟩, hafter⟩
    | true =>
      rw [hactive] at hheld
      rw [if_pos rfl]
      split
      · next error left henable =>
        refine ⟨by simpa only [hactive] using hheld, ?_, hafter⟩
        simpa using law.unusable hcreated henable
      · next back henable =>
        have hback := law.enabled hcreated henable
        simpa [hactive, or_imp, forall_and] using ⟨⟨hheld, hback⟩, hafter⟩

/-- Bringing the outputs back keeps the law of those that come back and of the devices of those
that do not. -/
theorem held_reenableAll {active : Bool} {outputs : List (Output δ)} {source : ScreenSource}
    (hheld : ∀ output ∈ outputs, law.held active output) (hasking : law.asking source)
    (host : Host) :
    (∀ output ∈ (Backend.reenableAll outputs source host).kept, law.held true output) ∧
      (∀ device ∈ (Backend.reenableAll outputs source host).released, law.letGo device) ∧
      law.asking (Backend.reenableAll outputs source host).source := by
  induction outputs generalizing source host with
  | nil => simpa [Backend.reenableAll] using hasking
  | cons output rest ih =>
    have hrest {source : ScreenSource} (hasking : law.asking source) (host : Host) :=
      ih (fun other hother ↦ hheld other (.tail _ hother)) hasking host
    have hfirst := hheld output (.head _)
    have hafter := asking_reenable hasking output
    unfold Backend.reenableAll
    split
    · next result back after hreenable =>
      rw [hreenable] at hafter
      obtain ⟨hkept, hreleased, hlast⟩ := hrest hafter host
      refine ⟨?_, hreleased, hlast⟩
      simpa using ⟨law.reenabled hfirst hasking hreenable, hkept⟩
    · next error left after hreenable =>
      rw [hreenable] at hafter
      obtain ⟨hkept, hreleased, hlast⟩ := hrest hafter (host.tell (.removed left.destroy.name))
      refine ⟨hkept, ?_, hlast⟩
      simpa using ⟨law.removed hfirst hasking hreenable, hreleased⟩

/-- Repainting the outputs keeps the law. -/
theorem held_repaintOutputs {active : Bool} {outputs : List (Output δ)} {renderer : Renderer}
    (hheld : ∀ output ∈ outputs, law.held active output) (hpainting : law.painting renderer)
    (now : Nat) :
    (∀ output ∈ (Backend.repaintOutputs now outputs renderer).2.1, law.held active output) ∧
      law.painting (Backend.repaintOutputs now outputs renderer).2.2 := by
  induction outputs generalizing renderer with
  | nil => exact ⟨by simp [Backend.repaintOutputs], hpainting⟩
  | cons output rest ih =>
    have hfirst := hheld output (.head _)
    have hrest {renderer : Renderer} (hpainting : law.painting renderer) :=
      ih (fun other hother ↦ hheld other (.tail _ hother)) hpainting
    unfold Backend.repaintOutputs
    split
    · next hdue =>
      have hafter : law.painting (output.repaintPending renderer now).2.2 :=
        painting_repaint hpainting _ _ now
      obtain ⟨hlater, hlast⟩ := hrest hafter
      refine ⟨?_, hlast⟩
      simpa using ⟨law.repainted hfirst hdue.1 hpainting now, hlater⟩
    · obtain ⟨hlater, hlast⟩ := hrest hpainting
      exact ⟨by simpa using ⟨hfirst, hlater⟩, hlast⟩

/-- Firing the timers of the outputs keeps the law. -/
theorem held_dispatchOutputs {active : Bool} {outputs : List (Output δ)}
    (hheld : ∀ output ∈ outputs, law.held active output) (now : Nat) (host : Host) :
    ∀ output ∈ (Backend.dispatchOutputs now outputs host).2.1, law.held active output := by
  induction outputs generalizing host with
  | nil => simp [Backend.dispatchOutputs]
  | cons output rest ih =>
    have hfirst := law.dispatched (hheld output (.head _)) now host
    have hrest := ih (fun other hother ↦ hheld other (.tail _ hother))
      (output.dispatchTimer now host).2.2
    simpa [Backend.dispatchOutputs] using ⟨hfirst, hrest⟩

/-- Each operation of a backend keeps the law. -/
theorem holds_step {stage : Stage δ} (hholds : law.Holds stage) (step : BackendStep δ)
    (hhanded : ∀ device ∈ step.devices, law.handed device) : law.Holds (stage.step step).2 := by
  obtain ⟨hpainting, hasking, hheld, hletGo⟩ := hholds
  have happend {more : List δ} (hmore : ∀ device ∈ more, law.letGo device) :
      ∀ device ∈ stage.released ++ more, law.letGo device := fun device hdevice ↦
    (List.mem_append.mp hdevice).elim (hletGo device) (hmore device)
  cases step with
  | addOutput name device =>
    obtain ⟨houtputs, hleft, hafter⟩ :=
      held_addOutput (hhanded device (.head _)) hasking hheld name
    exact ⟨hpainting, hafter, houtputs, happend hleft⟩
  | notifySession active =>
    cases active with
    | false =>
      refine ⟨hpainting, hasking, ?_, by simpa [Stage.step, Backend.notifySession] using hletGo⟩
      simpa [Stage.step, Backend.notifySession] using fun output houtput ↦
        law.disabled (hheld output houtput)
    | true =>
      obtain ⟨hkept, hreleased, hafter⟩ := held_reenableAll hheld hasking stage.host
      exact ⟨hpainting, hafter, hkept, happend hreleased⟩
  | repaintPending now =>
    obtain ⟨houtputs, hafter⟩ := held_repaintOutputs hheld hpainting now
    exact ⟨hafter, hasking, houtputs, hletGo⟩
  | damageAll =>
    refine ⟨hpainting, hasking, ?_, hletGo⟩
    simpa [Stage.step, Backend.damageAll] using fun output houtput ↦
      law.damaged (hheld output houtput)
  | dispatchTimers now =>
    exact ⟨hpainting, hasking, held_dispatchOutputs hheld now stage.host, hletGo⟩
  | startRepaintLoop => exact ⟨hpainting, hasking, hheld, hletGo⟩
  | shutdown =>
    refine ⟨hpainting, hasking, by simp [Stage.step, Backend.shutdown], happend ?_⟩
    simpa [Backend.shutdown] using fun output houtput ↦ law.destroyed (hheld output houtput)

end SourcedLaw

namespace OutputLaw

/-- The law with nothing assumed of the source. -/
def sourced (law : OutputLaw δ) : SourcedLaw δ :=
  { law with
    asking := fun _ ↦ True
    asked := fun _ ↦ trivial
    refused := fun hhanded _ ↦ law.refused hhanded
    created := fun hhanded _ ↦ law.created hhanded
    reenabled := fun hheld _ ↦ law.reenabled hheld
    removed := fun hheld _ ↦ law.removed hheld }

variable (law : OutputLaw δ)

/-- The law holds of all outputs and of all devices let go. -/
structure Holds (stage : Stage δ) : Prop where
  painting : law.painting stage.renderer
  held : ∀ output ∈ stage.backend.outputs, law.held stage.backend.active output
  letGo : ∀ device ∈ stage.released, law.letGo device

variable {law}

/-- Each operation of a backend keeps the law. -/
theorem holds_step {stage : Stage δ} (hholds : law.Holds stage) (step : BackendStep δ)
    (hhanded : ∀ device ∈ step.devices, law.handed device) : law.Holds (stage.step step).2 := by
  have hsourced : law.sourced.Holds stage :=
    ⟨hholds.painting, trivial, hholds.held, hholds.letGo⟩
  obtain ⟨hpainting, -, hheld, hletGo⟩ := SourcedLaw.holds_step hsourced step hhanded
  exact ⟨hpainting, hheld, hletGo⟩

/-- The law holds after every run of a backend. -/
theorem holds_run {stage : Stage δ} (hholds : law.Holds stage) (steps : List (BackendStep δ))
    (hhanded : ∀ step ∈ steps, ∀ device ∈ step.devices, law.handed device) :
    law.Holds (stage.run steps) := by
  induction steps generalizing stage with
  | nil => exact hholds
  | cons step rest ih =>
    exact ih (holds_step hholds step (hhanded step (.head _)))
      fun later hlater ↦ hhanded later (.tail _ hlater)

/-- The law holds of a backend without outputs. -/
theorem holds_start (source : ScreenSource) {renderer : Renderer} (host : Host)
    (hpainting : law.painting renderer) : law.Holds (Stage.start source renderer host) :=
  ⟨hpainting, by simp [Stage.start, Backend.empty], by simp [Stage.start]⟩

end OutputLaw

/-- Every output is coherent. -/
def coherentLaw : OutputLaw δ where
  handed _ := True
  held _ output := output.Coherent
  letGo _ := True
  painting _ := True
  refused _ _ := trivial
  created _ hcreate := Output.coherent_create hcreate
  enabled hheld henable := Output.coherent_damageAll (hheld.of_enable henable)
  unusable _ _ := trivial
  disabled hheld := Output.coherent_disable hheld
  reenabled hheld hreenable := Output.coherent_damageAll (hheld.of_reenable hreenable)
  removed _ _ := trivial
  damaged hheld := Output.coherent_damageAll hheld
  repainted hheld _ _ now := Output.coherent_repaint (Output.coherent_takeDamage hheld) _ _ now
  rendered _ _ _ := trivial
  dispatched hheld now host := Output.coherent_dispatchTimer hheld now host
  destroyed _ := trivial

/-- The outputs of a backend are coherent in every run. -/
theorem coherent_of_mem_run (source : ScreenSource) (renderer : Renderer) (host : Host)
    (steps : List (BackendStep δ)) {output : Output δ}
    (houtput : output ∈ ((Stage.start source renderer host).run steps).backend.outputs) :
    output.Coherent :=
  (OutputLaw.holds_run (coherentLaw.holds_start source host trivial) steps
    fun _ _ _ _ ↦ trivial).held output houtput

end HeadlessDisplay
