import HeadlessDisplay.Proofs.Backend.DependableStorage
import HeadlessDisplay.Settings.Basic

/-!
# A backend on a configured screen

A `ConfiguredStage` is a backend whose source is a configured screen, and a `ScreenMove` either sets
the size of the screen or is an operation of the backend. After any moves the screen is the one that
was configured, at the last size that was accepted (`current_run`); a size that was refused or
replaced has left no trace.

Over devices that never fail everything in such a backend is then known: every output is served, in
the mode of the screen at some size, and the source answers with the screen as it is now. Of the
backend this is a law (`sizedLaw`); `Steady` adds the screen, and `steady_run` says that all moves
keep it.
-/

set_option autoImplicit false
set_option relaxedAutoImplicit false

namespace HeadlessDisplay

/-! ### Sizes of a screen -/

/-- The screen at the last of some sizes, or as it is if there are none. -/
def ScreenDescriptor.atLast (descriptor : ScreenDescriptor) (sizes : List (UInt32 × UInt32)) :
    ScreenDescriptor :=
  match sizes.getLast? with
  | none => descriptor
  | some (width, height) => descriptor.resize width height

/-- Of sizes set one after another only the last matters. -/
theorem ScreenDescriptor.atLast_append (descriptor : ScreenDescriptor)
    (first second : List (UInt32 × UInt32)) :
    descriptor.atLast (first ++ second) = (descriptor.atLast first).atLast second := by
  simp only [atLast, List.getLast?_append]
  cases second.getLast? with
  | none => rfl
  | some size => cases first.getLast? <;> rfl

/-- A size with a zero is refused, and any other one is accepted. -/
theorem ConfiguredScreen.setSize_eq (screen : ConfiguredScreen) (width height : UInt32) :
    screen.setSize width height =
      if width = 0 ∨ height = 0 then .error (.invalidSize width height)
      else .ok ⟨screen.current.resize width height⟩ := by
  have hzero (size : UInt32) : size < 1 ↔ size = 0 := by
    rw [UInt32.lt_iff_toNat_lt, ← UInt32.toNat_inj, UInt32.toNat_one, UInt32.toNat_zero]
    omega
  simp only [setSize, hzero]

variable {δ : Type}

/-! ### Moves -/

/-- Something done to a configured screen or to the backend that it is the source of. -/
inductive ScreenMove (δ : Type)
  | setSize (width height : UInt32)
  | operate (step : BackendStep δ)

namespace ScreenMove

/-- The size that is set, unless it is refused. -/
def accepted? : ScreenMove δ → Option (UInt32 × UInt32)
  | .setSize width height => if width = 0 ∨ height = 0 then none else some (width, height)
  | .operate _ => none

/-- The devices that are handed in. -/
def devices : ScreenMove δ → List δ
  | .setSize .. => []
  | .operate step => step.devices

end ScreenMove

/-- The sizes that are set and accepted, in order. -/
def acceptedSizes (moves : List (ScreenMove δ)) : List (UInt32 × UInt32) :=
  moves.filterMap ScreenMove.accepted?

/-- A backend together with the configured screen that is its source. -/
structure ConfiguredStage (δ : Type) where
  screen : ConfiguredScreen
  stage : Stage δ

namespace ConfiguredStage

/-- A backend without outputs, on a screen with the given descriptor. -/
def start (descriptor : ScreenDescriptor) (renderer : Renderer) (host : Host) :
    ConfiguredStage δ :=
  let screen : ConfiguredScreen := ⟨descriptor⟩
  ⟨screen, .start (.always screen.answer) renderer host⟩

variable [FramebufferDevice δ]

/-- Makes one move. -/
def step (configured : ConfiguredStage δ) : ScreenMove δ → ConfiguredStage δ
  | .setSize width height =>
    match configured.screen.setSize width height with
    | .error _ => configured
    | .ok screen =>
      let source := configured.stage.source.answering screen.answer
      ⟨screen, { configured.stage with source }⟩
  | .operate step => { configured with stage := (configured.stage.step step).2 }

/-- Makes moves one after another. -/
def run (configured : ConfiguredStage δ) (moves : List (ScreenMove δ)) : ConfiguredStage δ :=
  moves.foldl step configured

theorem run_append (configured : ConfiguredStage δ) (first second : List (ScreenMove δ)) :
    configured.run (first ++ second) = (configured.run first).run second :=
  List.foldl_append

/-- What one move makes of the screen. -/
theorem current_step (configured : ConfiguredStage δ) (move : ScreenMove δ) :
    (configured.step move).screen.current =
      configured.screen.current.atLast move.accepted?.toList := by
  cases move with
  | setSize width height =>
    simp only [step, ConfiguredScreen.setSize_eq, ScreenMove.accepted?]
    by_cases hzero : width = 0 ∨ height = 0
    · rw [if_pos hzero, if_pos hzero]
      rfl
    · rw [if_neg hzero, if_neg hzero]
      rfl
  | operate step => rfl

/-- After any moves the screen has the last size that was accepted, if there was any. -/
theorem current_run (configured : ConfiguredStage δ) (moves : List (ScreenMove δ)) :
    (configured.run moves).screen.current =
      configured.screen.current.atLast (acceptedSizes moves) := by
  induction moves generalizing configured with
  | nil => rfl
  | cons move rest ih =>
    have hsizes : acceptedSizes (move :: rest) = move.accepted?.toList ++ acceptedSizes rest := by
      cases haccepted : move.accepted? <;> simp [acceptedSizes, haccepted]
    rw [hsizes, ScreenDescriptor.atLast_append, ← current_step]
    exact ih (configured.step move)

end ConfiguredStage

/-! ### Outputs of one screen -/

variable [FramebufferDevice δ]

/-- Repainting an output leaves its mode alone, whatever it comes to. -/
theorem Output.RepaintOutcome.descriptor_eq {output : Output δ} {damage : Damage}
    {renderer : Renderer} {now : Nat} {outcome : Except OutputError Repainted × Output δ × Renderer}
    (houtcome : RepaintOutcome output damage renderer now outcome) :
    outcome.2.1.descriptor = output.descriptor := by
  cases houtcome <;> rfl

/-- The output is served, in the mode of a screen at some size. -/
structure Output.Sized (dependable : Dependable δ) (base : ScreenDescriptor) (active : Bool)
    (output : Output δ) : Prop where
  served : output.Served dependable active
  exists_size : ∃ width height, output.descriptor = base.resize width height

namespace Output.Sized

variable {dependable : Dependable δ} {base : ScreenDescriptor} {output : Output δ} {active : Bool}
  {width height : UInt32}

theorem create {name : String} {device : δ} {source after : ScreenSource}
    (hclosed : dependable.stands .closed device)
    (hanswer : source.ask.1 = .ok (base.resize width height))
    (hcreate : Output.create name device source = (.ok output, after)) :
    output.Sized dependable base false := by
  refine ⟨served_create hclosed hcreate, width, height, ?_⟩
  cases CreateOutcome.of_eq hcreate with
  | created hfound hlayout hopen => exact Except.ok.inj (hfound.symm.trans hanswer)

theorem enable {back : Output δ} (hsized : output.Sized dependable base false)
    (henable : output.enable = (.ok (), back)) : back.Sized dependable base true := by
  obtain ⟨mapping, device, hsize, -, henabled, hserved⟩ := hsized.served.enable
  obtain rfl := (Prod.mk.inj (henabled.symm.trans henable)).2
  exact ⟨hserved, hsized.exists_size⟩

/-- An output that came back at a size of the screen is sized; one that was mapped already has its
size from before. -/
theorem reenable {back : Output δ} {source after : ScreenSource} {result : Reenabled}
    (hsized : output.Sized dependable base active)
    (hanswer : source.ask.1 = .ok (base.resize width height))
    (hreenable : output.reenable source = (.ok result, back, after)) :
    back.Sized dependable base true := by
  cases active with
  | true =>
    have hmapped := hsized.served.follows.mapped_iff_active.mpr rfl
    have hstays : back = output :=
      eq_of_reenable (fun hwaiting ↦ hwaiting.state_ne_mapped hmapped) hreenable
    rwa [hstays]
  | false =>
    cases hlayout : (base.resize width height).layout with
    | error error =>
      have hfollows := hsized.served.follows
      rw [reenable_of_layout_error hfollows.coherent hfollows.waiting hanswer hlayout] at hreenable
      simp at hreenable
    | ok layout =>
      obtain ⟨found, left, hfound, hrestored, hserved⟩ := hsized.served.reenable hanswer hlayout
      rw [hfound] at hreenable
      obtain rfl := (Prod.mk.inj (Prod.mk.inj hreenable).2).1
      exact ⟨hserved, width, height, hrestored.descriptor_eq⟩

theorem disable (hsized : output.Sized dependable base active) :
    output.disable.Sized dependable base false := by
  refine ⟨hsized.served.disable, ?_⟩
  unfold Output.disable release
  split
  · split <;> exact hsized.exists_size
  · exact hsized.exists_size

theorem damageAll (hsized : output.Sized dependable base active) :
    output.damageAll.Sized dependable base active := by
  refine ⟨hsized.served.damageAll, ?_⟩
  unfold Output.damageAll addDamage
  split <;> exact hsized.exists_size

theorem repaintPending (hsized : output.Sized dependable base active)
    (hmapped : output.state = .mapped) (renderer : Renderer) (now : Nat) :
    (output.repaintPending renderer now).2.1.Sized dependable base active := by
  refine ⟨hsized.served.repaintPending hmapped renderer now, ?_⟩
  have houtcome : RepaintOutcome output.takeDamage.2 output.pending renderer now
      (output.repaintPending renderer now) := .of_eq rfl
  rw [houtcome.descriptor_eq]
  exact hsized.exists_size

theorem dispatchTimer (hsized : output.Sized dependable base active) (now : Nat) (host : Host) :
    (output.dispatchTimer now host).2.1.Sized dependable base active := by
  refine ⟨hsized.served.dispatchTimer now host, ?_⟩
  unfold Output.dispatchTimer
  split <;> exact hsized.exists_size

end Output.Sized

/-- Every output is sized, as long as the source answers with the screen at a certain size. -/
def sizedLaw (dependable : Dependable δ) (base : ScreenDescriptor) (width height : UInt32) :
    SourcedLaw δ where
  handed := dependable.stands .closed
  held := Output.Sized dependable base
  letGo _ := True
  painting _ := True
  asking source := source.answer = fun _ ↦ .ok (base.resize width height)
  asked hasking := hasking
  refused _ _ _ := trivial
  created hclosed hasking hcreate := .create hclosed (congrFun hasking _) hcreate
  enabled hheld henable := (hheld.enable henable).damageAll
  unusable _ _ := trivial
  disabled hheld := hheld.disable
  reenabled hheld hasking hreenable := (hheld.reenable (congrFun hasking _) hreenable).damageAll
  removed _ _ _ := trivial
  damaged hheld := hheld.damageAll
  repainted hheld hmapped _ now := hheld.repaintPending hmapped _ now
  rendered _ _ _ := trivial
  dispatched hheld now host := hheld.dispatchTimer now host
  destroyed _ := trivial

namespace ConfiguredStage

/-- The outputs are sized, and the source answers with the screen as it is now. -/
def Steady (dependable : Dependable δ) (base : ScreenDescriptor) (configured : ConfiguredStage δ) :
    Prop :=
  ∃ width height, configured.screen.current = base.resize width height ∧
    (sizedLaw dependable base width height).Holds configured.stage

variable {dependable : Dependable δ} {configured : ConfiguredStage δ}

theorem steady_start (settings : OutputSettings) (renderer : Renderer) (host : Host) :
    (start settings.descriptor renderer host).Steady dependable settings.descriptor :=
  ⟨settings.width, settings.height, rfl,
    trivial, rfl, by simp [start, Stage.start, Backend.empty], by simp [start, Stage.start]⟩

variable {base : ScreenDescriptor}

/-- Every move keeps the stage steady. -/
theorem steady_step (hsteady : configured.Steady dependable base) (move : ScreenMove δ)
    (hclosed : ∀ device ∈ move.devices, dependable.stands .closed device) :
    (configured.step move).Steady dependable base := by
  obtain ⟨width, height, hcurrent, hholds⟩ := hsteady
  cases move with
  | operate step => exact ⟨width, height, hcurrent, SourcedLaw.holds_step hholds step hclosed⟩
  | setSize newWidth newHeight =>
    simp only [step, ConfiguredScreen.setSize_eq]
    by_cases hzero : newWidth = 0 ∨ newHeight = 0
    · rw [if_pos hzero]
      exact ⟨width, height, hcurrent, hholds⟩
    · -- Only the source learns of the size; what holds of the outputs does not name the size.
      rw [if_neg hzero, hcurrent]
      exact ⟨newWidth, newHeight, rfl, hholds.painting, rfl, hholds.held, hholds.letGo⟩

/-- A stage stays steady in every run. -/
theorem steady_run (hsteady : configured.Steady dependable base) (moves : List (ScreenMove δ))
    (hclosed : ∀ move ∈ moves, ∀ device ∈ move.devices, dependable.stands .closed device) :
    (configured.run moves).Steady dependable base := by
  induction moves generalizing configured with
  | nil => exact hsteady
  | cons move rest ih =>
    exact ih (steady_step hsteady move (hclosed move (.head _)))
      fun later hlater ↦ hclosed later (.tail _ hlater)

namespace Steady

/-- The source of a steady stage answers with the screen as it is now. -/
theorem answer_eq (hsteady : configured.Steady dependable base) :
    configured.stage.source.answer = fun _ ↦ .ok configured.screen.current := by
  obtain ⟨width, height, hcurrent, hholds⟩ := hsteady
  rw [hcurrent]
  exact hholds.asking

theorem sized (hsteady : configured.Steady dependable base) :
    ∀ output ∈ configured.stage.backend.outputs,
      output.Sized dependable base configured.stage.backend.active := by
  obtain ⟨width, height, -, hholds⟩ := hsteady
  exact hholds.held

end Steady

end ConfiguredStage

end HeadlessDisplay
