import HeadlessDisplay.Proofs.Backend.Comeback
import HeadlessDisplay.Proofs.Backend.ConfiguredStage
import HeadlessDisplay.Proofs.Backend.Passes

/-!
# Sizes take effect at activation

Setting the size of a configured screen changes what its outputs will be told and nothing of the
outputs themselves. While the session is inactive nothing else changes them either, but for timers
that fire (`atRest_run`). When the session is activated every output learns of the size that the
screen has by then. `Output.Resized` says what it is afterwards; of the calls on its device it says
that the storage is closed and opened exactly if the size is another one than the output had, which
is so because the modes of one screen differ exactly in their sizes (`sameMode_resize_iff`).

Over devices that never fail, the pass over the outputs goes as the layout of the screen does: with
a layout every output comes back (`restored_reenableAll`), and without one none does
(`removed_reenableAll`).
-/

set_option autoImplicit false
set_option relaxedAutoImplicit false

namespace HeadlessDisplay

/-- Two sizes of a screen are one mode exactly if they are equal. -/
theorem ScreenDescriptor.sameMode_resize_iff (base : ScreenDescriptor)
    (width height otherWidth otherHeight : UInt32) :
    (base.resize width height).sameMode (base.resize otherWidth otherHeight) ↔
      width = otherWidth ∧ height = otherHeight := by
  rw [sameMode_iff]
  simp only [resize, mk.injEq, and_true]
  constructor
  · rintro ⟨hwidth, hheight, -⟩
    exact ⟨hwidth, hheight⟩
  · rintro ⟨rfl, rfl⟩
    exact ⟨rfl, rfl, rfl, rfl⟩

variable {δ : Type}

/-! ### While the session is inactive -/

/-- The output with its timer at rest. -/
def Output.atRest (output : Output δ) : Output δ :=
  { output with timer := { output.timer with deadline := none } }

theorem FrameTimer.atRest_poll (timer : FrameTimer) (now : Nat) :
    { (timer.poll now).2 with deadline := none } = { timer with deadline := none } := by
  unfold poll
  split <;> rfl

/-- The operation neither adds nor removes outputs and does not activate the session. -/
def BackendStep.quiet : BackendStep δ → Bool
  | .addOutput .. | .notifySession true | .shutdown => false
  | .notifySession false | .repaintPending _ | .damageAll | .dispatchTimers _ | .startRepaintLoop =>
    true

/-- The move sets the size of the screen, or is a quiet operation. -/
def ScreenMove.quiet : ScreenMove δ → Bool
  | .setSize .. => true
  | .operate step => step.quiet

variable [FramebufferDevice δ]

/-- A pass of repaints passes over outputs that are not mapped. -/
theorem Backend.repaintOutputs_of_idle {outputs : List (Output δ)}
    (hidle : ∀ output ∈ outputs, output.state ≠ .mapped) (now : Nat) (renderer : Renderer) :
    repaintOutputs now outputs renderer = (0, outputs, renderer) := by
  induction outputs with
  | nil => rfl
  | cons output rest ih =>
    rw [repaintOutputs, if_neg fun hdue ↦ hidle output (.head _) hdue.1,
      ih fun other hother ↦ hidle other (.tail _ hother)]

/-- A quiet operation leaves the outputs of an inactive session as they are, but for timers. -/
theorem Stage.atRest_step {stage : Stage δ}
    (hidle : ∀ output ∈ stage.backend.outputs, output.state ≠ .mapped)
    (hinactive : stage.backend.active = false) {step : BackendStep δ} (hquiet : step.quiet) :
    (stage.step step).2.backend.outputs.map Output.atRest = stage.backend.outputs.map Output.atRest ∧
      (stage.step step).2.backend.active = false := by
  have hsame {change : Output δ → Output δ}
      (hchange : ∀ output, output.state ≠ .mapped → change output = output) :
      stage.backend.outputs.map change = stage.backend.outputs := by
    conv_rhs => rw [← List.map_id stage.backend.outputs]
    exact List.map_congr_left fun output houtput ↦ hchange output (hidle output houtput)
  cases step with
  | addOutput name device => simp [BackendStep.quiet] at hquiet
  | shutdown => simp [BackendStep.quiet] at hquiet
  | notifySession active =>
    cases active with
    | true => simp [BackendStep.quiet] at hquiet
    | false =>
      refine ⟨congrArg _ (hsame fun output hstate ↦ ?_), rfl⟩
      rw [Output.disable, if_neg hstate]
  | repaintPending now =>
    refine ⟨?_, hinactive⟩
    simp only [step, Backend.repaintPending, Backend.repaintOutputs_of_idle hidle]
  | damageAll =>
    refine ⟨congrArg _ (hsame fun output hstate ↦ ?_), hinactive⟩
    rw [Output.damageAll, Output.addDamage, if_neg hstate]
  | dispatchTimers now =>
    refine ⟨?_, hinactive⟩
    simp only [step, Backend.dispatchTimers, Backend.outputs_dispatchOutputs, List.map_map]
    refine List.map_congr_left fun output _ ↦ ?_
    simp only [Function.comp_apply, Output.atRest, FrameTimer.atRest_poll]
  | startRepaintLoop => exact ⟨rfl, hinactive⟩

omit [FramebufferDevice δ] in
/-- A quiet move hands no device in. -/
theorem ScreenMove.devices_of_quiet {move : ScreenMove δ} (hquiet : move.quiet) :
    move.devices = [] := by
  cases move with
  | setSize width height => rfl
  | operate step => cases step <;> simp [quiet, BackendStep.quiet] at hquiet ⊢ <;> rfl

namespace ConfiguredStage

variable {dependable : Dependable δ} {base : ScreenDescriptor} {configured : ConfiguredStage δ}

/-- Setting the size of the screen does nothing to the backend. -/
theorem backend_setSize (configured : ConfiguredStage δ) (width height : UInt32) :
    (configured.step (.setSize width height)).stage.backend = configured.stage.backend := by
  simp only [step]
  split <;> rfl

theorem backend_run_of_sizes {moves : List (ScreenMove δ)}
    (hsizes : ∀ move ∈ moves, ∃ width height, move = .setSize width height) :
    (configured.run moves).stage.backend = configured.stage.backend := by
  induction moves generalizing configured with
  | nil => rfl
  | cons move rest ih =>
    obtain ⟨width, height, rfl⟩ := hsizes move (.head _)
    rw [← configured.backend_setSize width height]
    exact ih fun later hlater ↦ hsizes later (.tail _ hlater)

/-- Quiet moves leave the outputs of an inactive session as they are, but for timers. -/
theorem atRest_run (hsteady : configured.Steady dependable base)
    (hinactive : configured.stage.backend.active = false) {moves : List (ScreenMove δ)}
    (hquiet : ∀ move ∈ moves, move.quiet) :
    (configured.run moves).stage.backend.outputs.map Output.atRest =
        configured.stage.backend.outputs.map Output.atRest ∧
      (configured.run moves).stage.backend.active = false ∧
      (configured.run moves).Steady dependable base := by
  induction moves generalizing configured with
  | nil => exact ⟨rfl, hinactive, hsteady⟩
  | cons move rest ih =>
    have hfirst := hquiet move (.head _)
    have hnext : (configured.step move).Steady dependable base :=
      steady_step hsteady move (by simp [ScreenMove.devices_of_quiet hfirst])
    have hafter : (configured.step move).stage.backend.outputs.map Output.atRest =
        configured.stage.backend.outputs.map Output.atRest ∧
          (configured.step move).stage.backend.active = false := by
      cases move with
      | setSize width height =>
        rw [backend_setSize]
        exact ⟨rfl, hinactive⟩
      | operate step =>
        refine Stage.atRest_step (fun output houtput ↦ ?_) hinactive hfirst
        have hfollows := (hsteady.sized output houtput).served.follows
        rw [hinactive] at hfollows
        exact hfollows.waiting.state_ne_mapped
    obtain ⟨houtputs, hlast⟩ := ih hnext hafter.2 fun later hlater ↦ hquiet later (.tail _ hlater)
    exact ⟨houtputs.trans hafter.1, hlast⟩

end ConfiguredStage

/-! ### At activation -/

namespace Backend

variable {dependable : Dependable δ} {outputs : List (Output δ)} {source : ScreenSource}
  {fresh : ScreenDescriptor}

/-- If the source answers with a mode that has a layout, every served output comes back in it and
is damaged as a whole, and the host is told nothing. -/
theorem restored_reenableAll {layout : Layout}
    (hserved : ∀ output ∈ outputs, output.Served dependable false)
    (hanswer : source.answer = fun _ ↦ .ok fresh) (hlayout : fresh.layout = .ok layout)
    (host : Host) :
    List.Forall₂ (fun before after ↦ ∃ back, before.Restored fresh back ∧ after = back.damageAll)
      outputs (reenableAll outputs source host).kept ∧
    (reenableAll outputs source host).released = [] ∧
    (reenableAll outputs source host).host = host := by
  induction outputs generalizing source with
  | nil => exact ⟨.nil, rfl, rfl⟩
  | cons output rest ih =>
    obtain ⟨result, back, hreenable, hrestored, -⟩ :=
      (hserved output (.head _)).reenable (congrFun hanswer _) hlayout
    have hask : source.ask.2.answer = fun _ ↦ .ok fresh := hanswer
    obtain ⟨hkept, hreleased, hhost⟩ := ih (fun other hother ↦ hserved other (.tail _ hother)) hask
    rw [reenableAll, hreenable]
    exact ⟨.cons ⟨back, hrestored, rfl⟩ hkept, hreleased, hhost⟩

/-- If the source answers with a mode that has no layout, no output that waits comes back, and the
host is told of each of them in order. -/
theorem removed_reenableAll {error : ScreenError}
    (hserved : ∀ output ∈ outputs, output.Served dependable false)
    (hanswer : source.answer = fun _ ↦ .ok fresh) (hlayout : fresh.layout = .error error)
    (host : Host) :
    (reenableAll outputs source host).kept = [] ∧
    (reenableAll outputs source host).released = outputs.map (·.destroy.device) ∧
    (reenableAll outputs source host).host =
      { host with events := host.events ++ outputs.map (.removed ·.name) } := by
  induction outputs generalizing source host with
  | nil => simp [reenableAll]
  | cons output rest ih =>
    have hfollows := (hserved output (.head _)).follows
    have hreenable := Output.reenable_of_layout_error hfollows.coherent hfollows.waiting
      (congrFun hanswer _) hlayout
    have hask : source.ask.2.answer = fun _ ↦ .ok fresh := hanswer
    obtain ⟨hkept, hreleased, hhost⟩ :=
      ih (fun other hother ↦ hserved other (.tail _ hother)) hask
        (host.tell (.removed output.destroy.name))
    rw [reenableAll, hreenable]
    refine ⟨hkept, congrArg _ hreleased, hhost.trans ?_⟩
    simp [Host.tell, output.samePace_destroy.name_eq]

end Backend

/-- What an output is after it came back at the size of a screen. -/
structure Output.Resized (target : ScreenDescriptor) (before after : Output (RecordedStorage δ)) :
    Prop where
  same_pace : before.SamePace after
  number_eq : after.device.number = before.device.number
  descriptor_eq : after.descriptor = target
  layout_eq : target.layout = .ok after.layout
  width_eq : after.layout.width = target.width
  height_eq : after.layout.height = target.height
  state_eq : after.state = .mapped
  /-- The surface has the size, and the storage was closed and opened anew only for another one. -/
  exists_surface : ∃ framebuffer, after.framebuffer = some framebuffer ∧
    framebuffer.surface.layout = after.layout ∧
    after.device.calls = before.device.calls ++
      (if target.width = before.descriptor.width ∧ target.height = before.descriptor.height then []
        else [.closed, .opened after.layout true]) ++
      [.mapped after.layout (some (framebuffer.token, after.layout.length))]
  /-- The whole of the new size is to be painted and nothing of the old one. -/
  pending_eq : after.pending.rects = [Rect.whole target.width target.height]

namespace Output

/-- An output that waits in the mode of a screen, on a device that has been opened anew if the size
changed, has been resized once its storage is mapped. -/
theorem resized_holding {target : ScreenDescriptor} {before waiting : Output (RecordedStorage δ)}
    (hpace : before.SamePace waiting) (hidle : waiting.pending = .none)
    (hdescriptor : waiting.descriptor = target) (hlayout : target.layout = .ok waiting.layout)
    (hnumber : waiting.device.number = before.device.number)
    (hcalls : waiting.device.calls = before.device.calls ++
      if target.width = before.descriptor.width ∧ target.height = before.descriptor.height then []
      else [.closed, .opened waiting.layout true])
    {mapping : Mapping} {device : RecordedStorage δ}
    (hmap : FramebufferDevice.map waiting.device waiting.layout = (.ok mapping, device))
    (hsize : mapping.memory.size = waiting.layout.length) :
    before.Resized target (waiting.holding device mapping hsize).damageAll := by
  have hmapped : (waiting.holding device mapping hsize).state = .mapped := rfl
  have hrects := rects_damageAll hmapped
  obtain ⟨hwidth, hheight, -⟩ := ScreenDescriptor.of_layout_eq hlayout
  have hmade := RecordedStorage.calls_map_ok hmap
  rw [hsize, hcalls] at hmade
  have hsame : device.number = waiting.device.number := by
    have hkept := RecordedStorage.number_keptByCalls.map waiting.device waiting.layout
    rwa [hmap] at hkept
  rw [damageAll, addDamage, if_pos hmapped] at hrects ⊢
  exact
    { same_pace := ⟨hpace.name_eq, hpace.deadline_eq⟩
      number_eq := hsame.trans hnumber
      descriptor_eq := hdescriptor
      layout_eq := hlayout
      width_eq := hwidth
      height_eq := hheight
      state_eq := rfl
      exists_surface := ⟨_, rfl, rfl, hmade⟩
      pending_eq := by
        rw [hrects, ← hwidth, ← hheight]
        simp [holding, hidle, Damage.none] }

variable {dependable : Dependable (RecordedStorage δ)} {base : ScreenDescriptor}
  {before back : Output (RecordedStorage δ)} {width height : UInt32}

/-- An output of a screen that comes back at a size of the screen has been resized. -/
theorem Restored.resized (hrestored : before.Restored (base.resize width height) back)
    (hsized : before.Sized dependable base false) :
    before.Resized (base.resize width height) back.damageAll := by
  obtain ⟨oldWidth, oldHeight, hbefore⟩ := hsized.exists_size
  have hcoherent := hsized.served.follows.coherent
  have hidle := hcoherent.pending_eq hsized.served.follows.waiting.state_ne_mapped
  have hmode : (base.resize width height).sameMode before.descriptor ↔
      width = before.descriptor.width ∧ height = before.descriptor.height := by
    rw [hbefore, base.sameMode_resize_iff]
    rfl
  cases hrestored with
  | remapped hsame hmap hsize =>
    have hlayout := (ScreenDescriptor.layout_eq_of_sameMode hsame).trans hcoherent.descriptor_layout
    have hpace : before.SamePace { before with descriptor := base.resize width height } :=
      ⟨rfl, rfl⟩
    have hcalls : before.device.calls = before.device.calls ++
        if width = before.descriptor.width ∧ height = before.descriptor.height then []
        else [.closed, .opened before.layout true] := by
      rw [if_pos (hmode.mp hsame), List.append_nil]
    exact resized_holding hpace hidle rfl hlayout rfl hcalls hmap hsize
  | @recreated layout opened device mapping hchanged hlayout hopen hmap hsize =>
    have hnumber : opened.number = before.device.number := by
      have hkept := RecordedStorage.number_keptByCalls.openAt
        (FramebufferDevice.close before.device) layout
      rw [hopen] at hkept
      exact hkept.trans (RecordedStorage.number_keptByCalls.close before.device)
    have hpace : before.SamePace (before.reopened (base.resize width height) layout opened) :=
      ⟨rfl, rfl⟩
    have hcalls : opened.calls = before.device.calls ++
        if width = before.descriptor.width ∧ height = before.descriptor.height then []
        else [.closed, .opened layout true] := by
      rw [if_neg fun hsize ↦ hchanged (hmode.mpr hsize), RecordedStorage.calls_openAt_ok hopen]
      simp
    exact resized_holding hpace hidle rfl hlayout hnumber hcalls hmap hsize

end Output

namespace ConfiguredStage

variable {dependable : Dependable δ} {base : ScreenDescriptor}
  {configured : ConfiguredStage (RecordedStorage δ)}

/-- Activating the session over devices that never fail gives every output the size of the screen,
if the screen has a layout at it. -/
theorem resized_activate (hsteady : configured.Steady dependable.recorded base)
    (hinactive : configured.stage.backend.active = false) {layout : Layout}
    (hlayout : configured.screen.current.layout = .ok layout) :
    let after := configured.step (.operate (.notifySession true))
    List.Forall₂ (Output.Resized configured.screen.current) configured.stage.backend.outputs
        after.stage.backend.outputs ∧
      after.stage.host = configured.stage.host ∧
      after.stage.released = configured.stage.released := by
  intro after
  have hsized := hsteady.sized
  rw [hinactive] at hsized
  obtain ⟨hrestored, hreleased, hhost⟩ := Backend.restored_reenableAll
    (fun output houtput ↦ (hsized output houtput).served) hsteady.answer_eq hlayout
    configured.stage.host
  obtain ⟨width, height, hcurrent, -⟩ := hsteady
  refine ⟨?_, hhost, (congrArg _ hreleased).trans (List.append_nil _)⟩
  rw [hcurrent] at hrestored ⊢
  refine ((List.forall₂_and_left _ _).mpr ⟨hsized, hrestored⟩).imp ?_
  rintro before _ ⟨hbefore, back, hback, rfl⟩
  exact hback.resized hbefore

/-- Activating the session removes every output if the screen has no layout at its size. -/
theorem removed_activate (hsteady : configured.Steady dependable.recorded base)
    (hinactive : configured.stage.backend.active = false) {error : ScreenError}
    (hlayout : configured.screen.current.layout = .error error) :
    let after := configured.step (.operate (.notifySession true))
    after.stage.backend.outputs = [] ∧
      after.stage.host.events = configured.stage.host.events ++
        configured.stage.backend.outputs.map (.removed ·.name) := by
  intro after
  have hsized := hsteady.sized
  rw [hinactive] at hsized
  obtain ⟨hkept, -, hhost⟩ := Backend.removed_reenableAll
    (fun output houtput ↦ (hsized output houtput).served) hsteady.answer_eq hlayout
    configured.stage.host
  exact ⟨hkept, congrArg Host.events hhost⟩

end ConfiguredStage

/-- Sizes that are set while the session is inactive take effect when it is activated. Let a backend
have a configured screen for its source and devices that never fail, and let anything have been done
to it that ends with an inactive session. Quiet moves then, sizes that are set and operations that
neither add nor remove outputs nor activate the session,

* leave the screen as it was configured but for the last size that was accepted up to now, if any,
* leave the outputs as they are but for timers that fire, and entirely if only sizes are set.

If the screen has a layout then, activating the session

* keeps every output in its place, at the size of the screen, its storage closed and opened anew
  exactly if that is not the size that the output had, and mapped once, with the whole of the new
  size to be painted (`Output.Resized`),
* tells the host nothing and lets no device go. -/
theorem size_takes_effect_at_activation (settings : OutputSettings) (dependable : Dependable δ)
    (renderer : Renderer) (host : Host) {moves quiet : List (ScreenMove (RecordedStorage δ))}
    (hclosed : ∀ move ∈ moves, ∀ device ∈ move.devices, dependable.stands .closed device.device)
    (hinactive : ((ConfiguredStage.start settings.descriptor renderer host).run
      moves).stage.backend.active = false)
    (hquiet : ∀ move ∈ quiet, move.quiet) {layout : Layout}
    (hlayout : (settings.descriptor.atLast (acceptedSizes (moves ++ quiet))).layout = .ok layout) :
    let before := (ConfiguredStage.start settings.descriptor renderer host).run moves
    let asleep := before.run quiet
    let after := asleep.step (.operate (.notifySession true))
    let target := settings.descriptor.atLast (acceptedSizes (moves ++ quiet))
    asleep.screen.current = target ∧
    asleep.stage.backend.outputs.map Output.atRest =
      before.stage.backend.outputs.map Output.atRest ∧
    ((∀ move ∈ quiet, ∃ width height, move = .setSize width height) →
      asleep.stage.backend = before.stage.backend) ∧
    List.Forall₂ (Output.Resized target) asleep.stage.backend.outputs
      after.stage.backend.outputs ∧
    after.stage.host = asleep.stage.host ∧ after.stage.released = asleep.stage.released := by
  intro before asleep after target
  have hbefore : before.Steady dependable.recorded settings.descriptor :=
    ConfiguredStage.steady_run (ConfiguredStage.steady_start settings renderer host) moves hclosed
  obtain ⟨houtputs, hstill, hasleep⟩ := ConfiguredStage.atRest_run hbefore hinactive hquiet
  have hcurrent : asleep.screen.current = target := by
    have hrun := (ConfiguredStage.start settings.descriptor renderer host).current_run
      (moves ++ quiet)
    rwa [ConfiguredStage.run_append] at hrun
  have hfound : asleep.screen.current.layout = .ok layout := by rw [hcurrent, hlayout]
  obtain ⟨hresized, hhost, hreleased⟩ := ConfiguredStage.resized_activate hasleep hstill hfound
  rw [hcurrent] at hresized
  exact ⟨hcurrent, houtputs, ConfiguredStage.backend_run_of_sizes, hresized, hhost, hreleased⟩

/-- Of two outputs one was added before and one after the screen became four columns wide. The screen
is then resized while the session is inactive, refuses a size and goes back: only the first output
finds another size than its own. -/
theorem resized_away_and_back :
    let settings := { OutputSettings.default with width := 2, height := 1 }
    let device (number : Nat) := RecordedStorage.fresh number HeapStorage.working
    let moves : List (ScreenMove (RecordedStorage HeapStorage)) :=
      [.operate (.addOutput "left" (device 0)), .setSize 4 1,
        .operate (.addOutput "right" (device 1)), .operate (.notifySession false)]
    let quiet := [.setSize 9 9, .setSize 0 1, .setSize 4 1]
    let renderer := Renderer.solid Renderer.defaultColor fun _ ↦ none
    let before := (ConfiguredStage.start settings.descriptor renderer (.atTime 0)).run moves
    let asleep := before.run quiet
    let after := asleep.step (.operate (.notifySession true))
    acceptedSizes (moves ++ quiet) = [(4, 1), (9, 9), (4, 1)] ∧
      asleep.screen.current = settings.descriptor.resize 4 1 ∧
      List.Forall₂ (Output.Resized (settings.descriptor.resize 4 1)) asleep.stage.backend.outputs
        after.stage.backend.outputs ∧
      asleep.stage.backend.outputs.map (·.descriptor.width) = [2, 4] ∧
      after.stage.backend.outputs.map (·.device.closeCount) = [1, 0] := by
  intro settings device moves quiet renderer before asleep after
  have hclosed : ∀ move ∈ moves, ∀ handed ∈ move.devices,
      HeapStorage.dependable.stands .closed handed.device := by
    simp only [moves, List.forall_mem_cons, ScreenMove.devices, BackendStep.devices]
    simp [device, RecordedStorage.fresh, HeapStorage.stands_working]
  have hquiet : ∀ move ∈ quiet, move.quiet := by decide
  have hinactive : before.stage.backend.active = false := by decide +kernel
  obtain ⟨hcurrent, -, -, hresized, -, -⟩ := size_takes_effect_at_activation settings
    HeapStorage.dependable renderer (.atTime 0) hclosed hinactive hquiet rfl
  have hwidths : asleep.stage.backend.outputs.map (·.descriptor.width) = [2, 4] := by
    decide +kernel
  have hclosings : after.stage.backend.outputs.map (·.device.closeCount) = [1, 0] := by
    decide +kernel
  exact ⟨by decide, hcurrent, hresized, hwidths, hclosings⟩

end HeadlessDisplay
