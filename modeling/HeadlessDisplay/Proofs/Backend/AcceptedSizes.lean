import HeadlessDisplay.Proofs.Backend.Resizing

/-!
# Which accepted sizes cost outputs

A configured screen accepts every size without a zero. The layout asks for more: the framebuffer
must not have `2 ^ 64` octets or more. Sound settings leave nothing else to ask for, at whatever
size, so that a screen has a layout at a size that it accepted exactly if the framebuffer is short
enough (`exists_layout_atLast_iff`).

A size that is too large is not noticed when it is set, nor by outputs that are in use. Over devices
that never fail, the next activation decides: with a size that fits every output is kept, and with
one that does not every output is removed (`outputs_kept_iff_accepted_size_fits`).
`accepted_size_removes_output` is the shortest way to lose an output like this.
-/

set_option autoImplicit false
set_option relaxedAutoImplicit false

namespace HeadlessDisplay

/-- The descriptor of sound settings has a layout. -/
theorem Settings.exists_layout {settings : Settings} (hsound : settings.validate = .ok ()) :
    ∃ layout, settings.output.descriptor.layout = .ok layout := by
  unfold validate at hsound
  split at hsound
  · simp at hsound
  · next layout hlayout => exact ⟨layout, hlayout⟩

section

variable {δ : Type}

/-- No accepted size has a zero. -/
theorem ne_zero_of_mem_acceptedSizes {moves : List (ScreenMove δ)} {width height : UInt32}
    (hmem : (width, height) ∈ acceptedSizes moves) : width ≠ 0 ∧ height ≠ 0 := by
  obtain ⟨move, -, haccepted⟩ := List.mem_filterMap.mp hmem
  cases move with
  | setSize newWidth newHeight =>
    simp only [ScreenMove.accepted?, Option.ite_none_left_eq_some, not_or, Option.some.injEq,
      Prod.mk.injEq] at haccepted
    obtain ⟨hnonzero, rfl, rfl⟩ := haccepted
    exact hnonzero
  | operate step => simp [ScreenMove.accepted?] at haccepted

/-- A drawable screen is drawable at every size that it accepted. -/
theorem ScreenDescriptor.Drawable.atLast {descriptor : ScreenDescriptor}
    (hdrawable : descriptor.Drawable) (moves : List (ScreenMove δ)) :
    (descriptor.atLast (acceptedSizes moves)).Drawable := by
  unfold ScreenDescriptor.atLast
  split
  · exact hdrawable
  · next width height hlast =>
    obtain ⟨hwidth, hheight⟩ := ne_zero_of_mem_acceptedSizes (List.mem_of_getLast? hlast)
    exact hdrawable.resize hwidth hheight

/-- A screen of sound settings has a layout exactly if its framebuffer is short enough. -/
theorem Settings.exists_layout_atLast_iff {settings : Settings}
    (hsound : settings.validate = .ok ()) (moves : List (ScreenMove δ)) :
    let current := settings.output.descriptor.atLast (acceptedSizes moves)
    (∃ layout, current.layout = .ok layout) ↔ current.octets < 2 ^ 64 := by
  intro current
  have hdrawable := (ScreenDescriptor.exists_layout_iff.mp (exists_layout hsound)).1
  rw [ScreenDescriptor.exists_layout_iff, and_iff_right (hdrawable.atLast moves)]

end

variable {δ : Type} [FramebufferDevice δ]

/-- The output is the same one, in use in the given mode. -/
structure Output.KeptIn (mode : ScreenDescriptor) (before after : Output (RecordedStorage δ)) :
    Prop where
  name_eq : after.name = before.name
  number_eq : after.device.number = before.device.number
  descriptor_eq : after.descriptor = mode
  state_eq : after.state = .mapped

/-- An output that was disabled and came back at the size of a screen has been kept. -/
theorem Output.Resized.keptIn {target : ScreenDescriptor} {before after : Output (RecordedStorage δ)}
    (hresized : before.disable.Resized target after) : before.KeptIn target after where
  name_eq := hresized.same_pace.name_eq.trans before.samePace_disable.name_eq
  number_eq := hresized.number_eq.trans (RecordedStorage.number_keptByCalls.disable before)
  descriptor_eq := hresized.descriptor_eq
  state_eq := hresized.state_eq

/-- Let a backend have the configured screen of sound settings for its source and devices that never
fail, and let anything have been done to it. Then

* the screen is at the last size that was accepted, if any, and has a layout at it exactly if its
  framebuffer has fewer than `2 ^ 64` octets;
* if it does, deactivating and activating the session keeps every output in its place, in the mode
  of the screen, lets no device go and tells the host nothing;
* if it does not, deactivating and activating the session removes every output and tells the host of
  each of them in order. -/
theorem outputs_kept_iff_accepted_size_fits {settings : Settings}
    (hsound : settings.validate = .ok ()) (dependable : Dependable δ) (renderer : Renderer)
    (host : Host) {moves : List (ScreenMove (RecordedStorage δ))}
    (hclosed : ∀ move ∈ moves, ∀ device ∈ move.devices, dependable.stands .closed device.device) :
    let before := (ConfiguredStage.start settings.output.descriptor renderer host).run moves
    let after := before.run [.operate (.notifySession false), .operate (.notifySession true)]
    let current := settings.output.descriptor.atLast (acceptedSizes moves)
    before.screen.current = current ∧
    ((∃ layout, current.layout = .ok layout) ↔ current.octets < 2 ^ 64) ∧
    (current.octets < 2 ^ 64 →
      List.Forall₂ (Output.KeptIn current) before.stage.backend.outputs
          after.stage.backend.outputs ∧
        after.stage.host = before.stage.host ∧ after.stage.released = before.stage.released) ∧
    (2 ^ 64 ≤ current.octets →
      after.stage.backend.outputs = [] ∧
        after.stage.host.events =
          before.stage.host.events ++ before.stage.backend.outputs.map (.removed ·.name)) := by
  intro before after current
  have hcurrent : before.screen.current = current := ConfiguredStage.current_run _ moves
  have hfits := Settings.exists_layout_atLast_iff hsound moves
  have hbefore : before.Steady dependable.recorded settings.output.descriptor :=
    ConfiguredStage.steady_run (ConfiguredStage.steady_start settings.output renderer host) moves
      hclosed
  let asleep := before.step (.operate (.notifySession false))
  have hasleep : asleep.Steady dependable.recorded settings.output.descriptor :=
    ConfiguredStage.steady_step hbefore _ (by simp [ScreenMove.devices, BackendStep.devices])
  have houtputs : asleep.stage.backend.outputs = before.stage.backend.outputs.map Output.disable :=
    rfl
  have hreleased : asleep.stage.released = before.stage.released := List.append_nil _
  refine ⟨hcurrent, hfits, fun hshort ↦ ?_, fun hlong ↦ ?_⟩
  · obtain ⟨layout, hlayout⟩ := hfits.mpr hshort
    obtain ⟨hresized, hhost, hkept⟩ := ConfiguredStage.resized_activate hasleep rfl
      (show before.screen.current.layout = .ok layout by rw [hcurrent, hlayout])
    rw [houtputs, List.forall₂_map_left_iff] at hresized
    refine ⟨hresized.imp fun first second hsecond ↦ ?_, hhost, hkept.trans hreleased⟩
    rw [← hcurrent]
    exact Output.Resized.keptIn hsecond
  · cases hlayout : current.layout with
    | ok layout => exact absurd (hfits.mp ⟨layout, hlayout⟩) (Nat.not_lt.mpr hlong)
    | error error =>
      obtain ⟨hnone, hevents⟩ := ConfiguredStage.removed_activate hasleep rfl
        (show before.screen.current.layout = .error error by rw [hcurrent, hlayout])
      rw [houtputs, List.map_map] at hevents
      refine ⟨hnone, hevents.trans (congrArg _ (List.map_congr_left fun output _ ↦ ?_))⟩
      simp only [Function.comp_apply, output.samePace_disable.name_eq]

/-- The size of the screen is set twice, refused once, and both outputs are kept at the last size. -/
theorem two_outputs_kept_at_accepted_size :
    let output := { OutputSettings.default with width := 2, height := 1 }
    let settings := { Settings.default with output }
    let device (number : Nat) := RecordedStorage.fresh number HeapStorage.working
    let moves : List (ScreenMove (RecordedStorage HeapStorage)) :=
      [.operate (.addOutput "left" (device 0)), .operate (.addOutput "right" (device 1)),
        .setSize 4 1, .setSize 0 9, .setSize 3 2]
    let renderer := Renderer.solid Renderer.defaultColor fun _ ↦ none
    let before := (ConfiguredStage.start settings.output.descriptor renderer (.atTime 0)).run moves
    let after := before.run [.operate (.notifySession false), .operate (.notifySession true)]
    settings.validate = .ok () ∧ before.stage.backend.outputs.map Output.name = ["left", "right"] ∧
      List.Forall₂ (Output.KeptIn (output.descriptor.resize 3 2)) before.stage.backend.outputs
        after.stage.backend.outputs ∧
      after.stage.host = before.stage.host := by
  intro output settings device moves renderer before after
  have hsound : settings.validate = .ok () := rfl
  have hclosed : ∀ move ∈ moves, ∀ handed ∈ move.devices,
      HeapStorage.dependable.stands .closed handed.device := by
    simp only [moves, List.forall_mem_cons, ScreenMove.devices, BackendStep.devices]
    simp [device, RecordedStorage.fresh, HeapStorage.stands_working]
  obtain ⟨-, -, hfits, -⟩ := outputs_kept_iff_accepted_size_fits hsound HeapStorage.dependable
    renderer (.atTime 0) hclosed
  obtain ⟨hkept, hhost, -⟩ := hfits (by decide)
  exact ⟨hsound, by decide +kernel, hkept, hhost⟩

/-- A screen accepts the greatest size there is and is without a layout then. The next activation
removes the output, which was in use until the session was deactivated. -/
theorem accepted_size_removes_output :
    let output := { OutputSettings.default with width := 2, height := 1 }
    let settings := { Settings.default with output }
    let renderer := Renderer.solid Renderer.defaultColor fun _ ↦ none
    let start : ConfiguredStage HeapStorage :=
      .start settings.output.descriptor renderer (.atTime 0)
    let moves : List (ScreenMove HeapStorage) :=
      [.operate (.addOutput "left" .working), .setSize 4294967295 4294967295]
    let before := start.run moves
    let after := before.run [.operate (.notifySession false), .operate (.notifySession true)]
    settings.validate = .ok () ∧
      start.screen.setSize 4294967295 4294967295 = .ok before.screen ∧
      before.screen.current.layout = .error (.tooLarge 4294967295 4294967295 32) ∧
      before.stage.backend.outputs.map (fun output ↦ (output.name, output.state)) =
        [("left", .mapped)] ∧
      after.stage.backend.outputs.map Output.name = [] ∧
      after.stage.host.events = [.removed "left"] := by
  intro output settings renderer start moves before after
  have hlayout : before.screen.current.layout = .error (.tooLarge 4294967295 4294967295 32) := by
    decide +kernel
  have hin : before.stage.backend.outputs.map (fun output ↦ (output.name, output.state)) =
      [("left", .mapped)] := by decide +kernel
  have hout : after.stage.backend.outputs.map Output.name = [] := by decide +kernel
  have htold : after.stage.host.events = [.removed "left"] := by decide +kernel
  exact ⟨rfl, rfl, hlayout, hin, hout, htold⟩

end HeadlessDisplay
