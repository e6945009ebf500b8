import HeadlessDisplay.Output.HeapStorage
import HeadlessDisplay.Proofs.Output.Mappings

/-!
# Failed attempts leave no trace

Enabling an output can fail, and so can bringing it back before its old storage is given up: the
source gives no answer, or a descriptor without a layout, or the mode is unchanged and the storage
cannot be mapped. What such an attempt leaves of the output differs from what it was in the device
and, at most, in the identifier of the descriptor, and the calls it made on the device are in vain
(`VainCalls`).

For the attempts that follow this does not matter. `Output.Matches` relates two outputs that agree
in everything but the device, the identifier of the descriptor and the token of the mapping. Failed
attempts stay within it (`FailedAttempt.matches`), and two outputs that match come back alike on
devices that answer alike (`Matches.reenable`). The device is free to change between two attempts,
as it must be for one to fail and the next to succeed: `Output.withDevice` is an output with its
device as that has become.
-/

set_option autoImplicit false
set_option relaxedAutoImplicit false

namespace HeadlessDisplay

namespace ScreenDescriptor

variable {first second third : ScreenDescriptor}

/-- Two descriptors name one mode if they are equal under one identifier. -/
theorem sameMode_iff :
    first.sameMode second ↔ { first with id := defaultId } = { second with id := defaultId } := by
  cases first
  cases second
  simp [sameMode]

theorem sameMode_refl (descriptor : ScreenDescriptor) : descriptor.sameMode descriptor :=
  sameMode_iff.mpr rfl

theorem sameMode_trans (hfirst : first.sameMode second) (hsecond : second.sameMode third) :
    first.sameMode third :=
  sameMode_iff.mpr ((sameMode_iff.mp hfirst).trans (sameMode_iff.mp hsecond))

/-- Whether a descriptor names the mode of another does not depend on the identifier of that. -/
theorem sameMode_congr (hsame : first.sameMode second) (fresh : ScreenDescriptor) :
    fresh.sameMode second = fresh.sameMode first := by
  rw [Bool.eq_iff_iff, sameMode_iff, sameMode_iff, sameMode_iff.mp hsame]

end ScreenDescriptor

/-- Calls on a device that leave nothing mapped: none, one that did not map, or one that mapped and
one that handed the mapping back. -/
inductive VainCalls (layout : Layout) : List StorageCall → Prop
  | none : VainCalls layout []
  | unmapped : VainCalls layout [.mapped layout none]
  | handedBack (token size : Nat) :
      VainCalls layout [.mapped layout (some (token, size)), .unmapped token]

/-- Every mapping obtained was handed back. -/
theorem VainCalls.all_back {layout : Layout} {calls : List StorageCall}
    (hvain : VainCalls layout calls) : handedOut calls = takenBack calls := by
  cases hvain <;> simp

/-! ### Devices that answer alike -/

section

variable {δ : Type} [FramebufferDevice δ]

/-- Two devices map memory with the same octets, or fail to map for one reason. -/
inductive MapsAlike (first second : δ) (layout : Layout) : Prop
  | failed {failure : StorageFailure} {left other : δ}
      (hfirst : FramebufferDevice.map first layout = (.error failure, left))
      (hsecond : FramebufferDevice.map second layout = (.error failure, other)) :
      MapsAlike first second layout
  | mapped {mapping otherMapping : Mapping} {left other : δ}
      (hfirst : FramebufferDevice.map first layout = (.ok mapping, left))
      (hsecond : FramebufferDevice.map second layout = (.ok otherMapping, other))
      (hmemory : otherMapping.memory = mapping.memory) :
      MapsAlike first second layout

/-- Two devices, once closed, open at a layout and map alike, or fail to open for one reason. -/
inductive ReopensAlike (first second : δ) (layout : Layout) : Prop
  | failed {failure : StorageFailure} {left other : δ}
      (hfirst : FramebufferDevice.openAt (FramebufferDevice.close first) layout =
        (.error failure, left))
      (hsecond : FramebufferDevice.openAt (FramebufferDevice.close second) layout =
        (.error failure, other)) :
      ReopensAlike first second layout
  | opened {left other : δ}
      (hfirst : FramebufferDevice.openAt (FramebufferDevice.close first) layout = (.ok (), left))
      (hsecond : FramebufferDevice.openAt (FramebufferDevice.close second) layout = (.ok (), other))
      (hmaps : MapsAlike left other layout) :
      ReopensAlike first second layout

/-- Two devices answer alike to the calls with which the output comes back in the mode of a
descriptor. -/
structure Output.AnswersAlike (output : Output δ) (fresh : ScreenDescriptor) (first second : δ) :
    Prop where
  maps : fresh.sameMode output.descriptor → MapsAlike first second output.layout
  reopens : ¬fresh.sameMode output.descriptor → ∀ layout, fresh.layout = .ok layout →
    ReopensAlike first second layout

end

namespace Output

variable {δ : Type}

/-- The output with its device as the device has become. -/
def withDevice (output : Output δ) (device : δ) : Output δ :=
  { output with device }

/-- Two outputs agree in everything but the device, the identifier of the descriptor and the token
of the mapping. -/
structure Matches (first second : Output δ) : Prop where
  name_eq : second.name = first.name
  same_mode : first.descriptor.sameMode second.descriptor
  layout_eq : second.layout = first.layout
  surface_eq :
    second.framebuffer.map Framebuffer.surface = first.framebuffer.map Framebuffer.surface
  state_eq : second.state = first.state
  timer_eq : second.timer = first.timer
  pending_eq : second.pending = first.pending

/-- An output that does not wait is in use or gone. -/
theorem state_of_not_waiting {output : Output δ} (hwaiting : ¬output.Waiting) :
    output.state = .mapped ∨ output.state = .destroyed := by
  by_contra hother
  rw [not_or] at hother
  exact hwaiting (waiting_of_state_ne hother.1 hother.2)

namespace Matches

variable {first second third : Output δ}

theorem refl (output : Output δ) : output.Matches output :=
  ⟨rfl, ScreenDescriptor.sameMode_refl _, rfl, rfl, rfl, rfl, rfl⟩

theorem trans (hfirst : first.Matches second) (hsecond : second.Matches third) :
    first.Matches third where
  name_eq := hsecond.name_eq.trans hfirst.name_eq
  same_mode := ScreenDescriptor.sameMode_trans hfirst.same_mode hsecond.same_mode
  layout_eq := hsecond.layout_eq.trans hfirst.layout_eq
  surface_eq := hsecond.surface_eq.trans hfirst.surface_eq
  state_eq := hsecond.state_eq.trans hfirst.state_eq
  timer_eq := hsecond.timer_eq.trans hfirst.timer_eq
  pending_eq := hsecond.pending_eq.trans hfirst.pending_eq

/-- The devices do not matter. -/
theorem withDevice (hmatches : first.Matches second) (device other : δ) :
    (first.withDevice device).Matches (second.withDevice other) :=
  { hmatches with }

theorem waiting (hmatches : first.Matches second) (hwaiting : first.Waiting) : second.Waiting := by
  rwa [Waiting, hmatches.state_eq]

end Matches

/-- Two operations return the same and leave outputs that match. -/
def EndAlike {α : Type} (first second : α × Output δ) : Prop :=
  second.1 = first.1 ∧ first.2.Matches second.2

/-- Putting another word for success keeps operations alike. -/
theorem EndAlike.map {α β : Type} {first second : Except OutputError α × Output δ}
    (halike : EndAlike first second) (word : α → β) :
    EndAlike (first.1.map word, first.2) (second.1.map word, second.2) :=
  ⟨congrArg (Except.map word) halike.1, halike.2⟩

/-- Another device makes no difference that matters. -/
theorem matches_withDevice (output : Output δ) (device : δ) :
    output.Matches (output.withDevice device) :=
  { Matches.refl output with }

theorem Coherent.withDevice {output : Output δ} (hcoherent : output.Coherent) (device : δ) :
    (output.withDevice device).Coherent :=
  { hcoherent with }

variable [FramebufferDevice δ]

theorem reenable_of_waiting {output : Output δ} (hwaiting : output.Waiting)
    (source : ScreenSource) : output.reenable source =
      match source.ask.1 with
      | .error reason => (.error (.descriptorQuery reason), output, source.ask.2)
      | .ok fresh => ((output.adopt fresh).1, (output.adopt fresh).2, source.ask.2) := by
  rcases hwaiting with hstate | hstate <;>
    cases hanswer : source.answer source.asked <;>
      simp [reenable, hstate, ScreenSource.ask, hanswer]

/-- An output comes back in its own mode by being enabled. -/
theorem adopt_of_sameMode {output : Output δ} {fresh : ScreenDescriptor}
    (hsame : fresh.sameMode output.descriptor) :
    let back := ({ output with descriptor := fresh } : Output δ).enable
    output.adopt fresh = (back.1.map fun _ ↦ .remapped, back.2) := by
  unfold adopt
  rw [if_pos hsame]
  rcases ({ output with descriptor := fresh } : Output δ).enable with ⟨_ | _, left⟩ <;> rfl

/-- The output in another mode, over a device that has been opened at its layout. -/
def reopened (output : Output δ) (fresh : ScreenDescriptor) (layout : Layout) (device : δ) :
    Output δ :=
  { output with device, descriptor := fresh, layout, state := .unopened,
                timer := output.timer.setRefresh fresh.refreshMhz }

theorem reopen_of_openAt {output : Output δ} {fresh : ScreenDescriptor} {layout : Layout}
    {device : δ} (hopen : FramebufferDevice.openAt (FramebufferDevice.close output.device) layout =
      (.ok (), device)) :
    output.reopen fresh layout = (.ok (), output.reopened fresh layout device) := by
  simp only [reopen, hopen, reopened]

/-- An output that has been opened at the layout of another mode comes back by being enabled. -/
theorem adopt_of_reopen {output reopened : Output δ} {fresh : ScreenDescriptor} {layout : Layout}
    (hchanged : ¬fresh.sameMode output.descriptor) (hlayout : fresh.layout = .ok layout)
    (hreopen : output.reopen fresh layout = (.ok (), reopened)) :
    output.adopt fresh = (reopened.enable.1.map fun _ ↦ .recreated, reopened.enable.2) := by
  simp only [adopt, if_neg hchanged, hlayout, hreopen]
  rcases reopened.enable with ⟨_ | _, left⟩ <;> rfl

/-! ### Outputs that match act alike -/

namespace Matches

variable {first second : Output δ}

theorem mapSurface (hmatches : first.Matches second)
    (halike : MapsAlike first.device second.device first.layout) :
    EndAlike first.mapSurface second.mapSurface := by
  cases halike with
  | failed hfirst hsecond =>
    simp only [Output.mapSurface, hmatches.layout_eq, hfirst, hsecond]
    exact ⟨rfl, { hmatches with layout_eq := rfl }⟩
  | mapped hfirst hsecond hmemory =>
    simp only [Output.mapSurface, hmatches.layout_eq, hfirst, hsecond, hmemory]
    split
    · exact ⟨rfl, { hmatches with layout_eq := rfl }⟩
    · exact ⟨rfl, { hmatches with layout_eq := rfl, surface_eq := rfl, state_eq := rfl }⟩

theorem enable (hmatches : first.Matches second) (hwaiting : first.Waiting)
    (halike : MapsAlike first.device second.device first.layout) :
    EndAlike first.enable second.enable := by
  rw [enable_of_waiting hwaiting, enable_of_waiting (hmatches.waiting hwaiting)]
  exact hmatches.mapSurface halike

/-- Outputs that match come back alike in their own mode on devices that map alike. -/
theorem adopt_sameMode (hmatches : first.Matches second) (hwaiting : first.Waiting)
    {fresh : ScreenDescriptor} (hsame : fresh.sameMode first.descriptor)
    (halike : MapsAlike first.device second.device first.layout) :
    EndAlike (first.adopt fresh) (second.adopt fresh) := by
  have hfresh : ({ first with descriptor := fresh } : Output δ).Matches
      { second with descriptor := fresh } :=
    { hmatches with same_mode := ScreenDescriptor.sameMode_refl fresh }
  have hother : fresh.sameMode second.descriptor := by
    rwa [ScreenDescriptor.sameMode_congr hmatches.same_mode]
  rw [adopt_of_sameMode hsame, adopt_of_sameMode hother]
  exact (hfresh.enable hwaiting halike).map _

/-- Outputs that match come back alike in another mode on devices that open and map alike. -/
theorem adopt_changed (hmatches : first.Matches second)
    {fresh : ScreenDescriptor} (hchanged : ¬fresh.sameMode first.descriptor)
    (halike : ∀ layout, fresh.layout = .ok layout →
      ReopensAlike first.device second.device layout) :
    EndAlike (first.adopt fresh) (second.adopt fresh) := by
  have hother : ¬fresh.sameMode second.descriptor := by
    rwa [ScreenDescriptor.sameMode_congr hmatches.same_mode]
  cases hlayout : fresh.layout with
  | error error =>
    simp only [Output.adopt, if_neg hchanged, if_neg hother, hlayout]
    exact ⟨rfl, hmatches⟩
  | ok layout =>
    cases halike layout hlayout with
    | failed hfirst hsecond =>
      simp only [Output.adopt, if_neg hchanged, if_neg hother, hlayout, Output.reopen, hfirst,
        hsecond]
      exact ⟨rfl, { hmatches with state_eq := rfl }⟩
    | @opened left other hfirst hsecond hmaps =>
      have hreopened : (first.reopened fresh layout left).Matches
          (second.reopened fresh layout other) :=
        { hmatches with
          same_mode := ScreenDescriptor.sameMode_refl fresh
          layout_eq := rfl
          state_eq := rfl
          timer_eq := congrArg (FrameTimer.setRefresh · fresh.refreshMhz) hmatches.timer_eq }
      rw [adopt_of_reopen hchanged hlayout (reopen_of_openAt hfirst),
        adopt_of_reopen hother hlayout (reopen_of_openAt hsecond)]
      exact (hreopened.enable (.inl rfl) hmaps).map _

/-- Outputs that match come back alike from sources with one answer, on devices that answer alike to
the calls that the answer leads to. -/
theorem reenable (hmatches : first.Matches second) {fresh : ScreenDescriptor}
    {screens others : ScreenSource} (hanswer : screens.ask.1 = .ok fresh)
    (hother : others.ask.1 = .ok fresh)
    (halike : first.AnswersAlike fresh first.device second.device) :
    (second.reenable others).1 = (first.reenable screens).1 ∧
      (first.reenable screens).2.1.Matches (second.reenable others).2.1 := by
  by_cases hwaiting : first.Waiting
  · rw [reenable_of_waiting hwaiting, reenable_of_waiting (hmatches.waiting hwaiting), hanswer,
      hother]
    by_cases hsame : fresh.sameMode first.descriptor
    · exact hmatches.adopt_sameMode hwaiting hsame (halike.maps hsame)
    · exact hmatches.adopt_changed hsame (halike.reopens hsame)
  · -- Neither of the two asks, and both stay as they are.
    rcases state_of_not_waiting hwaiting with hstate | hstate
    · simpa [Output.reenable, hmatches.state_eq, hstate] using hmatches
    · simpa [Output.reenable, hmatches.state_eq, hstate, hmatches.name_eq] using hmatches

end Matches

/-! ### Attempts that fail -/

/-- An output that is mapped or destroyed already stays as it is. -/
theorem eq_of_enable {output left : Output δ} {result : Except OutputError Unit}
    (hwaiting : ¬output.Waiting) (henable : output.enable = (result, left)) : left = output := by
  rcases state_of_not_waiting hwaiting with hstate | hstate <;>
    simp only [enable, hstate, Prod.mk.injEq] at henable <;>
      exact henable.2.symm

/-- An output that could not be enabled differs in its device only. -/
theorem withDevice_of_enable_error {output left : Output δ} {error : OutputError}
    (henable : output.enable = (.error error, left)) : left = output.withDevice left.device := by
  by_cases hwaiting : output.Waiting
  · have houtcome := henable ▸ hwaiting.mapOutcome
    cases houtcome <;> rfl
  · obtain rfl := eq_of_enable hwaiting henable
    rfl

/-- An output that is mapped or destroyed already stays as it is, whatever the source answers. -/
theorem eq_of_reenable {output left : Output δ} {screens more : ScreenSource}
    {result : Except OutputError Reenabled} (hwaiting : ¬output.Waiting)
    (hreenable : output.reenable screens = (result, left, more)) : left = output := by
  rcases state_of_not_waiting hwaiting with hstate | hstate <;>
    simp only [reenable, hstate, Prod.mk.injEq] at hreenable <;>
      exact hreenable.2.1.symm

/-- An output that waits stays as it is if the source does not answer. -/
theorem reenable_of_unanswered {output : Output δ} (hwaiting : output.Waiting)
    {screens : ScreenSource} {reason : String} (hanswer : screens.ask.1 = .error reason) :
    output.reenable screens = (.error (.descriptorQuery reason), output, screens.ask.2) := by
  rw [reenable_of_waiting hwaiting, hanswer]

/-- An output that waits stays as it is if the descriptor has no layout: that cannot be a descriptor
of the mode that the output has. -/
theorem reenable_of_layout_error {output : Output δ} (hcoherent : output.Coherent)
    (hwaiting : output.Waiting) {screens : ScreenSource} {fresh : ScreenDescriptor}
    {error : ScreenError} (hanswer : screens.ask.1 = .ok fresh)
    (hlayout : fresh.layout = .error error) :
    output.reenable screens = (.error (.invalidDescriptor error), output, screens.ask.2) := by
  have hchanged : ¬fresh.sameMode output.descriptor := by
    intro hsame
    have hequal := ScreenDescriptor.layout_eq_of_sameMode hsame
    rw [hlayout, hcoherent.descriptor_layout] at hequal
    cases hequal
  rw [reenable_of_waiting hwaiting, hanswer]
  simp only [adopt, if_neg hchanged, hlayout]

/-- An output that could not come back in its own mode was enabled in vain under the fresh
descriptor, or did not wait and stays as it is. -/
theorem enable_of_reenable_error {output left : Output δ} {screens more : ScreenSource}
    {fresh : ScreenDescriptor} {error : OutputError} (hanswer : screens.ask.1 = .ok fresh)
    (hsame : fresh.sameMode output.descriptor)
    (hreenable : output.reenable screens = (.error error, left, more)) :
    ({ output with descriptor := fresh } : Output δ).enable = (.error error, left) ∨
      left = output := by
  have houtcome : ReenableOutcome output screens (.error error, left, more) := .of_eq hreenable
  cases houtcome with
  | destroyed hstate => exact .inr rfl
  | queryFailed hwaiting hnone => cases hanswer.symm.trans hnone
  | answered hwaiting hother hadopt =>
    obtain rfl := Except.ok.inj (hanswer.symm.trans hother)
    cases hadopt with
    | remapFailed _ henable => exact .inl henable
    | _ => contradiction

/-- An output that could not come back in its own mode differs in its device and, at most, in the
identifier of its descriptor. -/
theorem eq_of_reenable_error {output left : Output δ} {screens more : ScreenSource}
    {fresh : ScreenDescriptor} {error : OutputError} (hanswer : screens.ask.1 = .ok fresh)
    (hsame : fresh.sameMode output.descriptor)
    (hreenable : output.reenable screens = (.error error, left, more)) :
    left = { output with device := left.device,
                         descriptor := { output.descriptor with id := left.descriptor.id } } := by
  rcases enable_of_reenable_error hanswer hsame hreenable with henable | rfl
  · have hequal : { fresh with id := output.descriptor.id } = output.descriptor :=
      of_decide_eq_true hsame
    rw [withDevice_of_enable_error henable, ← hequal]
    rfl
  · rfl

/-- What the source answers is no reason to give the storage of the output up. -/
inductive KeepsStorage (output : Output δ) : ScreenAnswer → Prop
  | unanswered (reason : String) : KeepsStorage output (.error reason)
  | withoutLayout {fresh : ScreenDescriptor} {error : ScreenError}
      (hlayout : fresh.layout = .error error) : KeepsStorage output (.ok fresh)
  | sameMode {fresh : ScreenDescriptor} (hsame : fresh.sameMode output.descriptor) :
      KeepsStorage output (.ok fresh)

/-- An attempt to enable an output or to bring it back, with the device as it is by then, failed
and left the given output, whose storage was never given up. -/
inductive FailedAttempt (output left : Output δ) : Prop
  | enable {device : δ} {error : OutputError}
      (henable : (output.withDevice device).enable = (.error error, left))
  | reenable {device : δ} {screens more : ScreenSource} {error : OutputError}
      (hkeeps : output.KeepsStorage screens.ask.1)
      (hreenable : (output.withDevice device).reenable screens = (.error error, left, more))

/-- A failed attempt leaves an output that matches. -/
theorem FailedAttempt.matches {output left : Output δ} (hfailed : output.FailedAttempt left)
    (hcoherent : output.Coherent) : output.Matches left ∧ left.Coherent := by
  cases hfailed with
  | enable henable =>
    rw [withDevice_of_enable_error henable]
    exact ⟨output.matches_withDevice _, hcoherent.withDevice _⟩
  | @reenable device screens more error hkeeps hreenable =>
    have hafter := (hcoherent.withDevice device).of_reenable hreenable
    refine ⟨?_, hafter⟩
    by_cases hwaiting : (output.withDevice device).Waiting
    · generalize hanswer : screens.ask.1 = answer at hkeeps
      cases hkeeps with
      | unanswered reason =>
        cases (reenable_of_unanswered hwaiting hanswer).symm.trans hreenable
        exact output.matches_withDevice device
      | withoutLayout hlayout =>
        have hthen := hcoherent.withDevice device
        cases (reenable_of_layout_error hthen hwaiting hanswer hlayout).symm.trans hreenable
        exact output.matches_withDevice device
      | @sameMode fresh hsame =>
        have hthen : fresh.sameMode (output.withDevice device).descriptor := hsame
        rw [eq_of_reenable_error hanswer hthen hreenable]
        exact { Matches.refl output with same_mode := ScreenDescriptor.sameMode_iff.mpr rfl }
    · rw [eq_of_reenable hwaiting hreenable]
      exact output.matches_withDevice device

/-- Any number of failed attempts leave an output that matches. -/
theorem matches_of_failedAttempts {output left : Output δ} (hcoherent : output.Coherent)
    (hfailed : Relation.ReflTransGen FailedAttempt output left) :
    output.Matches left ∧ left.Coherent := by
  induction hfailed with
  | refl => exact ⟨.refl output, hcoherent⟩
  | tail hbefore hlast ih =>
    obtain ⟨hmatches, hafter⟩ := hlast.matches ih.2
    exact ⟨ih.1.trans hmatches, hafter⟩

end Output

namespace Output

variable {δ : Type} [FramebufferDevice δ]

/-- An output that could not be enabled called its device in vain. -/
theorem vain_of_enable_error {output left : Output (RecordedStorage δ)} {error : OutputError}
    (henable : output.enable = (.error error, left)) :
    ∃ vain, VainCalls output.layout vain ∧ left.device.calls = output.device.calls ++ vain := by
  by_cases hwaiting : output.Waiting
  · have houtcome := henable ▸ hwaiting.mapOutcome
    cases houtcome with
    | failed hmap => exact ⟨_, .unmapped, RecordedStorage.calls_map_error hmap⟩
    | @rejected mapping device hmap hsize =>
      refine ⟨_, .handedBack mapping.token mapping.memory.size, ?_⟩
      rw [RecordedStorage.calls_unmap, RecordedStorage.calls_map_ok hmap, List.append_assoc]
      rfl
  · obtain rfl := eq_of_enable hwaiting henable
    exact ⟨[], .none, (List.append_nil _).symm⟩

/-- An output that could not come back in its own mode called its device in vain. -/
theorem vain_of_reenable_error {output left : Output (RecordedStorage δ)}
    {screens more : ScreenSource} {fresh : ScreenDescriptor} {error : OutputError}
    (hanswer : screens.ask.1 = .ok fresh) (hsame : fresh.sameMode output.descriptor)
    (hreenable : output.reenable screens = (.error error, left, more)) :
    ∃ vain, VainCalls output.layout vain ∧ left.device.calls = output.device.calls ++ vain := by
  rcases enable_of_reenable_error hanswer hsame hreenable with henable | rfl
  · have hvain := vain_of_enable_error henable
    exact hvain
  · exact ⟨[], .none, (List.append_nil _).symm⟩

end Output

variable {δ : Type} [FramebufferDevice δ]

/-- Whatever has been done with an output,

* if it cannot be enabled, nothing about it has changed but its device, whose calls were in vain:
  what was mapped was handed back;
* if it cannot come back because the source gives no answer, or a descriptor without a layout,
  nothing has changed at all, and the device was not called;
* if it cannot come back although its mode is unchanged, nothing has changed but its device and, at
  most, the identifier of its descriptor, and again the calls were in vain;
* so after any number of such failures, whatever the device was like at each, coming back returns
  the same and leaves the same name, mode, layout, surface, state, timer and damage as it would have
  without them, provided the source gives the same answer and the device answers alike. -/
theorem failed_attempts_leave_no_trace {name : String} {number : Nat} {device : δ}
    {source after : ScreenSource} {output : Output (RecordedStorage δ)}
    (hcreate : Output.create name (.fresh number device) source = (.ok output, after))
    (renderer : Renderer) (host : Host) (steps : List OutputStep) :
    let now := ((Solo.mk output after renderer host).run steps).output
    (∀ error left, now.enable = (.error error, left) →
      left = { now with device := left.device } ∧
      ∃ vain, VainCalls now.layout vain ∧ left.device.calls = now.device.calls ++ vain) ∧
    (∀ screens reason, now.Waiting → screens.ask.1 = .error reason →
      now.reenable screens = (.error (.descriptorQuery reason), now, screens.ask.2)) ∧
    (∀ screens fresh error, now.Waiting → screens.ask.1 = .ok fresh → fresh.layout = .error error →
      now.reenable screens = (.error (.invalidDescriptor error), now, screens.ask.2)) ∧
    (∀ screens fresh error left more, screens.ask.1 = .ok fresh →
      fresh.sameMode now.descriptor → now.reenable screens = (.error error, left, more) →
        left = { now with device := left.device,
                          descriptor := { now.descriptor with id := left.descriptor.id } } ∧
        ∃ vain, VainCalls now.layout vain ∧ left.device.calls = now.device.calls ++ vain) ∧
    ∀ left, Relation.ReflTransGen Output.FailedAttempt now left →
      ∀ first second fresh screens others, screens.ask.1 = .ok fresh → others.ask.1 = .ok fresh →
        now.AnswersAlike fresh first second →
          let straight := (now.withDevice first).reenable screens
          let late := (left.withDevice second).reenable others
          late.1 = straight.1 ∧ straight.2.1.Matches late.2.1 := by
  intro now
  have hcoherent : now.Coherent := Solo.coherent_run (Output.coherent_create hcreate) steps
  refine ⟨?_, ?_, ?_, ?_, ?_⟩
  · intro error left henable
    exact ⟨Output.withDevice_of_enable_error henable, Output.vain_of_enable_error henable⟩
  · intro screens reason hwaiting hanswer
    exact Output.reenable_of_unanswered hwaiting hanswer
  · intro screens fresh error hwaiting hanswer hlayout
    exact Output.reenable_of_layout_error hcoherent hwaiting hanswer hlayout
  · intro screens fresh error left more hanswer hsame hreenable
    exact ⟨Output.eq_of_reenable_error hanswer hsame hreenable,
      Output.vain_of_reenable_error hanswer hsame hreenable⟩
  · intro left hfailed first second fresh screens others hanswer hother halike
    have hmatches := (Output.matches_of_failedAttempts hcoherent hfailed).1.withDevice first second
    exact hmatches.reenable hanswer hother ⟨halike.maps, halike.reopens⟩

/-- An output that cannot be enabled, then gets no answer, and then cannot be mapped under another
identifier, comes back all the same when its device has been repaired. -/
theorem comes_back_after_failures :
    let screen := ScreenDescriptor.withSize 2 1
    let source : ScreenSource := ⟨fun asked ↦
      if asked = 0 then .ok screen
      else if asked = 1 then .error "unplugged" else .ok { screen with id := "spare" }, 0⟩
    let device := RecordedStorage.fresh 0 { HeapStorage.working with failsToMap := true }
    let renderer := Renderer.solid Renderer.defaultColor fun _ ↦ none
    ∃ output after, Output.create "main" device source = (.ok output, after) ∧
      let solo := Solo.mk output after renderer (.atTime 0)
      let left := (solo.run [.enable, .reenable, .reenable]).output
      let repaired := { left.device with device := HeapStorage.working }
      let late := (left.withDevice repaired).reenable (.always (.ok screen))
      left.descriptor.id = "spare" ∧ left.device.calls.length = 3 ∧
        late.1 = .ok .remapped ∧ late.2.1.state = .mapped := by
  intro screen source device renderer
  have hcreate : Output.create "main" device source = (.ok _, _) := rfl
  refine ⟨_, _, hcreate, ?_⟩
  intro solo left repaired late
  have hfailed : Relation.ReflTransGen Output.FailedAttempt solo.output left := by
    have hfirst : solo.output.FailedAttempt (solo.run [.enable]).output :=
      @Output.FailedAttempt.enable _ _ _ _ solo.output.device _ rfl
    have hsecond : (solo.run [.enable]).output.FailedAttempt
        (solo.run [.enable, .reenable]).output :=
      @Output.FailedAttempt.reenable _ _ _ _ (solo.run [.enable]).output.device
        (solo.run [.enable]).source _ _ (.unanswered "unplugged") rfl
    have hthird : (solo.run [.enable, .reenable]).output.FailedAttempt left :=
      @Output.FailedAttempt.reenable _ _ _ _ (solo.run [.enable, .reenable]).output.device
        (solo.run [.enable, .reenable]).source _ _ (.sameMode rfl) rfl
    exact ((Relation.ReflTransGen.single hfirst).tail hsecond).tail hthird
  have halike : solo.output.AnswersAlike screen (.fresh 0 HeapStorage.working) repaired :=
    ⟨fun _ ↦ .mapped rfl rfl rfl, fun hchanged ↦ absurd rfl hchanged⟩
  obtain ⟨-, -, -, -, hlate⟩ :=
    failed_attempts_leave_no_trace hcreate renderer (.atTime 0) []
  obtain ⟨hresult, hmatches⟩ := hlate left hfailed (.fresh 0 HeapStorage.working) repaired screen
    (.always (.ok screen)) (.always (.ok screen)) rfl rfl halike
  have hback : late.1 = .ok .remapped := by
    rw [hresult]
    rfl
  have hmapped : late.2.1.state = .mapped := by
    rw [hmatches.state_eq]
    rfl
  exact ⟨by decide +kernel, by decide +kernel, hback, hmapped⟩

end HeadlessDisplay
