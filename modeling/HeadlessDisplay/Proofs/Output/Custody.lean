import HeadlessDisplay.Output.Solo
import HeadlessDisplay.Proofs.Output.Coherence
import Mathlib.Logic.Relation

/-!
# What an output does with its device

The life of an output is long in what it does with damage, timers and renderers, and short in what
it does with its device. `Custody` is what matters for the device: the calls made on it so far, the
layout and the state of the output, and the token of the mapping it holds. `Custody.Act` lists the
things an output ever does with a device it has created, each with the calls it consists of: it maps
the storage, closes it and opens it anew, hands the mapping back, or does so and closes it for good.

`Solo.custody_run` says that a life, whatever succeeds or fails in it, is a sequence of such acts
for the device. What holds of the calls on a device in every life is proved of the acts and carried
over by `Solo.custody_invariant`, without another look at the operations.
-/

set_option autoImplicit false
set_option relaxedAutoImplicit false

namespace HeadlessDisplay

/-- What matters of an output for its device. -/
structure Custody where
  /-- The calls made on the device. -/
  calls : List StorageCall
  /-- The layout of the output. -/
  layout : Layout
  /-- The token of the mapping that the output holds. -/
  token : Option Nat
  state : OutputState

namespace Custody

/-- The device of an output that has just been created was opened at its layout. -/
def created (layout : Layout) : Custody :=
  ⟨[.opened layout true], layout, none, .unopened⟩

/-- The output is neither mapped nor destroyed. -/
def Waiting (custody : Custody) : Prop :=
  custody.state = .unopened ∨ custody.state = .disabled

theorem Waiting.state_ne_mapped {custody : Custody} (hwaiting : custody.Waiting) :
    custody.state ≠ .mapped := by
  rcases hwaiting with hstate | hstate <;> simp [hstate]

theorem Waiting.state_ne_destroyed {custody : Custody} (hwaiting : custody.Waiting) :
    custody.state ≠ .destroyed := by
  rcases hwaiting with hstate | hstate <;> simp [hstate]

/-- The call that hands the mapping back, if there is one. -/
def handBack (custody : Custody) : List StorageCall :=
  custody.token.toList.map .unmapped

/-- One thing that an output does with its device. -/
inductive Act (custody : Custody) : Custody → Prop
  /-- The device does not map. -/
  | mapFailed (hwaiting : custody.Waiting) :
      Act custody { custody with calls := custody.calls ++ [.mapped custody.layout none] }
  /-- The device maps memory of the wrong length, which is handed back at once. -/
  | mapRejected (token size : Nat) (hwaiting : custody.Waiting) :
      Act custody
        { custody with
          calls := custody.calls ++ [.mapped custody.layout (some (token, size)), .unmapped token] }
  /-- The device maps memory, which the output holds from now on. -/
  | mapped (token size : Nat) (hwaiting : custody.Waiting) :
      Act custody
        { custody with
          calls := custody.calls ++ [.mapped custody.layout (some (token, size))]
          token := some token
          state := .mapped }
  /-- The storage is closed and cannot be opened at another layout. -/
  | reopenFailed (layout : Layout) (hwaiting : custody.Waiting) :
      Act custody
        { custody with
          calls := custody.calls ++ [.closed, .opened layout false]
          state := .unopened }
  /-- The storage is closed and opened at another layout. -/
  | reopened (layout : Layout) (hwaiting : custody.Waiting) :
      Act custody
        { custody with
          calls := custody.calls ++ [.closed, .opened layout true]
          layout
          state := .unopened }
  /-- The mapping is handed back. -/
  | disabled (hmapped : custody.state = .mapped) :
      Act custody
        { custody with calls := custody.calls ++ custody.handBack, token := none, state := .disabled }
  /-- The mapping is handed back and the storage is closed. -/
  | destroyed (hlive : custody.state ≠ .destroyed) :
      Act custody
        { custody with
          calls := custody.calls ++ custody.handBack ++ [.closed]
          token := none
          state := .destroyed }

/-- Any number of acts. -/
abbrev Reaches : Custody → Custody → Prop :=
  Relation.ReflTransGen Act

/-- Calls are added to those made before. -/
theorem Act.calls_prefix {custody after : Custody} (hact : custody.Act after) :
    custody.calls <+: after.calls := by
  cases hact with
  | destroyed hlive =>
    rw [List.append_assoc]
    exact List.prefix_append _ _
  | _ => exact List.prefix_append _ _

theorem Reaches.calls_prefix {custody after : Custody} (hreaches : custody.Reaches after) :
    custody.calls <+: after.calls := by
  induction hreaches with
  | refl => exact List.prefix_rfl
  | tail hbefore hlast ih => exact ih.trans hlast.calls_prefix

end Custody

/-! ### Calls in turn -/

/-- Every call is one that the rule allows after the calls before it. -/
def InTurn (rule : List StorageCall → StorageCall → Prop) (calls : List StorageCall) : Prop :=
  ∀ early call, early ++ [call] <+: calls → rule early call

section

variable {rule : List StorageCall → StorageCall → Prop} {calls : List StorageCall}

/-- A further call must be allowed after all those before it. -/
theorem inTurn_append_singleton {call : StorageCall} :
    InTurn rule (calls ++ [call]) ↔ InTurn rule calls ∧ rule calls call := by
  constructor
  · intro hturn
    refine ⟨?_, hturn calls call List.prefix_rfl⟩
    intro early other hearly
    exact hturn early other (hearly.trans (List.prefix_append _ _))
  · rintro ⟨hturn, hcall⟩ early other hearly
    rcases List.prefix_concat_iff.mp hearly with hwhole | hpart
    · obtain ⟨rfl, hother⟩ := List.append_inj' hwhole rfl
      obtain rfl := List.singleton_inj.mp hother
      exact hcall
    · exact hturn early other hpart

theorem inTurn_append_pair {first second : StorageCall} :
    InTurn rule (calls ++ [first, second]) ↔
      InTurn rule calls ∧ rule calls first ∧ rule (calls ++ [first]) second := by
  rw [List.append_cons, inTurn_append_singleton, inTurn_append_singleton, and_assoc]

theorem inTurn_singleton {call : StorageCall} : InTurn rule [call] ↔ rule [] call := by
  rw [← List.nil_append [call], inTurn_append_singleton, and_iff_right]
  intro early call hearly
  simp at hearly

theorem InTurn.of_prefix (hturn : InTurn rule calls) {early : List StorageCall}
    (hearly : early <+: calls) : InTurn rule early :=
  fun before call hbefore ↦ hturn before call (hbefore.trans hearly)

/-- Handing the mapping back is a call only if there is a mapping. -/
theorem inTurn_append_handBack {custody : Custody} :
    InTurn rule (custody.calls ++ custody.handBack) ↔
      InTurn rule custody.calls ∧
        ∀ token, custody.token = some token → rule custody.calls (.unmapped token) := by
  unfold Custody.handBack
  cases custody.token <;> simp [inTurn_append_singleton]

end

/-! ### The calls on a recorded device -/

namespace RecordedStorage

variable {δ : Type} [FramebufferDevice δ] {storage after : RecordedStorage δ} {layout : Layout}

theorem calls_openAt_ok (hopen : FramebufferDevice.openAt storage layout = (.ok (), after)) :
    after.calls = storage.calls ++ [.opened layout true] := by
  simp only [FramebufferDevice.openAt] at hopen
  split at hopen
  · obtain rfl := (Prod.mk.inj hopen).2
    rfl
  · simp at hopen

theorem calls_openAt_error {failure : StorageFailure}
    (hopen : FramebufferDevice.openAt storage layout = (.error failure, after)) :
    after.calls = storage.calls ++ [.opened layout false] := by
  simp only [FramebufferDevice.openAt] at hopen
  split at hopen
  · simp at hopen
  · obtain rfl := (Prod.mk.inj hopen).2
    rfl

theorem calls_map_ok {mapping : Mapping}
    (hmap : FramebufferDevice.map storage layout = (.ok mapping, after)) :
    after.calls = storage.calls ++ [.mapped layout (some (mapping.token, mapping.memory.size))] := by
  simp only [FramebufferDevice.map] at hmap
  split at hmap
  · obtain ⟨hmapping, rfl⟩ := Prod.mk.inj hmap
    obtain rfl := Except.ok.inj hmapping
    rfl
  · simp at hmap

theorem calls_map_error {failure : StorageFailure}
    (hmap : FramebufferDevice.map storage layout = (.error failure, after)) :
    after.calls = storage.calls ++ [.mapped layout none] := by
  simp only [FramebufferDevice.map] at hmap
  split at hmap
  · simp at hmap
  · obtain rfl := (Prod.mk.inj hmap).2
    rfl

@[simp] theorem calls_unmap (storage : RecordedStorage δ) (mapping : Mapping) :
    (FramebufferDevice.unmap storage mapping).calls = storage.calls ++ [.unmapped mapping.token] :=
  rfl

@[simp] theorem calls_close (storage : RecordedStorage δ) :
    (FramebufferDevice.close storage).calls = storage.calls ++ [.closed] :=
  rfl

end RecordedStorage

/-! ### The acts of each operation -/

namespace Output

variable {δ : Type}

/-- What matters of the output for its device. -/
def custody (output : Output (RecordedStorage δ)) : Custody :=
  ⟨output.device.calls, output.layout, output.framebuffer.map Framebuffer.token, output.state⟩

@[simp] theorem custody_addDamage (output : Output (RecordedStorage δ)) (damage : Damage) :
    (output.addDamage damage).custody = output.custody := by
  unfold addDamage
  split <;> rfl

@[simp] theorem custody_dispatchTimer (output : Output (RecordedStorage δ)) (now : Nat)
    (host : Host) : (output.dispatchTimer now host).2.1.custody = output.custody := by
  unfold dispatchTimer
  split <;> rfl

variable [FramebufferDevice δ]

/-- Creating an output over a fresh device opens it at the output's layout. -/
theorem custody_create {name : String} {number : Nat} {device : δ} {source after : ScreenSource}
    {output : Output (RecordedStorage δ)}
    (hcreate : create name (.fresh number device) source = (.ok output, after)) :
    output.custody = .created output.layout := by
  cases CreateOutcome.of_eq hcreate with
  | created hanswer hlayout hopen =>
    have hcalls := RecordedStorage.calls_openAt_ok hopen
    simp only [custody, Custody.created, hcalls]
    rfl

/-- Painting is not a call on the device. -/
@[simp] theorem custody_repaint (output : Output (RecordedStorage δ)) (damage : Damage)
    (renderer : Renderer) (now : Nat) :
    (output.repaint damage renderer now).2.1.custody = output.custody := by
  generalize hrepaint : output.repaint damage renderer now = outcome
  cases RepaintOutcome.of_eq hrepaint with
  | dropped hnone => rfl
  | painted hframebuffer hpaint =>
    simp only [custody, hframebuffer]
    rfl
  | failed hframebuffer hpaint =>
    simp only [custody, hframebuffer]
    rfl

/-- Mapping is one act, whatever it comes to. -/
theorem MapOutcome.act {output : Output (RecordedStorage δ)}
    {outcome : Except OutputError Unit × Output (RecordedStorage δ)}
    (houtcome : MapOutcome output outcome) (hwaiting : output.Waiting) :
    output.custody.Act outcome.2.custody := by
  cases houtcome with
  | failed hmap =>
    simp only [custody, RecordedStorage.calls_map_error hmap]
    exact .mapFailed hwaiting
  | rejected hmap hsize =>
    simp only [custody, RecordedStorage.calls_unmap, RecordedStorage.calls_map_ok hmap,
      List.append_assoc]
    exact .mapRejected _ _ hwaiting
  | mapped hmap hsize =>
    simp only [custody, RecordedStorage.calls_map_ok hmap]
    exact .mapped _ _ hwaiting

theorem reaches_enable (output : Output (RecordedStorage δ)) :
    output.custody.Reaches output.enable.2.custody := by
  have hwaiting (hwait : output.Waiting) : output.custody.Reaches output.enable.2.custody :=
    .single (hwait.mapOutcome.act hwait)
  cases hstate : output.state with
  | unopened => exact hwaiting (.inl hstate)
  | disabled => exact hwaiting (.inr hstate)
  | mapped => rw [enable_of_mapped hstate]
  | destroyed => simp only [enable, hstate]; rfl

theorem reaches_of_enable {output left : Output (RecordedStorage δ)}
    {result : Except OutputError Unit} (henable : output.enable = (result, left)) :
    output.custody.Reaches left.custody := by
  simpa only [henable] using output.reaches_enable

/-- Opening anew is one act, whatever it comes to. -/
theorem ReopenOutcome.act {output : Output (RecordedStorage δ)} {descriptor : ScreenDescriptor}
    {layout : Layout} {outcome : Except OutputError Unit × Output (RecordedStorage δ)}
    (houtcome : ReopenOutcome output descriptor layout outcome) (hwaiting : output.Waiting) :
    output.custody.Act outcome.2.custody := by
  cases houtcome with
  | failed hopen =>
    simp only [custody, RecordedStorage.calls_openAt_error hopen, RecordedStorage.calls_close,
      List.append_assoc]
    exact .reopenFailed layout hwaiting
  | reopened hopen =>
    simp only [custody, RecordedStorage.calls_openAt_ok hopen, RecordedStorage.calls_close,
      List.append_assoc]
    exact .reopened layout hwaiting

theorem AdoptOutcome.reaches {output : Output (RecordedStorage δ)} {fresh : ScreenDescriptor}
    {outcome : Except OutputError Reenabled × Output (RecordedStorage δ)}
    (houtcome : AdoptOutcome output fresh outcome) (hwaiting : output.Waiting) :
    output.custody.Reaches outcome.2.custody := by
  cases houtcome with
  | remapFailed hsame henable =>
    have hreaches := reaches_of_enable henable
    exact hreaches
  | remapped hsame henable =>
    have hreaches := reaches_of_enable henable
    exact hreaches
  | invalid hchanged hlayout => rfl
  | reopenFailed hchanged hlayout hreopen =>
    exact .single ((ReopenOutcome.of_eq hreopen).act hwaiting)
  | recreateFailed hchanged hlayout hreopen henable =>
    exact .head ((ReopenOutcome.of_eq hreopen).act hwaiting) (reaches_of_enable henable)
  | recreated hchanged hlayout hreopen henable =>
    exact .head ((ReopenOutcome.of_eq hreopen).act hwaiting) (reaches_of_enable henable)

theorem reaches_reenable (output : Output (RecordedStorage δ)) (source : ScreenSource) :
    output.custody.Reaches (output.reenable source).2.1.custody := by
  generalize hreenable : output.reenable source = outcome
  cases ReenableOutcome.of_eq hreenable with
  | destroyed hstate => rfl
  | alreadyMapped hstate => rfl
  | queryFailed hwaiting hanswer => rfl
  | answered hwaiting hanswer hadopt => exact hadopt.reaches hwaiting

theorem calls_release (output : Output (RecordedStorage δ)) :
    output.release.device.calls = output.device.calls ++ output.custody.handBack := by
  unfold release
  split
  · next hnone => simp [custody, Custody.handBack, hnone]
  · next framebuffer hframebuffer =>
    simp [custody, Custody.handBack, hframebuffer, Framebuffer.mapping]

theorem layout_release (output : Output δ) : output.release.layout = output.layout := by
  unfold release
  split <;> rfl

theorem framebuffer_release (output : Output δ) : output.release.framebuffer = none := by
  unfold release
  split
  · next hnone => exact hnone
  · rfl

theorem reaches_disable (output : Output (RecordedStorage δ)) :
    output.custody.Reaches output.disable.custody := by
  unfold disable
  split
  · next hstate =>
    apply Relation.ReflTransGen.single
    simp only [custody, calls_release, layout_release, framebuffer_release]
    exact .disabled hstate
  · rfl

theorem reaches_destroy (output : Output (RecordedStorage δ)) :
    output.custody.Reaches output.destroy.custody := by
  unfold destroy
  split
  · rfl
  · next hstate =>
    apply Relation.ReflTransGen.single
    simp only [custody, RecordedStorage.calls_close, calls_release, layout_release,
      framebuffer_release]
    exact .destroyed hstate

end Output

/-! ### The acts of a life -/

namespace Solo

variable {δ : Type} [FramebufferDevice δ]

/-- Each operation is a sequence of acts for the device. -/
theorem custody_step (solo : Solo (RecordedStorage δ)) (step : OutputStep) :
    solo.output.custody.Reaches (solo.step step).2.output.custody := by
  cases step with
  | enable => exact solo.output.reaches_enable
  | disable => exact solo.output.reaches_disable
  | reenable => exact solo.output.reaches_reenable solo.source
  | repaint damage now => simp only [Solo.step, Output.custody_repaint]; rfl
  | repaintPending now =>
    simp only [Solo.step, Output.repaintPending, Output.custody_repaint]
    rfl
  | addDamage damage => simp only [Solo.step, Output.custody_addDamage]; rfl
  | damageAll => simp only [Solo.step, Output.damageAll, Output.custody_addDamage]; rfl
  | takeDamage => rfl
  | dispatchTimer now => simp only [Solo.step, Output.custody_dispatchTimer]; rfl
  | startRepaintLoop => rfl
  | destroy => exact solo.output.reaches_destroy

/-- A life is a sequence of acts for the device. -/
theorem custody_run (solo : Solo (RecordedStorage δ)) (steps : List OutputStep) :
    solo.output.custody.Reaches (solo.run steps).output.custody := by
  induction steps generalizing solo with
  | nil => rfl
  | cons step rest ih => exact (solo.custody_step step).trans (ih (solo.step step).2)

/-- What holds after every creation and is kept by every act holds at every moment of a life. -/
theorem custody_invariant {property : Custody → Prop}
    (hcreated : ∀ layout, property (.created layout))
    (hact : ∀ {before after : Custody}, property before → before.Act after → property after)
    {name : String} {number : Nat} {device : δ} {source after : ScreenSource}
    {output : Output (RecordedStorage δ)}
    (hcreate : Output.create name (.fresh number device) source = (.ok output, after))
    (renderer : Renderer) (host : Host) (steps : List OutputStep) :
    property ((Solo.mk output after renderer host).run steps).output.custody := by
  have hreaches := (Solo.mk output after renderer host).custody_run steps
  rw [Output.custody_create hcreate] at hreaches
  generalize ((Solo.mk output after renderer host).run steps).output.custody = reached at hreaches ⊢
  -- The induction is on the acts, of which one step may have several.
  induction hreaches with
  | refl => exact hcreated _
  | tail hbefore hlast ih => exact hact ih hlast

end Solo

end HeadlessDisplay
