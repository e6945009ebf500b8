import HeadlessDisplay.Proofs.Output.Coherence

/-!
# The life cycle of a device under one output

A device is closed, open at a layout or mapped at a layout. `StoragePhase.after` says which call may
follow in which phase and what its result leads to: a closed device may be opened or closed, an open
one mapped at the very layout it is open at or closed, and a mapped one only be given its mapping
back. `RecordedStorage.phase?` runs the calls that were made on a device through this automaton, and
is nothing once a call was out of place.

`Attached` says that the device of an output is where the fields of the output say it is. Creating,
enabling, disabling, repainting and a successful return keep it. A return that fails may leave a
closed device behind, so what it leaves is `Detachable` only; destroying the output then still ends
with a closed device (`phase?_destroy`).
-/

set_option autoImplicit false
set_option relaxedAutoImplicit false

namespace HeadlessDisplay

/-- Where a device is between two calls. -/
inductive StoragePhase
  | closed
  | opened (layout : Layout)
  /-- Memory with the given token is out. -/
  | mapped (layout : Layout) (token : Nat)
deriving DecidableEq

/-- The phase that a call leads to, if the call may be made. -/
def StoragePhase.after : StoragePhase → StorageCall → Option StoragePhase
  | .closed, .opened layout success => some (if success then .opened layout else .closed)
  | .closed, .closed => some .closed
  | .opened layout, .mapped asked memory =>
    if asked = layout then
      some (match memory with
        | some (token, _) => .mapped layout token
        | none => .opened layout)
    else none
  | .opened _, .closed => some .closed
  | .mapped layout token, .unmapped returned =>
    if returned = token then some (.opened layout) else none
  | _, _ => none

namespace RecordedStorage

variable {δ : Type}

/-- The phase that the calls on a device lead to, if each of them may be made where it is. -/
def phase? (storage : RecordedStorage δ) : Option StoragePhase :=
  storage.calls.foldlM StoragePhase.after .closed

/-- A further call leads on from the phase before it. -/
theorem phase?_record (storage : RecordedStorage δ) (device : δ) (call : StorageCall) :
    (storage.record device call).phase? = storage.phase?.bind (·.after call) := by
  simp only [phase?, record, List.foldlM_append, List.foldlM_cons, List.foldlM_nil]
  cases storage.calls.foldlM StoragePhase.after .closed with
  | none => rfl
  | some phase => exact bind_pure (phase.after call)

variable [FramebufferDevice δ] {storage after : RecordedStorage δ} {layout : Layout}

theorem phase?_openAt_ok (hphase : storage.phase? = some .closed)
    (hopen : FramebufferDevice.openAt storage layout = (.ok (), after)) :
    after.phase? = some (.opened layout) := by
  simp only [FramebufferDevice.openAt] at hopen
  split at hopen
  · obtain rfl := (Prod.mk.inj hopen).2
    rw [phase?_record, hphase]
    rfl
  · simp at hopen

/-- A closed device that does not open stays closed. -/
theorem phase?_openAt_error {failure : StorageFailure} (hphase : storage.phase? = some .closed)
    (hopen : FramebufferDevice.openAt storage layout = (.error failure, after)) :
    after.phase? = some .closed := by
  simp only [FramebufferDevice.openAt] at hopen
  split at hopen
  · simp at hopen
  · obtain rfl := (Prod.mk.inj hopen).2
    rw [phase?_record, hphase]
    rfl

theorem phase?_map_ok {mapping : Mapping} (hphase : storage.phase? = some (.opened layout))
    (hmap : FramebufferDevice.map storage layout = (.ok mapping, after)) :
    after.phase? = some (.mapped layout mapping.token) := by
  simp only [FramebufferDevice.map] at hmap
  split at hmap
  · obtain ⟨hmapping, rfl⟩ := Prod.mk.inj hmap
    obtain rfl := Except.ok.inj hmapping
    rw [phase?_record, hphase]
    simp [StoragePhase.after]
  · simp at hmap

/-- An open device that does not map stays open. -/
theorem phase?_map_error {failure : StorageFailure}
    (hphase : storage.phase? = some (.opened layout))
    (hmap : FramebufferDevice.map storage layout = (.error failure, after)) :
    after.phase? = some (.opened layout) := by
  simp only [FramebufferDevice.map] at hmap
  split at hmap
  · simp at hmap
  · obtain rfl := (Prod.mk.inj hmap).2
    rw [phase?_record, hphase]
    simp [StoragePhase.after]

/-- A mapped device that is given its mapping back is open. -/
theorem phase?_unmap {mapping : Mapping}
    (hphase : storage.phase? = some (.mapped layout mapping.token)) :
    (FramebufferDevice.unmap storage mapping).phase? = some (.opened layout) := by
  show (storage.record _ (.unmapped mapping.token)).phase? = _
  rw [phase?_record, hphase]
  simp [StoragePhase.after]

/-- A device that is not mapped may be closed. -/
theorem phase?_close
    (hphase : storage.phase? = some (.opened layout) ∨ storage.phase? = some .closed) :
    (FramebufferDevice.close storage).phase? = some .closed := by
  show (storage.record _ .closed).phase? = _
  rw [phase?_record]
  rcases hphase with hphase | hphase <;> rw [hphase] <;> rfl

end RecordedStorage

namespace Output

variable {δ : Type}

/-- Where the device of an output is, as far as the output tells. -/
def storagePhase (output : Output δ) : StoragePhase :=
  match output.framebuffer with
  | none => .opened output.layout
  | some framebuffer => .mapped output.layout framebuffer.token

/-- The output is in use, and its device is where it says. -/
structure Attached (output : Output (RecordedStorage δ)) : Prop where
  coherent : output.Coherent
  not_destroyed : output.state ≠ .destroyed
  phase_eq : output.device.phase? = some output.storagePhase

/-- The output is in use, and its device is where it says or is closed without a mapping. -/
structure Detachable (output : Output (RecordedStorage δ)) : Prop where
  not_destroyed : output.state ≠ .destroyed
  phase_eq : output.device.phase? = some output.storagePhase ∨
    output.framebuffer = none ∧ output.device.phase? = some .closed

theorem Attached.detachable {output : Output (RecordedStorage δ)} (hattached : output.Attached) :
    output.Detachable :=
  ⟨hattached.not_destroyed, .inl hattached.phase_eq⟩

/-- The device of an attached output that is not mapped is open at the output's layout. -/
theorem Attached.phase_opened {output : Output (RecordedStorage δ)} (hattached : output.Attached)
    (hstate : output.state ≠ .mapped) : output.device.phase? = some (.opened output.layout) := by
  rw [hattached.phase_eq, storagePhase, hattached.coherent.framebuffer_eq_none hstate]

theorem Attached.waiting {output : Output (RecordedStorage δ)} (hattached : output.Attached)
    (hstate : output.state ≠ .mapped) : output.Waiting :=
  waiting_of_state_ne hstate hattached.not_destroyed

/-- A descriptor of the same mode keeps an output attached. -/
theorem Attached.withDescriptor {output : Output (RecordedStorage δ)} (hattached : output.Attached)
    {fresh : ScreenDescriptor} (hsame : fresh.sameMode output.descriptor) :
    ({ output with descriptor := fresh } : Output (RecordedStorage δ)).Attached :=
  ⟨hattached.coherent.withDescriptor hsame, hattached.not_destroyed, hattached.phase_eq⟩

theorem attached_damageAll {output : Output (RecordedStorage δ)} (hattached : output.Attached) :
    output.damageAll.Attached := by
  have hcoherent := coherent_damageAll hattached.coherent
  unfold damageAll addDamage at hcoherent ⊢
  split at hcoherent
  · next hstate =>
    rw [if_pos hstate]
    exact ⟨hcoherent, hattached.not_destroyed, hattached.phase_eq⟩
  · next hstate => rwa [if_neg hstate]

theorem attached_dispatchTimer {output : Output (RecordedStorage δ)} (hattached : output.Attached)
    (now : Nat) (host : Host) : (output.dispatchTimer now host).2.1.Attached := by
  have hcoherent := coherent_dispatchTimer hattached.coherent now host
  unfold dispatchTimer at hcoherent ⊢
  split
  · exact hattached
  · next timer hpoll =>
    rw [hpoll] at hcoherent
    exact ⟨hcoherent, hattached.not_destroyed, hattached.phase_eq⟩

variable [FramebufferDevice δ]

/-! ### Creation and activation -/

/-- A created output is attached, if its device was closed. -/
theorem attached_create {name : String} {device : RecordedStorage δ} {source after : ScreenSource}
    {output : Output (RecordedStorage δ)} (hphase : device.phase? = some .closed)
    (hcreate : create name device source = (.ok output, after)) : output.Attached := by
  have hcoherent := coherent_create hcreate
  cases CreateOutcome.of_eq hcreate with
  | created hanswer hlayout hopen =>
    exact ⟨hcoherent, by simp, RecordedStorage.phase?_openAt_ok hphase hopen⟩

/-- A device stays closed if no output could be created over it. -/
theorem phase?_create_error {name : String} {device left : RecordedStorage δ}
    {source after : ScreenSource} {error : OutputError} (hphase : device.phase? = some .closed)
    (hcreate : create name device source = (.error (error, left), after)) :
    left.phase? = some .closed := by
  cases CreateOutcome.of_eq hcreate with
  | queryFailed hanswer => exact hphase
  | invalid hanswer hlayout => exact hphase
  | openFailed hanswer hlayout hopen => exact RecordedStorage.phase?_openAt_error hphase hopen

/-- Mapping keeps an output attached, whatever it comes to. -/
theorem MapOutcome.attached {output : Output (RecordedStorage δ)}
    {outcome : Except OutputError Unit × Output (RecordedStorage δ)}
    (houtcome : MapOutcome output outcome) (hattached : output.Attached)
    (hwaiting : output.Waiting) : outcome.2.Attached := by
  have hcoherent := houtcome.coherent hattached.coherent hwaiting
  have hphase := hattached.phase_opened hwaiting.state_ne_mapped
  have hnone := hattached.coherent.framebuffer_eq_none hwaiting.state_ne_mapped
  cases houtcome with
  | failed hmap =>
    refine ⟨hcoherent, hattached.not_destroyed, ?_⟩
    simpa only [storagePhase, hnone] using RecordedStorage.phase?_map_error hphase hmap
  | rejected hmap hsize =>
    refine ⟨hcoherent, hattached.not_destroyed, ?_⟩
    have hmapped := RecordedStorage.phase?_map_ok hphase hmap
    simpa only [storagePhase, hnone] using RecordedStorage.phase?_unmap hmapped
  | mapped hmap hsize =>
    exact ⟨hcoherent, by simp, RecordedStorage.phase?_map_ok hphase hmap⟩

theorem attached_enable {output : Output (RecordedStorage δ)} (hattached : output.Attached) :
    output.enable.2.Attached := by
  by_cases hstate : output.state = .mapped
  · rwa [enable_of_mapped hstate]
  · have hwaiting := hattached.waiting hstate
    exact hwaiting.mapOutcome.attached hattached hwaiting

theorem Attached.of_enable {output left : Output (RecordedStorage δ)}
    {result : Except OutputError Unit} (hattached : output.Attached)
    (henable : output.enable = (result, left)) : left.Attached := by
  simpa only [henable] using attached_enable hattached

/-- The device of an attached output that is not mapped is closed after it has been closed. -/
theorem Attached.phase_close {output : Output (RecordedStorage δ)} (hattached : output.Attached)
    (hstate : output.state ≠ .mapped) :
    (FramebufferDevice.close output.device).phase? = some .closed :=
  RecordedStorage.phase?_close (.inl (hattached.phase_opened hstate))

/-- An output opened anew is attached. -/
theorem ReopenOutcome.attached {output reopened : Output (RecordedStorage δ)}
    {descriptor : ScreenDescriptor} {layout : Layout}
    (houtcome : ReopenOutcome output descriptor layout (.ok (), reopened))
    (hattached : output.Attached) (hwaiting : output.Waiting)
    (hlayout : descriptor.layout = .ok layout) : reopened.Attached := by
  have hcoherent := houtcome.coherent hattached.coherent hwaiting hlayout
  have hnone := hattached.coherent.framebuffer_eq_none hwaiting.state_ne_mapped
  cases houtcome with
  | reopened hopen =>
    refine ⟨hcoherent, by simp, ?_⟩
    simpa only [storagePhase, hnone] using RecordedStorage.phase?_openAt_ok
      (hattached.phase_close hwaiting.state_ne_mapped) hopen

/-- An output that could not be opened anew can be detached. -/
theorem ReopenOutcome.detachable {output left : Output (RecordedStorage δ)}
    {descriptor : ScreenDescriptor} {layout : Layout} {error : OutputError}
    (houtcome : ReopenOutcome output descriptor layout (.error error, left))
    (hattached : output.Attached) (hwaiting : output.Waiting) : left.Detachable := by
  have hnone := hattached.coherent.framebuffer_eq_none hwaiting.state_ne_mapped
  cases houtcome with
  | failed hopen =>
    exact ⟨by simp, .inr ⟨hnone, RecordedStorage.phase?_openAt_error
      (hattached.phase_close hwaiting.state_ne_mapped) hopen⟩⟩

/-- An output that came back is attached. -/
theorem AdoptOutcome.attached {output back : Output (RecordedStorage δ)} {fresh : ScreenDescriptor}
    {result : Reenabled} (houtcome : AdoptOutcome output fresh (.ok result, back))
    (hattached : output.Attached) (hwaiting : output.Waiting) : back.Attached := by
  cases houtcome with
  | remapped hsame henable => exact (hattached.withDescriptor hsame).of_enable henable
  | recreated hchanged hlayout hreopen henable =>
    have hreopened := (ReopenOutcome.of_eq hreopen).attached hattached hwaiting hlayout
    exact hreopened.of_enable henable

/-- An output that did not come back can be detached. -/
theorem AdoptOutcome.detachable {output left : Output (RecordedStorage δ)}
    {fresh : ScreenDescriptor} {error : OutputError}
    (houtcome : AdoptOutcome output fresh (.error error, left)) (hattached : output.Attached)
    (hwaiting : output.Waiting) : left.Detachable := by
  cases houtcome with
  | remapFailed hsame henable =>
    exact ((hattached.withDescriptor hsame).of_enable henable).detachable
  | invalid hchanged hlayout => exact hattached.detachable
  | reopenFailed hchanged hlayout hreopen =>
    exact (ReopenOutcome.of_eq hreopen).detachable hattached hwaiting
  | recreateFailed hchanged hlayout hreopen henable =>
    have hreopened := (ReopenOutcome.of_eq hreopen).attached hattached hwaiting hlayout
    exact (hreopened.of_enable henable).detachable

theorem attached_reenable {output back : Output (RecordedStorage δ)} {source after : ScreenSource}
    {result : Reenabled} (hattached : output.Attached)
    (hreenable : output.reenable source = (.ok result, back, after)) : back.Attached := by
  cases ReenableOutcome.of_eq hreenable with
  | alreadyMapped hstate => exact hattached
  | answered hwaiting hanswer hadopt => exact hadopt.attached hattached hwaiting

theorem detachable_reenable {output left : Output (RecordedStorage δ)}
    {source after : ScreenSource} {error : OutputError} (hattached : output.Attached)
    (hreenable : output.reenable source = (.error error, left, after)) : left.Detachable := by
  cases ReenableOutcome.of_eq hreenable with
  | destroyed hstate => exact hattached.detachable
  | queryFailed hwaiting hanswer => exact hattached.detachable
  | answered hwaiting hanswer hadopt => exact hadopt.detachable hattached hwaiting

/-! ### Use and teardown -/

theorem RepaintOutcome.attached {output : Output (RecordedStorage δ)} {damage : Damage}
    {renderer : Renderer} {now : Nat}
    {outcome : Except OutputError Repainted × Output (RecordedStorage δ) × Renderer}
    (houtcome : RepaintOutcome output damage renderer now outcome) (hattached : output.Attached) :
    outcome.2.1.Attached := by
  have hcoherent := houtcome.coherent hattached.coherent
  have hphase := hattached.phase_eq
  cases houtcome with
  | dropped hnone => exact hattached
  | painted hframebuffer hpaint =>
    rw [storagePhase, hframebuffer] at hphase
    exact ⟨hcoherent, hattached.not_destroyed, hphase⟩
  | failed hframebuffer hpaint =>
    rw [storagePhase, hframebuffer] at hphase
    exact ⟨hcoherent, hattached.not_destroyed, hphase⟩

theorem attached_repaintPending {output : Output (RecordedStorage δ)}
    (hattached : output.Attached) (renderer : Renderer) (now : Nat) :
    (output.repaintPending renderer now).2.1.Attached := by
  have htaken : output.takeDamage.2.Attached :=
    ⟨coherent_takeDamage hattached.coherent, hattached.not_destroyed, hattached.phase_eq⟩
  have houtcome : RepaintOutcome output.takeDamage.2 output.pending renderer now
      (output.repaintPending renderer now) := .of_eq rfl
  exact houtcome.attached htaken

/-- Handing the mapping back leaves the device open, or closed if it was so. -/
theorem Detachable.phase_release {output : Output (RecordedStorage δ)}
    (hdetachable : output.Detachable) :
    output.release.device.phase? = some (.opened output.layout) ∨
      output.release.device.phase? = some .closed := by
  unfold release
  rcases hdetachable.phase_eq with hphase | ⟨hnone, hphase⟩
  · rw [storagePhase] at hphase
    split
    · next hnone =>
      rw [hnone] at hphase
      exact .inl hphase
    · next framebuffer hframebuffer =>
      rw [hframebuffer] at hphase
      exact .inl (RecordedStorage.phase?_unmap hphase)
  · rw [hnone]
    exact .inr hphase

theorem attached_disable {output : Output (RecordedStorage δ)} (hattached : output.Attached) :
    output.disable.Attached := by
  have hcoherent := coherent_disable hattached.coherent
  have hphase := hattached.phase_eq
  unfold disable at hcoherent ⊢
  split at hcoherent
  · next hstate =>
    obtain ⟨framebuffer, hframebuffer, -⟩ := hattached.coherent.exists_framebuffer hstate
    rw [if_pos hstate]
    refine ⟨hcoherent, by simp, ?_⟩
    rw [storagePhase, hframebuffer] at hphase
    have hunmapped : (FramebufferDevice.unmap output.device framebuffer.mapping).phase? =
        some (.opened output.layout) := RecordedStorage.phase?_unmap hphase
    simpa only [release, hframebuffer, storagePhase] using hunmapped
  · next hstate => rwa [if_neg hstate]

/-- A destroyed output leaves its device closed. -/
theorem phase?_destroy {output : Output (RecordedStorage δ)} (hdetachable : output.Detachable) :
    output.destroy.device.phase? = some .closed := by
  unfold destroy
  rw [if_neg hdetachable.not_destroyed]
  exact RecordedStorage.phase?_close hdetachable.phase_release

end Output

end HeadlessDisplay
