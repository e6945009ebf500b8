import HeadlessDisplay.Output.HeapStorage
import HeadlessDisplay.Proofs.Backend.Activation
import HeadlessDisplay.Proofs.Output.FailedAttempts
import HeadlessDisplay.Proofs.Output.StorageLife

/-!
# Outputs over devices that never fail

A device never fails if every call succeeds that is made where it may be made: a closed device
opens at any layout, an open one maps memory of the right length, and what is mapped can be written,
handed back and closed. `Dependable` asks for this and for no more; a dependable device may fail
when it is called out of turn, and nothing is said of the octets or of the tokens of its mappings.

An output never calls its device out of turn, so over a dependable device nothing is left that could
fail but the source and the layout of what it answers. `Served` is an output whose device is where
the output needs it to be. A served output that waits comes back in every mode that has a layout,
by mapping its storage as it is or by closing it and opening it anew, and is served again
(`Served.reenable`).
-/

set_option autoImplicit false
set_option relaxedAutoImplicit false

namespace HeadlessDisplay

/-! ### Devices that never fail -/

/-- Devices on which every call succeeds that is made where it may be made. -/
structure Dependable (δ : Type) [FramebufferDevice δ] where
  /-- The device is in a phase of its life cycle. -/
  stands : StoragePhase → δ → Prop
  opens : ∀ {device}, stands .closed device → ∀ layout, ∃ after,
    FramebufferDevice.openAt device layout = (.ok (), after) ∧ stands (.opened layout) after
  maps : ∀ {device layout}, stands (.opened layout) device → ∃ mapping after,
    FramebufferDevice.map device layout = (.ok mapping, after) ∧
      mapping.memory.size = layout.length ∧ stands (.mapped layout mapping.token) after
  writes : ∀ {device layout token}, stands (.mapped layout token) device →
    ∀ memory : Array UInt8, memory.size = layout.length →
      stands (.mapped layout token) (FramebufferDevice.writeThrough device memory)
  unmaps : ∀ {device layout mapping}, stands (.mapped layout mapping.token) device →
    mapping.memory.size = layout.length →
      stands (.opened layout) (FramebufferDevice.unmap device mapping)
  closes : ∀ {device layout}, stands (.opened layout) device →
    stands .closed (FramebufferDevice.close device)

/-- Putting the calls on record does not make them fail. -/
def Dependable.recorded {δ : Type} [FramebufferDevice δ] (dependable : Dependable δ) :
    Dependable (RecordedStorage δ) where
  stands phase storage := dependable.stands phase storage.device
  opens := by
    intro storage hclosed layout
    obtain ⟨after, hopen, hstands⟩ := dependable.opens hclosed layout
    exact ⟨storage.record after (.opened layout true),
      by simp only [FramebufferDevice.openAt, hopen], hstands⟩
  maps := by
    intro storage layout hopened
    obtain ⟨mapping, after, hmap, hsize, hstands⟩ := dependable.maps hopened
    exact ⟨mapping, storage.record after (.mapped layout (some (mapping.token, mapping.memory.size))),
      by simp only [FramebufferDevice.map, hmap], hsize, hstands⟩
  writes hmapped := dependable.writes hmapped
  unmaps hmapped := dependable.unmaps hmapped
  closes hopened := dependable.closes hopened

/-- Storage on the heap never fails as long as it is not made to. -/
def HeapStorage.dependable : Dependable HeapStorage where
  stands _ storage := ∃ maps, storage = ⟨false, false, false, maps⟩
  opens := by
    rintro _ ⟨maps, rfl⟩ layout
    exact ⟨_, rfl, maps, rfl⟩
  maps := by
    rintro _ layout ⟨maps, rfl⟩
    exact ⟨_, _, rfl, Array.size_replicate, maps + 1, rfl⟩
  writes hworks _ _ := hworks
  unmaps hworks _ := hworks
  closes hworks := hworks

theorem HeapStorage.stands_working (phase : StoragePhase) :
    dependable.stands phase HeapStorage.working :=
  ⟨0, rfl⟩

namespace Output

variable {δ : Type} [FramebufferDevice δ]

/-! ### Coming back without a failure -/

/-- The output with memory of its layout that its device has mapped. -/
def holding (output : Output δ) (device : δ) (mapping : Mapping)
    (hsize : mapping.memory.size = output.layout.length) : Output δ :=
  { output with device, state := .mapped,
                framebuffer := some ⟨mapping.token, ⟨output.layout, mapping.memory, hsize⟩⟩ }

/-- How an output comes back in a mode with a layout if its device does not fail. -/
inductive Restored (output : Output δ) (fresh : ScreenDescriptor) : Output δ → Prop
  /-- The mode is unchanged and the storage is mapped as it is. -/
  | remapped {device : δ} {mapping : Mapping} (hsame : fresh.sameMode output.descriptor)
      (hmap : FramebufferDevice.map output.device output.layout = (.ok mapping, device))
      (hsize : mapping.memory.size = output.layout.length) :
      Restored output fresh
        (({ output with descriptor := fresh } : Output δ).holding device mapping hsize)
  /-- The mode changed and the storage is closed, opened at the new layout and mapped. -/
  | recreated {layout : Layout} {opened device : δ} {mapping : Mapping}
      (hchanged : ¬fresh.sameMode output.descriptor) (hlayout : fresh.layout = .ok layout)
      (hopen : FramebufferDevice.openAt (FramebufferDevice.close output.device) layout =
        (.ok (), opened))
      (hmap : FramebufferDevice.map opened layout = (.ok mapping, device))
      (hsize : mapping.memory.size = layout.length) :
      Restored output fresh ((output.reopened fresh layout opened).holding device mapping hsize)

theorem Restored.descriptor_eq {output back : Output δ} {fresh : ScreenDescriptor}
    (hrestored : output.Restored fresh back) : back.descriptor = fresh := by
  cases hrestored <;> rfl

/-! ### Outputs that their devices serve -/

/-- The output follows the session, and its device is where the output needs it to be. -/
structure Served (dependable : Dependable δ) (active : Bool) (output : Output δ) : Prop where
  follows : output.Follows active
  stands : dependable.stands output.storagePhase output.device

variable {dependable : Dependable δ} {output : Output δ} {active : Bool}

/-- An output created over a closed device is served. -/
theorem served_create {name : String} {device : δ} {source after : ScreenSource}
    (hclosed : dependable.stands .closed device)
    (hcreate : create name device source = (.ok output, after)) :
    output.Served dependable false := by
  have hfollows := follows_create hcreate
  cases CreateOutcome.of_eq hcreate with
  | @created descriptor layout opened hanswer hlayout hopen =>
    obtain ⟨device, hopened, hstands⟩ := dependable.opens hclosed layout
    obtain rfl := (Prod.mk.inj (hopened.symm.trans hopen)).2
    exact ⟨hfollows, hstands⟩

namespace Served

/-- The device of a served output that waits is open at its layout. -/
theorem opened (hserved : output.Served dependable false) :
    dependable.stands (.opened output.layout) output.device := by
  have hnone :=
    hserved.follows.coherent.framebuffer_eq_none hserved.follows.waiting.state_ne_mapped
  have hstands := hserved.stands
  rwa [storagePhase, hnone] at hstands

/-- A descriptor of the same mode keeps an output served. -/
theorem withDescriptor (hserved : output.Served dependable active) {fresh : ScreenDescriptor}
    (hsame : fresh.sameMode output.descriptor) :
    ({ output with descriptor := fresh } : Output δ).Served dependable active :=
  ⟨hserved.follows.of_state_eq (hserved.follows.coherent.withDescriptor hsame) rfl, hserved.stands⟩

/-- A served output that waits is enabled without a failure. -/
theorem enable (hserved : output.Served dependable false) :
    ∃ mapping device, ∃ hsize : mapping.memory.size = output.layout.length,
      FramebufferDevice.map output.device output.layout = (.ok mapping, device) ∧
        output.enable = (.ok (), output.holding device mapping hsize) ∧
        (output.holding device mapping hsize).Served dependable true := by
  have hwaiting := hserved.follows.waiting
  obtain ⟨mapping, device, hmap, hsize, hstands⟩ := dependable.maps hserved.opened
  have hcoherent := (MapOutcome.mapped hmap hsize).coherent hserved.follows.coherent hwaiting
  refine ⟨mapping, device, hsize, hmap, ?_, follows_of_mapped hcoherent rfl, hstands⟩
  simp only [enable_of_waiting hwaiting, mapSurface, hmap, Surface.ofMemory, dif_pos hsize, holding]

/-- A served output that waits is closed and opened anew without a failure, and waits. -/
theorem reopen (hserved : output.Served dependable false) {fresh : ScreenDescriptor}
    {layout : Layout} (hlayout : fresh.layout = .ok layout) :
    ∃ opened, FramebufferDevice.openAt (FramebufferDevice.close output.device) layout =
        (.ok (), opened) ∧
      (output.reopened fresh layout opened).Served dependable false := by
  have hwaiting := hserved.follows.waiting
  obtain ⟨opened, hopen, hstands⟩ := dependable.opens (dependable.closes hserved.opened) layout
  have hcoherent : (output.reopened fresh layout opened).Coherent :=
    (ReopenOutcome.reopened hopen).coherent hserved.follows.coherent hwaiting hlayout
  have hnone : (output.reopened fresh layout opened).framebuffer = none :=
    hcoherent.framebuffer_eq_none (by simp [reopened])
  refine ⟨opened, hopen, ⟨hcoherent, by simp [reopened], by simp [reopened]⟩, ?_⟩
  rwa [storagePhase, hnone]

/-- A served output that waits comes back in every mode with a layout, and is served again. -/
theorem reenable (hserved : output.Served dependable false) {source : ScreenSource}
    {fresh : ScreenDescriptor} {layout : Layout} (hanswer : source.ask.1 = .ok fresh)
    (hlayout : fresh.layout = .ok layout) :
    ∃ result back, output.reenable source = (.ok result, back, source.ask.2) ∧
      output.Restored fresh back ∧ back.Served dependable true := by
  simp only [reenable_of_waiting hserved.follows.waiting, hanswer]
  by_cases hsame : fresh.sameMode output.descriptor
  · obtain ⟨mapping, device, hsize, hmap, henable, hback⟩ := (hserved.withDescriptor hsame).enable
    rw [adopt_of_sameMode hsame, henable]
    exact ⟨.remapped, _, rfl, .remapped hsame hmap hsize, hback⟩
  · obtain ⟨opened, hopen, hreopened⟩ := hserved.reopen hlayout
    obtain ⟨mapping, device, hsize, hmap, henable, hback⟩ := hreopened.enable
    rw [adopt_of_reopen hsame hlayout (reopen_of_openAt hopen), henable]
    exact ⟨.recreated, _, rfl, .recreated hsame hlayout hopen hmap hsize, hback⟩

theorem damageAll (hserved : output.Served dependable active) :
    output.damageAll.Served dependable active := by
  refine ⟨followingLaw.damaged hserved.follows, ?_⟩
  have hstands := hserved.stands
  unfold Output.damageAll addDamage
  split <;> exact hstands

theorem dispatchTimer (hserved : output.Served dependable active) (now : Nat) (host : Host) :
    (output.dispatchTimer now host).2.1.Served dependable active := by
  refine ⟨followingLaw.dispatched hserved.follows now host, ?_⟩
  have hstands := hserved.stands
  unfold Output.dispatchTimer
  split <;> exact hstands

/-- Disabling hands the mapping back, and the device is open then. -/
theorem disable (hserved : output.Served dependable active) :
    output.disable.Served dependable false := by
  refine ⟨hserved.follows.disable, ?_⟩
  have hstands := hserved.stands
  unfold Output.disable
  split
  · next hstate =>
    obtain ⟨framebuffer, hframebuffer, hlayout⟩ :=
      hserved.follows.coherent.exists_framebuffer hstate
    rw [storagePhase, hframebuffer] at hstands
    have hsize : framebuffer.mapping.memory.size = output.layout.length := by
      rw [← hlayout]
      exact framebuffer.surface.size_eq
    have hback : dependable.stands (.opened output.layout)
        (FramebufferDevice.unmap output.device framebuffer.mapping) :=
      dependable.unmaps hstands hsize
    simpa only [release, hframebuffer, storagePhase] using hback
  · exact hstands

end Served

/-- Repainting keeps an output served, whatever it comes to: what is painted has the length of the
layout. -/
theorem RepaintOutcome.served {damage : Damage} {renderer : Renderer} {now : Nat}
    {outcome : Except OutputError Repainted × Output δ × Renderer}
    (houtcome : RepaintOutcome output damage renderer now outcome)
    (hserved : output.Served dependable active)
    (hfollows : outcome.2.1.Follows active) : outcome.2.1.Served dependable active := by
  refine ⟨hfollows, ?_⟩
  have hstands := hserved.stands
  have hwritten {framebuffer : Framebuffer} (hframebuffer : output.framebuffer = some framebuffer)
      {surface : Surface} (hpainted : surface.layout = framebuffer.surface.layout) :
      dependable.stands (.mapped output.layout framebuffer.token)
        (FramebufferDevice.writeThrough output.device surface.memory) := by
    rw [storagePhase, hframebuffer] at hstands
    apply dependable.writes hstands
    rw [surface.size_eq, hpainted,
      hserved.follows.coherent.surface_layout framebuffer hframebuffer]
  cases houtcome with
  | dropped hnone => exact hstands
  | painted hframebuffer hpaint => exact hwritten hframebuffer (layout_of_paint hpaint)
  | failed hframebuffer hpaint => exact hwritten hframebuffer (layout_of_paint hpaint)

theorem Served.repaintPending (hserved : output.Served dependable active)
    (hmapped : output.state = .mapped) (renderer : Renderer) (now : Nat) :
    (output.repaintPending renderer now).2.1.Served dependable active := by
  have htaken : output.takeDamage.2.Served dependable active :=
    ⟨hserved.follows.of_state_eq (coherent_takeDamage hserved.follows.coherent) rfl, hserved.stands⟩
  have houtcome : RepaintOutcome output.takeDamage.2 output.pending renderer now
      (output.repaintPending renderer now) := .of_eq rfl
  exact houtcome.served htaken (followingLaw.repainted hserved.follows hmapped trivial now)

end Output

end HeadlessDisplay
