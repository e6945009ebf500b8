import HeadlessDisplay.Output.HeapStorage
import HeadlessDisplay.Proofs.Output.Custody

/-!
# When the storage of an output is open

Whether a device's storage is open is settled by the last call that opened it with success or closed
it. A change of mode closes the storage before it is opened at the new layout, and opening may fail.
The output then counts as unopened, in its old mode, over storage that is closed.

`Standing` says what is so in general: the storage is open, and at the output's layout, exactly if
the last attempt to open it succeeded; otherwise it is closed. `storage_open_iff_last_opening`
states this of every moment in which an output is not destroyed and of every call that maps.

That the storage is open whenever it is mapped does not hold. `mapped_over_closed_storage` has an
output come back to its old mode after it could not be opened in another: nothing opens the storage
again, and if the device maps all the same, as storage on the heap does, the output counts as mapped.
-/

set_option autoImplicit false
set_option relaxedAutoImplicit false

namespace HeadlessDisplay

/-! ### Opening and closing in a record of calls -/

/-- Whether a call opens the storage with success or closes it. -/
def StorageCall.settles : StorageCall → Bool
  | .opened _ success => success
  | .closed => true
  | _ => false

/-- Whether a call opens the storage with success, if it is an attempt to do so. -/
def StorageCall.opening? : StorageCall → Option Bool
  | .opened _ success => some success
  | _ => none

/-- The last call that opened the storage with success or closed it. -/
def lastSettled (calls : List StorageCall) : Option StorageCall :=
  (calls.filter StorageCall.settles).getLast?

/-- Whether the last attempt to open the storage succeeded, if there was one. -/
def lastOpening (calls : List StorageCall) : Option Bool :=
  (calls.filterMap StorageCall.opening?).getLast?

/-- The storage is open at a layout exactly if the last attempt to open it succeeded, and closed
otherwise. -/
structure Standing (calls : List StorageCall) (layout : Layout) : Prop where
  open_iff : lastSettled calls = some (.opened layout true) ↔ lastOpening calls = some true
  closed_of : lastOpening calls ≠ some true → lastSettled calls = some .closed

/-- Memory is mapped at a layout only from storage that stands at it. -/
def MapsStanding (early : List StorageCall) : StorageCall → Prop
  | .mapped layout _ => Standing early layout
  | _ => True

section

variable {calls : List StorageCall} {layout other : Layout}

/-- A call that neither opens nor closes changes nothing. -/
theorem Standing.append {more : List StorageCall} (hstanding : Standing calls layout)
    (hsettled : more.filter StorageCall.settles = [])
    (hopening : more.filterMap StorageCall.opening? = []) : Standing (calls ++ more) layout := by
  obtain ⟨hopen, hclosed⟩ := hstanding
  have hsame : lastSettled (calls ++ more) = lastSettled calls := by
    rw [lastSettled, List.filter_append, hsettled, List.append_nil, lastSettled]
  have hlast : lastOpening (calls ++ more) = lastOpening calls := by
    rw [lastOpening, List.filterMap_append, hopening, List.append_nil, lastOpening]
  exact ⟨by rw [hsame, hlast, hopen], by rwa [hsame, hlast]⟩

theorem standing_append_opened : Standing (calls ++ [.opened layout true]) layout := by
  constructor <;> simp [lastSettled, lastOpening, StorageCall.settles, StorageCall.opening?]

/-- Storage that was closed and did not open is closed. -/
theorem standing_append_closed_opened :
    Standing (calls ++ [.closed, .opened other false]) layout := by
  have hclosed : lastSettled (calls ++ [.closed, .opened other false]) = some .closed := by
    simp [lastSettled, StorageCall.settles]
  have hfailed : lastOpening (calls ++ [.closed, .opened other false]) = some false := by
    simp [lastOpening, List.filterMap_cons, StorageCall.opening?]
  constructor <;> simp [hclosed, hfailed]

end

/-! ### The storage between two operations -/

namespace Custody

/-- The storage stands at the layout of the output whenever it is mapped, and as long as the output
is not destroyed. -/
structure Founded (custody : Custody) : Prop where
  maps : InTurn MapsStanding custody.calls
  standing : custody.state ≠ .destroyed → Standing custody.calls custody.layout

theorem founded_created (layout : Layout) : (created layout).Founded where
  maps := inTurn_singleton.mpr trivial
  standing := by
    intro _
    have hopened : Standing ([] ++ [.opened layout true]) layout := standing_append_opened
    exact hopened

variable {custody after : Custody}

/-- Handing the mapping back leaves the storage as it is. -/
theorem Founded.handBack (hfounded : custody.Founded) (hlive : custody.state ≠ .destroyed) :
    InTurn MapsStanding (custody.calls ++ custody.handBack) ∧
      Standing (custody.calls ++ custody.handBack) custody.layout := by
  constructor
  · exact inTurn_append_handBack.mpr ⟨hfounded.maps, fun _ _ ↦ trivial⟩
  · apply (hfounded.standing hlive).append
    · unfold Custody.handBack
      cases custody.token <;> rfl
    · unfold Custody.handBack
      cases custody.token <;> rfl

/-- Every act of an output keeps its storage founded. -/
theorem Founded.act (hfounded : custody.Founded) (hact : custody.Act after) : after.Founded := by
  have hmaps := hfounded.maps
  cases hact with
  | mapFailed hwaiting =>
    have hstanding := hfounded.standing hwaiting.state_ne_destroyed
    exact ⟨inTurn_append_singleton.mpr ⟨hmaps, hstanding⟩, fun _ ↦ hstanding.append rfl rfl⟩
  | mapRejected token size hwaiting =>
    have hstanding := hfounded.standing hwaiting.state_ne_destroyed
    exact ⟨inTurn_append_pair.mpr ⟨hmaps, hstanding, trivial⟩, fun _ ↦ hstanding.append rfl rfl⟩
  | mapped token size hwaiting =>
    have hstanding := hfounded.standing hwaiting.state_ne_destroyed
    exact ⟨inTurn_append_singleton.mpr ⟨hmaps, hstanding⟩, fun _ ↦ hstanding.append rfl rfl⟩
  | reopenFailed layout hwaiting =>
    -- The storage is lost here: the output keeps its layout and counts as unopened.
    exact ⟨inTurn_append_pair.mpr ⟨hmaps, trivial, trivial⟩, fun _ ↦ standing_append_closed_opened⟩
  | reopened layout hwaiting =>
    refine ⟨inTurn_append_pair.mpr ⟨hmaps, trivial, trivial⟩, ?_⟩
    intro _
    rw [List.append_cons]
    exact standing_append_opened
  | disabled hmapped =>
    obtain ⟨hback, hstanding⟩ := hfounded.handBack (by rw [hmapped]; decide)
    exact ⟨hback, fun _ ↦ hstanding⟩
  | destroyed hlive =>
    obtain ⟨hback, -⟩ := hfounded.handBack hlive
    refine ⟨inTurn_append_singleton.mpr ⟨hback, trivial⟩, ?_⟩
    intro hdestroyed
    exact absurd rfl hdestroyed

end Custody

variable {δ : Type} [FramebufferDevice δ]

/-- At every moment in the life of an output that is not destroyed, the last call that opened its
storage or closed it was an opening at its layout if the last attempt to open the storage
succeeded, and a closing otherwise. The same holds whenever memory is mapped, of the layout at which
it is mapped. -/
theorem storage_open_iff_last_opening {name : String} {number : Nat} {device : δ}
    {source after : ScreenSource} {output : Output (RecordedStorage δ)}
    (hcreate : Output.create name (.fresh number device) source = (.ok output, after))
    (renderer : Renderer) (host : Host) (steps : List OutputStep) :
    let now := ((Solo.mk output after renderer host).run steps).output
    let calls := now.device.calls
    (now.state ≠ .destroyed →
      (lastSettled calls = some (.opened now.layout true) ↔ lastOpening calls = some true) ∧
      (lastOpening calls ≠ some true → lastSettled calls = some .closed)) ∧
    ∀ early layout memory, early ++ [.mapped layout memory] <+: calls →
      (lastSettled early = some (.opened layout true) ↔ lastOpening early = some true) ∧
      (lastOpening early ≠ some true → lastSettled early = some .closed) := by
  intro now calls
  have hfounded : now.custody.Founded :=
    Solo.custody_invariant Custody.founded_created Custody.Founded.act hcreate renderer host steps
  constructor
  · intro hlive
    obtain ⟨hopen, hclosed⟩ := hfounded.standing hlive
    exact ⟨hopen, hclosed⟩
  · intro early layout memory hearly
    have hmapped : MapsStanding early (.mapped layout memory) := hfounded.maps early _ hearly
    obtain ⟨hopen, hclosed⟩ := hmapped
    exact ⟨hopen, hclosed⟩

/-- After a change of mode that went well, the storage is open at the new layout. -/
theorem storage_open_after_mode_change :
    let narrow := ScreenDescriptor.withSize 2 1
    let wide := ScreenDescriptor.withSize 4 1
    let source : ScreenSource := ⟨fun asked ↦ .ok (if asked = 0 then narrow else wide), 0⟩
    let device := RecordedStorage.fresh 0 HeapStorage.working
    let renderer := Renderer.solid Renderer.defaultColor fun _ ↦ none
    let steps := [.enable, .disable, .reenable]
    ∃ output after, Output.create "main" device source = (.ok output, after) ∧
      let now := ((Solo.mk output after renderer (.atTime 0)).run steps).output
      now.state = .mapped ∧ now.layout.width = 4 ∧
        lastSettled now.device.calls = some (.opened now.layout true) := by
  intro narrow wide source device renderer steps
  have hcreate : Output.create "main" device source = (.ok _, _) := rfl
  refine ⟨_, _, hcreate, ?_⟩
  intro now
  have hstate : now.state = .mapped := by decide +kernel
  have hlive : now.state ≠ .destroyed := by rw [hstate]; decide
  have hwidth : now.layout.width = 4 := by decide +kernel
  have hopening : lastOpening now.device.calls = some true := by decide +kernel
  simp only [now] at hstate hlive hwidth hopening ⊢
  obtain ⟨hstanding, -⟩ := storage_open_iff_last_opening hcreate renderer (.atTime 0) steps
  exact ⟨hstate, hwidth, (hstanding hlive).1.mpr hopening⟩

/-! ### Storage that is mapped although it is closed -/

/-- Storage on the heap that can be opened only once. -/
structure SingleUseStorage where
  heap : HeapStorage

instance : FramebufferDevice SingleUseStorage where
  openAt storage layout :=
    let (result, heap) := FramebufferDevice.openAt storage.heap layout
    (result, ⟨{ heap with failsToOpen := true }⟩)
  map storage layout :=
    let (result, heap) := FramebufferDevice.map storage.heap layout
    (result, ⟨heap⟩)
  unmap storage mapping := ⟨FramebufferDevice.unmap storage.heap mapping⟩
  close storage := ⟨FramebufferDevice.close storage.heap⟩
  writeThrough storage memory := ⟨FramebufferDevice.writeThrough storage.heap memory⟩

/-- An output that could not be opened in another mode counts as unopened over closed storage. Back
in its old mode it is mapped from storage that has not been opened again. -/
theorem mapped_over_closed_storage :
    let narrow := ScreenDescriptor.withSize 2 1
    let wide := ScreenDescriptor.withSize 4 1
    let source : ScreenSource := ⟨fun asked ↦ .ok (if asked = 1 then wide else narrow), 0⟩
    let device := RecordedStorage.fresh 0 (SingleUseStorage.mk .working)
    let renderer := Renderer.solid Renderer.defaultColor fun _ ↦ none
    ∃ output after, Output.create "main" device source = (.ok output, after) ∧
      let start := Solo.mk output after renderer (.atTime 0)
      let failed := (start.run [.reenable]).output
      let back := (start.run [.reenable, .reenable]).output
      failed.state = .unopened ∧ lastSettled failed.device.calls = some .closed ∧
        back.state = .mapped ∧ lastSettled back.device.calls = some .closed ∧
        back.device.calls = failed.device.calls ++ [.mapped back.layout (some (0, 8))] := by
  intro narrow wide source device renderer
  have hcreate : Output.create "main" device source = (.ok _, _) := rfl
  refine ⟨_, _, hcreate, ?_⟩
  intro start failed back
  have hfailed : failed.state = .unopened := by decide +kernel
  have hclosed : lastSettled failed.device.calls = some .closed := by decide +kernel
  have hback : back.state = .mapped := by decide +kernel
  have hstill : lastSettled back.device.calls = some .closed := by decide +kernel
  have hmapped : back.device.calls =
      failed.device.calls ++ [.mapped back.layout (some (0, 8))] := by decide +kernel
  exact ⟨hfailed, hclosed, hback, hstill, hmapped⟩

end HeadlessDisplay
