import HeadlessDisplay.Output.FileStorage
import HeadlessDisplay.Proofs.Backend.StorageLife
import HeadlessDisplay.Proofs.FilePaths
import HeadlessDisplay.Proofs.Output.CoherentLife
import HeadlessDisplay.Proofs.Output.Mappings

/-!
# What other programs see of an output

Storage in a file shows the surface of an output to programs that read the file. `FileState` is what
such a program can learn of the file, and whether the storage has it open. `Output.Mirrors` says
that an output and its file agree: while the storage is open the file is as long as the layout asks
for and has the permission bits asked for, and while the output is mapped the surface has the
contents of the file. Every operation keeps them in agreement (`Solo.fileStep_step`). Taking an
output into use and out of it leaves the file as it is, because what is written back is what is
there already; a repaint writes the surface; coming back in another mode clears the file
(`ReenableFile`). `file_mirrors_output` says what follows for every moment in the life of an output.

Only one program writes to the file, and of the calls on the file system only those can fail that
fail for reasons in the model: a path that does not lead to a regular file, and a length that no
file can have. Storage that could not be opened anew stays closed, and what is said of open storage
is then said of nothing.
-/

set_option autoImplicit false
set_option relaxedAutoImplicit false

namespace HeadlessDisplay

/-- A regular file, and whether storage has it open. -/
structure FileState where
  place : Place
  contents : Array UInt8
  /-- The permission bits. -/
  bits : Nat
  isOpen : Bool

/-- All octets are zero. -/
def FileState.Blank (file : FileState) : Prop :=
  ∀ octet ∈ file.contents, octet = 0

/-! ### Storage in a file -/

namespace FileStorage

/-- Octets written over as many others replace them. -/
theorem overwriteFirst_of_size_eq {octets written : Array UInt8}
    (hsize : written.size = octets.size) : overwriteFirst octets written = written := by
  simp [overwriteFirst, hsize]

/-- Memory as long as the file shows the contents of the file. -/
theorem shown_of_size_eq {length : Nat} {contents : Array UInt8} (hsize : contents.size = length) :
    shown length contents = contents :=
  overwriteFirst_of_size_eq (by rw [hsize, Array.size_replicate])

theorem size_shown (length : Nat) (contents : Array UInt8) :
    (shown length contents).size = length := by
  rw [shown, size_overwriteFirst, Array.size_replicate]

/-- The path leads to the file, and the storage has it open or is not open. -/
structure Holds (storage : FileStorage) (file : FileState) : Prop where
  leads : storage.tree.LeadsTo true storage.path file.place
  entry_eq : storage.tree.entry? file.place = some (.file file.contents file.bits)
  opened_eq : storage.opened = if file.isOpen then some file.place else none

variable {storage after : FileStorage} {file : FileState} {memory : Array UInt8} {layout : Layout}

namespace Holds

/-- What is read through the path are the contents of the file. -/
theorem file?_eq (hholds : storage.Holds file) : storage.file? = some (file.contents, file.bits) :=
  hholds.leads.file?_eq hholds.entry_eq

theorem isSome_opened (hholds : storage.Holds file) : storage.opened.isSome = file.isOpen := by
  rw [hholds.opened_eq]
  cases file.isOpen <;> rfl

theorem contents?_eq (hholds : storage.Holds file) :
    storage.contents? = if file.isOpen then some file.contents else none := by
  rw [contents?, hholds.opened_eq]
  cases file.isOpen with
  | false => rfl
  | true => simp [hholds.entry_eq]

/-- Other contents at the end of the path. -/
theorem put (hholds : storage.Holds file) {written : FileState}
    (hplace : written.place = file.place) (hpath : after.path = storage.path)
    (htree : after.tree = storage.tree.put file.place (.file written.contents written.bits))
    (hopened : after.opened = if written.isOpen then some file.place else none) :
    after.Holds written where
  leads := by
    rw [htree, hpath, hplace]
    exact hholds.leads.put written.contents written.bits
  entry_eq := by rw [htree, hplace, FileTree.entry?_put hholds.leads.place_ne_nil, if_pos rfl]
  opened_eq := by rw [hopened, hplace]

/-- Memory that is written to an open file of its length is the file's contents from then on. -/
theorem store (hholds : storage.Holds file) (hopen : file.isOpen = true)
    (hsize : memory.size = file.contents.size) :
    (storage.store memory).Holds { file with contents := memory } := by
  have hopened : storage.opened = some file.place := by rw [hholds.opened_eq, if_pos hopen]
  have hstore : storage.store memory =
      { storage with tree := storage.tree.put file.place (.file memory file.bits) } := by
    simp only [FileStorage.store, hopened, hholds.contents?_eq, if_pos hopen]
    rw [overwriteFirst_of_size_eq hsize, FileTree.write_eq_put hholds.entry_eq]
  rw [hstore]
  exact hholds.put rfl rfl rfl hholds.opened_eq

theorem close (hholds : storage.Holds file) :
    (FramebufferDevice.close storage).Holds { file with isOpen := false } :=
  ⟨hholds.leads, hholds.entry_eq, rfl⟩

/-- A mapping shows the contents of an open file, which stays as it is. -/
theorem of_map_ok {mapping : Mapping} (hholds : storage.Holds file)
    (hmap : FramebufferDevice.map storage layout = (.ok mapping, after)) :
    file.isOpen = true ∧ mapping.memory = shown layout.length file.contents ∧
      after = { storage with maps := storage.maps + 1 } := by
  simp only [FramebufferDevice.map, hholds.contents?_eq] at hmap
  cases hopen : file.isOpen with
  | false => simp [hopen] at hmap
  | true =>
    simp only [hopen, if_true, Prod.mk.injEq, Except.ok.injEq] at hmap
    obtain ⟨rfl, rfl⟩ := hmap
    exact ⟨rfl, rfl, rfl⟩

/-- Storage that does not map is not open, and it stays as it is. -/
theorem of_map_error {failure : StorageFailure} (hholds : storage.Holds file)
    (hmap : FramebufferDevice.map storage layout = (.error failure, after)) :
    file.isOpen = false ∧ after = storage := by
  simp only [FramebufferDevice.map, hholds.contents?_eq] at hmap
  cases hopen : file.isOpen with
  | false =>
    simp only [hopen, Bool.false_eq_true, if_false, Prod.mk.injEq] at hmap
    exact ⟨rfl, hmap.2.symm⟩
  | true => simp [hopen] at hmap

/-- Only a length that no file can have keeps the storage from opening a file that is there, which
is empty then. -/
theorem of_openAt_error {failure : StorageFailure} (hholds : storage.Holds file)
    (hopen : FramebufferDevice.openAt storage layout = (.error failure, after)) :
    maxLength < layout.length ∧ after.Holds { file with contents := #[] } := by
  simp only [FramebufferDevice.openAt, hholds.leads.writable_eq hholds.entry_eq] at hopen
  split at hopen
  · next hlong =>
    obtain rfl := (Prod.mk.inj hopen).2
    exact ⟨hlong, hholds.put rfl rfl (FileTree.write_eq_put hholds.entry_eq #[]) hholds.opened_eq⟩
  · simp at hopen

end Holds

/-- Opening leaves a file of zeros, as long as the layout asks for and with the permission bits. -/
theorem holds_of_openAt_ok (hopen : FramebufferDevice.openAt storage layout = (.ok (), after)) :
    ∃ place, after.Holds ⟨place, Array.replicate layout.length 0,
      FileTree.permissionBits storage.mode, true⟩ := by
  simp only [FramebufferDevice.openAt] at hopen
  split at hopen
  · simp at hopen
  · next place hwritable =>
    split at hopen
    · simp at hopen
    · obtain rfl := (Prod.mk.inj hopen).2
      have hleads := FileTree.leadsTo_of_writable hwritable
      refine ⟨place, hleads.put _ _, ?_, rfl⟩
      rw [FileTree.entry?_put hleads.place_ne_nil, if_pos rfl]

/-- The path and the permission bits asked for stay the same. -/
theorem keptByCalls :
    KeptByCalls fun storage : FileStorage ↦ (storage.path, storage.mode) where
  openAt storage layout := by
    simp only [FramebufferDevice.openAt]
    split
    · rfl
    · split <;> rfl
  map storage layout := by
    simp only [FramebufferDevice.map]
    split <;> rfl
  unmap storage mapping := by
    simp only [FramebufferDevice.unmap, store]
    split <;> rfl
  close _ := rfl
  writeThrough storage memory := by
    simp only [FramebufferDevice.writeThrough, store]
    split <;> rfl

end FileStorage

/-! ### One output -/

namespace Output

/-- The output and its file agree. -/
structure Mirrors (output : Output FileStorage) (file : FileState) : Prop where
  coherent : output.Coherent
  holds : output.device.Holds file
  size_eq : file.isOpen = true → file.contents.size = output.layout.length
  bits_eq : file.isOpen = true → file.bits = FileTree.permissionBits output.device.mode
  shown : ∀ framebuffer, output.framebuffer = some framebuffer →
    file.isOpen = true ∧ file.contents = framebuffer.surface.memory

variable {output : Output FileStorage} {file : FileState}

theorem mode_of_openAt {storage after : FileStorage} {layout : Layout}
    {result : Except StorageFailure Unit}
    (hopen : FramebufferDevice.openAt storage layout = (result, after)) :
    after.mode = storage.mode :=
  congrArg Prod.snd (FileStorage.keptByCalls.of_openAt hopen)

/-- Whatever leaves device, layout and surface as they are leaves the file alone. -/
theorem Mirrors.of_same (hmirrors : output.Mirrors file) {after : Output FileStorage}
    (hcoherent : after.Coherent) (hdevice : after.device = output.device)
    (hlayout : after.layout = output.layout)
    (hframebuffer : after.framebuffer = output.framebuffer) : after.Mirrors file where
  coherent := hcoherent
  holds := hdevice ▸ hmirrors.holds
  size_eq := hlayout ▸ hmirrors.size_eq
  bits_eq := hdevice ▸ hmirrors.bits_eq
  shown := hframebuffer ▸ hmirrors.shown

/-- Mapping a waiting output leaves the file alone, and the surface has its contents. -/
theorem MapOutcome.mirrors {outcome : Except OutputError Unit × Output FileStorage}
    (houtcome : MapOutcome output outcome) (hmirrors : output.Mirrors file)
    (hwaiting : output.Waiting) : outcome.2.Mirrors file := by
  have hcoherent := houtcome.coherent hmirrors.coherent hwaiting
  cases houtcome with
  | failed hmap =>
    obtain ⟨-, rfl⟩ := hmirrors.holds.of_map_error hmap
    exact hmirrors.of_same hcoherent rfl rfl rfl
  | rejected hmap hsize =>
    obtain ⟨-, hmemory, -⟩ := hmirrors.holds.of_map_ok hmap
    rw [hmemory, FileStorage.size_shown] at hsize
    exact absurd rfl hsize
  | mapped hmap hsize =>
    obtain ⟨hopen, hmemory, rfl⟩ := hmirrors.holds.of_map_ok hmap
    have hshown := hmemory.trans (FileStorage.shown_of_size_eq (hmirrors.size_eq hopen))
    have hholds := hmirrors.holds
    refine ⟨hcoherent, ⟨hholds.leads, hholds.entry_eq, hholds.opened_eq⟩, hmirrors.size_eq,
      hmirrors.bits_eq, ?_⟩
    rintro _ ⟨⟩
    exact ⟨hopen, hshown.symm⟩

theorem mirrors_enable (hmirrors : output.Mirrors file) : output.enable.2.Mirrors file := by
  by_cases hmapped : output.state = .mapped
  · rwa [enable_of_mapped hmapped]
  · by_cases hdestroyed : output.state = .destroyed
    · rwa [enable_of_destroyed hdestroyed]
    · have hwaiting := waiting_of_state_ne hmapped hdestroyed
      exact hwaiting.mapOutcome.mirrors hmirrors hwaiting

theorem Mirrors.of_enable (hmirrors : output.Mirrors file) {result : Except OutputError Unit}
    {left : Output FileStorage} (henable : output.enable = (result, left)) :
    left.Mirrors file := by
  simpa only [henable] using mirrors_enable hmirrors

/-- Handing the mapping back writes to the file what is there already. -/
theorem Mirrors.release (hmirrors : output.Mirrors file) : output.release.device.Holds file := by
  unfold Output.release
  split
  · exact hmirrors.holds
  · next framebuffer hframebuffer =>
    obtain ⟨hopen, hcontents⟩ := hmirrors.shown framebuffer hframebuffer
    have hfile : { file with contents := framebuffer.surface.memory } = file := by
      rw [← hcontents]
    rw [← hfile]
    exact hmirrors.holds.store hopen (congrArg Array.size hcontents).symm

theorem mirrors_disable (hmirrors : output.Mirrors file) : output.disable.Mirrors file := by
  have hcoherent := coherent_disable hmirrors.coherent
  have hmode := congrArg Prod.snd (FileStorage.keptByCalls.release output)
  unfold disable at hcoherent ⊢
  split
  · next hstate =>
    rw [if_pos hstate] at hcoherent
    exact {
      coherent := hcoherent
      holds := hmirrors.release
      size_eq := fun hopen ↦ (hmirrors.size_eq hopen).trans
        (congrArg Layout.length output.layout_release.symm)
      bits_eq := fun hopen ↦ (hmirrors.bits_eq hopen).trans
        (congrArg FileTree.permissionBits hmode.symm)
      shown := by simp [framebuffer_release] }
  · exact hmirrors

theorem descriptor_disable (output : Output FileStorage) :
    output.disable.descriptor = output.descriptor := by
  have hrelease : output.release.descriptor = output.descriptor := by
    unfold release
    split <;> rfl
  unfold disable
  split
  · exact hrelease
  · rfl

theorem waiting_disable (output : Output FileStorage) (hmapped : output.state = .mapped) :
    output.disable.Waiting := by
  rw [disable, if_pos hmapped]
  exact .inr rfl

theorem mirrors_destroy (hmirrors : output.Mirrors file) :
    ∃ isOpen, output.destroy.Mirrors { file with isOpen } := by
  have hcoherent := coherent_destroy hmirrors.coherent
  unfold destroy at hcoherent ⊢
  split
  · exact ⟨file.isOpen, hmirrors⟩
  · next hstate =>
    rw [if_neg hstate] at hcoherent
    exact ⟨false, hcoherent, hmirrors.release.close, by simp, by simp,
      by simp [framebuffer_release]⟩

/-! ### Coming back -/

theorem layout_enable (output : Output FileStorage) : output.enable.2.layout = output.layout := by
  have hmapped : output.mapSurface.2.layout = output.layout := by
    generalize hmap : output.mapSurface = outcome
    cases MapOutcome.of_eq hmap <;> rfl
  unfold enable
  split
  · rfl
  · rfl
  · exact hmapped
  · exact hmapped

/-- What opening the file anew does to it. -/
theorem ReopenOutcome.mirrors {descriptor : ScreenDescriptor} {layout : Layout}
    {result : Except OutputError Unit} {left : Output FileStorage}
    (houtcome : ReopenOutcome output descriptor layout (result, left))
    (hmirrors : output.Mirrors file) (hwaiting : output.Waiting)
    (hlayout : descriptor.layout = .ok layout) :
    (∃ error, result = .error error ∧ FileStorage.maxLength < layout.length ∧
      left.Mirrors { file with contents := #[], isOpen := false }) ∨
    (result = .ok () ∧ left.layout = layout ∧ ∃ place, left.Mirrors ⟨place,
      Array.replicate layout.length 0, FileTree.permissionBits left.device.mode, true⟩) := by
  have hcoherent := houtcome.coherent hmirrors.coherent hwaiting hlayout
  have hnone := hmirrors.coherent.framebuffer_eq_none hwaiting.state_ne_mapped
  cases houtcome with
  | failed hopen =>
    obtain ⟨hlong, hholds⟩ := hmirrors.holds.close.of_openAt_error hopen
    exact .inl ⟨_, rfl, hlong, hcoherent, hholds, by simp, by simp, by simp [hnone]⟩
  | reopened hopen =>
    obtain ⟨place, hholds⟩ := FileStorage.holds_of_openAt_ok hopen
    rw [← mode_of_openAt hopen] at hholds
    exact .inr ⟨rfl, rfl, place, hcoherent, hholds, by simp, by simp, by simp [hnone]⟩

/-- What bringing an output back in the mode of a descriptor does to its file. -/
inductive ReenableFile (output : Output FileStorage) (file : FileState) (fresh : ScreenDescriptor) :
    Except OutputError Reenabled → Output FileStorage → Prop
  /-- The mode is unchanged, or has no layout, and the file is left alone. -/
  | kept {result : Except OutputError Reenabled} {left : Output FileStorage}
      (hresult : result ≠ .ok .recreated) (hmirrors : left.Mirrors file) :
      ReenableFile output file fresh result left
  /-- No file can be as long as the new mode asks for; it is empty and closed. -/
  | emptied {error : OutputError} {left : Output FileStorage} {layout : Layout}
      (hchanged : ¬fresh.sameMode output.descriptor) (hlayout : fresh.layout = .ok layout)
      (hlong : FileStorage.maxLength < layout.length)
      (hmirrors : left.Mirrors { file with contents := #[], isOpen := false }) :
      ReenableFile output file fresh (.error error) left
  /-- The mode changed, and the file has the new length and is filled with zeros. -/
  | cleared {result : Except OutputError Reenabled} {left : Output FileStorage} {place : Place}
      (hchanged : ¬fresh.sameMode output.descriptor) (hlayout : fresh.layout = .ok left.layout)
      (hmirrors : left.Mirrors ⟨place, Array.replicate left.layout.length 0,
        FileTree.permissionBits left.device.mode, true⟩) :
      ReenableFile output file fresh result left

/-- A recreated output has a file of zeros. -/
theorem ReenableFile.of_recreated {fresh : ScreenDescriptor} {left : Output FileStorage}
    (hfile : ReenableFile output file fresh (.ok .recreated) left) :
    fresh.layout = .ok left.layout ∧ ∃ place, left.Mirrors ⟨place,
      Array.replicate left.layout.length 0, FileTree.permissionBits left.device.mode, true⟩ := by
  cases hfile with
  | kept hresult hmirrors => exact absurd rfl hresult
  | cleared hchanged hlayout hmirrors => exact ⟨hlayout, _, hmirrors⟩

theorem Mirrors.withDescriptor (hmirrors : output.Mirrors file) {fresh : ScreenDescriptor}
    (hsame : fresh.sameMode output.descriptor) :
    ({ output with descriptor := fresh } : Output FileStorage).Mirrors file :=
  hmirrors.of_same (hmirrors.coherent.withDescriptor hsame) rfl rfl rfl

/-- An output opened anew and taken into use has a file of zeros. -/
theorem ReenableFile.of_enable {fresh : ScreenDescriptor} {layout : Layout}
    {reopened left : Output FileStorage} {enabled : Except OutputError Unit}
    (hmirrors : output.Mirrors file) (hwaiting : output.Waiting)
    (hchanged : ¬fresh.sameMode output.descriptor) (hlayout : fresh.layout = .ok layout)
    (hreopen : output.reopen fresh layout = (.ok (), reopened))
    (henable : reopened.enable = (enabled, left)) (result : Except OutputError Reenabled) :
    ReenableFile output file fresh result left := by
  rcases (ReopenOutcome.of_eq hreopen).mirrors hmirrors hwaiting hlayout with
    ⟨error, hresult, -⟩ | ⟨-, hreopened, place, hzeros⟩
  · cases hresult
  · have hleft : left.layout = layout := by
      rw [← hreopened, ← layout_enable reopened, henable]
    have hmode : left.device.mode = reopened.device.mode :=
      congrArg Prod.snd (FileStorage.keptByCalls.of_enable henable)
    have hback := hzeros.of_enable henable
    rw [← hleft, ← hmode] at hback
    exact .cleared hchanged (hleft ▸ hlayout) hback

theorem AdoptOutcome.reenableFile {fresh : ScreenDescriptor}
    {result : Except OutputError Reenabled} {left : Output FileStorage}
    (houtcome : AdoptOutcome output fresh (result, left)) (hmirrors : output.Mirrors file)
    (hwaiting : output.Waiting) : ReenableFile output file fresh result left := by
  cases houtcome with
  | remapFailed hsame henable =>
    exact .kept (by simp) ((hmirrors.withDescriptor hsame).of_enable henable)
  | remapped hsame henable =>
    exact .kept (by simp) ((hmirrors.withDescriptor hsame).of_enable henable)
  | invalid hchanged hlayout => exact .kept (by simp) hmirrors
  | reopenFailed hchanged hlayout hreopen =>
    rcases (ReopenOutcome.of_eq hreopen).mirrors hmirrors hwaiting hlayout with
      ⟨error, -, hlong, hleft⟩ | ⟨hresult, -⟩
    · exact .emptied hchanged hlayout hlong hleft
    · cases hresult
  | recreateFailed hchanged hlayout hreopen henable =>
    exact .of_enable hmirrors hwaiting hchanged hlayout hreopen henable _
  | recreated hchanged hlayout hreopen henable =>
    exact .of_enable hmirrors hwaiting hchanged hlayout hreopen henable _

/-- An output that is brought back keeps its file, or what becomes of it follows from the answer of
the source. -/
theorem reenableFile_reenable (hmirrors : output.Mirrors file) (source : ScreenSource) :
    let back := output.reenable source
    (back.1 ≠ .ok .recreated ∧ back.2.1.Mirrors file) ∨
      ∃ fresh, source.answer source.asked = .ok fresh ∧
        ReenableFile output file fresh back.1 back.2.1 := by
  intro back
  generalize hreenable : back = outcome
  cases ReenableOutcome.of_eq hreenable with
  | destroyed hstate => exact .inl ⟨by simp, hmirrors⟩
  | alreadyMapped hstate => exact .inl ⟨by simp, hmirrors⟩
  | queryFailed hwaiting hanswer => exact .inl ⟨by simp, hmirrors⟩
  | answered hwaiting hanswer hadopt =>
    exact .inr ⟨_, hanswer, hadopt.reenableFile hmirrors hwaiting⟩

/-- A waiting output whose storage is open can be taken into use. -/
theorem Mirrors.enable_eq_ok (hmirrors : output.Mirrors file) (hopen : file.isOpen = true)
    (hwaiting : output.Waiting) : output.enable.1 = .ok () := by
  have houtcome := hwaiting.mapOutcome
  generalize output.enable = outcome at houtcome
  cases houtcome with
  | failed hmap =>
    obtain ⟨hclosed, -⟩ := hmirrors.holds.of_map_error hmap
    simp [hopen] at hclosed
  | rejected hmap hsize =>
    obtain ⟨-, hmemory, -⟩ := hmirrors.holds.of_map_ok hmap
    rw [hmemory, FileStorage.size_shown] at hsize
    exact absurd rfl hsize
  | mapped hmap hsize => rfl

/-- The storage of a mapped output is open, and its surface is what is read through the path. -/
theorem Mirrors.file?_of_mapped (hmirrors : output.Mirrors file)
    (hmapped : output.state = .mapped) :
    file.isOpen = true ∧ ∃ framebuffer, output.framebuffer = some framebuffer ∧
      output.device.file? = some (framebuffer.surface.memory, file.bits) := by
  obtain ⟨framebuffer, hframebuffer, -⟩ := hmirrors.coherent.exists_framebuffer hmapped
  obtain ⟨hopen, hcontents⟩ := hmirrors.shown framebuffer hframebuffer
  exact ⟨hopen, framebuffer, hframebuffer, by rw [hmirrors.holds.file?_eq, hcontents]⟩

/-- An answer of the same mode leaves the file alone, and an output whose storage is open comes
back. -/
theorem reenable_of_sameMode (hmirrors : output.Mirrors file) {source : ScreenSource}
    {fresh : ScreenDescriptor} (hanswer : source.answer source.asked = .ok fresh)
    (hsame : fresh.sameMode output.descriptor) :
    (output.reenable source).2.1.Mirrors file ∧
      (file.isOpen = true → output.Waiting → (output.reenable source).1 = .ok .remapped) := by
  have hfile := reenableFile_reenable hmirrors source
  generalize hreenable : output.reenable source = back at hfile
  obtain ⟨result, left, later⟩ := back
  constructor
  · rcases hfile with ⟨-, hkept⟩ | ⟨other, hother, hfile⟩
    · exact hkept
    · obtain rfl := Except.ok.inj (hanswer.symm.trans hother)
      cases hfile with
      | kept hresult hkept => exact hkept
      | emptied hchanged hlayout hlong hleft => exact absurd hsame hchanged
      | cleared hchanged hlayout hleft => exact absurd hsame hchanged
  · intro hopen hwaiting
    have henabled := (hmirrors.withDescriptor hsame).enable_eq_ok hopen hwaiting
    cases ReenableOutcome.of_eq hreenable with
    | destroyed hstate => simp [Waiting, hstate] at hwaiting
    | alreadyMapped hstate => exact absurd hstate hwaiting.state_ne_mapped
    | queryFailed hwaits hother => simp [hanswer] at hother
    | answered hwaits hother hadopt =>
      obtain rfl := Except.ok.inj (hanswer.symm.trans hother)
      cases hadopt with
      | remapFailed hsame henable => simp [henable] at henabled
      | remapped hsame henable => rfl
      | invalid hchanged => exact absurd hsame hchanged
      | reopenFailed hchanged => exact absurd hsame hchanged
      | recreateFailed hchanged => exact absurd hsame hchanged
      | recreated hchanged => exact absurd hsame hchanged

/-! ### Painting -/

/-- The file of an output has the memory of a surface that was painted. -/
theorem Mirrors.withMemory (hmirrors : output.Mirrors file) {framebuffer : Framebuffer}
    (hframebuffer : output.framebuffer = some framebuffer) {surface : Surface}
    (hlayout : surface.layout = framebuffer.surface.layout) {after : Output FileStorage}
    (hcoherent : after.Coherent)
    (hdevice : after.device = FramebufferDevice.writeThrough output.device surface.memory)
    (hsame : after.layout = output.layout)
    (hpainted : after.framebuffer = some { framebuffer with surface }) :
    after.Mirrors { file with contents := surface.memory } := by
  obtain ⟨hopen, hcontents⟩ := hmirrors.shown framebuffer hframebuffer
  have hsize : surface.memory.size = file.contents.size := by
    rw [hcontents, surface.size_eq, framebuffer.surface.size_eq, hlayout]
  have hmode : after.device.mode = output.device.mode := by
    rw [hdevice]
    exact congrArg Prod.snd (FileStorage.keptByCalls.writeThrough output.device surface.memory)
  constructor
  · exact hcoherent
  · rw [hdevice]
    exact hmirrors.holds.store hopen hsize
  · intro _
    rw [hsame, ← hmirrors.size_eq hopen]
    exact hsize
  · intro _
    rw [hmode]
    exact hmirrors.bits_eq hopen
  · intro shown hshown
    rw [hpainted] at hshown
    obtain rfl := Option.some.inj hshown
    exact ⟨hopen, rfl⟩

/-- A repaint writes the surface to the file and nothing else. -/
theorem RepaintOutcome.mirrors {damage : Damage} {renderer : Renderer} {now : Nat}
    {outcome : Except OutputError Repainted × Output FileStorage × Renderer}
    (houtcome : RepaintOutcome output damage renderer now outcome)
    (hmirrors : output.Mirrors file) :
    ∃ contents, outcome.2.1.Mirrors { file with contents } := by
  have hcoherent := houtcome.coherent hmirrors.coherent
  cases houtcome with
  | dropped hnone => exact ⟨file.contents, hmirrors⟩
  | painted hframebuffer hpaint =>
    exact ⟨_, hmirrors.withMemory hframebuffer (layout_of_paint hpaint) hcoherent rfl rfl rfl⟩
  | failed hframebuffer hpaint =>
    exact ⟨_, hmirrors.withMemory hframebuffer (layout_of_paint hpaint) hcoherent rfl rfl rfl⟩

end Output

/-! ### The life of an output -/

namespace OutputStep

/-- The operation may paint. -/
def paints : OutputStep → Bool
  | .repaint .. | .repaintPending _ => true
  | .enable | .disable | .reenable | .addDamage _ | .damageAll | .takeDamage | .dispatchTimer _
  | .startRepaintLoop | .destroy => false

/-- The operation neither paints nor asks for another mode. -/
def sparesFile : OutputStep → Bool
  | .reenable | .repaint .. | .repaintPending _ => false
  | .enable | .disable | .addDamage _ | .damageAll | .takeDamage | .dispatchTimer _
  | .startRepaintLoop | .destroy => true

end OutputStep

/-- No answer asks for a file longer than files can be. -/
def ScreenSource.FitsFiles (source : ScreenSource) : Prop :=
  ∀ asked descriptor layout, source.answer asked = .ok descriptor →
    descriptor.layout = .ok layout → layout.length ≤ FileStorage.maxLength

theorem KeptByCalls.solo_step {δ τ : Type} [FramebufferDevice δ] {tag : δ → τ}
    (htag : KeptByCalls tag) (solo : Solo δ) (step : OutputStep) :
    tag (solo.step step).2.output.device = tag solo.output.device := by
  cases step with
  | enable => exact htag.enable solo.output
  | disable => exact htag.disable solo.output
  | reenable => exact htag.reenable solo.output solo.source
  | repaint damage now => exact htag.repaint solo.output damage solo.renderer now
  | repaintPending now =>
    exact htag.repaint solo.output.takeDamage.2 solo.output.takeDamage.1 solo.renderer now
  | addDamage damage =>
    simp only [Solo.step, Output.addDamage]
    split <;> rfl
  | damageAll => simp only [Solo.step, Output.device_damageAll]
  | takeDamage => rfl
  | dispatchTimer now => simp only [Solo.step, Output.device_dispatchTimer]
  | startRepaintLoop => rfl
  | destroy => exact htag.destroy solo.output

theorem KeptByCalls.solo_run {δ τ : Type} [FramebufferDevice δ] {tag : δ → τ}
    (htag : KeptByCalls tag) (solo : Solo δ) (steps : List OutputStep) :
    tag (solo.run steps).output.device = tag solo.output.device := by
  induction steps generalizing solo with
  | nil => rfl
  | cons step rest ih => exact (ih (solo.step step).2).trans (htag.solo_step solo step)

namespace Solo

/-- What becomes of the file of an output in an operation. -/
structure FileStep (solo : Solo FileStorage) (step : OutputStep) (file after : FileState) :
    Prop where
  mirrors : (solo.step step).2.output.Mirrors after
  spared : step.sparesFile → after.contents = file.contents ∧ after.bits = file.bits
  blank : step.paints = false → file.Blank → after.Blank
  still_open : solo.source.FitsFiles → step ≠ .destroy → file.isOpen = true → after.isOpen = true

/-- The file is left alone. -/
theorem FileStep.of_mirrors {solo : Solo FileStorage} {step : OutputStep} {file : FileState}
    (hmirrors : (solo.step step).2.output.Mirrors file) : solo.FileStep step file file :=
  ⟨hmirrors, fun _ ↦ ⟨rfl, rfl⟩, fun _ hblank ↦ hblank, fun _ _ hopen ↦ hopen⟩

variable {solo : Solo FileStorage} {file : FileState}

theorem fileStep_reenable (hmirrors : solo.output.Mirrors file) :
    ∃ after, solo.FileStep .reenable file after := by
  rcases Output.reenableFile_reenable hmirrors solo.source with ⟨-, hkept⟩ | ⟨fresh, hanswer, hfile⟩
  · exact ⟨file, .of_mirrors hkept⟩
  · have hback : (solo.step .reenable).2.output = (solo.output.reenable solo.source).2.1 := rfl
    generalize solo.output.reenable solo.source = back at hfile hback
    obtain ⟨result, left, later⟩ := back
    dsimp only at hfile hback
    cases hfile with
    | kept hresult hkept => exact ⟨file, .of_mirrors (hback ▸ hkept)⟩
    | emptied hchanged hlayout hlong hleft =>
      refine ⟨_, hback ▸ hleft, by simp [OutputStep.sparesFile], ?_, fun hfits ↦ ?_⟩
      · intro _ _ octet hoctet
        simp at hoctet
      · exact absurd hlong (Nat.not_lt.mpr (hfits _ fresh _ hanswer hlayout))
    | cleared hchanged hlayout hleft =>
      refine ⟨_, hback ▸ hleft, by simp [OutputStep.sparesFile], ?_, fun _ _ _ ↦ rfl⟩
      intro _ _ octet hoctet
      exact Array.eq_of_mem_replicate hoctet

/-- Every operation keeps the output and its file in agreement. -/
theorem fileStep_step (hmirrors : solo.output.Mirrors file) (step : OutputStep) :
    ∃ after, solo.FileStep step file after := by
  have hcoherent := coherent_step hmirrors.coherent step
  cases step with
  | enable => exact ⟨file, .of_mirrors (Output.mirrors_enable hmirrors)⟩
  | disable => exact ⟨file, .of_mirrors (Output.mirrors_disable hmirrors)⟩
  | reenable => exact fileStep_reenable hmirrors
  | repaint damage now =>
    obtain ⟨contents, hpainted⟩ := Output.RepaintOutcome.mirrors
      (.of_eq (Eq.refl (solo.output.repaint damage solo.renderer now))) hmirrors
    exact ⟨_, hpainted, by simp [OutputStep.sparesFile], by simp [OutputStep.paints],
      fun _ _ hopen ↦ hopen⟩
  | repaintPending now =>
    have htaken : solo.output.takeDamage.2.Mirrors file :=
      hmirrors.of_same (Output.coherent_takeDamage hmirrors.coherent) rfl rfl rfl
    obtain ⟨contents, hpainted⟩ := Output.RepaintOutcome.mirrors
      (.of_eq (Eq.refl (solo.output.repaintPending solo.renderer now))) htaken
    exact ⟨_, hpainted, by simp [OutputStep.sparesFile], by simp [OutputStep.paints],
      fun _ _ hopen ↦ hopen⟩
  | addDamage damage =>
    refine ⟨file, .of_mirrors (hmirrors.of_same hcoherent ?_ ?_ ?_)⟩ <;>
      simp only [Solo.step, Output.addDamage] <;> split <;> rfl
  | damageAll =>
    refine ⟨file, .of_mirrors (hmirrors.of_same hcoherent ?_ ?_ ?_)⟩ <;>
      simp only [Solo.step, Output.damageAll, Output.addDamage] <;> split <;> rfl
  | takeDamage => exact ⟨file, .of_mirrors (hmirrors.of_same hcoherent rfl rfl rfl)⟩
  | dispatchTimer now =>
    refine ⟨file, .of_mirrors (hmirrors.of_same hcoherent ?_ ?_ ?_)⟩ <;>
      simp only [Solo.step, Output.dispatchTimer] <;> split <;> rfl
  | startRepaintLoop => exact ⟨file, .of_mirrors hmirrors⟩
  | destroy =>
    obtain ⟨isOpen, hdestroyed⟩ := Output.mirrors_destroy hmirrors
    exact ⟨_, hdestroyed, fun _ ↦ ⟨rfl, rfl⟩, fun _ hblank ↦ hblank, by simp⟩

theorem mirrors_run (hmirrors : solo.output.Mirrors file) (steps : List OutputStep) :
    ∃ after, (solo.run steps).output.Mirrors after ∧
      ((∀ step ∈ steps, step.paints = false) → file.Blank → after.Blank) := by
  induction steps generalizing solo file with
  | nil => exact ⟨file, hmirrors, fun _ hblank ↦ hblank⟩
  | cons step rest ih =>
    obtain ⟨next, hnext⟩ := fileStep_step hmirrors step
    obtain ⟨after, hafter, hblank⟩ := ih hnext.mirrors
    refine ⟨after, hafter, fun hidle hblankFile ↦ ?_⟩
    obtain ⟨hfirst, hrest⟩ := List.forall_mem_cons.mp hidle
    exact hblank hrest (hnext.blank hfirst hblankFile)

/-- An operation that spares the file does not change what is read through the path. -/
theorem file?_of_sparesFile (hmirrors : solo.output.Mirrors file) {step : OutputStep}
    (hspares : step.sparesFile) :
    (solo.step step).2.output.device.file? = solo.output.device.file? := by
  obtain ⟨after, hafter⟩ := fileStep_step hmirrors step
  obtain ⟨hcontents, hbits⟩ := hafter.spared hspares
  rw [hafter.mirrors.holds.file?_eq, hmirrors.holds.file?_eq, hcontents, hbits]

/-- An output that is disabled and brought back in its mode has the file it had, and if it was
mapped it is mapped again. -/
theorem file?_resumed (hmirrors : solo.output.Mirrors file) {fresh : ScreenDescriptor}
    (hanswer : solo.source.answer solo.source.asked = .ok fresh)
    (hsame : fresh.sameMode solo.output.descriptor) :
    let back := (solo.step .disable).2.step .reenable
    back.2.output.device.file? = solo.output.device.file? ∧
      (solo.output.state = .mapped → back.1 = .reenabled (.ok .remapped)) := by
  intro back
  have hdisabled := Output.mirrors_disable hmirrors
  have hdescriptor := solo.output.descriptor_disable
  obtain ⟨hback, hresult⟩ := Output.reenable_of_sameMode hdisabled hanswer (hdescriptor ▸ hsame)
  refine ⟨hback.holds.file?_eq.trans hmirrors.holds.file?_eq.symm, fun hmapped ↦ ?_⟩
  have hopen := (hmirrors.file?_of_mapped hmapped).1
  exact congrArg OutputStepResult.reenabled (hresult hopen (solo.output.waiting_disable hmapped))

/-- An output that was recreated has a file of zeros, as long as the mode of the answer asks for,
and there are zeros in it until something is painted. -/
theorem file?_recreated (hmirrors : solo.output.Mirrors file)
    (hrecreated : (solo.step .reenable).1 = .reenabled (.ok .recreated)) :
    let back := (solo.step .reenable).2
    (∃ fresh, solo.source.answer solo.source.asked = .ok fresh ∧
      fresh.layout = .ok back.output.layout) ∧
    back.output.device.file? = some (Array.replicate back.output.layout.length 0,
      FileTree.permissionBits back.output.device.mode) ∧
    ∀ more, (∀ step ∈ more, step.paints = false) → ∃ contents kept,
      (back.run more).output.device.file? = some (contents, kept) ∧
        ∀ octet ∈ contents, octet = 0 := by
  intro back
  have hresult : (solo.output.reenable solo.source).1 = .ok .recreated :=
    OutputStepResult.reenabled.inj hrecreated
  rcases Output.reenableFile_reenable hmirrors solo.source with ⟨hnot, -⟩ | ⟨fresh, hanswer, hback⟩
  · exact absurd hresult hnot
  · rw [hresult] at hback
    obtain ⟨hlayout, place, hzeros⟩ := hback.of_recreated
    have hbackZeros : back.output.Mirrors _ := hzeros
    refine ⟨⟨fresh, hanswer, hlayout⟩, hbackZeros.holds.file?_eq, fun more hidle ↦ ?_⟩
    obtain ⟨later, hlater, hblank⟩ := mirrors_run hbackZeros more
    refine ⟨later.contents, later.bits, hlater.holds.file?_eq, hblank hidle ?_⟩
    intro octet hoctet
    exact Array.eq_of_mem_replicate hoctet

/-- A destroyed output leaves its file behind for good. -/
theorem file?_destroyed (hmirrors : solo.output.Mirrors file) (more : List OutputStep) :
    ((solo.step .destroy).2.run more).output.device.file? = solo.output.device.file? := by
  have hretired : (solo.step .destroy).2.Retired :=
    ⟨coherent_step hmirrors.coherent .destroy, Output.state_destroy solo.output⟩
  rw [(retired_run hretired more).2]
  exact file?_of_sparesFile hmirrors rfl

/-- An operation does not change what the source answers. -/
theorem answer_step (solo : Solo FileStorage) (step : OutputStep) :
    (solo.step step).2.source.answer = solo.source.answer := by
  cases step with
  | reenable =>
    show (solo.output.reenable solo.source).2.2.answer = solo.source.answer
    generalize hreenable : solo.output.reenable solo.source = outcome
    cases Output.ReenableOutcome.of_eq hreenable <;> rfl
  | _ => rfl

/-- Storage stays open until the output is destroyed, if no answer is too long for files. -/
theorem opened_run (hmirrors : solo.output.Mirrors file) (hfits : solo.source.FitsFiles)
    (hopen : file.isOpen = true ∨ solo.output.state = .destroyed) (steps : List OutputStep) :
    (solo.run steps).output.device.opened.isSome ∨ (solo.run steps).output.state = .destroyed := by
  induction steps generalizing solo file with
  | nil =>
    refine hopen.imp_left fun hopen ↦ ?_
    rw [run, List.foldl_nil, hmirrors.holds.isSome_opened, hopen]
  | cons step rest ih =>
    obtain ⟨next, hnext⟩ := fileStep_step hmirrors step
    have hlater : (solo.step step).2.source.FitsFiles := by
      unfold ScreenSource.FitsFiles
      rw [answer_step]
      exact hfits
    apply ih hnext.mirrors hlater
    rcases hopen with hopen | hdestroyed
    · by_cases hlast : step = .destroy
      · subst hlast
        exact .inr (Output.state_destroy _)
      · exact .inl (hnext.still_open hfits hlast hopen)
    · exact .inr (retired_step ⟨hmirrors.coherent, hdestroyed⟩ step).1.destroyed

end Solo

/-- A created output and its file agree, and its storage is open. -/
theorem Output.mirrors_create {tree : FileTree} {path : String} {mode : Nat} {name : String}
    {source after : ScreenSource} {output : Output FileStorage}
    (hcreate : create name (FileStorage.atPath tree path mode) source = (.ok output, after)) :
    (∃ file : FileState, output.Mirrors file ∧ file.isOpen = true) ∧
      (output.device.path, output.device.mode) = (path, mode) ∧ after.answer = source.answer := by
  have hcoherent := coherent_create hcreate
  have hkept := (FileStorage.keptByCalls.create (CreateOutcome.of_eq hcreate)).1 output rfl
  refine ⟨?_, hkept, ?_⟩
  · cases CreateOutcome.of_eq hcreate with
    | created hanswer hlayout hopen =>
      obtain ⟨place, hholds⟩ := FileStorage.holds_of_openAt_ok hopen
      refine ⟨_, ⟨hcoherent, hholds, by simp, ?_, by simp⟩, rfl⟩
      intro _
      exact congrArg FileTree.permissionBits (mode_of_openAt hopen).symm
  · cases CreateOutcome.of_eq hcreate
    rfl

/-- At every moment in the life of an output over storage in a file to which nobody else writes,
whatever the source and the renderer answer,

* a regular file is where the path leads to,
* while the storage is open the file is as long as the layout asks for and has the permission bits
  asked for, and it is open until the output is destroyed, if no mode is too long for files,
* while the output is mapped the surface has the contents of the file,
* no operation but a repaint and coming back changes the file,
* disabling a mapped output and bringing it back in the same mode, whatever its identifier, leaves
  the file as it was,
* an output that was recreated has a file of the new length filled with zeros, and nothing but a
  repaint puts anything else in it,
* destroying the output leaves the file as it was, for good. -/
theorem file_mirrors_output {tree : FileTree} {path : String} {mode : Nat} {name : String}
    {source after : ScreenSource} {output : Output FileStorage}
    (hcreate : Output.create name (FileStorage.atPath tree path mode) source = (.ok output, after))
    (renderer : Renderer) (host : Host) (steps : List OutputStep) :
    let reached := (Solo.mk output after renderer host).run steps
    let now := reached.output
    let bits := FileTree.permissionBits mode
    (now.device.path = path ∧ now.device.file?.isSome) ∧
    (now.device.opened.isSome → ∃ contents, now.device.file? = some (contents, bits) ∧
      contents.size = now.layout.length) ∧
    (source.FitsFiles → now.state ≠ .destroyed → now.device.opened.isSome) ∧
    (now.state = .mapped → ∃ framebuffer, now.framebuffer = some framebuffer ∧
      now.device.file? = some (framebuffer.surface.memory, bits)) ∧
    (∀ step, step.sparesFile → (reached.step step).2.output.device.file? = now.device.file?) ∧
    (∀ fresh, reached.source.answer reached.source.asked = .ok fresh →
      fresh.sameMode now.descriptor →
      let back := (reached.step .disable).2.step .reenable
      back.2.output.device.file? = now.device.file? ∧
        (now.state = .mapped → back.1 = .reenabled (.ok .remapped))) ∧
    ((reached.step .reenable).1 = .reenabled (.ok .recreated) →
      let back := (reached.step .reenable).2
      (∃ fresh, reached.source.answer reached.source.asked = .ok fresh ∧
        fresh.layout = .ok back.output.layout) ∧
      back.output.device.file? = some (Array.replicate back.output.layout.length 0, bits) ∧
      ∀ more, (∀ step ∈ more, step.paints = false) → ∃ contents kept,
        (back.run more).output.device.file? = some (contents, kept) ∧
          ∀ octet ∈ contents, octet = 0) ∧
    ∀ more, ((reached.step .destroy).2.run more).output.device.file? = now.device.file? := by
  intro reached now bits
  obtain ⟨⟨begun, hbegun, hbegunOpen⟩, htag, hanswers⟩ := Output.mirrors_create hcreate
  have hstart : (Solo.mk output after renderer host).output.Mirrors begun := hbegun
  obtain ⟨file, hmirrors, -⟩ := Solo.mirrors_run hstart steps
  have hkept : (now.device.path, now.device.mode) = (path, mode) :=
    (FileStorage.keptByCalls.solo_run _ steps).trans htag
  have hfile : now.device.file? = some (file.contents, file.bits) := hmirrors.holds.file?_eq
  have hbits (hopen : file.isOpen = true) : file.bits = bits :=
    (hmirrors.bits_eq hopen).trans (congrArg FileTree.permissionBits (congrArg Prod.snd hkept))
  refine ⟨⟨congrArg Prod.fst hkept, by rw [hfile, Option.isSome_some]⟩, ?_, ?_, ?_,
    fun step hspares ↦ Solo.file?_of_sparesFile hmirrors hspares,
    fun fresh hanswer hsame ↦ Solo.file?_resumed hmirrors hanswer hsame, ?_,
    Solo.file?_destroyed hmirrors⟩
  · intro hopened
    have hopen := hmirrors.holds.isSome_opened.symm.trans hopened
    exact ⟨file.contents, by rw [hfile, hbits hopen], hmirrors.size_eq hopen⟩
  · intro hfits hstate
    have hlater : (Solo.mk output after renderer host).source.FitsFiles := by
      unfold ScreenSource.FitsFiles
      rw [hanswers]
      exact hfits
    exact (Solo.opened_run hstart hlater (.inl hbegunOpen) steps).resolve_right hstate
  · intro hmapped
    obtain ⟨hopen, framebuffer, hframebuffer, hshown⟩ := hmirrors.file?_of_mapped hmapped
    exact ⟨framebuffer, hframebuffer, hbits hopen ▸ hshown⟩
  · intro hrecreated back
    obtain ⟨hanswered, hzeros, hblank⟩ := Solo.file?_recreated hmirrors hrecreated
    have hmode : back.output.device.mode = mode :=
      congrArg Prod.snd ((FileStorage.keptByCalls.solo_step reached .reenable).trans hkept)
    rw [hmode] at hzeros
    exact ⟨hanswered, hzeros, hblank⟩

/-- The file of a painted output has the pixels. It has them still when the output was disabled and
brought back in its mode under another name, and when the output was destroyed. -/
theorem file_of_painted_output :
    let narrow := ScreenDescriptor.withSize 2 1
    let renamed := { narrow with id := "other" }
    let source : ScreenSource := ⟨fun asked ↦ .ok (if asked = 0 then narrow else renamed), 0⟩
    let storage := FileStorage.atPath ⟨[], []⟩ "f" 0o600
    let renderer := Renderer.solid Renderer.defaultColor fun _ ↦ none
    let pixels : Array UInt8 := #[0x20, 0x20, 0x20, 0xff, 0x20, 0x20, 0x20, 0xff]
    ∃ output after, Output.create "main" storage source = (.ok output, after) ∧
      let painted :=
        (Solo.mk output after renderer (.atTime 0)).run [.enable, .damageAll, .repaintPending 0]
      let back := (painted.step .disable).2.step .reenable
      painted.output.device.file? = some (pixels, 0o600) ∧
        back.1 = .reenabled (.ok .remapped) ∧
        back.2.output.device.file? = some (pixels, 0o600) ∧
        (painted.step .destroy).2.output.device.file? = some (pixels, 0o600) := by
  intro narrow renamed source storage renderer pixels
  let layout : Layout := ⟨2, 1, .a8b8g8r8, by decide, by decide, by decide⟩
  let file : Entry := .file (Array.replicate 8 0) 0o600
  let opened : FileStorage := ⟨"f", 0o600, ⟨[(["f"], file)], []⟩, some ["f"], 0⟩
  have hwritable : (⟨[], []⟩ : FileTree).writable "f" = .ok ["f"] := by
    rw [FileTree.writable, FileTree.leadsTo_of_one_name.locate_eq]
    rfl
  have hopen : FramebufferDevice.openAt storage layout = (.ok (), opened) := by
    simp only [FramebufferDevice.openAt, storage, FileStorage.atPath, hwritable]
    rfl
  have hcreate : Output.create "main" storage source =
      (.ok ⟨"main", opened, narrow, layout, none, .unopened, .ofRefresh narrow.refreshMhz, .none⟩,
        ⟨source.answer, 1⟩) := by
    have hask : source.ask = (.ok narrow, ⟨source.answer, 1⟩) := rfl
    have hlayout : narrow.layout = .ok layout := rfl
    simp only [Output.create, hask, hlayout, hopen]
  refine ⟨_, _, hcreate, ?_⟩
  intro painted back
  have hmapped : painted.output.state = .mapped := by decide +kernel
  have hpixels : (painted.output.framebuffer.map (·.surface.memory)) = some pixels := by
    decide +kernel
  have hanswer : painted.source.answer painted.source.asked = .ok renamed := by decide +kernel
  have hsame : renamed.sameMode painted.output.descriptor := by decide +kernel
  simp only [back, painted] at hmapped hpixels hanswer hsame ⊢
  obtain ⟨-, -, -, hshows, hspares, hreturns, -⟩ :=
    file_mirrors_output hcreate renderer (.atTime 0) [.enable, .damageAll, .repaintPending 0]
  obtain ⟨framebuffer, hframebuffer, hfile⟩ := hshows hmapped
  rw [hframebuffer, Option.map_some, Option.some.injEq] at hpixels
  rw [hpixels] at hfile
  obtain ⟨hkept, hremapped⟩ := hreturns renamed hanswer hsame
  exact ⟨hfile, hremapped hmapped, hkept.trans hfile, (hspares .destroy rfl).trans hfile⟩

end HeadlessDisplay
