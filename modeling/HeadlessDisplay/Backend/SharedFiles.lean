import HeadlessDisplay.Backend.Stage
import HeadlessDisplay.Output.FileStorage

/-!
Outputs on the same files. Storage in a file knows the files that it lies among. Where the storages
of several outputs lie among the same files, each must know what the others have done:
`SharedStage.step` carries out an operation on one output after another, hands the files on from
each storage to the next, and in the end lets every storage know them and every mapped surface show
them.

Beyond the end of its file a mapped surface shows zeros and what has been painted there since the
file got its length; that is in no file, and other surfaces do not show it.
-/

set_option autoImplicit false
set_option relaxedAutoImplicit false

namespace HeadlessDisplay

/-- Storage that may lie in a file. -/
class FileBacked (δ : Type) where
  /-- The files that it knows. -/
  files? : δ → Option FileTree
  /-- The contents of its file while it is open. -/
  contents? : δ → Option (Array UInt8)
  /-- Learns of other files. -/
  among : FileTree → δ → δ

instance : FileBacked FileStorage where
  files? storage := some storage.tree
  contents? := FileStorage.contents?
  among tree storage := { storage with tree }

instance : FileBacked FramebufferStorage where
  files?
    | .heap _ => none
    | .file storage => FileBacked.files? storage
  contents?
    | .heap _ => none
    | .file storage => FileBacked.contents? storage
  among
    | _, .heap storage => .heap storage
    | tree, .file storage => .file (FileBacked.among tree storage)

instance {δ : Type} [FileBacked δ] : FileBacked (RecordedStorage δ) where
  files? storage := FileBacked.files? storage.device
  contents? storage := FileBacked.contents? storage.device
  among tree storage := { storage with device := FileBacked.among tree storage.device }

/-- The surface with the contents of a file, as far as they reach, over its memory. -/
def Surface.showing (surface : Surface) (contents : Array UInt8) : Surface :=
  { surface with
    memory := FileStorage.overwriteFirst surface.memory contents
    size_eq := (FileStorage.size_overwriteFirst _ _).trans surface.size_eq }

/-- The surface with zeros for its memory. -/
def Surface.cleared (surface : Surface) : Surface :=
  { surface with
    memory := Array.replicate surface.layout.length 0
    size_eq := Array.size_replicate }

/-- The framebuffer after its file came to have other contents. -/
def Framebuffer.follow (framebuffer : Framebuffer) (before after : Option (Array UInt8)) :
    Framebuffer :=
  match after with
  | none => framebuffer
  | some contents =>
    let surface :=
      if before.map Array.size = some contents.size then framebuffer.surface
      else framebuffer.surface.cleared
    { framebuffer with surface := surface.showing contents }

variable {δ : Type} [FileBacked δ]

/-- The output with its storage among other files. -/
def Output.among (files : FileTree) (output : Output δ) : Output δ :=
  let device := FileBacked.among files output.device
  let before := FileBacked.contents? output.device
  let after := FileBacked.contents? device
  { output with device, framebuffer := output.framebuffer.map (·.follow before after) }

/-- The operation with a new output's storage among other files. -/
def BackendStep.among (files : FileTree) : BackendStep δ → BackendStep δ
  | .addOutput name device => .addOutput name (FileBacked.among files device)
  | step => step

/-- What an operation returns that was carried out on one output after another. -/
def StepResult.merge : StepResult → StepResult → StepResult
  | .count first, .count second => .count (first + second)
  | _, last => last

namespace Stage

/-- The files as the last of the storages knows them. -/
def filesAfter (known : FileTree) (stage : Stage δ) : FileTree :=
  let devices := stage.released ++ stage.backend.outputs.map (·.device)
  (devices.filterMap FileBacked.files?).getLast?.getD known

/-- The stage with its storages among other files. -/
def among (files : FileTree) (stage : Stage δ) : Stage δ :=
  { stage with
    released := stage.released.map (FileBacked.among files)
    backend := { stage.backend with outputs := stage.backend.outputs.map (Output.among files) } }

/-- The stage with other outputs, before anything was let go. -/
def withOutputs (stage : Stage δ) (outputs : List (Output δ)) : Stage δ :=
  { stage with backend := { stage.backend with outputs }, released := [] }

/-- A stage with the outputs and the devices let go of another one before its own. -/
def after (stage before : Stage δ) : Stage δ :=
  { stage with
    backend :=
      { stage.backend with outputs := before.backend.outputs ++ stage.backend.outputs }
    released := before.released ++ stage.released }

end Stage

/-- A stage whose storages lie among the same files. -/
structure SharedStage (δ : Type) where
  stage : Stage δ
  files : FileTree

namespace SharedStage

variable [FramebufferDevice δ]

/-- Carries out an operation on further outputs. -/
def stepOn (step : BackendStep δ) (done : StepResult × SharedStage δ)
    (outputs : List (Output δ)) : StepResult × SharedStage δ :=
  let (result, ⟨stage, files⟩) := done
  let (own, part) := (stage.withOutputs (outputs.map (Output.among files))).step (step.among files)
  (result.merge own, ⟨part.after stage, part.filesAfter files⟩)

/-- The outputs that an operation concerns, one by one, and at last none, for what it does apart
from them. -/
def parts (outputs : List (Output δ)) : BackendStep δ → List (List (Output δ))
  | .addOutput .. => [[]]
  | _ => outputs.map ([·]) ++ [[]]

/-- The outputs that an operation does not concern. -/
def unconcerned (outputs : List (Output δ)) : BackendStep δ → List (Output δ)
  | .addOutput .. => outputs
  | _ => []

/-- Carries out one operation. -/
def step (shared : SharedStage δ) (step : BackendStep δ) : StepResult × SharedStage δ :=
  let ⟨stage, files⟩ := shared
  let outputs := stage.backend.outputs
  let rest := unconcerned outputs step
  let start : Stage δ := { stage with backend := { stage.backend with outputs := rest } }
  let (result, ⟨stage, files⟩) := (parts outputs step).foldl (stepOn step) (.done, ⟨start, files⟩)
  (result, ⟨stage.among files, files⟩)

end SharedStage

end HeadlessDisplay
