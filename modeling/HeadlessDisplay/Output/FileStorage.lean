import HeadlessDisplay.FileTree
import HeadlessDisplay.Output.HeapStorage

/-!
Storage in a regular file that other programs can read. Opening makes the file, or empties the one
that is there, fills it with zeros up to the layout's length and sets its permission bits. A mapping
shows the contents of the file, and writing to it writes to the file; it changes neither the file's
length nor its permission bits, and where somebody else has made the file too short there are zeros
in the mapping. The file stays when the storage is closed.

`FramebufferStorage` is storage of either kind.
-/

set_option autoImplicit false
set_option relaxedAutoImplicit false

namespace HeadlessDisplay

/-- Storage in a file. -/
structure FileStorage where
  path : String
  /-- Permission bits of the file. -/
  mode : Nat
  /-- The files it lies among. -/
  tree : FileTree
  /-- Where the file is, while the storage is open. -/
  opened : Option Place
  /-- Mappings handed out. -/
  maps : Nat

namespace FileStorage

/-- The path of a framebuffer file for which no other is given. -/
def defaultPath : String := "/tmp/image.bin"

/-- The permission bits of a framebuffer file for which no others are given. -/
def defaultMode : UInt32 := 0o644

/-- Storage at a path that is not open yet. -/
def atPath (tree : FileTree) (path : String) (mode : Nat) : FileStorage :=
  ⟨path, mode, tree, none, 0⟩

/-- The file's contents and permission bits, if a regular file is at the path. -/
def file? (storage : FileStorage) : Option (Array UInt8 × Nat) :=
  storage.tree.file? storage.path

/-- The contents of the open file. -/
def contents? (storage : FileStorage) : Option (Array UInt8) :=
  match storage.opened.bind storage.tree.entry? with
  | some (.file contents _) => some contents
  | _ => none

/-- Octets over the first of which others have been written; their number stays. -/
def overwriteFirst (octets written : Array UInt8) : Array UInt8 :=
  written.extract 0 octets.size ++ octets.extract written.size octets.size

/-- Writing over octets adds none. -/
@[simp] theorem size_overwriteFirst (octets written : Array UInt8) :
    (overwriteFirst octets written).size = octets.size := by
  simp only [overwriteFirst, Array.size_append, Array.size_extract]
  omega

/-- Memory of a length that shows the contents of a file. -/
def shown (length : Nat) (contents : Array UInt8) : Array UInt8 :=
  overwriteFirst (Array.replicate length 0) contents

/-- Writes memory to the open file. -/
def store (storage : FileStorage) (memory : Array UInt8) : FileStorage :=
  match storage.opened, storage.contents? with
  | some place, some contents =>
    { storage with tree := storage.tree.write place (overwriteFirst contents memory) }
  | _, _ => storage

/-- The greatest length of a file. -/
def maxLength : Nat := 9223372036854775807

/-- A file cannot be made so long. -/
def tooLong : Fault :=
  .described .invalidInput "number too large to fit in target type"

instance : FramebufferDevice FileStorage where
  openAt storage layout :=
    match storage.tree.writable storage.path with
    | .error fault => (.error ⟨"open", storage.path, fault⟩, storage)
    | .ok place =>
      if maxLength < layout.length then
        (.error ⟨"resize", storage.path, tooLong⟩,
          { storage with tree := storage.tree.write place #[] })
      else
        let entry : Entry :=
          .file (Array.replicate layout.length 0) (FileTree.permissionBits storage.mode)
        (.ok (), { storage with opened := some place, tree := storage.tree.put place entry })
  map storage layout :=
    match storage.contents? with
    | some contents =>
      (.ok ⟨storage.maps, shown layout.length contents⟩, { storage with maps := storage.maps + 1 })
    | none =>
      (.error ⟨"map", storage.path, .described .notFound "storage is not open"⟩, storage)
  unmap storage mapping := storage.store mapping.memory
  close storage := { storage with opened := none }
  writeThrough storage memory := storage.store memory

end FileStorage

/-- Storage on the heap or in a file. -/
inductive FramebufferStorage
  | heap (storage : HeapStorage)
  | file (storage : FileStorage)

namespace FramebufferStorage

instance : FramebufferDevice FramebufferStorage where
  openAt
    | .heap storage, layout => (FramebufferDevice.openAt storage layout).map id .heap
    | .file storage, layout => (FramebufferDevice.openAt storage layout).map id .file
  map
    | .heap storage, layout => (FramebufferDevice.map storage layout).map id .heap
    | .file storage, layout => (FramebufferDevice.map storage layout).map id .file
  unmap
    | .heap storage, mapping => .heap (FramebufferDevice.unmap storage mapping)
    | .file storage, mapping => .file (FramebufferDevice.unmap storage mapping)
  close
    | .heap storage => .heap (FramebufferDevice.close storage)
    | .file storage => .file (FramebufferDevice.close storage)
  writeThrough
    | .heap storage, memory => .heap (FramebufferDevice.writeThrough storage memory)
    | .file storage, memory => .file (FramebufferDevice.writeThrough storage memory)

end FramebufferStorage

end HeadlessDisplay
