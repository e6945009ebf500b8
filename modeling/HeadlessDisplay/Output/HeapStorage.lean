import HeadlessDisplay.Output.Storage

/-!
Storage on the heap. Each mapping is fresh memory filled with zeros; nothing of it outlives its
return. Opening and mapping can be made to fail, and mappings to come out one octet short.
-/

set_option autoImplicit false
set_option relaxedAutoImplicit false

namespace HeadlessDisplay

/-- Storage on the heap with its switches. -/
structure HeapStorage where
  /-- Opening fails. -/
  failsToOpen : Bool
  /-- Mapping fails. -/
  failsToMap : Bool
  /-- Mappings are one octet short. -/
  mapsShort : Bool
  /-- Mappings handed out. -/
  maps : Nat
deriving DecidableEq

namespace HeapStorage

/-- Storage that works. -/
def working : HeapStorage := ⟨false, false, false, 0⟩

/-- What the storage is called in messages. -/
def target : String := "mock"

/-- The reason of every failure. -/
def reason : String := "mock failure"

instance : FramebufferDevice HeapStorage where
  openAt storage _ :=
    if storage.failsToOpen then
      (.error ⟨"open", target, .described .permissionDenied reason⟩, storage)
    else (.ok (), storage)
  map storage layout :=
    if storage.failsToMap then
      (.error ⟨"map", target, .described .outOfMemory reason⟩, storage)
    else
      let size := if storage.mapsShort then layout.length - 1 else layout.length
      (.ok ⟨storage.maps, Array.replicate size 0⟩, { storage with maps := storage.maps + 1 })
  unmap storage _ := storage
  close storage := storage
  writeThrough storage _ := storage

end HeapStorage

end HeadlessDisplay
