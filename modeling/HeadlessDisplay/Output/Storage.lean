import HeadlessDisplay.Fault
import HeadlessDisplay.Screen.Descriptor

/-!
Storage behind an output. A framebuffer device is opened at a layout, maps memory of that layout,
takes the mapping back and is closed. Opening and mapping may fail, and a mapping may turn out to
have the wrong length. While a mapping is out, whatever is written to it is in the storage at once;
`writeThrough` tells the storage so.

A mapping carries a token by which it can be recognised when it is handed back. `RecordedStorage`
keeps the calls made on any device, in order and with their results.
-/

set_option autoImplicit false
set_option relaxedAutoImplicit false

namespace HeadlessDisplay

/-- Why a call on a device failed. -/
structure StorageFailure where
  /-- What was tried. -/
  operation : String
  /-- The storage it was tried on. -/
  target : String
  fault : Fault
deriving DecidableEq, Repr

/-- Memory mapped from a device. -/
structure Mapping where
  /-- Tells this mapping from others of the same device. -/
  token : Nat
  memory : Array UInt8
deriving DecidableEq

/-- Storage with a memory mapping. -/
class FramebufferDevice (δ : Type) where
  /-- Makes the storage ready at the size of a layout. -/
  openAt : δ → Layout → Except StorageFailure Unit × δ
  /-- Hands out memory of a layout. -/
  map : δ → Layout → Except StorageFailure Mapping × δ
  /-- Takes memory back. -/
  unmap : δ → Mapping → δ
  /-- Lets the storage go. -/
  close : δ → δ
  /-- Learns what the memory that is out now holds. -/
  writeThrough : δ → Array UInt8 → δ

/-- A call made on a device. -/
inductive StorageCall
  /-- Opening at a layout, and whether it succeeded. -/
  | opened (layout : Layout) (success : Bool)
  /-- Mapping at a layout, and the token and length of the memory if there was any. -/
  | mapped (layout : Layout) (memory : Option (Nat × Nat))
  /-- Taking back the memory with a token. -/
  | unmapped (token : Nat)
  | closed
deriving DecidableEq

/-- A device with a number to tell it by and the calls made on it. -/
structure RecordedStorage (δ : Type) where
  number : Nat
  device : δ
  calls : List StorageCall

namespace RecordedStorage

variable {δ : Type}

/-- A device before its first call. -/
def fresh (number : Nat) (device : δ) : RecordedStorage δ :=
  ⟨number, device, []⟩

/-- Adds a call to the record. -/
def record (storage : RecordedStorage δ) (device : δ) (call : StorageCall) : RecordedStorage δ :=
  { storage with device, calls := storage.calls ++ [call] }

/-- The lengths that the storage was opened at with success. -/
def openedLengths (storage : RecordedStorage δ) : List Nat :=
  storage.calls.filterMap fun
    | .opened layout true => some layout.length
    | _ => none

/-- How many mappings were handed out. -/
def mapCount (storage : RecordedStorage δ) : Nat :=
  storage.calls.countP fun
    | .mapped _ (some _) => true
    | _ => false

/-- How many mappings were taken back. -/
def unmapCount (storage : RecordedStorage δ) : Nat :=
  storage.calls.countP fun
    | .unmapped _ => true
    | _ => false

/-- How often the storage was closed. -/
def closeCount (storage : RecordedStorage δ) : Nat :=
  storage.calls.count .closed

instance [FramebufferDevice δ] : FramebufferDevice (RecordedStorage δ) where
  openAt storage layout :=
    match FramebufferDevice.openAt storage.device layout with
    | (.ok (), device) => (.ok (), storage.record device (.opened layout true))
    | (.error failure, device) => (.error failure, storage.record device (.opened layout false))
  map storage layout :=
    match FramebufferDevice.map storage.device layout with
    | (.ok mapping, device) =>
      let memory := some (mapping.token, mapping.memory.size)
      (.ok mapping, storage.record device (.mapped layout memory))
    | (.error failure, device) => (.error failure, storage.record device (.mapped layout none))
  unmap storage mapping :=
    storage.record (FramebufferDevice.unmap storage.device mapping) (.unmapped mapping.token)
  close storage := storage.record (FramebufferDevice.close storage.device) .closed
  writeThrough storage memory :=
    { storage with device := FramebufferDevice.writeThrough storage.device memory }

end RecordedStorage

end HeadlessDisplay
