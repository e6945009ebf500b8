import HeadlessDisplay.Octets
import HeadlessDisplay.Screen.Damage
import HeadlessDisplay.Screen.Descriptor

/-!
Surfaces: framebuffer memory together with its layout. The memory of a surface always has the
layout's length, which is part of the type. Everything that can be drawn on a surface is a
`Stroke`: a pixel, a filled rectangle, or the octets of a row. A stroke reaches only the part of
the surface it names and leaves the length alone.

Pixel words are stored least significant octet first. In a format with words of two octets the low
half of a colour is stored.
-/

set_option autoImplicit false
set_option relaxedAutoImplicit false

namespace HeadlessDisplay

/-- Why memory is refused as a surface. -/
inductive SurfaceError
  /-- The memory is not as long as the layout asks. -/
  | lengthMismatch (expected actual : Nat)
deriving DecidableEq, Repr

/-- The error in words. -/
def SurfaceError.message : SurfaceError → String
  | .lengthMismatch expected actual =>
    s!"mapped region is {actual} bytes but the layout requires {expected}"

/-- Writes octets over an array from a position on; what would lie behind the end is lost. -/
def overwrite : Array UInt8 → Nat → Octets → Array UInt8
  | memory, _, [] => memory
  | memory, position, octet :: rest =>
    overwrite (memory.setIfInBounds position octet) (position + 1) rest

/-- Writing over an array leaves its length alone. -/
@[simp] theorem size_overwrite (memory : Array UInt8) (position : Nat) (octets : Octets) :
    (overwrite memory position octets).size = memory.size := by
  induction octets generalizing memory position with
  | nil => rfl
  | cons octet rest ih => simp [overwrite, ih]

/-- Framebuffer memory of a layout. -/
structure Surface where
  layout : Layout
  memory : Array UInt8
  size_eq : memory.size = layout.length

/-- One act of drawing. -/
inductive Stroke
  /-- Sets a pixel. -/
  | pixel (x y color : UInt32)
  /-- Sets the pixels of a rectangle. -/
  | rectangle (rect : Rect) (color : UInt32)
  /-- Writes octets from the start of a row on. -/
  | row (y : UInt32) (octets : Octets)

namespace Surface

/-- Takes memory as a surface if it has the right length. -/
def ofMemory (layout : Layout) (memory : Array UInt8) : Except SurfaceError Surface :=
  if size_eq : memory.size = layout.length then .ok ⟨layout, memory, size_eq⟩
  else .error (.lengthMismatch layout.length memory.size)

/-- The octets of a colour in a format. -/
def pixelWord (format : PixelFormat) (color : UInt32) : Octets :=
  Octets.littleEndian format.bytesPerPixel color.toNat

/-- The position of a pixel's first octet, for a pixel on the surface. -/
def offset? (layout : Layout) (x y : UInt32) : Option Nat :=
  if x < layout.width ∧ y < layout.height then
    some (y.toNat * layout.stride + x.toNat * layout.format.bytesPerPixel)
  else none

/-- The octets of a row, for a row of the surface. -/
def row? (surface : Surface) (y : UInt32) : Option (Array UInt8) :=
  if y < surface.layout.height then
    let start := y.toNat * surface.layout.stride
    some (surface.memory.extract start (start + surface.layout.stride))
  else none

/-- The word of a pixel, for a pixel on the surface. -/
def pixel? (surface : Surface) (x y : UInt32) : Option UInt32 :=
  (offset? surface.layout x y).map fun offset ↦
    let size := surface.layout.format.bytesPerPixel
    UInt32.ofNat (Octets.ofLittleEndian (surface.memory.extract offset (offset + size)).toList)

/-- Writes octets into the memory from a position on. -/
def write (surface : Surface) (position : Nat) (octets : Octets) : Surface where
  layout := surface.layout
  memory := overwrite surface.memory position octets
  size_eq := by rw [size_overwrite, surface.size_eq]

/-- Sets a pixel and tells whether it is on the surface. -/
def putPixel (surface : Surface) (x y color : UInt32) : Surface × Bool :=
  match offset? surface.layout x y with
  | some offset => (surface.write offset (pixelWord surface.layout.format color), true)
  | none => (surface, false)

/-- Sets `count` pixels of row `y` from column `x` on. -/
def fillRow (surface : Surface) (x count : Nat) (word : Octets) (y : Nat) : Surface :=
  surface.write (y * surface.layout.stride + x * surface.layout.format.bytesPerPixel)
    (List.replicate count word).flatten

/-- Sets the pixels of a rectangle that are on the surface and counts them. -/
def fillRect (surface : Surface) (rect : Rect) (color : UInt32) : Surface × Nat :=
  match rect.clip surface.layout.width surface.layout.height with
  | none => (surface, 0)
  | some part =>
    let word := pixelWord surface.layout.format color
    let columns := part.width.toNat
    let rows := List.range' part.y.toInt.toNat part.height.toNat
    rows.foldl
      (fun (filled, count) y ↦
        (filled.fillRow part.x.toInt.toNat columns word y, count + columns))
      (surface, 0)

/-- Sets every pixel and counts them. -/
def fill (surface : Surface) (color : UInt32) : Surface × Nat :=
  surface.fillRect (Rect.whole surface.layout.width surface.layout.height) color

/-- Writes octets from the start of a row on, as many as the row holds, and counts them. -/
def writeRow (surface : Surface) (y : UInt32) (octets : Octets) : Surface × Option Nat :=
  if y < surface.layout.height then
    let kept := octets.take surface.layout.stride
    (surface.write (y.toNat * surface.layout.stride) kept, some kept.length)
  else (surface, none)

/-- Draws one stroke. -/
def draw (surface : Surface) : Stroke → Surface
  | .pixel x y color => (surface.putPixel x y color).1
  | .rectangle rect color => (surface.fillRect rect color).1
  | .row y octets => (surface.writeRow y octets).1

/-- Draws strokes one after another. -/
def drawAll (surface : Surface) (strokes : List Stroke) : Surface :=
  strokes.foldl draw surface

end Surface

end HeadlessDisplay
