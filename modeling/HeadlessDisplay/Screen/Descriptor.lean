/-!
Screen descriptors and the framebuffer layouts they determine. A descriptor names a mode: its size
in pixels and millimetres, its pixel format and its refresh rate; the identifier is not part of the
mode. `ScreenDescriptor.layout` gives the layout of a descriptor whose framebuffer can be addressed
with words of 64 bits, and otherwise the first of four reasons why there is none.
-/

set_option autoImplicit false
set_option relaxedAutoImplicit false

namespace HeadlessDisplay

/-- How the components of a pixel are packed into a word, named from its most significant end. -/
inductive PixelFormat
  | a8b8g8r8
  | x8r8g8b8
  | a8r8g8b8
  | r5g6b5
deriving DecidableEq, Repr

namespace PixelFormat

/-- The formats. -/
def all : List PixelFormat :=
  [.a8b8g8r8, .x8r8g8b8, .a8r8g8b8, .r5g6b5]

/-- The number of octets in a pixel word. -/
def bytesPerPixel : PixelFormat → Nat
  | .a8b8g8r8 | .x8r8g8b8 | .a8r8g8b8 => 4
  | .r5g6b5 => 2

/-- The number of bits in a pixel word. -/
def bitsPerPixel : PixelFormat → UInt32
  | .a8b8g8r8 | .x8r8g8b8 | .a8r8g8b8 => 32
  | .r5g6b5 => 16

/-- The name of a format in configuration texts. -/
def name : PixelFormat → String
  | .a8b8g8r8 => "a8b8g8r8"
  | .x8r8g8b8 => "x8r8g8b8"
  | .a8r8g8b8 => "a8r8g8b8"
  | .r5g6b5 => "r5g6b5"

/-- The format with a name. -/
def ofName? (text : String) : Option PixelFormat :=
  all.find? (·.name = text)

/-- The name of a format in error messages. -/
def label : PixelFormat → String
  | .a8b8g8r8 => "A8B8G8R8"
  | .x8r8g8b8 => "X8R8G8B8"
  | .a8r8g8b8 => "A8R8G8B8"
  | .r5g6b5 => "R5G6B5"

end PixelFormat

/-- Why a descriptor describes no usable framebuffer. -/
inductive ScreenError
  /-- A dimension is zero. -/
  | invalidSize (width height : UInt32)
  /-- The refresh rate is zero. -/
  | zeroRefresh
  /-- The stated pixel width is not that of the format. -/
  | bitsPerPixelMismatch (bitsPerPixel : UInt32) (format : PixelFormat)
  /-- The framebuffer's length needs more than 64 bits. -/
  | tooLarge (width height bitsPerPixel : UInt32)
deriving DecidableEq, Repr

/-- The error in words. -/
def ScreenError.message : ScreenError → String
  | .invalidSize width height =>
    s!"invalid screen size {width}x{height}: both dimensions must be at least 1"
  | .zeroRefresh => "refresh rate must be non-zero"
  | .bitsPerPixelMismatch bits format =>
    let name := format.label
    s!"{bits} bits per pixel does not match pixel format {name}"
  | .tooLarge width height bits =>
    s!"surface of {width}x{height} at {bits} bpp overflows addressable memory"

/-- The geometry of a framebuffer: tightly packed rows of pixel words, in all fewer octets than
words of 64 bits can count. -/
structure Layout where
  /-- Pixels in a row. -/
  width : UInt32
  /-- Rows. -/
  height : UInt32
  /-- The pixel words. -/
  format : PixelFormat
  width_pos : 0 < width.toNat
  height_pos : 0 < height.toNat
  length_lt : width.toNat * format.bytesPerPixel * height.toNat < 0x10000000000000000
deriving DecidableEq

namespace Layout

/-- Octets in a row. -/
def stride (layout : Layout) : Nat :=
  layout.width.toNat * layout.format.bytesPerPixel

/-- Octets in the framebuffer. -/
def length (layout : Layout) : Nat :=
  layout.stride * layout.height.toNat

end Layout

/-- A screen mode with an identifier. -/
structure ScreenDescriptor where
  width : UInt32
  height : UInt32
  widthMm : UInt32
  heightMm : UInt32
  bitsPerPixel : UInt32
  format : PixelFormat
  /-- Refresh rate in millihertz. -/
  refreshMhz : UInt32
  id : String
deriving DecidableEq

namespace ScreenDescriptor

/-- The identifier of a screen that is given no other. -/
def defaultId : String := "imagescreen"

/-- The refresh rate of a screen that is given no other, in millihertz. -/
def defaultRefreshMhz : UInt32 := 60000

/-- The default descriptor at a size, one millimetre to a pixel. -/
def withSize (width height : UInt32) : ScreenDescriptor where
  width
  height
  widthMm := width
  heightMm := height
  bitsPerPixel := PixelFormat.bitsPerPixel .a8b8g8r8
  format := .a8b8g8r8
  refreshMhz := defaultRefreshMhz
  id := defaultId

/-- The same screen at another size, one millimetre to a pixel. -/
def resize (descriptor : ScreenDescriptor) (width height : UInt32) : ScreenDescriptor :=
  { descriptor with width, height, widthMm := width, heightMm := height }

/-- Whether two descriptors agree in everything but the identifier. -/
def sameMode (first second : ScreenDescriptor) : Bool :=
  decide ({ first with id := second.id } = second)

/-- The layout of the descriptor's framebuffer. -/
def layout (descriptor : ScreenDescriptor) : Except ScreenError Layout :=
  let width := descriptor.width
  let height := descriptor.height
  let bits := descriptor.bitsPerPixel
  let format := descriptor.format
  if size : width.toNat = 0 ∨ height.toNat = 0 then
    .error (.invalidSize width height)
  else if descriptor.refreshMhz = 0 then
    .error .zeroRefresh
  else if bits ≠ format.bitsPerPixel then
    .error (.bitsPerPixelMismatch bits format)
  else if fits : width.toNat * format.bytesPerPixel * height.toNat < 0x10000000000000000 then
    .ok { width, height, format, width_pos := by omega, height_pos := by omega,
          length_lt := fits }
  else
    .error (.tooLarge width height bits)

end ScreenDescriptor

end HeadlessDisplay
