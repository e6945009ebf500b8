/-!
Rectangles of pixels and the damage they make up. A rectangle has a signed origin and may reach
beyond the screen on every side; `Rect.clip` cuts it to the screen. Damage is a list of rectangles
in the order they were reported, kept without merging overlaps.
-/

set_option autoImplicit false
set_option relaxedAutoImplicit false

namespace HeadlessDisplay

/-- An axis-parallel rectangle of pixels, given by its upper left corner and its size. -/
structure Rect where
  x : Int32
  y : Int32
  width : UInt32
  height : UInt32
deriving DecidableEq

namespace Rect

/-- The first column to the right of the rectangle. -/
def right (rect : Rect) : Int :=
  rect.x.toInt + rect.width.toNat

/-- The first row below the rectangle. -/
def bottom (rect : Rect) : Int :=
  rect.y.toInt + rect.height.toNat

/-- The pixel in the given column and row belongs to the rectangle. -/
def Covers (rect : Rect) (column row : Int) : Prop :=
  (rect.x.toInt ≤ column ∧ column < rect.right) ∧ rect.y.toInt ≤ row ∧ row < rect.bottom

instance (rect : Rect) (column row : Int) : Decidable (rect.Covers column row) :=
  inferInstanceAs (Decidable (_ ∧ _))

/-- No pixel belongs to the rectangle. -/
def isEmpty (rect : Rect) : Bool :=
  rect.width == 0 || rect.height == 0

/-- The whole of a screen. -/
def whole (width height : UInt32) : Rect :=
  ⟨0, 0, width, height⟩

/-- The part of the rectangle on a screen of the given size, if there is any. -/
def clip (rect : Rect) (width height : UInt32) : Option Rect :=
  let left := max rect.x.toInt 0
  let top := max rect.y.toInt 0
  let right := min rect.right width.toNat
  let bottom := min rect.bottom height.toNat
  if right ≤ left ∨ bottom ≤ top then none
  else
    some ⟨Int32.ofInt left, Int32.ofInt top, UInt32.ofNat (right - left).toNat,
      UInt32.ofNat (bottom - top).toNat⟩

end Rect

/-- Regions that need to be painted again, in the order they were reported. -/
structure Damage where
  rects : List Rect
deriving DecidableEq

namespace Damage

/-- Nothing needs to be painted. -/
def none : Damage := ⟨[]⟩

/-- Reports one more rectangle; an empty one is dropped. -/
def add (damage : Damage) (rect : Rect) : Damage :=
  if rect.isEmpty then damage else ⟨damage.rects ++ [rect]⟩

/-- The damage that reporting the rectangles one by one makes up. -/
def ofRects (rects : List Rect) : Damage :=
  rects.foldl add none

/-- The damage of a whole screen. -/
def full (width height : UInt32) : Damage :=
  none.add (Rect.whole width height)

/-- The rectangles of one and then of the other. -/
def extend (first second : Damage) : Damage :=
  ⟨first.rects ++ second.rects⟩

/-- No rectangle was reported. -/
def isEmpty (damage : Damage) : Bool :=
  damage.rects.isEmpty

/-- The parts of the rectangles on a screen of the given size. -/
def clip (damage : Damage) (width height : UInt32) : Damage :=
  ⟨damage.rects.filterMap fun rect ↦ rect.clip width height⟩

/-- The pixel in the given column and row belongs to one of the rectangles. -/
def Covers (damage : Damage) (column row : Int) : Prop :=
  ∃ rect ∈ damage.rects, rect.Covers column row

end Damage

end HeadlessDisplay
