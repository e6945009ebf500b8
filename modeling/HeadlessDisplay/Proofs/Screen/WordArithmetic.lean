import HeadlessDisplay.Proofs.Screen.Drawing

/-!
# Framebuffer arithmetic in machine words

Layouts and surfaces are computed here with numbers of any size, and memory is cut where it ends.
On a machine every sum and product has to fit a word, a slice has to lie in its memory, and where a
slice is asked for with care there is something else to be done if it is not there. `layoutInWords`,
`Rect.clipInWords`, `rowInWords`, `offsetInWords`, `pixelInWords`, `putPixelInWords` and
`fillRectInWords` are the same computations with every step of that kind written out. They stop with
a `WordFault` at a number that does not fit its word and at a slice that is cut blindly and is not
there.

None of this ever comes about. What must be known is that the rows lie in memory
(`Surface.row_in_memory`) and that memory is not longer than words of 64 bits can count, which the
layout has checked; everything else is below one of the two. So each computation in words comes to
what the one with numbers comes to, and whatever is on the surface is found in memory
(`exactInWords`). Of a layout, only the product of all three factors can be too large
(`layoutInWords_eq`).
-/

set_option autoImplicit false
set_option relaxedAutoImplicit false

namespace HeadlessDisplay

/-! ### Words and slices -/

/-- Why a computation in machine words stops. -/
inductive WordFault
  /-- A number does not fit its word. -/
  | overflow
  /-- A slice is not inside its memory. -/
  | outside
deriving DecidableEq

/-- A number in a word of so many bits without sign. -/
def fit (bits number : Nat) : Except WordFault Nat :=
  if number < 2 ^ bits then .ok number else .error .overflow

/-- A number in a word of so many bits with sign. -/
def fitSigned (bits : Nat) (number : Int) : Except WordFault Int :=
  if -2 ^ (bits - 1) ≤ number ∧ number < 2 ^ (bits - 1) then .ok number else .error .overflow

/-- A number with sign turned into a word of so many bits without. -/
def dropSign (bits : Nat) (number : Int) : Except WordFault Nat :=
  if 0 ≤ number then fit bits number.toNat else .error .overflow

/-- The octets of memory from one position to another, if they are there. -/
def slice? (memory : Array UInt8) (start stop : Nat) : Option (Array UInt8) :=
  if start ≤ stop ∧ stop ≤ memory.size then some (memory.extract start stop) else none

/-- The octets of memory from one position to another, which must be there. -/
def slice (memory : Array UInt8) (start stop : Nat) : Except WordFault (Array UInt8) :=
  match slice? memory start stop with
  | some octets => .ok octets
  | none => .error .outside

section

variable {bits number : Nat} {signed : Int}

theorem fit_of_lt (hfits : number < 2 ^ bits) : fit bits number = .ok number :=
  if_pos hfits

theorem fit_of_le (hexceeds : 2 ^ bits ≤ number) : fit bits number = .error .overflow :=
  if_neg (Nat.not_lt.mpr hexceeds)

theorem fitSigned_of_le (hlower : -2 ^ (bits - 1) ≤ signed) (hupper : signed < 2 ^ (bits - 1)) :
    fitSigned bits signed = .ok signed :=
  if_pos ⟨hlower, hupper⟩

theorem dropSign_of_nonneg (hlower : 0 ≤ signed) (hupper : signed.toNat < 2 ^ bits) :
    dropSign bits signed = .ok signed.toNat := by
  rw [dropSign, if_pos hlower, fit_of_lt hupper]

theorem slice?_of_le {memory : Array UInt8} {start stop : Nat} (hstart : start ≤ stop)
    (hstop : stop ≤ memory.size) : slice? memory start stop = some (memory.extract start stop) :=
  if_pos ⟨hstart, hstop⟩

theorem slice_of_le {memory : Array UInt8} {start stop : Nat} (hstart : start ≤ stop)
    (hstop : stop ≤ memory.size) : slice memory start stop = .ok (memory.extract start stop) := by
  rw [slice, slice?_of_le hstart hstop]

@[simp] theorem WordFault.ok_bind {α β : Type} (value : α) (next : α → Except WordFault β) :
    (Except.ok value >>= next) = next value :=
  rfl

end

/-! ### Layouts -/

namespace ScreenDescriptor

/-- The size, the pixel words, and the octets in a row and in all of the descriptor's framebuffer,
where each product is taken only if it fits its word. -/
def layoutInWords (descriptor : ScreenDescriptor) :
    Except ScreenError (UInt32 × UInt32 × PixelFormat × Nat × Nat) :=
  let ⟨width, height, _, _, bits, format, refreshMhz, _⟩ := descriptor
  if width = 0 ∨ height = 0 then .error (.invalidSize width height)
  else if refreshMhz = 0 then .error .zeroRefresh
  else if bits ≠ format.bitsPerPixel then .error (.bitsPerPixelMismatch bits format)
  else
    match fit 64 (width.toNat * format.bytesPerPixel) with
    | .error _ => .error (.tooLarge width height bits)
    | .ok stride =>
      match fit 64 (stride * height.toNat) with
      | .error _ => .error (.tooLarge width height bits)
      | .ok length => .ok (width, height, format, stride, length)

/-- A row never has more octets than words of 64 bits can count. -/
theorem stride_lt (width : UInt32) (format : PixelFormat) :
    width.toNat * format.bytesPerPixel < 2 ^ 64 := by
  have hwidth := width.toNat_lt
  cases format <;> simp only [PixelFormat.bytesPerPixel] <;> omega

/-- The layout in words is the layout: the product that could exceed a word is that of all three
factors. -/
theorem layoutInWords_eq (descriptor : ScreenDescriptor) :
    descriptor.layoutInWords = descriptor.layout.map fun layout ↦
      (layout.width, layout.height, layout.format, layout.stride, layout.length) := by
  have hstride := fit_of_lt (stride_lt descriptor.width descriptor.format)
  unfold layoutInWords
  dsimp only
  generalize hlayout : descriptor.layout = answer
  cases LayoutOutcome.of_eq hlayout with
  | invalidSize hsize =>
    rw [if_pos hsize]
    rfl
  | zeroRefresh hwidth hheight hrefresh =>
    rw [if_neg (not_or.mpr ⟨hwidth, hheight⟩), if_pos hrefresh]
    rfl
  | bitsPerPixelMismatch hwidth hheight hrefresh hbits =>
    rw [if_neg (not_or.mpr ⟨hwidth, hheight⟩), if_neg hrefresh, if_pos hbits]
    rfl
  | tooLarge hdrawable hexceeds =>
    obtain ⟨hwidth, hheight, hrefresh, hbits⟩ := hdrawable
    rw [if_neg (not_or.mpr ⟨hwidth, hheight⟩), if_neg hrefresh, if_neg (not_not_intro hbits),
      hstride]
    dsimp only
    rw [octets] at hexceeds
    rw [fit_of_le hexceeds]
    rfl
  | @laidOut layout hdrawable hfits hwide hhigh hformat =>
    obtain ⟨hwidth, hheight, hrefresh, hbits⟩ := hdrawable
    rw [if_neg (not_or.mpr ⟨hwidth, hheight⟩), if_neg hrefresh, if_neg (not_not_intro hbits),
      hstride]
    dsimp only
    rw [octets] at hfits
    rw [fit_of_lt hfits, ← hwide, ← hhigh, ← hformat]
    rfl

end ScreenDescriptor

/-! ### Cutting -/

namespace Rect

/-- The part of the rectangle on a screen, with edges in words of 64 bits and a corner and a size in
words of 32 bits. -/
def clipInWords (rect : Rect) (width height : UInt32) : Except WordFault (Option Rect) := do
  let left := max rect.x.toInt 0
  let top := max rect.y.toInt 0
  let right ← fitSigned 64 rect.right
  let bottom ← fitSigned 64 rect.bottom
  let right := min right width.toNat
  let bottom := min bottom height.toNat
  if right ≤ left ∨ bottom ≤ top then .ok none
  else do
    let x ← fitSigned 32 left
    let y ← fitSigned 32 top
    let columns ← fitSigned 64 (right - left)
    let columns ← dropSign 32 columns
    let rows ← fitSigned 64 (bottom - top)
    let rows ← dropSign 32 rows
    .ok (some ⟨Int32.ofInt x, Int32.ofInt y, UInt32.ofNat columns, UInt32.ofNat rows⟩)

theorem clipInWords_eq (rect : Rect) (width height : UInt32) :
    rect.clipInWords width height = .ok (rect.clip width height) := by
  have hleft := rect.x.le_toInt
  have htop := rect.y.le_toInt
  have hx := rect.x.toInt_lt
  have hy := rect.y.toInt_lt
  have hwide := rect.width.toNat_lt
  have hhigh := rect.height.toNat_lt
  have hwidth := width.toNat_lt
  have hheight := height.toNat_lt
  have hright : rect.right = rect.x.toInt + rect.width.toNat := rfl
  have hbottom : rect.bottom = rect.y.toInt + rect.height.toNat := rfl
  unfold clipInWords clip
  rw [fitSigned_of_le (by omega) (by omega), fitSigned_of_le (by omega) (by omega)]
  simp only [WordFault.ok_bind]
  split
  · next hmisses => rfl
  · next hmeets =>
    have hroom := not_or.mp hmeets
    rw [fitSigned_of_le (by omega) (by omega), fitSigned_of_le (by omega) (by omega),
      fitSigned_of_le (by omega) (by omega), fitSigned_of_le (by omega) (by omega)]
    simp only [WordFault.ok_bind]
    rw [dropSign_of_nonneg (by omega) (by omega), dropSign_of_nonneg (by omega) (by omega)]
    simp only [WordFault.ok_bind]

end Rect

/-! ### Surfaces -/

namespace Surface

variable (surface : Surface)

/-- The octets of a row, for a row of the surface. -/
def rowInWords (y : UInt32) : Except WordFault (Option (Array UInt8)) :=
  if surface.layout.height ≤ y then .ok none
  else do
    let start ← fit 64 (y.toNat * surface.layout.stride)
    let stop ← fit 64 (start + surface.layout.stride)
    .ok (slice? surface.memory start stop)

/-- The position of a pixel's first octet, for a pixel on the surface. -/
def offsetInWords (x y : UInt32) : Except WordFault (Option Nat) :=
  if surface.layout.width ≤ x ∨ surface.layout.height ≤ y then .ok none
  else do
    let above ← fit 64 (y.toNat * surface.layout.stride)
    let before ← fit 64 (x.toNat * surface.layout.format.bytesPerPixel)
    let offset ← fit 64 (above + before)
    .ok (some offset)

/-- The word of a pixel, for a pixel that is on the surface and in memory. -/
def pixelInWords (x y : UInt32) : Except WordFault (Option UInt32) := do
  match ← surface.offsetInWords x y with
  | none => .ok none
  | some offset =>
    let stop ← fit 64 (offset + surface.layout.format.bytesPerPixel)
    match slice? surface.memory offset stop with
    | none => .ok none
    | some octets => .ok (some (UInt32.ofNat (Octets.ofLittleEndian octets.toList)))

/-- Sets a pixel and tells whether it is on the surface and in memory. -/
def putPixelInWords (x y color : UInt32) : Except WordFault (Surface × Bool) := do
  match ← surface.offsetInWords x y with
  | none => .ok (surface, false)
  | some offset =>
    let word := pixelWord surface.layout.format color
    let stop ← fit 64 (offset + word.length)
    match slice? surface.memory offset stop with
    | none => .ok (surface, false)
    | some _ => .ok (surface.write offset word, true)

/-- Sets the pixels between two positions of a row and counts them; a row that is not in memory is
passed over. -/
def fillRowInWords (word : Octets) (start stop : Nat) (filled : Surface × Nat) (y : Nat) :
    Except WordFault (Surface × Nat) := do
  let (surface, count) := filled
  match ← surface.rowInWords (UInt32.ofNat y) with
  | none => .ok (surface, count)
  | some row =>
    let part ← slice row start stop
    let pixels := part.size / word.length
    let count ← fit 64 (count + pixels)
    let position := y * surface.layout.stride + start
    .ok (surface.write position (List.replicate pixels word).flatten, count)

/-- Sets the pixels of a rectangle that are on the surface and in memory, and counts them. -/
def fillRectInWords (rect : Rect) (color : UInt32) : Except WordFault (Surface × Nat) := do
  match ← rect.clipInWords surface.layout.width surface.layout.height with
  | none => .ok (surface, 0)
  | some part =>
    let word := pixelWord surface.layout.format color
    let left ← dropSign 64 part.x.toInt
    let start ← fit 64 (left * word.length)
    let span ← fit 64 (part.width.toNat * word.length)
    let stop ← fit 64 (start + span)
    let top ← dropSign 32 part.y.toInt
    let bottom ← fit 32 (top + part.height.toNat)
    (List.range' top (bottom - top)).foldlM (fillRowInWords word start stop) (surface, 0)

/-- Memory is not longer than words of 64 bits can count. -/
theorem size_lt : surface.memory.size < 2 ^ 64 := by
  rw [surface.size_eq]
  exact surface.layout.length_lt

variable {surface} {x y : UInt32}

theorem row?_of_lt (hy : y < surface.layout.height) :
    surface.row? y = some (surface.memory.extract (y.toNat * surface.layout.stride)
      (y.toNat * surface.layout.stride + surface.layout.stride)) :=
  if_pos hy

theorem rowInWords_eq (surface : Surface) (y : UInt32) :
    surface.rowInWords y = .ok (surface.row? y) := by
  unfold rowInWords
  split
  · next hy => rw [row?, if_neg (UInt32.not_lt.mpr hy)]
  · next hy =>
    have hlt := UInt32.not_le.mp hy
    have hrow := surface.row_in_memory (UInt32.lt_iff_toNat_lt.mp hlt)
    have hsize := surface.size_lt
    rw [fit_of_lt (by omega), WordFault.ok_bind, fit_of_lt (by omega), WordFault.ok_bind,
      slice?_of_le (by omega) hrow, row?_of_lt hlt]

/-- The octets of a pixel on the surface lie in memory. -/
theorem offset?_in_memory {offset : Nat} (hoffset : offset? surface.layout x y = some offset) :
    offset + surface.layout.format.bytesPerPixel ≤ surface.memory.size := by
  unfold offset? at hoffset
  split at hoffset
  · next hon =>
    obtain rfl := Option.some.inj hoffset
    have hword := surface.word_in_memory (UInt32.lt_iff_toNat_lt.mp hon.1)
      (UInt32.lt_iff_toNat_lt.mp hon.2)
    rwa [Nat.add_mul, Nat.mul_assoc, ← Layout.stride] at hword
  · simp at hoffset

theorem offsetInWords_eq (surface : Surface) (x y : UInt32) :
    surface.offsetInWords x y = .ok (offset? surface.layout x y) := by
  unfold offsetInWords
  split
  · next hoff =>
    rw [offset?, if_neg]
    rintro ⟨hx, hy⟩
    exact hoff.elim (UInt32.not_le.mpr hx) (UInt32.not_le.mpr hy)
  · next hon =>
    obtain ⟨hx, hy⟩ := not_or.mp hon
    have hoffset : offset? surface.layout x y = some _ :=
      if_pos ⟨UInt32.not_le.mp hx, UInt32.not_le.mp hy⟩
    have hin := offset?_in_memory hoffset
    have hsize := surface.size_lt
    rw [hoffset, fit_of_lt (by omega), WordFault.ok_bind, fit_of_lt (by omega), WordFault.ok_bind,
      fit_of_lt (by omega), WordFault.ok_bind]

theorem pixelInWords_eq (surface : Surface) (x y : UInt32) :
    surface.pixelInWords x y = .ok (surface.pixel? x y) := by
  unfold pixelInWords pixel?
  rw [offsetInWords_eq, WordFault.ok_bind]
  cases hoffset : offset? surface.layout x y with
  | none => rfl
  | some offset =>
    have hin := offset?_in_memory hoffset
    have hsize := surface.size_lt
    dsimp only
    rw [fit_of_lt (by omega), WordFault.ok_bind, slice?_of_le (by omega) hin]
    rfl

theorem putPixelInWords_eq (surface : Surface) (x y color : UInt32) :
    surface.putPixelInWords x y color = .ok (surface.putPixel x y color) := by
  unfold putPixelInWords putPixel
  rw [offsetInWords_eq, WordFault.ok_bind]
  cases hoffset : offset? surface.layout x y with
  | none => rfl
  | some offset =>
    have hin := offset?_in_memory hoffset
    have hsize := surface.size_lt
    have hword : (pixelWord surface.layout.format color).length =
        surface.layout.format.bytesPerPixel := by simp [pixelWord]
    dsimp only
    rw [hword, fit_of_lt (by omega), WordFault.ok_bind, slice?_of_le (by omega) hin]

/-- A row of the surface has as many octets as the layout says. -/
theorem size_row {row : Array UInt8} (hrow : surface.row? y = some row) :
    row.size = surface.layout.stride := by
  unfold row? at hrow
  split at hrow
  · next hy =>
    obtain rfl := Option.some.inj hrow
    have hin := surface.row_in_memory (UInt32.lt_iff_toNat_lt.mp hy)
    rw [Array.size_extract]
    omega
  · simp at hrow

theorem fillRowInWords_eq (surface : Surface) {word : Octets} {left columns count row : Nat}
    (hword : word.length = surface.layout.format.bytesPerPixel)
    (hcolumns : left + columns ≤ surface.layout.width.toNat)
    (hrow : row < surface.layout.height.toNat) (hcount : count + columns < 2 ^ 64) :
    fillRowInWords word (left * word.length) (left * word.length + columns * word.length)
        (surface, count) row =
      .ok (surface.fillRow left columns word row, count + columns) := by
  have hnumber : (UInt32.ofNat row).toNat = row :=
    UInt32.toNat_ofNat_of_lt' (hrow.trans surface.layout.height.toNat_lt)
  have hfound := surface.row?_of_lt (y := .ofNat row)
    (by rwa [UInt32.lt_iff_toNat_lt, hnumber])
  have hinside : left * word.length + columns * word.length ≤ surface.layout.stride := by
    rw [← Nat.add_mul, hword]
    exact Nat.mul_le_mul_right _ hcolumns
  have hpixels : columns * word.length / word.length = columns :=
    Nat.mul_div_cancel _ (by rw [hword]; cases surface.layout.format <;> decide)
  unfold fillRowInWords
  dsimp only
  rw [rowInWords_eq, WordFault.ok_bind, hfound]
  dsimp only
  rw [slice_of_le (Nat.le_add_right _ _) (by rwa [size_row hfound]), WordFault.ok_bind,
    Array.size_extract, size_row hfound, Nat.min_eq_left hinside, Nat.add_sub_cancel_left, hpixels,
    fit_of_lt hcount, WordFault.ok_bind, hword]
  rfl

/-- Filling rows of the surface in words is filling them, as long as their pixels can be
counted. -/
theorem foldlM_fillRowInWords {word : Octets} {left columns : Nat} {rows : List Nat}
    {start : Surface × Nat} (hword : word.length = start.1.layout.format.bytesPerPixel)
    (hcolumns : left + columns ≤ start.1.layout.width.toNat)
    (hrows : ∀ row ∈ rows, row < start.1.layout.height.toNat)
    (hcount : start.2 + columns * rows.length < 2 ^ 64) :
    rows.foldlM (fillRowInWords word (left * word.length)
        (left * word.length + columns * word.length)) start =
      .ok (rows.foldl (fun (filled, count) y ↦
        (filled.fillRow left columns word y, count + columns)) start) := by
  induction rows generalizing start with
  | nil => rfl
  | cons row rows ih =>
    obtain ⟨filled, count⟩ := start
    rw [List.length_cons, Nat.mul_succ] at hcount
    rw [List.foldlM_cons, fillRowInWords_eq filled hword hcolumns (hrows row List.mem_cons_self)
      (by dsimp only at hcount; omega), WordFault.ok_bind, List.foldl_cons]
    refine ih hword hcolumns (fun next hnext ↦ hrows next (List.mem_cons_of_mem _ hnext)) ?_
    dsimp only at hcount ⊢
    omega

/-- There are fewer pixels on a surface than words of 64 bits can count. -/
theorem pixels_lt (surface : Surface) :
    surface.layout.width.toNat * surface.layout.height.toNat < 2 ^ 64 := by
  refine lt_of_le_of_lt ?_ surface.layout.length_lt
  refine Nat.mul_le_mul_right _ (Nat.le_mul_of_pos_right _ ?_)
  cases surface.layout.format <;> decide

theorem fillRectInWords_eq (surface : Surface) (rect : Rect) (color : UInt32) :
    surface.fillRectInWords rect color = .ok (surface.fillRect rect color) := by
  unfold fillRectInWords fillRect
  rw [Rect.clipInWords_eq, WordFault.ok_bind]
  cases hclip : rect.clip surface.layout.width surface.layout.height with
  | none => rfl
  | some part =>
    have hwithin := Rect.clip_within hclip
    obtain ⟨hleft, htop, -, -, hright, hbottom⟩ := hwithin
    simp only [Rect.right, Rect.bottom] at hright hbottom
    have hwide := part.width.toNat_lt
    have hx := part.x.toInt_lt
    have hy := part.y.toInt_lt
    have hheight := surface.layout.height.toNat_lt
    have hword : (pixelWord surface.layout.format color).length =
        surface.layout.format.bytesPerPixel := by simp [pixelWord]
    have hcolumns : part.x.toInt.toNat + part.width.toNat ≤ surface.layout.width.toNat := by omega
    have hcount : part.width.toNat * part.height.toNat < 2 ^ 64 := by
      refine lt_of_le_of_lt (Nat.mul_le_mul ?_ ?_) surface.pixels_lt <;> omega
    have hstride := ScreenDescriptor.stride_lt surface.layout.width surface.layout.format
    have hspan : part.x.toInt.toNat * surface.layout.format.bytesPerPixel +
        part.width.toNat * surface.layout.format.bytesPerPixel ≤
          surface.layout.width.toNat * surface.layout.format.bytesPerPixel := by
      rw [← Nat.add_mul]
      exact Nat.mul_le_mul_right _ hcolumns
    dsimp only
    rw [dropSign_of_nonneg hleft (by omega), WordFault.ok_bind, fit_of_lt (by rw [hword]; omega),
      WordFault.ok_bind, fit_of_lt (by rw [hword]; omega), WordFault.ok_bind,
      fit_of_lt (by rw [hword]; omega), WordFault.ok_bind, dropSign_of_nonneg htop (by omega),
      WordFault.ok_bind, fit_of_lt (by omega), WordFault.ok_bind, Nat.add_sub_cancel_left]
    refine foldlM_fillRowInWords hword hcolumns (fun row hrow ↦ ?_) ?_
    · rw [List.mem_range'_1] at hrow
      dsimp only
      omega
    · simpa using hcount

/-- How a surface computes in words: without a fault, with the results of the computation in
numbers, and so that what is on the surface is found in memory. -/
structure ExactInWords (surface : Surface) : Prop where
  row_eq : ∀ y, surface.rowInWords y = .ok (surface.row? y)
  /-- Every row above the height is there, and it lies in memory. -/
  row_isSome : ∀ y, ((surface.row? y).isSome ↔ y < surface.layout.height) ∧
    (y < surface.layout.height →
      y.toNat * surface.layout.stride + surface.layout.stride ≤ surface.memory.size)
  offset_eq : ∀ x y, surface.offsetInWords x y = .ok (offset? surface.layout x y)
  /-- Every pixel on the surface has its place, and it lies in memory. -/
  offset_iff : ∀ x y offset, offset? surface.layout x y = some offset ↔
    (x < surface.layout.width ∧ y < surface.layout.height) ∧
      offset = y.toNat * surface.layout.stride + x.toNat * surface.layout.format.bytesPerPixel ∧
      offset + surface.layout.format.bytesPerPixel ≤ surface.memory.size
  pixel_eq : ∀ x y, surface.pixelInWords x y = .ok (surface.pixel? x y)
  /-- Every pixel on the surface is read, and no other. -/
  pixel_isSome : ∀ x y, (surface.pixel? x y).isSome ↔
    x < surface.layout.width ∧ y < surface.layout.height
  putPixel_eq : ∀ x y color, surface.putPixelInWords x y color = .ok (surface.putPixel x y color)
  /-- Every pixel on the surface is set, and no other. -/
  putPixel_iff : ∀ x y color, (surface.putPixel x y color).2 = true ↔
    x < surface.layout.width ∧ y < surface.layout.height
  fillRect_eq : ∀ rect color,
    surface.fillRectInWords rect color = .ok (surface.fillRect rect color)
  /-- No row of a rectangle is passed over. -/
  fillRect_count : ∀ rect color,
    (surface.fillRect rect color).2 = (Grid.covered surface.layout rect).card

/-- Every surface computes exactly. -/
theorem exactInWords (surface : Surface) : surface.ExactInWords where
  row_eq := surface.rowInWords_eq
  row_isSome y := by
    refine ⟨?_, fun hy ↦ surface.row_in_memory (UInt32.lt_iff_toNat_lt.mp hy)⟩
    rw [row?, Option.isSome_ite]
  offset_eq := surface.offsetInWords_eq
  offset_iff x y offset := by
    constructor
    · intro hoffset
      have hin := offset?_in_memory hoffset
      rw [offset?, Option.ite_none_right_eq_some] at hoffset
      exact ⟨hoffset.1, (Option.some.inj hoffset.2).symm, hin⟩
    · rintro ⟨hon, rfl, -⟩
      exact if_pos hon
  pixel_eq := surface.pixelInWords_eq
  pixel_isSome x y := by rw [pixel?, Option.isSome_map, offset?, Option.isSome_ite]
  putPixel_eq := surface.putPixelInWords_eq
  putPixel_iff x y color := by
    by_cases hinside : x < surface.layout.width ∧ y < surface.layout.height
    · rw [surface.putPixel_of_inside hinside]
      exact iff_of_true rfl hinside
    · rw [surface.putPixel_of_outside hinside]
      exact iff_of_false Bool.false_ne_true hinside
  fillRect_eq := surface.fillRectInWords_eq
  fillRect_count := surface.count_fillRect

end Surface

/-- Framebuffers are computed exactly in words of 64 bits:

* the layout of a descriptor is the first that applies of an invalid size, a zero refresh rate, a
  pixel width that is not that of the format, a length of `2 ^ 64` octets or more, and success; it
  succeeds exactly if none of the four reasons applies, in words as in numbers;
* descriptors that agree in everything but the identifier have one layout;
* a layout has the size and the format of its descriptor, and the stride and the length are the
  products of the width, the octets of a pixel and the height;
* memory as long as a layout asks is a surface, and everything that is computed on it with any
  arguments is exact and stays in memory. -/
theorem framebuffer_arithmetic_exact (descriptor : ScreenDescriptor) :
    (∀ answer, descriptor.layout = answer ↔ descriptor.LayoutOutcome answer) ∧
    ((∃ layout, descriptor.layout = .ok layout) ↔
      (descriptor.width ≠ 0 ∧ descriptor.height ≠ 0) ∧ descriptor.refreshMhz ≠ 0 ∧
        descriptor.bitsPerPixel = descriptor.format.bitsPerPixel ∧
        descriptor.width.toNat * descriptor.format.bytesPerPixel * descriptor.height.toNat <
          2 ^ 64) ∧
    (descriptor.layoutInWords = descriptor.layout.map fun layout ↦
      (layout.width, layout.height, layout.format, layout.stride, layout.length)) ∧
    (∀ other : ScreenDescriptor, descriptor.sameMode other → descriptor.layout = other.layout) ∧
    ∀ layout, descriptor.layout = .ok layout →
      (layout.width = descriptor.width ∧ layout.height = descriptor.height ∧
        layout.format = descriptor.format ∧
        layout.stride = descriptor.width.toNat * descriptor.format.bytesPerPixel ∧
        layout.length = descriptor.width.toNat * descriptor.format.bytesPerPixel *
          descriptor.height.toNat) ∧
      ∀ memory : Array UInt8, memory.size = layout.length →
        ∃ surface, Surface.ofMemory layout memory = .ok surface ∧ surface.layout = layout ∧
          surface.memory = memory ∧ surface.ExactInWords := by
  refine ⟨fun _ ↦ ScreenDescriptor.layout_eq_iff, ?_, descriptor.layoutInWords_eq,
    fun other hsame ↦ ScreenDescriptor.layout_eq_of_sameMode hsame, fun layout hlayout ↦ ?_⟩
  · rw [ScreenDescriptor.exists_layout_iff]
    constructor
    · rintro ⟨⟨hwidth, hheight, hrefresh, hbits⟩, hfits⟩
      exact ⟨⟨hwidth, hheight⟩, hrefresh, hbits, hfits⟩
    · rintro ⟨⟨hwidth, hheight⟩, hrefresh, hbits, hfits⟩
      exact ⟨⟨hwidth, hheight, hrefresh, hbits⟩, hfits⟩
  · obtain ⟨hwidth, hheight, hformat⟩ := ScreenDescriptor.of_layout_eq hlayout
    refine ⟨⟨hwidth, hheight, hformat, ?_, ?_⟩, fun memory hsize ↦ ?_⟩
    · rw [Layout.stride, hwidth, hformat]
    · rw [Layout.length, Layout.stride, hwidth, hheight, hformat]
    · exact ⟨⟨layout, memory, hsize⟩, dif_pos hsize, rfl, rfl, Surface.exactInWords _⟩

end HeadlessDisplay
