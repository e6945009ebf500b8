import HeadlessDisplay.Output.Renderer
import HeadlessDisplay.Proofs.Screen.Coverage
import HeadlessDisplay.Proofs.Spelling
import Mathlib.Tactic.Ring

/-!
# Pixels of a surface

The memory of a surface is a table of pixel words. `slot` is a word of given size in memory, and
`word` the word of a pixel on a surface; `pixel?_eq` says that reading a pixel is reading its word.
Filling a rectangle sets the words of its pixels on the surface and no other (`word_fillRect`), and
so does filling damage (`word_drawAll_fillStrokes`). Two pixels never share an octet, which is the
arithmetic of `word_fillRow`. `PixelFormat.stored` is the part of a colour that a word keeps.

No act of drawing changes the layout (`layout_drawAll`, `layout_paint`).
-/

set_option autoImplicit false
set_option relaxedAutoImplicit false

namespace HeadlessDisplay

/-! ### Words in memory -/

/-- The octets of an overwritten array are the new ones where there are new ones. -/
theorem getElem?_overwrite (memory : Array UInt8) (position : Nat) (octets : Octets)
    (index : Nat) (hindex : index < memory.size) :
    (overwrite memory position octets)[index]? =
      if position ≤ index ∧ index < position + octets.length then octets[index - position]?
      else memory[index]? := by
  induction octets generalizing memory position with
  | nil =>
    rw [if_neg (by simp only [List.length_nil]; omega)]
    rfl
  | cons octet rest ih =>
    rw [overwrite, ih _ _ (by simpa using hindex)]
    simp only [List.length_cons]
    rcases Nat.lt_trichotomy index position with hlt | rfl | hgt
    · rw [if_neg (by omega), if_neg (by omega), Array.getElem?_setIfInBounds_ne (by omega)]
    · rw [if_neg (by omega), if_pos (by omega), Array.getElem?_setIfInBounds_self_of_lt hindex,
        Nat.sub_self, List.getElem?_cons_zero]
    · have hoffset : index - position = index - (position + 1) + 1 := by omega
      rw [hoffset, List.getElem?_cons_succ, Array.getElem?_setIfInBounds_ne (by omega)]
      congr 1
      simp only [eq_iff_iff]
      omega

/-- Writing two strings one after the other is writing them joined. -/
theorem overwrite_append (memory : Array UInt8) (position : Nat) (first second : Octets) :
    overwrite memory position (first ++ second) =
      overwrite (overwrite memory position first) (position + first.length) second := by
  induction first generalizing memory position with
  | nil => simp [overwrite]
  | cons octet rest ih =>
    simp only [List.cons_append, overwrite, ih, List.length_cons]
    congr 1
    omega

/-- The word of the given size with the given index in memory. -/
def slot (memory : Array UInt8) (size index : Nat) : Octets :=
  (memory.extract (index * size) (index * size + size)).toList

/-- A word that lies in memory is as long as it should be. -/
theorem length_slot {memory : Array UInt8} {size index : Nat}
    (hin : index * size + size ≤ memory.size) : (slot memory size index).length = size := by
  simp only [slot, Array.length_toList, Array.size_extract]
  omega

/-- The octets of a word are octets of the memory. -/
theorem getElem?_slot {memory : Array UInt8} {size index k : Nat}
    (hin : index * size + size ≤ memory.size) (hk : k < size) :
    (slot memory size index)[k]? = memory[index * size + k]? := by
  rw [slot, Array.getElem?_toList, Array.getElem?_extract_of_lt (by omega)]
  exact (Array.getElem?_eq_getElem (by omega)).symm

/-- Writing a word in its place changes that word and no other. -/
theorem slot_overwrite_word {memory : Array UInt8} {size start index : Nat} {word : Octets}
    (hword : word.length = size) (hin : index * size + size ≤ memory.size) :
    slot (overwrite memory (start * size) word) size index =
      if index = start then word else slot memory size index := by
  have hin' : index * size + size ≤ (overwrite memory (start * size) word).size := by simpa
  have hlength : (if index = start then word else slot memory size index).length = size := by
    split
    · exact hword
    · exact length_slot hin
  ext1 k
  by_cases hk : k < size
  · rw [getElem?_slot hin' hk, getElem?_overwrite _ _ _ _ (by omega), hword]
    rcases Nat.lt_trichotomy index start with hlt | rfl | hgt
    · have hbefore : (index + 1) * size ≤ start * size := Nat.mul_le_mul_right size hlt
      rw [Nat.add_mul] at hbefore
      rw [if_neg (by omega), if_neg (by omega), getElem?_slot hin hk]
    · rw [if_pos (by omega), if_pos rfl, Nat.add_sub_cancel_left]
    · have hafter : (start + 1) * size ≤ index * size := Nat.mul_le_mul_right size hgt
      rw [Nat.add_mul] at hafter
      rw [if_neg (by omega), if_neg (by omega), getElem?_slot hin hk]
  · rw [List.getElem?_eq_none (by rw [length_slot hin']; omega),
      List.getElem?_eq_none (by rw [hlength]; omega)]

/-- Writing copies of a word one after the other changes the words they lie on and no other. -/
theorem slot_overwrite_replicate {memory : Array UInt8} {size start count index : Nat}
    {word : Octets} (hword : word.length = size) (hin : index * size + size ≤ memory.size) :
    slot (overwrite memory (start * size) (List.replicate count word).flatten) size index =
      if start ≤ index ∧ index < start + count then word else slot memory size index := by
  induction count generalizing memory start with
  | zero =>
    rw [if_neg (by omega)]
    rfl
  | succ count ih =>
    have hnext : start * size + word.length = (start + 1) * size := by rw [hword]; ring
    rw [List.replicate_succ, List.flatten_cons, overwrite_append, hnext, ih (by simpa using hin),
      slot_overwrite_word hword hin]
    by_cases hhead : index = start
    · rw [if_neg (by omega), if_pos hhead, if_pos (by omega)]
    · rw [if_neg hhead]
      congr 1
      simp only [eq_iff_iff]
      omega

/-! ### Colours -/

/-- The part of a colour that a pixel keeps. -/
def PixelFormat.stored : PixelFormat → UInt32 → UInt32
  | .a8b8g8r8, color | .x8r8g8b8, color | .a8r8g8b8, color => color
  | .r5g6b5, color => color.toUInt16.toUInt32

/-- The word of a colour reads back as the part of the colour that is kept. -/
theorem PixelFormat.ofLittleEndian_pixelWord (format : PixelFormat) (color : UInt32) :
    UInt32.ofNat (Octets.ofLittleEndian (Surface.pixelWord format color)) =
      format.stored color := by
  have hcolor := color.toNat_lt
  rw [Surface.pixelWord, Octets.ofLittleEndian_littleEndian, ← UInt32.toNat_inj]
  cases format <;>
    simp only [bytesPerPixel, stored, UInt32.toNat_ofNat', UInt16.toNat_toUInt32,
      UInt32.toNat_toUInt16] <;>
    omega

namespace Surface

/-! ### Layouts -/

/-- Filling rows leaves the layout of a surface alone. -/
theorem layout_foldl_fillRow (x columns : Nat) (word : Octets) (rows : List Nat)
    (start : Surface × Nat) :
    (rows.foldl (fun (filled, count) y ↦
      (filled.fillRow x columns word y, count + columns)) start).1.layout = start.1.layout := by
  induction rows generalizing start with
  | nil => rfl
  | cons row rows ih => exact ih _

/-- Filling a rectangle leaves the layout of a surface alone. -/
@[simp] theorem layout_fillRect (surface : Surface) (rect : Rect) (color : UInt32) :
    (surface.fillRect rect color).1.layout = surface.layout := by
  unfold fillRect
  split
  · rfl
  · exact layout_foldl_fillRow _ _ _ _ _

/-- A stroke leaves the layout of a surface alone. -/
@[simp] theorem layout_draw (surface : Surface) (stroke : Stroke) :
    (surface.draw stroke).layout = surface.layout := by
  cases stroke with
  | pixel x y color =>
    simp only [draw, putPixel]
    split <;> rfl
  | rectangle rect color => exact layout_fillRect surface rect color
  | row y octets =>
    simp only [draw, writeRow]
    split <;> rfl

/-- Strokes leave the layout of a surface alone. -/
@[simp] theorem layout_drawAll (surface : Surface) (strokes : List Stroke) :
    (surface.drawAll strokes).layout = surface.layout := by
  induction strokes generalizing surface with
  | nil => rfl
  | cons stroke rest ih => exact (ih (surface.draw stroke)).trans (surface.layout_draw stroke)

/-- A renderer leaves the layout of a surface alone. -/
@[simp] theorem layout_paint (renderer : Renderer) (surface : Surface) (damage : Damage) :
    (renderer.paint surface damage).2.1.layout = surface.layout := by
  unfold Renderer.paint
  dsimp only
  split <;> exact layout_drawAll _ _

/-! ### Words of pixels -/

/-- The word of the pixel in the given column and row. -/
def word (surface : Surface) (column row : Nat) : Octets :=
  slot surface.memory surface.layout.format.bytesPerPixel
    (row * surface.layout.width.toNat + column)

/-- The words of pixels on a surface lie in its memory. -/
theorem word_in_memory (surface : Surface) {column row : Nat}
    (hcolumn : column < surface.layout.width.toNat) (hrow : row < surface.layout.height.toNat) :
    (row * surface.layout.width.toNat + column) * surface.layout.format.bytesPerPixel +
      surface.layout.format.bytesPerPixel ≤ surface.memory.size := by
  have hrows : (row + 1) * surface.layout.width.toNat ≤
      surface.layout.height.toNat * surface.layout.width.toNat := Nat.mul_le_mul_right _ hrow
  rw [Nat.add_mul] at hrows
  calc (row * surface.layout.width.toNat + column) * surface.layout.format.bytesPerPixel +
        surface.layout.format.bytesPerPixel
      = (row * surface.layout.width.toNat + column + 1) * surface.layout.format.bytesPerPixel := by
        ring
    _ ≤ surface.layout.height.toNat * surface.layout.width.toNat *
          surface.layout.format.bytesPerPixel := Nat.mul_le_mul_right _ (by omega)
    _ = surface.layout.length := by
        rw [Layout.length, Layout.stride]
        ring
    _ = surface.memory.size := surface.size_eq.symm

/-- Reading a pixel is reading its word. -/
theorem pixel?_eq (surface : Surface) {x y : UInt32} (hx : x < surface.layout.width)
    (hy : y < surface.layout.height) :
    surface.pixel? x y =
      some (UInt32.ofNat (Octets.ofLittleEndian (surface.word x.toNat y.toNat))) := by
  have hoffset : y.toNat * surface.layout.stride +
      x.toNat * surface.layout.format.bytesPerPixel =
        (y.toNat * surface.layout.width.toNat + x.toNat) *
          surface.layout.format.bytesPerPixel := by
    rw [Layout.stride]
    ring
  simp only [pixel?, offset?, hx, hy, and_self, if_true, Option.map_some, hoffset, word, slot]

/-- Filling a part of a row sets the words of its pixels and no other. -/
theorem word_fillRow (surface : Surface) {x count y column row : Nat} {pixel : Octets}
    (hpixel : pixel.length = surface.layout.format.bytesPerPixel)
    (hcount : x + count ≤ surface.layout.width.toNat)
    (hcolumn : column < surface.layout.width.toNat) (hrow : row < surface.layout.height.toNat) :
    (surface.fillRow x count pixel y).word column row =
      if row = y ∧ x ≤ column ∧ column < x + count then pixel else surface.word column row := by
  have hposition : y * surface.layout.stride + x * surface.layout.format.bytesPerPixel =
      (y * surface.layout.width.toNat + x) * surface.layout.format.bytesPerPixel := by
    rw [Layout.stride]
    ring
  simp only [word, fillRow, write, hposition]
  rw [slot_overwrite_replicate hpixel (surface.word_in_memory hcolumn hrow)]
  congr 1
  simp only [eq_iff_iff]
  -- Rows do not overlap, so the position of a pixel determines its row.
  rcases Nat.lt_trichotomy row y with hlt | rfl | hgt
  · have hbefore : (row + 1) * surface.layout.width.toNat ≤ y * surface.layout.width.toNat :=
      Nat.mul_le_mul_right _ hlt
    rw [Nat.add_mul] at hbefore
    omega
  · omega
  · have hafter : (y + 1) * surface.layout.width.toNat ≤ row * surface.layout.width.toNat :=
      Nat.mul_le_mul_right _ hgt
    rw [Nat.add_mul] at hafter
    omega

/-- Filling a part of several rows sets the words of their pixels and no other. -/
theorem word_foldl_fillRow (surface : Surface) (written : Nat) {x columns column row : Nat}
    {pixel : Octets} (rows : List Nat)
    (hpixel : pixel.length = surface.layout.format.bytesPerPixel)
    (hcount : x + columns ≤ surface.layout.width.toNat)
    (hcolumn : column < surface.layout.width.toNat) (hrow : row < surface.layout.height.toNat) :
    (rows.foldl (fun (filled, count) y ↦
      (filled.fillRow x columns pixel y, count + columns)) (surface, written)).1.word column row =
      if row ∈ rows ∧ x ≤ column ∧ column < x + columns then pixel
      else surface.word column row := by
  induction rows generalizing surface written with
  | nil => simp
  | cons y rows ih =>
    rw [List.foldl_cons, ih (surface.fillRow x columns pixel y) _ hpixel hcount hcolumn hrow,
      word_fillRow surface hpixel hcount hcolumn hrow]
    simp only [List.mem_cons]
    by_cases hinside : x ≤ column ∧ column < x + columns
    · by_cases hlater : row ∈ rows <;> by_cases hhere : row = y <;> simp [hinside, hlater, hhere]
    · simp [hinside]

/-- Filling a rectangle sets the words of its pixels on the surface and no other. -/
theorem word_fillRect (surface : Surface) (rect : Rect) (color : UInt32) {column row : Nat}
    (hcolumn : column < surface.layout.width.toNat) (hrow : row < surface.layout.height.toNat) :
    (surface.fillRect rect color).1.word column row =
      if rect.Covers column row then pixelWord surface.layout.format color
      else surface.word column row := by
  have hon : Rect.OnScreen surface.layout.width surface.layout.height column row :=
    Rect.onScreen_of_lt hcolumn hrow
  unfold fillRect
  split
  · next hclip =>
    rw [if_neg fun hcovers ↦ Rect.clip_eq_none hclip hcovers hon]
  · next part hclip =>
    have hwithin := Rect.clip_within hclip
    have hcovers := Rect.covers_of_clip_eq_some hclip column row
    obtain ⟨hleft, htop, -, -, hright, hbottom⟩ := hwithin
    simp only [Rect.right, Rect.bottom] at hright hbottom
    rw [word_foldl_fillRow surface _ _ (by simp [pixelWord]) (by omega) hcolumn hrow]
    congr 1
    simp only [eq_iff_iff, List.mem_range'_1]
    have hinside : rect.Covers column row ↔ part.Covers column row := by
      rw [hcovers, and_iff_left hon]
    rw [hinside]
    simp only [Rect.Covers, Rect.right, Rect.bottom]
    omega

/-- Filling damage sets the words of its pixels on the surface and no other. -/
theorem word_drawAll_fillStrokes (surface : Surface) (damage : Damage) (color : UInt32)
    {column row : Nat} (hcolumn : column < surface.layout.width.toNat)
    (hrow : row < surface.layout.height.toNat) :
    (damage.Covers column row →
      (surface.drawAll (Renderer.fillStrokes color damage)).word column row =
        pixelWord surface.layout.format color) ∧
    (¬damage.Covers column row →
      (surface.drawAll (Renderer.fillStrokes color damage)).word column row =
        surface.word column row) := by
  obtain ⟨rects⟩ := damage
  simp only [Damage.Covers, Renderer.fillStrokes, drawAll]
  induction rects generalizing surface with
  | nil => simp
  | cons rect rest ih =>
    have hword := surface.word_fillRect rect color hcolumn hrow
    have hlayout := surface.layout_fillRect rect color
    have hrest := ih (surface.fillRect rect color).1 (by rwa [hlayout]) (by rwa [hlayout])
    rw [hlayout, hword] at hrest
    simp only [List.map_cons, List.foldl_cons, draw, List.mem_cons, exists_eq_or_imp]
    by_cases hlater : ∃ rect ∈ rest, rect.Covers column row
    · exact ⟨fun _ ↦ hrest.1 hlater, fun hnone ↦ absurd (.inr hlater) hnone⟩
    · rw [hrest.2 hlater]
      constructor
      · intro hcovers
        rw [if_pos (hcovers.resolve_right hlater)]
      · intro hnone
        rw [if_neg fun hcovers ↦ hnone (.inl hcovers)]

end Surface

end HeadlessDisplay
