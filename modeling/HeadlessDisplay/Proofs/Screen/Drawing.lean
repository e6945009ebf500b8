import HeadlessDisplay.Proofs.Screen.Grid
import HeadlessDisplay.Proofs.Screen.Layouts
import Mathlib.Order.Interval.Finset.Nat

/-!
# Drawing on a surface is drawing on its array

Every act of drawing does to the array of a surface what the act of the same name does to the array
(`Surface.ofMemory_draw`), and so do acts one after another (`Surface.ofMemory_drawAll`). Filling a
rectangle counts the cells that it covers (`Surface.count_fillRect`) and is the same as setting
their pixels in any order (`Surface.fillRect_eq_putAll`). `Surface.ActsAsGrid` collects what is
drawn, counted and read, and holds of every surface; `Surface.drawAll_acts_as_grid` starts from a
descriptor and memory.

Two pixels never share an octet because rows and words have their own places in memory; this is
used here through the words of a surface and not unfolded again.
-/

set_option autoImplicit false
set_option relaxedAutoImplicit false

namespace HeadlessDisplay

/-- So many numbers lie in an interval. -/
theorem card_filter_between {size left count : Nat} (hfits : left + count ≤ size) :
    (Finset.univ.filter fun index : Fin size ↦
      left ≤ index.val ∧ index.val < left + count).card = count := by
  have hinterval : (Finset.univ.filter fun index : Fin size ↦
      left ≤ index.val ∧ index.val < left + count).map Fin.valEmbedding =
      Finset.Ico left (left + count) := by
    ext index
    simp only [Finset.mem_map, Finset.mem_filter, Finset.mem_univ, true_and,
      Fin.valEmbedding_apply, Finset.mem_Ico]
    constructor
    · rintro ⟨index, hinside, rfl⟩
      exact hinside
    · intro hinside
      exact ⟨⟨index, by omega⟩, hinside, rfl⟩
  rw [← Finset.card_map Fin.valEmbedding, hinterval, Nat.card_Ico, Nat.add_sub_cancel_left]

namespace Surface

/-! ### Drawing -/

/-- Setting a pixel that is not on the surface changes nothing. -/
theorem putPixel_of_outside (surface : Surface) {x y : UInt32}
    (houtside : ¬(x < surface.layout.width ∧ y < surface.layout.height)) (color : UInt32) :
    surface.putPixel x y color = (surface, false) := by
  simp only [putPixel, offset?, if_neg houtside]

/-- Setting a pixel on the surface is filling its row for one pixel. -/
theorem putPixel_of_inside (surface : Surface) {x y : UInt32}
    (hinside : x < surface.layout.width ∧ y < surface.layout.height) (color : UInt32) :
    surface.putPixel x y color =
      (surface.fillRow x.toNat 1 (pixelWord surface.layout.format color) y.toNat, true) := by
  simp only [putPixel, offset?, if_pos hinside, fillRow, List.replicate_one, List.flatten_cons,
    List.flatten_nil, List.append_nil]

/-- Setting a pixel leaves the layout alone. -/
@[simp] theorem layout_putPixel (surface : Surface) (x y color : UInt32) :
    (surface.putPixel x y color).1.layout = surface.layout :=
  surface.layout_draw (.pixel x y color)

/-- Setting a pixel sets the word in its column and row, if there is one, and no other. -/
theorem ofMemory_putPixel (surface : Surface) (x y color : UInt32) :
    Grid.ofMemory surface.layout (surface.putPixel x y color).1.memory =
      surface.grid.put x y color := by
  ext1
  funext column row
  by_cases hinside : x < surface.layout.width ∧ y < surface.layout.height
  · have hcount : x.toNat + 1 ≤ surface.layout.width.toNat := UInt32.lt_iff_toNat_lt.mp hinside.1
    have hword := surface.word_fillRow (y := y.toNat)
      (show (pixelWord surface.layout.format color).length = _ by simp [pixelWord])
      hcount column.isLt row.isLt
    rw [putPixel_of_inside surface hinside]
    show Grid.read ((surface.fillRow x.toNat 1 _ y.toNat).word column row) = _
    rw [hword, apply_ite Grid.read, Grid.read_pixelWord, Grid.put]
    congr 1
    simp only [eq_iff_iff]
    omega
  · have helsewhere : ¬(column.val = x.toNat ∧ row.val = y.toNat) := by
      rintro ⟨hcolumn, hrow⟩
      apply hinside
      rw [UInt32.lt_iff_toNat_lt, UInt32.lt_iff_toNat_lt, ← hcolumn, ← hrow]
      exact ⟨column.isLt, row.isLt⟩
    simp only [putPixel_of_outside surface hinside, Grid.put, if_neg helsewhere, grid]

/-- Filling a rectangle sets the words that it covers and no other. -/
theorem ofMemory_fillRect (surface : Surface) (rect : Rect) (color : UInt32) :
    Grid.ofMemory surface.layout (surface.fillRect rect color).1.memory =
      surface.grid.paint rect color := by
  ext1
  funext column row
  have hword := surface.word_fillRect rect color column.isLt row.isLt
  rw [word, layout_fillRect] at hword
  simp only [Grid.ofMemory, hword, apply_ite Grid.read, Grid.read_pixelWord, Grid.paint]
  rfl

/-- Writing from the start of a row on replaces the front of the row and leaves the other rows
alone. -/
theorem ofMemory_writeRow (surface : Surface) (y : UInt32) (octets : Octets) :
    Grid.ofMemory surface.layout (surface.writeRow y octets).1.memory =
      surface.grid.writeRow y octets := by
  by_cases hy : y.toNat < surface.layout.height.toNat
  · have hfits : (octets.take surface.layout.stride).length ≤ surface.layout.stride :=
      List.length_take_le _ _
    rw [writeRow, if_pos (UInt32.lt_iff_toNat_lt.mpr hy), Grid.writeRow, dif_pos hy]
    ext1
    funext column row
    simp only [Grid.ofMemory, Grid.withRow, write]
    rw [← take_drop_slot _ column.isLt, ← Layout.stride]
    have hrow := surface.row_in_memory row.isLt
    by_cases hsame : row = ⟨y.toNat, hy⟩
    · subst hsame
      have hleft : (slot surface.memory surface.layout.stride y.toNat).drop
          (min surface.layout.stride octets.length) =
            (slot surface.memory surface.layout.stride y.toNat).drop octets.length := by
        rcases Nat.le_total octets.length surface.layout.stride with hshort | hlong
        · rw [Nat.min_eq_right hshort]
        · rw [Nat.min_eq_left hlong, List.drop_of_length_le (by rw [length_slot hrow]),
            List.drop_of_length_le (by rw [length_slot hrow]; exact hlong)]
      rw [if_pos rfl, slot_overwrite_front hrow hfits, row_grid, List.length_take, hleft]
    · have hdisjoint : row.val * surface.layout.stride + surface.layout.stride ≤
          y.toNat * surface.layout.stride ∨
          y.toNat * surface.layout.stride + (octets.take surface.layout.stride).length ≤
            row.val * surface.layout.stride := by
        have hother : row.val ≠ y.toNat := fun heq ↦ hsame (Fin.ext heq)
        rcases Nat.lt_or_gt_of_ne hother with hbefore | hafter
        · left
          have hrows := Nat.mul_le_mul_right surface.layout.stride hbefore
          rwa [Nat.succ_mul] at hrows
        · right
          have hrows := Nat.mul_le_mul_right surface.layout.stride hafter
          rw [Nat.succ_mul] at hrows
          omega
      rw [if_neg hsame, slot_overwrite_of_disjoint hrow hdisjoint, Layout.stride,
        take_drop_slot _ column.isLt]
      rfl
  · rw [writeRow, if_neg (fun hlt ↦ hy (UInt32.lt_iff_toNat_lt.mp hlt)), Grid.writeRow,
      dif_neg hy, grid]

/-- Drawing a stroke on a surface is drawing it on the array. -/
theorem ofMemory_draw (surface : Surface) (stroke : Stroke) :
    Grid.ofMemory surface.layout (surface.draw stroke).memory = surface.grid.draw stroke := by
  cases stroke with
  | pixel x y color => exact surface.ofMemory_putPixel x y color
  | rectangle rect color => exact surface.ofMemory_fillRect rect color
  | row y octets => exact surface.ofMemory_writeRow y octets

/-- Drawing strokes on a surface is drawing them on the array. -/
theorem ofMemory_drawAll (surface : Surface) (strokes : List Stroke) :
    Grid.ofMemory surface.layout (surface.drawAll strokes).memory =
      strokes.foldl Grid.draw surface.grid := by
  induction strokes generalizing surface with
  | nil => rfl
  | cons stroke rest ih =>
    have hrest := ih (surface.draw stroke)
    rw [grid, layout_draw, ofMemory_draw] at hrest
    exact hrest

/-! ### Counting -/

/-- A part of a screen has as many cells as its width times its height. -/
theorem card_covered {layout : Layout} {part : Rect}
    (hwithin : part.Within layout.width layout.height) :
    (Grid.covered layout part).card = part.width.toNat * part.height.toNat := by
  obtain ⟨hleft, htop, -, -, hright, hbottom⟩ := hwithin
  simp only [Rect.right, Rect.bottom] at hright hbottom
  obtain ⟨left, hx⟩ := Int.eq_ofNat_of_zero_le hleft
  obtain ⟨top, hy⟩ := Int.eq_ofNat_of_zero_le htop
  have hcells : Grid.covered layout part =
      (Finset.univ.filter fun column : Fin layout.width.toNat ↦
        left ≤ column.val ∧ column.val < left + part.width.toNat) ×ˢ
      (Finset.univ.filter fun row : Fin layout.height.toNat ↦
        top ≤ row.val ∧ row.val < top + part.height.toNat) := by
    ext ⟨column, row⟩
    simp only [Grid.covered, Finset.mem_filter, Finset.mem_univ, true_and, Finset.mem_product,
      Rect.Covers, Rect.right, Rect.bottom, hx, hy]
    omega
  rw [hcells, Finset.card_product, card_filter_between (by omega), card_filter_between (by omega)]

/-- Filling rows counts the pixels of each. -/
theorem count_foldl_fillRow (x columns : Nat) (word : Octets) (rows : List Nat)
    (start : Surface × Nat) :
    (rows.foldl (fun (filled, count) y ↦
      (filled.fillRow x columns word y, count + columns)) start).2 =
      start.2 + columns * rows.length := by
  induction rows generalizing start with
  | nil => simp
  | cons row rows ih =>
    rw [List.foldl_cons, ih, List.length_cons, Nat.mul_succ]
    dsimp only
    omega

/-- Filling a rectangle counts the cells that it covers. -/
theorem count_fillRect (surface : Surface) (rect : Rect) (color : UInt32) :
    (surface.fillRect rect color).2 = (Grid.covered surface.layout rect).card := by
  unfold fillRect
  split
  · next hclip =>
    have hnone : Grid.covered surface.layout rect = ∅ := by
      refine Finset.filter_eq_empty_iff.mpr fun cell _ hcovers ↦ ?_
      exact Rect.clip_eq_none hclip hcovers (Rect.onScreen_of_lt cell.1.isLt cell.2.isLt)
    rw [hnone, Finset.card_empty]
  · next part hclip =>
    have hpart : Grid.covered surface.layout rect = Grid.covered surface.layout part := by
      refine Finset.filter_congr fun cell _ ↦ ?_
      rw [Rect.covers_of_clip_eq_some hclip,
        and_iff_left (Rect.onScreen_of_lt cell.1.isLt cell.2.isLt)]
    rw [hpart, card_covered (Rect.clip_within hclip)]
    dsimp only
    rw [count_foldl_fillRow, List.length_range', Nat.zero_add]

/-! ### Pixel by pixel -/

/-- Sets the pixels of cells one after another. -/
def putAll {layout : Layout} (surface : Surface)
    (cells : List (Fin layout.width.toNat × Fin layout.height.toNat)) (color : UInt32) : Surface :=
  cells.foldl (fun drawn cell ↦
    (drawn.putPixel (UInt32.ofNat cell.1) (UInt32.ofNat cell.2) color).1) surface

/-- Setting the pixels of cells leaves the layout alone. -/
theorem layout_putAll {layout : Layout} (surface : Surface)
    (cells : List (Fin layout.width.toNat × Fin layout.height.toNat)) (color : UInt32) :
    (surface.putAll cells color).layout = surface.layout := by
  induction cells generalizing surface with
  | nil => rfl
  | cons cell rest ih => exact (ih _).trans (surface.layout_putPixel _ _ _)

/-- Setting the pixels of cells sets their words and no other. -/
theorem cell_putAll {layout : Layout} {surface : Surface} (hlayout : surface.layout = layout)
    (cells : List (Fin layout.width.toNat × Fin layout.height.toNat)) (color : UInt32)
    (column : Fin layout.width.toNat) (row : Fin layout.height.toNat) :
    (Grid.ofMemory layout (surface.putAll cells color).memory).cell column row =
      if (column, row) ∈ cells then Grid.wordOf layout color
      else (Grid.ofMemory layout surface.memory).cell column row := by
  induction cells generalizing surface with
  | nil => rw [if_neg List.not_mem_nil, putAll, List.foldl_nil]
  | cons cell rest ih =>
    have hkept : (surface.putPixel (UInt32.ofNat cell.1) (UInt32.ofNat cell.2) color).1.layout =
        layout := (surface.layout_putPixel _ _ _).trans hlayout
    have hrest := ih hkept
    obtain rfl := hlayout
    have hcolumn : (UInt32.ofNat cell.1).toNat = cell.1.val :=
      UInt32.toNat_ofNat_of_lt' (cell.1.isLt.trans surface.layout.width.toNat_lt)
    have hrow : (UInt32.ofNat cell.2).toNat = cell.2.val :=
      UInt32.toNat_ofNat_of_lt' (cell.2.isLt.trans surface.layout.height.toNat_lt)
    rw [ofMemory_putPixel] at hrest
    rw [putAll, List.foldl_cons]
    refine hrest.trans ?_
    simp only [Grid.put, hcolumn, hrow, Fin.val_inj, List.mem_cons, Prod.ext_iff, grid]
    by_cases hlater : (column, row) ∈ rest
    · simp only [hlater, or_true, if_true]
    · simp only [hlater, or_false, if_false]

/-- Filling a rectangle is setting the pixels that it covers, in any order and as often as one
likes. -/
theorem fillRect_eq_putAll (surface : Surface) (rect : Rect) (color : UInt32)
    (cells : List (Fin surface.layout.width.toNat × Fin surface.layout.height.toNat))
    (hcells : ∀ cell, cell ∈ cells ↔ rect.Covers cell.1 cell.2) :
    (surface.fillRect rect color).1 = surface.putAll cells color := by
  refine eq_of_grid_eq ?_ ?_
  · rw [layout_putAll, layout_fillRect]
  · rw [grid, layout_putAll, ofMemory_fillRect]
    ext1
    funext column row
    rw [cell_putAll rfl, Grid.paint]
    simp only [hcells, grid]

/-! ### Reading -/

/-- A pixel on the surface reads as its word, and there is no other. -/
theorem pixel?_eq_cell (surface : Surface) (x y : UInt32) :
    surface.pixel? x y =
      if h : x.toNat < surface.layout.width.toNat ∧ y.toNat < surface.layout.height.toNat then
        some (UInt32.ofNat (surface.grid.cell ⟨x.toNat, h.1⟩ ⟨y.toNat, h.2⟩).toNat)
      else none := by
  split
  · next h =>
    have hlength := length_slot (surface.word_in_memory h.1 h.2)
    have hlt := Octets.ofLittleEndian_lt (surface.word x.toNat y.toNat)
    rw [word, hlength, Grid.pow_octets] at hlt
    rw [surface.pixel?_eq (UInt32.lt_iff_toNat_lt.mpr h.1) (UInt32.lt_iff_toNat_lt.mpr h.2)]
    simp only [grid, Grid.ofMemory, Grid.read, BitVec.toNat_ofNat]
    rw [word, Nat.mod_eq_of_lt hlt]
  · next h =>
    rw [pixel?, offset?, if_neg, Option.map_none]
    rwa [UInt32.lt_iff_toNat_lt, UInt32.lt_iff_toNat_lt]

/-- A row of the surface is that of the array, and there is no other. -/
theorem row?_eq_row (surface : Surface) (y : UInt32) :
    (surface.row? y).map Array.toList =
      if h : y.toNat < surface.layout.height.toNat then some (surface.grid.row ⟨y.toNat, h⟩)
      else none := by
  split
  · next h =>
    rw [row?, if_pos (UInt32.lt_iff_toNat_lt.mpr h), row_grid]
    rfl
  · next h =>
    rw [row?, if_neg fun hlt ↦ h (UInt32.lt_iff_toNat_lt.mp hlt)]
    rfl

/-- How a surface acts as its array. -/
structure ActsAsGrid (surface : Surface) : Prop where
  /-- The memory holds the words row by row, least significant octet first. -/
  memory_eq : surface.memory.toList = surface.grid.octets
  /-- A pixel on the surface is set, and no other changes. -/
  putPixel_inside : ∀ {x y : UInt32} (color : UInt32),
    x < surface.layout.width ∧ y < surface.layout.height →
      (surface.putPixel x y color).2 = true ∧
        Grid.ofMemory surface.layout (surface.putPixel x y color).1.memory =
          surface.grid.put x y color
  /-- Nothing changes for a pixel that is not on the surface. -/
  putPixel_outside : ∀ {x y : UInt32} (color : UInt32),
    ¬(x < surface.layout.width ∧ y < surface.layout.height) →
      surface.putPixel x y color = (surface, false)
  /-- The words that a rectangle covers are set and counted, and no other changes. -/
  fillRect_eq : ∀ rect color,
    Grid.ofMemory surface.layout (surface.fillRect rect color).1.memory =
        surface.grid.paint rect color ∧
      (surface.fillRect rect color).2 = (Grid.covered surface.layout rect).card
  /-- Filling a rectangle is setting its pixels one after another. -/
  fillRect_eq_pixels : ∀ rect color cells,
    (∀ cell, cell ∈ cells ↔ cell ∈ Grid.covered surface.layout rect) →
      (surface.fillRect rect color).1 = surface.putAll cells color
  /-- Filling the surface is a stroke that sets every word. -/
  fill_eq : ∀ color,
    (surface.fill color).1 =
        surface.draw (.rectangle (.whole surface.layout.width surface.layout.height) color) ∧
      (∀ column row, (Grid.ofMemory surface.layout (surface.fill color).1.memory).cell column row =
        Grid.wordOf surface.layout color) ∧
      (surface.fill color).2 = surface.layout.width.toNat * surface.layout.height.toNat
  /-- A pixel on the surface reads as its word, and there is no other. -/
  pixel?_eq : ∀ x y : UInt32, surface.pixel? x y =
    if h : x.toNat < surface.layout.width.toNat ∧ y.toNat < surface.layout.height.toNat then
      some (UInt32.ofNat (surface.grid.cell ⟨x.toNat, h.1⟩ ⟨y.toNat, h.2⟩).toNat)
    else none
  /-- A row of the surface is the words of the row, and there is no other. -/
  row?_eq : ∀ y : UInt32, (surface.row? y).map Array.toList =
    if h : y.toNat < surface.layout.height.toNat then some (surface.grid.row ⟨y.toNat, h⟩)
    else none
  /-- Octets written into a row, as many as fit, replace the front of that row and are counted, and
  no other row changes. -/
  writeRow_inside : ∀ (y : UInt32) (octets : Octets)
    (hy : y.toNat < surface.layout.height.toNat),
    let content := octets.take surface.layout.stride ++
      (surface.grid.row ⟨y.toNat, hy⟩).drop octets.length
    Grid.ofMemory surface.layout (surface.writeRow y octets).1.memory =
        surface.grid.withRow ⟨y.toNat, hy⟩ content ∧
      (surface.grid.withRow ⟨y.toNat, hy⟩ content).row ⟨y.toNat, hy⟩ = content ∧
      (surface.writeRow y octets).2 = some (min octets.length surface.layout.stride)
  /-- Nothing is written into a row that is not on the surface. -/
  writeRow_outside : ∀ (y : UInt32) (octets : Octets),
    ¬y.toNat < surface.layout.height.toNat → surface.writeRow y octets = (surface, none)

/-- Every surface acts as its array. -/
theorem actsAsGrid (surface : Surface) : surface.ActsAsGrid where
  memory_eq := surface.octets_grid.symm
  putPixel_inside color hinside :=
    ⟨congrArg Prod.snd (surface.putPixel_of_inside hinside color),
      surface.ofMemory_putPixel _ _ color⟩
  putPixel_outside color houtside := surface.putPixel_of_outside houtside color
  fillRect_eq rect color :=
    ⟨surface.ofMemory_fillRect rect color, surface.count_fillRect rect color⟩
  fillRect_eq_pixels rect color cells hcells :=
    surface.fillRect_eq_putAll rect color cells fun cell ↦ by
      rw [hcells, Grid.covered, Finset.mem_filter, and_iff_right (Finset.mem_univ cell)]
  fill_eq color := by
    have hcovers : ∀ (column : Fin surface.layout.width.toNat)
        (row : Fin surface.layout.height.toNat),
        (Rect.whole surface.layout.width surface.layout.height).Covers column row :=
      fun column row ↦ (Rect.covers_whole _ _ _ _).mpr (Rect.onScreen_of_lt column.isLt row.isLt)
    refine ⟨rfl, fun column row ↦ ?_, ?_⟩
    · rw [fill, ofMemory_fillRect, Grid.paint]
      exact if_pos (hcovers column row)
    · have hall : Grid.covered surface.layout
          (Rect.whole surface.layout.width surface.layout.height) = Finset.univ :=
        Finset.filter_true_of_mem fun cell _ ↦ hcovers cell.1 cell.2
      rw [fill, count_fillRect, hall, Finset.card_univ, Fintype.card_prod, Fintype.card_fin,
        Fintype.card_fin]
  pixel?_eq := surface.pixel?_eq_cell
  row?_eq := surface.row?_eq_row
  writeRow_inside y octets hy := by
    refine ⟨?_, ?_, ?_⟩
    · rw [ofMemory_writeRow, Grid.writeRow, dif_pos hy]
    · apply Grid.row_withRow
      rw [List.length_append, List.length_take, List.length_drop, row_grid,
        length_slot (surface.row_in_memory hy)]
      omega
    · rw [writeRow, if_pos (UInt32.lt_iff_toNat_lt.mpr hy)]
      simp only [List.length_take, Nat.min_comm]
  writeRow_outside y octets hy := by
    rw [writeRow, if_neg fun hlt ↦ hy (UInt32.lt_iff_toNat_lt.mp hlt)]

/-- Memory of the right length for a descriptor's layout is a surface in that layout. After any
strokes it is as long as before, it holds the array that the same strokes draw from the array it
held before, and it acts as that array in everything that is drawn on it and read from it. The
array has the descriptor's size and words of 32 bits, or of 16 in the one format that has them. -/
theorem drawAll_acts_as_grid {descriptor : ScreenDescriptor} {layout : Layout}
    (hlayout : descriptor.layout = .ok layout) {memory : Array UInt8}
    (hsize : memory.size = layout.length) (strokes : List Stroke) :
    (layout.width = descriptor.width ∧ layout.height = descriptor.height ∧
      8 * layout.format.bytesPerPixel = if descriptor.format = .r5g6b5 then 16 else 32) ∧
    ∃ surface, ofMemory layout memory = .ok surface ∧
      (surface.drawAll strokes).layout = layout ∧
      (surface.drawAll strokes).memory.size = layout.length ∧
      Grid.ofMemory layout (surface.drawAll strokes).memory =
        strokes.foldl Grid.draw (Grid.ofMemory layout memory) ∧
      (surface.drawAll strokes).ActsAsGrid := by
  obtain ⟨hwidth, hheight, hformat⟩ := ScreenDescriptor.of_layout_eq hlayout
  have hbits : 8 * layout.format.bytesPerPixel =
      if descriptor.format = .r5g6b5 then 16 else 32 := by
    rw [hformat]
    cases descriptor.format <;> rfl
  let surface : Surface := ⟨layout, memory, hsize⟩
  have hkept : (surface.drawAll strokes).layout = layout := surface.layout_drawAll strokes
  refine ⟨⟨hwidth, hheight, hbits⟩, surface, dif_pos hsize, hkept, ?_,
    surface.ofMemory_drawAll strokes, actsAsGrid _⟩
  rw [(surface.drawAll strokes).size_eq, hkept]

/-- Two words of two octets, of which one is set to more than it holds and both are then reached by
a rectangle that overhangs on the left and below. -/
theorem drawAll_of_sixteen_bits :
    let descriptor := { ScreenDescriptor.withSize 2 1 with bitsPerPixel := 16, format := .r5g6b5 }
    let layout : Layout := ⟨2, 1, .r5g6b5, by decide, by decide, by decide⟩
    let strokes : List Stroke :=
      [.pixel 1 0 0xABCDF800, .pixel 2 0 7, .rectangle ⟨-1, 0, 2, 5⟩ 0x20304]
    let memory : Array UInt8 := #[1, 2, 3, 4]
    descriptor.layout = .ok layout ∧ memory.size = layout.length ∧
      ∃ surface, ofMemory layout memory = .ok surface ∧
        (surface.drawAll strokes).memory.toList = [4, 3, 0, 0xF8] := by
  intro descriptor layout strokes memory
  have hlayout : descriptor.layout = .ok layout := rfl
  have hsize : memory.size = layout.length := rfl
  obtain ⟨-, surface, hsurface, hkept, -, hgrid, hacts⟩ :=
    drawAll_acts_as_grid hlayout hsize strokes
  have hmemory := hacts.memory_eq
  rw [grid, hkept, hgrid] at hmemory
  exact ⟨hlayout, hsize, surface, hsurface, hmemory.trans (by decide)⟩

end Surface

end HeadlessDisplay
