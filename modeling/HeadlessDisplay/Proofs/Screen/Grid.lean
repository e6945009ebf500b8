import HeadlessDisplay.Proofs.Screen.Pixels
import Mathlib.Data.Fintype.Prod

/-!
# The array of words in a surface

A `Grid` is a two-dimensional array of words in the size and with the word width of a layout. The
acts of drawing on it (`Grid.put`, `Grid.paint`, `Grid.writeRow`, `Grid.draw`) are stated cell by
cell over the integers, with no memory and no clipping in them. `Surface.grid` is the array that
lies in the memory of a surface.

Rows and memory are the words one after another (`Surface.row_grid`, `Surface.octets_grid`), so a
surface is determined by its layout and its array (`Surface.eq_of_grid_eq`). The two facts about
memory behind it are that a row is cut into words as the memory is (`take_drop_slot`), and that
octets written at the front of a row leave the other rows alone (`slot_overwrite_front`,
`slot_overwrite_of_disjoint`).
-/

set_option autoImplicit false
set_option relaxedAutoImplicit false

namespace HeadlessDisplay

/-! ### Cutting octets into words -/

/-- Octets in the number of some words are these words one after another. -/
theorem eq_flatMap_words {octets : Octets} {size count : Nat}
    (hlength : octets.length = count * size) :
    octets = (List.range count).flatMap fun index ↦ (octets.drop (index * size)).take size := by
  induction count generalizing octets with
  | zero => simpa using hlength
  | succ count ih =>
    rw [Nat.add_mul, Nat.one_mul] at hlength
    have htail : (octets.drop size).length = count * size := by
      rw [List.length_drop]
      omega
    have hrest := ih htail
    rw [List.range_succ_eq_map, List.flatMap_cons, List.flatMap_map, Nat.zero_mul, List.drop_zero]
    have hlater : ∀ index, (octets.drop ((index + 1) * size)).take size =
        ((octets.drop size).drop (index * size)).take size := by
      intro index
      rw [List.drop_drop]
      congr 2
      ring
    simp only [Nat.succ_eq_add_one, hlater, ← hrest, List.take_append_drop]

/-- A word of memory is a part of it. -/
theorem slot_eq_take_drop (memory : Array UInt8) (size index : Nat) :
    slot memory size index = (memory.toList.drop (index * size)).take size := by
  rw [slot, Array.toList_extract]
  simp [List.extract_eq_take_drop]

/-- The words of a row are words of the memory. -/
theorem take_drop_slot (memory : Array UInt8) {size count column row : Nat}
    (hcolumn : column < count) :
    ((slot memory (count * size) row).drop (column * size)).take size =
      slot memory size (row * count + column) := by
  have hinside : (column + 1) * size ≤ count * size := Nat.mul_le_mul_right size hcolumn
  rw [Nat.add_mul, Nat.one_mul] at hinside
  have hstart : row * (count * size) + column * size = (row * count + column) * size := by ring
  rw [slot_eq_take_drop, slot_eq_take_drop, List.drop_take, List.take_take, List.drop_drop,
    hstart, Nat.min_eq_left (by omega)]

/-- Octets written elsewhere leave a word alone. -/
theorem slot_overwrite_of_disjoint {memory : Array UInt8} {size index position : Nat}
    {octets : Octets} (hin : index * size + size ≤ memory.size)
    (hdisjoint : index * size + size ≤ position ∨ position + octets.length ≤ index * size) :
    slot (overwrite memory position octets) size index = slot memory size index := by
  have hin' : index * size + size ≤ (overwrite memory position octets).size := by simpa
  ext1 k
  by_cases hk : k < size
  · rw [getElem?_slot hin' hk, getElem?_slot hin hk, getElem?_overwrite _ _ _ _ (by omega),
      if_neg (by omega)]
  · rw [List.getElem?_eq_none (by rw [length_slot hin']; omega),
      List.getElem?_eq_none (by rw [length_slot hin]; omega)]

/-- Octets written from the beginning of a word on replace as many of its octets. -/
theorem slot_overwrite_front {memory : Array UInt8} {size index : Nat} {octets : Octets}
    (hin : index * size + size ≤ memory.size) (hfits : octets.length ≤ size) :
    slot (overwrite memory (index * size) octets) size index =
      octets ++ (slot memory size index).drop octets.length := by
  have hin' : index * size + size ≤ (overwrite memory (index * size) octets).size := by simpa
  have hlength : (octets ++ (slot memory size index).drop octets.length).length = size := by
    rw [List.length_append, List.length_drop, length_slot hin]
    omega
  ext1 k
  by_cases hk : k < size
  · rw [getElem?_slot hin' hk, getElem?_overwrite _ _ _ _ (by omega)]
    by_cases hfront : k < octets.length
    · rw [if_pos (by omega), Nat.add_sub_cancel_left, List.getElem?_append_left hfront]
    · rw [if_neg (by omega), List.getElem?_append_right (by omega), List.getElem?_drop,
        getElem?_slot hin (by omega)]
      congr 1
      omega
  · rw [List.getElem?_eq_none (by rw [length_slot hin']; omega),
      List.getElem?_eq_none (by rw [hlength]; omega)]

/-! ### Grids -/

/-- A two-dimensional array of words, in the size and with the words of a layout. -/
@[ext]
structure Grid (layout : Layout) where
  /-- The word in a column and a row. -/
  cell : Fin layout.width.toNat → Fin layout.height.toNat → BitVec (8 * layout.format.bytesPerPixel)

namespace Grid

variable {layout : Layout}

/-- The word of a colour, of which it keeps as many low bits as it has. -/
def wordOf (layout : Layout) (color : UInt32) : BitVec (8 * layout.format.bytesPerPixel) :=
  BitVec.ofNat _ color.toNat

/-- The octets of a word, least significant first. -/
def spell {size : Nat} (word : BitVec (8 * size)) : Octets :=
  Octets.littleEndian size word.toNat

/-- The word that octets spell, least significant first. -/
def read {size : Nat} (octets : Octets) : BitVec (8 * size) :=
  BitVec.ofNat _ (Octets.ofLittleEndian octets)

/-- The octets of a row. -/
def row (grid : Grid layout) (y : Fin layout.height.toNat) : Octets :=
  (List.finRange layout.width.toNat).flatMap fun x ↦ spell (grid.cell x y)

/-- The octets of all rows. -/
def octets (grid : Grid layout) : Octets :=
  (List.finRange layout.height.toNat).flatMap grid.row

/-- The array that lies in memory. -/
def ofMemory (layout : Layout) (memory : Array UInt8) : Grid layout where
  cell x y := read (slot memory layout.format.bytesPerPixel (y * layout.width.toNat + x))

/-- Sets the word in a column and a row, if there is one. -/
def put (grid : Grid layout) (x y color : UInt32) : Grid layout where
  cell column row :=
    if column = x.toNat ∧ row = y.toNat then wordOf layout color else grid.cell column row

/-- Sets the words of a rectangle. -/
def paint (grid : Grid layout) (rect : Rect) (color : UInt32) : Grid layout where
  cell column row :=
    if rect.Covers column row then wordOf layout color else grid.cell column row

/-- Replaces a row by the words that octets spell. -/
def withRow (grid : Grid layout) (y : Fin layout.height.toNat) (octets : Octets) :
    Grid layout where
  cell column row :=
    if row = y then
      read ((octets.drop (column * layout.format.bytesPerPixel)).take layout.format.bytesPerPixel)
    else grid.cell column row

/-- Writes octets from the start of a row on, as many as the row holds, if there is the row. -/
def writeRow (grid : Grid layout) (y : UInt32) (octets : Octets) : Grid layout :=
  if hy : y.toNat < layout.height.toNat then
    grid.withRow ⟨y.toNat, hy⟩
      (octets.take layout.stride ++ (grid.row ⟨y.toNat, hy⟩).drop octets.length)
  else grid

/-- Draws one stroke. -/
def draw (grid : Grid layout) : Stroke → Grid layout
  | .pixel x y color => grid.put x y color
  | .rectangle rect color => grid.paint rect color
  | .row y octets => grid.writeRow y octets

/-- The cells that a rectangle covers. -/
def covered (layout : Layout) (rect : Rect) :
    Finset (Fin layout.width.toNat × Fin layout.height.toNat) :=
  Finset.univ.filter fun cell ↦ rect.Covers cell.1 cell.2

/-! ### Words and octets -/

/-- Words of a number of octets have as many values as those octets. -/
theorem pow_octets (size : Nat) : 256 ^ size = 2 ^ (8 * size) :=
  (Nat.pow_mul 2 8 size).symm

/-- Octets of the length of a word are the octets of the word that they spell. -/
theorem spell_read {size : Nat} {octets : Octets} (hlength : octets.length = size) :
    spell (read octets : BitVec (8 * size)) = octets := by
  subst hlength
  have hlt := Octets.ofLittleEndian_lt octets
  rw [pow_octets] at hlt
  rw [spell, read, BitVec.toNat_ofNat, Nat.mod_eq_of_lt hlt, Octets.littleEndian_ofLittleEndian]

/-- The octets that are written for a colour spell its word. -/
theorem read_pixelWord (layout : Layout) (color : UInt32) :
    read (Surface.pixelWord layout.format color) = wordOf layout color := by
  apply BitVec.eq_of_toNat_eq
  rw [read, Surface.pixelWord, wordOf, BitVec.toNat_ofNat, BitVec.toNat_ofNat,
    Octets.ofLittleEndian_littleEndian, pow_octets, Nat.mod_mod]

/-! ### Rows and the whole -/

/-- The words of octets, spelt one after another, are the octets. -/
theorem flatMap_spell_read {content : Octets} (hlength : content.length = layout.stride) :
    ((List.finRange layout.width.toNat).flatMap fun x : Fin layout.width.toNat ↦
      spell (read ((content.drop (x * layout.format.bytesPerPixel)).take
        layout.format.bytesPerPixel) : BitVec (8 * layout.format.bytesPerPixel))) = content := by
  have hword : ∀ x : Fin layout.width.toNat,
      spell (read ((content.drop (x * layout.format.bytesPerPixel)).take
        layout.format.bytesPerPixel) : BitVec (8 * layout.format.bytesPerPixel)) =
      (content.drop (x * layout.format.bytesPerPixel)).take layout.format.bytesPerPixel := by
    intro x
    have hinside : (x.val + 1) * layout.format.bytesPerPixel ≤
        layout.width.toNat * layout.format.bytesPerPixel := Nat.mul_le_mul_right _ x.isLt
    rw [Nat.add_mul, Nat.one_mul, ← Layout.stride, ← hlength] at hinside
    apply spell_read
    rw [List.length_take, List.length_drop]
    omega
  simp only [hword]
  nth_rewrite 2 [eq_flatMap_words hlength]
  rw [← List.map_coe_finRange_eq_range, List.flatMap_map]

/-- A row of the array replaced by octets has these octets. -/
theorem row_withRow (grid : Grid layout) (y : Fin layout.height.toNat) {content : Octets}
    (hlength : content.length = layout.stride) : (grid.withRow y content).row y = content := by
  simpa only [row, withRow, if_true] using flatMap_spell_read hlength

end Grid

namespace Surface

/-- The rows of a surface lie in its memory. -/
theorem row_in_memory (surface : Surface) {row : Nat}
    (hrow : row < surface.layout.height.toNat) :
    row * surface.layout.stride + surface.layout.stride ≤ surface.memory.size := by
  have hrows : (row + 1) * surface.layout.stride ≤
      surface.layout.height.toNat * surface.layout.stride := Nat.mul_le_mul_right _ hrow
  rw [Nat.add_mul, Nat.one_mul] at hrows
  rw [surface.size_eq, Layout.length, Nat.mul_comm surface.layout.stride]
  exact hrows

/-- The array of a surface. -/
def grid (surface : Surface) : Grid surface.layout :=
  .ofMemory surface.layout surface.memory

/-- The octets of a row of the array are those of the row in memory. -/
theorem row_grid (surface : Surface) (y : Fin surface.layout.height.toNat) :
    surface.grid.row y = slot surface.memory surface.layout.stride y := by
  have hwords : ∀ x : Fin surface.layout.width.toNat, slot surface.memory
      surface.layout.format.bytesPerPixel (y * surface.layout.width.toNat + x) =
      ((slot surface.memory surface.layout.stride y).drop
        (x * surface.layout.format.bytesPerPixel)).take surface.layout.format.bytesPerPixel :=
    fun x ↦ (take_drop_slot surface.memory x.isLt).symm
  simp only [Grid.row, grid, Grid.ofMemory, hwords]
  exact Grid.flatMap_spell_read (length_slot (surface.row_in_memory y.isLt))

/-- The octets of the array are those of the memory. -/
theorem octets_grid (surface : Surface) : surface.grid.octets = surface.memory.toList := by
  have hlength : surface.memory.toList.length =
      surface.layout.height.toNat * surface.layout.stride := by
    rw [Array.length_toList, surface.size_eq, Layout.length, Nat.mul_comm]
  rw [eq_flatMap_words hlength, ← List.map_coe_finRange_eq_range, List.flatMap_map, Grid.octets]
  congr 1
  funext y
  rw [row_grid, slot_eq_take_drop]

/-- A surface is determined by its layout and its array. -/
theorem eq_of_grid_eq {first second : Surface} (hlayout : second.layout = first.layout)
    (hgrid : Grid.ofMemory first.layout second.memory = first.grid) : second = first := by
  obtain ⟨layout, memory, hsize⟩ := first
  obtain ⟨layout', memory', hsize'⟩ := second
  obtain rfl := hlayout
  have hfirst := octets_grid ⟨layout', memory, hsize⟩
  have hsecond := octets_grid ⟨layout', memory', hsize'⟩
  have hmemory : memory' = memory := by
    apply Array.toList_inj.mp
    rw [← hfirst, ← hsecond]
    exact congrArg Grid.octets hgrid
  subst hmemory
  rfl

end Surface

end HeadlessDisplay
