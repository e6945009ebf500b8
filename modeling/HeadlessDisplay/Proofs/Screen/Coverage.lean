import HeadlessDisplay.Screen.Damage

/-!
# What rectangles and damage cover

Cutting a rectangle to a screen keeps exactly its pixels on the screen (`covers_clip_iff`), and
what is left is not empty and lies on the screen (`Within`, `clip_within`). The narrowing of the
corners to 32 bits loses nothing, because a corner that survives is not negative and not beyond
the corner of the rectangle (`clip_eq_some`). For damage, cutting to a screen and joining are
intersection and union of the sets of pixels (`covers_clip`, `covers_extend`), and the damage of a
whole screen covers every pixel of it (`covers_full`).

Statements are about the pixels covered and not about the list of rectangles.
-/

set_option autoImplicit false
set_option relaxedAutoImplicit false

namespace HeadlessDisplay

namespace Rect

/-- The rectangle is not empty and lies on a screen of the given size. -/
structure Within (rect : Rect) (width height : UInt32) : Prop where
  left_nonneg : 0 ≤ rect.x.toInt
  top_nonneg : 0 ≤ rect.y.toInt
  left_lt_right : rect.x.toInt < rect.right
  top_lt_bottom : rect.y.toInt < rect.bottom
  right_le : rect.right ≤ width.toNat
  bottom_le : rect.bottom ≤ height.toNat

/-- The pixel in the given column and row is on a screen of the given size. -/
def OnScreen (width height : UInt32) (column row : Int) : Prop :=
  (0 ≤ column ∧ column < width.toNat) ∧ 0 ≤ row ∧ row < height.toNat

theorem onScreen_of_lt {width height : UInt32} {column row : Nat}
    (hcolumn : column < width.toNat) (hrow : row < height.toNat) :
    OnScreen width height column row := by
  simp only [OnScreen]
  omega

/-- The part of a rectangle on a screen has the edges of the rectangle or of the screen, whichever
are further in. -/
theorem clip_eq_some {rect part : Rect} {width height : UInt32}
    (hclip : rect.clip width height = some part) :
    part.x.toInt = max rect.x.toInt 0 ∧ part.y.toInt = max rect.y.toInt 0 ∧
      part.right = min rect.right width.toNat ∧ part.bottom = min rect.bottom height.toNat ∧
      part.x.toInt < part.right ∧ part.y.toInt < part.bottom := by
  have hx := rect.x.toInt_lt
  have hy := rect.y.toInt_lt
  have hwidth := width.toNat_lt
  have hheight := height.toNat_lt
  unfold clip at hclip
  dsimp only at hclip
  split at hclip
  · simp at hclip
  · next hsome =>
    obtain rfl := Option.some.inj hclip
    have hleft : (Int32.ofInt (max rect.x.toInt 0)).toInt = max rect.x.toInt 0 :=
      Int32.toInt_ofInt_of_le (by omega) (by omega)
    have htop : (Int32.ofInt (max rect.y.toInt 0)).toInt = max rect.y.toInt 0 :=
      Int32.toInt_ofInt_of_le (by omega) (by omega)
    have hcolumns (count : Int) (hcount : count < 2 ^ 32) :
        (UInt32.ofNat count.toNat).toNat = count.toNat :=
      UInt32.toNat_ofNat_of_lt' (by simp only [UInt32.size]; omega)
    simp only [right, bottom] at hsome ⊢
    rw [hleft, htop, hcolumns _ (by omega), hcolumns _ (by omega)]
    omega

/-- Nothing of a rectangle without a part on a screen is on the screen. -/
theorem clip_eq_none {rect : Rect} {width height : UInt32}
    (hclip : rect.clip width height = none) {column row : Int} (hcovers : rect.Covers column row) :
    ¬OnScreen width height column row := by
  unfold clip at hclip
  dsimp only at hclip
  split at hclip
  · next hnone =>
    simp only [Covers] at hcovers
    simp only [OnScreen]
    omega
  · simp at hclip

/-- What is left of a rectangle is not empty and lies on the screen. -/
theorem clip_within {rect part : Rect} {width height : UInt32}
    (hclip : rect.clip width height = some part) : part.Within width height := by
  obtain ⟨hleft, htop, hright, hbottom, hwide, hhigh⟩ := clip_eq_some hclip
  constructor <;> omega

/-- What is left of a rectangle covers its pixels on the screen. -/
theorem covers_of_clip_eq_some {rect part : Rect} {width height : UInt32}
    (hclip : rect.clip width height = some part) (column row : Int) :
    part.Covers column row ↔ rect.Covers column row ∧ OnScreen width height column row := by
  obtain ⟨hleft, htop, hright, hbottom, -, -⟩ := clip_eq_some hclip
  simp only [Covers, OnScreen]
  omega

/-- Cutting to a screen keeps exactly the pixels on the screen. -/
theorem covers_clip_iff (rect : Rect) (width height : UInt32) (column row : Int) :
    (∃ part, rect.clip width height = some part ∧ part.Covers column row) ↔
      rect.Covers column row ∧ OnScreen width height column row := by
  cases hclip : rect.clip width height with
  | none =>
    constructor
    · simp
    · rintro ⟨hcovers, hon⟩
      exact absurd hon (clip_eq_none hclip hcovers)
  | some part =>
    rw [← covers_of_clip_eq_some hclip]
    simp

/-- A rectangle on a screen has pixels. -/
theorem Within.isEmpty_eq_false {rect : Rect} {width height : UInt32}
    (hwithin : rect.Within width height) : rect.isEmpty = false := by
  have hwide := hwithin.left_lt_right
  have hhigh := hwithin.top_lt_bottom
  simp only [right, bottom] at hwide hhigh
  simp only [isEmpty, Bool.or_eq_false_iff, beq_eq_false_iff_ne, ne_eq, ← UInt32.toNat_inj,
    UInt32.toNat_zero]
  omega

/-- The whole of a screen covers the pixels on the screen. -/
theorem covers_whole (width height : UInt32) (column row : Int) :
    (whole width height).Covers column row ↔ OnScreen width height column row := by
  simp [Covers, OnScreen, whole, right, bottom]

end Rect

namespace Damage

/-- No damage covers nothing. -/
@[simp] theorem not_covers_none (column row : Int) : ¬none.Covers column row := by
  simp [Covers, none]

/-- Joined damage covers what one or the other covers. -/
@[simp] theorem covers_extend (first second : Damage) (column row : Int) :
    (first.extend second).Covers column row ↔
      first.Covers column row ∨ second.Covers column row := by
  simp only [Covers, extend, List.mem_append, or_and_right, exists_or]

/-- Cutting damage to a screen keeps exactly the pixels on the screen. -/
theorem covers_clip (damage : Damage) (width height : UInt32) (column row : Int) :
    (damage.clip width height).Covers column row ↔
      damage.Covers column row ∧ Rect.OnScreen width height column row := by
  simp only [Covers, clip, List.mem_filterMap]
  constructor
  · rintro ⟨part, ⟨rect, hrect, hclip⟩, hcovers⟩
    obtain ⟨hwhole, hon⟩ := (Rect.covers_of_clip_eq_some hclip column row).mp hcovers
    exact ⟨⟨rect, hrect, hwhole⟩, hon⟩
  · rintro ⟨⟨rect, hrect, hcovers⟩, hon⟩
    obtain ⟨part, hclip, hpart⟩ := (rect.covers_clip_iff width height column row).mpr ⟨hcovers, hon⟩
    exact ⟨part, ⟨rect, hrect, hclip⟩, hpart⟩

/-- On the screen, cut damage covers what the damage covers. -/
theorem covers_clip_of_onScreen {width height : UInt32} {column row : Int}
    (hon : Rect.OnScreen width height column row) (damage : Damage) :
    (damage.clip width height).Covers column row ↔ damage.Covers column row := by
  rw [covers_clip, and_iff_left hon]

/-- Every rectangle of cut damage is not empty and lies on the screen. -/
theorem within_of_mem_clip {damage : Damage} {width height : UInt32} {rect : Rect}
    (hrect : rect ∈ (damage.clip width height).rects) : rect.Within width height := by
  obtain ⟨whole, -, hclip⟩ := List.mem_filterMap.mp hrect
  exact Rect.clip_within hclip

/-- The damage of a whole screen covers every pixel on the screen. -/
theorem covers_full {width height : UInt32} {column row : Int}
    (hon : Rect.OnScreen width height column row) : (full width height).Covers column row := by
  have hcovers := (Rect.covers_whole width height column row).mpr hon
  have hnonempty : (Rect.whole width height).isEmpty = false := by
    simp only [Rect.OnScreen] at hon
    simp only [Rect.isEmpty, Rect.whole, Bool.or_eq_false_iff, beq_eq_false_iff_ne, ne_eq,
      ← UInt32.toNat_inj, UInt32.toNat_zero]
    omega
  refine ⟨Rect.whole width height, ?_, hcovers⟩
  simp [full, add, none, hnonempty]

end Damage

end HeadlessDisplay
