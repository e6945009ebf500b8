import HeadlessDisplay.Proofs.Screen.Coverage
import Mathlib.Data.List.Forall2

/-!
# Cutting to a screen is intersection

A rectangle meets a screen if some pixel of it is on the screen, which is a comparison of edges
(`meets_iff`). What cutting leaves is determined by this and by the edges: nothing if the rectangle
misses the screen (`clip_eq_none_iff`), and otherwise the one rectangle whose edges are those of the
rectangle or of the screen, whichever are further in (`clip_eq_some_iff`). The edges are numbers
here and words in a rectangle; no word loses anything of its number, at whatever origin the
rectangle begins and however wide the screen is.

Since the edges of a cut rectangle are minima and maxima, cutting to one screen after another is
cutting once to the smaller width and the smaller height (`clip_clip`). All this holds of damage
rectangle by rectangle: cutting it drops those that miss the screen and cuts the others in their
order (`forall₂_clip`).
-/

set_option autoImplicit false
set_option relaxedAutoImplicit false

namespace HeadlessDisplay

theorem toNat_min (first second : UInt32) :
    (min first second).toNat = min first.toNat second.toNat := by
  change (if first ≤ second then first else second).toNat = _
  split
  · next hle =>
    rw [UInt32.le_iff_toNat_le] at hle
    omega
  · next hgt =>
    rw [UInt32.le_iff_toNat_le] at hgt
    omega

namespace Rect

variable {rect part : Rect} {width height : UInt32}

/-- Some pixel of the rectangle is on a screen of the given size. -/
def Meets (rect : Rect) (width height : UInt32) : Prop :=
  ∃ column row, rect.Covers column row ∧ OnScreen width height column row

/-- A rectangle meets a screen if the edges further in leave room in both directions; the pixel in
the corner is then on both. -/
theorem meets_iff : rect.Meets width height ↔
    max rect.x.toInt 0 < min rect.right width.toNat ∧
      max rect.y.toInt 0 < min rect.bottom height.toNat := by
  constructor
  · rintro ⟨column, row, hcovers, hon⟩
    simp only [Covers] at hcovers
    simp only [OnScreen] at hon
    omega
  · rintro ⟨hwide, hhigh⟩
    refine ⟨max rect.x.toInt 0, max rect.y.toInt 0, ?_, ?_⟩
    · simp only [Covers]
      omega
    · simp only [OnScreen]
      omega

instance (rect : Rect) (width height : UInt32) : Decidable (rect.Meets width height) :=
  decidable_of_iff _ meets_iff.symm

/-- Nothing is left of a rectangle exactly if it misses the screen. -/
theorem clip_eq_none_iff : rect.clip width height = none ↔ ¬rect.Meets width height := by
  rw [meets_iff]
  unfold clip
  dsimp only
  split
  · next hnone => simp only [true_iff]; omega
  · next hsome => simp only [reduceCtorEq, false_iff]; omega

/-- Two rectangles with the same edges are one. -/
theorem eq_of_edges {first second : Rect} (hleft : first.x.toInt = second.x.toInt)
    (htop : first.y.toInt = second.y.toInt) (hright : first.right = second.right)
    (hbottom : first.bottom = second.bottom) : first = second := by
  have hwidth : first.width = second.width := by
    rw [← UInt32.toNat_inj]
    simp only [right] at hright
    omega
  have hheight : first.height = second.height := by
    rw [← UInt32.toNat_inj]
    simp only [bottom] at hbottom
    omega
  rw [Int32.toInt_inj] at hleft htop
  cases first
  cases second
  simp only [mk.injEq]
  exact ⟨hleft, htop, hwidth, hheight⟩

/-- What is left of a rectangle that meets the screen is the rectangle with the edges further in,
and nothing else. -/
theorem clip_eq_some_iff : rect.clip width height = some part ↔
    rect.Meets width height ∧
      part.x.toInt = max rect.x.toInt 0 ∧ part.y.toInt = max rect.y.toInt 0 ∧
      part.right = min rect.right width.toNat ∧ part.bottom = min rect.bottom height.toNat := by
  constructor
  · intro hclip
    obtain ⟨hleft, htop, hright, hbottom, hwide, hhigh⟩ := clip_eq_some hclip
    refine ⟨?_, hleft, htop, hright, hbottom⟩
    rw [meets_iff]
    omega
  · rintro ⟨hmeets, hleft, htop, hright, hbottom⟩
    cases hclip : rect.clip width height with
    | none => exact absurd hmeets (clip_eq_none_iff.mp hclip)
    | some other =>
      obtain ⟨hleft', htop', hright', hbottom', -, -⟩ := clip_eq_some hclip
      rw [eq_of_edges (hleft'.trans hleft.symm) (htop'.trans htop.symm)
        (hright'.trans hright.symm) (hbottom'.trans hbottom.symm)]

/-- Cutting to one screen after another is cutting to the part that the two have in common. -/
theorem clip_clip (rect : Rect) (width height otherWidth otherHeight : UInt32) :
    (rect.clip width height).bind (·.clip otherWidth otherHeight) =
      rect.clip (min width otherWidth) (min height otherHeight) := by
  cases hclip : rect.clip width height with
  | none =>
    have hmisses := clip_eq_none_iff.mp hclip
    rw [Option.bind_none, eq_comm, clip_eq_none_iff]
    rw [meets_iff] at hmisses ⊢
    rw [toNat_min, toNat_min]
    omega
  | some part =>
    obtain ⟨hleft, htop, hright, hbottom, -, -⟩ := clip_eq_some hclip
    rw [Option.bind_some]
    ext rest
    have hwidth : min (min rect.right width.toNat) otherWidth.toNat =
        min rect.right (min width.toNat otherWidth.toNat : Nat) := by omega
    have hheight : min (min rect.bottom height.toNat) otherHeight.toNat =
        min rect.bottom (min height.toNat otherHeight.toNat : Nat) := by omega
    rw [clip_eq_some_iff, clip_eq_some_iff, meets_iff, meets_iff, toNat_min, toNat_min, hleft, htop,
      hright, hbottom, hwidth, hheight, Int.max_assoc, Int.max_assoc, Int.max_self]

/-- The rectangle is the part of another one on a screen, with no word cut off. -/
structure IsPart (rect : Rect) (width height : UInt32) (part : Rect) : Prop where
  isEmpty_eq : part.isEmpty = false
  covers_iff : ∀ column row,
    part.Covers column row ↔ rect.Covers column row ∧ OnScreen width height column row
  left_eq : part.x.toInt = max rect.x.toInt 0
  top_eq : part.y.toInt = max rect.y.toInt 0
  width_eq : part.width.toNat = min rect.right width.toNat - max rect.x.toInt 0
  height_eq : part.height.toNat = min rect.bottom height.toNat - max rect.y.toInt 0

theorem isPart_of_clip (hclip : rect.clip width height = some part) :
    rect.IsPart width height part := by
  obtain ⟨hleft, htop, hright, hbottom, -, -⟩ := clip_eq_some hclip
  simp only [right] at hright
  simp only [bottom] at hbottom
  refine ⟨(clip_within hclip).isEmpty_eq_false, covers_of_clip_eq_some hclip, hleft, htop, ?_, ?_⟩
  · simp only [right]
    omega
  · simp only [bottom]
    omega

end Rect

namespace Damage

/-- Cutting damage drops the rectangles that miss the screen and cuts the others in their order. -/
theorem forall₂_clip (damage : Damage) (width height : UInt32) :
    List.Forall₂ (fun rect part ↦ Rect.IsPart rect width height part)
      (damage.rects.filter fun rect ↦ rect.Meets width height)
      (damage.clip width height).rects := by
  obtain ⟨rects⟩ := damage
  simp only [clip]
  induction rects with
  | nil => exact .nil
  | cons rect rest ih =>
    cases hclip : rect.clip width height with
    | none =>
      have hmisses := Rect.clip_eq_none_iff.mp hclip
      rw [List.filter_cons_of_neg (by simpa using hmisses)]
      simpa only [List.filterMap_cons, hclip] using ih
    | some part =>
      have hmeets := (Rect.clip_eq_some_iff.mp hclip).1
      rw [List.filter_cons_of_pos (by simpa using hmeets)]
      simpa only [List.filterMap_cons, hclip] using .cons (Rect.isPart_of_clip hclip) ih

theorem clip_clip (damage : Damage) (width height otherWidth otherHeight : UInt32) :
    (damage.clip width height).clip otherWidth otherHeight =
      damage.clip (min width otherWidth) (min height otherHeight) := by
  simp only [clip, List.filterMap_filterMap, Rect.clip_clip]

theorem clip_extend (first second : Damage) (width height : UInt32) :
    (first.extend second).clip width height =
      (first.clip width height).extend (second.clip width height) := by
  simp only [extend, clip, List.filterMap_append]

end Damage

/-- Cutting to a screen is intersection with the pixels on the screen. Of a rectangle

* nothing is left exactly if none of its pixels is on the screen,
* and otherwise a rectangle that is not empty and whose pixels are those on the screen; its corner
  and its size are the exact differences of the edges, as numbers,
* cutting to two screens is cutting once to the smaller width and the smaller height, so that
  cutting again changes nothing and the order does not matter.

Damage that is cut

* covers the pixels of the damage on the screen,
* consists of the parts of those rectangles that meet the screen, in their order,
* holds no empty rectangle,
* and joins with other damage before or after it is cut. -/
theorem clip_is_intersection (rect : Rect) (damage more : Damage)
    (width height otherWidth otherHeight : UInt32) :
    (rect.clip width height = none ↔
      ∀ column row, rect.Covers column row → ¬Rect.OnScreen width height column row) ∧
    (∀ part, rect.clip width height = some part → rect.IsPart width height part) ∧
    (rect.clip width height).bind (·.clip otherWidth otherHeight) =
      rect.clip (min width otherWidth) (min height otherHeight) ∧
    (rect.clip width height).bind (·.clip width height) = rect.clip width height ∧
    (rect.clip width height).bind (·.clip otherWidth otherHeight) =
      (rect.clip otherWidth otherHeight).bind (·.clip width height) ∧
    (∀ column row, (damage.clip width height).Covers column row ↔
      damage.Covers column row ∧ Rect.OnScreen width height column row) ∧
    List.Forall₂ (fun whole part ↦ Rect.IsPart whole width height part)
      (damage.rects.filter fun whole ↦ whole.Meets width height)
      (damage.clip width height).rects ∧
    (∀ part ∈ (damage.clip width height).rects, part.isEmpty = false) ∧
    (damage.clip width height).clip otherWidth otherHeight =
      damage.clip (min width otherWidth) (min height otherHeight) ∧
    (damage.extend more).clip width height =
      (damage.clip width height).extend (more.clip width height) := by
  have hmin (size : UInt32) : min size size = size := by
    rw [← UInt32.toNat_inj, toNat_min, Nat.min_self]
  have hcomm (first second : UInt32) : min first second = min second first := by
    rw [← UInt32.toNat_inj, toNat_min, toNat_min, Nat.min_comm]
  refine ⟨?_, fun _ ↦ Rect.isPart_of_clip, rect.clip_clip _ _ _ _, ?_, ?_,
    damage.covers_clip width height, damage.forall₂_clip width height, ?_,
    damage.clip_clip _ _ _ _, damage.clip_extend more width height⟩
  · rw [Rect.clip_eq_none_iff]
    simp only [Rect.Meets, not_exists, not_and]
  · rw [Rect.clip_clip, hmin, hmin]
  · rw [Rect.clip_clip, Rect.clip_clip, hcomm width, hcomm height]
  · intro part hpart
    exact (Damage.within_of_mem_clip hpart).isEmpty_eq_false

-- The rectangle begins as far left as it can and ends one column before the greatest word with
-- sign, and the screen is wider than that.
example : (Rect.mk (-2147483648) (-1) 4294967295 3).clip 4294967295 1 =
    some ⟨0, 0, 2147483647, 1⟩ := by
  decide

end HeadlessDisplay
