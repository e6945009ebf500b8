import HeadlessDisplay.Screen.Source
import Mathlib.Algebra.Group.Nat.Defs

/-!
# Which descriptors have a layout

A descriptor has a layout exactly if its size and its refresh rate are not zero, its pixels are as
wide as those of its format, and its framebuffer has fewer octets than words of 64 bits can count
(`exists_layout_iff`). Otherwise the first of these conditions that fails, in this order, is the
reason why not. `LayoutOutcome` has one case for each, with the conditions before it, and
`layout_eq_iff` says that these are all.

Changing the size of a drawable screen to one without a zero leaves it drawable (`Drawable.resize`),
so that whether it has a layout then depends on its length alone.
-/

set_option autoImplicit false
set_option relaxedAutoImplicit false

namespace HeadlessDisplay

theorem toNat_eq_zero_iff {word : UInt32} : word.toNat = 0 ↔ word = 0 := by
  rw [← UInt32.toNat_inj, UInt32.toNat_zero]

namespace ScreenDescriptor

/-- The size, the refresh rate and the pixel width are such as every layout asks for. -/
structure Drawable (descriptor : ScreenDescriptor) : Prop where
  width_ne : descriptor.width ≠ 0
  height_ne : descriptor.height ≠ 0
  refresh_ne : descriptor.refreshMhz ≠ 0
  bits_eq : descriptor.bitsPerPixel = descriptor.format.bitsPerPixel

/-- The number of octets in the descriptor's framebuffer. -/
def octets (descriptor : ScreenDescriptor) : Nat :=
  descriptor.width.toNat * descriptor.format.bytesPerPixel * descriptor.height.toNat

/-- What the layout of a descriptor comes to. -/
inductive LayoutOutcome (descriptor : ScreenDescriptor) : Except ScreenError Layout → Prop
  /-- A dimension is zero. -/
  | invalidSize (hsize : descriptor.width = 0 ∨ descriptor.height = 0) :
      LayoutOutcome descriptor (.error (.invalidSize descriptor.width descriptor.height))
  /-- The size is sound and the refresh rate is zero. -/
  | zeroRefresh (hwidth : descriptor.width ≠ 0) (hheight : descriptor.height ≠ 0)
      (hrefresh : descriptor.refreshMhz = 0) : LayoutOutcome descriptor (.error .zeroRefresh)
  /-- The size and the refresh rate are sound and the pixel width is not that of the format. -/
  | bitsPerPixelMismatch (hwidth : descriptor.width ≠ 0) (hheight : descriptor.height ≠ 0)
      (hrefresh : descriptor.refreshMhz ≠ 0)
      (hbits : descriptor.bitsPerPixel ≠ descriptor.format.bitsPerPixel) :
      LayoutOutcome descriptor
        (.error (.bitsPerPixelMismatch descriptor.bitsPerPixel descriptor.format))
  /-- Only the length is at fault. -/
  | tooLarge (hdrawable : descriptor.Drawable) (hexceeds : 2 ^ 64 ≤ descriptor.octets) :
      LayoutOutcome descriptor
        (.error (.tooLarge descriptor.width descriptor.height descriptor.bitsPerPixel))
  /-- The layout has the descriptor's size and format. -/
  | laidOut {layout : Layout} (hdrawable : descriptor.Drawable)
      (hfits : descriptor.octets < 2 ^ 64) (hwidth : layout.width = descriptor.width)
      (hheight : layout.height = descriptor.height) (hformat : layout.format = descriptor.format) :
      LayoutOutcome descriptor (.ok layout)

variable {descriptor : ScreenDescriptor} {answer : Except ScreenError Layout}

/-- The layout comes to one of its outcomes. -/
theorem LayoutOutcome.of_eq (hlayout : descriptor.layout = answer) :
    LayoutOutcome descriptor answer := by
  rw [← hlayout]
  unfold layout
  simp only [toNat_eq_zero_iff]
  split
  · next hsize => exact .invalidSize hsize
  · next hsize =>
    obtain ⟨hwidth, hheight⟩ := not_or.mp hsize
    split
    · next hrefresh => exact .zeroRefresh hwidth hheight hrefresh
    · next hrefresh =>
      split
      · next hbits => exact .bitsPerPixelMismatch hwidth hheight hrefresh hbits
      · next hbits =>
        have hdrawable : descriptor.Drawable :=
          ⟨hwidth, hheight, hrefresh, Classical.not_not.mp hbits⟩
        split
        · next hfits => exact .laidOut hdrawable hfits rfl rfl rfl
        · next hfits => exact .tooLarge hdrawable (Nat.not_lt.mp hfits)

/-- An outcome whose conditions are met is what the layout comes to. -/
theorem LayoutOutcome.layout_eq (houtcome : LayoutOutcome descriptor answer) :
    descriptor.layout = answer := by
  unfold layout
  simp only [toNat_eq_zero_iff]
  cases houtcome with
  | invalidSize hsize => rw [dif_pos hsize]
  | zeroRefresh hwidth hheight hrefresh =>
    rw [dif_neg (not_or.mpr ⟨hwidth, hheight⟩), if_pos hrefresh]
  | bitsPerPixelMismatch hwidth hheight hrefresh hbits =>
    rw [dif_neg (not_or.mpr ⟨hwidth, hheight⟩), if_neg hrefresh, if_pos hbits]
  | tooLarge hdrawable hexceeds =>
    obtain ⟨hwidth, hheight, hrefresh, hbits⟩ := hdrawable
    rw [dif_neg (not_or.mpr ⟨hwidth, hheight⟩), if_neg hrefresh, if_neg (not_not_intro hbits)]
    exact dif_neg (Nat.not_lt.mpr hexceeds)
  | @laidOut layout hdrawable hfits hwidth hheight hformat =>
    obtain ⟨hwide, hhigh, hrefresh, hbits⟩ := hdrawable
    rw [dif_neg (not_or.mpr ⟨hwide, hhigh⟩), if_neg hrefresh, if_neg (not_not_intro hbits)]
    refine (dif_pos hfits).trans ?_
    cases layout
    subst hwidth hheight hformat
    rfl

theorem layout_eq_iff : descriptor.layout = answer ↔ LayoutOutcome descriptor answer :=
  ⟨.of_eq, LayoutOutcome.layout_eq⟩

/-- The layout of a descriptor has its size and its words. -/
theorem of_layout_eq {layout : Layout} (hlayout : descriptor.layout = .ok layout) :
    layout.width = descriptor.width ∧ layout.height = descriptor.height ∧
      layout.format = descriptor.format := by
  cases LayoutOutcome.of_eq hlayout with
  | laidOut hdrawable hfits hwidth hheight hformat => exact ⟨hwidth, hheight, hformat⟩

/-- A descriptor has a layout exactly if it is drawable and its framebuffer is not too long. -/
theorem exists_layout_iff : (∃ layout, descriptor.layout = .ok layout) ↔
    descriptor.Drawable ∧ descriptor.octets < 2 ^ 64 := by
  constructor
  · rintro ⟨layout, hlayout⟩
    cases LayoutOutcome.of_eq hlayout with
    | laidOut hdrawable hfits => exact ⟨hdrawable, hfits⟩
  · rintro ⟨hdrawable, hfits⟩
    generalize hlayout : descriptor.layout = answer
    cases LayoutOutcome.of_eq hlayout with
    | invalidSize hsize => exact absurd hsize (not_or.mpr ⟨hdrawable.width_ne, hdrawable.height_ne⟩)
    | zeroRefresh hwidth hheight hrefresh => exact absurd hrefresh hdrawable.refresh_ne
    | bitsPerPixelMismatch hwidth hheight hrefresh hbits => exact absurd hdrawable.bits_eq hbits
    | tooLarge hdrawable hexceeds => exact absurd hfits (Nat.not_lt.mpr hexceeds)
    | laidOut hdrawable hfits hwidth hheight hformat => exact ⟨_, rfl⟩

/-- A drawable screen stays so at every size without a zero. -/
theorem Drawable.resize (hdrawable : descriptor.Drawable) {width height : UInt32}
    (hwidth : width ≠ 0) (hheight : height ≠ 0) : (descriptor.resize width height).Drawable :=
  ⟨hwidth, hheight, hdrawable.refresh_ne, hdrawable.bits_eq⟩

/-- Two descriptors that agree in everything but the identifier have one layout. -/
theorem layout_eq_of_sameMode {first second : ScreenDescriptor}
    (hsame : first.sameMode second) : first.layout = second.layout := by
  have hequal : { first with id := second.id } = second := of_decide_eq_true hsame
  rw [← hequal]
  rfl

end ScreenDescriptor

end HeadlessDisplay
