import HeadlessDisplay.Octets
import Mathlib.Algebra.Group.Nat.Defs

/-!
# Words and their spellings

A spelling of a given width reads back as the number reduced to that width
(`Octets.ofLittleEndian_littleEndian`), and octets are the spelling of what they read as
(`Octets.littleEndian_ofLittleEndian`), in either order of significance. So a number that fits is
spelt at the front of a buffer exactly if the buffer reads as that number there
(`Octets.bigEndian_append_prefix_iff`), which is how fields of a message are told one by one.
-/

set_option autoImplicit false
set_option relaxedAutoImplicit false

namespace HeadlessDisplay

namespace Octets

/-! ### Least significant octet first -/

/-- A spelling reads back as the number reduced to its width. -/
theorem ofLittleEndian_littleEndian (width n : Nat) :
    ofLittleEndian (littleEndian width n) = n % 256 ^ width := by
  induction width generalizing n with
  | zero => simp [littleEndian, ofLittleEndian, Nat.mod_one]
  | succ width ih =>
    have hsplit : n % 256 ^ (width + 1) = n % 256 + 256 * (n / 256 % 256 ^ width) := by
      rw [Nat.pow_succ', Nat.mod_mul]
    rw [littleEndian, ofLittleEndian, ih, hsplit, UInt8.toNat_ofNat']

/-- Octets are the spelling of what they read as. -/
theorem littleEndian_ofLittleEndian (octets : Octets) :
    littleEndian octets.length (ofLittleEndian octets) = octets := by
  induction octets with
  | nil => rfl
  | cons octet rest ih =>
    have hoctet : octet.toNat < 256 := octet.toNat_lt
    have hhead : UInt8.ofNat (octet.toNat + 256 * ofLittleEndian rest) = octet := by
      rw [← UInt8.toNat_inj, UInt8.toNat_ofNat']
      omega
    have htail : (octet.toNat + 256 * ofLittleEndian rest) / 256 = ofLittleEndian rest := by omega
    rw [List.length_cons, ofLittleEndian, littleEndian, hhead, htail, ih]

/-- Octets read as a number of their width. -/
theorem ofLittleEndian_lt (octets : Octets) : ofLittleEndian octets < 256 ^ octets.length := by
  induction octets with
  | nil => simp [ofLittleEndian]
  | cons octet rest ih =>
    have hoctet : octet.toNat < 256 := octet.toNat_lt
    rw [ofLittleEndian, List.length_cons, Nat.pow_succ]
    omega

/-! ### Most significant octet first -/

/-- A spelling reads back as the number reduced to its width. -/
theorem ofBigEndian_bigEndian (width n : Nat) :
    ofBigEndian (bigEndian width n) = n % 256 ^ width := by
  rw [ofBigEndian, bigEndian, List.reverse_reverse, ofLittleEndian_littleEndian]

/-- Octets are the spelling of what they read as. -/
theorem bigEndian_ofBigEndian (octets : Octets) :
    bigEndian octets.length (ofBigEndian octets) = octets := by
  rw [bigEndian, ofBigEndian, ← List.length_reverse, littleEndian_ofLittleEndian,
    List.reverse_reverse]

/-- Octets read as a number of their width. -/
theorem ofBigEndian_lt (octets : Octets) : ofBigEndian octets < 256 ^ octets.length := by
  simpa [ofBigEndian] using ofLittleEndian_lt octets.reverse

/-- A number that fits is spelt at the front of a buffer, before further octets, exactly if the
buffer reads as the number there and goes on with those octets. -/
theorem bigEndian_append_prefix_iff {width n : Nat} (hn : n < 256 ^ width)
    (fields buffer : Octets) :
    bigEndian width n ++ fields <+: buffer ↔
      width ≤ buffer.length ∧ ofBigEndian (buffer.take width) = n ∧
        fields <+: buffer.drop width := by
  constructor
  · rintro ⟨rest, rfl⟩
    rw [List.append_assoc, List.take_left' (length_bigEndian width n),
      List.drop_left' (length_bigEndian width n), ofBigEndian_bigEndian, Nat.mod_eq_of_lt hn]
    exact ⟨by simp, rfl, List.prefix_append _ _⟩
  · rintro ⟨hlength, rfl, rest, hrest⟩
    have hspelt := bigEndian_ofBigEndian (buffer.take width)
    rw [List.length_take, Nat.min_eq_left hlength] at hspelt
    exact ⟨rest, by rw [hspelt, List.append_assoc, hrest, List.take_append_drop]⟩

end Octets

end HeadlessDisplay
