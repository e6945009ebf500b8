/-!
Octet strings and the words they spell. A word of a given width is spelt most significant octet
first on the socket (`bigEndian`) and least significant octet first in the framebuffer
(`littleEndian`). Reading a spelling back gives the word reduced to its width.
-/

set_option autoImplicit false
set_option relaxedAutoImplicit false

namespace HeadlessDisplay

/-- A finite string of octets, as it travels through a stream. -/
abbrev Octets := List UInt8

namespace Octets

/-- The `width` octets of `n`, least significant first. -/
def littleEndian : Nat → Nat → Octets
  | 0, _ => []
  | width + 1, n => UInt8.ofNat n :: littleEndian width (n / 256)

/-- The number that octets spell, least significant first. -/
def ofLittleEndian : Octets → Nat
  | [] => 0
  | octet :: rest => octet.toNat + 256 * ofLittleEndian rest

/-- The `width` octets of `n`, most significant first. -/
def bigEndian (width n : Nat) : Octets :=
  (littleEndian width n).reverse

/-- The number that octets spell, most significant first. -/
def ofBigEndian (octets : Octets) : Nat :=
  ofLittleEndian octets.reverse

/-- A spelling has as many octets as it was asked to have. -/
@[simp] theorem length_littleEndian (width n : Nat) :
    (littleEndian width n).length = width := by
  induction width generalizing n with
  | zero => rfl
  | succ width ih => simp [littleEndian, ih]

/-- A spelling the other way round is as long. -/
@[simp] theorem length_bigEndian (width n : Nat) : (bigEndian width n).length = width := by
  simp [bigEndian]

/-- The octets of a text written with ASCII characters only. -/
def ofAscii (text : List Char) : Octets :=
  text.map Char.toUInt8

/-- One octet as two upper-case hexadecimal digits. -/
def upperHex (octet : UInt8) : String :=
  let digit (n : Nat) : Char := (Nat.digitChar n).toUpper
  String.ofList [digit (octet.toNat / 16), digit (octet.toNat % 16)]

end Octets

end HeadlessDisplay
