import HeadlessDisplay.Octets
import HeadlessDisplay.Wire.Event

/-!
Events as frame payloads. A payload is a tag octet, a timestamp of eight octets and a body whose
fields follow one another without gaps, most significant octet first; octets after the body are
passed over, so that later senders may append fields. A payload with an unknown tag is an unknown
event whatever its length.
-/

set_option autoImplicit false
set_option relaxedAutoImplicit false

namespace HeadlessDisplay

/-- Why a payload is not an event, or an event has no payload. -/
inductive PayloadError
  /-- There is no room for a tag and a timestamp. -/
  | tooShort (needed available : Nat)
  /-- The body ends too early. -/
  | bodyTooShort (kind : EventKind) (available : Nat)
  /-- The octet for a key's press stands for none. -/
  | unknownKeyPress (octet : UInt8)
  /-- The octet for a button's press stands for none. -/
  | unknownButtonPress (octet : UInt8)
  /-- The octet for the axis stands for none. -/
  | unknownAxis (octet : UInt8)
  /-- An unknown event has no body that could be written. -/
  | unencodable (tag : UInt8)
deriving DecidableEq, Repr

/-- The error in words. -/
def PayloadError.message : PayloadError → String
  | .tooShort needed available =>
    s!"insufficient data: need at least {needed} bytes, got {available}"
  | .bodyTooShort kind available =>
    let name := kind.name
    let needed := kind.bodySize
    s!"malformed payload: {name}: need {needed} bytes, got {available}"
  | .unknownKeyPress octet => s!"malformed payload: unknown key action: {octet}"
  | .unknownButtonPress octet => s!"malformed payload: unknown button action: {octet}"
  | .unknownAxis octet => s!"malformed payload: unknown scroll axis: {octet}"
  | .unencodable tag =>
    let digits := Octets.upperHex tag
    s!"event type 0x{digits} cannot be encoded"

/-- What a client sends first. -/
def clientHello : Octets :=
  Octets.ofAscii ['C', 'l', 'i', 'e', 'n', 't', 'H', 'e', 'l', 'l', 'o']

/-- What the server answers to it. -/
def serverHello : Octets :=
  Octets.ofAscii ['S', 'e', 'r', 'v', 'e', 'r', 'H', 'e', 'l', 'l', 'o']

namespace InputEvent

/-- The number of octets of a tag and a timestamp. -/
def headerSize : Nat := 9

/-- A tag and a timestamp. -/
def header (kind : EventKind) (timestamp : UInt64) : Octets :=
  kind.tag :: Octets.bigEndian 8 timestamp.toNat

/-- The payload of a known event. -/
def encode : InputEvent → Except PayloadError Octets
  | .key timestamp code press =>
    .ok (header .key timestamp ++ (Octets.bigEndian 4 code.toNat ++ [press.code]))
  | .motion timestamp x y =>
    .ok (header .motion timestamp ++
      (Octets.bigEndian 8 x.bits.toNat ++ Octets.bigEndian 8 y.bits.toNat))
  | .button timestamp code press =>
    .ok (header .button timestamp ++ (Octets.bigEndian 4 code.toNat ++ [press.code]))
  | .scroll timestamp axis value =>
    .ok (header .scroll timestamp ++ (axis.code :: Octets.bigEndian 8 value.bits.toNat))
  | .unknown tag => .error (.unencodable tag)

/-- Eight octets read as a word. -/
def word64 (octets : Octets) : UInt64 :=
  UInt64.ofNat (Octets.ofBigEndian (octets.take 8))

/-- Four octets read as a word. -/
def word32 (octets : Octets) : UInt32 :=
  UInt32.ofNat (Octets.ofBigEndian (octets.take 4))

/-- The octet at a position, for a position inside. -/
def octetAt (octets : Octets) (position : Nat) : UInt8 :=
  octets.getD position 0

/-- The event of a kind with the given timestamp and body. -/
def ofBody (kind : EventKind) (timestamp : UInt64) (body : Octets) :
    Except PayloadError InputEvent :=
  if body.length < kind.bodySize then
    .error (.bodyTooShort kind body.length)
  else
    match kind with
    | .key =>
      match Press.ofCode? (octetAt body 4) with
      | some press => .ok (.key timestamp (word32 body) press)
      | none => .error (.unknownKeyPress (octetAt body 4))
    | .motion => .ok (.motion timestamp ⟨word64 body⟩ ⟨word64 (body.drop 8)⟩)
    | .button =>
      match Press.ofCode? (octetAt body 4) with
      | some press => .ok (.button timestamp (word32 body) press)
      | none => .error (.unknownButtonPress (octetAt body 4))
    | .scroll =>
      match ScrollAxis.ofCode? (octetAt body 0) with
      | some axis => .ok (.scroll timestamp axis ⟨word64 (body.drop 1)⟩)
      | none => .error (.unknownAxis (octetAt body 0))

/-- The event in a payload. -/
def decode (payload : Octets) : Except PayloadError InputEvent :=
  match payload with
  | [] => .error (.tooShort headerSize 0)
  | tag :: rest =>
    match EventKind.ofTag? tag with
    | none => .ok (.unknown tag)
    | some kind =>
      if payload.length < headerSize then .error (.tooShort headerSize payload.length)
      else ofBody kind (word64 rest) (rest.drop 8)

end InputEvent

end HeadlessDisplay
