import HeadlessDisplay.Octets

/-!
Length-delimited frames. A frame is a header of four octets that spells the length of the payload,
most significant octet first, followed by the payload; a length of zero is an empty frame.

`Frame.decode` looks at the front of a buffer and either finds a whole frame, says how many octets
are missing, or refuses a header that declares more than the receiver's limit; the refusal needs
the header alone. `Frame.peel` takes frame after frame off a buffer.
-/

set_option autoImplicit false
set_option relaxedAutoImplicit false

namespace HeadlessDisplay

/-- Why a payload cannot be framed, or a header cannot be accepted. -/
inductive FrameError
  /-- The header declares a payload above the receiver's limit. -/
  | oversized (declared limit : Nat)
  /-- The payload's length needs more than four octets. -/
  | payloadTooLarge (size : Nat)
deriving DecidableEq, Repr

/-- The error in words. -/
def FrameError.message : FrameError → String
  | .oversized declared limit =>
    s!"declared frame length {declared} exceeds maximum of {limit} bytes"
  | .payloadTooLarge size => s!"payload of {size} bytes does not fit a 32-bit length prefix"

/-- What the front of a buffer holds. -/
inductive FrameProgress
  /-- A whole frame, which takes up `consumed` octets with its header. -/
  | complete (payload : Octets) (consumed : Nat)
  /-- The beginning of a frame; at least `needed` octets are missing. -/
  | incomplete (needed : Nat)
deriving DecidableEq

namespace Frame

/-- The number of octets in a header. -/
def headerSize : Nat := 4

/-- A header cannot declare this length or a greater one. -/
def lengthBound : Nat := 0x100000000

/-- The payload limit of a receiver that sets no other. -/
def defaultLimit : Nat := 65536

/-- The header in front of the payload. -/
def encode (payload : Octets) : Except FrameError Octets :=
  if payload.length < lengthBound then
    .ok (Octets.bigEndian headerSize payload.length ++ payload)
  else
    .error (.payloadTooLarge payload.length)

/-- The length that a header declares, unless it is above the limit. -/
def declaredLength (header : Octets) (limit : Nat) : Except FrameError Nat :=
  let declared := Octets.ofBigEndian header
  if limit < declared then .error (.oversized declared limit) else .ok declared

/-- Looks for a frame at the front of a buffer. -/
def decode (buffer : Octets) (limit : Nat) : Except FrameError FrameProgress :=
  if buffer.length < headerSize then
    .ok (.incomplete (headerSize - buffer.length))
  else
    match declaredLength (buffer.take headerSize) limit with
    | .error error => .error error
    | .ok declared =>
      let total := headerSize + declared
      if buffer.length < total then
        .ok (.incomplete (total - buffer.length))
      else
        .ok (.complete ((buffer.drop headerSize).take declared) total)

/-- A whole frame takes up something, and not more than there is. -/
theorem consumed_bounds {buffer payload : Octets} {limit consumed : Nat}
    (h : decode buffer limit = .ok (.complete payload consumed)) :
    0 < consumed ∧ consumed ≤ buffer.length := by
  unfold decode at h
  by_cases short : buffer.length < headerSize
  · simp [short] at h
  · rw [if_neg short] at h
    cases declared : declaredLength (buffer.take headerSize) limit with
    | error error => simp [declared] at h
    | ok size =>
      simp only [declared] at h
      by_cases missing : buffer.length < headerSize + size
      · simp [missing] at h
      · rw [if_neg missing] at h
        simp only [headerSize, Except.ok.injEq, FrameProgress.complete.injEq] at h missing
        omega

/-- Where the peeling of a buffer stops. -/
inductive Ending
  /-- Nothing is left after the last frame. -/
  | boundary
  /-- The rest is the beginning of a frame; at least `needed` octets are missing. -/
  | incomplete (needed : Nat)
  /-- The next header is refused. -/
  | refused (error : FrameError)
deriving DecidableEq

/-- The payloads taken off the front of a buffer in order, and where that stops. -/
structure Peeling where
  /-- The payloads of the whole frames. -/
  payloads : List Octets
  /-- Why there is no further one. -/
  ending : Ending
deriving DecidableEq

/-- Takes whole frames off a buffer until it is empty or the next one is not there. -/
def peel (limit : Nat) (buffer : Octets) : Peeling :=
  if buffer.isEmpty then ⟨[], .boundary⟩
  else
    match _found : decode buffer limit with
    | .error error => ⟨[], .refused error⟩
    | .ok (.incomplete needed) => ⟨[], .incomplete needed⟩
    | .ok (.complete payload consumed) =>
      let rest := peel limit (buffer.drop consumed)
      ⟨payload :: rest.payloads, rest.ending⟩
termination_by buffer.length
decreasing_by
  have := consumed_bounds _found
  simp only [List.length_drop]
  omega

/-- The octets that frames of the given payloads take up. -/
def span (payloads : List Octets) : Nat :=
  payloads.foldr (fun payload total ↦ headerSize + payload.length + total) 0

end Frame

end HeadlessDisplay
