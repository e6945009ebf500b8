/-!
Numbers of accepted connections. Every connection that is accepted, also one that is refused at
once, takes the next number, starting at one.
-/

set_option autoImplicit false
set_option relaxedAutoImplicit false

namespace HeadlessDisplay

/-- The number of a connection. -/
structure ConnectionId where
  /-- The position in the order of acceptance. -/
  number : UInt64
deriving DecidableEq

/-- The connection in words. -/
def ConnectionId.label (id : ConnectionId) : String :=
  let number := id.number.toNat
  s!"conn-{number}"

/-- How many numbers have been given out. -/
structure ConnectionCounter where
  /-- The last number given out, modulo the word size. -/
  issued : UInt64
deriving DecidableEq

namespace ConnectionCounter

/-- No number has been given out. -/
def start : ConnectionCounter := ⟨0⟩

/-- The next number, and the counter after it. -/
def next (counter : ConnectionCounter) : ConnectionId × ConnectionCounter :=
  (⟨counter.issued + 1⟩, ⟨counter.issued + 1⟩)

end ConnectionCounter

end HeadlessDisplay
