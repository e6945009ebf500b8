import HeadlessDisplay.Connection
import HeadlessDisplay.Seat.Sink
import HeadlessDisplay.Wire.Payload

/-!
The conversation of one connection. A session first waits for the greeting of a client and answers
it; from then on each payload is an event for the seat. A payload that is no event, an event of an
unknown kind and an event that the sink refuses are passed over and counted. A first payload that
is not the greeting closes the session without an answer, and a closed session stays closed.

The counters of a session are numbers without a bound. They agree with counters of 64 bits, which
would start over, in every conversation of fewer than `2 ^ 64` payloads.
-/

set_option autoImplicit false
set_option relaxedAutoImplicit false

namespace HeadlessDisplay

/-- Where a session is. -/
inductive SessionState
  | awaitingHandshake
  | streaming
  | closed
deriving DecidableEq, Repr

/-- Why a session asks for its connection to be closed. -/
inductive CloseReason
  /-- The first payload was not the greeting. -/
  | handshakeRejected
  /-- A payload came after the session had closed. -/
  | alreadyClosed
deriving DecidableEq, Repr

/-- What is to follow a payload. -/
inductive FrameOutcome
  /-- Answer with this payload. -/
  | reply (payload : Octets)
  /-- The event went to the seat. -/
  | delivered
  /-- The payload was passed over. -/
  | skipped
  /-- Close the connection without an answer. -/
  | close (reason : CloseReason)
deriving DecidableEq

/-- What a session has counted. -/
structure SessionStats where
  /-- Payloads handled before the session closed. -/
  received : Nat
  /-- Events that went to the seat. -/
  delivered : Nat
  /-- Payloads passed over. -/
  skipped : Nat
deriving DecidableEq

/-- The state of one connection's conversation. -/
structure Session where
  id : ConnectionId
  state : SessionState
  stats : SessionStats
deriving DecidableEq

namespace Session

/-- A session that waits for the greeting. -/
def start (id : ConnectionId) : Session :=
  ⟨id, .awaitingHandshake, ⟨0, 0, 0⟩⟩

/-- Closes the session. -/
def close (session : Session) : Session :=
  { session with state := .closed }

/-- Counts a payload. -/
def countReceived (session : Session) : Session :=
  { session with stats := { session.stats with received := session.stats.received + 1 } }

/-- Counts an event that went to the seat. -/
def countDelivered (session : Session) : Session :=
  { session with stats := { session.stats with delivered := session.stats.delivered + 1 } }

/-- Counts a payload that was passed over. -/
def countSkipped (session : Session) : Session :=
  { session with stats := { session.stats with skipped := session.stats.skipped + 1 } }

/-- Handles the first payload. -/
def handleGreeting (session : Session) (payload : Octets) : FrameOutcome × Session :=
  let session := session.countReceived
  if payload = clientHello then (.reply serverHello, { session with state := .streaming })
  else (.close .handshakeRejected, session.close)

/-- Handles a payload that should be an event. -/
def handleEvent {κ : Type} [InputSink κ] (session : Session) (sink : κ) (payload : Octets) :
    FrameOutcome × Session × κ :=
  let session := session.countReceived
  match InputEvent.decode payload with
  | .error _ => (.skipped, session.countSkipped, sink)
  | .ok event =>
    match inject sink event with
    | (.ok .delivered, sink) => (.delivered, session.countDelivered, sink)
    | (.ok (.ignored _), sink) => (.skipped, session.countSkipped, sink)
    | (.error _, sink) => (.skipped, session.countSkipped, sink)

/-- Handles one payload. -/
def handleFrame {κ : Type} [InputSink κ] (session : Session) (sink : κ) (payload : Octets) :
    FrameOutcome × Session × κ :=
  match session.state with
  | .awaitingHandshake =>
    let (outcome, session) := session.handleGreeting payload
    (outcome, session, sink)
  | .streaming => session.handleEvent sink payload
  | .closed => (.close .alreadyClosed, session, sink)

end Session

end HeadlessDisplay
