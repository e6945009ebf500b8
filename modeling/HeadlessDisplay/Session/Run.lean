import HeadlessDisplay.Session.Handshake
import HeadlessDisplay.Wire.Stream

/-!
A session over a stream. Frames are read one by one and handed to the session, and an answer is
written before the next frame is read, so events reach the seat in the order of their arrival. The
run ends when the stream ends or fails, when a header is refused, or when the session asks for it.
-/

set_option autoImplicit false
set_option relaxedAutoImplicit false

namespace HeadlessDisplay

/-- Why a run ended. -/
inductive SessionEnd
  /-- The stream ended between two frames. -/
  | peerClosed
  /-- The stream ended inside a frame. -/
  | truncated
  /-- A header was refused. -/
  | framing (error : FrameError)
  /-- Reading or writing failed. -/
  | transport (fault : Fault)
  /-- The first payload was not the greeting. -/
  | handshakeRejected
  /-- The session had been closed before. -/
  | closed
deriving DecidableEq, Repr

/-- The end that a stream's error means. -/
def StreamError.sessionEnd : StreamError → SessionEnd
  | .truncated => .truncated
  | .framing error => .framing error
  | .transport fault => .transport fault

/-- The end that a session asks for. -/
def CloseReason.sessionEnd : CloseReason → SessionEnd
  | .handshakeRejected => .handshakeRejected
  | .alreadyClosed => .closed

/-- What a finished run reports. -/
structure SessionSummary where
  id : ConnectionId
  ending : SessionEnd
  stats : SessionStats
deriving DecidableEq

/-- The two sides of a connection's stream. -/
structure Transport where
  incoming : Incoming
  outgoing : Outgoing

/-- A session with its sink and its stream, when the run is over. -/
structure FinishedRun (κ : Type) where
  ending : SessionEnd
  session : Session
  sink : κ
  transport : Transport

namespace Session

/-- Reads and handles frames until the run ends. -/
def drive {κ : Type} [InputSink κ] (limit : Nat) (session : Session) (sink : κ)
    (transport : Transport) : FinishedRun κ :=
  match _found : Incoming.readFrame limit transport.incoming with
  | (.ok none, incoming) => ⟨.peerClosed, session, sink, { transport with incoming }⟩
  | (.error error, incoming) => ⟨error.sessionEnd, session, sink, { transport with incoming }⟩
  | (.ok (some payload), incoming) =>
    match session.handleFrame sink payload with
    | (.reply answer, session, sink) =>
      match transport.outgoing.writeFrame answer with
      | (.error error, outgoing) => ⟨error.sessionEnd, session, sink, ⟨incoming, outgoing⟩⟩
      | (.ok (), outgoing) => drive limit session sink ⟨incoming, outgoing⟩
    | (.delivered, session, sink) => drive limit session sink { transport with incoming }
    | (.skipped, session, sink) => drive limit session sink { transport with incoming }
    | (.close reason, session, sink) =>
      ⟨reason.sessionEnd, session, sink, { transport with incoming }⟩
termination_by transport.incoming.size
decreasing_by all_goals exact Incoming.size_readFrame_lt _found

/-- Runs a session over a stream to its end and closes it. -/
def run {κ : Type} [InputSink κ] (limit : Nat) (session : Session) (sink : κ)
    (transport : Transport) : SessionSummary × κ × Transport :=
  let finished := drive limit session sink transport
  let session := finished.session.close
  (⟨session.id, finished.ending, session.stats⟩, finished.sink, finished.transport)

end Session

end HeadlessDisplay
