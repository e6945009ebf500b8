import HeadlessDisplay.Wire.Payload
import HeadlessDisplay.Wire.Stream

/-!
The client's side of the socket. A client greets the server, waits for the answer and then sends
one frame for each event. An event that has no payload is refused before anything is written.
-/

set_option autoImplicit false
set_option relaxedAutoImplicit false

namespace HeadlessDisplay

/-- Why a client cannot go on. -/
inductive ClientError
  /-- There is no server at the path. -/
  | connect (path : String) (fault : Fault)
  /-- A frame could not be read or written. -/
  | frame (error : StreamError)
  /-- An event has no payload. -/
  | payload (error : PayloadError)
  /-- The server closed the stream before it answered. -/
  | closedDuringHandshake
  /-- The server answered something else. -/
  | unexpectedReply (size : Nat)
deriving DecidableEq, Repr

/-- The error in words. -/
def ClientError.message : ClientError → String
  | .connect path fault =>
    let text := fault.message
    s!"connecting to {path}: {text}"
  | .frame error => error.message
  | .payload error => error.message
  | .closedDuringHandshake => "server closed the connection during the handshake"
  | .unexpectedReply size => s!"unexpected handshake reply ({size} bytes)"

/-- What lies behind the error, in words. -/
def ClientError.causes : ClientError → List String
  | .connect _ fault => [fault.message]
  | .frame error => error.causes
  | .payload _ | .closedDuringHandshake | .unexpectedReply _ => []

/-- The streams of a connected client. -/
structure Client where
  incoming : Incoming
  outgoing : Outgoing

namespace Client

/-- Greets the server and waits for its answer. -/
def handshake (client : Client) : Except ClientError Unit × Client :=
  match client.outgoing.writeFrame clientHello with
  | (.error error, outgoing) => (.error (.frame error), { client with outgoing })
  | (.ok (), outgoing) =>
    match Incoming.readFrame Frame.defaultLimit client.incoming with
    | (.error error, incoming) => (.error (.frame error), ⟨incoming, outgoing⟩)
    | (.ok none, incoming) => (.error .closedDuringHandshake, ⟨incoming, outgoing⟩)
    | (.ok (some reply), incoming) =>
      if reply = serverHello then (.ok (), ⟨incoming, outgoing⟩)
      else (.error (.unexpectedReply reply.length), ⟨incoming, outgoing⟩)

/-- Sends a payload as one frame. -/
def sendPayload (client : Client) (payload : Octets) : Except ClientError Unit × Client :=
  match client.outgoing.writeFrame payload with
  | (.error error, outgoing) => (.error (.frame error), { client with outgoing })
  | (.ok (), outgoing) => (.ok (), { client with outgoing })

/-- Sends an event. -/
def sendEvent (client : Client) (event : InputEvent) : Except ClientError Unit × Client :=
  match event.encode with
  | .error error => (.error (.payload error), client)
  | .ok payload => client.sendPayload payload

end Client

end HeadlessDisplay
