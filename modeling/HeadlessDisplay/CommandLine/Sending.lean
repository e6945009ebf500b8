import HeadlessDisplay.CommandLine.Injection
import HeadlessDisplay.Report

/-!
The program that sends one event: it greets the server at the socket, sends the event and is done.
-/

set_option autoImplicit false
set_option relaxedAutoImplicit false

namespace HeadlessDisplay

/-- Why the sending program gives up. -/
inductive SendError
  | connecting (path : String) (error : ClientError)
  | sending (error : ClientError)
deriving DecidableEq

/-- The report of the error. -/
def SendError.report : SendError → Report
  | .connecting path error => ⟨s!"connecting to {path}", error.message :: error.causes⟩
  | .sending error => ⟨"sending event", error.message :: error.causes⟩

/-- Greets the server and sends the event. -/
def CommandLine.Injection.send (injection : CommandLine.Injection) (client : Client) :
    Except SendError Unit × Client :=
  match client.handshake with
  | (.error error, client) => (.error (.connecting injection.socketPath error), client)
  | (.ok (), client) =>
    match client.sendEvent injection.event with
    | (.error error, client) => (.error (.sending error), client)
    | (.ok (), client) => (.ok (), client)

end HeadlessDisplay
