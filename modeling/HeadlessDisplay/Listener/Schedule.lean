import HeadlessDisplay.Client
import HeadlessDisplay.Listener.Service

/-!
A schedule for a service. The acceptor of connections, the tasks that serve them and the client act
one at a time. What they do leaves signs at the ends of the connections. Signs are noticed, the
oldest first, when nobody is in line, and a sign that is noticed calls the agent whom it concerns.
Who is called last acts first, and the others stand in line; an agent does all that it can before
the next one acts.

The client stands for all clients: it carries out one operation after another, each on some
connection. Most operations are done at once. Only where the client waits for something do the other
agents act, until the client is called or nobody has cause to act any more.
-/

set_option autoImplicit false
set_option relaxedAutoImplicit false

namespace HeadlessDisplay

/-- One of those who act. -/
inductive Agent
  /-- Accepts connections. -/
  | acceptor
  /-- Serves a connection. -/
  | task (connection : Nat)
  /-- Carries out the operations of all clients. -/
  | client
deriving DecidableEq

/-- A sign that something has happened. -/
inductive Sign
  /-- A connection was made. -/
  | arrival
  /-- Something happened at the server's end of a connection. -/
  | atServer (connection : Nat)
  /-- Something happened at the client's end of a connection. -/
  | atClient (connection : Nat)
deriving DecidableEq

/-- What the client waits for. -/
inductive Awaited
  /-- A connection is made. -/
  | connection (connection : Nat)
  /-- There is something to read on a connection, or the server has closed it. -/
  | answer (connection : Nat)
  /-- A session is reported. -/
  | report
  /-- The acceptor has taken notice that it is to stop. -/
  | stop
deriving DecidableEq

/-- A service and the order in which its agents act. -/
structure Schedule (κ : Type) where
  service : Service κ
  /-- The signs that have not been noticed, the oldest first. -/
  signs : List Sign
  /-- The agent that was called last and has not acted. -/
  foremost : Option Agent
  /-- The agents that act after it. -/
  line : List Agent
  awaited : Option Awaited

namespace Schedule

variable {κ : Type}

/-- A service on which nobody has cause to act. -/
def start (service : Service κ) : Schedule κ :=
  ⟨service, [], none, [], none⟩

/-- Leaves a sign, unless the same one is there. -/
def leave (schedule : Schedule κ) (sign : Sign) : Schedule κ :=
  if sign ∈ schedule.signs then schedule
  else { schedule with signs := schedule.signs ++ [sign] }

/-- Calls an agent, unless it is about to act. -/
def call (schedule : Schedule κ) (agent : Agent) : Schedule κ :=
  if schedule.foremost = some agent ∨ agent ∈ schedule.line then schedule
  else { schedule with
    foremost := some agent
    line := schedule.line ++ schedule.foremost.toList }

/-- The agent that acts next, and the others. -/
def next? (schedule : Schedule κ) : Option (Agent × Schedule κ) :=
  match schedule.foremost, schedule.line with
  | some agent, _ => some (agent, { schedule with foremost := none })
  | none, agent :: line => some (agent, { schedule with line })
  | none, [] => none

/-- What the server has written and the client not yet read. -/
def unread (schedule : Schedule κ) (index : Nat) : Octets :=
  ((schedule.service.connection? index).map Connection.outbox).getD []

/-- Whether the server has closed a connection. -/
def isDismissed (schedule : Schedule κ) (index : Nat) : Bool :=
  !(schedule.service.connection? index).any (·.serverOpen)

/-- Whether the client finds something on a connection when it reads. -/
def isReadable (schedule : Schedule κ) (index : Nat) : Bool :=
  !(schedule.unread index).isEmpty || schedule.isDismissed index

/-- Whether a connection has a task. -/
def isServed (schedule : Schedule κ) (index : Nat) : Bool :=
  schedule.service.tasks.any (·.connection == index)

/-- Whether a task finds something on its connection when it reads. -/
def isWritten (schedule : Schedule κ) (index : Nat) : Bool :=
  (schedule.service.connection? index).any fun connection ↦
    !connection.inbox.isEmpty || !connection.clientOpen

/-- Whether a sign at the client's end of a connection is what the client waits for. -/
def isAwaited (schedule : Schedule κ) (index : Nat) : Bool :=
  match schedule.awaited with
  | some (.connection awaited) => awaited = index
  | some (.answer awaited) => awaited = index && schedule.isReadable index
  | _ => false

/-- A sign is noticed. -/
def noticeSign (schedule : Schedule κ) : Sign → Schedule κ
  | .arrival => if schedule.service.backlog.isEmpty then schedule else schedule.call .acceptor
  | .atServer index =>
    if schedule.isServed index && schedule.isWritten index then schedule.call (.task index)
    else schedule
  | .atClient index => if schedule.isAwaited index then schedule.call .client else schedule

/-- All signs are noticed. -/
def notice (schedule : Schedule κ) : Schedule κ :=
  schedule.signs.foldl noticeSign { schedule with signs := [] }

/-- Accepts connections that wait. -/
def acceptAll (schedule : Schedule κ) : List Nat → Schedule κ
  | [] => schedule
  | index :: waiting =>
    let service := schedule.service.accept.getD schedule.service
    let accepted := { schedule with service }
    acceptAll
      (accepted.leave (if accepted.isServed index then .atServer index else .atClient index))
      waiting

/-- Lets a task act until it can go no further. -/
def advanceAll [InputSink κ] (index : Nat) : Nat → Service κ → Service κ
  | 0, service => service
  | bound + 1, service =>
    match service.advance index with
    | none => service
    | some service => advanceAll index bound service

/-- More than the moves that the task of a connection can make on what the client wrote. -/
def moves (service : Service κ) (index : Nat) : Nat :=
  ((service.connection? index).map fun connection ↦ connection.inbox.length).getD 0 + 5

/-- The schedule after a task has acted on the service. -/
def afterTask (schedule : Schedule κ) (index : Nat) (service : Service κ) : Schedule κ :=
  let acted := { schedule with service }
  let seen (schedule : Schedule κ) := (schedule.unread index, schedule.isDismissed index)
  let signed := if seen acted = seen schedule then acted else acted.leave (.atClient index)
  if service.reports.length ≠ schedule.service.reports.length ∧ schedule.awaited = some .report
  then signed.call .client
  else signed

/-- Lets one agent of the server act until it can go no further. -/
def act [InputSink κ] (schedule : Schedule κ) : Agent → Schedule κ
  | .acceptor =>
    if schedule.awaited = some .stop then schedule.call .client
    else schedule.acceptAll schedule.service.backlog
  | .task index =>
    let service := schedule.service
    schedule.afterTask index (advanceAll index (moves service index) service)
  | .client => schedule

/-- Lets the agents of the server act until the client is called, for a number of turns at most, and
tells whether it was called. -/
def untilCalled [InputSink κ] : Nat → Schedule κ → Bool × Schedule κ
  | 0, schedule => (false, schedule)
  | turns + 1, schedule =>
    match schedule.next? with
    | some (.client, schedule) => (true, schedule)
    | some (agent, schedule) => untilCalled turns (schedule.act agent)
    | none =>
      if schedule.signs.isEmpty then (false, schedule) else untilCalled turns schedule.notice

/-- More than the turns that the server can take by itself: of the signs that lead to them, each
connection gets one when it is accepted, one when it is answered and one when it is closed. -/
def turns (schedule : Schedule κ) : Nat :=
  3 * (schedule.signs.length + schedule.line.length + 3 * schedule.service.connections.length + 3)

/-- The client waits, and is told whether what it waits for has come about. -/
def waitFor [InputSink κ] (schedule : Schedule κ) (awaited : Awaited) : Bool × Schedule κ :=
  let (called, schedule) := untilCalled schedule.turns { schedule with awaited := some awaited }
  (called, { schedule with awaited := none })

/-- A client connects, and waits until the connection is made; its number is returned. -/
def connect [InputSink κ] (schedule : Schedule κ) : Nat × Schedule κ :=
  let index := schedule.service.connections.length
  let arrived := { schedule with service := schedule.service.connect }
  (index, (((arrived.leave .arrival).leave (.atClient index)).waitFor (.connection index)).2)

/-- A client does something to a connection that its task will find when it reads. -/
def reach (schedule : Schedule κ) (index : Nat) (service : Service κ) : Schedule κ :=
  let reached := { schedule with service }
  if reached.isServed index then reached.leave (.atServer index) else reached

/-- A client writes, if the server is still there. -/
def write (schedule : Schedule κ) (index : Nat) (octets : Octets) :
    Except Fault Unit × Schedule κ :=
  if schedule.isDismissed index then (.error (.numbered .brokenPipe), schedule)
  else (.ok (), schedule.reach index (schedule.service.write index octets))

/-- A client closes its connection. -/
def hangUp (schedule : Schedule κ) (index : Nat) : Schedule κ :=
  if (schedule.service.connection? index).any (·.clientOpen) then
    schedule.reach index (schedule.service.hangUp index)
  else schedule

/-- A client sends a payload as one frame. -/
def sendPayload (schedule : Schedule κ) (index : Nat) (payload : Octets) :
    Except ClientError Unit × Schedule κ :=
  match Frame.encode payload with
  | .error error => (.error (.frame (.framing error)), schedule)
  | .ok frame =>
    match schedule.write index frame with
    | (.error fault, schedule) => (.error (.frame (.transport fault)), schedule)
    | (.ok (), schedule) => (.ok (), schedule)

/-- A client sends an event. -/
def sendEvent (schedule : Schedule κ) (index : Nat) (event : InputEvent) :
    Except ClientError Unit × Schedule κ :=
  match event.encode with
  | .error error => (.error (.payload error), schedule)
  | .ok payload => schedule.sendPayload index payload

/-- A client reads a number of octets. -/
def receive (schedule : Schedule κ) (index count : Nat) : Schedule κ :=
  { schedule with service := schedule.service.receive index count }

/-- A client takes the answer to its greeting; a client that is answered otherwise leaves. -/
def takeAnswer (schedule : Schedule κ) (index : Nat) : Option Nat × Schedule κ :=
  match Frame.decode (schedule.unread index) Frame.defaultLimit with
  | .ok (.complete answer consumed) =>
    if answer = serverHello then (some index, schedule.receive index consumed)
    else (none, schedule.hangUp index)
  | _ => (none, schedule.hangUp index)

/-- A client connects and greets the server; its connection's number is returned if it is served. -/
def greet [InputSink κ] (schedule : Schedule κ) : Option Nat × Schedule κ :=
  let (index, schedule) := schedule.connect
  match schedule.sendPayload index clientHello with
  | (.error _, schedule) => (none, schedule.hangUp index)
  | (.ok (), schedule) =>
    let answered :=
      if schedule.isReadable index then schedule else (schedule.waitFor (.answer index)).2
    answered.takeAnswer index

/-- The client waits until the server closes a connection, but for no more than a number of
answers. -/
def untilDismissed [InputSink κ] (index : Nat) : Nat → Schedule κ → Schedule κ
  | 0, schedule => schedule
  | answers + 1, schedule =>
    if schedule.isDismissed index then schedule
    else
      match schedule.waitFor (.answer index) with
      | (true, schedule) => untilDismissed index answers schedule
      | (false, schedule) => schedule

/-- A client reads until the server closes the connection. -/
def readToEnd [InputSink κ] (schedule : Schedule κ) (index : Nat) : Octets × Schedule κ :=
  let dismissed := untilDismissed index schedule.turns schedule
  let unread := dismissed.unread index
  (unread, dismissed.receive index unread.length)

/-- The session that was reported longest ago and not collected is, after a wait if there is none.
-/
def collect [InputSink κ] (schedule : Schedule κ) : Option SessionSummary × Schedule κ :=
  let reported :=
    if schedule.service.reporting ∧ schedule.service.reports.isEmpty then
      (schedule.waitFor .report).2
    else schedule
  let reports := reported.service.reports
  (reports.head?, { reported with service := { reported.service with reports := reports.tail } })

/-- The acceptor is told to stop; those who are to act before it still do. -/
def stop [InputSink κ] (schedule : Schedule κ) : Schedule κ :=
  ((schedule.call .acceptor).waitFor .stop).2

end Schedule

end HeadlessDisplay
