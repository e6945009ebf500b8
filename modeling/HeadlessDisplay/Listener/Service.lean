import HeadlessDisplay.Session.Run

/-!
The service of clients at a listener. Connections wait until they are accepted, in the order in
which they came. Each one accepted takes a number. One that finds the slot free holds it and is
served by a task of its own; one that finds the slot taken is closed at once. When its session is
over, a task first closes its connection, then frees the slot, and then reports.

The service is described move by move, so that clients, the acceptance of connections and the tasks
may take their moves in any order.
-/

set_option autoImplicit false
set_option relaxedAutoImplicit false

namespace HeadlessDisplay

/-- A connection between a client and the server. -/
structure Connection where
  /-- What the client wrote and the server has not read. -/
  inbox : Octets
  /-- What the server wrote and the client has not read. -/
  outbox : Octets
  clientOpen : Bool
  serverOpen : Bool
  /-- The client closed its side before it had read everything. -/
  reset : Bool
deriving DecidableEq

/-- A connection just made. -/
def Connection.fresh : Connection := ⟨[], [], true, true, false⟩

/-- How far the task of a connection has come. -/
inductive TaskStage
  /-- The session goes on. -/
  | serving (session : Session)
  /-- The session is over. -/
  | ended (summary : SessionSummary)
  /-- The connection is closed as well. -/
  | hungUp (summary : SessionSummary)
  /-- The slot is free again. -/
  | vacated (summary : SessionSummary)
deriving DecidableEq

/-- The task that serves a connection. -/
structure Task where
  connection : Nat
  stage : TaskStage
deriving DecidableEq

/-- The connections to a listener, with all that serves them. -/
structure Service (κ : Type) where
  /-- The payload limit of sessions. -/
  limit : Nat
  /-- Whether summaries are reported. -/
  reporting : Bool
  /-- All connections, in the order they were made. -/
  connections : List Connection
  /-- The connections that wait to be accepted. -/
  backlog : List Nat
  counter : ConnectionCounter
  slotFree : Bool
  tasks : List Task
  sink : κ
  /-- The reports that have not been collected. -/
  reports : List SessionSummary

namespace Service

variable {κ : Type}

/-- No connection has been made. -/
def start (limit : Nat) (reporting : Bool) (sink : κ) : Service κ :=
  ⟨limit, reporting, [], [], .start, true, [], sink, []⟩

/-- Whether a session holds the slot. -/
def isBusy (service : Service κ) : Bool :=
  !service.slotFree

/-- The connection of a number, in the order of making. -/
def connection? (service : Service κ) (index : Nat) : Option Connection :=
  service.connections[index]?

/-- Changes one connection. -/
def modify (service : Service κ) (index : Nat) (change : Connection → Connection) :
    Service κ :=
  { service with connections := service.connections.modify index change }

/-- A client connects. -/
def connect (service : Service κ) : Service κ :=
  { service with connections := service.connections ++ [.fresh],
                   backlog := service.backlog ++ [service.connections.length] }

/-- A client writes. -/
def write (service : Service κ) (index : Nat) (octets : Octets) : Service κ :=
  service.modify index fun connection ↦
    { connection with inbox := connection.inbox ++ octets }

/-- A client reads a number of octets. -/
def receive (service : Service κ) (index count : Nat) : Service κ :=
  service.modify index fun connection ↦
    { connection with outbox := connection.outbox.drop count }

/-- A client closes its side. -/
def hangUp (service : Service κ) (index : Nat) : Service κ :=
  service.modify index fun connection ↦
    { connection with clientOpen := false, reset := !connection.outbox.isEmpty }

/-- The server closes its side. -/
def dismiss (service : Service κ) (index : Nat) : Service κ :=
  service.modify index fun connection ↦ { connection with serverOpen := false }

/-- The connection that has waited longest is accepted. -/
def accept (service : Service κ) : Option (Service κ) :=
  match service.backlog with
  | [] => none
  | index :: backlog =>
    let (id, counter) := service.counter.next
    let accepted := { service with backlog, counter }
    if accepted.slotFree then
      some { accepted with slotFree := false,
                           tasks := accepted.tasks ++ [⟨index, .serving (.start id)⟩] }
    else some (accepted.dismiss index)

/-- The summary of a session that ends. -/
def summaryOf (session : Session) (ending : SessionEnd) : TaskStage :=
  .ended ⟨session.id, ending, session.stats⟩

/-- How a session ends on a connection from which nothing more will come. -/
def endOf (connection : Connection) : SessionEnd :=
  if connection.reset then .transport (.numbered .connectionReset)
  else if connection.inbox.isEmpty then .peerClosed
  else .truncated

/-- A session answers. The connection may be gone by then. -/
def answer (service : Service κ) (index : Nat) (session : Session) (connection : Connection)
    (payload : Octets) : TaskStage × Service κ :=
  match Frame.encode payload with
  | .error error => (summaryOf session (.framing error), service)
  | .ok frame =>
    if connection.clientOpen then
      (.serving session, service.modify index fun connection ↦
        { connection with outbox := connection.outbox ++ frame })
    else (summaryOf session (.transport (.numbered .brokenPipe)), service)

/-- A session takes the next frame of its connection, if there is one. -/
def serve [InputSink κ] (service : Service κ) (index : Nat) (session : Session) :
    Option (TaskStage × Service κ) :=
  match service.connection? index with
  | none => none
  | some connection =>
    match Frame.decode connection.inbox service.limit with
    | .error error => some (summaryOf session (.framing error), service)
    | .ok (.incomplete _) =>
      if connection.clientOpen then none
      else some (summaryOf session (endOf connection), service)
    | .ok (.complete payload consumed) =>
      let taken := service.modify index fun connection ↦
        { connection with inbox := connection.inbox.drop consumed }
      match session.handleFrame taken.sink payload with
      | (.reply payload, session, sink) =>
        some ({ taken with sink }.answer index session connection payload)
      | (.delivered, session, sink) => some (.serving session, { taken with sink })
      | (.skipped, session, sink) => some (.serving session, { taken with sink })
      | (.close reason, session, sink) =>
        some (summaryOf session reason.sessionEnd, { taken with sink })

/-- Sets how far the task of a connection has come. -/
def setStage (service : Service κ) (index : Nat) (stage : TaskStage) : Service κ :=
  { service with tasks := service.tasks.map fun task ↦
      if task.connection = index then { task with stage } else task }

/-- The task of a connection takes its next move, if it has one. -/
def advance [InputSink κ] (service : Service κ) (index : Nat) : Option (Service κ) :=
  match service.tasks.find? fun task ↦ task.connection == index with
  | none => none
  | some task =>
    match task.stage with
    | .serving session =>
      match service.serve index session with
      | none => none
      | some (stage, service) => some (service.setStage index stage)
    | .ended summary => some ((service.dismiss index).setStage index (.hungUp summary))
    | .hungUp summary =>
      some ({ service with slotFree := true }.setStage index (.vacated summary))
    | .vacated summary =>
      some { service with
        tasks := service.tasks.filter fun task ↦ task.connection != index
        reports :=
          if service.reporting then service.reports ++ [summary] else service.reports }

end Service

/-- A move of any party to a service. -/
inductive Move
  | connect
  | write (connection : Nat) (octets : Octets)
  | receive (connection count : Nat)
  | hangUp (connection : Nat)
  | accept
  | advance (connection : Nat)
deriving DecidableEq

/-- Makes a move; a move that cannot be made changes nothing. -/
def Service.move {κ : Type} [InputSink κ] (service : Service κ) : Move → Service κ
  | .connect => service.connect
  | .write index octets => service.write index octets
  | .receive index count => service.receive index count
  | .hangUp index => service.hangUp index
  | .accept => service.accept.getD service
  | .advance index => (service.advance index).getD service

end HeadlessDisplay
