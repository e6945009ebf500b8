import HeadlessDisplay.Listener.Service

/-!
# What a move comes to

A session looks at one connection, the payload limit and the sink, and changes the connection and
the sink only. `Session.turn` is this without the rest of the service, and `serve_eq` says that it
is what the service lets a session do. `MoveOutcome` lists all that a move of any party can come to,
and `moveOutcome` that it is all.

Tasks are found by the number of their connection. `exists_tasks_eq` opens the list of tasks at the
one that is found, and what its own moves make of the list is read off there.
-/

set_option autoImplicit false
set_option relaxedAutoImplicit false

namespace HeadlessDisplay

/-! ### Stages -/

namespace TaskStage

/-- The number under which the connection was accepted. -/
def id : TaskStage → ConnectionId
  | .serving session => session.id
  | .ended summary | .hungUp summary | .vacated summary => summary.id

/-- The same stage of a connection that was accepted under another number. -/
def withId (id : ConnectionId) : TaskStage → TaskStage
  | .serving session => .serving { session with id }
  | .ended summary => .ended { summary with id }
  | .hungUp summary => .hungUp { summary with id }
  | .vacated summary => .vacated { summary with id }

/-- Whether the task holds the slot. -/
def holdsSlot : TaskStage → Bool
  | .serving _ | .ended _ | .hungUp _ => true
  | .vacated _ => false

@[simp] theorem id_withId (stage : TaskStage) (id : ConnectionId) : (stage.withId id).id = id := by
  cases stage <;> rfl

@[simp] theorem withId_id (stage : TaskStage) : stage.withId stage.id = stage := by
  cases stage <;> rfl

end TaskStage

/-! ### A session's turn -/

namespace Session

variable {κ : Type} [InputSink κ]

/-- Where a task comes to, and its connection, when the session answers with a payload. -/
def answerOn (session : Session) (connection : Connection) (payload : Octets) :
    TaskStage × Connection :=
  match Frame.encode payload with
  | .error error => (Service.summaryOf session (.framing error), connection)
  | .ok frame =>
    if connection.clientOpen then
      (.serving session, { connection with outbox := connection.outbox ++ frame })
    else (Service.summaryOf session (.transport (.numbered .brokenPipe)), connection)

/-- Where a task comes to, and its connection and the sink, when the session makes its next move.
There is none while a frame may still come. -/
def turn (session : Session) (limit : Nat) (connection : Connection) (sink : κ) :
    Option (TaskStage × Connection × κ) :=
  match Frame.decode connection.inbox limit with
  | .error error => some (Service.summaryOf session (.framing error), connection, sink)
  | .ok (.incomplete _) =>
    if connection.clientOpen then none
    else some (Service.summaryOf session (Service.endOf connection), connection, sink)
  | .ok (.complete payload consumed) =>
    let taken := { connection with inbox := connection.inbox.drop consumed }
    match session.handleFrame sink payload with
    | (.reply answer, session, sink) =>
      let (stage, connection) := session.answerOn taken answer
      some (stage, connection, sink)
    | (.delivered, session, sink) => some (.serving session, taken, sink)
    | (.skipped, session, sink) => some (.serving session, taken, sink)
    | (.close reason, session, sink) =>
      some (Service.summaryOf session reason.sessionEnd, taken, sink)

/-- Nothing that follows a payload depends on the number of the connection. -/
theorem handleFrame_withId (session : Session) (id : ConnectionId) (sink : κ) (payload : Octets) :
    handleFrame { session with id } sink payload =
      ((session.handleFrame sink payload).1,
        { (session.handleFrame sink payload).2.1 with id },
        (session.handleFrame sink payload).2.2) := by
  obtain ⟨number, state, stats⟩ := session
  cases state with
  | awaitingHandshake =>
    simp only [handleFrame, handleGreeting]
    split <;> rfl
  | streaming =>
    simp only [handleFrame, handleEvent]
    cases InputEvent.decode payload with
    | error error => rfl
    | ok event =>
      dsimp only
      obtain ⟨answer, sink⟩ := inject sink event
      rcases answer with error | (_ | tag) <;> rfl
  | closed => rfl

/-- No answer depends on the number of the connection. -/
theorem answerOn_withId (session : Session) (id : ConnectionId) (connection : Connection)
    (payload : Octets) :
    answerOn { session with id } connection payload =
      ((session.answerOn connection payload).1.withId id,
        (session.answerOn connection payload).2) := by
  unfold answerOn
  cases Frame.encode payload with
  | error error => rfl
  | ok frame =>
    dsimp only
    split <;> rfl

/-- No turn depends on the number of the connection. -/
theorem turn_withId (session : Session) (id : ConnectionId) (limit : Nat)
    (connection : Connection) (sink : κ) :
    turn { session with id } limit connection sink =
      (session.turn limit connection sink).map fun (stage, connection, sink) ↦
        (stage.withId id, connection, sink) := by
  unfold turn
  cases Frame.decode connection.inbox limit with
  | error error => rfl
  | ok progress =>
    cases progress with
    | incomplete needed =>
      dsimp only
      split <;> rfl
    | complete payload consumed =>
      simp only [handleFrame_withId]
      obtain ⟨outcome, session', sink⟩ := session.handleFrame sink payload
      cases outcome with
      | reply answer => simp [answerOn_withId]
      | delivered => rfl
      | skipped => rfl
      | close reason => rfl

/-- What a turn leads to has the number of the session. -/
theorem id_of_turn {session : Session} {limit : Nat} {connection after : Connection}
    {sink made : κ} {stage : TaskStage}
    (hturn : session.turn limit connection sink = some (stage, after, made)) :
    stage.id = session.id := by
  have hsame : session.turn limit connection sink = _ :=
    turn_withId session session.id limit connection sink
  rw [hturn] at hsame
  have hstage : stage = stage.withId session.id := congrArg Prod.fst (Option.some.inj hsame)
  rw [hstage, TaskStage.id_withId]

/-- What a turn leaves alone. -/
structure TurnedTo (connection : Connection) (sink : κ) (stage : TaskStage) (after : Connection)
    (made : κ) : Prop where
  /-- A session does not close its connection. -/
  serverOpen_eq : after.serverOpen = connection.serverOpen
  /-- The session goes on or has just ended. -/
  goes_on_or_ends : (∃ session, stage = .serving session) ∨ ∃ summary, stage = .ended summary
  /-- The sink is used for at most one payload. -/
  sink_eq : made = sink ∨ ∃ session payload, made = (handleFrame session sink payload).2.2

/-- An answer leaves the connection open. -/
theorem answerOn_cases (session : Session) (connection : Connection) (payload : Octets) :
    (session.answerOn connection payload).2.serverOpen = connection.serverOpen ∧
      ((∃ other, (session.answerOn connection payload).1 = .serving other) ∨
        ∃ summary, (session.answerOn connection payload).1 = .ended summary) := by
  unfold answerOn
  cases Frame.encode payload with
  | error error => exact ⟨rfl, .inr ⟨_, rfl⟩⟩
  | ok frame =>
    dsimp only
    split
    · exact ⟨rfl, .inl ⟨_, rfl⟩⟩
    · exact ⟨rfl, .inr ⟨_, rfl⟩⟩

/-- Each turn leaves alone what a turn should. -/
theorem turnedTo {session : Session} {limit : Nat} {connection after : Connection} {sink made : κ}
    {stage : TaskStage} (hturn : session.turn limit connection sink = some (stage, after, made)) :
    TurnedTo connection sink stage after made := by
  unfold turn at hturn
  cases hdecode : Frame.decode connection.inbox limit with
  | error error =>
    simp only [hdecode, Option.some.injEq, Prod.mk.injEq] at hturn
    obtain ⟨rfl, rfl, rfl⟩ := hturn
    exact ⟨rfl, .inr ⟨_, rfl⟩, .inl rfl⟩
  | ok progress =>
    cases progress with
    | incomplete needed =>
      by_cases hopen : connection.clientOpen
      · simp [hdecode, hopen] at hturn
      · simp only [hdecode, hopen, Bool.false_eq_true, if_false, Option.some.injEq,
          Prod.mk.injEq] at hturn
        obtain ⟨rfl, rfl, rfl⟩ := hturn
        exact ⟨rfl, .inr ⟨_, rfl⟩, .inl rfl⟩
    | complete payload consumed =>
      simp only [hdecode] at hturn
      generalize hhandled : session.handleFrame sink payload = handled at hturn
      obtain ⟨outcome, session', sink'⟩ := handled
      have hused : sink' = (session.handleFrame sink payload).2.2 := by rw [hhandled]
      cases outcome with
      | reply answer =>
        simp only [Option.some.injEq, Prod.mk.injEq] at hturn
        obtain ⟨rfl, rfl, rfl⟩ := hturn
        have hanswer := session'.answerOn_cases
          { connection with inbox := connection.inbox.drop consumed } answer
        exact ⟨hanswer.1, hanswer.2, .inr ⟨session, payload, hused⟩⟩
      | delivered =>
        simp only [Option.some.injEq, Prod.mk.injEq] at hturn
        obtain ⟨rfl, rfl, rfl⟩ := hturn
        exact ⟨rfl, .inl ⟨_, rfl⟩, .inr ⟨session, payload, hused⟩⟩
      | skipped =>
        simp only [Option.some.injEq, Prod.mk.injEq] at hturn
        obtain ⟨rfl, rfl, rfl⟩ := hturn
        exact ⟨rfl, .inl ⟨_, rfl⟩, .inr ⟨session, payload, hused⟩⟩
      | close reason =>
        simp only [Option.some.injEq, Prod.mk.injEq] at hturn
        obtain ⟨rfl, rfl, rfl⟩ := hturn
        exact ⟨rfl, .inr ⟨_, rfl⟩, .inr ⟨session, payload, hused⟩⟩

end Session

namespace RecordingSink

/-- The sink keeps its calls when it is handed an event. -/
theorem attempts_inject (sink : RecordingSink) (event : InputEvent) :
    sink.attempts <+: (inject sink event).2.attempts := by
  unfold inject
  cases event.seatCall with
  | error tag => exact List.prefix_refl _
  | ok call =>
    simp only [InputSink.deliver]
    cases sink.reception sink.attempts.length <;> exact List.prefix_append _ _

/-- The sink keeps its calls when a payload is handled. -/
theorem attempts_handleFrame (session : Session) (sink : RecordingSink) (payload : Octets) :
    sink.attempts <+: (session.handleFrame sink payload).2.2.attempts := by
  unfold Session.handleFrame
  cases session.state with
  | awaitingHandshake => exact List.prefix_refl _
  | streaming =>
    simp only [Session.handleEvent]
    cases InputEvent.decode payload with
    | error error => exact List.prefix_refl _
    | ok event =>
      dsimp only
      have hinject := attempts_inject sink event
      generalize inject sink event = injected at hinject
      obtain ⟨_ | _ | tag, made⟩ := injected <;> exact hinject
  | closed => exact List.prefix_refl _

/-- The sink keeps its calls in a turn of a session. -/
theorem attempts_of_turnedTo {connection after : Connection} {sink made : RecordingSink}
    {stage : TaskStage} (hturned : Session.TurnedTo connection sink stage after made) :
    sink.attempts <+: made.attempts := by
  obtain rfl | ⟨session, payload, rfl⟩ := hturned.sink_eq
  · exact List.prefix_refl _
  · exact attempts_handleFrame session sink payload

end RecordingSink

namespace Service

variable {κ : Type}

/-- The service when a session has changed its connection and the sink. -/
def afterTurn (service : Service κ) (index : Nat) (connection : Connection) (sink : κ) :
    Service κ :=
  { service with connections := service.connections.set index connection, sink }

/-- A change of a connection that is there puts the changed one in its place. -/
theorem modify_eq_afterTurn {service : Service κ} {index : Nat} {connection : Connection}
    (hconnection : service.connection? index = some connection)
    (change : Connection → Connection) :
    service.modify index change = service.afterTurn index (change connection) service.sink := by
  have hlist : service.connections.modify index change =
      service.connections.set index (change connection) := by
    refine List.ext_getElem? fun other ↦ ?_
    rw [List.getElem?_modify, List.getElem?_set]
    by_cases hother : index = other
    · subst hother
      obtain ⟨hindex, hget⟩ := List.getElem?_eq_some_iff.mp hconnection
      simp [hindex, hget]
    · simp [hother]
  simp only [modify, hlist, afterTurn]

/-- Nothing changes when the connection and the sink are the ones that are there. -/
theorem afterTurn_self {service : Service κ} {index : Nat} {connection : Connection}
    (hconnection : service.connection? index = some connection) :
    service.afterTurn index connection service.sink = service := by
  have hmodify := modify_eq_afterTurn hconnection id
  rw [modify, List.modify_id] at hmodify
  exact hmodify.symm

/-- An answer changes one connection. -/
theorem answer_eq {service : Service κ} {index : Nat} {connection : Connection}
    (hconnection : service.connection? index = some connection) (session : Session)
    {before : Connection} (hopen : before.clientOpen = connection.clientOpen) (payload : Octets) :
    service.answer index session before payload =
      ((session.answerOn connection payload).1,
        service.afterTurn index (session.answerOn connection payload).2 service.sink) := by
  unfold answer Session.answerOn
  rw [hopen]
  cases Frame.encode payload with
  | error error => simp [afterTurn_self hconnection]
  | ok frame =>
    by_cases hclient : connection.clientOpen
    · simp [hclient, modify_eq_afterTurn hconnection]
    · simp [hclient, afterTurn_self hconnection]

/-- What the service lets a session do is the session's turn. -/
theorem serve_eq [InputSink κ] (service : Service κ) (index : Nat) (session : Session) :
    service.serve index session =
      (service.connection? index).bind fun connection ↦
        (session.turn service.limit connection service.sink).map fun (stage, connection, sink) ↦
          (stage, service.afterTurn index connection sink) := by
  unfold serve
  cases hconnection : service.connection? index with
  | none => rfl
  | some connection =>
    have hself := afterTurn_self hconnection
    simp only [Option.bind_some, Session.turn]
    cases Frame.decode connection.inbox service.limit with
    | error error => simp [hself]
    | ok progress =>
      cases progress with
      | incomplete needed => cases hopen : connection.clientOpen <;> simp [hself]
      | complete payload consumed =>
        simp only [modify_eq_afterTurn hconnection]
        have hindex : index < service.connections.length :=
          (List.getElem?_eq_some_iff.mp hconnection).1
        change (match session.handleFrame service.sink payload with
          | (.reply answer, session', sink) => _
          | (.delivered, session', sink) => _
          | (.skipped, session', sink) => _
          | (.close reason, session', sink) => _) = _
        obtain ⟨outcome, session', sink⟩ := session.handleFrame service.sink payload
        cases outcome with
        | reply payload =>
          have htaken : (service.afterTurn index
              { connection with inbox := connection.inbox.drop consumed } sink).connection? index =
                some { connection with inbox := connection.inbox.drop consumed } := by
            simp [afterTurn, connection?, hindex]
          have hsame : connection.clientOpen =
              { connection with inbox := connection.inbox.drop consumed }.clientOpen := rfl
          have hanswer := answer_eq htaken session' hsame payload
          simpa [afterTurn] using hanswer
        | delivered => rfl
        | skipped => rfl
        | close reason => rfl

/-! ### Tasks -/

/-- How far the task of a connection has come, if it has one. -/
def stage? (service : Service κ) (index : Nat) : Option TaskStage :=
  (service.tasks.find? fun task ↦ task.connection == index).map Task.stage

/-- A task that is found is somewhere among the tasks, and no other is of its connection if there is
one task for each connection. -/
theorem exists_tasks_eq {service : Service κ} {index : Nat} {stage : TaskStage}
    (honce : (service.tasks.map Task.connection).Nodup)
    (hstage : service.stage? index = some stage) :
    ∃ front back, service.tasks = front ++ ⟨index, stage⟩ :: back ∧
      ∀ task ∈ front ++ back, task.connection ≠ index := by
  obtain ⟨task, hfind, rfl⟩ := Option.map_eq_some_iff.mp hstage
  obtain ⟨hindex, front, back, htasks, -⟩ := List.find?_eq_some_iff_append.mp hfind
  obtain rfl : task.connection = index := by simpa using hindex
  refine ⟨front, back, htasks, fun other hother hsame ↦ ?_⟩
  have hperm : ((task :: (front ++ back)).map Task.connection).Nodup := by
    rw [htasks] at honce
    exact (List.perm_middle.map _).nodup_iff.mp honce
  rw [List.map_cons, List.nodup_cons] at hperm
  exact hperm.1 (hsame ▸ List.mem_map_of_mem hother)

/-- The task that has been found is the one that is changed. -/
theorem tasks_setStage {service : Service κ} {index : Nat} {stage : TaskStage}
    {front back : List Task} (htasks : service.tasks = front ++ ⟨index, stage⟩ :: back)
    (hothers : ∀ task ∈ front ++ back, task.connection ≠ index) (new : TaskStage) :
    (service.setStage index new).tasks = front ++ ⟨index, new⟩ :: back := by
  have hkept (tasks : List Task) (htasks : ∀ task ∈ tasks, task.connection ≠ index) :
      (tasks.map fun task ↦ if task.connection = index then { task with stage := new } else task) =
        tasks := by
    refine (List.map_congr_left fun task htask ↦ ?_).trans (List.map_id _)
    rw [if_neg (htasks task htask), id]
  have hfront := hkept front fun task htask ↦ hothers task (List.mem_append_left _ htask)
  have hback := hkept back fun task htask ↦ hothers task (List.mem_append_right _ htask)
  simp [setStage, htasks, hfront, hback]

/-- Setting a stage changes what is found at one connection only. -/
theorem stage?_setStage (service : Service κ) (index other : Nat) (new : TaskStage) :
    (service.setStage index new).stage? other =
      if other = index then (service.stage? index).map fun _ ↦ new else service.stage? other := by
  have hsame : ((fun task : Task ↦ task.connection == other) ∘ fun task ↦
      if task.connection = index then { task with stage := new } else task) =
        fun task ↦ task.connection == other := by
    funext task
    simp only [Function.comp_apply]
    split <;> rfl
  simp only [stage?, setStage, List.find?_map, hsame, Option.map_map]
  by_cases hother : other = index
  · subst hother
    rw [if_pos rfl]
    refine Option.map_congr fun task htask ↦ ?_
    have hfound : task.connection = other := by simpa using List.find?_some htask
    simp [hfound]
  · rw [if_neg hother]
    refine Option.map_congr fun task htask ↦ ?_
    have hfound : task.connection = other := by simpa using List.find?_some htask
    simp [hfound, hother]

/-- Where there is a task, its stage becomes the new one. -/
theorem stage?_setStage_of {service : Service κ} {index : Nat} {old : TaskStage}
    (hstage : service.stage? index = some old) (new : TaskStage) (other : Nat) :
    (service.setStage index new).stage? other =
      if other = index then some new else service.stage? other := by
  rw [stage?_setStage, hstage, Option.map_some]

@[simp] theorem connection_setStage (service : Service κ) (index : Nat) (new : TaskStage) :
    (service.setStage index new).tasks.map Task.connection =
      service.tasks.map Task.connection := by
  simp only [setStage, List.map_map]
  refine List.map_congr_left fun task _ ↦ ?_
  simp only [Function.comp_apply]
  split <;> rfl

/-! ### Moves -/

/-- The service when a connection has been accepted and is served. -/
def takeIn (service : Service κ) (index : Nat) (backlog : List Nat) : Service κ :=
  { service with
    backlog
    counter := service.counter.next.2
    slotFree := false
    tasks := service.tasks ++ [⟨index, .serving (.start service.counter.next.1)⟩] }

/-- The service when a connection has been accepted and closed. -/
def turnAway (service : Service κ) (index : Nat) (backlog : List Nat) : Service κ :=
  { service with backlog, counter := service.counter.next.2 }.dismiss index

/-- The service when a task has closed its connection. -/
def closeSession (service : Service κ) (index : Nat) (summary : SessionSummary) : Service κ :=
  (service.dismiss index).setStage index (.hungUp summary)

/-- The service when a task has freed the slot. -/
def vacate (service : Service κ) (index : Nat) (summary : SessionSummary) : Service κ :=
  { service with slotFree := true }.setStage index (.vacated summary)

/-- The service when a task has reported and is gone. -/
def finish (service : Service κ) (index : Nat) (summary : SessionSummary) : Service κ :=
  { service with
    tasks := service.tasks.filter fun task ↦ task.connection != index
    reports := if service.reporting then service.reports ++ [summary] else service.reports }

end Service

/-- What a client may do to a connection: it adds to what the server has to read, takes from what
the server wrote, and leaves the server's side as it is. -/
structure Connection.ClientActs (before after : Connection) : Prop where
  serverOpen_eq : after.serverOpen = before.serverOpen
  inbox_le : before.inbox.length ≤ after.inbox.length
  outbox_le : after.outbox.length ≤ before.outbox.length

/-- What a move of any party can come to. -/
inductive MoveOutcome {κ : Type} [InputSink κ] (service : Service κ) : Move → Service κ → Prop
  | connected : MoveOutcome service .connect service.connect
  /-- A client writes, reads or closes its side. -/
  | client {move : Move} {index : Nat} {change : Connection → Connection}
      (hmove : ∀ other, move ≠ .advance other)
      (hchange : ∀ connection : Connection, connection.ClientActs (change connection)) :
      MoveOutcome service move (service.modify index change)
  /-- There is nothing to do. -/
  | idle (move : Move) : MoveOutcome service move service
  | admitted {index : Nat} {backlog : List Nat} (hbacklog : service.backlog = index :: backlog)
      (hfree : service.slotFree = true) : MoveOutcome service .accept (service.takeIn index backlog)
  | turnedAway {index : Nat} {backlog : List Nat} (hbacklog : service.backlog = index :: backlog)
      (hheld : service.slotFree = false) :
      MoveOutcome service .accept (service.turnAway index backlog)
  /-- A session makes its turn. -/
  | turned {index : Nat} {session : Session} {connection after : Connection} {stage : TaskStage}
      {made : κ} (hstage : service.stage? index = some (.serving session))
      (hconnection : service.connection? index = some connection)
      (hturn : session.turn service.limit connection service.sink = some (stage, after, made)) :
      MoveOutcome service (.advance index)
        ((service.afterTurn index after made).setStage index stage)
  | closed {index : Nat} {summary : SessionSummary}
      (hstage : service.stage? index = some (.ended summary)) :
      MoveOutcome service (.advance index) (service.closeSession index summary)
  | vacated {index : Nat} {summary : SessionSummary}
      (hstage : service.stage? index = some (.hungUp summary)) :
      MoveOutcome service (.advance index) (service.vacate index summary)
  | finished {index : Nat} {summary : SessionSummary}
      (hstage : service.stage? index = some (.vacated summary)) :
      MoveOutcome service (.advance index) (service.finish index summary)

namespace Service

variable {κ : Type} [InputSink κ]

omit [InputSink κ] in
/-- What becomes of an accepted connection depends on the slot. -/
theorem accept_eq (service : Service κ) :
    service.accept =
      match service.backlog with
      | [] => none
      | index :: backlog =>
        some (if service.slotFree then service.takeIn index backlog
          else service.turnAway index backlog) := by
  unfold accept
  cases service.backlog with
  | nil => rfl
  | cons index backlog =>
    dsimp only
    split <;> rfl

/-- Nothing is accepted when nothing waits. -/
theorem move_accept_of_nil {service : Service κ} (hbacklog : service.backlog = []) :
    service.move .accept = service := by
  simp only [move, accept_eq, hbacklog, Option.getD_none]

/-- A connection that finds the slot free is admitted. -/
theorem move_accept_of_free {service : Service κ} {index : Nat} {backlog : List Nat}
    (hbacklog : service.backlog = index :: backlog) (hfree : service.slotFree = true) :
    service.move .accept = service.takeIn index backlog := by
  simp only [move, accept_eq, hbacklog, hfree, if_true, Option.getD_some]

/-- A connection that finds the slot taken is turned away. -/
theorem move_accept_of_held {service : Service κ} {index : Nat} {backlog : List Nat}
    (hbacklog : service.backlog = index :: backlog) (hheld : service.slotFree = false) :
    service.move .accept = service.turnAway index backlog := by
  simp only [move, accept_eq, hbacklog, hheld, Bool.false_eq_true, if_false, Option.getD_some]

/-- What the task of a connection does depends on how far it has come. -/
theorem advance_eq (service : Service κ) (index : Nat) :
    service.advance index =
      match service.stage? index with
      | none => none
      | some (.serving session) =>
        (service.serve index session).map fun (stage, service) ↦ service.setStage index stage
      | some (.ended summary) => some (service.closeSession index summary)
      | some (.hungUp summary) => some (service.vacate index summary)
      | some (.vacated summary) => some (service.finish index summary) := by
  unfold advance stage?
  cases service.tasks.find? fun task ↦ task.connection == index with
  | none => rfl
  | some task =>
    obtain ⟨connection, stage⟩ := task
    cases stage with
    | serving session =>
      simp only [Option.map_some]
      cases service.serve index session <;> rfl
    | _ => rfl

/-- A connection without a task makes no move. -/
theorem move_advance_of_none {service : Service κ} {index : Nat}
    (hstage : service.stage? index = none) : service.move (.advance index) = service := by
  simp only [move, advance_eq, hstage, Option.getD_none]

/-- A session makes its turn if there is one. -/
theorem move_advance_of_serving {service : Service κ} {index : Nat} {session : Session}
    {connection : Connection} (hstage : service.stage? index = some (.serving session))
    (hconnection : service.connection? index = some connection) :
    service.move (.advance index) =
      match session.turn service.limit connection service.sink with
      | none => service
      | some (stage, after, made) => (service.afterTurn index after made).setStage index stage := by
  simp only [move, advance_eq, hstage, serve_eq, hconnection, Option.bind_some]
  cases session.turn service.limit connection service.sink <;> rfl

/-- When its session has ended a task closes the connection. -/
theorem move_advance_of_ended {service : Service κ} {index : Nat} {summary : SessionSummary}
    (hstage : service.stage? index = some (.ended summary)) :
    service.move (.advance index) = service.closeSession index summary := by
  simp only [move, advance_eq, hstage, Option.getD_some]

/-- When it has closed the connection a task frees the slot. -/
theorem move_advance_of_hungUp {service : Service κ} {index : Nat} {summary : SessionSummary}
    (hstage : service.stage? index = some (.hungUp summary)) :
    service.move (.advance index) = service.vacate index summary := by
  simp only [move, advance_eq, hstage, Option.getD_some]

/-- When it has freed the slot a task reports. -/
theorem move_advance_of_vacated {service : Service κ} {index : Nat} {summary : SessionSummary}
    (hstage : service.stage? index = some (.vacated summary)) :
    service.move (.advance index) = service.finish index summary := by
  simp only [move, advance_eq, hstage, Option.getD_some]

/-- A move comes to one of these. -/
theorem moveOutcome (service : Service κ) (move : Move) :
    MoveOutcome service move (service.move move) := by
  cases move with
  | connect => exact .connected
  | write index octets => exact .client (by simp) fun connection ↦ ⟨rfl, by simp, by simp⟩
  | receive index count => exact .client (by simp) fun connection ↦ ⟨rfl, by simp, by simp⟩
  | hangUp index => exact .client (by simp) fun connection ↦ ⟨rfl, by simp, by simp⟩
  | accept =>
    cases hbacklog : service.backlog with
    | nil =>
      rw [move_accept_of_nil hbacklog]
      exact .idle _
    | cons index backlog =>
      cases hfree : service.slotFree with
      | true =>
        rw [move_accept_of_free hbacklog hfree]
        exact .admitted hbacklog hfree
      | false =>
        rw [move_accept_of_held hbacklog hfree]
        exact .turnedAway hbacklog hfree
  | advance index =>
    cases hstage : service.stage? index with
    | none =>
      rw [move_advance_of_none hstage]
      exact .idle _
    | some stage =>
      cases stage with
      | serving session =>
        cases hconnection : service.connection? index with
        | none =>
          have hstays : service.move (.advance index) = service := by
            simp [move, advance_eq, hstage, serve_eq, hconnection]
          rw [hstays]
          exact .idle _
        | some connection =>
          rw [move_advance_of_serving hstage hconnection]
          cases hturn : session.turn service.limit connection service.sink with
          | none => exact .idle _
          | some turned => exact .turned hstage hconnection hturn
      | ended summary =>
        rw [move_advance_of_ended hstage]
        exact .closed hstage
      | hungUp summary =>
        rw [move_advance_of_hungUp hstage]
        exact .vacated hstage
      | vacated summary =>
        rw [move_advance_of_vacated hstage]
        exact .finished hstage

end Service

end HeadlessDisplay
