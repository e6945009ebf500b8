import HeadlessDisplay.Proofs.Listener.Order

/-!
# What happens at a listener

The history of a run lists, with the connection concerned, what is seen to happen at the server:
connections are accepted, read from, written to and closed, sessions call the sink and end, the slot
is freed and summaries are reported. All of it is read off the service before and after each move
(`Service.seen`), at every connection and not only at the one whose turn it is. Calls, the freeing
of the slot and reports leave no trace at a connection and are put down to the task that moved.

`Happens` lists what is seen of a move of each kind, and `happens` says that an orderly service
shows nothing else.
-/

set_option autoImplicit false
set_option relaxedAutoImplicit false

namespace HeadlessDisplay

/-- Something that happens to a connection at the server. -/
inductive Occurrence
  /-- It is accepted under a number, while the slot is held by a session or is free. -/
  | accepted (id : ConnectionId) (held : Bool)
  /-- Octets that the client wrote are taken. -/
  | read (octets : Octets)
  /-- Octets are written to the client. -/
  | sent (octets : Octets)
  /-- Its session makes a call on the sink, which is received in some way. -/
  | called (attempt : SeatCall × Reception)
  /-- Its session ends. -/
  | ended (summary : SessionSummary)
  /-- The server closes its side. -/
  | closed
  /-- Its task frees the slot. -/
  | released
  /-- Its task reports. -/
  | reported (summary : SessionSummary)
deriving DecidableEq

namespace Occurrence

/-- Whether it is part of what a session does until it ends. -/
def isWork : Occurrence → Bool
  | .read _ | .sent _ | .called _ => true
  | .accepted .. | .ended _ | .closed | .released | .reported _ => false

/-- The call on the sink. -/
def call? : Occurrence → Option (SeatCall × Reception)
  | .called attempt => some attempt
  | _ => none

/-- The summary reported. -/
def report? : Occurrence → Option SessionSummary
  | .reported summary => some summary
  | _ => none

end Occurrence

/-- What is seen on a connection between two moments. -/
def Connection.seen (before after : Connection) : List Occurrence :=
  let taken := before.inbox.length - after.inbox.length
  (if 0 < taken then [.read (before.inbox.take taken)] else []) ++
    (if before.outbox.length < after.outbox.length then
      [.sent (after.outbox.drop before.outbox.length)] else []) ++
    (if before.serverOpen ∧ ¬after.serverOpen then [.closed] else [])

/-- What has been seen of a session from its end on when its task has come to a stage. -/
def TaskStage.farewell : TaskStage → List Occurrence
  | .serving _ => []
  | .ended summary => [.ended summary]
  | .hungUp summary => [.ended summary, .closed]
  | .vacated summary => [.ended summary, .closed, .released]

namespace Service

/-- What is seen on the line of a connection between two moments. -/
def seenOnLine (before after : Service RecordingSink) (index : Nat) : List Occurrence :=
  match before.connection? index, after.connection? index with
  | some before, some after => before.seen after
  | _, _ => []

/-- Whether a session is seen to end between two moments. -/
def seenEnding (before after : Service RecordingSink) (index : Nat) : List Occurrence :=
  match before.stage? index, after.stage? index with
  | some (.serving _), some (.ended summary) => [.ended summary]
  | _, _ => []

/-- What is seen of a connection between two moments; `acts` tells whether it is its task that has
moved. -/
def seen (before after : Service RecordingSink) (index : Nat) (acts : Bool) : List Occurrence :=
  (if index ∈ before.backlog ∧ index ∉ after.backlog then
    [.accepted ⟨after.counter.issued⟩ before.isBusy] else []) ++
  seenOnLine before after index ++
  (if acts then (after.sink.attempts.drop before.sink.attempts.length).map .called else []) ++
  seenEnding before after index ++
  (if acts ∧ before.isBusy ∧ ¬after.isBusy then [.released] else []) ++
  (if acts then (after.reports.drop before.reports.length).map .reported else [])

/-- What happens at a move, with the connections to which it happens. -/
def occurrences (before : Service RecordingSink) (move : Move) (after : Service RecordingSink) :
    List (Nat × Occurrence) :=
  (List.range after.connections.length).flatMap fun index ↦
    (before.seen after index (move = .advance index)).map (index, ·)

/-- What happens in a run. -/
def history (service : Service RecordingSink) : List Move → List (Nat × Occurrence)
  | [] => []
  | move :: moves =>
    service.occurrences move (service.move move) ++ (service.move move).history moves

/-- A run goes on where it was left. -/
theorem run_append {κ : Type} [InputSink κ] (service : Service κ) (moves more : List Move) :
    service.run (moves ++ more) = (service.run moves).run more :=
  List.foldl_append

/-- What happens in a run happens in its parts. -/
theorem history_append (service : Service RecordingSink) (moves more : List Move) :
    service.history (moves ++ more) =
      service.history moves ++ (service.run moves).history more := by
  induction moves generalizing service with
  | nil => rfl
  | cons move moves ih =>
    simp only [List.cons_append, history, List.append_assoc, ih]
    rfl

end Service

/-! ### Moves that show nothing -/

@[simp] theorem Connection.seen_self (connection : Connection) :
    connection.seen connection = [] := by
  simp [seen]

/-- What a client does is not seen at the server. -/
theorem Connection.ClientActs.seen_eq {before after : Connection}
    (hacts : before.ClientActs after) :
    before.seen after = [] := by
  have htaken : before.inbox.length - after.inbox.length = 0 := Nat.sub_eq_zero_of_le hacts.inbox_le
  have hsent : ¬before.outbox.length < after.outbox.length := Nat.not_lt.mpr hacts.outbox_le
  simp [seen, htaken, hsent, hacts.serverOpen_eq]

namespace Service

variable {before after : Service RecordingSink}

/-- Where the stage stays the same no session ends. -/
theorem seenEnding_of_eq {index : Nat} (hstage : after.stage? index = before.stage? index) :
    before.seenEnding after index = [] := by
  rw [seenEnding, hstage]
  cases before.stage? index with
  | none => rfl
  | some stage => cases stage <;> rfl

/-- Where the connection stays the same nothing is seen on it. -/
theorem seenOnLine_of_eq {index : Nat}
    (hconnection : after.connection? index = before.connection? index) :
    before.seenOnLine after index = [] := by
  rw [seenOnLine, hconnection]
  cases before.connection? index with
  | none => rfl
  | some connection => exact connection.seen_self

/-- A connection whose task does not move, which goes on waiting if it did, keeps its stage and
shows nothing on its line shows nothing at all. -/
theorem seen_eq_nil {index : Nat} (hwaits : index ∈ before.backlog → index ∈ after.backlog)
    (hline : before.seenOnLine after index = [])
    (hstage : after.stage? index = before.stage? index) : before.seen after index false = [] := by
  have hnot : ¬(index ∈ before.backlog ∧ index ∉ after.backlog) := fun h ↦ h.2 (hwaits h.1)
  simp [seen, hnot, hline, seenEnding_of_eq hstage]

/-- Nothing happens if nothing is seen of any connection. -/
theorem occurrences_eq_nil {move : Move}
    (hseen : ∀ index, before.seen after index (move = .advance index) = []) :
    before.occurrences move after = [] := by
  simp [occurrences, hseen]

/-- What happens is what happens to the one connection of which something is seen. -/
theorem occurrences_eq {move : Move} {index : Nat} (hindex : index < after.connections.length)
    (hothers : ∀ other, other ≠ index →
      before.seen after other (move = .advance other) = []) :
    before.occurrences move after =
      (before.seen after index (move = .advance index)).map (index, ·) := by
  obtain ⟨front, back, hrange⟩ := List.append_of_mem (List.mem_range.mpr hindex)
  have honce : (index :: (front ++ back)).Nodup := by
    refine List.perm_middle.nodup_iff.mp ?_
    rw [← hrange]
    exact List.nodup_range
  have hnot := (List.nodup_cons.mp honce).1
  have hnil (others : List Nat) (hmem : index ∉ others) :
      (others.flatMap fun other ↦
        (before.seen after other (move = .advance other)).map (other, ·)) = [] := by
    refine List.flatMap_eq_nil_iff.mpr fun other hother ↦ ?_
    have hne : other ≠ index := fun h ↦ hmem (h ▸ hother)
    rw [hothers other hne, List.map_nil]
  rw [occurrences, hrange, List.flatMap_append, List.flatMap_cons,
    hnil front fun h ↦ hnot (List.mem_append_left _ h),
    hnil back fun h ↦ hnot (List.mem_append_right _ h), List.nil_append, List.append_nil]

/-! ### What a move shows -/

/-- What can be seen of a move of an orderly service. -/
inductive Happens (before : Service RecordingSink) :
    Move → Service RecordingSink → List (Nat × Occurrence) → Prop
  /-- Nothing happens at the server. -/
  | nothing {move : Move} {after : Service RecordingSink}
      (haccepted : after.accepted = before.accepted)
      (hstage : ∀ index, after.stage? index = before.stage? index)
      (hreporting : after.reporting = before.reporting) (hsink : after.sink = before.sink)
      (hreports : after.reports = before.reports) : Happens before move after []
  | admitted {backlog : List Nat} (hbacklog : before.backlog = before.accepted :: backlog)
      (hfree : before.isBusy = false) :
      Happens before .accept (before.takeIn before.accepted backlog)
        [(before.accepted, .accepted (.afterOthers before.accepted) false)]
  | turnedAway {backlog : List Nat} (hbacklog : before.backlog = before.accepted :: backlog)
      (hheld : before.isBusy = true) :
      Happens before .accept (before.turnAway before.accepted backlog)
        [(before.accepted, .accepted (.afterOthers before.accepted) true),
          (before.accepted, .closed)]
  /-- A session works on its connection, and may end. -/
  | turned {index : Nat} {session : Session} {connection : Connection} {stage : TaskStage}
      {made : RecordingSink} {work : List Occurrence}
      (hstage : before.stage? index = some (.serving session))
      (hnew : (∃ session, stage = .serving session) ∨ ∃ summary, stage = .ended summary)
      (hwork : ∀ occurrence ∈ work, occurrence.isWork)
      (hcalls : made.attempts = before.sink.attempts ++ work.filterMap Occurrence.call?) :
      Happens before (.advance index)
        ((before.afterTurn index connection made).setStage index stage)
        ((work ++ stage.farewell).map (index, ·))
  | closed {index : Nat} {summary : SessionSummary}
      (hstage : before.stage? index = some (.ended summary)) :
      Happens before (.advance index) (before.closeSession index summary) [(index, .closed)]
  | vacated {index : Nat} {summary : SessionSummary}
      (hstage : before.stage? index = some (.hungUp summary)) :
      Happens before (.advance index) (before.vacate index summary) [(index, .released)]
  | finished {index : Nat} {summary : SessionSummary}
      (hstage : before.stage? index = some (.vacated summary)) :
      Happens before (.advance index) (before.finish index summary)
        ((if before.reporting then [.reported summary] else []).map (index, ·))

/-- When a connection is accepted, something is seen of it only. -/
theorem occurrences_accept (before after : Service RecordingSink) {index : Nat}
    (hbacklog : before.backlog = index :: after.backlog)
    (hindex : index < after.connections.length) (hgone : index ∉ after.backlog)
    (hconnection : ∀ other, other ≠ index → after.connection? other = before.connection? other)
    (hstage : ∀ other, other ≠ index → after.stage? other = before.stage? other)
    (hending : before.seenEnding after index = []) :
    before.occurrences .accept after =
      (.accepted ⟨after.counter.issued⟩ before.isBusy :: before.seenOnLine after index).map
        (index, ·) := by
  rw [occurrences_eq hindex fun other hother ↦ ?_]
  · simp [seen, hbacklog, hgone, hending]
  · refine seen_eq_nil (fun hwaits ↦ ?_) (seenOnLine_of_eq (hconnection other hother))
      (hstage other hother)
    rw [hbacklog, List.mem_cons] at hwaits
    exact hwaits.resolve_left hother

/-- When a task moves, something is seen of its connection only. -/
theorem occurrences_advance (before after : Service RecordingSink) {index : Nat}
    (hbacklog : after.backlog = before.backlog)
    (hindex : index < after.connections.length)
    (hconnection : ∀ other, other ≠ index → after.connection? other = before.connection? other)
    (hstage : ∀ other, other ≠ index → after.stage? other = before.stage? other) :
    before.occurrences (.advance index) after =
      (before.seenOnLine after index ++
        (after.sink.attempts.drop before.sink.attempts.length).map Occurrence.called ++
        before.seenEnding after index ++
        (if before.isBusy ∧ ¬after.isBusy then [Occurrence.released] else []) ++
        (after.reports.drop before.reports.length).map Occurrence.reported).map (index, ·) := by
  rw [occurrences_eq hindex fun other hother ↦ ?_]
  · simp [seen, hbacklog]
  · have hne : ¬index = other := fun h ↦ hother h.symm
    simp only [Move.advance.injEq, hne, decide_false]
    exact seen_eq_nil (fun hwaits ↦ hbacklog ▸ hwaits) (seenOnLine_of_eq (hconnection other hother))
      (hstage other hother)

/-- A new connection shows nothing. -/
theorem occurrences_connect (before : Service RecordingSink) :
    before.occurrences .connect before.connect = [] := by
  refine occurrences_eq_nil fun index ↦ seen_eq_nil (List.mem_append_left _) ?_ rfl
  cases hconnection : before.connection? index with
  | none => simp [seenOnLine, hconnection]
  | some connection =>
    refine seenOnLine_of_eq ?_
    obtain ⟨hindex, -⟩ := List.getElem?_eq_some_iff.mp hconnection
    exact List.getElem?_append_left hindex

/-- What a client does to its connection shows nothing. -/
theorem occurrences_modify (before : Service RecordingSink) {move : Move}
    (hmove : ∀ other, move ≠ .advance other) (index : Nat) {change : Connection → Connection}
    (hchange : ∀ connection : Connection, connection.ClientActs (change connection)) :
    before.occurrences move (before.modify index change) = [] := by
  refine occurrences_eq_nil fun other ↦ ?_
  simp only [hmove other, decide_false]
  refine seen_eq_nil id ?_ rfl
  rw [seenOnLine, connection?_modify]
  cases before.connection? other with
  | none => rfl
  | some connection =>
    by_cases hsame : index = other
    · simpa [hsame] using (hchange connection).seen_eq
    · simp [hsame]

/-- A move that changes nothing shows nothing. -/
theorem occurrences_self (before : Service RecordingSink) (move : Move) :
    before.occurrences move before = [] :=
  occurrences_eq_nil fun index ↦ by simp [seen, seenOnLine_of_eq, seenEnding_of_eq]

/-- What is seen on a line that is left open is part of a session's work, and no call. -/
theorem isWork_of_mem_seen {before after : Connection}
    (hopen : after.serverOpen = before.serverOpen) {occurrence : Occurrence}
    (hseen : occurrence ∈ before.seen after) :
    occurrence.isWork = true ∧ occurrence.call? = none := by
  have hclosed : ¬(before.serverOpen = true ∧ ¬after.serverOpen = true) := by simp [hopen]
  simp only [Connection.seen, hclosed, if_false, List.append_nil, List.mem_append] at hseen
  rcases hseen with hread | hsent
  · split at hread
    · rw [List.mem_singleton.mp hread]
      exact ⟨rfl, rfl⟩
    · simp at hread
  · split at hsent
    · rw [List.mem_singleton.mp hsent]
      exact ⟨rfl, rfl⟩
    · simp at hsent

/-- What is seen of a turn before a session ends is part of its work. -/
theorem isWork_of_turnedTo {connection after : Connection} {stage : TaskStage}
    {sink made : RecordingSink} (hturned : Session.TurnedTo connection sink stage after made) :
    ∀ occurrence ∈ connection.seen after ++
      (made.attempts.drop sink.attempts.length).map Occurrence.called,
      occurrence.isWork = true := by
  intro occurrence hoccurrence
  rcases List.mem_append.mp hoccurrence with hseen | hcalled
  · exact (isWork_of_mem_seen hturned.serverOpen_eq hseen).1
  · obtain ⟨attempt, -, rfl⟩ := List.mem_map.mp hcalled
    rfl

/-- The calls that the sink receives in a turn are those that are seen. -/
theorem attempts_eq_of_turnedTo {connection after : Connection} {stage : TaskStage}
    {sink made : RecordingSink} (hturned : Session.TurnedTo connection sink stage after made) :
    made.attempts = sink.attempts ++ (connection.seen after ++
      (made.attempts.drop sink.attempts.length).map Occurrence.called).filterMap
        Occurrence.call? := by
  obtain ⟨more, hmore⟩ := RecordingSink.attempts_of_turnedTo hturned
  have hnone : (connection.seen after).filterMap Occurrence.call? = [] :=
    List.filterMap_eq_nil_iff.mpr fun occurrence hseen ↦
      (isWork_of_mem_seen hturned.serverOpen_eq hseen).2
  have hsome : (Occurrence.call? ∘ Occurrence.called) = some := rfl
  rw [List.filterMap_append, hnone, List.nil_append, List.filterMap_map, hsome,
    List.filterMap_some, ← hmore, List.drop_left]

/-- What is seen of an accepted connection that gets a task. -/
theorem occurrences_takeIn (horderly : before.Orderly) {backlog : List Nat}
    (hbacklog : before.backlog = before.accepted :: backlog) (hfree : before.slotFree = true) :
    before.occurrences .accept (before.takeIn before.accepted backlog) =
      [(before.accepted, .accepted (.afterOthers before.accepted) false)] := by
  have hne := horderly.task_ne (Nat.le_refl before.accepted)
  have hbusy : before.isBusy = false := by simp [isBusy, hfree]
  have hline : before.seenOnLine (before.takeIn before.accepted backlog) before.accepted = [] :=
    seenOnLine_of_eq rfl
  have hid : (before.takeIn before.accepted backlog).counter.issued =
      (ConnectionId.afterOthers before.accepted).number :=
    congrArg (ConnectionCounter.issued ∘ Prod.snd) horderly.next_eq
  rw [occurrences_accept before (before.takeIn _ backlog) hbacklog
    (horderly.accepted_lt hbacklog) (horderly.head_notMem hbacklog)
    (fun _ _ ↦ rfl) (fun other hother ↦ by rw [stage?_takeIn hne, if_neg hother])
    (by simp [seenEnding, stage?_eq_none hne]), hid, hbusy, hline]
  rfl

/-- What is seen of an accepted connection that finds the slot taken. -/
theorem occurrences_turnAway (horderly : before.Orderly) {backlog : List Nat}
    (hbacklog : before.backlog = before.accepted :: backlog) (hheld : before.slotFree = false) :
    before.occurrences .accept (before.turnAway before.accepted backlog) =
      [(before.accepted, .accepted (.afterOthers before.accepted) true),
        (before.accepted, .closed)] := by
  have hindex := horderly.accepted_lt hbacklog
  have hbusy : before.isBusy = true := by simp [isBusy, hheld]
  have hid : (before.turnAway before.accepted backlog).counter.issued =
      (ConnectionId.afterOthers before.accepted).number :=
    congrArg (ConnectionCounter.issued ∘ Prod.snd) horderly.next_eq
  have hafter (other : Nat) : (before.turnAway before.accepted backlog).connection? other =
      (before.dismiss before.accepted).connection? other := rfl
  have hline : before.seenOnLine (before.turnAway before.accepted backlog) before.accepted =
      [.closed] := by
    obtain ⟨connection, hconnection⟩ : ∃ connection,
        before.connection? before.accepted = some connection :=
      ⟨_, List.getElem?_eq_getElem hindex⟩
    have hopen : connection.serverOpen = true :=
      (horderly.open_iff _ _ hconnection).mpr (.inl (Nat.le_refl _))
    rw [seenOnLine, hafter, dismiss, connection?_modify, hconnection]
    simp [Connection.seen, hopen]
  rw [occurrences_accept before (before.turnAway _ backlog) hbacklog
    (by simpa [turnAway, dismiss, modify] using hindex)
    (horderly.head_notMem hbacklog) (fun other hother ↦ ?_) (fun _ _ ↦ rfl)
    (seenEnding_of_eq rfl), hid, hbusy, hline]
  · rfl
  · rw [hafter, dismiss, connection?_modify, if_neg fun h ↦ hother h.symm]

/-- What is seen of a session that makes its turn. -/
theorem occurrences_turn {index : Nat} {session : Session} {connection after : Connection}
    {stage : TaskStage} {made : RecordingSink}
    (hstage : before.stage? index = some (.serving session))
    (hconnection : before.connection? index = some connection)
    (hturn : session.turn before.limit connection before.sink = some (stage, after, made)) :
    before.occurrences (.advance index)
        ((before.afterTurn index after made).setStage index stage) =
      (connection.seen after ++
        (made.attempts.drop before.sink.attempts.length).map Occurrence.called ++
        stage.farewell).map (index, ·) := by
  have hindex := (List.getElem?_eq_some_iff.mp hconnection).1
  have hafter (other : Nat) :
      ((before.afterTurn index after made).setStage index stage).connection? other =
        if index = other then some after else before.connection? other :=
    connection?_afterTurn hconnection after made other
  have hstages := stage?_turn hstage after made stage
  have hline : before.seenOnLine ((before.afterTurn index after made).setStage index stage) index =
      connection.seen after := by
    rw [seenOnLine, hafter, if_pos rfl, hconnection]
  have hending :
      before.seenEnding ((before.afterTurn index after made).setStage index stage) index =
      stage.farewell := by
    rw [seenEnding, hstages, if_pos rfl, hstage]
    obtain ⟨_, rfl⟩ | ⟨_, rfl⟩ := (Session.turnedTo hturn).goes_on_or_ends <;> rfl
  rw [occurrences_advance before ((before.afterTurn index after made).setStage index stage) rfl
    (by simpa [afterTurn, setStage] using hindex)
    (fun other hother ↦ by rw [hafter, if_neg fun h ↦ hother h.symm])
    (fun other hother ↦ by rw [hstages, if_neg hother]), hline, hending]
  have hbusy : ((before.afterTurn index after made).setStage index stage).isBusy =
      before.isBusy := rfl
  have hreports : ((before.afterTurn index after made).setStage index stage).reports =
      before.reports := rfl
  have hsink : ((before.afterTurn index after made).setStage index stage).sink = made := rfl
  rw [hbusy, hreports, hsink, List.drop_length]
  simp

/-- What is seen of a task that closes its connection. -/
theorem occurrences_closeSession (horderly : before.Orderly) {index : Nat}
    {summary : SessionSummary}
    (hstage : before.stage? index = some (.ended summary)) :
    before.occurrences (.advance index) (before.closeSession index summary) =
      [(index, .closed)] := by
  obtain ⟨connection, hconnection⟩ := horderly.exists_connection hstage
  have hopen : connection.serverOpen = true := horderly.serverOpen_eq hstage hconnection
  have hindex := (List.getElem?_eq_some_iff.mp hconnection).1
  have hafter (other : Nat) : (before.closeSession index summary).connection? other =
      (before.dismiss index).connection? other := rfl
  have hstages := stage?_closeSession hstage
  have hline : before.seenOnLine (before.closeSession index summary) index = [.closed] := by
    rw [seenOnLine, hafter, dismiss, connection?_modify, hconnection]
    simp [Connection.seen, hopen]
  have hending : before.seenEnding (before.closeSession index summary) index = [] := by
    rw [seenEnding, hstages, if_pos rfl, hstage]
  rw [occurrences_advance before (before.closeSession index summary) rfl
    (by simpa [closeSession, dismiss, setStage, modify] using hindex)
    (fun other hother ↦ by
      rw [hafter, dismiss, connection?_modify, if_neg fun h ↦ hother h.symm])
    (fun other hother ↦ by rw [hstages, if_neg hother]), hline, hending]
  have hbusy : (before.closeSession index summary).isBusy = before.isBusy := rfl
  have hreports : (before.closeSession index summary).reports = before.reports := rfl
  have hsink : (before.closeSession index summary).sink = before.sink := rfl
  rw [hbusy, hreports, hsink, List.drop_length, List.drop_length]
  simp

/-- What is seen of a task that frees the slot. -/
theorem occurrences_vacate (horderly : before.Orderly) {index : Nat} {summary : SessionSummary}
    (hstage : before.stage? index = some (.hungUp summary)) :
    before.occurrences (.advance index) (before.vacate index summary) =
      [(index, .released)] := by
  obtain ⟨connection, hconnection⟩ := horderly.exists_connection hstage
  have hstages := stage?_vacate hstage
  have hline : before.seenOnLine (before.vacate index summary) index = [] := seenOnLine_of_eq rfl
  have hending : before.seenEnding (before.vacate index summary) index = [] := by
    rw [seenEnding, hstages, if_pos rfl, hstage]
  rw [occurrences_advance before (before.vacate index summary) rfl
    (List.getElem?_eq_some_iff.mp hconnection).1 (fun _ _ ↦ rfl)
    (fun other hother ↦ by rw [hstages, if_neg hother]), hline, hending]
  have hbusy : (before.vacate index summary).isBusy = false := rfl
  have hreports : (before.vacate index summary).reports = before.reports := rfl
  have hsink : (before.vacate index summary).sink = before.sink := rfl
  rw [hbusy, horderly.isBusy_of_holdsSlot hstage rfl, hreports, hsink, List.drop_length,
    List.drop_length]
  simp

/-- What is seen of a task that reports. -/
theorem occurrences_finish (horderly : before.Orderly) {index : Nat} {summary : SessionSummary}
    (hstage : before.stage? index = some (.vacated summary)) :
    before.occurrences (.advance index) (before.finish index summary) =
      (if before.reporting then [.reported summary] else []).map (index, ·) := by
  obtain ⟨connection, hconnection⟩ := horderly.exists_connection hstage
  have hline : before.seenOnLine (before.finish index summary) index = [] := seenOnLine_of_eq rfl
  have hending : before.seenEnding (before.finish index summary) index = [] := by
    rw [seenEnding, stage?_finish, if_pos rfl, hstage]
  have hreports : (before.finish index summary).reports.drop before.reports.length =
      if before.reporting then [summary] else [] := by
    simp only [finish]
    split
    · exact List.drop_left
    · exact List.drop_length
  rw [occurrences_advance before (before.finish index summary) rfl
    (List.getElem?_eq_some_iff.mp hconnection).1 (fun _ _ ↦ rfl)
    (fun other hother ↦ by rw [stage?_finish, if_neg hother]), hline, hending, hreports]
  have hbusy : (before.finish index summary).isBusy = before.isBusy := rfl
  have hsink : (before.finish index summary).sink = before.sink := rfl
  rw [hbusy, hsink, List.drop_length]
  cases before.reporting <;> simp

/-- An orderly service shows nothing else. -/
theorem happens (horderly : before.Orderly) (move : Move) :
    Happens before move (before.move move) (before.occurrences move (before.move move)) := by
  have houtcome := moveOutcome before move
  generalize before.move move = after at houtcome ⊢
  cases houtcome with
  | connected =>
    rw [occurrences_connect]
    exact .nothing (by simp [accepted, connect]) (fun _ ↦ rfl) rfl rfl rfl
  | @client move index change hmove hchange =>
    rw [occurrences_modify before hmove index hchange]
    exact .nothing (by simp [accepted, modify]) (fun _ ↦ rfl) rfl rfl rfl
  | idle =>
    rw [occurrences_self]
    exact .nothing rfl (fun _ ↦ rfl) rfl rfl rfl
  | @admitted index backlog hbacklog hfree =>
    obtain ⟨rfl, -⟩ := horderly.head_eq hbacklog
    rw [occurrences_takeIn horderly hbacklog hfree]
    exact .admitted hbacklog (by simp [isBusy, hfree])
  | @turnedAway index backlog hbacklog hheld =>
    obtain ⟨rfl, -⟩ := horderly.head_eq hbacklog
    rw [occurrences_turnAway horderly hbacklog hheld]
    exact .turnedAway hbacklog (by simp [isBusy, hheld])
  | turned hstage hconnection hturn =>
    rw [occurrences_turn hstage hconnection hturn]
    have hturned := Session.turnedTo hturn
    exact .turned hstage hturned.goes_on_or_ends (isWork_of_turnedTo hturned)
      (attempts_eq_of_turnedTo hturned)
  | closed hstage =>
    rw [occurrences_closeSession horderly hstage]
    exact .closed hstage
  | vacated hstage =>
    rw [occurrences_vacate horderly hstage]
    exact .vacated hstage
  | finished hstage =>
    rw [occurrences_finish horderly hstage]
    exact .finished hstage

end Service

end HeadlessDisplay
