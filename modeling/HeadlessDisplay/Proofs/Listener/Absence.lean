import Mathlib.Data.List.Find
import HeadlessDisplay.Proofs.Listener.History

/-!
# A connection that is turned away might as well not have come

`Service.movesWithout` takes one connection out of a run: that it was made, what its client did, and
that it was accepted. The later connections move up by one. `Absent` relates a service to one to
which a connection never came, with all the rest alike but for the numbers of connections, which
move up as well. As long as the connection is not admitted, each move that is left keeps the
relation, each move that is taken out keeps it too, and what is seen of the others is the same
(`absent_move`, `absent_run`).

Nothing is said of the reports that a service holds, since a report does not tell its connection
apart from others with the same number; what is seen of the others includes what they report.
-/

set_option autoImplicit false
set_option relaxedAutoImplicit false

namespace HeadlessDisplay

/-- The place of a connection among the others when one of them is not there. -/
def indexWithout (absent index : Nat) : Nat :=
  if index < absent then index else index - 1

/-- The number of a connection when one of those before it may not be there. -/
def idWithout (absent index : Nat) : ConnectionId :=
  .afterOthers (indexWithout absent index)

theorem indexWithout_inj {absent index other : Nat} (hindex : index ≠ absent)
    (hother : other ≠ absent) :
    indexWithout absent index = indexWithout absent other ↔ index = other := by
  unfold indexWithout
  split <;> split <;> omega

theorem indexWithout_of_lt {absent index : Nat} (hlt : index < absent) :
    indexWithout absent index = index :=
  if_pos hlt

/-- The task of a connection when one of the others is not there. -/
def Task.without (absent : Nat) (task : Task) : Task :=
  ⟨indexWithout absent task.connection, task.stage.withId (idWithout absent task.connection)⟩

/-- The same occurrence at a connection that was accepted under another number. -/
def Occurrence.withId (id : ConnectionId) : Occurrence → Occurrence
  | .accepted _ held => .accepted id held
  | .ended summary => .ended { summary with id }
  | .reported summary => .reported { summary with id }
  | .read octets => .read octets
  | .sent octets => .sent octets
  | .called attempt => .called attempt
  | .closed => .closed
  | .released => .released

/-- What happens to the connections other than one, when that one is not there. -/
def Occurrence.historyWithout (absent : Nat) (history : List (Nat × Occurrence)) :
    List (Nat × Occurrence) :=
  history.filterMap fun happened ↦
    if happened.1 = absent then none
    else some (indexWithout absent happened.1, happened.2.withId (idWithout absent happened.1))

/-- The move when a connection is not there, if it still takes place. -/
def Move.without {κ : Type} (absent : Nat) (service : Service κ) : Move → Option Move
  | .connect => if service.connections.length = absent then none else some .connect
  | .write index octets =>
    if index = absent then none else some (.write (indexWithout absent index) octets)
  | .receive index count =>
    if index = absent then none else some (.receive (indexWithout absent index) count)
  | .hangUp index => if index = absent then none else some (.hangUp (indexWithout absent index))
  | .accept => if service.backlog.head? = some absent then none else some .accept
  | .advance index => if index = absent then none else some (.advance (indexWithout absent index))

/-- The moves of a run when a connection is not there. -/
def Service.movesWithout {κ : Type} [InputSink κ] (absent : Nat) (service : Service κ) :
    List Move → List Move
  | [] => []
  | move :: moves =>
    (move.without absent service).toList ++ (service.move move).movesWithout absent moves

/-- The second service is the first one to which a connection has not come. -/
structure Absent {κ : Type} (absent : Nat) (service other : Service κ) : Prop where
  limit_eq : other.limit = service.limit
  reporting_eq : other.reporting = service.reporting
  connections_eq : other.connections = service.connections.eraseIdx absent
  backlog_eq : other.backlog =
    (service.backlog.filter fun index ↦ index ≠ absent).map (indexWithout absent)
  slotFree_eq : other.slotFree = service.slotFree
  tasks_eq : other.tasks = service.tasks.map (Task.without absent)
  task_ne : ∀ task ∈ service.tasks, task.connection ≠ absent
  sink_eq : other.sink = service.sink

namespace Absent

variable {κ : Type} {absent : Nat} {service other : Service κ}

/-! ### The two services side by side -/

/-- Both have the same connections but for the one that is absent. -/
theorem connection?_eq (habsent : Absent absent service other) {index : Nat}
    (hindex : index ≠ absent) :
    other.connection? (indexWithout absent index) = service.connection? index := by
  simp only [Service.connection?, habsent.connections_eq, List.getElem?_eraseIdx, indexWithout]
  by_cases hlt : index < absent
  · simp [hlt]
  · have hlate : ¬index - 1 < absent := by omega
    have hback : index - 1 + 1 = index := by omega
    simp [hlt, hlate, hback]

/-- Both have the same tasks but for their numbers. -/
theorem stage?_eq (habsent : Absent absent service other) {index : Nat}
    (hindex : index ≠ absent) :
    other.stage? (indexWithout absent index) =
      (service.stage? index).map (TaskStage.withId (idWithout absent index)) := by
  have hfind : service.tasks.find?
      ((fun task ↦ task.connection == indexWithout absent index) ∘ Task.without absent) =
        service.tasks.find? fun task ↦ task.connection == index := by
    refine List.find?_congr fun task htask ↦ ?_
    have hiff := indexWithout_inj (habsent.task_ne task htask) hindex
    simp [Task.without, hiff]
  simp only [Service.stage?, habsent.tasks_eq, List.find?_map, hfind, Option.map_map]
  refine Option.map_congr fun task htask ↦ ?_
  have hfound : task.connection = index := by simpa using List.find?_some htask
  simp [Task.without, hfound]

/-! ### Changes to both -/

/-- Both change in the same way at a connection that both have. -/
theorem modify (habsent : Absent absent service other) {index : Nat} (hindex : index ≠ absent)
    (change : Connection → Connection) :
    Absent absent (service.modify index change)
      (other.modify (indexWithout absent index) change) := by
  refine { habsent with connections_eq := ?_ }
  simp only [Service.modify, habsent.connections_eq]
  refine List.ext_getElem? fun place ↦ ?_
  simp only [List.getElem?_modify, List.getElem?_eraseIdx]
  by_cases hlt : place < absent
  · have hiff : indexWithout absent index = place ↔ index = place := by
      unfold indexWithout
      split <;> omega
    simp [hlt, hiff]
  · have hiff : indexWithout absent index = place ↔ index = place + 1 := by
      unfold indexWithout
      split <;> omega
    simp [hlt, hiff]

/-- What happens at the absent connection changes nothing. -/
theorem modify_absent (habsent : Absent absent service other)
    (change : Connection → Connection) : Absent absent (service.modify absent change) other := by
  refine { habsent with connections_eq := ?_ }
  rw [habsent.connections_eq]
  refine List.ext_getElem? fun place ↦ ?_
  simp only [Service.modify, List.getElem?_modify, List.getElem?_eraseIdx]
  by_cases hlt : place < absent
  · have hne : ¬absent = place := by omega
    simp [hlt, hne]
  · have hne : ¬absent = place + 1 := by omega
    simp [hlt, hne]

/-- A task that both have comes to the same stage in both. -/
theorem setStage (habsent : Absent absent service other) {index : Nat} (hindex : index ≠ absent)
    (stage : TaskStage) :
    Absent absent (service.setStage index stage)
      (other.setStage (indexWithout absent index) (stage.withId (idWithout absent index))) := by
  refine { habsent with tasks_eq := ?_, task_ne := ?_ }
  · simp only [Service.setStage, habsent.tasks_eq, List.map_map]
    refine List.map_congr_left fun task htask ↦ ?_
    have hiff := indexWithout_inj (habsent.task_ne task htask) hindex
    simp only [Function.comp_apply, Task.without, hiff]
    split
    · next hsame => simp [hsame]
    · rfl
  · intro task htask
    obtain ⟨before, hbefore, hsame⟩ : ∃ before ∈ service.tasks,
        before.connection = task.connection := by
      have hmem := List.mem_map_of_mem (f := Task.connection) htask
      rw [Service.connection_setStage] at hmem
      exact List.mem_map.mp hmem
    exact hsame ▸ habsent.task_ne before hbefore

/-- A session makes the same turn in both. -/
theorem afterTurn (habsent : Absent absent service other) {index : Nat} (hindex : index ≠ absent)
    {connection : Connection} (hconnection : service.connection? index = some connection)
    (after : Connection) (made : κ) :
    Absent absent (service.afterTurn index after made)
      (other.afterTurn (indexWithout absent index) after made) := by
  have hother := (habsent.connection?_eq hindex).trans hconnection
  have hchanged := habsent.modify hindex fun _ ↦ after
  rw [Service.modify_eq_afterTurn hconnection, Service.modify_eq_afterTurn hother] at hchanged
  exact { hchanged with sink_eq := rfl }

/-- A task that both have goes from both. -/
theorem finish (habsent : Absent absent service other) {index : Nat} (hindex : index ≠ absent)
    (summary reported : SessionSummary) :
    Absent absent (service.finish index summary)
      (other.finish (indexWithout absent index) reported) := by
  refine { habsent with tasks_eq := ?_, task_ne := ?_ }
  · simp only [Service.finish, habsent.tasks_eq, List.filter_map]
    congr 1
    refine List.filter_congr fun task htask ↦ ?_
    have hiff := indexWithout_inj (habsent.task_ne task htask) hindex
    simp [Task.without, bne, hiff]
  · exact fun task htask ↦ habsent.task_ne task (List.mem_of_mem_filter htask)

/-- The number of connections in both. -/
theorem length_eq (habsent : Absent absent service other)
    (hlength : service.connections.length ≠ absent) :
    other.connections.length = indexWithout absent service.connections.length := by
  rw [habsent.connections_eq, List.length_eraseIdx, indexWithout]
  split <;> split <;> omega

/-- Another connection is made in both. -/
theorem connect (habsent : Absent absent service other)
    (hlength : service.connections.length ≠ absent) :
    Absent absent service.connect other.connect := by
  refine { habsent with connections_eq := ?_, backlog_eq := ?_ }
  · simp only [Service.connect, habsent.connections_eq]
    by_cases hlt : absent < service.connections.length
    · rw [List.eraseIdx_append_of_lt_length hlt]
    · rw [List.eraseIdx_of_length_le (by omega), List.eraseIdx_of_length_le (by simp; omega)]
  · simp [Service.connect, habsent.backlog_eq, habsent.length_eq hlength, hlength]

/-- The absent connection is made in the one only. -/
theorem connect_absent (habsent : Absent absent service other)
    (hlength : service.connections.length = absent) : Absent absent service.connect other := by
  refine { habsent with connections_eq := ?_, backlog_eq := ?_ }
  · rw [habsent.connections_eq, List.eraseIdx_of_length_le (by omega), Service.connect, ← hlength]
    simp [List.eraseIdx_append_of_length_le]
  · simp [Service.connect, habsent.backlog_eq, hlength]

/-- The connection that is accepted next in the one is accepted next in the other. -/
theorem backlog_eq_cons (habsent : Absent absent service other) {index : Nat} {backlog : List Nat}
    (hindex : index ≠ absent) (hbacklog : service.backlog = index :: backlog) :
    other.backlog = indexWithout absent index ::
      (backlog.filter fun index ↦ index ≠ absent).map (indexWithout absent) := by
  rw [habsent.backlog_eq, hbacklog]
  simp [hindex]

/-- A connection is admitted in both. -/
theorem takeIn (habsent : Absent absent service other) {index : Nat} (hindex : index ≠ absent)
    (hid : other.counter.next.1 = idWithout absent index) (backlog : List Nat) :
    Absent absent (service.takeIn index backlog)
      (other.takeIn (indexWithout absent index)
        ((backlog.filter fun index ↦ index ≠ absent).map (indexWithout absent))) := by
  refine { habsent with backlog_eq := rfl, slotFree_eq := rfl, tasks_eq := ?_, task_ne := ?_ }
  · simp only [Service.takeIn, habsent.tasks_eq, List.map_append, hid]
    rfl
  · intro task htask
    rcases List.mem_append.mp htask with hold | hnew
    · exact habsent.task_ne task hold
    · rw [List.mem_singleton.mp hnew]
      exact hindex

/-- A connection is turned away in both. -/
theorem turnAway (habsent : Absent absent service other) {index : Nat} (hindex : index ≠ absent)
    (backlog : List Nat) :
    Absent absent (service.turnAway index backlog)
      (other.turnAway (indexWithout absent index)
        ((backlog.filter fun index ↦ index ≠ absent).map (indexWithout absent))) :=
  { habsent.modify hindex fun connection ↦ { connection with serverOpen := false } with
    backlog_eq := rfl }

/-- The absent connection is turned away in the one only. -/
theorem turnAway_absent (habsent : Absent absent service other) {backlog : List Nat}
    (hbacklog : service.backlog = absent :: backlog) :
    Absent absent (service.turnAway absent backlog) other :=
  { habsent.modify_absent fun connection ↦ { connection with serverOpen := false } with
    backlog_eq := by
      rw [habsent.backlog_eq, hbacklog]
      simp [Service.turnAway, Service.dismiss, Service.modify] }

end Absent

/-! ### What is seen of the others -/

namespace Occurrence

/-- What is seen on a line does not depend on numbers. -/
theorem map_withId_seen (before after : Connection) (id : ConnectionId) :
    (before.seen after).map (withId id) = before.seen after := by
  simp only [Connection.seen, List.map_append]
  split <;> split <;> split <;> rfl

theorem map_withId_farewell (stage : TaskStage) (id : ConnectionId) :
    stage.farewell.map (withId id) = (stage.withId id).farewell := by
  cases stage <;> rfl

theorem historyWithout_append (absent : Nat) (history more : List (Nat × Occurrence)) :
    historyWithout absent (history ++ more) =
      historyWithout absent history ++ historyWithout absent more :=
  List.filterMap_append

/-- What happens to the absent connection is taken out. -/
theorem historyWithout_map_self (absent : Nat) (occurrences : List Occurrence) :
    historyWithout absent (occurrences.map (absent, ·)) = [] := by
  rw [historyWithout, List.filterMap_map]
  exact List.filterMap_eq_nil_iff.mpr fun occurrence _ ↦ by simp

/-- What happens to another connection is left. -/
theorem historyWithout_map {absent index : Nat} (hindex : index ≠ absent)
    (occurrences : List Occurrence) :
    historyWithout absent (occurrences.map (index, ·)) =
      (occurrences.map (withId (idWithout absent index))).map (indexWithout absent index, ·) := by
  rw [historyWithout, List.filterMap_map, List.map_map, ← List.filterMap_eq_map]
  congr 1
  funext occurrence
  simp [hindex]

end Occurrence

/-! ### Runs of both -/

/-- After some moves of the one service and those that are left of them of the other, they are still
alike, and the same has been seen of the connections that both have. -/
structure AbsentThroughout (absent : Nat) (service other : Service RecordingSink)
    (moves left : List Move) : Prop where
  absent_run : Absent absent (service.run moves) (other.run left)
  history_eq : other.history left = Occurrence.historyWithout absent (service.history moves)

namespace AbsentThroughout

variable {absent : Nat} {service other : Service RecordingSink}

/-- A move that is left. -/
theorem of_both {move same : Move}
    (habsent : Absent absent (service.move move) (other.move same))
    (hsame : other.occurrences same (other.move same) =
      Occurrence.historyWithout absent (service.occurrences move (service.move move))) :
    AbsentThroughout absent service other [move] [same] where
  absent_run := habsent
  history_eq := by simpa [Service.history] using hsame

/-- A move that is taken out. -/
theorem of_one {move : Move} (habsent : Absent absent (service.move move) other)
    (hnone : Occurrence.historyWithout absent (service.occurrences move (service.move move)) = []) :
    AbsentThroughout absent service other [move] [] where
  absent_run := habsent
  history_eq := by simpa [Service.history] using hnone.symm

/-- What holds of two runs holds of the one after the other. -/
theorem append {moves more left rest : List Move}
    (hfirst : AbsentThroughout absent service other moves left)
    (hsecond : AbsentThroughout absent (service.run moves) (other.run left) more rest) :
    AbsentThroughout absent service other (moves ++ more) (left ++ rest) where
  absent_run := by
    rw [Service.run_append, Service.run_append]
    exact hsecond.absent_run
  history_eq := by
    rw [Service.history_append, Service.history_append, Occurrence.historyWithout_append,
      hfirst.history_eq, hsecond.history_eq]

/-- What a client does shows nothing and leaves both alike. -/
theorem of_client (habsent : Absent absent service other) {index : Nat} {move same : Move}
    {change : Connection → Connection}
    (hwithout : move.without absent service = if index = absent then none else some same)
    (hmove : service.move move = service.modify index change)
    (hsame : other.move same = other.modify (indexWithout absent index) change)
    (hneither : ∀ other, move ≠ .advance other ∧ same ≠ .advance other)
    (hchange : ∀ connection : Connection, connection.ClientActs (change connection)) :
    AbsentThroughout absent service other [move] (move.without absent service).toList := by
  have hnothing := Service.occurrences_modify service (fun other ↦ (hneither other).1) index hchange
  rw [hwithout]
  split
  · next hindex =>
    refine of_one ?_ ?_
    · rw [hmove, hindex]
      exact habsent.modify_absent change
    · rw [hmove, hnothing]
      rfl
  · next hindex =>
    refine of_both ?_ ?_
    · rw [hmove, hsame]
      exact habsent.modify hindex change
    · rw [hmove, hsame, hnothing,
        Service.occurrences_modify _ (fun other ↦ (hneither other).2) _ hchange]
      rfl

/-- The absent connection is turned away. -/
theorem of_accept_absent (horderly : service.Orderly) (habsent : Absent absent service other)
    {backlog : List Nat} (hbacklog : service.backlog = absent :: backlog)
    (hnot : ∀ id, (absent, Occurrence.accepted id false) ∉
      service.occurrences .accept (service.move .accept)) :
    AbsentThroughout absent service other [.accept] [] := by
  obtain ⟨hindex, -⟩ := horderly.head_eq hbacklog
  have hnext : service.backlog = service.accepted :: backlog := hindex ▸ hbacklog
  cases hslot : service.slotFree with
  | true =>
    -- The slot would now be taken by a connection that the other service does not have.
    rw [Service.move_accept_of_free hnext hslot, Service.occurrences_takeIn horderly hnext hslot,
      ← hindex] at hnot
    exact absurd (List.mem_singleton_self _) (hnot _)
  | false =>
    refine of_one ?_ ?_
    · rw [Service.move_accept_of_held hbacklog hslot]
      exact habsent.turnAway_absent hbacklog
    · rw [Service.move_accept_of_held hnext hslot,
        Service.occurrences_turnAway horderly hnext hslot, ← hindex]
      exact Occurrence.historyWithout_map_self absent [.accepted _ true, .closed]

/-- A connection that both have is accepted. -/
theorem of_accept_both (horderly : service.Orderly) (hother : other.Orderly)
    (habsent : Absent absent service other) {backlog : List Nat}
    (hbacklog : service.backlog = service.accepted :: backlog)
    (hindex : service.accepted ≠ absent) :
    AbsentThroughout absent service other [.accept] [.accept] := by
  have hnext := habsent.backlog_eq_cons hindex hbacklog
  obtain ⟨hsame, -⟩ := hother.head_eq hnext
  have hid : other.counter.next.1 = idWithout absent service.accepted := by
    rw [hother.next_eq, idWithout, hsame]
  have hslots := habsent.slotFree_eq
  cases hslot : service.slotFree with
  | true =>
    rw [hslot] at hslots
    have hboth := habsent.takeIn hindex hid backlog
    rw [hsame] at hnext hboth
    refine of_both ?_ ?_
    · rw [Service.move_accept_of_free hbacklog hslot, Service.move_accept_of_free hnext hslots]
      exact hboth
    · rw [Service.move_accept_of_free hbacklog hslot, Service.move_accept_of_free hnext hslots,
        Service.occurrences_takeIn horderly hbacklog hslot,
        Service.occurrences_takeIn hother hnext hslots, ← hsame]
      exact (Occurrence.historyWithout_map hindex [.accepted _ false]).symm
  | false =>
    rw [hslot] at hslots
    have hboth := habsent.turnAway hindex backlog
    rw [hsame] at hnext hboth
    refine of_both ?_ ?_
    · rw [Service.move_accept_of_held hbacklog hslot, Service.move_accept_of_held hnext hslots]
      exact hboth
    · rw [Service.move_accept_of_held hbacklog hslot, Service.move_accept_of_held hnext hslots,
        Service.occurrences_turnAway horderly hbacklog hslot,
        Service.occurrences_turnAway hother hnext hslots, ← hsame]
      exact (Occurrence.historyWithout_map hindex [.accepted _ true, .closed]).symm

/-- The next connection is accepted, if there is one. -/
theorem of_accept (horderly : service.Orderly) (hother : other.Orderly)
    (habsent : Absent absent service other)
    (hnot : ∀ id, (absent, Occurrence.accepted id false) ∉
      service.occurrences .accept (service.move .accept)) :
    AbsentThroughout absent service other [.accept]
      (Move.without absent service .accept).toList := by
  cases hbacklog : service.backlog with
  | nil =>
    have hempty : other.backlog = [] := by
      rw [habsent.backlog_eq, hbacklog]
      rfl
    have hwithout : Move.without absent service .accept = some .accept := by
      simp [Move.without, hbacklog]
    rw [hwithout, Option.toList_some]
    refine of_both ?_ ?_
    · rw [Service.move_accept_of_nil hbacklog, Service.move_accept_of_nil hempty]
      exact habsent
    · rw [Service.move_accept_of_nil hbacklog, Service.move_accept_of_nil hempty,
        Service.occurrences_self, Service.occurrences_self]
      rfl
  | cons index backlog =>
    obtain ⟨rfl, -⟩ := horderly.head_eq hbacklog
    by_cases hindex : service.accepted = absent
    · have hwithout : Move.without absent service .accept = none := by
        simp [Move.without, hbacklog, hindex]
      rw [hwithout, Option.toList_none]
      exact of_accept_absent horderly habsent (hindex ▸ hbacklog) hnot
    · have hwithout : Move.without absent service .accept = some .accept := by
        simp [Move.without, hbacklog, hindex]
      rw [hwithout, Option.toList_some]
      exact of_accept_both horderly hother habsent hbacklog hindex

/-- The session of a connection that both have makes the same turn, or none. -/
theorem of_turn (horderly : service.Orderly) (habsent : Absent absent service other) {index : Nat}
    (hindex : index ≠ absent) {session : Session}
    (hstage : service.stage? index = some (.serving session)) :
    AbsentThroughout absent service other [.advance index]
      [.advance (indexWithout absent index)] := by
  obtain ⟨connection, hconnection⟩ := horderly.exists_connection hstage
  have hconnections := (habsent.connection?_eq hindex).trans hconnection
  have hstages := habsent.stage?_eq hindex
  rw [hstage, Option.map_some] at hstages
  have hmove := Service.move_advance_of_serving hstage hconnection
  have hmoves := Service.move_advance_of_serving hstages hconnections
  have hturns := session.turn_withId (idWithout absent index) service.limit connection service.sink
  rw [habsent.limit_eq, habsent.sink_eq, hturns] at hmoves
  cases hturn : session.turn service.limit connection service.sink with
  | none =>
    rw [hturn] at hmove hmoves
    dsimp only [Option.map_none] at hmove hmoves
    refine of_both ?_ ?_
    · rw [hmove, hmoves]
      exact habsent
    · rw [hmove, hmoves, Service.occurrences_self, Service.occurrences_self]
      rfl
  | some turned =>
    obtain ⟨stage, after, made⟩ := turned
    rw [hturn] at hmove hmoves hturns
    rw [← habsent.limit_eq, ← habsent.sink_eq] at hturns
    refine of_both ?_ ?_
    · rw [hmove, hmoves]
      exact (habsent.afterTurn hindex hconnection after made).setStage hindex stage
    · rw [hmove, hmoves]
      refine (Service.occurrences_turn hstages hconnections hturns).trans ?_
      refine Eq.trans ?_ (congrArg _ (Service.occurrences_turn hstage hconnection hturn).symm)
      rw [Occurrence.historyWithout_map hindex, habsent.sink_eq]
      simp [Occurrence.map_withId_seen, Occurrence.map_withId_farewell, Function.comp_def,
        Occurrence.withId]

/-- The task of a connection that both have moves. -/
theorem of_advance (horderly : service.Orderly) (hother : other.Orderly)
    (habsent : Absent absent service other) {index : Nat} (hindex : index ≠ absent) :
    AbsentThroughout absent service other [.advance index]
      [.advance (indexWithout absent index)] := by
  have hstages := habsent.stage?_eq hindex
  cases hstage : service.stage? index with
  | none =>
    rw [hstage, Option.map_none] at hstages
    refine of_both ?_ ?_
    · rw [Service.move_advance_of_none hstage, Service.move_advance_of_none hstages]
      exact habsent
    · rw [Service.move_advance_of_none hstage, Service.move_advance_of_none hstages,
        Service.occurrences_self, Service.occurrences_self]
      rfl
  | some stage =>
    rw [hstage, Option.map_some] at hstages
    cases stage with
    | serving session => exact of_turn horderly habsent hindex hstage
    | ended summary =>
      refine of_both ?_ ?_
      · rw [Service.move_advance_of_ended hstage, Service.move_advance_of_ended hstages]
        exact (habsent.modify hindex _).setStage hindex (.hungUp summary)
      · rw [Service.move_advance_of_ended hstage, Service.move_advance_of_ended hstages,
          Service.occurrences_closeSession horderly hstage,
          Service.occurrences_closeSession hother hstages]
        exact (Occurrence.historyWithout_map hindex [.closed]).symm
    | hungUp summary =>
      have hfreed : Absent absent { service with slotFree := true }
          { other with slotFree := true } :=
        { habsent with slotFree_eq := rfl }
      refine of_both ?_ ?_
      · rw [Service.move_advance_of_hungUp hstage, Service.move_advance_of_hungUp hstages]
        exact hfreed.setStage hindex (.vacated summary)
      · rw [Service.move_advance_of_hungUp hstage, Service.move_advance_of_hungUp hstages,
          Service.occurrences_vacate horderly hstage, Service.occurrences_vacate hother hstages]
        exact (Occurrence.historyWithout_map hindex [.released]).symm
    | vacated summary =>
      refine of_both ?_ ?_
      · rw [Service.move_advance_of_vacated hstage, Service.move_advance_of_vacated hstages]
        exact habsent.finish hindex _ _
      · rw [Service.move_advance_of_vacated hstage, Service.move_advance_of_vacated hstages,
          Service.occurrences_finish horderly hstage, Service.occurrences_finish hother hstages,
          habsent.reporting_eq, Occurrence.historyWithout_map hindex]
        cases service.reporting <;> rfl

/-- Each move, left or taken out, keeps both alike as long as the absent connection is not
admitted. -/
theorem of_move (horderly : service.Orderly) (hother : other.Orderly)
    (habsent : Absent absent service other) (move : Move)
    (hnot : ∀ id, (absent, Occurrence.accepted id false) ∉
      service.occurrences move (service.move move)) :
    AbsentThroughout absent service other [move] (move.without absent service).toList := by
  cases move with
  | connect =>
    by_cases hlength : service.connections.length = absent
    · rw [Move.without, if_pos hlength]
      refine of_one (habsent.connect_absent hlength) ?_
      exact congrArg (Occurrence.historyWithout absent) (Service.occurrences_connect service)
    · rw [Move.without, if_neg hlength]
      refine of_both (habsent.connect hlength) ?_
      exact (Service.occurrences_connect other).trans
        (congrArg (Occurrence.historyWithout absent) (Service.occurrences_connect service).symm)
  | write index octets =>
    exact of_client habsent rfl rfl rfl (by simp) fun connection ↦ ⟨rfl, by simp, by simp⟩
  | receive index count =>
    exact of_client habsent rfl rfl rfl (by simp) fun connection ↦ ⟨rfl, by simp, by simp⟩
  | hangUp index =>
    exact of_client habsent rfl rfl rfl (by simp) fun connection ↦ ⟨rfl, by simp, by simp⟩
  | accept => exact of_accept horderly hother habsent hnot
  | advance index =>
    by_cases hindex : index = absent
    · have hstays : service.move (.advance absent) = service :=
        Service.move_advance_of_none (Service.stage?_eq_none habsent.task_ne)
      rw [Move.without, if_pos hindex, hindex]
      refine of_one ?_ ?_
      · rw [hstays]
        exact habsent
      · rw [hstays, Service.occurrences_self]
        rfl
    · rw [Move.without, if_neg hindex]
      exact of_advance horderly hother habsent hindex

/-- A run is the same with and without a connection that is not admitted in it. -/
theorem of_run (horderly : service.Orderly) (hother : other.Orderly)
    (habsent : Absent absent service other) (moves : List Move)
    (hnot : ∀ id, (absent, Occurrence.accepted id false) ∉ service.history moves) :
    AbsentThroughout absent service other moves (service.movesWithout absent moves) := by
  induction moves generalizing service other with
  | nil => exact ⟨habsent, rfl⟩
  | cons move moves ih =>
    have hfirst := of_move horderly hother habsent move fun id hid ↦
      hnot id (List.mem_append_left _ hid)
    exact hfirst.append (ih (Service.orderly_move horderly move) (Service.orderly_run hother _)
      hfirst.absent_run fun id hid ↦ hnot id (List.mem_append_right _ hid))

end AbsentThroughout

end HeadlessDisplay
