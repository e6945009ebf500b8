import Mathlib.Data.List.Basic
import HeadlessDisplay.Proofs.Listener.Moves

/-!
# The order of a service

What is true of a service at all times: the connections that wait are the latest ones, the numbers
given out are as many as there are accepted connections, there is at most one task for a connection,
one task holds the slot when it is taken and none when it is free, and the server's side of a
connection is open as long as it waits or its task has not closed it. `Orderly` says this, every
move keeps it (`orderly_move`), and so does every run (`orderly_run`).
-/

set_option autoImplicit false
set_option relaxedAutoImplicit false

namespace HeadlessDisplay

/-- The number of a connection that is accepted after the given number of others. -/
def ConnectionId.afterOthers (others : Nat) : ConnectionId :=
  ⟨UInt64.ofNat (others + 1)⟩

/-- Whether the task has left its connection open. -/
def TaskStage.keepsOpen : TaskStage → Bool
  | .serving _ | .ended _ => true
  | .hungUp _ | .vacated _ => false

namespace Service

variable {κ : Type}

/-- Makes moves one after another. -/
def run [InputSink κ] (service : Service κ) (moves : List Move) : Service κ :=
  moves.foldl Service.move service

/-- How many connections have been accepted. -/
def accepted (service : Service κ) : Nat :=
  service.connections.length - service.backlog.length

/-- How many tasks hold the slot. -/
def holders (service : Service κ) : Nat :=
  service.tasks.countP fun task ↦ task.stage.holdsSlot

/-- What is true of a service at all times. -/
structure Orderly (service : Service κ) : Prop where
  waiting_le : service.backlog.length ≤ service.connections.length
  /-- The connections that wait are those made last, in their order. -/
  waiting_eq : service.backlog = List.range' service.accepted service.backlog.length
  issued_eq : service.counter.issued = UInt64.ofNat service.accepted
  task_lt : ∀ task ∈ service.tasks, task.connection < service.accepted
  /-- A connection has at most one task. -/
  once : (service.tasks.map Task.connection).Nodup
  id_eq : ∀ index stage, service.stage? index = some stage → stage.id = .afterOthers index
  holders_eq : service.holders = service.isBusy.toNat
  open_iff : ∀ index connection, service.connection? index = some connection →
    (connection.serverOpen = true ↔
      service.accepted ≤ index ∨ ∃ stage, service.stage? index = some stage ∧ stage.keepsOpen)

/-- A service without connections is orderly. -/
theorem orderly_start (limit : Nat) (reporting : Bool) (sink : κ) :
    (start limit reporting sink).Orderly where
  waiting_le := Nat.le_refl _
  waiting_eq := rfl
  issued_eq := rfl
  task_lt := by simp [start]
  once := by simp [start]
  id_eq := by simp [start, stage?]
  holders_eq := rfl
  open_iff := by simp [start, connection?]

/-! ### Small facts about updates -/

theorem connection?_modify (service : Service κ) (index other : Nat)
    (change : Connection → Connection) :
    (service.modify index change).connection? other =
      if index = other then (service.connection? other).map change
      else service.connection? other := by
  simp only [connection?, modify, List.getElem?_modify]
  by_cases hother : index = other <;> simp [hother]

@[simp] theorem length_modify (service : Service κ) (index : Nat)
    (change : Connection → Connection) :
    (service.modify index change).connections.length = service.connections.length := by
  simp [modify]

/-- Where a connection is changed, all that are open afterwards were open, and conversely, if the
change does not bear on that. -/
theorem serverOpen_modify {service : Service κ} {index other : Nat}
    {change : Connection → Connection} {connection : Connection}
    (hchange : ∀ connection : Connection, (change connection).serverOpen = connection.serverOpen)
    (hconnection : (service.modify index change).connection? other = some connection) :
    ∃ before, service.connection? other = some before ∧
      connection.serverOpen = before.serverOpen := by
  rw [connection?_modify] at hconnection
  split at hconnection
  · obtain ⟨before, hbefore, rfl⟩ := Option.map_eq_some_iff.mp hconnection
    exact ⟨before, hbefore, hchange before⟩
  · exact ⟨connection, hconnection, rfl⟩

theorem connection?_afterTurn {service : Service κ} {index : Nat} {connection : Connection}
    (hconnection : service.connection? index = some connection) (after : Connection) (sink : κ)
    (other : Nat) :
    (service.afterTurn index after sink).connection? other =
      if index = other then some after else service.connection? other := by
  obtain ⟨hindex, -⟩ := List.getElem?_eq_some_iff.mp hconnection
  simp only [connection?, afterTurn, List.getElem?_set, hindex, if_true]

/-- A task that is found is one of the tasks. -/
theorem mem_tasks_of_stage? {service : Service κ} {index : Nat} {stage : TaskStage}
    (hstage : service.stage? index = some stage) : ⟨index, stage⟩ ∈ service.tasks := by
  obtain ⟨task, hfind, rfl⟩ := Option.map_eq_some_iff.mp hstage
  obtain rfl : task.connection = index := by simpa using List.find?_some hfind
  exact List.mem_of_find?_eq_some hfind

/-- A connection that no task is of has no stage. -/
theorem stage?_eq_none {service : Service κ} {index : Nat}
    (hnone : ∀ task ∈ service.tasks, task.connection ≠ index) : service.stage? index = none := by
  simpa [stage?] using hnone

/-- Admitting a connection adds a task for it. -/
theorem stage?_takeIn {service : Service κ} {index : Nat}
    (hnone : ∀ task ∈ service.tasks, task.connection ≠ index) (backlog : List Nat) (other : Nat) :
    (service.takeIn index backlog).stage? other =
      if other = index then some (.serving (.start service.counter.next.1))
      else service.stage? other := by
  simp only [stage?, takeIn, List.find?_append, Option.map_or]
  by_cases hother : other = index
  · subst hother
    have hfind : service.tasks.find? (fun task ↦ task.connection == other) = none := by
      simpa using hnone
    simp [hfind]
  · have hne : ¬index = other := fun h ↦ hother h.symm
    simp [hother, hne]

/-- A session that makes its turn comes to another stage. -/
theorem stage?_turn {service : Service κ} {index : Nat} {old : TaskStage}
    (hstage : service.stage? index = some old) (connection : Connection) (made : κ)
    (new : TaskStage) (other : Nat) :
    ((service.afterTurn index connection made).setStage index new).stage? other =
      if other = index then some new else service.stage? other :=
  stage?_setStage_of hstage new other

/-- A task that has closed its connection is at that stage. -/
theorem stage?_closeSession {service : Service κ} {index : Nat} {summary : SessionSummary}
    (hstage : service.stage? index = some (.ended summary)) (other : Nat) :
    (service.closeSession index summary).stage? other =
      if other = index then some (.hungUp summary) else service.stage? other :=
  stage?_setStage_of hstage (.hungUp summary) other

/-- A task that has freed the slot is at that stage. -/
theorem stage?_vacate {service : Service κ} {index : Nat} {summary : SessionSummary}
    (hstage : service.stage? index = some (.hungUp summary)) (other : Nat) :
    (service.vacate index summary).stage? other =
      if other = index then some (.vacated summary) else service.stage? other :=
  stage?_setStage_of hstage (.vacated summary) other

/-- A task that is done is no longer found. -/
theorem stage?_finish (service : Service κ) (index : Nat) (summary : SessionSummary)
    (other : Nat) :
    (service.finish index summary).stage? other =
      if other = index then none else service.stage? other := by
  simp only [stage?, finish, List.find?_filter]
  by_cases hother : other = index
  · subst hother
    simp
  · rw [if_neg hother]
    congr 2
    funext task
    by_cases htask : task.connection = other <;> simp [htask, hother]

/-- The task that is set moves between those that hold the slot and those that do not. -/
theorem holders_setStage {service : Service κ} {index : Nat} {old : TaskStage}
    (honce : (service.tasks.map Task.connection).Nodup)
    (hstage : service.stage? index = some old) (new : TaskStage) :
    (service.setStage index new).holders + old.holdsSlot.toNat =
      service.holders + new.holdsSlot.toNat := by
  obtain ⟨front, back, htasks, hothers⟩ := exists_tasks_eq honce hstage
  simp only [holders, tasks_setStage htasks hothers, htasks, List.countP_append, List.countP_cons]
  cases old.holdsSlot <;> cases new.holdsSlot <;> simp <;> omega

/-! ### Each move keeps the order -/

namespace Orderly

variable {service after : Service κ}

/-- The order does not depend on what is on the way between clients and server. -/
theorem of_same_tasks (horderly : service.Orderly)
    (hlength : after.connections.length = service.connections.length)
    (hbacklog : after.backlog = service.backlog) (hcounter : after.counter = service.counter)
    (hslot : after.slotFree = service.slotFree) (htasks : after.tasks = service.tasks)
    (hopen : ∀ index connection, after.connection? index = some connection →
      ∃ before, service.connection? index = some before ∧
        connection.serverOpen = before.serverOpen) : after.Orderly := by
  have haccepted : after.accepted = service.accepted := by simp [accepted, hlength, hbacklog]
  have hstage (index : Nat) : after.stage? index = service.stage? index := by
    simp [stage?, htasks]
  refine ⟨?_, ?_, ?_, ?_, ?_, ?_, ?_, ?_⟩
  · rw [hbacklog, hlength]
    exact horderly.waiting_le
  · rw [hbacklog, haccepted]
    exact horderly.waiting_eq
  · rw [hcounter, haccepted]
    exact horderly.issued_eq
  · rw [htasks, haccepted]
    exact horderly.task_lt
  · rw [htasks]
    exact horderly.once
  · simp only [hstage]
    exact horderly.id_eq
  · simp only [holders, isBusy, htasks, hslot]
    exact horderly.holders_eq
  · intro index connection hconnection
    obtain ⟨before, hbefore, hsame⟩ := hopen index connection hconnection
    rw [hsame, haccepted, hstage]
    exact horderly.open_iff index before hbefore

/-- A new connection waits behind the others. -/
theorem connect (horderly : service.Orderly) : service.connect.Orderly := by
  have hle := horderly.waiting_le
  have haccepted : service.connect.accepted = service.accepted := by
    simp [accepted, Service.connect]
  refine ⟨?_, ?_, ?_, ?_, horderly.once, horderly.id_eq, horderly.holders_eq, ?_⟩
  · simpa [Service.connect] using hle
  · have hlast : service.accepted + service.backlog.length = service.connections.length := by
      simp only [accepted]
      omega
    rw [haccepted]
    simp only [Service.connect, List.length_append, List.length_singleton]
    rw [List.range'_concat, ← horderly.waiting_eq, Nat.one_mul, hlast]
  · rw [haccepted]
    exact horderly.issued_eq
  · rw [haccepted]
    exact horderly.task_lt
  · intro index connection hconnection
    rw [haccepted]
    simp only [Service.connect, connection?, List.getElem?_append] at hconnection
    split at hconnection
    · exact horderly.open_iff index connection hconnection
    · next hindex =>
      have hnew : connection = .fresh := by
        have hmem := List.mem_of_getElem? hconnection
        simpa using hmem
      subst hnew
      have hlate : service.accepted ≤ index := by
        simp only [accepted]
        omega
      simp [Connection.fresh, hlate]

/-- The connection that is accepted is the oldest that waits. -/
theorem head_eq (horderly : service.Orderly) {index : Nat} {backlog : List Nat}
    (hbacklog : service.backlog = index :: backlog) :
    index = service.accepted ∧ backlog = List.range' (service.accepted + 1) backlog.length ∧
      service.connections.length - backlog.length = service.accepted + 1 ∧
      backlog.length < service.connections.length := by
  have hwaiting := horderly.waiting_eq
  have hle := horderly.waiting_le
  rw [hbacklog, List.length_cons, List.range'_succ] at hwaiting
  simp only [hbacklog, List.length_cons, accepted] at hwaiting hle ⊢
  obtain ⟨hindex, hrest⟩ := List.cons.inj hwaiting
  exact ⟨hindex, hrest, by omega, by omega⟩

/-- The connection that is accepted has been made. -/
theorem accepted_lt (horderly : service.Orderly) {index : Nat} {backlog : List Nat}
    (hbacklog : service.backlog = index :: backlog) :
    service.accepted < service.connections.length := by
  obtain ⟨-, -, hcount, hlt⟩ := horderly.head_eq hbacklog
  omega

/-- The connection that is accepted no longer waits. -/
theorem head_notMem (horderly : service.Orderly) {backlog : List Nat}
    (hbacklog : service.backlog = service.accepted :: backlog) : service.accepted ∉ backlog := by
  intro hmem
  rw [(horderly.head_eq hbacklog).2.1, List.mem_range'_1] at hmem
  omega

/-- The connection that is accepted next has no task. -/
theorem task_ne (horderly : service.Orderly) {index : Nat} (hindex : service.accepted ≤ index) :
    ∀ task ∈ service.tasks, task.connection ≠ index := by
  intro task htask hsame
  have hlt := horderly.task_lt task htask
  omega

/-- The number given out next is that of the connection that is accepted next. -/
theorem next_eq (horderly : service.Orderly) :
    service.counter.next =
      (.afterOthers service.accepted, ⟨UInt64.ofNat (service.accepted + 1)⟩) := by
  have hissued : service.counter.issued + 1 = UInt64.ofNat (service.accepted + 1) := by
    rw [horderly.issued_eq, UInt64.ofNat_add]
    rfl
  simp only [ConnectionCounter.next, hissued, ConnectionId.afterOthers]

/-- An accepted connection gets a task, and the task the slot. -/
theorem takeIn (horderly : service.Orderly) {index : Nat} {backlog : List Nat}
    (hbacklog : service.backlog = index :: backlog) (hfree : service.slotFree = true) :
    (service.takeIn index backlog).Orderly := by
  obtain ⟨rfl, hwaiting, hcount, hlt⟩ := horderly.head_eq hbacklog
  have hne := horderly.task_ne (Nat.le_refl service.accepted)
  have haccepted :
      (service.takeIn service.accepted backlog).accepted = service.accepted + 1 := hcount
  refine ⟨Nat.le_of_lt hlt, ?_, ?_, ?_, ?_, ?_, ?_, ?_⟩
  · rw [haccepted]
    exact hwaiting
  · rw [haccepted]
    exact congrArg (ConnectionCounter.issued ∘ Prod.snd) horderly.next_eq
  · rw [haccepted]
    intro task htask
    rcases List.mem_append.mp htask with hold | hnew
    · exact Nat.lt_succ_of_lt (horderly.task_lt task hold)
    · rw [List.mem_singleton.mp hnew]
      exact Nat.lt_succ_self _
  · simp only [Service.takeIn, List.map_append, List.map_cons, List.map_nil]
    refine List.nodup_append.mpr ⟨horderly.once, by simp, ?_⟩
    simpa using hne
  · intro index stage hstage
    rw [stage?_takeIn hne] at hstage
    split at hstage
    · next hsame =>
      obtain rfl := Option.some.inj hstage
      rw [horderly.next_eq, hsame]
      rfl
    · exact horderly.id_eq index stage hstage
  · have hnone := horderly.holders_eq
    simp only [holders, isBusy, hfree, Bool.not_true, Bool.toNat_false] at hnone
    simp only [holders, Service.takeIn, List.countP_append, hnone]
    rfl
  · intro index connection hconnection
    rw [haccepted, stage?_takeIn hne, horderly.open_iff index connection hconnection]
    by_cases hsame : index = service.accepted
    · subst hsame
      simp [TaskStage.keepsOpen]
    · simp only [hsame, if_false]
      have hiff : service.accepted ≤ index ↔ service.accepted + 1 ≤ index := by omega
      rw [hiff]

/-- A connection that finds the slot taken gets no task and is closed. -/
theorem turnAway (horderly : service.Orderly) {index : Nat} {backlog : List Nat}
    (hbacklog : service.backlog = index :: backlog) :
    (service.turnAway index backlog).Orderly := by
  obtain ⟨rfl, hwaiting, hcount, hlt⟩ := horderly.head_eq hbacklog
  have hne := horderly.task_ne (Nat.le_refl service.accepted)
  have haccepted : (service.turnAway service.accepted backlog).accepted = service.accepted + 1 := by
    simpa [accepted, Service.turnAway, dismiss, modify] using hcount
  refine ⟨?_, ?_, ?_, ?_, horderly.once, horderly.id_eq, horderly.holders_eq, ?_⟩
  · simpa [Service.turnAway, dismiss, modify] using Nat.le_of_lt hlt
  · rw [haccepted]
    exact hwaiting
  · rw [haccepted]
    exact congrArg (ConnectionCounter.issued ∘ Prod.snd) horderly.next_eq
  · rw [haccepted]
    exact fun task htask ↦ Nat.lt_succ_of_lt (horderly.task_lt task htask)
  · intro index connection hconnection
    have hstage : (service.turnAway service.accepted backlog).stage? index =
        service.stage? index := rfl
    rw [haccepted, hstage]
    simp only [Service.turnAway, dismiss, connection?_modify] at hconnection
    split at hconnection
    · next hsame =>
      obtain ⟨before, hbefore, rfl⟩ := Option.map_eq_some_iff.mp hconnection
      subst hsame
      simp [stage?_eq_none hne]
    · next hsame =>
      have hiff : service.accepted ≤ index ↔ service.accepted + 1 ≤ index := by omega
      rw [← hiff]
      exact horderly.open_iff index connection hconnection

/-- A connection with a task has been accepted. -/
theorem lt_of_stage? (horderly : service.Orderly) {index : Nat} {stage : TaskStage}
    (hstage : service.stage? index = some stage) : index < service.accepted :=
  horderly.task_lt _ (mem_tasks_of_stage? hstage)

/-- A connection with a task is there. -/
theorem exists_connection (horderly : service.Orderly) {index : Nat} {stage : TaskStage}
    (hstage : service.stage? index = some stage) :
    ∃ connection, service.connection? index = some connection := by
  have hlt : index < service.connections.length :=
    Nat.lt_of_lt_of_le (horderly.lt_of_stage? hstage) (Nat.sub_le _ _)
  exact ⟨_, List.getElem?_eq_getElem hlt⟩

/-- The task of a connection decides whether it is open. -/
theorem serverOpen_eq (horderly : service.Orderly) {index : Nat} {stage : TaskStage}
    {connection : Connection} (hstage : service.stage? index = some stage)
    (hconnection : service.connection? index = some connection) :
    connection.serverOpen = stage.keepsOpen := by
  have hnot : ¬service.accepted ≤ index := Nat.not_le.mpr (horderly.lt_of_stage? hstage)
  have hopen := horderly.open_iff index connection hconnection
  simp only [hnot, hstage, Option.some.injEq, false_or, exists_eq_left'] at hopen
  exact Bool.eq_iff_iff.mpr hopen

/-- A task that holds the slot makes the service busy. -/
theorem isBusy_of_holdsSlot (horderly : service.Orderly) {index : Nat} {stage : TaskStage}
    (hstage : service.stage? index = some stage) (hholds : stage.holdsSlot = true) :
    service.isBusy = true := by
  have hpos : 0 < service.holders :=
    List.countP_pos_iff.mpr ⟨_, mem_tasks_of_stage? hstage, hholds⟩
  rw [horderly.holders_eq] at hpos
  cases hbusy : service.isBusy with
  | true => rfl
  | false => simp [hbusy] at hpos

/-- A task that comes to another stage keeps the order if the slot and its connection are as that
stage wants them. -/
theorem of_setStage (horderly : service.Orderly) {index : Nat} {old new : TaskStage}
    (hstage : service.stage? index = some old) (hid : new.id = old.id)
    (htasks : after.tasks = (service.setStage index new).tasks)
    (hlength : after.connections.length = service.connections.length)
    (hbacklog : after.backlog = service.backlog) (hcounter : after.counter = service.counter)
    (hslot : after.isBusy.toNat + old.holdsSlot.toNat = service.isBusy.toNat + new.holdsSlot.toNat)
    (hopen : ∀ other connection, after.connection? other = some connection →
      ∃ before, service.connection? other = some before ∧
        (connection.serverOpen =
          if other = index then new.keepsOpen else before.serverOpen)) : after.Orderly := by
  have haccepted : after.accepted = service.accepted := by simp [accepted, hlength, hbacklog]
  have hstages (other : Nat) : after.stage? other =
      if other = index then some new else service.stage? other := by
    rw [← stage?_setStage_of hstage new other]
    simp only [stage?, htasks]
  have hconnections : after.tasks.map Task.connection = service.tasks.map Task.connection := by
    rw [htasks, connection_setStage]
  refine ⟨?_, ?_, ?_, ?_, ?_, ?_, ?_, ?_⟩
  · rw [hbacklog, hlength]
    exact horderly.waiting_le
  · rw [hbacklog, haccepted]
    exact horderly.waiting_eq
  · rw [hcounter, haccepted]
    exact horderly.issued_eq
  · rw [haccepted]
    intro task htask
    have hmem := List.mem_map_of_mem (f := Task.connection) htask
    rw [hconnections] at hmem
    obtain ⟨before, hbefore, hsame⟩ := List.mem_map.mp hmem
    exact hsame ▸ horderly.task_lt before hbefore
  · rw [hconnections]
    exact horderly.once
  · intro other stage hother
    rw [hstages] at hother
    split at hother
    · next hsame =>
      obtain rfl := Option.some.inj hother
      rw [hid, hsame]
      exact horderly.id_eq index old hstage
    · exact horderly.id_eq other stage hother
  · have hholders := holders_setStage horderly.once hstage new
    have hsame : after.holders = (service.setStage index new).holders := by
      simp only [holders, htasks]
    rw [horderly.holders_eq] at hholders
    omega
  · intro other connection hconnection
    obtain ⟨before, hbefore, heq⟩ := hopen other connection hconnection
    rw [haccepted, hstages, heq]
    by_cases hsame : other = index
    · have hnot : ¬service.accepted ≤ index := Nat.not_le.mpr (horderly.lt_of_stage? hstage)
      simp [hsame, hnot]
    · simp only [hsame, if_false]
      exact horderly.open_iff other before hbefore

/-- A session that makes its turn keeps the order. -/
theorem turn [InputSink κ] (horderly : service.Orderly) {index : Nat} {session : Session}
    {before after : Connection} {stage : TaskStage} {made : κ}
    (hstage : service.stage? index = some (.serving session))
    (hconnection : service.connection? index = some before)
    (hturn : session.turn service.limit before service.sink = some (stage, after, made)) :
    ((service.afterTurn index after made).setStage index stage).Orderly := by
  have hturned := Session.turnedTo hturn
  -- A turn neither frees the slot nor closes the connection, also when the session ends in it.
  have hkeeps : stage.holdsSlot = true ∧ stage.keepsOpen = true := by
    obtain ⟨_, rfl⟩ | ⟨_, rfl⟩ := hturned.goes_on_or_ends <;> exact ⟨rfl, rfl⟩
  refine horderly.of_setStage hstage (Session.id_of_turn hturn) rfl ?_ rfl rfl ?_ ?_
  · simp [afterTurn, setStage]
  · rw [hkeeps.1]
    rfl
  · intro other connection hother
    change (service.afterTurn index after made).connection? other = some connection at hother
    rw [connection?_afterTurn hconnection] at hother
    by_cases hsame : index = other
    · subst hsame
      rw [if_pos rfl] at hother
      obtain rfl := Option.some.inj hother
      refine ⟨before, hconnection, ?_⟩
      rw [if_pos rfl, hturned.serverOpen_eq, horderly.serverOpen_eq hstage hconnection, hkeeps.2]
      rfl
    · rw [if_neg hsame] at hother
      exact ⟨connection, hother, by rw [if_neg fun h ↦ hsame h.symm]⟩

/-- A task that closes its connection keeps the order. -/
theorem closeSession (horderly : service.Orderly) {index : Nat} {summary : SessionSummary}
    (hstage : service.stage? index = some (.ended summary)) :
    (service.closeSession index summary).Orderly := by
  have hid : (TaskStage.hungUp summary).id = (TaskStage.ended summary).id := rfl
  refine horderly.of_setStage hstage hid rfl
    (by simp [Service.closeSession, dismiss, setStage, modify]) rfl rfl rfl ?_
  intro other connection hother
  change (service.dismiss index).connection? other = some connection at hother
  rw [dismiss, connection?_modify] at hother
  by_cases hsame : index = other
  · rw [if_pos hsame] at hother
    obtain ⟨before, hbefore, rfl⟩ := Option.map_eq_some_iff.mp hother
    exact ⟨before, hbefore, by rw [if_pos hsame.symm]; rfl⟩
  · rw [if_neg hsame] at hother
    exact ⟨connection, hother, by rw [if_neg fun h ↦ hsame h.symm]⟩

/-- A task that frees the slot keeps the order. -/
theorem vacate (horderly : service.Orderly) {index : Nat} {summary : SessionSummary}
    (hstage : service.stage? index = some (.hungUp summary)) :
    (service.vacate index summary).Orderly := by
  have hid : (TaskStage.vacated summary).id = (TaskStage.hungUp summary).id := rfl
  refine horderly.of_setStage hstage hid rfl rfl rfl rfl ?_ ?_
  · rw [horderly.isBusy_of_holdsSlot hstage rfl]
    rfl
  · intro other connection hother
    refine ⟨connection, hother, ?_⟩
    split
    · next hsame =>
      subst hsame
      exact (horderly.serverOpen_eq hstage hother).trans rfl
    · rfl

/-- A task that is done leaves the order. -/
theorem finish (horderly : service.Orderly) {index : Nat} {summary : SessionSummary}
    (hstage : service.stage? index = some (.vacated summary)) :
    (service.finish index summary).Orderly := by
  obtain ⟨front, back, htasks, hothers⟩ := exists_tasks_eq horderly.once hstage
  have hleft : (service.finish index summary).tasks = front ++ back := by
    have hall : (front ++ back).filter (fun task ↦ task.connection != index) = front ++ back :=
      List.filter_eq_self.mpr fun task htask ↦ by simpa using hothers task htask
    rw [List.filter_append] at hall
    simp [Service.finish, htasks, List.filter_append, hall]
  have hmem : ∀ task ∈ front ++ back, task ∈ service.tasks := by
    intro task htask
    rw [htasks]
    rcases List.mem_append.mp htask with hfront | hback
    · exact List.mem_append_left _ hfront
    · exact List.mem_append_right _ (List.mem_cons_of_mem _ hback)
  refine ⟨horderly.waiting_le, horderly.waiting_eq, horderly.issued_eq, ?_, ?_, ?_, ?_, ?_⟩
  · rw [hleft]
    exact fun task htask ↦ horderly.task_lt task (hmem task htask)
  · have honce := horderly.once
    rw [htasks] at honce
    rw [hleft]
    exact ((List.sublist_cons_self _ _).append_left front |>.map _).nodup honce
  · intro other stage hother
    rw [stage?_finish] at hother
    split at hother
    · exact absurd hother (by simp)
    · exact horderly.id_eq other stage hother
  · have hholders := horderly.holders_eq
    simp only [holders, htasks, List.countP_append, List.countP_cons] at hholders
    simp only [holders, hleft, List.countP_append]
    exact hholders
  · intro other connection hconnection
    rw [stage?_finish, horderly.open_iff other connection hconnection]
    have hsame : (service.finish index summary).accepted = service.accepted := rfl
    rw [hsame]
    split
    · next hother =>
      subst hother
      simp [hstage, TaskStage.keepsOpen]
    · rfl

end Orderly

/-- Whether summaries are reported is settled once and for all. -/
theorem reporting_run [InputSink κ] (service : Service κ) (moves : List Move) :
    (service.run moves).reporting = service.reporting := by
  induction moves generalizing service with
  | nil => rfl
  | cons move moves ih =>
    refine (ih (service.move move)).trans ?_
    have houtcome := moveOutcome service move
    generalize service.move move = after at houtcome ⊢
    cases houtcome <;> rfl

/-- Each move keeps the order. -/
theorem orderly_move [InputSink κ] {service : Service κ} (horderly : service.Orderly)
    (move : Move) : (service.move move).Orderly := by
  have houtcome := moveOutcome service move
  generalize service.move move = after at houtcome ⊢
  cases houtcome with
  | connected => exact horderly.connect
  | client hmove hchange =>
    exact horderly.of_same_tasks (by simp) rfl rfl rfl rfl fun index connection hconnection ↦
      serverOpen_modify (fun connection ↦ (hchange connection).serverOpen_eq) hconnection
  | idle => exact horderly
  | admitted hbacklog hfree => exact horderly.takeIn hbacklog hfree
  | turnedAway hbacklog hheld => exact horderly.turnAway hbacklog
  | turned hstage hconnection hturn => exact horderly.turn hstage hconnection hturn
  | closed hstage => exact horderly.closeSession hstage
  | vacated hstage => exact horderly.vacate hstage
  | finished hstage => exact horderly.finish hstage

/-- Every run keeps the order. -/
theorem orderly_run [InputSink κ] {service : Service κ} (horderly : service.Orderly)
    (moves : List Move) : (service.run moves).Orderly := by
  induction moves generalizing service with
  | nil => exact horderly
  | cons move moves ih => exact ih (orderly_move horderly move)

end Service

end HeadlessDisplay
