import HeadlessDisplay.Proofs.Listener.Absence
import HeadlessDisplay.Proofs.Listener.Courses

/-!
# One client at a time

`ServesOneAtATime` is what a listener promises of every run in which clients, the acceptance of
connections and tasks move in any order: one session at most holds the slot, connections are
numbered in the order of their acceptance, a connection that finds the slot taken is closed and
might as well not have come, the sink hears one session after another, and each session that ends
is reported once, after its slot is free. `serves_one_at_a_time` proves it from the order of a
service, the courses of its connections and the runs without a connection.

That a session which has ended is reported needs its task to move: three more moves are enough
(`stage?_eq_none_of_ended`).
-/

set_option autoImplicit false
set_option relaxedAutoImplicit false

namespace HeadlessDisplay

open Occurrence

/-! ### What follows the end of a session -/

/-- How many moves a task has left when its session is over; more than three if it goes on. -/
def TaskStage.movesLeft : TaskStage → Nat
  | .serving _ => 4
  | .ended _ => 3
  | .hungUp _ => 2
  | .vacated _ => 1

namespace Service

variable {κ : Type} [InputSink κ]

/-- The number of accepted connections does not go down. -/
theorem accepted_le_move {service : Service κ} (horderly : service.Orderly) (move : Move) :
    service.accepted ≤ (service.move move).accepted := by
  have houtcome := moveOutcome service move
  generalize service.move move = after at houtcome ⊢
  cases houtcome with
  | admitted hbacklog hfree =>
    exact (Nat.le_succ _).trans (horderly.head_eq hbacklog).2.2.1.ge
  | turnedAway hbacklog hheld =>
    refine (Nat.le_succ _).trans (Eq.ge ?_)
    simpa [accepted, turnAway, dismiss, modify] using (horderly.head_eq hbacklog).2.2.1
  | connected => simp [accepted, connect]
  | client => simp [accepted, modify]
  | idle => exact Nat.le_refl _
  | turned => simp [accepted, afterTurn, setStage]
  | closed => simp [accepted, closeSession, dismiss, modify, setStage]
  | vacated => exact Nat.le_refl _
  | finished => exact Nat.le_refl _

/-- The task of an accepted connection comes to another stage by its own moves only. -/
theorem stage?_move_of_ne {service : Service κ} (horderly : service.Orderly) {index : Nat}
    (hindex : index < service.accepted) {move : Move} (hmove : move ≠ .advance index) :
    (service.move move).stage? index = service.stage? index := by
  have hne {other : Nat} (hother : Move.advance other ≠ .advance index) : index ≠ other :=
    fun hsame ↦ hother (hsame ▸ rfl)
  have houtcome := moveOutcome service move
  generalize service.move move = after at houtcome ⊢
  cases houtcome with
  | admitted hbacklog hfree =>
    obtain ⟨rfl, -⟩ := horderly.head_eq hbacklog
    rw [stage?_takeIn (horderly.task_ne (Nat.le_refl _)), if_neg (Nat.ne_of_lt hindex)]
  | turnedAway => rfl
  | connected => rfl
  | client => rfl
  | idle => rfl
  | turned hstage hconnection hturn =>
    rw [stage?_turn hstage, if_neg (hne hmove)]
  | closed hstage => rw [stage?_closeSession hstage, if_neg (hne hmove)]
  | vacated hstage => rw [stage?_vacate hstage, if_neg (hne hmove)]
  | finished hstage => rw [stage?_finish, if_neg (hne hmove)]

/-- A task whose session is over comes nearer to its end with each of its own moves, and no other
move changes that. -/
theorem movesLeft_move {service : Service κ} (horderly : service.Orderly) {index left : Nat}
    (hindex : index < service.accepted) (hover : left ≤ 3)
    (hleft : ∀ stage, service.stage? index = some stage → stage.movesLeft ≤ left) (move : Move) :
    ∀ stage, (service.move move).stage? index = some stage →
      stage.movesLeft ≤ left - if move = .advance index then 1 else 0 := by
  intro stage hstage
  by_cases hmove : move = .advance index
  · subst hmove
    rw [if_pos rfl]
    cases hbefore : service.stage? index with
    | none =>
      rw [move_advance_of_none hbefore, hbefore] at hstage
      exact absurd hstage (by simp)
    | some before =>
      have hmost := hleft before hbefore
      cases before with
      | serving session =>
        simp only [TaskStage.movesLeft] at hmost
        omega
      | ended summary =>
        rw [move_advance_of_ended hbefore, stage?_closeSession hbefore, if_pos rfl] at hstage
        obtain rfl := Option.some.inj hstage
        simp only [TaskStage.movesLeft] at hmost ⊢
        omega
      | hungUp summary =>
        rw [move_advance_of_hungUp hbefore, stage?_vacate hbefore, if_pos rfl] at hstage
        obtain rfl := Option.some.inj hstage
        simp only [TaskStage.movesLeft] at hmost ⊢
        omega
      | vacated summary =>
        rw [move_advance_of_vacated hbefore, stage?_finish, if_pos rfl] at hstage
        exact absurd hstage (by simp)
  · rw [if_neg hmove, Nat.sub_zero]
    rw [stage?_move_of_ne horderly hindex hmove] at hstage
    exact hleft stage hstage

/-- Along a run, the task's own moves count. -/
theorem movesLeft_run {service : Service κ} (horderly : service.Orderly) {index left : Nat}
    (hindex : index < service.accepted) (hover : left ≤ 3)
    (hleft : ∀ stage, service.stage? index = some stage → stage.movesLeft ≤ left)
    (moves : List Move) :
    ∀ stage, (service.run moves).stage? index = some stage →
      stage.movesLeft ≤ left - moves.count (.advance index) := by
  -- The bound goes down along the run, and stays below four, which keeps the session from going on.
  induction moves generalizing service left with
  | nil => simpa [run] using hleft
  | cons move moves ih =>
    have hfirst := movesLeft_move horderly hindex hover hleft move
    have hrest := ih (orderly_move horderly move)
      (Nat.lt_of_lt_of_le hindex (accepted_le_move horderly move))
      ((Nat.sub_le _ _).trans hover) hfirst
    intro stage hstage
    have hmost := hrest stage hstage
    rw [List.count_cons]
    simp only [beq_iff_eq]
    omega

/-- A task whose session is over is gone after three moves. -/
theorem stage?_eq_none_of_ended {service : Service κ} (horderly : service.Orderly) {index : Nat}
    (hindex : index < service.accepted)
    (hover : ∀ stage, service.stage? index = some stage → stage.movesLeft ≤ 3)
    {moves : List Move} (hcount : 3 ≤ moves.count (.advance index)) :
    (service.run moves).stage? index = none := by
  have hleft := movesLeft_run horderly hindex (Nat.le_refl 3) hover moves
  cases hstage : (service.run moves).stage? index with
  | none => rfl
  | some stage =>
    have hnone := hleft stage hstage
    have hsome : 0 < stage.movesLeft := by
      cases stage <;> simp [TaskStage.movesLeft]
    omega

end Service

/-! ### What a course tells -/

namespace Course

variable {reporting : Bool} {index : Nat} {stage : Option TaskStage}
  {occurrences : List Occurrence}

/-- What happens to a connection that is served is its acceptance, the work of its session and what
follows the end of that. -/
theorem mem_served {stage : TaskStage} {work : List Occurrence}
    (hwork : ∀ occurrence ∈ work, occurrence.isWork = true) {id : ConnectionId} {held : Bool}
    {occurrence : Occurrence}
    (hmem : occurrence ∈ Occurrence.accepted id held :: (work ++ stage.farewell)) :
    occurrence = .accepted id held ∨ occurrence.isWork = true ∨ occurrence ∈ stage.farewell := by
  rcases List.mem_cons.mp hmem with hfirst | hrest
  · exact .inl hfirst
  · rcases List.mem_append.mp hrest with hworks | hends
    · exact .inr (.inl (hwork occurrence hworks))
    · exact .inr (.inr hends)

/-- When its task is gone there may be a report as well. -/
theorem mem_gone {summary : SessionSummary} {work : List Occurrence}
    (hwork : ∀ occurrence ∈ work, occurrence.isWork = true) {id : ConnectionId} {held : Bool}
    {occurrence : Occurrence}
    (hmem : occurrence ∈ Occurrence.accepted id held ::
      (work ++ (TaskStage.vacated summary).farewell ++
        if reporting then [.reported summary] else [])) :
    occurrence = .accepted id held ∨ occurrence.isWork = true ∨
      occurrence ∈ (TaskStage.vacated summary).farewell ∨
        reporting = true ∧ occurrence = .reported summary := by
  rw [← List.cons_append] at hmem
  rcases List.mem_append.mp hmem with hserved | hlast
  · rcases mem_served hwork hserved with hfirst | hworks | hends
    · exact .inl hfirst
    · exact .inr (.inl hworks)
    · exact .inr (.inr (.inl hends))
  · cases reporting with
    | true => exact .inr (.inr (.inr ⟨rfl, by simpa using hlast⟩))
    | false => simp at hlast

/-- A connection that was turned away was closed, and that is all. -/
theorem eq_of_turnedAway (hcourse : Course reporting index stage occurrences) {id : ConnectionId}
    (haway : .accepted id true ∈ occurrences) :
    stage = none ∧ occurrences = [.accepted id true, .closed] := by
  cases hcourse with
  | waiting => simp at haway
  | turnedAway =>
    have hid : id = .afterOthers index := by simpa using haway
    rw [hid]
    exact ⟨rfl, rfl⟩
  | @served stage work hwork =>
    rcases mem_served hwork haway with hfirst | hworks | hends
    · simp at hfirst
    · simp [isWork] at hworks
    · cases stage <;> simp [TaskStage.farewell] at hends
  | @gone summary work hid hwork =>
    rcases mem_gone hwork haway with hfirst | hworks | hends | ⟨-, hlast⟩
    · simp at hfirst
    · simp [isWork] at hworks
    · simp [TaskStage.farewell] at hends
    · simp at hlast

/-- A summary is reported when all else that follows the end of the session has happened. -/
theorem eq_of_reported (hcourse : Course reporting index stage occurrences)
    {summary : SessionSummary} (hreported : .reported summary ∈ occurrences) :
    summary.id = .afterOthers index ∧
      ∃ work : List Occurrence, (∀ occurrence ∈ work, occurrence.isWork = true) ∧
        occurrences = .accepted (.afterOthers index) false ::
          (work ++ [.ended summary, .closed, .released, .reported summary]) := by
  cases hcourse with
  | waiting => simp at hreported
  | turnedAway => simp at hreported
  | @served stage work hwork =>
    rcases mem_served hwork hreported with hfirst | hworks | hends
    · simp at hfirst
    · simp [isWork] at hworks
    · cases stage <;> simp [TaskStage.farewell] at hends
  | @gone other work hid hwork =>
    rcases mem_gone hwork hreported with hfirst | hworks | hends | ⟨hreporting, hlast⟩
    · simp at hfirst
    · simp [isWork] at hworks
    · simp [TaskStage.farewell] at hends
    · obtain rfl : summary = other := by simpa using hlast
      exact ⟨hid, work, hwork, by simp [hreporting, TaskStage.farewell]⟩

/-- A session that has ended is over for its task. -/
theorem movesLeft_of_ended {stage : TaskStage}
    (hcourse : Course reporting index (some stage) occurrences) {summary : SessionSummary}
    (hended : .ended summary ∈ occurrences) : stage.movesLeft ≤ 3 := by
  obtain ⟨work, hwork, rfl⟩ := hcourse.eq_of_stage
  cases stage with
  | serving session =>
    rcases mem_served hwork hended with hfirst | hworks | hends
    · simp at hfirst
    · simp [isWork] at hworks
    · simp [TaskStage.farewell] at hends
  | _ => simp [TaskStage.movesLeft]

/-- When the task of a session that has ended is gone, its summary has been reported once. -/
theorem reportsIn_of_ended (hcourse : Course reporting index none occurrences)
    {summary : SessionSummary} (hended : .ended summary ∈ occurrences) :
    reportsIn occurrences = if reporting then [summary] else [] := by
  generalize hnone : (none : Option TaskStage) = stage at hcourse
  cases hcourse with
  | waiting => simp at hended
  | turnedAway => simp at hended
  | served hwork => simp at hnone
  | @gone other work hid hwork =>
    have hsame : summary = other := by
      rcases mem_gone hwork hended with hfirst | hworks | hends | ⟨-, hlast⟩
      · simp at hfirst
      · simp [isWork] at hworks
      · simpa [TaskStage.farewell] using hends
      · simp at hlast
    subst hsame
    have hbefore : reportsIn (Occurrence.accepted (.afterOthers index) false ::
        (work ++ (TaskStage.vacated summary).farewell)) = [] := by
      have hnot := reportsIn_append work (TaskStage.vacated summary).farewell
      rw [reportsIn_work hwork, reportsIn_farewell] at hnot
      exact hnot
    rw [← List.cons_append, reportsIn_append, hbefore]
    cases reporting <;> rfl

/-- What happens to a connection bears its number. -/
theorem map_withId (hcourse : Course reporting index stage occurrences)
    (hid : ∀ current, stage = some current → current.id = .afterOthers index) :
    occurrences.map (Occurrence.withId (.afterOthers index)) = occurrences := by
  have hworks (work : List Occurrence) (hwork : ∀ occurrence ∈ work, occurrence.isWork = true) :
      work.map (Occurrence.withId (.afterOthers index)) = work := by
    refine (List.map_congr_left fun occurrence hmem ↦ ?_).trans (List.map_id _)
    have hworking := hwork occurrence hmem
    cases occurrence <;> simp_all [isWork, Occurrence.withId]
  cases hcourse with
  | waiting => rfl
  | turnedAway => rfl
  | @served stage work hwork =>
    have hsame : stage.withId (.afterOthers index) = stage := by
      rw [← hid stage rfl, TaskStage.withId_id]
    rw [List.map_cons, List.map_append, hworks work hwork, Occurrence.map_withId_farewell, hsame]
    rfl
  | @gone summary work hsummary hwork =>
    have hsame : (TaskStage.vacated summary).withId (.afterOthers index) = .vacated summary := by
      rw [← hsummary]
      rfl
    have hreport : (if reporting then [Occurrence.reported summary] else []).map
        (Occurrence.withId (.afterOthers index)) =
          if reporting then [.reported summary] else [] := by
      rw [← hsummary]
      cases reporting <;> rfl
    rw [List.map_cons, List.map_append, List.map_append, hworks work hwork,
      Occurrence.map_withId_farewell, hsame, hreport]
    rfl

end Course

/-! ### The promise of a listener -/

/-- What is seen of another connection is seen without the absent one as well. -/
theorem Occurrence.own_historyWithout {absent index : Nat} (hindex : index ≠ absent)
    (history : List (Nat × Occurrence)) :
    own (indexWithout absent index) (historyWithout absent history) =
      (own index history).map (Occurrence.withId (idWithout absent index)) := by
  induction history with
  | nil => rfl
  | cons happened history ih =>
    obtain ⟨other, occurrence⟩ := happened
    have hparts : historyWithout absent ((other, occurrence) :: history) =
        historyWithout absent ([occurrence].map (other, ·)) ++ historyWithout absent history :=
      historyWithout_append absent [(other, occurrence)] history
    have howns : own index ((other, occurrence) :: history) =
        own index ([occurrence].map (other, ·)) ++ own index history :=
      own_append index [(other, occurrence)] history
    rw [hparts, howns, own_append, ih, List.map_append]
    congr 1
    by_cases hother : other = absent
    · subst hother
      rw [historyWithout_map_self, own_map, if_neg fun h ↦ hindex h.symm]
      rfl
    · rw [historyWithout_map hother, own_map, own_map]
      by_cases hsame : other = index
      · rw [hsame, if_pos rfl, if_pos rfl]
      · rw [if_neg hsame, if_neg ((indexWithout_inj hother hindex).not.mpr hsame)]
        rfl

/-- The running session and those before it are as if a connection that came later had not come. -/
structure Service.AsIfAbsent (absent : Nat) (origin : Service RecordingSink) (moves : List Move) :
    Prop where
  /-- The rest of the service is the same, and the same happens to the other connections. -/
  throughout : AbsentThroughout absent origin origin moves (origin.movesWithout absent moves)
  isBusy_eq : (origin.run (origin.movesWithout absent moves)).isBusy = (origin.run moves).isBusy
  /-- An earlier session has the same state, counts and summary. -/
  stage_eq : ∀ index, index < absent →
    (origin.run (origin.movesWithout absent moves)).stage? index = (origin.run moves).stage? index
  connection_eq : ∀ index, index < absent →
    (origin.run (origin.movesWithout absent moves)).connection? index =
      (origin.run moves).connection? index
  own_eq : ∀ index, index < absent →
    own index (origin.history (origin.movesWithout absent moves)) =
      own index (origin.history moves)

/-- What a listener promises of a run: it serves one client at a time. -/
structure ServesOneAtATime (origin : Service RecordingSink) (moves : List Move) : Prop where
  /-- At most one task holds the slot. -/
  holders_le : (origin.run moves).holders ≤ 1
  /-- The listener is busy exactly when one does. -/
  isBusy_iff : (origin.run moves).isBusy = true ↔ (origin.run moves).holders = 1
  /-- Accepted connections take the numbers one, two, three and so on in the order of their
  acceptance, refused ones included, unless there are too many for a word. -/
  numbers_eq : (acceptances (origin.history moves)).length < UInt64.size →
    (acceptances (origin.history moves)).map (fun accepted ↦ accepted.2.number.toNat) =
      List.range' 1 (acceptances (origin.history moves)).length
  /-- A connection that is accepted while the slot is held is closed, and that is all that happens:
  nothing is read from it or written to it, and no call is made for it. -/
  turned_away : ∀ index id, (index, .accepted id true) ∈ origin.history moves →
    own index (origin.history moves) = [.accepted id true, .closed] ∧
      ∀ connection, (origin.run moves).connection? index = some connection →
        connection.serverOpen = false
  /-- All the rest is as if it had not come. -/
  as_if_absent : ∀ index id, (index, .accepted id true) ∈ origin.history moves →
    origin.AsIfAbsent index moves
  /-- The calls on the sink are those of one session after another. -/
  calls_eq : (origin.run moves).sink.attempts =
    (admitted (origin.history moves)).flatMap fun index ↦
      callsIn (own index (origin.history moves))
  /-- The reports are the summaries that have been reported. -/
  reports_eq : (origin.run moves).reports = reportsIn ((origin.history moves).map Prod.snd)
  /-- A summary is reported after the slot has been freed, and once. -/
  reported_last : ∀ index summary, (index, .reported summary) ∈ origin.history moves →
    summary.id = .afterOthers index ∧
      ∃ work : List Occurrence, (∀ occurrence ∈ work, occurrence.isWork = true) ∧
        own index (origin.history moves) = .accepted (.afterOthers index) false ::
          (work ++ [.ended summary, .closed, .released, .reported summary])
  /-- A session that has ended is reported once if reports are wanted, when its task has moved three
  times more. -/
  reported_once : ∀ index summary later, (index, .ended summary) ∈ origin.history moves →
    3 ≤ later.count (.advance index) →
      reportsIn (own index (origin.history (moves ++ later))) =
        if origin.reporting then [summary] else []

/-- No connection is absent from a service without connections. -/
theorem Absent.start (absent limit : Nat) (reporting : Bool) (sink : RecordingSink) :
    Absent absent (Service.start limit reporting sink) (Service.start limit reporting sink) where
  limit_eq := rfl
  reporting_eq := rfl
  connections_eq := rfl
  backlog_eq := rfl
  slotFree_eq := rfl
  tasks_eq := rfl
  task_ne := by simp [Service.start]
  sink_eq := rfl

namespace Service

variable {origin : Service RecordingSink} {moves : List Move}

/-- A connection that is not admitted might as well not have come. -/
theorem asIfAbsent {absent : Nat} (horderly : origin.Orderly) (hrecorded : origin.Recorded [])
    (habsent : Absent absent origin origin)
    (hnot : ∀ id, (absent, Occurrence.accepted id false) ∉ origin.history moves) :
    origin.AsIfAbsent absent moves := by
  have hthrough := AbsentThroughout.of_run horderly horderly habsent moves hnot
  have hafter := orderly_run horderly moves
  have hcourses := recorded_run horderly hrecorded moves
  refine ⟨hthrough, ?_, fun index hlt ↦ ?_, fun index hlt ↦ ?_, fun index hlt ↦ ?_⟩
  · rw [isBusy, hthrough.absent_run.slotFree_eq, isBusy]
  · have hstage := hthrough.absent_run.stage?_eq (Nat.ne_of_lt hlt)
    rw [indexWithout_of_lt hlt, idWithout, indexWithout_of_lt hlt] at hstage
    rw [hstage]
    cases hown : (origin.run moves).stage? index with
    | none => rfl
    | some stage =>
      rw [Option.map_some, ← hafter.id_eq index stage hown, TaskStage.withId_id]
  · have hconnection := hthrough.absent_run.connection?_eq (Nat.ne_of_lt hlt)
    rwa [indexWithout_of_lt hlt] at hconnection
  · have hown := own_historyWithout (Nat.ne_of_lt hlt) (origin.history moves)
    rw [indexWithout_of_lt hlt, idWithout, indexWithout_of_lt hlt] at hown
    rw [hthrough.history_eq, hown]
    exact (hcourses.course index).map_withId (hafter.id_eq index)

end Service

/-- A listener serves one client at a time. -/
theorem serves_one_at_a_time (limit : Nat) (reporting : Bool) (reception : Nat → Reception)
    (moves : List Move) :
    ServesOneAtATime (.start limit reporting ⟨reception, []⟩) moves := by
  have hstart := Service.orderly_start limit reporting (⟨reception, []⟩ : RecordingSink)
  have hnothing := Service.recorded_start limit reporting reception
  have hnoneAbsent (absent : Nat) := Absent.start absent limit reporting ⟨reception, []⟩
  generalize Service.start limit reporting (⟨reception, []⟩ : RecordingSink) = origin at *
  have horderly := Service.orderly_run hstart moves
  have hrecorded (moves : List Move) : (origin.run moves).Recorded (origin.history moves) :=
    Service.recorded_run hstart hnothing moves
  have haway (index : Nat) (id : ConnectionId)
      (hmem : (index, Occurrence.accepted id true) ∈ origin.history moves) :
      (origin.run moves).stage? index = none ∧
        own index (origin.history moves) = [.accepted id true, .closed] :=
    ((hrecorded moves).course index).eq_of_turnedAway (mem_own.mpr hmem)
  have haccepted (index : Nat) (occurrence : Occurrence)
      (hmem : (index, occurrence) ∈ origin.history moves) :
      index < (origin.run moves).accepted := by
    refine Nat.lt_of_not_le fun hlate ↦ ?_
    rw [← (hrecorded moves).own_eq_nil index] at hlate
    have hown := mem_own.mpr hmem
    rw [hlate] at hown
    exact absurd hown (by simp)
  refine ⟨?_, ?_, fun hfew ↦ ?_, fun index id hmem ↦ ⟨(haway index id hmem).2, ?_⟩,
    fun index id hmem ↦ ?_, ?_, (hrecorded moves).reports_eq, fun index summary hmem ↦ ?_,
    fun index summary later hmem hcount ↦ ?_⟩
  · rw [horderly.holders_eq]
    exact Bool.toNat_le _
  · rw [horderly.holders_eq]
    cases (origin.run moves).isBusy <;> simp
  · rw [(hrecorded moves).acceptances_eq] at hfew ⊢
    rw [List.length_map, List.length_range] at hfew
    rw [List.map_map, List.length_map, List.length_range, List.range'_eq_map_range]
    refine List.map_congr_left fun index hindex ↦ ?_
    have hlt := List.mem_range.mp hindex
    have hsmall : index + 1 < UInt64.size := by omega
    exact (UInt64.toNat_ofNat_of_lt hsmall).trans (Nat.add_comm index 1)
  · intro connection hconnection
    have hopen := horderly.open_iff index connection hconnection
    have hnot := Nat.not_le.mpr (haccepted index _ hmem)
    simpa [hnot, (haway index id hmem).1] using hopen
  -- A connection is accepted once, so one that was turned away is not admitted at another time.
  · refine Service.asIfAbsent hstart hnothing (hnoneAbsent index) fun other hother ↦ ?_
    have hown := mem_own.mpr hother
    rw [(haway index id hmem).2] at hown
    simp at hown
  · rw [(hrecorded moves).attempts_eq, (hrecorded moves).calls_eq]
  · exact ((hrecorded moves).course index).eq_of_reported (mem_own.mpr hmem)
  · have hover : ∀ stage, (origin.run moves).stage? index = some stage → stage.movesLeft ≤ 3 := by
      intro stage hstage
      have hcourse := (hrecorded moves).course index
      rw [hstage] at hcourse
      exact hcourse.movesLeft_of_ended (mem_own.mpr hmem)
    have hgone : (origin.run (moves ++ later)).stage? index = none := by
      rw [Service.run_append]
      exact Service.stage?_eq_none_of_ended horderly (haccepted index _ hmem) hover hcount
    have hcourse := (hrecorded (moves ++ later)).course index
    rw [hgone, Service.reporting_run] at hcourse
    refine hcourse.reportsIn_of_ended (mem_own.mpr ?_)
    rw [Service.history_append]
    exact List.mem_append_left _ hmem

/-- A client greets and presses a key, another one is turned away meanwhile, and the first session
is reported. -/
theorem first_of_two_clients_served :
    let key : Octets := [1, 0, 0, 0, 0, 0, 0, 0, 9, 0, 0, 0, 30, 1]
    let before : List Move := [.connect, .accept]
    let meanwhile : List Move := [.connect, .write 1 [0], .accept]
    let after : List Move :=
      [.write 0 ([0, 0, 0, 11] ++ clientHello ++ [0, 0, 0, 14] ++ key), .advance 0, .receive 0 15,
        .advance 0, .hangUp 0, .advance 0]
    let later : List Move := [.advance 0, .advance 0, .advance 0]
    let origin : Service RecordingSink := .start 64 true ⟨fun _ ↦ .recorded, []⟩
    let summary : SessionSummary := ⟨⟨1⟩, .peerClosed, ⟨2, 1, 0⟩⟩
    (1, .accepted ⟨2⟩ true) ∈ origin.history (before ++ meanwhile ++ after) ∧
      own 1 (origin.history (before ++ meanwhile ++ after)) = [.accepted ⟨2⟩ true, .closed] ∧
      origin.movesWithout 1 (before ++ meanwhile ++ after) = before ++ after ∧
      own 0 (origin.history (before ++ after)) =
        own 0 (origin.history (before ++ meanwhile ++ after)) ∧
      (origin.run (before ++ meanwhile ++ after)).sink.attempts =
        [(.key 9 30 .down, .recorded)] ∧
      (0, .ended summary) ∈ origin.history (before ++ meanwhile ++ after) ∧
      reportsIn (own 0 (origin.history (before ++ meanwhile ++ after ++ later))) = [summary] := by
  intro key before meanwhile after later origin summary
  have hserves : ServesOneAtATime origin (before ++ meanwhile ++ after) :=
    serves_one_at_a_time 64 true (fun _ ↦ .recorded) (before ++ meanwhile ++ after)
  have haway : (1, .accepted ⟨2⟩ true) ∈ origin.history (before ++ meanwhile ++ after) := by
    decide +kernel
  have hended : (0, .ended summary) ∈ origin.history (before ++ meanwhile ++ after) := by
    decide +kernel
  have hleft : origin.movesWithout 1 (before ++ meanwhile ++ after) = before ++ after := by
    decide +kernel
  have hsame := (hserves.as_if_absent 1 ⟨2⟩ haway).own_eq 0 (by decide)
  rw [hleft] at hsame
  refine ⟨haway, (hserves.turned_away 1 ⟨2⟩ haway).1, hleft, hsame, ?_, hended,
    hserves.reported_once 0 summary later hended (by decide)⟩
  decide +kernel

end HeadlessDisplay
