import Mathlib.Data.List.Basic
import HeadlessDisplay.Proofs.Listener.History

/-!
# The courses that connections take

What happens to one connection depends on the slot at the time when it is accepted. If the slot is
held, the connection is closed and that is all. If it is free, a session works until it ends, the
connection is closed, the slot is freed and the summary is reported, in this order. `Course` says
how far a connection has come along its course by the stage of its task.

`Recorded` ties a service to its history: each connection is on its course, the numbers were given
out in order, the task that holds the slot is that of the last session that started, the calls on
the sink are those of the sessions one after another, and the reports are those of the history.
Each move of an orderly service keeps it (`recorded_move`), and so does every run
(`recorded_run`).
-/

set_option autoImplicit false
set_option relaxedAutoImplicit false

namespace HeadlessDisplay

namespace Occurrence

/-- Whether a connection is accepted. -/
def isAcceptance : Occurrence → Bool
  | .accepted .. => true
  | _ => false

/-- What happens to one connection. -/
def own (index : Nat) (history : List (Nat × Occurrence)) : List Occurrence :=
  history.filterMap fun happened ↦ if happened.1 = index then some happened.2 else none

/-- The connections accepted, with their numbers. -/
def acceptances (history : List (Nat × Occurrence)) : List (Nat × ConnectionId) :=
  history.filterMap fun happened ↦
    match happened.2 with
    | .accepted id _ => some (happened.1, id)
    | _ => none

/-- The connections that were accepted while the slot was free, in the order in which their sessions
started. -/
def admitted (history : List (Nat × Occurrence)) : List Nat :=
  history.filterMap fun happened ↦
    match happened.2 with
    | .accepted _ false => some happened.1
    | _ => none

/-- The calls on the sink. -/
def callsIn (occurrences : List Occurrence) : List (SeatCall × Reception) :=
  occurrences.filterMap call?

/-- The summaries reported. -/
def reportsIn (occurrences : List Occurrence) : List SessionSummary :=
  occurrences.filterMap report?

variable (index other : Nat) (history more : List (Nat × Occurrence))
  (occurrences others : List Occurrence)

variable {index history} in
/-- What happens to a connection is in its own history. -/
theorem mem_own {occurrence : Occurrence} :
    occurrence ∈ own index history ↔ (index, occurrence) ∈ history := by
  simp only [own, List.mem_filterMap, Option.ite_none_right_eq_some, Option.some.injEq]
  constructor
  · rintro ⟨⟨other, same⟩, hmem, rfl, rfl⟩
    exact hmem
  · exact fun hmem ↦ ⟨(index, occurrence), hmem, rfl, rfl⟩

@[simp] theorem own_append : own index (history ++ more) = own index history ++ own index more :=
  List.filterMap_append

@[simp] theorem acceptances_append :
    acceptances (history ++ more) = acceptances history ++ acceptances more :=
  List.filterMap_append

@[simp] theorem admitted_append :
    admitted (history ++ more) = admitted history ++ admitted more :=
  List.filterMap_append

@[simp] theorem callsIn_append :
    callsIn (occurrences ++ others) = callsIn occurrences ++ callsIn others :=
  List.filterMap_append

@[simp] theorem reportsIn_append :
    reportsIn (occurrences ++ others) = reportsIn occurrences ++ reportsIn others :=
  List.filterMap_append

/-- What happens to one connection only is its own, and no other's. -/
theorem own_map :
    own index (occurrences.map (other, ·)) = if other = index then occurrences else [] := by
  rw [own, List.filterMap_map]
  split
  · next hsame =>
    subst hsame
    have hsome : ((fun happened : Nat × Occurrence ↦
        if happened.1 = other then some happened.2 else none) ∘ (other, ·)) = some := by
      funext occurrence
      simp
    rw [hsome, List.filterMap_some]
  · next hother =>
    refine List.filterMap_eq_nil_iff.mpr fun occurrence _ ↦ ?_
    simp [hother]

/-- What happens to a connection is added to its own history. -/
theorem own_append_map_self :
    own index (history ++ occurrences.map (index, ·)) = own index history ++ occurrences := by
  rw [own_append, own_map, if_pos rfl]

variable {index other} in
/-- What happens to a connection is not added to that of another one. -/
theorem own_append_map_of_ne (hother : other ≠ index) :
    own other (history ++ occurrences.map (index, ·)) = own other history := by
  rw [own_append, own_map, if_neg fun hsame ↦ hother hsame.symm, List.append_nil]

theorem map_snd_append_map :
    (history ++ occurrences.map (index, ·)).map Prod.snd = history.map Prod.snd ++ occurrences := by
  simp [Function.comp_def]

/-- Nothing is accepted where nothing is an acceptance. -/
theorem acceptances_map_eq_nil
    (hnone : ∀ occurrence ∈ occurrences, occurrence.isAcceptance = false) :
    acceptances (occurrences.map (index, ·)) = [] ∧ admitted (occurrences.map (index, ·)) = [] := by
  constructor
  · rw [acceptances, List.filterMap_map]
    refine List.filterMap_eq_nil_iff.mpr fun occurrence hmem ↦ ?_
    have hnot := hnone occurrence hmem
    cases occurrence <;> simp_all [isAcceptance]
  · rw [admitted, List.filterMap_map]
    refine List.filterMap_eq_nil_iff.mpr fun occurrence hmem ↦ ?_
    have hnot := hnone occurrence hmem
    cases occurrence <;> simp_all [isAcceptance]

@[simp] theorem callsIn_farewell (stage : TaskStage) : callsIn stage.farewell = [] := by
  cases stage <;> rfl

@[simp] theorem reportsIn_farewell (stage : TaskStage) : reportsIn stage.farewell = [] := by
  cases stage <;> rfl

variable {occurrences} in
/-- No summary is reported while a session works. -/
theorem reportsIn_work (hwork : ∀ occurrence ∈ occurrences, occurrence.isWork = true) :
    reportsIn occurrences = [] := by
  refine List.filterMap_eq_nil_iff.mpr fun occurrence hmem ↦ ?_
  have hworks := hwork occurrence hmem
  cases occurrence <;> simp_all [isWork, report?]

/-- A connection that was admitted was accepted. -/
theorem admitted_sublist :
    (admitted history).Sublist ((acceptances history).map Prod.fst) := by
  induction history with
  | nil => exact .slnil
  | cons happened history ih =>
    obtain ⟨index, occurrence⟩ := happened
    cases occurrence with
    | accepted id held =>
      cases held with
      | false => exact ih.cons_cons index
      | true => exact ih.cons index
    | _ => exact ih

end Occurrence

/-- How far a connection has come: the stage of its task, if it has one, and what has happened to
it so far. -/
inductive Course (reporting : Bool) (index : Nat) : Option TaskStage → List Occurrence → Prop
  /-- It waits to be accepted, or has not been made. -/
  | waiting : Course reporting index none []
  /-- It was accepted while the slot was held, and closed. -/
  | turnedAway : Course reporting index none [.accepted (.afterOthers index) true, .closed]
  /-- It was accepted while the slot was free and has a task. -/
  | served {stage : TaskStage} {work : List Occurrence}
      (hwork : ∀ occurrence ∈ work, occurrence.isWork = true) :
      Course reporting index (some stage)
        (.accepted (.afterOthers index) false :: (work ++ stage.farewell))
  /-- Its task has gone. -/
  | gone {summary : SessionSummary} {work : List Occurrence}
      (hid : summary.id = .afterOthers index)
      (hwork : ∀ occurrence ∈ work, occurrence.isWork = true) :
      Course reporting index none
        (.accepted (.afterOthers index) false ::
          (work ++ (TaskStage.vacated summary).farewell ++
            if reporting then [.reported summary] else []))

/-- Something has happened to a connection that has a task. -/
theorem Course.ne_nil {reporting : Bool} {index : Nat} {stage : TaskStage}
    {occurrences : List Occurrence} (hcourse : Course reporting index (some stage) occurrences) :
    occurrences ≠ [] := by
  cases hcourse with
  | served hwork => simp

/-- What has happened to a connection that has a task. -/
theorem Course.eq_of_stage {reporting : Bool} {index : Nat} {stage : TaskStage}
    {occurrences : List Occurrence} (hcourse : Course reporting index (some stage) occurrences) :
    ∃ work : List Occurrence, (∀ occurrence ∈ work, occurrence.isWork = true) ∧
      occurrences = .accepted (.afterOthers index) false :: (work ++ stage.farewell) := by
  cases hcourse with
  | served hwork => exact ⟨_, hwork, rfl⟩

/-- A connection comes further along its course with the work of its session and with what follows
the end of that. -/
theorem Course.further {reporting : Bool} {index : Nat} {old new : TaskStage}
    {occurrences work : List Occurrence} (hcourse : Course reporting index (some old) occurrences)
    (hwork : ∀ occurrence ∈ work, occurrence.isWork = true) (hold : old.farewell = []) :
    Course reporting index (some new) (occurrences ++ (work ++ new.farewell)) := by
  obtain ⟨earlier, hearlier, rfl⟩ := hcourse.eq_of_stage
  have hserved := @Course.served reporting index new (earlier ++ work) fun occurrence hmem ↦
    (List.mem_append.mp hmem).elim (hearlier occurrence) (hwork occurrence)
  simpa [hold] using hserved

/-- A connection comes further along its course with each step of the farewell. -/
theorem Course.farewell {reporting : Bool} {index : Nat} {old new : TaskStage}
    {occurrences step : List Occurrence} (hcourse : Course reporting index (some old) occurrences)
    (hstep : new.farewell = old.farewell ++ step) :
    Course reporting index (some new) (occurrences ++ step) := by
  obtain ⟨work, hwork, rfl⟩ := hcourse.eq_of_stage
  have hserved := @Course.served reporting index new work hwork
  rw [hstep] at hserved
  simpa using hserved

namespace Service

open Occurrence

/-- The service is what its history says. -/
structure Recorded (service : Service RecordingSink) (history : List (Nat × Occurrence)) :
    Prop where
  course : ∀ index, Course service.reporting index (service.stage? index) (own index history)
  /-- Something has happened to the connections that have been accepted. -/
  own_eq_nil : ∀ index, own index history = [] ↔ service.accepted ≤ index
  acceptances_eq : acceptances history =
    (List.range service.accepted).map fun index ↦ (index, .afterOthers index)
  /-- The slot is held for the session that started last. -/
  holds_last : ∀ index stage, service.stage? index = some stage → stage.holdsSlot = true →
    (admitted history).getLast? = some index
  attempts_eq : service.sink.attempts = callsIn (history.map Prod.snd)
  /-- Sessions make their calls one after another. -/
  calls_eq : callsIn (history.map Prod.snd) =
    (admitted history).flatMap fun index ↦ callsIn (own index history)
  reports_eq : service.reports = reportsIn (history.map Prod.snd)

/-- Before anything has happened. -/
theorem recorded_start (limit : Nat) (reporting : Bool) (reception : Nat → Reception) :
    (start limit reporting ⟨reception, []⟩).Recorded [] where
  course index := by
    have hstage :
        (start limit reporting (⟨reception, []⟩ : RecordingSink)).stage? index = none := rfl
    rw [hstage]
    exact .waiting
  own_eq_nil index := by simp [own, accepted, start]
  acceptances_eq := rfl
  holds_last index stage hstage := by simp [stage?, start] at hstage
  attempts_eq := rfl
  calls_eq := rfl
  reports_eq := rfl

namespace Recorded

variable {before after : Service RecordingSink} {history : List (Nat × Occurrence)}

/-- No connection is admitted twice. -/
theorem nodup_admitted (hrecorded : before.Recorded history) : (admitted history).Nodup := by
  refine (admitted_sublist history).nodup ?_
  rw [hrecorded.acceptances_eq, List.map_map]
  simpa [Function.comp_def] using List.nodup_range

/-- Calls that are made for the session that started last are added to its own. -/
theorem flatMap_callsIn (hrecorded : before.Recorded history) (index : Nat)
    (occurrences : List Occurrence)
    (hlast : callsIn occurrences ≠ [] → (admitted history).getLast? = some index) :
    ((admitted history).flatMap fun other ↦ callsIn (own other history)) ++ callsIn occurrences =
      (admitted history).flatMap fun other ↦
        callsIn (own other (history ++ occurrences.map (index, ·))) := by
  by_cases hnone : callsIn occurrences = []
  · rw [hnone, List.append_nil]
    refine List.flatMap_congr fun other _ ↦ ?_
    by_cases hother : other = index
    · rw [hother, own_append_map_self, callsIn_append, hnone, List.append_nil]
    · rw [own_append_map_of_ne _ _ hother]
  -- The calls go to the end of the sequence, which is right only for the last session: here the
  -- slot excludes every other one.
  · obtain ⟨front, hadmitted⟩ := List.getLast?_eq_some_iff.mp (hlast hnone)
    have honce := hrecorded.nodup_admitted
    rw [hadmitted] at honce ⊢
    have hfront : ∀ other ∈ front, other ≠ index := by
      intro other hmem hsame
      exact (List.nodup_append.mp honce).2.2 other hmem index (List.mem_singleton_self _) hsame
    simp only [List.flatMap_append, List.flatMap_cons, List.flatMap_nil, List.append_nil,
      own_append_map_self, callsIn_append, List.append_assoc]
    congr 1
    exact List.flatMap_congr fun other hmem ↦ by rw [own_append_map_of_ne _ _ (hfront other hmem)]

/-- What happens at a move of a task keeps the record if it takes the connection further along its
course and any calls come from the task that holds the slot. -/
theorem advance (hrecorded : before.Recorded history) {index : Nat} {old : TaskStage}
    (occurrences : List Occurrence) (hold : before.stage? index = some old)
    (haccepted : after.accepted = before.accepted)
    (hreporting : after.reporting = before.reporting)
    (hstage : ∀ other, other ≠ index → after.stage? other = before.stage? other)
    (hslot : ∀ stage, after.stage? index = some stage → stage.holdsSlot = true →
      old.holdsSlot = true)
    (hnone : ∀ occurrence ∈ occurrences, occurrence.isAcceptance = false)
    (hcourse : Course before.reporting index (after.stage? index)
      (own index history ++ occurrences))
    (hcalls : after.sink.attempts = before.sink.attempts ++ callsIn occurrences)
    (hholds : callsIn occurrences ≠ [] → old.holdsSlot = true)
    (hreports : after.reports = before.reports ++ reportsIn occurrences) :
    after.Recorded (history ++ occurrences.map (index, ·)) := by
  obtain ⟨hacceptances, hadmitted⟩ := acceptances_map_eq_nil index occurrences hnone
  have hstarted : own index history ≠ [] := by
    have hfar := hrecorded.course index
    rw [hold] at hfar
    exact hfar.ne_nil
  refine ⟨fun other ↦ ?_, fun other ↦ ?_, ?_, fun other stage hother hslots ↦ ?_, ?_, ?_, ?_⟩
  · rw [hreporting]
    by_cases hother : other = index
    · rw [hother, own_append_map_self]
      exact hcourse
    · rw [hstage other hother, own_append_map_of_ne _ _ hother]
      exact hrecorded.course other
  · rw [haccepted]
    by_cases hother : other = index
    · rw [hother, own_append_map_self, ← hrecorded.own_eq_nil index]
      simp [hstarted]
    · rw [own_append_map_of_ne _ _ hother]
      exact hrecorded.own_eq_nil other
  · rw [acceptances_append, hacceptances, List.append_nil, haccepted]
    exact hrecorded.acceptances_eq
  · rw [admitted_append, hadmitted, List.append_nil]
    by_cases hsame : other = index
    · subst hsame
      exact hrecorded.holds_last other old hold (hslot stage hother hslots)
    · rw [hstage other hsame] at hother
      exact hrecorded.holds_last other stage hother hslots
  · rw [map_snd_append_map, callsIn_append, hcalls, hrecorded.attempts_eq]
  · rw [map_snd_append_map, callsIn_append, admitted_append, hadmitted, List.append_nil,
      hrecorded.calls_eq]
    exact hrecorded.flatMap_callsIn index occurrences fun hsome ↦
      hrecorded.holds_last index old hold (hholds hsome)
  · rw [map_snd_append_map, reportsIn_append, hreports, hrecorded.reports_eq]

/-- The acceptance of the next connection keeps the record if the connection starts on its course,
makes no calls yet, and gets the slot only when no task holds it. -/
theorem accept (hrecorded : before.Recorded history) (held : Bool) (occurrences : List Occurrence)
    (haccepted : after.accepted = before.accepted + 1)
    (hreporting : after.reporting = before.reporting)
    (hstage : ∀ other, other ≠ before.accepted → after.stage? other = before.stage? other)
    (hslot : ∀ stage, after.stage? before.accepted = some stage → held = false)
    (hfree : held = false → ∀ other stage, before.stage? other = some stage →
      stage.holdsSlot = false)
    (hcourse : Course before.reporting before.accepted (after.stage? before.accepted) occurrences)
    (hacceptances : acceptances (occurrences.map (before.accepted, ·)) =
      [(before.accepted, .afterOthers before.accepted)])
    (hadmitted : admitted (occurrences.map (before.accepted, ·)) =
      if held then [] else [before.accepted])
    (hcalls : callsIn occurrences = []) (hsummaries : reportsIn occurrences = [])
    (hsink : after.sink = before.sink) (hreports : after.reports = before.reports) :
    after.Recorded (history ++ occurrences.map (before.accepted, ·)) := by
  have hself : own before.accepted (history ++ occurrences.map (before.accepted, ·)) =
      occurrences := by
    rw [own_append_map_self, (hrecorded.own_eq_nil before.accepted).mpr (Nat.le_refl _),
      List.nil_append]
  have hsome : occurrences ≠ [] := by
    rintro rfl
    simp [acceptances] at hacceptances
  refine ⟨fun other ↦ ?_, fun other ↦ ?_, ?_, fun other stage hother hslots ↦ ?_, ?_, ?_, ?_⟩
  · rw [hreporting]
    by_cases hother : other = before.accepted
    · rw [hother, hself]
      exact hcourse
    · rw [hstage other hother, own_append_map_of_ne _ _ hother]
      exact hrecorded.course other
  · rw [haccepted]
    by_cases hother : other = before.accepted
    · rw [hother, hself]
      simp [hsome]
    · rw [own_append_map_of_ne _ _ hother, hrecorded.own_eq_nil other]
      omega
  · rw [acceptances_append, haccepted, hrecorded.acceptances_eq, List.range_succ, List.map_append,
      hacceptances]
    rfl
  · rw [admitted_append, hadmitted]
    by_cases hsame : other = before.accepted
    · subst hsame
      rw [hslot stage hother]
      exact List.getLast?_concat
    · rw [hstage other hsame] at hother
      cases held with
      | false => simp [hfree rfl other stage hother] at hslots
      | true =>
        rw [if_pos rfl, List.append_nil]
        exact hrecorded.holds_last other stage hother hslots
  · rw [map_snd_append_map, callsIn_append, hsink, hcalls, List.append_nil]
    exact hrecorded.attempts_eq
  · have hearlier := hrecorded.flatMap_callsIn before.accepted occurrences
      fun hnone ↦ absurd hcalls hnone
    rw [hcalls, List.append_nil] at hearlier
    have hlater : (admitted (occurrences.map (before.accepted, ·))).flatMap (fun other ↦
        callsIn (own other (history ++ occurrences.map (before.accepted, ·)))) = [] := by
      rw [hadmitted]
      cases held with
      | false =>
        simp only [Bool.false_eq_true, if_false, List.flatMap_cons, List.flatMap_nil,
          List.append_nil, hself, hcalls]
      | true => rfl
    rw [map_snd_append_map, callsIn_append, hcalls, List.append_nil, admitted_append,
      List.flatMap_append, hlater, List.append_nil, ← hearlier]
    exact hrecorded.calls_eq
  · rw [map_snd_append_map, reportsIn_append, hsummaries, List.append_nil, hreports]
    exact hrecorded.reports_eq

/-- The course of a connection that has a task. -/
theorem course_of (hrecorded : before.Recorded history) {index : Nat} {stage : TaskStage}
    (hstage : before.stage? index = some stage) :
    Course before.reporting index (some stage) (own index history) :=
  hstage ▸ hrecorded.course index

/-- A move that shows nothing keeps the record. -/
theorem nothing (hrecorded : before.Recorded history) (haccepted : after.accepted = before.accepted)
    (hstage : ∀ index, after.stage? index = before.stage? index)
    (hreporting : after.reporting = before.reporting) (hsink : after.sink = before.sink)
    (hreports : after.reports = before.reports) : after.Recorded history where
  course index := by
    rw [hreporting, hstage]
    exact hrecorded.course index
  own_eq_nil index := haccepted ▸ hrecorded.own_eq_nil index
  acceptances_eq := haccepted ▸ hrecorded.acceptances_eq
  holds_last index stage hindex :=
    hrecorded.holds_last index stage ((hstage index).symm.trans hindex)
  attempts_eq := hsink ▸ hrecorded.attempts_eq
  calls_eq := hrecorded.calls_eq
  reports_eq := hreports ▸ hrecorded.reports_eq

/-- The admission of a connection keeps the record. -/
theorem takeIn (hrecorded : before.Recorded history) (horderly : before.Orderly)
    {backlog : List Nat} (hbacklog : before.backlog = before.accepted :: backlog)
    (hfree : before.isBusy = false) :
    (before.takeIn before.accepted backlog).Recorded (history ++
      [(before.accepted, .accepted (.afterOthers before.accepted) false)]) := by
  have hstage := stage?_takeIn (horderly.task_ne (Nat.le_refl before.accepted)) backlog
  refine hrecorded.accept false [.accepted (.afterOthers before.accepted) false]
    (horderly.head_eq hbacklog).2.2.1 rfl
    (fun other hother ↦ by rw [hstage, if_neg hother]) (fun _ _ ↦ rfl)
    (fun _ other stage hother ↦ ?_) ?_ rfl rfl rfl rfl rfl rfl
  · cases hholds : stage.holdsSlot with
    | true => exact absurd (horderly.isBusy_of_holdsSlot hother hholds) (by simp [hfree])
    | false => rfl
  · rw [hstage, if_pos rfl]
    exact @Course.served _ _ _ [] (by simp)

/-- Turning a connection away keeps the record. -/
theorem turnAway (hrecorded : before.Recorded history) (horderly : before.Orderly)
    {backlog : List Nat} (hbacklog : before.backlog = before.accepted :: backlog) :
    (before.turnAway before.accepted backlog).Recorded (history ++
      [(before.accepted, .accepted (.afterOthers before.accepted) true),
        (before.accepted, .closed)]) := by
  have hnone : (before.turnAway before.accepted backlog).stage? before.accepted = none :=
    stage?_eq_none (horderly.task_ne (Nat.le_refl before.accepted))
  refine hrecorded.accept true [.accepted (.afterOthers before.accepted) true, .closed]
    ?_ rfl (fun _ _ ↦ rfl) (by simp [hnone]) (by simp) ?_ rfl rfl rfl rfl rfl rfl
  · simpa [accepted, Service.turnAway, dismiss, modify] using (horderly.head_eq hbacklog).2.2.1
  · rw [hnone]
    exact .turnedAway

/-- A turn of a session keeps the record. -/
theorem turn (hrecorded : before.Recorded history) {index : Nat} {session : Session}
    {connection : Connection} {stage : TaskStage} {made : RecordingSink} {work : List Occurrence}
    (hstage : before.stage? index = some (.serving session))
    (hnew : (∃ session, stage = .serving session) ∨ ∃ summary, stage = .ended summary)
    (hwork : ∀ occurrence ∈ work, occurrence.isWork)
    (hcalls : made.attempts = before.sink.attempts ++ callsIn work) :
    ((before.afterTurn index connection made).setStage index stage).Recorded
      (history ++ (work ++ stage.farewell).map (index, ·)) := by
  have hstages := stage?_turn hstage connection made stage
  refine hrecorded.advance (work ++ stage.farewell) hstage
    (by simp [accepted, afterTurn, setStage]) rfl
    (fun other hother ↦ by rw [hstages, if_neg hother]) (fun _ _ _ ↦ rfl) ?_ ?_ ?_
    (fun _ ↦ rfl) ?_
  · intro occurrence hmem
    rcases List.mem_append.mp hmem with hworks | hends
    · have hworking := hwork occurrence hworks
      cases occurrence <;> simp_all [isWork, isAcceptance]
    · obtain ⟨_, rfl⟩ | ⟨_, rfl⟩ := hnew
      · simp [TaskStage.farewell] at hends
      · rw [List.mem_singleton.mp hends]
        rfl
  · rw [hstages, if_pos rfl]
    exact (hrecorded.course_of hstage).further hwork rfl
  · rw [callsIn_append, callsIn_farewell, List.append_nil]
    exact hcalls
  · rw [reportsIn_append, reportsIn_farewell, reportsIn_work hwork, List.append_nil,
      List.append_nil]
    rfl

/-- The closing of a connection keeps the record. -/
theorem closeSession (hrecorded : before.Recorded history) {index : Nat}
    {summary : SessionSummary} (hstage : before.stage? index = some (.ended summary)) :
    (before.closeSession index summary).Recorded (history ++ [(index, .closed)]) := by
  have hstages := stage?_closeSession hstage
  refine hrecorded.advance [.closed] hstage
    (by simp [accepted, Service.closeSession, dismiss, setStage, modify]) rfl
    (fun other hother ↦ by rw [hstages, if_neg hother]) (fun _ _ _ ↦ rfl)
    (by simp [isAcceptance]) ?_ (List.append_nil _).symm (fun _ ↦ rfl) (List.append_nil _).symm
  rw [hstages, if_pos rfl]
  exact (hrecorded.course_of hstage).farewell rfl

/-- The freeing of the slot keeps the record. -/
theorem vacate (hrecorded : before.Recorded history) {index : Nat} {summary : SessionSummary}
    (hstage : before.stage? index = some (.hungUp summary)) :
    (before.vacate index summary).Recorded (history ++ [(index, .released)]) := by
  have hstages := stage?_vacate hstage
  refine hrecorded.advance [.released] hstage rfl rfl
    (fun other hother ↦ by rw [hstages, if_neg hother]) (fun _ _ _ ↦ rfl)
    (by simp [isAcceptance]) ?_ (List.append_nil _).symm (fun _ ↦ rfl) (List.append_nil _).symm
  rw [hstages, if_pos rfl]
  exact (hrecorded.course_of hstage).farewell rfl

/-- A report keeps the record. -/
theorem finish (hrecorded : before.Recorded history) (horderly : before.Orderly) {index : Nat}
    {summary : SessionSummary} (hstage : before.stage? index = some (.vacated summary)) :
    (before.finish index summary).Recorded (history ++
      (if before.reporting then [.reported summary] else []).map (index, ·)) := by
  have hstages := stage?_finish before index summary
  obtain ⟨work, hwork, hown⟩ := (hrecorded.course_of hstage).eq_of_stage
  have hnone : callsIn (if before.reporting then [.reported summary] else []) = [] := by
    split <;> rfl
  refine hrecorded.advance (if before.reporting then [.reported summary] else []) hstage rfl rfl
    (fun other hother ↦ by rw [hstages, if_neg hother])
    (fun stage hnew ↦ by simp [hstages] at hnew) ?_ ?_ (by rw [hnone, List.append_nil]; rfl)
    (fun hsome ↦ absurd hnone hsome) ?_
  · intro occurrence hmem
    split at hmem
    · rw [List.mem_singleton.mp hmem]
      rfl
    · simp at hmem
  · rw [hstages, if_pos rfl, hown]
    exact Course.gone (horderly.id_eq index _ hstage) hwork
  · simp only [Service.finish]
    split
    · rfl
    · exact (List.append_nil _).symm

end Recorded

/-- Each move of an orderly service keeps the record. -/
theorem recorded_move {service : Service RecordingSink} (horderly : service.Orderly)
    {history : List (Nat × Occurrence)} (hrecorded : service.Recorded history) (move : Move) :
    (service.move move).Recorded (history ++ service.occurrences move (service.move move)) := by
  have hhappens := happens horderly move
  generalize service.occurrences move (service.move move) = occurrences at hhappens ⊢
  generalize service.move move = after at hhappens ⊢
  cases hhappens with
  | nothing haccepted hstage hreporting hsink hreports =>
    rw [List.append_nil]
    exact hrecorded.nothing haccepted hstage hreporting hsink hreports
  | admitted hbacklog hfree => exact hrecorded.takeIn horderly hbacklog hfree
  | turnedAway hbacklog hheld => exact hrecorded.turnAway horderly hbacklog
  | turned hstage hnew hwork hcalls => exact hrecorded.turn hstage hnew hwork hcalls
  | closed hstage => exact hrecorded.closeSession hstage
  | vacated hstage => exact hrecorded.vacate hstage
  | finished hstage => exact hrecorded.finish horderly hstage

/-- Every run of an orderly service keeps the record. -/
theorem recorded_run {service : Service RecordingSink} (horderly : service.Orderly)
    {history : List (Nat × Occurrence)} (hrecorded : service.Recorded history)
    (moves : List Move) :
    (service.run moves).Recorded (history ++ service.history moves) := by
  induction moves generalizing service history with
  | nil =>
    rw [Service.history, List.append_nil]
    exact hrecorded
  | cons move moves ih =>
    rw [Service.history, ← List.append_assoc]
    exact ih (orderly_move horderly move) (recorded_move horderly hrecorded move)

end Service

end HeadlessDisplay
