import HeadlessDisplay.Proofs.Session.Conversation

/-!
# What a session answers and counts

A session is handed payloads and may be closed at any moment, also before the greeting and more
than once. A `Dialogue` keeps every payload with the state it was handled in and the outcome it
came to, beside the session and a sink that receives its calls in any prescribed way.

`FrameHandled` says once what handling a payload can come to. From it `Accounted` is derived, which
ties the counters of the session, the outcomes and the record of the sink to each other
(`accounted_step`, `accounted_run`). A closed session answers every payload in the same way and is
left as it was (`closed_run`). `dialogue_accounts` puts this together.
-/

set_option autoImplicit false
set_option relaxedAutoImplicit false

namespace HeadlessDisplay

/-! ### Dialogues -/

/-- What is done to a session. -/
inductive SessionStep
  /-- It is handed a payload. -/
  | frame (payload : Octets)
  /-- It is closed. -/
  | close

/-- The payload that is handed over, if one is. -/
def SessionStep.payload? : SessionStep → Option Octets
  | .frame payload => some payload
  | .close => none

/-- A payload with the state it was handled in and what it came to. -/
structure Exchange where
  state : SessionState
  payload : Octets
  outcome : FrameOutcome

namespace Exchange

/-- The greeting of a client and its answer. -/
def greeting : Exchange :=
  ⟨.awaitingHandshake, clientHello, .reply serverHello⟩

/-- The session was not closed yet. -/
def isLive (exchange : Exchange) : Bool :=
  exchange.state ≠ .closed

/-- The event went to the seat. -/
def isDelivered (exchange : Exchange) : Bool :=
  exchange.outcome = .delivered

end Exchange

/-- One session state may follow another: a session is greeted once, may be closed from any state,
and does not leave the closed one. -/
inductive SessionState.Moves : SessionState → SessionState → Prop
  | stays (state : SessionState) : Moves state state
  | greeted : Moves .awaitingHandshake .streaming
  | rejected : Moves .awaitingHandshake .closed
  | ended : Moves .streaming .closed

/-- A session with its sink and what it was handed so far. -/
structure Dialogue where
  session : Session
  sink : RecordingSink
  /-- The payloads handed over, in order. -/
  exchanges : List Exchange

namespace Dialogue

/-- A new session with a sink that has not been called. -/
def start (id : ConnectionId) (reception : Nat → Reception) : Dialogue :=
  ⟨.start id, ⟨reception, []⟩, []⟩

/-- Hands a payload to the session or closes it. -/
def step (dialogue : Dialogue) : SessionStep → Dialogue
  | .frame payload =>
    let (outcome, session, sink) := dialogue.session.handleFrame dialogue.sink payload
    ⟨session, sink, dialogue.exchanges ++ [⟨dialogue.session.state, payload, outcome⟩]⟩
  | .close => { dialogue with session := dialogue.session.close }

/-- Does one thing after another to the session. -/
def run (dialogue : Dialogue) (steps : List SessionStep) : Dialogue :=
  steps.foldl step dialogue

end Dialogue

/-! ### One payload -/

namespace Session

/-- What handling a payload comes to. -/
inductive FrameHandled (session : Session) (sink : RecordingSink) (payload : Octets) :
    FrameOutcome × Session × RecordingSink → Prop
  /-- The first payload is the greeting, which is answered. -/
  | greeted (hstate : session.state = .awaitingHandshake) (hgreeting : payload = clientHello) :
      FrameHandled session sink payload
        (.reply serverHello, { session.countReceived with state := .streaming }, sink)
  /-- The first payload is something else. -/
  | rejected (hstate : session.state = .awaitingHandshake) (hother : payload ≠ clientHello) :
      FrameHandled session sink payload
        (.close .handshakeRejected, session.countReceived.close, sink)
  /-- The payload stands for a call, which the sink takes. -/
  | delivered {call : SeatCall} (hstate : session.state = .streaming)
      (hcall : payloadCall? payload = some call)
      (htaken : RecordingSink.accepted (call, sink.reception sink.attempts.length) = true) :
      FrameHandled session sink payload
        (.delivered, session.countReceived.countDelivered, sink.receive [call])
  /-- The payload stands for a call, which the sink refuses. -/
  | refused {call : SeatCall} (hstate : session.state = .streaming)
      (hcall : payloadCall? payload = some call)
      (hrefused : RecordingSink.accepted (call, sink.reception sink.attempts.length) = false) :
      FrameHandled session sink payload
        (.skipped, session.countReceived.countSkipped, sink.receive [call])
  /-- The payload stands for no call, and the sink is left alone. -/
  | passedOver (hstate : session.state = .streaming) (hnone : payloadCall? payload = none) :
      FrameHandled session sink payload (.skipped, session.countReceived.countSkipped, sink)
  /-- The session is closed already. -/
  | late (hstate : session.state = .closed) :
      FrameHandled session sink payload (.close .alreadyClosed, session, sink)

/-- A streaming session makes the call that a payload stands for, if there is one. -/
theorem frameHandled_handleEvent {session : Session} (hstate : session.state = .streaming)
    (sink : RecordingSink) (payload : Octets) :
    FrameHandled session sink payload (session.handleEvent sink payload) := by
  cases hcall : payloadCall? payload with
  | none =>
    have hevent : session.handleEvent sink payload =
        (.skipped, session.countReceived.countSkipped, sink) := by
      unfold payloadCall? at hcall
      unfold handleEvent
      cases hdecode : InputEvent.decode payload with
      | error error => rfl
      | ok event =>
        rw [hdecode] at hcall
        cases event with
        | unknown tag => rfl
        | _ => simp [InputEvent.seatCall, Except.toOption] at hcall
    rw [hevent]
    exact .passedOver hstate hcall
  | some call =>
    obtain ⟨event, hdecode, hseat, -⟩ := payloadCall?_eq_some hcall
    have hreceive (reception : Reception) (hreception : sink.reception sink.attempts.length =
        reception) : sink.receive [call] =
          { sink with attempts := sink.attempts ++ [(call, reception)] } := by
      simp [RecordingSink.receive, RecordingSink.answers, hreception]
    simp only [handleEvent, hdecode, inject, hseat, InputSink.deliver]
    cases hreception : sink.reception sink.attempts.length with
    | recorded =>
      rw [← hreceive _ hreception]
      exact .delivered hstate hcall (by rw [hreception]; rfl)
    | passed =>
      rw [← hreceive _ hreception]
      exact .delivered hstate hcall (by rw [hreception]; rfl)
    | refused error =>
      rw [← hreceive _ hreception]
      exact .refused hstate hcall (by rw [hreception]; rfl)

/-- Handling a payload comes to one of its outcomes. -/
theorem FrameHandled.of_eq {session : Session} {sink : RecordingSink} {payload : Octets}
    {handled : FrameOutcome × Session × RecordingSink}
    (hhandled : session.handleFrame sink payload = handled) :
    FrameHandled session sink payload handled := by
  rw [← hhandled]
  unfold handleFrame
  cases hstate : session.state with
  | awaitingHandshake =>
    dsimp only [handleGreeting]
    by_cases hgreeting : payload = clientHello
    · rw [if_pos hgreeting]
      exact .greeted hstate hgreeting
    · rw [if_neg hgreeting]
      exact .rejected hstate hgreeting
  | streaming => exact frameHandled_handleEvent hstate sink payload
  | closed => exact .late hstate

end Session

/-! ### The account of a dialogue -/

/-- The part of a sink's record that one more call makes up. -/
theorem RecordingSink.attempts_receive_singleton (sink : RecordingSink) (call : SeatCall) :
    (sink.receive [call]).attempts =
      sink.attempts ++ [(call, sink.reception sink.attempts.length)] := by
  simp [receive, answers]

/-- A session that streams has counted one more payload, with the calls that were made for it. -/
structure Session.Grown (before : Session) (made : List (SeatCall × Reception))
    (after : Session) : Prop where
  state_eq : after.state = .streaming
  received_eq : after.stats.received = before.stats.received + 1
  delivered_eq : after.stats.delivered =
    before.stats.delivered + made.countP RecordingSink.accepted
  /-- The payload was delivered or passed over. -/
  sum_eq : after.stats.delivered + after.stats.skipped =
    before.stats.delivered + before.stats.skipped + 1

namespace Dialogue

/-- Counters, outcomes and the record of the sink agree. -/
structure Accounted (dialogue : Dialogue) : Prop where
  /-- Every payload before the close is counted. -/
  received_eq : dialogue.session.stats.received = dialogue.exchanges.countP Exchange.isLive
  /-- Every call that the sink took is counted. -/
  delivered_eq : dialogue.session.stats.delivered =
    dialogue.sink.attempts.countP RecordingSink.accepted
  /-- All counted payloads but the first were delivered or passed over. -/
  balance : dialogue.session.stats.delivered + dialogue.session.stats.skipped =
    dialogue.session.stats.received - 1
  /-- The calls that the sink took are those of the payloads delivered. -/
  calls_eq : (dialogue.exchanges.filter Exchange.isDelivered).map (payloadCall? ·.payload) =
    (dialogue.sink.attempts.filter RecordingSink.accepted).map (some ·.1)
  /-- A session that awaits the greeting has not been handed anything. -/
  awaiting : dialogue.session.state = .awaitingHandshake → dialogue.exchanges = []
  /-- A session that streams was greeted. -/
  streaming : dialogue.session.state = .streaming →
    dialogue.exchanges.head? = some Exchange.greeting
  /-- Only the first payload is answered, and only if it is the greeting. -/
  replies : ∀ place exchange answer, dialogue.exchanges[place]? = some exchange →
    exchange.outcome = .reply answer → place = 0 ∧ exchange = Exchange.greeting

theorem accounted_start (id : ConnectionId) (reception : Nat → Reception) :
    (start id reception).Accounted where
  received_eq := rfl
  delivered_eq := rfl
  balance := rfl
  calls_eq := rfl
  awaiting _ := rfl
  streaming := by simp [start, Session.start]
  replies := by simp [start]

namespace Accounted

variable {dialogue : Dialogue} (haccounted : dialogue.Accounted)

include haccounted

/-- A session that streams has counted its greeting. -/
theorem received_pos (hstate : dialogue.session.state = .streaming) :
    0 < dialogue.session.stats.received := by
  rw [haccounted.received_eq, List.countP_pos_iff]
  exact ⟨Exchange.greeting, List.mem_of_mem_head? (haccounted.streaming hstate), rfl⟩

/-- A further payload that is not answered keeps the answers where they are. -/
theorem replies_append {exchange : Exchange}
    (hsilent : ∀ answer, exchange.outcome ≠ .reply answer) :
    ∀ place other answer, (dialogue.exchanges ++ [exchange])[place]? = some other →
      other.outcome = .reply answer → place = 0 ∧ other = Exchange.greeting := by
  intro place other answer hother hreply
  rw [List.getElem?_append] at hother
  split at hother
  · exact haccounted.replies place other answer hother hreply
  · obtain rfl := List.mem_singleton.mp (List.mem_of_getElem? hother)
    exact absurd hreply (hsilent answer)

/-- A further payload leaves the first one where it is. -/
theorem head?_append (hstate : dialogue.session.state = .streaming) (exchange : Exchange) :
    (dialogue.exchanges ++ [exchange]).head? = some Exchange.greeting := by
  rw [List.head?_append, haccounted.streaming hstate]
  rfl

/-- Closing the session keeps the account. -/
theorem close : (dialogue.step .close).Accounted :=
  { haccounted with
    awaiting := by simp [step, Session.close]
    streaming := by simp [step, Session.close] }

/-- A payload that finds the session closed, or has it closed, keeps the account. -/
theorem endsWith {session : Session} {payload : Octets} {reason : CloseReason}
    (hdelivered : session.stats.delivered = dialogue.session.stats.delivered)
    (hclosed : session.state = .closed)
    (hreceived : session.stats.received =
      List.countP Exchange.isLive
        (dialogue.exchanges ++ [⟨dialogue.session.state, payload, .close reason⟩]))
    (hbalance : session.stats.delivered + session.stats.skipped = session.stats.received - 1) :
    Accounted ⟨session, dialogue.sink,
      dialogue.exchanges ++ [⟨dialogue.session.state, payload, .close reason⟩]⟩ where
  received_eq := hreceived
  delivered_eq := hdelivered.trans haccounted.delivered_eq
  balance := hbalance
  calls_eq := by simpa [Exchange.isDelivered] using haccounted.calls_eq
  awaiting := by simp [hclosed]
  streaming := by simp [hclosed]
  replies := haccounted.replies_append (by simp)

/-- A payload handled by a session that streams keeps the account, if the counters and the record
of the sink have grown by what it came to. -/
theorem goesOn (hstate : dialogue.session.state = .streaming) {session : Session}
    {sink : RecordingSink} {made : List (SeatCall × Reception)} {payload : Octets}
    {outcome : FrameOutcome} (hgrown : dialogue.session.Grown made session)
    (hattempts : sink.attempts = dialogue.sink.attempts ++ made)
    (hsilent : ∀ answer, outcome ≠ .reply answer)
    (hcalls : ([⟨dialogue.session.state, payload, outcome⟩].filter Exchange.isDelivered).map
      (payloadCall? ·.payload) = (made.filter RecordingSink.accepted).map (some ·.1)) :
    Accounted ⟨session, sink,
      dialogue.exchanges ++ [⟨dialogue.session.state, payload, outcome⟩]⟩ where
  received_eq := by
    simp [hgrown.received_eq, haccounted.received_eq, hstate, Exchange.isLive]
  delivered_eq := by
    rw [hgrown.delivered_eq, hattempts, List.countP_append, haccounted.delivered_eq]
  balance := by
    have hpositive := haccounted.received_pos hstate
    have hbalance := haccounted.balance
    have hsum := hgrown.sum_eq
    have hreceived := hgrown.received_eq
    dsimp only
    omega
  calls_eq := by
    rw [hattempts, List.filter_append, List.filter_append, List.map_append, List.map_append, hcalls,
      haccounted.calls_eq]
  awaiting := by simp [hgrown.state_eq]
  streaming _ := haccounted.head?_append hstate _
  replies := haccounted.replies_append hsilent

end Accounted

/-- Everything that is done to a session keeps the account. -/
theorem accounted_step {dialogue : Dialogue} (haccounted : dialogue.Accounted)
    (step : SessionStep) : (dialogue.step step).Accounted := by
  cases step with
  | close => exact haccounted.close
  | frame payload =>
    have hreceived := haccounted.received_eq
    have hbalance := haccounted.balance
    simp only [Dialogue.step]
    generalize hhandled : dialogue.session.handleFrame dialogue.sink payload = handled
    cases Session.FrameHandled.of_eq hhandled with
    | greeted hstate hgreeting =>
      -- Nothing came before, so the counters are those of a new session.
      have hcalls := haccounted.calls_eq
      have hnothing := haccounted.awaiting hstate
      rw [hnothing] at hreceived hcalls
      subst hgreeting
      simp only [hnothing, hstate, List.nil_append]
      refine ⟨?_, haccounted.delivered_eq, ?_, hcalls, by simp, fun _ ↦ rfl, ?_⟩
      · simp [Session.countReceived, hreceived, Exchange.isLive]
      · simpa [Session.countReceived, hreceived] using hbalance
      · rintro place exchange answer hexchange -
        obtain rfl := List.mem_singleton.mp (List.mem_of_getElem? hexchange)
        have hplace := (List.getElem?_eq_some_iff.mp hexchange).1
        exact ⟨by simpa using hplace, rfl⟩
    | rejected hstate hother =>
      have hnothing := haccounted.awaiting hstate
      refine haccounted.endsWith rfl rfl ?_ ?_
      · simp [Session.close, Session.countReceived, hreceived, hstate, Exchange.isLive]
      · rw [hnothing] at hreceived
        simpa [Session.close, Session.countReceived, hreceived] using hbalance
    | @delivered call hstate hcall htaken =>
      refine haccounted.goesOn hstate ⟨?_, rfl, ?_, ?_⟩
        (dialogue.sink.attempts_receive_singleton call) (by simp) ?_
      · exact hstate
      · simp [Session.countReceived, Session.countDelivered, htaken]
      · simp [Session.countReceived, Session.countDelivered, Nat.add_right_comm]
      · simp [Exchange.isDelivered, hcall, htaken]
    | @refused call hstate hcall hrefused =>
      refine haccounted.goesOn hstate ⟨?_, rfl, ?_, ?_⟩
        (dialogue.sink.attempts_receive_singleton call) (by simp) ?_
      · exact hstate
      · simp [Session.countReceived, Session.countSkipped, hrefused]
      · simp [Session.countReceived, Session.countSkipped, Nat.add_assoc]
      · simp [Exchange.isDelivered, hrefused]
    | passedOver hstate hnone =>
      refine haccounted.goesOn hstate ⟨?_, rfl, rfl, ?_⟩ (List.append_nil _).symm (by simp) rfl
      · exact hstate
      · simp [Session.countReceived, Session.countSkipped, Nat.add_assoc]
    | late hstate =>
      refine haccounted.endsWith rfl hstate ?_ hbalance
      simp [hreceived, hstate, Exchange.isLive]

/-- The account is kept in every dialogue. -/
theorem accounted_run {dialogue : Dialogue} (haccounted : dialogue.Accounted)
    (steps : List SessionStep) : (dialogue.run steps).Accounted := by
  induction steps generalizing dialogue with
  | nil => exact haccounted
  | cons step rest ih => exact ih (accounted_step haccounted step)

/-! ### Where a session goes -/

/-- A session goes on from state to state, or stays. -/
theorem moves_step (dialogue : Dialogue) (step : SessionStep) :
    dialogue.session.state.Moves (dialogue.step step).session.state := by
  cases step with
  | close =>
    show dialogue.session.state.Moves .closed
    cases dialogue.session.state with
    | awaitingHandshake => exact .rejected
    | streaming => exact .ended
    | closed => exact .stays _
  | frame payload =>
    simp only [Dialogue.step]
    generalize hhandled : dialogue.session.handleFrame dialogue.sink payload = handled
    cases Session.FrameHandled.of_eq hhandled with
    | greeted hstate hgreeting => rw [hstate]; exact .greeted
    | rejected hstate hother => rw [hstate]; exact .rejected
    | delivered hstate hcall htaken => exact .stays _
    | refused hstate hcall hrefused => exact .stays _
    | passedOver hstate hnone => exact .stays _
    | late hstate => exact .stays _

/-- Where the sink is called, the session was greeted before. -/
theorem streaming_of_called {dialogue : Dialogue} {step : SessionStep}
    (hcalled : (dialogue.step step).sink.attempts ≠ dialogue.sink.attempts) :
    dialogue.session.state = .streaming := by
  cases step with
  | close => exact absurd rfl hcalled
  | frame payload =>
    simp only [Dialogue.step] at hcalled
    generalize hhandled : dialogue.session.handleFrame dialogue.sink payload = handled at hcalled
    cases Session.FrameHandled.of_eq hhandled with
    | greeted hstate hgreeting => exact absurd rfl hcalled
    | rejected hstate hother => exact absurd rfl hcalled
    | delivered hstate hcall htaken => exact hstate
    | refused hstate hcall hrefused => exact hstate
    | passedOver hstate hnone => exact absurd rfl hcalled
    | late hstate => exact absurd rfl hcalled

/-- A closed session and its sink are left as they were, and payloads are turned away. -/
structure Unmoved (before after : Dialogue) (turnedAway : List Exchange) : Prop where
  session_eq : after.session = before.session
  sink_eq : after.sink = before.sink
  exchanges_eq : after.exchanges = before.exchanges ++ turnedAway
  outcome_eq : ∀ exchange ∈ turnedAway, exchange.outcome = .close .alreadyClosed

/-- Nothing that is done to a closed session changes it. -/
theorem closed_run {dialogue : Dialogue} (hclosed : dialogue.session.state = .closed)
    (steps : List SessionStep) :
    ∃ turnedAway, dialogue.Unmoved (dialogue.run steps) turnedAway := by
  induction steps generalizing dialogue with
  | nil => exact ⟨[], rfl, rfl, (List.append_nil _).symm, by simp⟩
  | cons step rest ih =>
    cases step with
    | close =>
      have hsame : dialogue.step .close = dialogue := by
        obtain ⟨⟨id, state, stats⟩, sink, exchanges⟩ := dialogue
        obtain rfl : state = .closed := hclosed
        rfl
      show ∃ turnedAway, dialogue.Unmoved ((dialogue.step .close).run rest) turnedAway
      rw [hsame]
      exact ih hclosed
    | frame payload =>
      have hlate : dialogue.session.handleFrame dialogue.sink payload =
          (.close .alreadyClosed, dialogue.session, dialogue.sink) := by
        simp only [Session.handleFrame, hclosed]
      have hstep : dialogue.step (.frame payload) =
          { dialogue with exchanges := dialogue.exchanges ++
            [⟨dialogue.session.state, payload, .close .alreadyClosed⟩] } := by
        simp only [Dialogue.step, hlate]
      have hstill : (dialogue.step (.frame payload)).session.state = .closed := by
        rw [hstep]
        exact hclosed
      obtain ⟨later, hsession, hsink, hexchanges, houtcome⟩ := ih hstill
      show ∃ turnedAway, dialogue.Unmoved ((dialogue.step (.frame payload)).run rest) turnedAway
      rw [hstep] at hsession hsink hexchanges ⊢
      refine ⟨⟨dialogue.session.state, payload, .close .alreadyClosed⟩ :: later, hsession, hsink,
        ?_, List.forall_mem_cons.mpr ⟨rfl, houtcome⟩⟩
      rw [hexchanges, List.append_assoc]
      rfl

/-- The payloads on record are those that were handed over. -/
theorem map_payload_run (dialogue : Dialogue) (steps : List SessionStep) :
    (dialogue.run steps).exchanges.map Exchange.payload =
      dialogue.exchanges.map Exchange.payload ++ steps.filterMap SessionStep.payload? := by
  induction steps generalizing dialogue with
  | nil => simp [run]
  | cons step rest ih =>
    refine (ih (dialogue.step step)).trans ?_
    cases step with
    | close => rfl
    | frame payload => simp [Dialogue.step, SessionStep.payload?]

end Dialogue

/-- At every moment of a dialogue with a new session, whatever it is handed, whenever it is closed
and whatever the sink answers,

* the exchanges on record are those of the payloads handed over, in order,
* a call on the sink is made only after the greeting was answered, which was the first payload,
* only the first payload is answered, and only if it is the greeting,
* the session goes from awaiting the greeting to streaming and from either to closed, and nowhere
  else,
* once it is closed, nothing changes its counters or the record of the sink, and no payload is
  answered,
* it has counted the payloads handled before the close and the calls that the sink took, and all
  of these payloads but the first were delivered or passed over,
* the calls that the sink took are, in order, those that the delivered payloads stand for. -/
theorem dialogue_accounts (id : ConnectionId) (reception : Nat → Reception)
    (steps : List SessionStep) :
    let reached := (Dialogue.start id reception).run steps
    let stats := reached.session.stats
    reached.exchanges.map Exchange.payload = steps.filterMap SessionStep.payload? ∧
    (∀ step, (reached.step step).sink.attempts ≠ reached.sink.attempts →
      reached.exchanges.head? = some ⟨.awaitingHandshake, clientHello, .reply serverHello⟩) ∧
    (∀ place exchange answer, reached.exchanges[place]? = some exchange →
      exchange.outcome = .reply answer →
        place = 0 ∧ exchange.payload = clientHello ∧ answer = serverHello) ∧
    (∀ step, reached.session.state.Moves (reached.step step).session.state) ∧
    (reached.session.state = .closed → ∀ more,
      (reached.run more).session = reached.session ∧ (reached.run more).sink = reached.sink ∧
      ∃ turnedAway, (reached.run more).exchanges = reached.exchanges ++ turnedAway ∧
        ∀ exchange ∈ turnedAway, exchange.outcome = .close .alreadyClosed) ∧
    stats.received = reached.exchanges.countP (·.state ≠ .closed) ∧
    stats.delivered = reached.sink.attempts.countP RecordingSink.accepted ∧
    stats.delivered + stats.skipped = stats.received - 1 ∧
    (reached.exchanges.filter (·.outcome = .delivered)).map (payloadCall? ·.payload) =
      (reached.sink.attempts.filter RecordingSink.accepted).map (some ·.1) := by
  intro reached stats
  have haccounted : reached.Accounted :=
    Dialogue.accounted_run (Dialogue.accounted_start id reception) steps
  refine ⟨Dialogue.map_payload_run _ steps, ?_, ?_, reached.moves_step, ?_,
    haccounted.received_eq, haccounted.delivered_eq, haccounted.balance, haccounted.calls_eq⟩
  · intro step hcalled
    exact haccounted.streaming (Dialogue.streaming_of_called hcalled)
  · intro place exchange answer hexchange hreply
    obtain ⟨hplace, rfl⟩ := haccounted.replies place exchange answer hexchange hreply
    exact ⟨hplace, rfl, (FrameOutcome.reply.inj hreply).symm⟩
  · intro hclosed more
    obtain ⟨turnedAway, hunmoved⟩ := Dialogue.closed_run hclosed more
    exact ⟨hunmoved.session_eq, hunmoved.sink_eq, turnedAway, hunmoved.exchanges_eq,
      hunmoved.outcome_eq⟩

end HeadlessDisplay
