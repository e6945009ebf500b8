import HeadlessDisplay.Proofs.Wire.Reading
import HeadlessDisplay.Session.Run

/-!
# A session is a function of the octets

What a session does over a stream depends on the octets that come in and not on the pieces they
come in. `converse` says what it does by cutting all the octets into frames first: nothing if there
is no frame, nothing but closing if the first payload is not the greeting, and else one answer and
one call on the seat for each later payload that stands for one.

`Session.handleAll` hands payloads to a session one after another. The loop over a steady stream is
that over the payloads which can be peeled off its octets (`drive_streaming`), and what it comes
to is counted with a sink that receives its calls in any prescribed way (`counted_handleAll`).
`run_eq_converse` puts the greeting in front.
-/

set_option autoImplicit false
set_option relaxedAutoImplicit false

namespace HeadlessDisplay

/-! ### The conversation by itself -/

/-- How a session ends where the peeling of its octets stops. -/
def Frame.Ending.sessionEnd : Frame.Ending → SessionEnd
  | .boundary => .peerClosed
  | .incomplete _ => .truncated
  | .refused error => .framing error

/-- The sender's timestamp on a call. -/
def SeatCall.time : SeatCall → UInt64
  | .key time .. | .motion time .. | .button time .. | .axis time _ => time

/-- The call on the seat that a payload stands for. -/
def payloadCall? (payload : Octets) : Option SeatCall :=
  match InputEvent.decode payload with
  | .error _ => none
  | .ok event => event.seatCall.toOption

namespace RecordingSink

/-- The calls with the answers that a sink will give to them. -/
def answers (sink : RecordingSink) (calls : List SeatCall) : List (SeatCall × Reception) :=
  calls.mapIdx fun index call ↦ (call, sink.reception (sink.attempts.length + index))

/-- The sink when it has received the calls. -/
def receive (sink : RecordingSink) (calls : List SeatCall) : RecordingSink :=
  { sink with attempts := sink.attempts ++ sink.answers calls }

/-- Whether the sink took the call. -/
def accepted (attempt : SeatCall × Reception) : Bool :=
  match attempt.2 with
  | .recorded | .passed => true
  | .refused _ => false

/-- A sink answers later calls as it does after the earlier ones. -/
theorem answers_append (sink : RecordingSink) (first second : List SeatCall) :
    sink.answers (first ++ second) =
      sink.answers first ++ (sink.receive first).answers second := by
  simp [answers, receive, List.mapIdx_append, Nat.add_assoc, Nat.add_comm]

/-- Receiving calls is receiving the earlier and then the later ones. -/
theorem receive_append (sink : RecordingSink) (first second : List SeatCall) :
    sink.receive (first ++ second) = (sink.receive first).receive second := by
  simp only [receive, answers_append, List.append_assoc]

end RecordingSink

/-- The frame that answers the greeting. -/
def greetingAnswer : Octets :=
  Octets.bigEndian Frame.headerSize serverHello.length ++ serverHello

example : Frame.encode serverHello = .ok greetingAnswer := rfl

/-- What a conversation comes to. -/
structure Conversation where
  ending : SessionEnd
  /-- What the client is sent. -/
  written : Octets
  /-- The calls on the seat in order. -/
  calls : List SeatCall
  /-- How many payloads are handled. -/
  handled : Nat

/-- The conversation with a client that sends the given octets. -/
def converse (limit : Nat) (octets : Octets) : Conversation :=
  let peeling := Frame.peel limit octets
  match peeling.payloads with
  | [] => ⟨peeling.ending.sessionEnd, [], [], 0⟩
  | first :: rest =>
    if first = clientHello then
      ⟨peeling.ending.sessionEnd, greetingAnswer, rest.filterMap payloadCall?, 1 + rest.length⟩
    else ⟨.handshakeRejected, [], [], 1⟩

/-- A call on the seat comes from an event and has its timestamp. -/
theorem payloadCall?_eq_some {payload : Octets} {call : SeatCall}
    (hcall : payloadCall? payload = some call) :
    ∃ event, InputEvent.decode payload = .ok event ∧ event.seatCall = .ok call ∧
      event.timestamp? = some call.time := by
  unfold payloadCall? at hcall
  split at hcall
  · simp at hcall
  · next event hdecode =>
    refine ⟨event, hdecode, ?_⟩
    cases event with
    | unknown tag => simp [InputEvent.seatCall, Except.toOption] at hcall
    | _ =>
      obtain rfl := Option.some.inj hcall
      exact ⟨rfl, rfl⟩

/-- The calls of a conversation come from its payloads. -/
theorem mem_calls_converse {limit : Nat} {octets : Octets} {call : SeatCall}
    (hcall : call ∈ (converse limit octets).calls) :
    ∃ payload ∈ (Frame.peel limit octets).payloads, payloadCall? payload = some call := by
  unfold converse at hcall
  dsimp only at hcall
  split at hcall
  · simp at hcall
  · next first rest hpayloads =>
    split at hcall
    · obtain ⟨payload, hpayload, hstands⟩ := List.mem_filterMap.mp hcall
      rw [hpayloads]
      exact ⟨payload, .tail _ hpayload, hstands⟩
    · simp at hcall

/-- Peeling stops at a header for a length above the limit or for want of octets. -/
theorem Frame.peel_ending_refused {limit : Nat} {octets : Octets} {error : FrameError}
    (hrefused : (peel limit octets).ending = .refused error) :
    ∃ declared, limit < declared ∧ error = .oversized declared limit := by
  induction octets using peel.induct limit with
  | case1 octets hnone =>
    obtain rfl : octets = [] := by simpa using hnone
    simp [peel_nil] at hrefused
  | case2 octets hsome found hdecode =>
    rw [peel_of_error (by simpa using hsome) hdecode] at hrefused
    obtain rfl := Ending.refused.inj hrefused
    exact decode_eq_error hdecode
  | case3 octets hsome needed hdecode =>
    rw [peel_of_incomplete (by simpa using hsome) hdecode] at hrefused
    simp at hrefused
  | case4 octets hsome payload consumed hdecode ih =>
    rw [peel_of_complete hdecode] at hrefused
    exact ih hrefused

/-- A conversation that ends for its framing ends at a length above the limit. -/
theorem ending_converse_framing {limit : Nat} {octets : Octets} {error : FrameError}
    (hending : (converse limit octets).ending = .framing error) :
    ∃ declared, limit < declared ∧ error = .oversized declared limit := by
  have hpeeled : (Frame.peel limit octets).ending.sessionEnd = .framing error := by
    unfold converse at hending
    dsimp only at hending
    split at hending
    · exact hending
    · split at hending
      · exact hending
      · simp at hending
  cases hstop : (Frame.peel limit octets).ending with
  | boundary => simp [hstop, Frame.Ending.sessionEnd] at hpeeled
  | incomplete needed => simp [hstop, Frame.Ending.sessionEnd] at hpeeled
  | refused refusal =>
    rw [hstop] at hpeeled
    obtain rfl := SessionEnd.framing.inj hpeeled
    exact Frame.peel_ending_refused hstop

namespace Session

/-! ### Events of a streaming session -/

section

variable {κ : Type} [InputSink κ]

/-- Handles the payloads of events one after another. -/
def handleAll (session : Session) (sink : κ) (payloads : List Octets) : Session × κ :=
  payloads.foldl (fun (session, sink) payload ↦ (session.handleEvent sink payload).2)
    (session, sink)

/-- An event is delivered or passed over, and the session goes on. -/
theorem handleEvent_outcome (session : Session) (sink : κ) (payload : Octets) :
    ((session.handleEvent sink payload).1 = .delivered ∨
      (session.handleEvent sink payload).1 = .skipped) ∧
    (session.handleEvent sink payload).2.1.state = session.state := by
  unfold handleEvent
  dsimp only
  split
  · exact ⟨.inr rfl, rfl⟩
  · split
    · exact ⟨.inl rfl, rfl⟩
    · exact ⟨.inr rfl, rfl⟩
    · exact ⟨.inr rfl, rfl⟩

/-- A session that streams handles the payloads that can be peeled off the octets of its stream,
and ends where the peeling does. -/
theorem drive_streaming (limit : Nat) {session : Session} (hstate : session.state = .streaming)
    (sink : κ) {script : Incoming} (hsteady : script.Steady) (outgoing : Outgoing) :
    let peeling := Frame.peel limit script.octets
    let finished := drive limit session sink ⟨script, outgoing⟩
    finished.ending = peeling.ending.sessionEnd ∧
      (finished.session, finished.sink) = session.handleAll sink peeling.payloads ∧
      finished.transport.outgoing = outgoing := by
  -- Each payload takes octets away, so the induction is on the number of those to come.
  generalize hlength : script.octets.length = length
  induction length using Nat.strongRecOn generalizing session sink script with
  | ind length ih =>
    have hread := Incoming.frameRead_readFrame hsteady limit
    rw [drive]
    split
    · next rest hfound =>
      rw [hfound] at hread
      cases hread with
      | ended hnone =>
        rw [hnone, Frame.peel_nil]
        exact ⟨rfl, rfl, rfl⟩
    · next error rest hfound =>
      rw [hfound] at hread
      cases hread with
      | truncated hsome hdecode =>
        rw [Frame.peel_of_incomplete hsome hdecode]
        exact ⟨rfl, rfl, rfl⟩
      | refused hsome hdecode hrest =>
        rw [Frame.peel_of_error hsome hdecode]
        exact ⟨rfl, rfl, rfl⟩
    · next payload rest hfound =>
      rw [hfound] at hread
      cases hread with
      | @whole _ _ consumed hdecode hbehind hrest =>
        have hbounds := Frame.consumed_bounds hdecode
        have hshorter : rest.octets.length < length := by
          rw [hrest, List.length_drop]
          omega
        have hframe : session.handleFrame sink payload = session.handleEvent sink payload := by
          simp only [handleFrame, hstate]
        obtain ⟨houtcome, hnext⟩ := session.handleEvent_outcome sink payload
        rw [Frame.peel_of_complete hdecode, hframe]
        have hgoesOn := ih rest.octets.length hshorter (hnext.trans hstate)
          (session.handleEvent sink payload).2.2 hbehind rfl
        rw [hrest] at hgoesOn
        generalize hevent : session.handleEvent sink payload = handled at houtcome hgoesOn
        obtain ⟨outcome, after, left⟩ := handled
        simp only [handleAll, List.foldl_cons, hevent]
        rcases houtcome with rfl | rfl
        · exact hgoesOn
        · exact hgoesOn

end

/-! ### Counting with a sink that answers as prescribed -/

/-- What a session and its recording sink come to over payloads. -/
structure Counted (session : Session) (sink : RecordingSink) (payloads : List Octets)
    (after : Session × RecordingSink) : Prop where
  id_eq : after.1.id = session.id
  sink_eq : after.2 = sink.receive (payloads.filterMap payloadCall?)
  received_eq : after.1.stats.received = session.stats.received + payloads.length
  delivered_eq : after.1.stats.delivered = session.stats.delivered +
    (sink.answers (payloads.filterMap payloadCall?)).countP RecordingSink.accepted
  /-- A payload that is not delivered is passed over. -/
  skipped_eq : after.1.stats.skipped +
      (sink.answers (payloads.filterMap payloadCall?)).countP RecordingSink.accepted =
    session.stats.skipped + payloads.length

theorem counted_nil (session : Session) (sink : RecordingSink) :
    Counted session sink [] (session, sink) where
  id_eq := rfl
  sink_eq := by simp [RecordingSink.receive, RecordingSink.answers]
  received_eq := rfl
  delivered_eq := rfl
  skipped_eq := rfl

/-- A payload that stands for no call is passed over. -/
theorem counted_of_none {session : Session} {sink : RecordingSink} {payload : Octets}
    (hnone : payloadCall? payload = none) :
    Counted session sink [payload] (session.handleEvent sink payload).2 := by
  have hevent : (session.handleEvent sink payload).2 =
      (session.countReceived.countSkipped, sink) := by
    cases hdecode : InputEvent.decode payload with
    | error error => simp only [handleEvent, hdecode]
    | ok event =>
      simp only [payloadCall?, hdecode] at hnone
      cases hseat : event.seatCall with
      | error tag => simp only [handleEvent, hdecode, inject, hseat]
      | ok call => simp [hseat, Except.toOption] at hnone
  rw [hevent]
  constructor <;> simp [hnone, RecordingSink.receive, RecordingSink.answers, countReceived,
    countSkipped]

/-- A payload that stands for a call makes one call, which counts as it is received. -/
theorem counted_of_some {session : Session} {sink : RecordingSink} {payload : Octets}
    {call : SeatCall} (hcall : payloadCall? payload = some call) :
    Counted session sink [payload] (session.handleEvent sink payload).2 := by
  obtain ⟨event, hdecode, hseat, -⟩ := payloadCall?_eq_some hcall
  simp only [handleEvent, hdecode, inject, hseat, InputSink.deliver]
  cases hreception : sink.reception sink.attempts.length <;> constructor <;>
    simp [hcall, hreception, RecordingSink.receive, RecordingSink.answers, RecordingSink.accepted,
      countReceived, countDelivered, countSkipped]

/-- Counts add up over payloads that follow one another. -/
theorem Counted.trans {session : Session} {sink : RecordingSink} {first second : List Octets}
    {middle after : Session × RecordingSink} (hfirst : Counted session sink first middle)
    (hsecond : Counted middle.1 middle.2 second after) :
    Counted session sink (first ++ second) after := by
  have hanswers : sink.answers ((first ++ second).filterMap payloadCall?) =
      sink.answers (first.filterMap payloadCall?) ++
        middle.2.answers (second.filterMap payloadCall?) := by
    rw [List.filterMap_append, RecordingSink.answers_append, hfirst.sink_eq]
  have hskipped := hsecond.skipped_eq
  have hreceived := hsecond.received_eq
  constructor
  · rw [hsecond.id_eq, hfirst.id_eq]
  · rw [hsecond.sink_eq, hfirst.sink_eq, List.filterMap_append, RecordingSink.receive_append]
  · rw [hreceived, hfirst.received_eq, List.length_append, Nat.add_assoc]
  · rw [hsecond.delivered_eq, hfirst.delivered_eq, hanswers, List.countP_append, Nat.add_assoc]
  · have hearlier := hfirst.skipped_eq
    rw [hanswers, List.countP_append, List.length_append]
    omega

/-- A session with a recording sink counts the payloads and what becomes of them. -/
theorem counted_handleAll (session : Session) (sink : RecordingSink) (payloads : List Octets) :
    Counted session sink payloads (session.handleAll sink payloads) := by
  induction payloads generalizing session sink with
  | nil => exact counted_nil session sink
  | cons payload rest ih =>
    have hfirst : Counted session sink [payload] (session.handleEvent sink payload).2 := by
      cases hcall : payloadCall? payload with
      | none => exact counted_of_none hcall
      | some call => exact counted_of_some hcall
    exact hfirst.trans (ih _ _)

/-- After the greeting, what was not delivered of the payloads was passed over. -/
theorem Counted.stats_of_greeted {session : Session} {sink : RecordingSink}
    {payloads : List Octets} {after : Session × RecordingSink}
    (hcounted : Counted session sink payloads after) (hgreeted : session.stats = ⟨1, 0, 0⟩) :
    after.1.stats =
      ⟨1 + payloads.length,
        (sink.answers (payloads.filterMap payloadCall?)).countP RecordingSink.accepted,
        1 + payloads.length - 1 -
          (sink.answers (payloads.filterMap payloadCall?)).countP RecordingSink.accepted⟩ := by
  have hreceived := hcounted.received_eq
  have hdelivered := hcounted.delivered_eq
  have hskipped := hcounted.skipped_eq
  rw [hgreeted] at hreceived hdelivered hskipped
  cases hstats : after.1.stats with
  | mk received delivered skipped =>
    simp only [hstats, SessionStats.mk.injEq] at hreceived hdelivered hskipped ⊢
    omega

/-! ### From the greeting on -/

/-- What a run is to leave, by the conversation. -/
structure Follows (conversation : Conversation) (id : ConnectionId) (sink : RecordingSink)
    (finished : FinishedRun RecordingSink) : Prop where
  ending_eq : finished.ending = conversation.ending
  written_eq : finished.transport.outgoing.written = conversation.written
  sink_eq : finished.sink = sink.receive conversation.calls
  id_eq : finished.session.id = id
  stats_eq : finished.session.stats =
    ⟨conversation.handled, (sink.answers conversation.calls).countP RecordingSink.accepted,
      conversation.handled - 1 -
        (sink.answers conversation.calls).countP RecordingSink.accepted⟩

/-- A session that waits for the greeting has the conversation of its octets. -/
theorem follows_drive {script : Incoming} (hsteady : script.Steady) (limit : Nat)
    (id : ConnectionId) (sink : RecordingSink) :
    Follows (converse limit script.octets) id sink
      (drive limit (start id) sink ⟨script, .unlimited⟩) := by
  have hread := Incoming.frameRead_readFrame hsteady limit
  have hsilent : sink = sink.receive [] := by
    simp [RecordingSink.receive, RecordingSink.answers]
  rw [drive]
  split
  · next rest hfound =>
    rw [hfound] at hread
    cases hread with
    | ended hnone =>
      rw [hnone, converse, Frame.peel_nil]
      exact ⟨rfl, rfl, hsilent, rfl, rfl⟩
  · next error rest hfound =>
    rw [hfound] at hread
    cases hread with
    | truncated hsome hdecode =>
      rw [converse, Frame.peel_of_incomplete hsome hdecode]
      exact ⟨rfl, rfl, hsilent, rfl, rfl⟩
    | refused hsome hdecode hrest =>
      rw [converse, Frame.peel_of_error hsome hdecode]
      exact ⟨rfl, rfl, hsilent, rfl, rfl⟩
  · next payload rest hfound =>
    rw [hfound] at hread
    cases hread with
    | @whole _ _ consumed hdecode hbehind hrest =>
      simp only [converse, Frame.peel_of_complete hdecode, handleFrame, start, handleGreeting]
      by_cases hgreeting : payload = clientHello
      · rw [if_pos hgreeting, if_pos hgreeting]
        let answered : Outgoing :=
          { Outgoing.unlimited with written := greetingAnswer, flushes := 1 }
        have hanswer : Outgoing.unlimited.writeFrame serverHello = (.ok (), answered) := rfl
        simp only [hanswer]
        let streaming : Session := ⟨id, .streaming, ⟨1, 0, 0⟩⟩
        have hstate : streaming.state = .streaming := rfl
        obtain ⟨hending, hhandled, houtgoing⟩ :=
          drive_streaming limit hstate sink hbehind answered
        rw [hrest] at hending hhandled
        have hcounted := counted_handleAll streaming sink
          (Frame.peel limit (script.octets.drop consumed)).payloads
        rw [← hhandled] at hcounted
        exact ⟨hending, congrArg Outgoing.written houtgoing, hcounted.sink_eq, hcounted.id_eq,
          hcounted.stats_of_greeted rfl⟩
      · rw [if_neg hgreeting, if_neg hgreeting]
        exact ⟨rfl, rfl, hsilent, rfl, rfl⟩

/-- However the octets of a client come in, and whatever the sink answers to each call, the run of
a fresh session is the conversation of the octets: its end, the one answer that is written, the
calls in order with the senders' timestamps, and the numbers of payloads handled, delivered and
passed over. -/
theorem run_eq_converse {script : Incoming} (hsteady : script.Steady) (limit : Nat)
    (id : ConnectionId) (reception : Nat → Reception) :
    let conversation := converse limit script.octets
    let attempts := conversation.calls.mapIdx fun index call ↦ (call, reception index)
    let delivered := attempts.countP RecordingSink.accepted
    let finished := run limit (start id) (⟨reception, []⟩ : RecordingSink) ⟨script, .unlimited⟩
    finished.1 = ⟨id, conversation.ending,
      ⟨conversation.handled, delivered, conversation.handled - 1 - delivered⟩⟩ ∧
    finished.2.1.attempts = attempts ∧
    finished.2.2.outgoing.written = conversation.written ∧
    (∀ call ∈ conversation.calls, ∃ payload ∈ (Frame.peel limit script.octets).payloads,
      ∃ event, InputEvent.decode payload = .ok event ∧ event.seatCall = .ok call ∧
        event.timestamp? = some call.time) ∧
    ∀ error, conversation.ending = .framing error →
      ∃ declared, limit < declared ∧ error = .oversized declared limit := by
  intro conversation attempts delivered finished
  have hfollows := follows_drive hsteady limit id ⟨reception, []⟩
  have hanswers : RecordingSink.answers ⟨reception, []⟩ conversation.calls = attempts := by
    simp [RecordingSink.answers, attempts]
  refine ⟨?_, ?_, hfollows.written_eq, ?_, ?_⟩
  · have hstats := hfollows.stats_eq
    rw [hanswers] at hstats
    show SessionSummary.mk _ _ _ = _
    rw [SessionSummary.mk.injEq]
    exact ⟨hfollows.id_eq, hfollows.ending_eq, hstats⟩
  · have hsink := congrArg RecordingSink.attempts hfollows.sink_eq
    rw [RecordingSink.receive, hanswers] at hsink
    exact hsink
  · intro call hcall
    obtain ⟨payload, hpayload, hstands⟩ := mem_calls_converse hcall
    exact ⟨payload, hpayload, payloadCall?_eq_some hstands⟩
  · intro error hending
    exact ending_converse_framing hending

/-- A greeting in two pieces, a key that the sink refuses, and two octets of a header. -/
theorem run_of_refused_key :
    let key : Octets := [1, 0, 0, 0, 0, 0, 0, 0, 9, 0, 0, 0, 30, 1]
    let script : Incoming :=
      [.data [0, 0, 0], .notReady, .data (11 :: clientHello ++ [0, 0, 0, 14] ++ key), .data [0, 0]]
    let sink : RecordingSink := .always (.refused .unavailable)
    let finished := run 64 (start ⟨1⟩) sink ⟨script, .unlimited⟩
    script.Steady ∧ finished.1 = ⟨⟨1⟩, .truncated, ⟨2, 0, 1⟩⟩ ∧
      finished.2.1.attempts = [(.key 9 30 .down, .refused .unavailable)] := by
  intro key script sink finished
  have hsteady : script.Steady :=
    .data (by decide) (.notReady (.data (by decide) (.data (by decide) .ended)))
  have hgreeting : Frame.decode script.octets 64 = .ok (.complete clientHello 15) := rfl
  have hkey : Frame.decode (script.octets.drop 15) 64 = .ok (.complete key 18) := rfl
  have hcut : Frame.decode ((script.octets.drop 15).drop 18) 64 = .ok (.incomplete 2) := rfl
  have hpeel : Frame.peel 64 script.octets = ⟨[clientHello, key], .incomplete 2⟩ := by
    rw [Frame.peel_of_complete hgreeting, Frame.peel_of_complete hkey,
      Frame.peel_of_incomplete (by decide) hcut]
  obtain ⟨hsummary, hattempts, -⟩ :=
    run_eq_converse hsteady 64 ⟨1⟩ fun _ ↦ .refused .unavailable
  have hcalls : [key].filterMap payloadCall? = [.key 9 30 .down] := by decide
  rw [converse, hpeel] at hsummary hattempts
  simp only [if_true, hcalls] at hsummary hattempts
  exact ⟨hsteady, hsummary, hattempts⟩

end Session

end HeadlessDisplay
