import HeadlessDisplay.Client
import HeadlessDisplay.Proofs.Session.Conversation
import HeadlessDisplay.Proofs.Wire.Chunking
import HeadlessDisplay.Proofs.Wire.EventPayload
import HeadlessDisplay.Proofs.Wire.FrameStream
import HeadlessDisplay.Settings.Basic

/-!
# From a client to the seat

A client that greets the server and sends events, and a session that reads what the client writes,
agree on every event up to the first whose payload is above the session's limit. Sound settings
admit the greeting and nothing more, so such an event can be sent although the session refuses it.

The two sides are tied to each other by their octets alone: what comes to the session are the
octets that the client writes, in any pieces, and the other way round. The client writes its
greeting before it reads anything (`written_visit`), so the session answers (`written_of_greeting`),
so the client goes on, and what it has written are the frames of its payloads (`visit_eq`). The
session peels them off again (`converse_visit`), and each payload stands for the call that its
event stands for (`Known.exists_call`). `visit_reaches_seat` puts the two sides together.
-/

set_option autoImplicit false
set_option relaxedAutoImplicit false

namespace HeadlessDisplay

/-! ### Writing -/

/-- The stream takes everything that is written to it. -/
structure Outgoing.TakesAll (stream : Outgoing) : Prop where
  chunk_eq : stream.chunk = none
  room_eq : stream.room = none
  flushFault_eq : stream.flushFault = none

/-- The stream after one more frame has been written and flushed. -/
def Outgoing.withFrame (stream : Outgoing) (payload : Octets) : Outgoing :=
  { stream with written := stream.written ++ Frame.ofPayload payload,
                flushes := stream.flushes + 1 }

theorem Outgoing.takesAll_unlimited : unlimited.TakesAll := ⟨rfl, rfl, rfl⟩

theorem Outgoing.TakesAll.withFrame {stream : Outgoing} (htakes : stream.TakesAll)
    (payload : Octets) : (stream.withFrame payload).TakesAll :=
  ⟨htakes.chunk_eq, htakes.room_eq, htakes.flushFault_eq⟩

/-- A payload whose length can be declared is written whole to a stream that takes everything. -/
theorem Outgoing.TakesAll.writeFrame_eq {stream : Outgoing} (htakes : stream.TakesAll)
    {payload : Octets} (hbound : payload.length < Frame.lengthBound) :
    stream.writeFrame payload = (.ok (), stream.withFrame payload) := by
  have hencode := Frame.encode_eq_ok_iff.mpr ⟨hbound, rfl⟩
  have haccepted : stream.accepted (Frame.ofPayload payload) = Frame.ofPayload payload := by
    simp [accepted, htakes.chunk_eq, htakes.room_eq]
  simp [writeFrame, hencode, writeAll, haccepted, flush, Outgoing.withFrame, htakes.flushFault_eq]

/-! ### Payloads of events -/

namespace InputEvent

/-- The payload that a known event is written as; there is none of an unknown one. -/
def payload (event : InputEvent) : Octets :=
  event.encode.toOption.getD []

/-- The event is of a known kind. -/
def Known (event : InputEvent) : Prop :=
  ∀ tag, event ≠ .unknown tag

variable {event : InputEvent}

theorem Known.encode_eq (hknown : event.Known) : event.encode = .ok event.payload := by
  obtain ⟨octets, hencode⟩ := exists_encode_eq_ok hknown
  simp [payload, hencode, Except.toOption]

/-- The length of every payload can be declared. -/
theorem length_payload_lt (event : InputEvent) : event.payload.length < Frame.lengthBound := by
  cases event <;>
    simp [payload, encode, header, Except.toOption, Frame.lengthBound]

/-- A known event stands for a call, and its payload stands for the same one. -/
theorem Known.exists_call (hknown : event.Known) :
    ∃ call, event.seatCall = .ok call ∧ payloadCall? event.payload = some call := by
  have hdecode := (decode_eq_ok_iff_of_encode hknown.encode_eq event.payload).mpr List.prefix_rfl
  have hpayload : payloadCall? event.payload = event.seatCall.toOption := by
    simp [payloadCall?, hdecode]
  rw [hpayload]
  cases event with
  | unknown tag => exact absurd rfl (hknown tag)
  | _ => exact ⟨_, rfl, rfl⟩

/-- The payloads of known events stand for the calls that the events stand for. -/
theorem map_filterMap_payloadCall? {events : List InputEvent}
    (hknown : ∀ event ∈ events, event.Known) :
    ((events.map payload).filterMap payloadCall?).map Except.ok = events.map seatCall := by
  induction events with
  | nil => rfl
  | cons event rest ih =>
    obtain ⟨call, hcall, hpayload⟩ := (hknown event (.head _)).exists_call
    rw [List.map_cons, List.filterMap_cons_some hpayload, List.map_cons, List.map_cons, hcall,
      ih fun other hother ↦ hknown other (.tail _ hother)]

end InputEvent

/-- A sink that refuses nothing accepts every call. -/
theorem RecordingSink.countP_answers {sink : RecordingSink}
    (htaken : ∀ call error, sink.reception call ≠ .refused error) (calls : List SeatCall) :
    (sink.answers calls).countP accepted = calls.length := by
  have hall : ∀ attempt ∈ sink.answers calls, accepted attempt = true := by
    intro attempt hattempt
    obtain ⟨index, hindex, rfl⟩ := List.mem_mapIdx.mp hattempt
    unfold accepted
    split
    · rfl
    · rfl
    · next error hrefused => exact absurd hrefused (htaken _ error)
  rw [List.countP_eq_length.mpr hall, answers, List.length_mapIdx]

/-- A sink is handed the calls in order. -/
theorem RecordingSink.map_fst_answers (sink : RecordingSink) (calls : List SeatCall) :
    (sink.answers calls).map Prod.fst = calls := by
  apply List.ext_getElem
  · simp [answers]
  · simp [answers]

/-- Handing known events to a recording sink one after another is making the calls that their
payloads stand for. -/
theorem RecordingSink.foldl_inject (sink : RecordingSink) {events : List InputEvent}
    (hknown : ∀ event ∈ events, event.Known) :
    events.foldl (fun sink event ↦ (inject sink event).2) sink =
      sink.receive ((events.map InputEvent.payload).filterMap payloadCall?) := by
  induction events generalizing sink with
  | nil => simp [receive, answers]
  | cons event rest ih =>
    obtain ⟨call, hcall, hpayload⟩ := (hknown event (.head _)).exists_call
    have hinject : (inject sink event).2 = sink.receive [call] := by
      simp only [inject, hcall, InputSink.deliver]
      cases hreception : sink.reception sink.attempts.length <;>
        simp [receive, answers, hreception]
    rw [List.foldl_cons, hinject, ih _ fun other hother ↦ hknown other (.tail _ hother),
      List.map_cons, List.filterMap_cons_some hpayload, ← receive_append]
    rfl

/-! ### The client -/

namespace Client

/-- Sends events one after another, up to the first that cannot be sent. -/
def sendAll (client : Client) : List InputEvent → Except ClientError Unit × Client
  | [] => (.ok (), client)
  | event :: rest =>
    match client.sendEvent event with
    | (.error error, client) => (.error error, client)
    | (.ok (), client) => client.sendAll rest

/-- Greets the server and sends events once it has answered. -/
def visit (client : Client) (events : List InputEvent) : Except ClientError Unit × Client :=
  match client.handshake with
  | (.error error, client) => (.error error, client)
  | (.ok (), client) => client.sendAll events

/-- An unknown event is not sent, and nothing is written. -/
theorem sendEvent_unknown (client : Client) (tag : UInt8) :
    client.sendEvent (.unknown tag) = (.error (.payload (.unencodable tag)), client) := rfl

/-- Known events are written as the frames of their payloads. -/
theorem sendAll_eq {client : Client} (htakes : client.outgoing.TakesAll)
    {events : List InputEvent} (hknown : ∀ event ∈ events, event.Known) :
    (client.sendAll events).1 = .ok () ∧ (client.sendAll events).2.outgoing.written =
      client.outgoing.written ++ Frame.stream (events.map InputEvent.payload) := by
  induction events generalizing client with
  | nil => simp [sendAll, Frame.stream]
  | cons event rest ih =>
    have hsend : client.sendEvent event =
        (.ok (), { client with outgoing := client.outgoing.withFrame event.payload }) := by
      simp only [sendEvent, (hknown event (.head _)).encode_eq, sendPayload,
        htakes.writeFrame_eq event.length_payload_lt]
    have hlater : ({ client with outgoing := client.outgoing.withFrame event.payload } :
        Client).outgoing.TakesAll := htakes.withFrame event.payload
    obtain ⟨hresult, hwritten⟩ := ih hlater fun other hother ↦ hknown other (.tail _ hother)
    simp only [sendAll, hsend]
    refine ⟨hresult, ?_⟩
    rw [hwritten, Outgoing.withFrame, List.map_cons, Frame.stream_cons, List.append_assoc]

/-- The streams of a client that has not written anything. -/
def facing (reply : Incoming) : Client :=
  ⟨reply, .unlimited⟩

/-- What greeting the server comes to, by the frame that is read. -/
theorem handshake_eq (reply : Incoming) :
    (facing reply).handshake =
      match reply.readFrame Frame.defaultLimit with
      | (.error error, rest) => (.error (.frame error), ⟨rest, .withFrame .unlimited clientHello⟩)
      | (.ok none, rest) =>
        (.error .closedDuringHandshake, ⟨rest, .withFrame .unlimited clientHello⟩)
      | (.ok (some answer), rest) =>
        if answer = serverHello then (.ok (), ⟨rest, .withFrame .unlimited clientHello⟩)
        else
          (.error (.unexpectedReply answer.length), ⟨rest, .withFrame .unlimited clientHello⟩) := by
  have hwrite := Outgoing.takesAll_unlimited.writeFrame_eq
    (show clientHello.length < Frame.lengthBound by decide)
  rcases hread : reply.readFrame Frame.defaultLimit with ⟨_ | _ | answer, rest⟩ <;>
    simp only [handshake, facing, hwrite, hread]

/-- The first thing a client writes is the greeting, whatever it reads. -/
theorem written_visit (reply : Incoming) {events : List InputEvent}
    (hknown : ∀ event ∈ events, event.Known) :
    ∃ more, ((facing reply).visit events).2.outgoing.written =
      Frame.ofPayload clientHello ++ more := by
  have hgreeting : Frame.ofPayload clientHello =
      (Outgoing.withFrame .unlimited clientHello).written := rfl
  unfold visit
  rw [handshake_eq]
  split
  · next error client hfailed =>
    refine ⟨[], ?_⟩
    rw [List.append_nil, hgreeting]
    split at hfailed
    · obtain ⟨-, rfl⟩ := Prod.mk.inj hfailed
      rfl
    · obtain ⟨-, rfl⟩ := Prod.mk.inj hfailed
      rfl
    · split at hfailed
      · simp at hfailed
      · obtain ⟨-, rfl⟩ := Prod.mk.inj hfailed
        rfl
  · next client hgreeted =>
    split at hgreeted
    · simp at hgreeted
    · simp at hgreeted
    · split at hgreeted
      · obtain ⟨-, rfl⟩ := Prod.mk.inj hgreeted
        have htakes := Outgoing.takesAll_unlimited.withFrame clientHello
        exact ⟨_, (sendAll_eq htakes hknown).2⟩
      · simp at hgreeted

/-- A client that reads the right answer has greeted the server, and then writes the frames of its
payloads. -/
theorem visit_eq {reply : Incoming} (hreply : reply.Steady)
    (hanswer : reply.octets = greetingAnswer) {events : List InputEvent}
    (hknown : ∀ event ∈ events, event.Known) :
    (facing reply).handshake.1 = .ok () ∧ ((facing reply).visit events).1 = .ok () ∧
      ((facing reply).visit events).2.outgoing.written =
        Frame.stream (clientHello :: events.map InputEvent.payload) := by
  obtain ⟨rest, hread, -⟩ := hreply.readFrame_eq Frame.defaultLimit
  have hfound : Incoming.answerFor Frame.defaultLimit reply.octets = .ok (some serverHello) := by
    rw [hanswer, Incoming.answerFor_eq_ok_some_iff]
    exact ⟨15, rfl⟩
  have hgreeted : (facing reply).handshake =
      (.ok (), ⟨rest, .withFrame .unlimited clientHello⟩) := by
    rw [handshake_eq, hread, hfound]
    exact if_pos rfl
  have htakes : (⟨rest, .withFrame .unlimited clientHello⟩ : Client).outgoing.TakesAll :=
    Outgoing.takesAll_unlimited.withFrame clientHello
  obtain ⟨hresult, hwritten⟩ := sendAll_eq htakes hknown
  rw [visit, hgreeted]
  exact ⟨rfl, hresult, hwritten⟩

end Client

/-! ### The session -/

/-- The longest payloads that sound settings are sure to admit are as long as the greeting. -/
theorem Settings.length_clientHello_le {settings : Settings} (hsound : settings.validate = .ok ()) :
    clientHello.length ≤ settings.input.maxFrameLen := by
  unfold validate at hsound
  split at hsound
  · simp at hsound
  · split at hsound
    · simp at hsound
    · next hlimit => exact Nat.not_lt.mp hlimit

namespace Session

variable {limit : Nat}

/-- A session is answered if it begins with the greeting, whatever follows. -/
theorem written_of_greeting (hlimit : clientHello.length ≤ limit) {sent : Incoming}
    (hsteady : sent.Steady) {more : Octets}
    (hsent : sent.octets = Frame.ofPayload clientHello ++ more) (id : ConnectionId)
    (sink : RecordingSink) :
    (run limit (start id) sink ⟨sent, .unlimited⟩).2.2.outgoing.written = greetingAnswer := by
  have hdecode := Frame.decode_ofPayload_append hlimit (by decide) more
  have hwritten := (follows_drive hsteady limit id sink).written_eq
  rw [hsent, converse, Frame.peel_of_complete hdecode] at hwritten
  exact hwritten

/-- The end that a session comes to over the payloads of events. -/
def endingOf (limit : Nat) (events : List InputEvent) : SessionEnd :=
  match events.find? fun event ↦ limit < event.payload.length with
  | none => .peerClosed
  | some event => .framing (.oversized event.payload.length limit)

/-- The events before the first whose payload is above the limit. -/
def admitted (limit : Nat) (events : List InputEvent) : List InputEvent :=
  events.takeWhile fun event ↦ event.payload.length ≤ limit

/-- What is peeled off the frames of payloads ends before the first that is above the limit. -/
theorem peel_events (limit : Nat) (events : List InputEvent) :
    let peeling := Frame.peel limit (Frame.stream (events.map InputEvent.payload))
    peeling.payloads = (admitted limit events).map InputEvent.payload ∧
      peeling.ending.sessionEnd = endingOf limit events := by
  induction events with
  | nil => simp [Frame.stream, Frame.peel_nil, admitted, endingOf, Frame.Ending.sessionEnd]
  | cons event rest ih =>
    simp only [List.map_cons, Frame.stream_cons]
    by_cases hlimit : event.payload.length ≤ limit
    · have hdecode := Frame.decode_ofPayload_append hlimit event.length_payload_lt
        (Frame.stream (rest.map InputEvent.payload))
      rw [Frame.peel_of_complete hdecode, List.drop_left' (Frame.length_ofPayload _)]
      simpa [admitted, endingOf, hlimit, Nat.not_lt.mpr hlimit] using ih
    · have hdecode := Frame.decode_ofPayload_append_of_lt (Nat.not_le.mp hlimit)
        event.length_payload_lt (Frame.stream (rest.map InputEvent.payload))
      rw [Frame.peel_of_error (by simp [Frame.ofPayload, Frame.headerSize, Octets.bigEndian,
        Octets.littleEndian]) hdecode]
      simp [admitted, endingOf, hlimit, Nat.not_le.mp hlimit, Frame.Ending.sessionEnd]

/-- The conversation with a client that greets and sends events. -/
theorem converse_visit (hlimit : clientHello.length ≤ limit) (events : List InputEvent) :
    converse limit (Frame.stream (clientHello :: events.map InputEvent.payload)) =
      ⟨endingOf limit events, greetingAnswer,
        ((admitted limit events).map InputEvent.payload).filterMap payloadCall?,
        1 + (admitted limit events).length⟩ := by
  obtain ⟨hpayloads, hending⟩ := peel_events limit events
  have hdecode := Frame.decode_ofPayload_append hlimit (by decide)
    (Frame.stream (events.map InputEvent.payload))
  rw [converse, Frame.stream_cons, Frame.peel_of_complete hdecode,
    List.drop_left' (Frame.length_ofPayload _), hpayloads, hending]
  simp

/-- A client and a session under sound settings, each of which reads what the other writes, in any
pieces. If the events are of known kinds and the sink takes every call, then the session's answer
completes the client's greeting, and the client sends everything. The sink is handed the events
before the first whose payload is above the limit, in order and once each, and nothing else. The
session ends when the client closes, or at that event's header with its length. An unknown event
cannot be sent, and trying to writes nothing. -/
theorem visit_reaches_seat {settings : Settings} (hsound : settings.validate = .ok ())
    {events : List InputEvent} (hknown : ∀ event ∈ events, event.Known)
    {reception : Nat → Reception} (htaken : ∀ call error, reception call ≠ .refused error)
    (id : ConnectionId) {sent reply : Incoming} (hsent : sent.Steady) (hreply : reply.Steady)
    (hrequests : sent.octets = ((Client.facing reply).visit events).2.outgoing.written)
    (hreplies : reply.octets = (run settings.input.maxFrameLen (start id)
      (⟨reception, []⟩ : RecordingSink) ⟨sent, .unlimited⟩).2.2.outgoing.written) :
    let limit := settings.input.maxFrameLen
    let sink : RecordingSink := ⟨reception, []⟩
    let finished := run limit (start id) sink ⟨sent, .unlimited⟩
    let handed := events.takeWhile fun event ↦ event.payload.length ≤ limit
    (Client.facing reply).handshake.1 = .ok () ∧
    ((Client.facing reply).visit events).1 = .ok () ∧
    finished.2.1 = handed.foldl (fun sink event ↦ (inject sink event).2) sink ∧
    finished.2.1.attempts.map (fun attempt ↦ Except.ok attempt.1) =
      handed.map InputEvent.seatCall ∧
    finished.1.stats = ⟨1 + handed.length, handed.length, 0⟩ ∧
    finished.1.ending = (match events.find? fun event ↦ limit < event.payload.length with
      | none => .peerClosed
      | some event => .framing (.oversized event.payload.length limit)) ∧
    ∀ client tag, Client.sendEvent client (.unknown tag) =
      (.error (.payload (.unencodable tag)), client) := by
  intro limit sink finished handed
  have hlimit : clientHello.length ≤ limit := settings.length_clientHello_le hsound
  -- The greeting is written before anything is read, so the loop of the two sides can be entered.
  obtain ⟨more, hgreeting⟩ := Client.written_visit reply hknown
  have hanswer : reply.octets = greetingAnswer :=
    hreplies.trans (written_of_greeting hlimit hsent (hrequests.trans hgreeting) id sink)
  obtain ⟨hgreeted, hvisited, hwritten⟩ := Client.visit_eq hreply hanswer hknown
  have hfollows := follows_drive hsent limit id sink
  rw [hrequests, hwritten, converse_visit hlimit events] at hfollows
  have hhanded : ∀ event ∈ handed, event.Known := fun event hevent ↦
    hknown event (List.takeWhile_subset _ hevent)
  have hcalls := InputEvent.map_filterMap_payloadCall? hhanded
  have hcount := congrArg List.length hcalls
  rw [List.length_map, List.length_map] at hcount
  refine ⟨hgreeted, hvisited, ?_, ?_, ?_, hfollows.ending_eq, Client.sendEvent_unknown⟩
  · exact hfollows.sink_eq.trans (RecordingSink.foldl_inject sink hhanded).symm
  · have hattempts : finished.2.1.attempts =
        sink.answers ((handed.map InputEvent.payload).filterMap payloadCall?) :=
      congrArg RecordingSink.attempts hfollows.sink_eq
    rw [hattempts, ← hcalls, ← sink.map_fst_answers (List.filterMap payloadCall? _), List.map_map]
    simp only [sink.map_fst_answers]
    rfl
  · have htakes : ∀ call error, sink.reception call ≠ .refused error := htaken
    have haccepted := RecordingSink.countP_answers htakes
      ((handed.map InputEvent.payload).filterMap payloadCall?)
    rw [hcount] at haccepted
    have hstats := hfollows.stats_eq
    rw [show admitted limit events = handed from rfl, haccepted, Nat.add_sub_cancel_left,
      Nat.sub_self] at hstats
    exact hstats

/-- A key, a motion that is longer than the limit and another key, cut inside the greeting. -/
theorem visit_with_long_motion :
    let input := { InputSettings.default with maxFrameLen := 14 }
    let settings := { Settings.default with input }
    let events : List InputEvent :=
      [.key 9 30 .down, .motion 10 ⟨0x3FF0000000000000⟩ ⟨0x8000000000000000⟩, .key 11 30 .up]
    let octets := Frame.stream (clientHello :: events.map InputEvent.payload)
    let sent : Incoming := [.data (octets.take 7), .notReady, .data (octets.drop 7)]
    let finished := run 14 (start ⟨1⟩) (RecordingSink.always .recorded) ⟨sent, .unlimited⟩
    settings.validate = .ok () ∧ sent.Steady ∧
      finished.2.1.attempts = [(.key 9 30 .down, .recorded)] ∧
      finished.1.stats = ⟨2, 1, 0⟩ ∧ finished.1.ending = .framing (.oversized 25 14) := by
  intro input settings events octets sent finished
  let reply : Incoming := [.data (greetingAnswer.take 3), .data (greetingAnswer.drop 3)]
  have hsound : settings.validate = .ok () := by
    have hok : settings.validate.toBool = true := by decide +kernel
    cases hvalidate : settings.validate with
    | ok => rfl
    | error reason => simp [hvalidate, Except.toBool] at hok
  have hknown : ∀ event ∈ events, event.Known := by
    simp [events, InputEvent.Known]
  have hsteady : sent.Steady :=
    .data (List.cons_ne_nil _ _) (.notReady (.data (List.cons_ne_nil _ _) .ended))
  have hreply : reply.Steady := .data (by decide) (.data (by decide) .ended)
  have hvisit := (Client.visit_eq hreply rfl hknown).2.2
  have hsent : sent.octets = Frame.ofPayload clientHello ++
      Frame.stream (events.map InputEvent.payload) := rfl
  have hanswered := written_of_greeting (settings.length_clientHello_le hsound) hsteady hsent ⟨1⟩
    (RecordingSink.always .recorded)
  have htaken : ∀ call error, (RecordingSink.always .recorded).reception call ≠ .refused error :=
    fun _ _ ↦ nofun
  obtain ⟨-, -, hsink, -, hstats, hending, -⟩ := visit_reaches_seat hsound hknown htaken ⟨1⟩ hsteady
    hreply
    (hsent.trans hvisit.symm) hanswered.symm
  exact ⟨hsound, hsteady, congrArg RecordingSink.attempts hsink, hstats, hending⟩

end Session

end HeadlessDisplay
