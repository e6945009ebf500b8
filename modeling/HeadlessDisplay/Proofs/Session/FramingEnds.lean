import HeadlessDisplay.Proofs.Wire.FrameStream
import HeadlessDisplay.Proofs.Wire.Reading
import HeadlessDisplay.Session.Run

/-!
# Where a session ends for its framing

A session that ends for its framing ends at one frame: it has read whole frames up to there, and
the header of the next declares more than its limit. `Incoming.ReadsTo` says of two points of a
stream that whole frames lie between them, and `Session.refused_of_ending_framing` finds the point
at which a run was refused, for every session, sink and stream, steady or not. No answer of a
session is too long to be written (`reply_eq_serverHello`), so nothing else ends a run like that.

A frame that stands at such a point of a steady stream is longer than the limit
(`Steady.not_prefix_of_refused`).
-/

set_option autoImplicit false
set_option relaxedAutoImplicit false

namespace HeadlessDisplay

variable {limit : Nat}

namespace Incoming

/-- Whole frames are read from one point of a stream up to another. -/
inductive ReadsTo (limit : Nat) : Incoming → Incoming → Prop
  | here (script : Incoming) : ReadsTo limit script script
  | frame {script rest stop : Incoming} {payload : Octets}
      (hread : readFrame limit script = (.ok (some payload), rest))
      (hmore : ReadsTo limit rest stop) : ReadsTo limit script stop

variable {script rest : Incoming}

/-- A frame that stops before its end is not refused. -/
theorem Stop.insideFrame_ne_framing (stop : Stop) (error : FrameError) :
    stop.insideFrame ≠ .framing error := by
  unfold insideFrame
  split
  · simp
  · split <;> simp

/-- A header is refused for declaring more than the limit. -/
theorem oversized_of_readFrame {error : FrameError}
    (hread : readFrame limit script = (.error (.framing error), rest)) :
    ∃ declared, limit < declared ∧ error = .oversized declared limit := by
  have hinside (stop : Stop) (left : Incoming) :
      ((.error stop.insideFrame, left) : Except StreamError (Option Octets) × Incoming) ≠
        (.error (.framing error), rest) := by
    intro hsame
    exact stop.insideFrame_ne_framing error (Except.error.inj (Prod.mk.inj hsame).1)
  unfold readFrame at hread
  split at hread
  · simp at hread
  · simp at hread
  · split at hread
    · exact absurd hread (hinside _ _)
    · split at hread
      · next refusal hrefused =>
        obtain rfl := StreamError.framing.inj (Except.error.inj (Prod.mk.inj hread).1)
        exact Frame.declaredLength_eq_error hrefused
      · split at hread
        · exact absurd hread (hinside _ _)
        · simp at hread

/-- A stream is steady behind its frames as it was before them. -/
theorem Steady.readsTo {stop : Incoming} (hsteady : script.Steady)
    (hreads : ReadsTo limit script stop) : stop.Steady := by
  induction hreads with
  | here script => exact hsteady
  | frame hread hmore ih =>
    have hfound := frameRead_readFrame hsteady limit
    rw [hread] at hfound
    cases hfound with
    | whole hdecode hbehind hrest => exact ih hbehind

/-- A frame whose header is refused where the limit would admit its payload is not there. -/
theorem Steady.not_prefix_of_refused {error : FrameError} {payload : Octets}
    (hsteady : script.Steady) (hread : readFrame limit script = (.error (.framing error), rest))
    (hlimit : payload.length ≤ limit) (hbound : payload.length < Frame.lengthBound) :
    ¬Frame.ofPayload payload <+: script.octets := by
  rintro ⟨more, hoctets⟩
  have hfound := frameRead_readFrame hsteady limit
  rw [hread] at hfound
  cases hfound with
  | refused hsome hdecode hrest hbehind =>
    rw [← hoctets, Frame.decode_ofPayload_append hlimit hbound more] at hdecode
    simp at hdecode

end Incoming

/-- A run ends for its framing where a stream's error is one of framing. -/
theorem StreamError.sessionEnd_eq_framing_iff (failure : StreamError) {error : FrameError} :
    failure.sessionEnd = .framing error ↔ failure = .framing error := by
  cases failure <;> simp [sessionEnd]

/-- A payload whose length can be declared is not refused by the writer. -/
theorem Outgoing.writeFrame_ne_framing {stream after : Outgoing} {payload : Octets}
    (hbound : payload.length < Frame.lengthBound) (error : FrameError) :
    stream.writeFrame payload ≠ (.error (.framing error), after) := by
  unfold writeFrame
  rw [Frame.encode, if_pos hbound]
  dsimp only
  split
  · simp
  · split <;> simp

namespace Session

variable {κ : Type} [InputSink κ]

/-- A session has one answer. -/
theorem reply_eq_serverHello {session after : Session} {sink left : κ} {payload answer : Octets}
    (hreply : session.handleFrame sink payload = (.reply answer, after, left)) :
    answer = serverHello := by
  unfold handleFrame at hreply
  split at hreply
  · unfold handleGreeting at hreply
    dsimp only at hreply
    split at hreply
    · exact (FrameOutcome.reply.inj (Prod.mk.inj hreply).1).symm
    · simp at hreply
  · unfold handleEvent at hreply
    dsimp only at hreply
    split at hreply
    · simp at hreply
    · split at hreply <;> simp at hreply
  · simp at hreply

/-- A run that ends for its framing has read whole frames up to the header that was refused. -/
theorem refused_of_ending_framing (session : Session) (sink : κ) (transport : Transport)
    {error : FrameError}
    (hending : (drive limit session sink transport).ending = .framing error) :
    ∃ stop rest, Incoming.ReadsTo limit transport.incoming stop ∧
      stop.readFrame limit = (.error (.framing error), rest) := by
  -- A payload that lets the run go on is one more frame on the way to where it stops.
  have hfurther {script rest : Incoming} {payload : Octets}
      (hfound : script.readFrame limit = (.ok (some payload), rest))
      (hstops : ∃ stop left, Incoming.ReadsTo limit rest stop ∧
        stop.readFrame limit = (.error (.framing error), left)) :
      ∃ stop left, Incoming.ReadsTo limit script stop ∧
        stop.readFrame limit = (.error (.framing error), left) := by
    obtain ⟨stop, left, hreads, hrefused⟩ := hstops
    exact ⟨stop, left, .frame hfound hreads, hrefused⟩
  fun_induction drive limit session sink transport with
  | case1 session sink transport rest hfound => simp at hending
  | case2 session sink transport failure rest hfound =>
    obtain rfl := failure.sessionEnd_eq_framing_iff.mp hending
    exact ⟨_, rest, .here _, hfound⟩
  | case3 session sink transport payload rest hfound answer after left hreply failure outgoing
      hwrite =>
    obtain rfl := failure.sessionEnd_eq_framing_iff.mp hending
    rw [reply_eq_serverHello hreply] at hwrite
    exact absurd hwrite (Outgoing.writeFrame_ne_framing (by decide) error)
  | case4 session sink transport payload rest hfound answer after left hreply outgoing hwrite ih =>
    exact hfurther hfound (ih hending)
  | case5 session sink transport payload rest hfound after left hdelivered ih =>
    exact hfurther hfound (ih hending)
  | case6 session sink transport payload rest hfound after left hskipped ih =>
    exact hfurther hfound (ih hending)
  | case7 session sink transport payload rest hfound reason after left hclose =>
    cases reason <;> simp [CloseReason.sessionEnd] at hending

end Session

end HeadlessDisplay
