import HeadlessDisplay.Proofs.Wire.Reading

/-!
# The pieces that octets come in do not matter

A reader of a steady stream answers what the decoder says of all the octets to come
(`answerFor`), and leaves what the decoder has not taken up (`remainderOf`). Both are functions of
the octets alone, so two streams of the same octets give the same answers, however often they are
read (`Steady.answers_eq`), and reading to the end is peeling (`Steady.readFrames_eq`). The main
statement is `readFrame_refines_decode`, one clause for each answer.

After an answer other than a payload the reader may be asked again; what it answers then is
determined in the same way, because a refused header takes up its own octets and nothing else.
-/

set_option autoImplicit false
set_option relaxedAutoImplicit false

namespace HeadlessDisplay

/-- A header is refused only if all of it is there. -/
theorem Frame.headerSize_le_of_error {buffer : Octets} {limit : Nat} {error : FrameError}
    (hdecode : decode buffer limit = .error error) : headerSize ≤ buffer.length := by
  unfold decode at hdecode
  split at hdecode
  · simp at hdecode
  · omega

/-- Of no octets, a whole header is missing. -/
theorem Frame.decode_nil (limit : Nat) : decode [] limit = .ok (.incomplete headerSize) := rfl

namespace Incoming

/-! ### One frame -/

/-- The answer to a reader before whom the given octets lie. -/
def answerFor (limit : Nat) (octets : Octets) : Except StreamError (Option Octets) :=
  if octets = [] then .ok none
  else
    match Frame.decode octets limit with
    | .error error => .error (.framing error)
    | .ok (.incomplete _) => .error .truncated
    | .ok (.complete payload _) => .ok (some payload)

/-- The octets that lie before a reader after the answer. -/
def remainderOf (limit : Nat) (octets : Octets) : Octets :=
  match Frame.decode octets limit with
  | .error _ => octets.drop Frame.headerSize
  | .ok (.incomplete _) => []
  | .ok (.complete _ consumed) => octets.drop consumed

section

variable {limit : Nat} {octets : Octets}

theorem answerFor_eq_ok_none_iff : answerFor limit octets = .ok none ↔ octets = [] := by
  unfold answerFor
  split
  · next hnone => simp [hnone]
  · next hsome => split <;> simp [hsome]

theorem answerFor_eq_ok_some_iff {payload : Octets} :
    answerFor limit octets = .ok (some payload) ↔
      ∃ consumed, Frame.decode octets limit = .ok (.complete payload consumed) := by
  unfold answerFor
  split
  · next hnone => simp [hnone, Frame.decode_nil]
  · split <;> simp_all

theorem answerFor_eq_framing_iff {error : FrameError} :
    answerFor limit octets = .error (.framing error) ↔
      Frame.decode octets limit = .error error := by
  unfold answerFor
  split
  · next hnone => simp [hnone, Frame.decode_nil]
  · split <;> simp_all

theorem answerFor_eq_truncated_iff :
    answerFor limit octets = .error .truncated ↔
      octets ≠ [] ∧ ∃ needed, Frame.decode octets limit = .ok (.incomplete needed) := by
  unfold answerFor
  split
  · next hnone => simp [hnone]
  · next hsome => split <;> simp_all

/-- The stream itself does not fail. -/
theorem answerFor_ne_transport (fault : Fault) :
    answerFor limit octets ≠ .error (.transport fault) := by
  unfold answerFor
  split
  · simp
  · split <;> simp

end

variable {script : Incoming}

/-- What a reader of a steady stream answers and leaves is determined by the octets to come. -/
theorem Steady.readFrame_eq (hsteady : script.Steady) (limit : Nat) :
    ∃ rest, readFrame limit script = (answerFor limit script.octets, rest) ∧ rest.Steady ∧
      rest.octets = remainderOf limit script.octets := by
  have hread := frameRead_readFrame hsteady limit
  generalize readFrame limit script = found at hread
  cases hread with
  | ended hnone =>
    rw [hnone]
    exact ⟨[], rfl, .ended, rfl⟩
  | truncated hsome hdecode =>
    refine ⟨[], ?_, .ended, ?_⟩
    · rw [answerFor, if_neg hsome, hdecode]
    · rw [remainderOf, hdecode, octets]
  | @refused rest error hsome hdecode hrest hbehind =>
    refine ⟨rest, ?_, hbehind, ?_⟩
    · rw [answerFor, if_neg hsome, hdecode]
    · rw [remainderOf, hdecode, hrest]
  | @whole rest payload consumed hdecode hbehind hrest =>
    have hbounds := Frame.consumed_bounds hdecode
    have hsome : script.octets ≠ [] := List.ne_nil_of_length_pos (by omega)
    refine ⟨rest, ?_, hbehind, ?_⟩
    · rw [answerFor, if_neg hsome, hdecode]
    · rw [remainderOf, hdecode, hrest]

/-! ### Many frames -/

/-- The answers to a reader who asks a number of times. -/
def answers (limit : Nat) : Nat → Incoming → List (Except StreamError (Option Octets))
  | 0, _ => []
  | count + 1, script =>
    (readFrame limit script).1 :: answers limit count (readFrame limit script).2

/-- The answers that lie in the given octets. -/
def answersFor (limit : Nat) : Nat → Octets → List (Except StreamError (Option Octets))
  | 0, _ => []
  | count + 1, octets =>
    answerFor limit octets :: answersFor limit count (remainderOf limit octets)

/-- However often a reader of a steady stream asks, the answers are determined by the octets. -/
theorem Steady.answers_eq (hsteady : script.Steady) (limit count : Nat) :
    answers limit count script = answersFor limit count script.octets := by
  induction count generalizing script with
  | zero => rfl
  | succ count ih =>
    obtain ⟨rest, hread, hrest, hoctets⟩ := hsteady.readFrame_eq limit
    rw [answers, answersFor, hread, ih hrest, hoctets]

/-- The error that ends the peeling of octets which a stream has given before its end. -/
def peelingError : Frame.Ending → Option StreamError
  | .boundary => none
  | .incomplete _ => some .truncated
  | .refused error => some (.framing error)

/-- Reading frames until there is no further one is peeling the octets to come. -/
theorem Steady.readFrames_eq (hsteady : script.Steady) (limit : Nat) :
    readFrames limit script =
      ((Frame.peel limit script.octets).payloads,
        peelingError (Frame.peel limit script.octets).ending) := by
  -- Each payload takes octets away, so the induction is on the number of those to come.
  generalize hlength : script.octets.length = length
  induction length using Nat.strongRecOn generalizing script with
  | ind length ih =>
    have hread := frameRead_readFrame hsteady limit
    rw [readFrames]
    split
    · next hfound =>
      rw [hfound] at hread
      cases hread with
      | ended hnone => rw [hnone, Frame.peel_nil, peelingError]
    · next hfound =>
      rw [hfound] at hread
      cases hread with
      | truncated hsome hdecode => rw [Frame.peel_of_incomplete hsome hdecode, peelingError]
      | refused hsome hdecode => rw [Frame.peel_of_error hsome hdecode, peelingError]
    · next payload rest hfound =>
      rw [hfound] at hread
      cases hread with
      | @whole _ _ consumed hdecode hbehind hrest =>
        have hbounds := Frame.consumed_bounds hdecode
        have hshorter : rest.octets.length < length := by
          rw [hrest, List.length_drop]
          omega
        have hothers := ih rest.octets.length hshorter hbehind rfl
        rw [Frame.peel_of_complete hdecode, hothers, hrest]

/-- However octets come in, in pieces of at least one octet each until the stream ends, a reader
answers what the decoder says of all of them: that there is no frame if there are no octets, the
payload of a whole frame, the refusal of a header, and else that the stream ended too early. It
leaves exactly the octets behind a whole frame or behind a refused header. So the answers to any
number of questions, and the payloads up to the end, do not depend on the pieces. -/
theorem readFrame_refines_decode (hsteady : script.Steady) (limit : Nat) :
    let octets := script.octets
    let answer := (readFrame limit script).1
    let rest := (readFrame limit script).2
    (answer = .ok none ↔ octets = []) ∧
    (∀ payload, answer = .ok (some payload) ↔
      ∃ consumed, Frame.decode octets limit = .ok (.complete payload consumed)) ∧
    (∀ payload consumed, Frame.decode octets limit = .ok (.complete payload consumed) →
      rest.octets = octets.drop consumed ∧ consumed ≤ octets.length) ∧
    (∀ error, answer = .error (.framing error) ↔ Frame.decode octets limit = .error error) ∧
    (∀ error, Frame.decode octets limit = .error error →
      rest.octets = octets.drop 4 ∧ 4 ≤ octets.length) ∧
    (answer = .error .truncated ↔
      octets ≠ [] ∧ ∃ needed, Frame.decode octets limit = .ok (.incomplete needed)) ∧
    (∀ fault, answer ≠ .error (.transport fault)) ∧
    rest.Steady ∧
    (∀ other : Incoming, other.Steady → other.octets = octets →
      ∀ count, answers limit count other = answers limit count script) ∧
    readFrames limit script =
      ((Frame.peel limit octets).payloads, peelingError (Frame.peel limit octets).ending) := by
  intro octets answer rest
  obtain ⟨left, hread, hbehind, hleft⟩ := hsteady.readFrame_eq limit
  have hanswer : answer = answerFor limit octets := congrArg Prod.fst hread
  have hrest : rest = left := congrArg Prod.snd hread
  rw [hanswer, hrest]
  refine ⟨answerFor_eq_ok_none_iff, fun payload ↦ answerFor_eq_ok_some_iff, ?_,
    fun error ↦ answerFor_eq_framing_iff, ?_, answerFor_eq_truncated_iff,
    answerFor_ne_transport, hbehind, ?_, hsteady.readFrames_eq limit⟩
  · intro payload consumed hdecode
    refine ⟨?_, (Frame.consumed_bounds hdecode).2⟩
    rw [hleft, remainderOf, hdecode]
  · intro error hdecode
    refine ⟨?_, Frame.headerSize_le_of_error hdecode⟩
    rw [hleft, remainderOf, hdecode]
    rfl
  · intro other hother hsame count
    rw [hother.answers_eq, hsteady.answers_eq, hsame]

/-- Two frames, cut inside the first header and between the second header and its payload. -/
theorem readFrame_of_cut_header :
    let script : Incoming := [.data [0, 0], .notReady, .data [0, 1, 7, 0, 0, 0, 2], .data [8, 9]]
    script.Steady ∧ (readFrame 2 script).1 = .ok (some [7]) ∧
      (readFrame 2 script).2.octets = [0, 0, 0, 2, 8, 9] := by
  intro script
  have hsteady : script.Steady :=
    .data (by decide) (.notReady (.data (by decide) (.data (by decide) .ended)))
  have hdecode : Frame.decode script.octets 2 = .ok (.complete [7] 5) := rfl
  obtain ⟨-, hwhole, hleft, -⟩ := readFrame_refines_decode hsteady 2
  exact ⟨hsteady, (hwhole [7]).mpr ⟨5, hdecode⟩, (hleft [7] 5 hdecode).1⟩

end Incoming

end HeadlessDisplay
