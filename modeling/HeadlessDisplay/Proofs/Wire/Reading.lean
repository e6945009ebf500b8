import HeadlessDisplay.Wire.Stream

/-!
# Reading frames from a stream

A reader that gets its octets in pieces finds the frames that `Frame.decode` finds in the octets as
a whole. A script is `Steady` if nothing fails and each read gives something until the stream
ends; then `gather` takes exactly the octets asked for, whatever the pieces (`Steady.gather_eq`),
and a frame is read as it is decoded (`frameRead_readFrame`). `FrameRead` has one case for each
answer of the decoder and says what is left to be read.

The equations for `Frame.peel` follow the same cases, so that a loop over a stream and the peeling
of a buffer can be compared step by step.
-/

set_option autoImplicit false
set_option relaxedAutoImplicit false

namespace HeadlessDisplay

/-! ### Decoding and peeling -/

namespace Frame

/-- A header is refused only for a length above the limit. -/
theorem declaredLength_eq_error {header : Octets} {limit : Nat} {error : FrameError}
    (hrefused : declaredLength header limit = .error error) :
    ∃ declared, limit < declared ∧ error = .oversized declared limit := by
  unfold declaredLength at hrefused
  dsimp only at hrefused
  split at hrefused
  · next hlimit => exact ⟨_, hlimit, (Except.error.inj hrefused).symm⟩
  · simp at hrefused

theorem decode_eq_error {buffer : Octets} {limit : Nat} {error : FrameError}
    (hdecode : decode buffer limit = .error error) :
    ∃ declared, limit < declared ∧ error = .oversized declared limit := by
  unfold decode at hdecode
  split at hdecode
  · simp at hdecode
  · split at hdecode
    · next refused hrefused =>
      obtain rfl := Except.error.inj hdecode
      exact declaredLength_eq_error hrefused
    · dsimp only at hdecode
      split at hdecode <;> simp at hdecode

variable {limit : Nat} {buffer : Octets}

/-- Nothing can be taken off an empty buffer. -/
theorem peel_nil : peel limit [] = ⟨[], .boundary⟩ := by
  unfold peel
  rfl

/-- Peeling stops at the beginning of a frame. -/
theorem peel_of_incomplete {needed : Nat} (hsome : buffer ≠ [])
    (hdecode : decode buffer limit = .ok (.incomplete needed)) :
    peel limit buffer = ⟨[], .incomplete needed⟩ := by
  unfold peel
  rw [if_neg (by simpa using hsome)]
  split <;> simp_all

/-- Peeling stops at a header that is refused. -/
theorem peel_of_error {error : FrameError} (hsome : buffer ≠ [])
    (hdecode : decode buffer limit = .error error) :
    peel limit buffer = ⟨[], .refused error⟩ := by
  unfold peel
  rw [if_neg (by simpa using hsome)]
  split <;> simp_all

/-- Peeling takes a whole frame off and goes on behind it. -/
theorem peel_of_complete {payload : Octets} {consumed : Nat}
    (hdecode : decode buffer limit = .ok (.complete payload consumed)) :
    peel limit buffer = ⟨payload :: (peel limit (buffer.drop consumed)).payloads,
      (peel limit (buffer.drop consumed)).ending⟩ := by
  have hbounds := consumed_bounds hdecode
  have hsome : buffer ≠ [] := List.ne_nil_of_length_pos (by omega)
  rw [peel, if_neg (by simpa using hsome)]
  split <;> simp_all

end Frame

namespace Incoming

/-! ### Steady streams -/

/-- Each read gives octets until the stream ends. -/
inductive Steady : Incoming → Prop
  | ended : Steady []
  | data {chunk : Octets} {rest : Incoming} (hchunk : chunk ≠ []) (hrest : Steady rest) :
      Steady (.data chunk :: rest)
  | notReady {rest : Incoming} (hrest : Steady rest) : Steady (.notReady :: rest)

/-- A chunk with octets in it comes before the rest. -/
theorem octets_data {chunk : Octets} (hchunk : chunk ≠ []) (rest : Incoming) :
    octets (.data chunk :: rest) = chunk ++ octets rest := by
  cases chunk with
  | nil => exact absurd rfl hchunk
  | cons octet chunk => rfl

/-- What is put back is read again. -/
theorem octets_putBack (left : Octets) (rest : Incoming) :
    octets (putBack left rest) = left ++ octets rest := by
  cases left with
  | nil => rfl
  | cons octet left => rfl

/-- Putting octets back leaves a stream steady. -/
theorem Steady.putBack {rest : Incoming} (hrest : rest.Steady) (left : Octets) :
    (Incoming.putBack left rest).Steady := by
  cases left with
  | nil => exact hrest
  | cons octet left => exact .data (by simp) hrest

variable {script : Incoming}

/-- A read at the end of a steady stream finds it ended. -/
theorem Steady.read_of_nil (hsteady : script.Steady) (hnone : script.octets = []) (capacity : Nat) :
    read capacity script = (.error .ended, []) := by
  induction hsteady with
  | ended => rfl
  | data hchunk hrest ih => simp [octets_data hchunk, hchunk] at hnone
  | notReady hrest ih => exact ih hnone

/-- A read before the end of a steady stream gives some octets and leaves the others. -/
theorem Steady.read_of_ne_nil (hsteady : script.Steady) (hsome : script.octets ≠ [])
    (capacity : Nat) :
    ∃ first rest, read capacity script = (.ok first, rest) ∧ rest.Steady ∧
      script.octets = first ++ rest.octets ∧ first.length ≤ capacity := by
  induction hsteady with
  | ended => exact absurd rfl hsome
  | @data chunk rest hchunk hrest ih =>
    refine ⟨chunk.take capacity, Incoming.putBack (chunk.drop capacity) rest, ?_,
      hrest.putBack _, ?_, List.length_take_le _ _⟩
    · rw [read, if_neg (by simpa using hchunk)]
    · rw [octets_data hchunk, octets_putBack, ← List.append_assoc, List.take_append_drop]
  | notReady hrest ih => exact ih hsome

/-- Octets are gathered in the number asked for, whatever the chunks, if there are as many. -/
theorem Steady.gather_eq (hsteady : script.Steady) (needed : Nat)
    (hneeded : needed ≤ script.octets.length) :
    ∃ rest, gather needed script = (.ok (script.octets.take needed), rest) ∧ rest.Steady ∧
      rest.octets = script.octets.drop needed := by
  induction hsteady generalizing needed with
  | ended =>
    obtain rfl : needed = 0 := by simpa [octets] using hneeded
    exact ⟨[], rfl, .ended, rfl⟩
  | @data chunk rest hchunk hrest ih =>
    rw [octets_data hchunk] at hneeded ⊢
    cases needed with
    | zero =>
      refine ⟨.data chunk :: rest, ?_, .data hchunk hrest, octets_data hchunk rest⟩
      rw [gather, List.take_zero]
    | succ needed =>
      simp only [gather]
      rw [if_neg (by simpa using hchunk)]
      by_cases hinside : needed + 1 ≤ chunk.length
      · rw [if_pos hinside, List.take_append_of_le_length hinside,
          List.drop_append_of_le_length hinside]
        exact ⟨_, rfl, hrest.putBack _, octets_putBack _ _⟩
      · rw [if_neg hinside]
        rw [List.length_append] at hneeded
        obtain ⟨left, hgather, hleft, hoctets⟩ := ih (needed + 1 - chunk.length) (by omega)
        have hwhole : chunk.length ≤ needed + 1 := by omega
        refine ⟨left, ?_, hleft, ?_⟩
        · rw [hgather, List.take_append, List.take_of_length_le hwhole]
        · rw [hoctets, List.drop_append, List.drop_of_length_le hwhole, List.nil_append]
  | @notReady rest hrest ih =>
    cases needed with
    | zero => exact ⟨.notReady :: rest, by simp [gather], .notReady hrest, rfl⟩
    | succ needed => exact ih (needed + 1) hneeded

/-- Too few octets end the gathering with the end of the stream, and nothing is left. -/
theorem Steady.gather_of_lt (hsteady : script.Steady) (needed : Nat)
    (hneeded : script.octets.length < needed) :
    gather needed script = (.error .ended, []) := by
  obtain ⟨needed, rfl⟩ : ∃ fewer, needed = fewer + 1 := ⟨needed - 1, by omega⟩
  induction hsteady generalizing needed with
  | ended => rfl
  | @data chunk rest hchunk hrest ih =>
    rw [octets_data hchunk, List.length_append] at hneeded
    have hgather := ih (needed - chunk.length) (by omega)
    simp only [gather]
    rw [if_neg (by simpa using hchunk), if_neg (by omega),
      show needed + 1 - chunk.length = needed - chunk.length + 1 by omega, hgather]
  | notReady hrest ih => exact ih needed hneeded

/-! ### Frames -/

/-- What reading a frame comes to where the octets to come are the given ones. -/
inductive FrameRead (limit : Nat) (octets : Octets) :
    Except StreamError (Option Octets) × Incoming → Prop
  /-- The stream ends between two frames. -/
  | ended (hnone : octets = []) : FrameRead limit octets (.ok none, [])
  /-- The stream ends inside a frame. -/
  | truncated {needed : Nat} (hsome : octets ≠ [])
      (hdecode : Frame.decode octets limit = .ok (.incomplete needed)) :
      FrameRead limit octets (.error .truncated, [])
  /-- The header is refused, and nothing behind it is taken. -/
  | refused {rest : Incoming} {error : FrameError} (hsome : octets ≠ [])
      (hdecode : Frame.decode octets limit = .error error)
      (hrest : rest.octets = octets.drop Frame.headerSize) (hsteady : rest.Steady) :
      FrameRead limit octets (.error (.framing error), rest)
  /-- The frame is whole, and nothing behind it is taken. -/
  | whole {rest : Incoming} {payload : Octets} {consumed : Nat}
      (hdecode : Frame.decode octets limit = .ok (.complete payload consumed))
      (hsteady : rest.Steady) (hrest : rest.octets = octets.drop consumed) :
      FrameRead limit octets (.ok (some payload), rest)

/-- The reader of a steady stream finds what the decoder finds in its octets. -/
theorem frameRead_readFrame (hsteady : script.Steady) (limit : Nat) :
    FrameRead limit script.octets (readFrame limit script) := by
  by_cases hnone : script.octets = []
  · rw [readFrame, hsteady.read_of_nil hnone]
    exact .ended hnone
  · obtain ⟨first, rest, hread, hrest, hoctets, hfirst⟩ :=
      hsteady.read_of_ne_nil hnone Frame.headerSize
    have hlength := congrArg List.length hoctets
    rw [List.length_append] at hlength
    simp only [readFrame, hread]
    by_cases hheader : script.octets.length < Frame.headerSize
    · rw [hrest.gather_of_lt (Frame.headerSize - first.length) (by omega)]
      exact .truncated hnone (by rw [Frame.decode, if_pos hheader])
    · obtain ⟨behind, hgather, hbehind, hleft⟩ :=
        hrest.gather_eq (Frame.headerSize - first.length) (by omega)
      have hspelt : first ++ rest.octets.take (Frame.headerSize - first.length) =
          script.octets.take Frame.headerSize := by
        rw [hoctets, List.take_append, List.take_of_length_le hfirst]
      have hbody : behind.octets = script.octets.drop Frame.headerSize := by
        rw [hleft, hoctets, List.drop_append, List.drop_of_length_le hfirst, List.nil_append]
      simp only [hgather, hspelt]
      cases hdeclared : Frame.declaredLength (script.octets.take Frame.headerSize) limit with
      | error error =>
        exact .refused hnone (by simp [Frame.decode, hheader, hdeclared]) hbody hbehind
      | ok declared =>
        have hbodyLength := congrArg List.length hbody
        rw [List.length_drop] at hbodyLength
        by_cases hmissing : script.octets.length < Frame.headerSize + declared
        · simp only [hbehind.gather_of_lt declared (by omega)]
          exact .truncated hnone (by simp [Frame.decode, hheader, hdeclared, hmissing]; rfl)
        · obtain ⟨left, hgather, hsteady, hleft⟩ := hbehind.gather_eq declared (by omega)
          have hdecode : Frame.decode script.octets limit =
              .ok (.complete ((script.octets.drop Frame.headerSize).take declared)
                (Frame.headerSize + declared)) := by
            simp [Frame.decode, hheader, hdeclared, hmissing]
          simp only [hgather, hbody]
          apply FrameRead.whole hdecode hsteady
          rw [hleft, hbody, List.drop_drop]

end Incoming

end HeadlessDisplay
