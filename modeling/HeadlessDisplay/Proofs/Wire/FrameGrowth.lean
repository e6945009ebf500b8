import HeadlessDisplay.Proofs.Wire.FrameStream

/-!
# A buffer that grows

The decoder never takes back what it has said of a buffer. A whole frame and a refused header stay
what they are, whatever octets are added (`decode_append_of_complete`, `decode_append_of_error`),
and a number of missing octets goes down with each of them (`decode_append_of_incomplete`) until it
is used up; then the next answer follows, which asks again only if the header had not been there
(`decode_append_of_needed`). `DecodeOutcome` has one case for each answer, and these laws compare
the cases before and after.

`Frame.fetch` is a reader that asks the decoder, fetches exactly the octets that are missing and
asks again. It is done after two fetches (`fetches_fetch_le`), holds no octet from behind the frame,
and decides what the decoder decides of all the octets there are (`fetch_decides`).
-/

set_option autoImplicit false
set_option relaxedAutoImplicit false

namespace HeadlessDisplay

namespace Frame

/-! ### What decoding comes to -/

/-- The length that the first octets of a buffer declare. -/
def declared (buffer : Octets) : Nat :=
  Octets.ofBigEndian (buffer.take headerSize)

/-- What decoding the front of a buffer comes to. -/
inductive DecodeOutcome (limit : Nat) (buffer : Octets) : Except FrameError FrameProgress → Prop
  /-- Octets of the header are missing. -/
  | headerCut (hheader : buffer.length < headerSize) :
      DecodeOutcome limit buffer (.ok (.incomplete (headerSize - buffer.length)))
  /-- The header declares more than the limit. -/
  | refused (hheader : headerSize ≤ buffer.length) (hlimit : limit < declared buffer) :
      DecodeOutcome limit buffer (.error (.oversized (declared buffer) limit))
  /-- Octets of the payload are missing. -/
  | payloadCut (hheader : headerSize ≤ buffer.length) (hlimit : declared buffer ≤ limit)
      (hcut : buffer.length < headerSize + declared buffer) :
      DecodeOutcome limit buffer
        (.ok (.incomplete (headerSize + declared buffer - buffer.length)))
  /-- The frame is there. -/
  | whole (hlimit : declared buffer ≤ limit)
      (hwhole : headerSize + declared buffer ≤ buffer.length) :
      DecodeOutcome limit buffer
        (.ok (.complete ((buffer.drop headerSize).take (declared buffer))
          (headerSize + declared buffer)))

variable {limit : Nat} {buffer : Octets}

/-- Decoding comes to one of its outcomes, and to no other. -/
theorem decode_eq_iff {answer : Except FrameError FrameProgress} :
    decode buffer limit = answer ↔ DecodeOutcome limit buffer answer := by
  have hdeclared : declaredLength (buffer.take headerSize) limit =
      if limit < declared buffer then .error (.oversized (declared buffer) limit)
      else .ok (declared buffer) := rfl
  constructor
  · rintro rfl
    unfold decode
    by_cases hheader : buffer.length < headerSize
    · rw [if_pos hheader]
      exact .headerCut hheader
    · rw [if_neg hheader, hdeclared]
      by_cases hlimit : limit < declared buffer
      · rw [if_pos hlimit]
        exact .refused (Nat.not_lt.mp hheader) hlimit
      · rw [if_neg hlimit]
        by_cases hcut : buffer.length < headerSize + declared buffer
        · simp only [if_pos hcut]
          exact .payloadCut (Nat.not_lt.mp hheader) (Nat.not_lt.mp hlimit) hcut
        · simp only [if_neg hcut]
          exact .whole (Nat.not_lt.mp hlimit) (Nat.not_lt.mp hcut)
  · intro houtcome
    cases houtcome with
    | headerCut hheader => rw [decode, if_pos hheader]
    | refused hheader hlimit =>
      rw [decode, if_neg (Nat.not_lt.mpr hheader), hdeclared, if_pos hlimit]
    | payloadCut hheader hlimit hcut =>
      rw [decode, if_neg (Nat.not_lt.mpr hheader), hdeclared, if_neg (Nat.not_lt.mpr hlimit)]
      simp only [if_pos hcut]
    | whole hlimit hwhole =>
      rw [decode, if_neg (by omega), hdeclared, if_neg (Nat.not_lt.mpr hlimit)]
      simp only [if_neg (Nat.not_lt.mpr hwhole)]

/-! ### Octets added -/

/-- Octets behind a header do not change what it declares. -/
theorem declared_append (hheader : headerSize ≤ buffer.length) (more : Octets) :
    declared (buffer ++ more) = declared buffer := by
  rw [declared, List.take_append_of_le_length hheader, declared]

/-- A whole frame stays the same frame. -/
theorem decode_append_of_complete {payload : Octets} {consumed : Nat}
    (hdecode : decode buffer limit = .ok (.complete payload consumed)) (more : Octets) :
    decode (buffer ++ more) limit = .ok (.complete payload consumed) := by
  cases decode_eq_iff.mp hdecode with
  | whole hlimit hwhole =>
    have hheader : headerSize ≤ buffer.length := by omega
    have hsame := declared_append hheader more
    have hpayload : ((buffer ++ more).drop headerSize).take (declared buffer) =
        (buffer.drop headerSize).take (declared buffer) := by
      rw [List.drop_append_of_le_length hheader, List.take_append_of_le_length]
      rw [List.length_drop]
      omega
    rw [← hpayload, ← hsame]
    rw [← hsame] at hlimit hwhole
    refine decode_eq_iff.mpr (.whole hlimit ?_)
    rw [List.length_append]
    omega

/-- A refused header stays refused for the same reason. -/
theorem decode_append_of_error {error : FrameError} (hdecode : decode buffer limit = .error error)
    (more : Octets) : decode (buffer ++ more) limit = .error error := by
  cases decode_eq_iff.mp hdecode with
  | refused hheader hlimit =>
    have hsame := declared_append hheader more
    rw [← hsame] at hlimit ⊢
    refine decode_eq_iff.mpr (.refused ?_ hlimit)
    rw [List.length_append]
    omega

/-- A refusal is decided by the octets of the header alone. -/
theorem decode_header_eq_error_iff {error : FrameError} :
    decode (buffer.take headerSize) limit = .error error ↔ decode buffer limit = .error error := by
  constructor
  · intro hdecode
    have hgrown := decode_append_of_error hdecode (buffer.drop headerSize)
    rwa [List.take_append_drop] at hgrown
  · intro hdecode
    cases decode_eq_iff.mp hdecode with
    | refused hheader hlimit =>
      have hsame : declared (buffer.take headerSize) = declared buffer := by
        rw [declared, List.take_take, Nat.min_self, declared]
      rw [← hsame] at hlimit ⊢
      refine decode_eq_iff.mpr (.refused ?_ hlimit)
      rw [List.length_take]
      omega

/-- Octets that are missing are some. -/
theorem needed_pos {needed : Nat} (hdecode : decode buffer limit = .ok (.incomplete needed)) :
    0 < needed := by
  cases decode_eq_iff.mp hdecode with
  | headerCut hheader => omega
  | payloadCut hheader hlimit hcut => omega

/-- As long as octets are missing, as many fewer are missing as have been added. -/
theorem decode_append_of_incomplete {needed : Nat}
    (hdecode : decode buffer limit = .ok (.incomplete needed)) {more : Octets}
    (hmore : more.length < needed) :
    decode (buffer ++ more) limit = .ok (.incomplete (needed - more.length)) := by
  have hlength : (buffer ++ more).length = buffer.length + more.length := List.length_append
  cases decode_eq_iff.mp hdecode with
  | headerCut hheader =>
    rw [Nat.sub_sub, ← hlength]
    exact decode_eq_iff.mpr (.headerCut (by omega))
  | payloadCut hheader hlimit hcut =>
    have hsame := declared_append hheader more
    rw [Nat.sub_sub, ← hlength, ← hsame]
    rw [← hsame] at hlimit hmore
    exact decode_eq_iff.mpr (.payloadCut (by omega) hlimit (by omega))

/-- What follows when all the octets that were missing have been added: the frame is there and ends
with them, or, if they complete the header, it is refused or asks for the payload it declares. -/
theorem decode_append_of_needed {needed : Nat}
    (hdecode : decode buffer limit = .ok (.incomplete needed)) {more : Octets}
    (hmore : more.length = needed) :
    (∃ payload, decode (buffer ++ more) limit = .ok (.complete payload (buffer ++ more).length)) ∨
      buffer.length < headerSize ∧ (buffer ++ more).length = headerSize ∧
        (decode (buffer ++ more) limit =
            .error (.oversized (Octets.ofBigEndian (buffer ++ more)) limit) ∨
          decode (buffer ++ more) limit =
            .ok (.incomplete (Octets.ofBigEndian (buffer ++ more)))) := by
  have hlength : (buffer ++ more).length = buffer.length + more.length := List.length_append
  cases decode_eq_iff.mp hdecode with
  | headerCut hheader =>
    -- The buffer is now the header and nothing else.
    have hwhole : (buffer ++ more).length = headerSize := by omega
    have hdeclared : Octets.ofBigEndian (buffer ++ more) = declared (buffer ++ more) := by
      rw [declared, List.take_of_length_le (Nat.le_of_eq hwhole)]
    rw [hdeclared]
    generalize hanswer : decode (buffer ++ more) limit = answer
    cases decode_eq_iff.mp hanswer with
    | headerCut hshort => omega
    | refused hthere hlimit => exact .inr ⟨hheader, hwhole, .inl rfl⟩
    | payloadCut hthere hlimit hcut =>
      refine .inr ⟨hheader, hwhole, .inr ?_⟩
      rw [hwhole, Nat.add_sub_cancel_left]
    | whole hlimit hthere =>
      have hnone : headerSize + declared (buffer ++ more) = (buffer ++ more).length := by omega
      rw [← hnone]
      exact .inl ⟨_, rfl⟩
  | payloadCut hheader hlimit hcut =>
    have hsame := declared_append hheader more
    rw [← hsame] at hlimit hcut hmore
    have hend : headerSize + declared (buffer ++ more) = (buffer ++ more).length := by omega
    have hwhole := decode_eq_iff.mpr (.whole hlimit (Nat.le_of_eq hend))
    rw [hend] at hwhole
    exact .inl ⟨_, hwhole⟩

/-! ### A reader that fetches what is missing -/

/-- How far a reader has come. -/
structure Fetched where
  /-- What the decoder says of the buffer. -/
  answer : Except FrameError FrameProgress
  /-- The octets that the reader holds. -/
  buffer : Octets
  /-- The octets that it has not fetched. -/
  source : Octets
  /-- How often it has fetched. -/
  fetches : Nat

/-- Fetches exactly the octets that are missing until the frame is decided, or until the source
does not have as many. -/
def fetch (limit : Nat) (buffer source : Octets) : Fetched :=
  match _answer : decode buffer limit with
  | .ok (.incomplete needed) =>
    if source.length < needed then ⟨.ok (.incomplete needed), buffer, source, 0⟩
    else
      let later := fetch limit (buffer ++ source.take needed) (source.drop needed)
      { later with fetches := later.fetches + 1 }
  | answer => ⟨answer, buffer, source, 0⟩
termination_by source.length
decreasing_by
  have := needed_pos _answer
  simp only [List.length_drop]
  omega

/-- What fetching comes to. -/
inductive FetchOutcome (limit : Nat) : Octets → Octets → Fetched → Prop
  /-- The buffer decides. -/
  | decided {buffer source : Octets}
      (hdecided : ∀ needed, decode buffer limit ≠ .ok (.incomplete needed)) :
      FetchOutcome limit buffer source ⟨decode buffer limit, buffer, source, 0⟩
  /-- The source has fewer octets than are missing. -/
  | starved {buffer source : Octets} {needed : Nat}
      (hdecode : decode buffer limit = .ok (.incomplete needed)) (hfew : source.length < needed) :
      FetchOutcome limit buffer source ⟨.ok (.incomplete needed), buffer, source, 0⟩
  /-- The missing octets are fetched, and so on. -/
  | fetched {buffer first rest : Octets} {needed : Nat} {later : Fetched}
      (hdecode : decode buffer limit = .ok (.incomplete needed)) (hfirst : first.length = needed)
      (hlater : FetchOutcome limit (buffer ++ first) rest later) :
      FetchOutcome limit buffer (first ++ rest) { later with fetches := later.fetches + 1 }

/-- Fetching comes to one of its outcomes. -/
theorem fetchOutcome_fetch (limit : Nat) (buffer source : Octets) :
    FetchOutcome limit buffer source (fetch limit buffer source) := by
  induction buffer, source using fetch.induct limit with
  | case1 buffer source needed hdecode hfew =>
    rw [fetch]
    split
    · next again hagain =>
      obtain rfl : needed = again := by simpa [hdecode] using hagain
      rw [if_pos hfew]
      exact .starved hdecode hfew
    · next hother => exact absurd hdecode (hother needed)
  | case2 buffer source needed hdecode hfew ih =>
    rw [fetch]
    split
    · next again hagain =>
      obtain rfl : needed = again := by simpa [hdecode] using hagain
      have hfirst : (source.take needed).length = needed := by
        rw [List.length_take]
        omega
      have hfetched := FetchOutcome.fetched hdecode hfirst ih
      rw [List.take_append_drop] at hfetched
      rw [if_neg hfew]
      exact hfetched
    · next hother => exact absurd hdecode (hother needed)
  | case3 buffer source hdecided =>
    rw [fetch]
    split
    · next needed hdecode => exact absurd hdecode (hdecided needed)
    · exact .decided hdecided

variable {source : Octets} {reached : Fetched}

/-- A reader does not lose octets, and its answer is what the decoder says of those it holds. -/
theorem FetchOutcome.honest (houtcome : FetchOutcome limit buffer source reached) :
    reached.buffer ++ reached.source = buffer ++ source ∧
      decode reached.buffer limit = reached.answer := by
  induction houtcome with
  | decided hdecided => exact ⟨rfl, rfl⟩
  | starved hdecode hfew => exact ⟨rfl, hdecode⟩
  | fetched hdecode hfirst hlater ih =>
    rw [← List.append_assoc]
    exact ih

/-- A reader stops before the frame is decided only if the source has too few octets. -/
theorem FetchOutcome.starving (houtcome : FetchOutcome limit buffer source reached) {needed : Nat}
    (hanswer : reached.answer = .ok (.incomplete needed)) : reached.source.length < needed := by
  induction houtcome with
  | decided hdecided => exact absurd hanswer (hdecided needed)
  | starved hdecode hfew =>
    obtain rfl : _ = needed := by simpa using hanswer
    exact hfew
  | fetched hdecode hfirst hlater ih => exact ih hanswer

/-- How often octets can still be asked for: for the header and for the payload. -/
def questions (limit : Nat) (buffer : Octets) : Nat :=
  match decode buffer limit with
  | .ok (.incomplete _) => if buffer.length < headerSize then 2 else 1
  | _ => 0

theorem questions_le (limit : Nat) (buffer : Octets) : questions limit buffer ≤ 2 := by
  unfold questions
  split
  · split <;> omega
  · omega

/-- Each time that the missing octets are added, there is a question less. -/
theorem questions_append_lt {needed : Nat} {more : Octets}
    (hdecode : decode buffer limit = .ok (.incomplete needed)) (hmore : more.length = needed) :
    questions limit (buffer ++ more) < questions limit buffer := by
  have hbefore : questions limit buffer = if buffer.length < headerSize then 2 else 1 := by
    rw [questions, hdecode]
  have hpositive : 0 < questions limit buffer := by
    rw [hbefore]
    split <;> omega
  rcases decode_append_of_needed hdecode hmore with ⟨payload, hwhole⟩ | ⟨hheader, hthere, hnext⟩
  · rwa [questions, hwhole]
  · rcases hnext with hrefused | hcut
    · rwa [questions, hrefused]
    · rw [hbefore, if_pos hheader, questions, hcut]
      simp only [if_neg (Nat.not_lt.mpr (Nat.le_of_eq hthere.symm))]
      omega

theorem FetchOutcome.fetches_le (houtcome : FetchOutcome limit buffer source reached) :
    reached.fetches ≤ questions limit buffer := by
  induction houtcome with
  | decided hdecided => exact Nat.zero_le _
  | starved hdecode hfew => exact Nat.zero_le _
  | fetched hdecode hfirst hlater ih =>
    exact Nat.lt_of_le_of_lt ih (questions_append_lt hdecode hfirst)

/-- A reader is done after two fetches. -/
theorem fetches_fetch_le (limit : Nat) (buffer source : Octets) :
    (fetch limit buffer source).fetches ≤ 2 :=
  Nat.le_trans (fetchOutcome_fetch limit buffer source).fetches_le (questions_le limit buffer)

/-- What a reader has fetched belongs to the frame: if it fetched anything, it holds no more than
the whole frame that it found or the header that it refused. -/
theorem FetchOutcome.within (houtcome : FetchOutcome limit buffer source reached)
    (hfetches : reached.fetches ≠ 0) :
    (∀ payload consumed, reached.answer = .ok (.complete payload consumed) →
        reached.buffer.length = consumed) ∧
      ∀ error, reached.answer = .error error → reached.buffer.length = headerSize := by
  induction houtcome with
  | decided hdecided => exact absurd rfl hfetches
  | starved hdecode hfew => exact absurd rfl hfetches
  | @fetched buffer first rest needed later hdecode hfirst hlater ih =>
    by_cases hmore : later.fetches = 0
    · -- This was the last fetch, so the answer is that to the buffer with what it brought.
      have hheld : later.buffer = buffer ++ first := by
        cases hlater with
        | decided => rfl
        | starved => rfl
        | fetched => simp at hmore
      have hanswer := hlater.honest.2
      rw [hheld] at hanswer
      dsimp only
      rw [hheld, ← hanswer]
      rcases decode_append_of_needed hdecode hfirst with ⟨payload, hwhole⟩ | ⟨-, hheader, hnext⟩
      · simp [hwhole]
      · rcases hnext with hrefused | hcut
        · simp [hrefused, hheader]
        · simp [hcut]
    · exact ih hmore

/-- A reader decides what the decoder decides of all the octets, and otherwise it is because they
are too few for that. -/
theorem fetch_decides (limit : Nat) (buffer source : Octets) :
    let reached := fetch limit buffer source
    (∀ payload consumed, reached.answer = .ok (.complete payload consumed) ↔
        decode (buffer ++ source) limit = .ok (.complete payload consumed)) ∧
      ∀ error, reached.answer = .error error ↔ decode (buffer ++ source) limit = .error error := by
  intro reached
  have houtcome := fetchOutcome_fetch limit buffer source
  obtain ⟨hwhole, hanswer⟩ := houtcome.honest
  rw [← hwhole]
  cases hreached : reached.answer with
  | error error =>
    rw [hreached] at hanswer
    simp [decode_append_of_error hanswer]
  | ok progress =>
    cases progress with
    | complete payload consumed =>
      rw [hreached] at hanswer
      simp [decode_append_of_complete hanswer]
    | incomplete needed =>
      have hfew := houtcome.starving hreached
      rw [hreached] at hanswer
      simp [decode_append_of_incomplete hanswer hfew]

/-- The decoder is exact, and monotone in its buffer.

* A whole frame is within the limit and in the buffer, and it stays what it is whatever is added.
* A header is refused for declaring more than the limit, by its own four octets and whatever
  follows them.
* A number of missing octets is positive, and each octet added makes it smaller by one. When they
  have all been added, the frame is there and ends with them, or it is refused, or it lacks exactly
  the payload that is now declared; the last two only if the header had not been there.
* A reader that always fetches the octets that are missing fetches no more than twice and loses
  none. It decides what all the octets together decide, and what it has fetched never goes beyond
  the frame, or beyond the header if that is refused. -/
theorem decode_exact_and_monotone (limit : Nat) (buffer : Octets) :
    (∀ payload consumed, decode buffer limit = .ok (.complete payload consumed) →
      payload.length ≤ limit ∧ consumed ≤ buffer.length ∧
        ∀ more, decode (buffer ++ more) limit = .ok (.complete payload consumed)) ∧
    (∀ error, decode buffer limit = .error error →
      (∃ declared, limit < declared ∧ error = .oversized declared limit) ∧
        ∀ more, decode (buffer ++ more) limit = .error error) ∧
    (∀ error, decode (buffer.take 4) limit = .error error ↔ decode buffer limit = .error error) ∧
    (∀ needed, decode buffer limit = .ok (.incomplete needed) →
      0 < needed ∧
      (∀ more, more.length < needed →
        decode (buffer ++ more) limit = .ok (.incomplete (needed - more.length))) ∧
      ∀ more, more.length = needed →
        (∃ payload,
          decode (buffer ++ more) limit = .ok (.complete payload (buffer ++ more).length)) ∨
        buffer.length < 4 ∧
          (decode (buffer ++ more) limit =
              .error (.oversized (Octets.ofBigEndian (buffer ++ more)) limit) ∨
            decode (buffer ++ more) limit =
              .ok (.incomplete (Octets.ofBigEndian (buffer ++ more))))) ∧
    ∀ source, let reached := fetch limit buffer source
      reached.fetches ≤ 2 ∧ reached.buffer ++ reached.source = buffer ++ source ∧
      (∀ payload consumed, reached.answer = .ok (.complete payload consumed) ↔
        decode (buffer ++ source) limit = .ok (.complete payload consumed)) ∧
      (∀ error, reached.answer = .error error ↔
        decode (buffer ++ source) limit = .error error) ∧
      (∀ needed, reached.answer = .ok (.incomplete needed) →
        decode reached.buffer limit = .ok (.incomplete needed) ∧
          reached.source.length < needed) ∧
      (reached.fetches ≠ 0 →
        (∀ payload consumed, reached.answer = .ok (.complete payload consumed) →
          reached.buffer.length = consumed) ∧
        ∀ error, reached.answer = .error error → reached.buffer.length = 4) := by
  refine ⟨?_, ?_, ?_, ?_, ?_⟩
  · intro payload consumed hdecode
    have hfits := (eq_ofPayload_of_decode hdecode).1
    exact ⟨hfits, (consumed_bounds hdecode).2, decode_append_of_complete hdecode⟩
  · intro error hdecode
    exact ⟨decode_eq_error hdecode, decode_append_of_error hdecode⟩
  · exact fun error ↦ decode_header_eq_error_iff
  · intro needed hdecode
    refine ⟨needed_pos hdecode, ?_, ?_⟩
    · exact fun more hmore ↦ decode_append_of_incomplete hdecode hmore
    · intro more hmore
      refine (decode_append_of_needed hdecode hmore).imp_right ?_
      rintro ⟨hheader, -, hnext⟩
      exact ⟨hheader, hnext⟩
  · intro source reached
    have houtcome := fetchOutcome_fetch limit buffer source
    obtain ⟨hwhole, hanswer⟩ := houtcome.honest
    obtain ⟨hcomplete, hrefused⟩ := fetch_decides limit buffer source
    refine ⟨fetches_fetch_le limit buffer source, hwhole, hcomplete, hrefused, ?_,
      houtcome.within⟩
    intro needed hincomplete
    exact ⟨hanswer.trans hincomplete, houtcome.starving hincomplete⟩

end Frame

end HeadlessDisplay
