import HeadlessDisplay.Proofs.Spelling
import HeadlessDisplay.Proofs.Wire.Reading

/-!
# Frames in a row

Frames that are written one after another are peeled off again one after another: none is lost,
merged, split or made up, wherever the octets are cut. The step is `decode_ofPayload_append`, a
frame in front of any octets is found and the octets behind it are left, and its converse
`eq_ofPayload_of_decode`, whatever is found was a frame; `decode_take_ofPayload` is the case of a
frame that is cut. `peel_stream_append` and `cut_peel` carry these along a stream by induction on
its payloads, `stream_peel` carries the converse along the peeling of any buffer.

`Frame.taken` counts the octets of a buffer that peeling takes up, by the numbers that the decoder
reports.
-/

set_option autoImplicit false
set_option relaxedAutoImplicit false

namespace HeadlessDisplay

namespace Frame

/-! ### One frame -/

/-- The frame of a payload whose length can be declared. -/
def ofPayload (payload : Octets) : Octets :=
  Octets.bigEndian headerSize payload.length ++ payload

@[simp] theorem length_ofPayload (payload : Octets) :
    (ofPayload payload).length = headerSize + payload.length := by
  simp [ofPayload]

/-- A payload can be framed exactly if its length can be declared. -/
theorem encode_eq_ok_iff {payload frame : Octets} :
    encode payload = .ok frame ↔ payload.length < lengthBound ∧ frame = ofPayload payload := by
  unfold encode
  split
  · next hshort => simp [hshort, ofPayload, eq_comm]
  · next hlong => simp [hlong]

/-- A header reads as the length that it was written for. -/
theorem ofBigEndian_header {size : Nat} (hsize : size < lengthBound) :
    Octets.ofBigEndian (Octets.bigEndian headerSize size) = size := by
  rw [Octets.ofBigEndian_bigEndian]
  exact Nat.mod_eq_of_lt hsize

/-- What stands at the front of octets that begin with a frame. -/
theorem take_headerSize_ofPayload (payload rest : Octets) :
    (ofPayload payload ++ rest).take headerSize = Octets.bigEndian headerSize payload.length := by
  rw [ofPayload, List.append_assoc, List.take_left' (Octets.length_bigEndian _ _)]

variable {limit : Nat} {payload : Octets}

/-- A frame within the limit is found in front of any octets. -/
theorem decode_ofPayload_append (hlimit : payload.length ≤ limit)
    (hbound : payload.length < lengthBound) (rest : Octets) :
    decode (ofPayload payload ++ rest) limit =
      .ok (.complete payload (headerSize + payload.length)) := by
  have hlength : (ofPayload payload ++ rest).length =
      headerSize + payload.length + rest.length := by simp
  have hbody : ((ofPayload payload ++ rest).drop headerSize).take payload.length = payload := by
    rw [ofPayload, List.append_assoc, List.drop_left' (Octets.length_bigEndian _ _),
      List.take_left]
  rw [decode, if_neg (by omega), take_headerSize_ofPayload, declaredLength,
    ofBigEndian_header hbound]
  simp only [if_neg (Nat.not_lt.mpr hlimit)]
  rw [if_neg (by omega), hbody]

/-- A frame above the limit is refused, whatever follows its header. -/
theorem decode_ofPayload_append_of_lt (hlimit : limit < payload.length)
    (hbound : payload.length < lengthBound) (rest : Octets) :
    decode (ofPayload payload ++ rest) limit = .error (.oversized payload.length limit) := by
  have hlength : (ofPayload payload ++ rest).length =
      headerSize + payload.length + rest.length := by simp
  rw [decode, if_neg (by omega), take_headerSize_ofPayload, declaredLength,
    ofBigEndian_header hbound]
  simp only [if_pos hlimit]

/-- Of a frame that is cut, the rest is missing. -/
theorem decode_take_ofPayload (hlimit : payload.length ≤ limit)
    (hbound : payload.length < lengthBound) {cut : Nat} (hcut : cut < (ofPayload payload).length) :
    ∃ needed, decode ((ofPayload payload).take cut) limit = .ok (.incomplete needed) := by
  have hlength : ((ofPayload payload).take cut).length = cut := by
    rw [List.length_take, Nat.min_eq_left (Nat.le_of_lt hcut)]
  rw [length_ofPayload] at hcut
  by_cases hheader : cut < headerSize
  · exact ⟨_, by rw [decode, if_pos (by omega)]⟩
  · have htake : ((ofPayload payload).take cut).take headerSize =
        Octets.bigEndian headerSize payload.length := by
      rw [List.take_take, Nat.min_eq_left (Nat.not_lt.mp hheader)]
      simpa using take_headerSize_ofPayload payload []
    refine ⟨headerSize + payload.length - cut, ?_⟩
    rw [decode, if_neg (by omega), htake, declaredLength, ofBigEndian_header hbound]
    simp only [if_neg (Nat.not_lt.mpr hlimit)]
    rw [if_pos (by omega), hlength]

/-- What is found at the front of a buffer is a frame within the limit, and it takes up the octets
that are reported. -/
theorem eq_ofPayload_of_decode {buffer : Octets} {consumed : Nat}
    (hdecode : decode buffer limit = .ok (.complete payload consumed)) :
    payload.length ≤ limit ∧ payload.length < lengthBound ∧
      consumed = headerSize + payload.length ∧ buffer.take consumed = ofPayload payload := by
  unfold decode declaredLength at hdecode
  split at hdecode
  · simp at hdecode
  · next hheader =>
    have hread := Octets.ofBigEndian_lt (buffer.take headerSize)
    have hspelt := Octets.bigEndian_ofBigEndian (buffer.take headerSize)
    rw [List.length_take, Nat.min_eq_left (Nat.not_lt.mp hheader)] at hread hspelt
    generalize Octets.ofBigEndian (buffer.take headerSize) = declared at hdecode hread hspelt
    by_cases hlimit : limit < declared
    · simp [hlimit] at hdecode
    · simp only [if_neg hlimit] at hdecode
      split at hdecode
      · simp at hdecode
      · next hwhole =>
        simp only [Except.ok.injEq, FrameProgress.complete.injEq] at hdecode
        obtain ⟨rfl, rfl⟩ := hdecode
        have hsize : ((buffer.drop headerSize).take declared).length = declared := by
          rw [List.length_take, List.length_drop]
          omega
        rw [hsize]
        refine ⟨by omega, hread, rfl, ?_⟩
        rw [List.take_add, ofPayload, hsize, hspelt]

/-! ### A stream of frames -/

/-- The frames of payloads one after another. -/
def stream (payloads : List Octets) : Octets :=
  (payloads.map ofPayload).flatten

/-- The frames of a first payload and of the others. -/
theorem stream_cons (payload : Octets) (rest : List Octets) :
    stream (payload :: rest) = ofPayload payload ++ stream rest := rfl

/-- Payloads whose lengths can be declared can all be framed. -/
theorem mapM_encode {payloads : List Octets}
    (hbound : ∀ payload ∈ payloads, payload.length < lengthBound) :
    payloads.mapM encode = .ok (payloads.map ofPayload) := by
  induction payloads with
  | nil => rfl
  | cons payload rest ih =>
    have hfirst := encode_eq_ok_iff.mpr ⟨hbound payload (.head _), rfl⟩
    have hrest := ih fun other hother ↦ hbound other (.tail _ hother)
    rw [List.mapM_cons, hfirst, hrest]
    rfl

/-- The octets at the front of a buffer that its whole frames take up. -/
def taken (limit : Nat) (buffer : Octets) : Nat :=
  match _found : decode buffer limit with
  | .ok (.complete _ consumed) => consumed + taken limit (buffer.drop consumed)
  | _ => 0
termination_by buffer.length
decreasing_by
  have := consumed_bounds _found
  simp only [List.length_drop]
  omega

/-- A whole frame is taken up, and then what follows it. -/
theorem taken_of_complete {buffer : Octets} {consumed : Nat}
    (hdecode : decode buffer limit = .ok (.complete payload consumed)) :
    taken limit buffer = consumed + taken limit (buffer.drop consumed) := by
  rw [taken]
  split <;> simp_all

/-- Where no whole frame is found, nothing is taken up. -/
theorem taken_eq_zero {buffer : Octets}
    (hdecode : ∀ payload consumed, decode buffer limit ≠ .ok (.complete payload consumed)) :
    taken limit buffer = 0 := by
  rw [taken]
  split
  · next hfound => exact absurd hfound (hdecode _ _)
  · rfl

theorem taken_nil : taken limit [] = 0 :=
  taken_eq_zero fun _ _ ↦ by simp [decode, headerSize]

/-- The payloads are within the limit, and their lengths can be declared. -/
def Fit (limit : Nat) (payloads : List Octets) : Prop :=
  ∀ payload ∈ payloads, payload.length ≤ limit ∧ payload.length < lengthBound

/-- The frames of a stream are peeled off in order, and then what follows them. -/
theorem peel_stream_append {payloads : List Octets} (hfit : Fit limit payloads) (rest : Octets) :
    peel limit (stream payloads ++ rest) =
        ⟨payloads ++ (peel limit rest).payloads, (peel limit rest).ending⟩ ∧
      taken limit (stream payloads ++ rest) = (stream payloads).length + taken limit rest := by
  induction payloads with
  | nil => simp [stream]
  | cons payload others ih =>
    obtain ⟨hlimit, hbound⟩ := hfit payload (.head _)
    obtain ⟨hpeel, htaken⟩ := ih fun other hother ↦ hfit other (.tail _ hother)
    have hdecode := decode_ofPayload_append hlimit hbound (stream others ++ rest)
    have hdrop : (ofPayload payload ++ (stream others ++ rest)).drop (headerSize + payload.length) =
        stream others ++ rest :=
      List.drop_left' (length_ofPayload payload)
    rw [stream_cons, List.append_assoc, peel_of_complete hdecode, taken_of_complete hdecode, hdrop,
      hpeel, htaken, List.length_append, length_ofPayload]
    exact ⟨rfl, (Nat.add_assoc _ _ _).symm⟩

/-- What peeling makes of the front of a stream: the payloads whose frames lie wholly in it, and an
end that tells whether the cut is between two frames. -/
structure CutPeeled (payloads : List Octets) (cut : Nat) (peeling : Peeling) : Prop where
  prefix_payloads : peeling.payloads <+: payloads
  whole_iff : ∀ number < payloads.length,
    number < peeling.payloads.length ↔ (stream (payloads.take (number + 1))).length ≤ cut
  boundary_iff : peeling.ending = .boundary ↔
    ∃ number ≤ payloads.length, (stream (payloads.take number)).length = cut
  incomplete_of_ne : peeling.ending ≠ .boundary → ∃ needed, peeling.ending = .incomplete needed

/-- A stream that is cut inside its first frame, or before it. -/
theorem cutPeeled_of_lt {others : List Octets} (hlimit : payload.length ≤ limit)
    (hbound : payload.length < lengthBound) {cut : Nat} (hcut : cut < (ofPayload payload).length) :
    CutPeeled (payload :: others) cut (peel limit ((ofPayload payload).take cut)) := by
  have hsize (number : Nat) : (ofPayload payload).length ≤
      (stream ((payload :: others).take (number + 1))).length := by
    rw [List.take_succ_cons, stream_cons, List.length_append]
    exact Nat.le_add_right _ _
  have hnone : (peel limit ((ofPayload payload).take cut)).payloads = [] ∧
      ((peel limit ((ofPayload payload).take cut)).ending = .boundary ↔ cut = 0) ∧
      ((peel limit ((ofPayload payload).take cut)).ending ≠ .boundary →
        ∃ needed, (peel limit ((ofPayload payload).take cut)).ending = .incomplete needed) := by
    rcases Nat.eq_zero_or_pos cut with rfl | hpositive
    · simp [peel_nil]
    · obtain ⟨needed, hdecode⟩ := decode_take_ofPayload hlimit hbound hcut
      have hsome : (ofPayload payload).take cut ≠ [] := by
        apply List.ne_nil_of_length_pos
        rw [List.length_take]
        omega
      rw [peel_of_incomplete hsome hdecode]
      exact ⟨rfl, by simpa using Nat.ne_of_gt hpositive, fun _ ↦ ⟨needed, rfl⟩⟩
  obtain ⟨hpayloads, hboundary, hincomplete⟩ := hnone
  refine ⟨by simp [hpayloads], ?_, ?_, hincomplete⟩
  · intro number hnumber
    have hbehind := hsize number
    rw [hpayloads, List.length_nil]
    omega
  · rw [hboundary]
    constructor
    · rintro rfl
      exact ⟨0, Nat.zero_le _, rfl⟩
    · rintro ⟨number, -, hat⟩
      cases number with
      | zero => simpa [stream] using hat.symm
      | succ number =>
        have hbehind := hsize number
        omega

/-- A whole frame in front moves the cut by its length. -/
theorem CutPeeled.cons {others : List Octets} {behind : Nat} {peeling : Peeling}
    (hpeeled : CutPeeled others behind peeling) (payload : Octets) :
    CutPeeled (payload :: others) ((ofPayload payload).length + behind)
      ⟨payload :: peeling.payloads, peeling.ending⟩ := by
  have hsize (number : Nat) : (stream ((payload :: others).take (number + 1))).length =
      (ofPayload payload).length + (stream (others.take number)).length := by
    rw [List.take_succ_cons, stream_cons, List.length_append]
  refine ⟨List.prefix_cons_inj payload |>.mpr hpeeled.prefix_payloads, ?_, ?_,
    hpeeled.incomplete_of_ne⟩
  · intro number hnumber
    rw [hsize, Nat.add_le_add_iff_left]
    cases number with
    | zero => simp [stream]
    | succ number => simpa using hpeeled.whole_iff number (by simpa using hnumber)
  · refine hpeeled.boundary_iff.trans ⟨?_, ?_⟩
    · rintro ⟨number, hnumber, hat⟩
      exact ⟨number + 1, by simpa using hnumber, by rw [hsize, hat]⟩
    · rintro ⟨number, hnumber, hat⟩
      cases number with
      | zero =>
        simp only [List.take_zero, stream, List.map_nil, List.flatten_nil, List.length_nil,
          length_ofPayload, headerSize] at hat
        omega
      | succ number =>
        rw [hsize, Nat.add_left_cancel_iff] at hat
        exact ⟨number, by simpa using hnumber, hat⟩

/-- Wherever a stream is cut, peeling gives the payloads of the frames before the cut. -/
theorem cut_peel {payloads : List Octets} (hfit : Fit limit payloads) {cut : Nat}
    (hcut : cut ≤ (stream payloads).length) :
    CutPeeled payloads cut (peel limit ((stream payloads).take cut)) := by
  induction payloads generalizing cut with
  | nil =>
    obtain rfl : cut = 0 := by simpa [stream] using hcut
    rw [List.take_zero, peel_nil]
    exact ⟨List.prefix_rfl, by simp, by simp [stream], by simp⟩
  | cons payload others ih =>
    obtain ⟨hlimit, hbound⟩ := hfit payload (.head _)
    have hothers : Fit limit others := fun other hother ↦ hfit other (.tail _ hother)
    by_cases hinside : cut < (ofPayload payload).length
    · rw [stream_cons, List.take_append_of_le_length (Nat.le_of_lt hinside)]
      exact cutPeeled_of_lt hlimit hbound hinside
    · -- The first frame is whole, and the cut goes through what follows it.
      obtain ⟨behind, rfl⟩ := Nat.exists_eq_add_of_le (Nat.not_lt.mp hinside)
      rw [stream_cons, List.length_append] at hcut
      have hbehind : behind ≤ (stream others).length := by omega
      have hdecode := decode_ofPayload_append hlimit hbound ((stream others).take behind)
      have htake : (stream (payload :: others)).take ((ofPayload payload).length + behind) =
          ofPayload payload ++ (stream others).take behind := by
        rw [stream_cons, List.take_append, List.take_of_length_le (by omega),
          Nat.add_sub_cancel_left]
      rw [htake, peel_of_complete hdecode, List.drop_left' (length_ofPayload payload)]
      exact (ih hothers hbehind).cons payload

/-- Whatever a buffer holds, what is peeled off it are the frames that its front consists of. -/
theorem stream_peel (limit : Nat) (buffer : Octets) :
    Fit limit (peel limit buffer).payloads ∧
      stream (peel limit buffer).payloads = buffer.take (taken limit buffer) ∧
      taken limit buffer ≤ buffer.length := by
  induction buffer using peel.induct limit with
  | case1 buffer hnone =>
    obtain rfl : buffer = [] := by simpa using hnone
    simp [peel_nil, taken_nil, Fit, stream]
  | case2 buffer hsome error hdecode =>
    rw [peel_of_error (by simpa using hsome) hdecode, taken_eq_zero (by simp [hdecode])]
    simp [Fit, stream]
  | case3 buffer hsome needed hdecode =>
    rw [peel_of_incomplete (by simpa using hsome) hdecode, taken_eq_zero (by simp [hdecode])]
    simp [Fit, stream]
  | case4 buffer hsome payload consumed hdecode ih =>
    obtain ⟨hfit, hstream, hle⟩ := ih
    obtain ⟨hlimit, hbound, -, hframe⟩ := eq_ofPayload_of_decode hdecode
    have hbounds := consumed_bounds hdecode
    rw [peel_of_complete hdecode, taken_of_complete hdecode]
    refine ⟨?_, ?_, ?_⟩
    · intro other hother
      rcases List.mem_cons.mp hother with rfl | hlater
      · exact ⟨hlimit, hbound⟩
      · exact hfit other hlater
    · rw [stream_cons, hstream, List.take_add, hframe]
    · rw [List.length_drop] at hle
      omega

/-- Payloads within the limit can be framed. From their frames in a row exactly these payloads are
peeled off, every octet is taken up, and nothing is left. If the row is cut, exactly the payloads of
the frames that lie wholly before the cut are peeled off; then peeling stops at a boundary if the
cut is between two frames, and else octets are missing. And whatever a buffer holds, the payloads
peeled off it can be framed, and their frames are the octets that were taken up. -/
theorem peel_undoes_encode (limit : Nat) {payloads : List Octets}
    (hfit : ∀ payload ∈ payloads, payload.length ≤ limit ∧ payload.length < lengthBound) :
    (∃ frames, payloads.mapM encode = .ok frames ∧
      peel limit frames.flatten = ⟨payloads, .boundary⟩ ∧
      taken limit frames.flatten = frames.flatten.length ∧
      ∀ cut ≤ frames.flatten.length,
        let peeling := peel limit (frames.flatten.take cut)
        peeling.payloads <+: payloads ∧
        (∀ number < payloads.length, number < peeling.payloads.length ↔
          (frames.take (number + 1)).flatten.length ≤ cut) ∧
        (peeling.ending = .boundary ↔
          ∃ number ≤ payloads.length, (frames.take number).flatten.length = cut) ∧
        (peeling.ending ≠ .boundary → ∃ needed, peeling.ending = .incomplete needed)) ∧
    ∀ buffer, ∃ frames, (peel limit buffer).payloads.mapM encode = .ok frames ∧
      frames.flatten = buffer.take (taken limit buffer) ∧ taken limit buffer ≤ buffer.length := by
  constructor
  · refine ⟨_, mapM_encode fun payload hpayload ↦ (hfit payload hpayload).2, ?_, ?_, ?_⟩
    · have hpeel := (peel_stream_append hfit []).1
      rw [List.append_nil, peel_nil, List.append_nil] at hpeel
      exact hpeel
    · have htaken := (peel_stream_append hfit []).2
      rw [List.append_nil, taken_nil, Nat.add_zero] at htaken
      exact htaken
    · intro cut hcut
      obtain ⟨hbegins, hwhole, hboundary, hincomplete⟩ := cut_peel hfit hcut
      simp only [stream, List.map_take] at hwhole hboundary
      exact ⟨hbegins, hwhole, hboundary, hincomplete⟩
  · intro buffer
    obtain ⟨hpeeled, hstream, hle⟩ := stream_peel limit buffer
    exact ⟨_, mapM_encode fun payload hpayload ↦ (hpeeled payload hpayload).2, hstream, hle⟩

/-- A payload at the limit and an empty one, whole and cut inside the second header. -/
theorem peel_two_frames :
    let payloads : List Octets := [[7], []]
    let row : Octets := [0, 0, 0, 1, 7, 0, 0, 0, 0]
    (∀ payload ∈ payloads, payload.length ≤ 1 ∧ payload.length < lengthBound) ∧
      peel 1 row = ⟨payloads, .boundary⟩ ∧ (peel 1 (row.take 6)).payloads = [[7]] ∧
      ∃ needed, (peel 1 (row.take 6)).ending = .incomplete needed := by
  intro payloads row
  have hfit : ∀ payload ∈ payloads, payload.length ≤ 1 ∧ payload.length < lengthBound := by decide
  obtain ⟨⟨frames, hframes, hpeel, -, hcut⟩, -⟩ := peel_undoes_encode 1 hfit
  obtain rfl : [[0, 0, 0, 1, 7], [0, 0, 0, 0]] = frames := Except.ok.inj hframes
  obtain ⟨hbegins, hwhole, hboundary, hincomplete⟩ := hcut 6 (by decide)
  refine ⟨hfit, hpeel, ?_, hincomplete ?_⟩
  · have hfirst := (hwhole 0 (by decide)).mpr (by decide)
    have hsecond := mt (hwhole 1 (by decide)).mp (by decide)
    have hpayloads := List.prefix_iff_eq_take.mp hbegins
    rw [Nat.le_antisymm (Nat.not_lt.mp hsecond) hfirst] at hpayloads
    exact hpayloads
  · exact mt hboundary.mp (by decide)

end Frame

end HeadlessDisplay
