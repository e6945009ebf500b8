import HeadlessDisplay.Proofs.Spelling
import HeadlessDisplay.Wire.Payload

/-!
# Events and their payloads

A payload is read as a known event exactly if the octets of that event stand at its front
(`decode_eq_ok_iff_begins_with_encode`). Both directions come from one description of the layout: a
payload begins with the header and the fields of an event (`header_append_prefix_iff`, `fields`),
and a body is read as an event exactly if it begins with the event's fields (`ofBody_eq_ok_iff`).
The octets for presses, axes and kinds stand for no more than one each.

Nothing is assumed about the octets behind the fields, and the numbers of a motion and a scroll are
compared by their bits.
-/

set_option autoImplicit false
set_option relaxedAutoImplicit false

namespace HeadlessDisplay

/-! ### Octets that stand for something -/

/-- An octet stands for a press exactly if it is the octet for it. -/
theorem Press.ofCode?_eq_some_iff {octet : UInt8} {press : Press} :
    ofCode? octet = some press ↔ octet = press.code := by
  unfold ofCode?
  split
  · next hdown => cases press <;> simp [code, hdown]
  · next hdown =>
    split
    · next hup => cases press <;> simp [code, hup]
    · next hup => cases press <;> simp [code, hdown, hup]

/-- An octet stands for an axis exactly if it is the octet for it. -/
theorem ScrollAxis.ofCode?_eq_some_iff {octet : UInt8} {axis : ScrollAxis} :
    ofCode? octet = some axis ↔ octet = axis.code := by
  unfold ofCode?
  split
  · next hvertical => cases axis <;> simp [code, hvertical]
  · next hvertical =>
    split
    · next hhorizontal => cases axis <;> simp [code, hhorizontal]
    · next hhorizontal => cases axis <;> simp [code, hvertical, hhorizontal]

/-- A tag stands for a kind exactly if it is the tag of it. -/
theorem EventKind.ofTag?_eq_some_iff {octet : UInt8} {kind : EventKind} :
    ofTag? octet = some kind ↔ octet = kind.tag := by
  constructor
  · intro hkind
    unfold ofTag? at hkind
    grind [tag]
  · rintro rfl
    cases kind <;> rfl

namespace InputEvent

/-! ### Fields -/

/-- A word of 64 bits is at the front of octets exactly if they read as that word. -/
theorem bigEndian64_append_prefix_iff (word : UInt64) (fields octets : Octets) :
    Octets.bigEndian 8 word.toNat ++ fields <+: octets ↔
      8 ≤ octets.length ∧ word64 octets = word ∧ fields <+: octets.drop 8 := by
  have hread := Octets.ofBigEndian_lt (octets.take 8)
  rw [Octets.bigEndian_append_prefix_iff word.toNat_lt, and_congr_right_iff]
  intro hlength
  rw [List.length_take, Nat.min_eq_left hlength] at hread
  rw [word64, ← UInt64.toNat_inj, UInt64.toNat_ofNat_of_lt' hread]

/-- A word of 32 bits is at the front of octets exactly if they read as that word. -/
theorem bigEndian32_append_prefix_iff (word : UInt32) (fields octets : Octets) :
    Octets.bigEndian 4 word.toNat ++ fields <+: octets ↔
      4 ≤ octets.length ∧ word32 octets = word ∧ fields <+: octets.drop 4 := by
  have hread := Octets.ofBigEndian_lt (octets.take 4)
  rw [Octets.bigEndian_append_prefix_iff word.toNat_lt, and_congr_right_iff]
  intro hlength
  rw [List.length_take, Nat.min_eq_left hlength] at hread
  rw [word32, ← UInt32.toNat_inj, UInt32.toNat_ofNat_of_lt' hread]

/-- An octet comes next at a position exactly if it is at that position. -/
theorem cons_prefix_drop_iff (octet : UInt8) (fields octets : Octets) (position : Nat) :
    octet :: fields <+: octets.drop position ↔
      position < octets.length ∧ octetAt octets position = octet ∧
        fields <+: octets.drop (position + 1) := by
  by_cases hinside : position < octets.length
  · rw [List.drop_eq_getElem_cons hinside, List.cons_prefix_cons]
    simp [octetAt, hinside, eq_comm]
  · rw [List.drop_eq_nil_of_le (by omega)]
    simp [hinside]

/-- The octets of a known event behind its tag and its timestamp. -/
def fields : InputEvent → Octets
  | .key _ code press => Octets.bigEndian 4 code.toNat ++ [press.code]
  | .motion _ x y => Octets.bigEndian 8 x.bits.toNat ++ Octets.bigEndian 8 y.bits.toNat
  | .button _ code press => Octets.bigEndian 4 code.toNat ++ [press.code]
  | .scroll _ axis value => axis.code :: Octets.bigEndian 8 value.bits.toNat
  | .unknown _ => []

/-- A known event is written as its header and its fields. -/
theorem encode_eq_ok_iff {event : InputEvent} {octets : Octets} :
    event.encode = .ok octets ↔
      ∃ kind timestamp, event.kind? = some kind ∧ event.timestamp? = some timestamp ∧
        octets = header kind timestamp ++ event.fields := by
  cases event <;> simp [encode, kind?, timestamp?, fields, eq_comm]

/-- A body is read as an event of its kind, with the timestamp in front of it. -/
theorem kind?_of_ofBody {kind : EventKind} {timestamp : UInt64} {body : Octets}
    {event : InputEvent} (hbody : ofBody kind timestamp body = .ok event) :
    event.kind? = some kind ∧ event.timestamp? = some timestamp := by
  unfold ofBody at hbody
  split at hbody
  · simp at hbody
  · cases kind with
    | key =>
      cases hpress : Press.ofCode? (octetAt body 4) with
      | none => simp [hpress] at hbody
      | some press =>
        obtain rfl : _ = event := by simpa [hpress] using hbody
        exact ⟨rfl, rfl⟩
    | motion =>
      obtain rfl := Except.ok.inj hbody
      exact ⟨rfl, rfl⟩
    | button =>
      cases hpress : Press.ofCode? (octetAt body 4) with
      | none => simp [hpress] at hbody
      | some press =>
        obtain rfl : _ = event := by simpa [hpress] using hbody
        exact ⟨rfl, rfl⟩
    | scroll =>
      cases haxis : ScrollAxis.ofCode? (octetAt body 0) with
      | none => simp [haxis] at hbody
      | some axis =>
        obtain rfl : _ = event := by simpa [haxis] using hbody
        exact ⟨rfl, rfl⟩

/-- A code and a press are at the front of a body exactly if the body is long enough for them and
reads as them. -/
theorem code_press_prefix_iff (code : UInt32) (press : Press) (body : Octets) :
    Octets.bigEndian 4 code.toNat ++ [press.code] <+: body ↔
      5 ≤ body.length ∧ word32 body = code ∧ Press.ofCode? (octetAt body 4) = some press := by
  rw [bigEndian32_append_prefix_iff, cons_prefix_drop_iff, Press.ofCode?_eq_some_iff]
  simp only [List.nil_prefix, and_true]
  constructor
  · rintro ⟨-, hcode, hinside, hpress⟩
    exact ⟨hinside, hcode, hpress⟩
  · rintro ⟨hlength, hcode, hpress⟩
    exact ⟨by omega, hcode, by omega, hpress⟩

/-- A body is read as an event exactly if it begins with the event's fields. -/
theorem ofBody_eq_ok_iff {event : InputEvent} {kind : EventKind} {timestamp : UInt64}
    (hkind : event.kind? = some kind) (htimestamp : event.timestamp? = some timestamp)
    (body : Octets) : ofBody kind timestamp body = .ok event ↔ event.fields <+: body := by
  cases event with
  | key time code press =>
    obtain rfl := Option.some.inj hkind
    obtain rfl := Option.some.inj htimestamp
    rw [fields, code_press_prefix_iff]
    by_cases hlength : 5 ≤ body.length
    · cases hpress : Press.ofCode? (octetAt body 4) <;>
        simp [ofBody, EventKind.bodySize, Nat.not_lt.mpr hlength, hlength, hpress]
    · simp [ofBody, EventKind.bodySize, Nat.not_le.mp hlength, hlength]
  | motion time x y =>
    obtain rfl := Option.some.inj hkind
    obtain rfl := Option.some.inj htimestamp
    have hsecond := bigEndian64_append_prefix_iff y.bits [] (body.drop 8)
    rw [List.append_nil] at hsecond
    rw [fields, bigEndian64_append_prefix_iff, hsecond, List.length_drop]
    by_cases hlength : 16 ≤ body.length
    · have hfirst : 8 ≤ body.length := by omega
      have hrest : 8 ≤ body.length - 8 := by omega
      cases x
      cases y
      simp [ofBody, EventKind.bodySize, Nat.not_lt.mpr hlength, hfirst, hrest]
    · have hrest : ¬8 ≤ body.length - 8 := by omega
      simp [ofBody, EventKind.bodySize, Nat.not_le.mp hlength, hrest]
  | button time code press =>
    obtain rfl := Option.some.inj hkind
    obtain rfl := Option.some.inj htimestamp
    rw [fields, code_press_prefix_iff]
    by_cases hlength : 5 ≤ body.length
    · cases hpress : Press.ofCode? (octetAt body 4) <;>
        simp [ofBody, EventKind.bodySize, Nat.not_lt.mpr hlength, hlength, hpress]
    · simp [ofBody, EventKind.bodySize, Nat.not_le.mp hlength, hlength]
  | scroll time axis value =>
    obtain rfl := Option.some.inj hkind
    obtain rfl := Option.some.inj htimestamp
    have hvalue := bigEndian64_append_prefix_iff value.bits [] (body.drop 1)
    have haxis := cons_prefix_drop_iff axis.code (Octets.bigEndian 8 value.bits.toNat) body 0
    rw [List.append_nil] at hvalue
    rw [List.drop_zero, Nat.zero_add, hvalue, List.length_drop,
      ← ScrollAxis.ofCode?_eq_some_iff] at haxis
    rw [fields, haxis]
    by_cases hlength : 9 ≤ body.length
    · have hfirst : 0 < body.length := by omega
      have hrest : 8 ≤ body.length - 1 := by omega
      cases value
      cases hread : ScrollAxis.ofCode? (octetAt body 0) <;>
        simp [ofBody, EventKind.bodySize, Nat.not_lt.mpr hlength, hfirst, hrest, hread]
    · have hrest : ¬8 ≤ body.length - 1 := by omega
      simp [ofBody, EventKind.bodySize, Nat.not_le.mp hlength, hrest]
  | unknown tag => simp [kind?] at hkind

/-! ### Payloads -/

/-- Octets begin with a header and fields exactly if they begin with the tag of the kind, read as
the timestamp behind it, and go on with the fields. -/
theorem header_append_prefix_iff (kind : EventKind) (timestamp : UInt64) (fields : Octets)
    (tag : UInt8) (rest : Octets) :
    header kind timestamp ++ fields <+: tag :: rest ↔
      EventKind.ofTag? tag = some kind ∧ 8 ≤ rest.length ∧ word64 rest = timestamp ∧
        fields <+: rest.drop 8 := by
  rw [header, List.cons_append, List.cons_prefix_cons, bigEndian64_append_prefix_iff,
    EventKind.ofTag?_eq_some_iff, eq_comm]

/-- A payload is read as an event that is known exactly if its tag is that of the event's kind,
there are octets for a timestamp, and the body behind them is read as the event. -/
theorem decode_cons_eq_ok_iff {event : InputEvent} {kind : EventKind}
    (hkind : event.kind? = some kind) (tag : UInt8) (rest : Octets) :
    decode (tag :: rest) = .ok event ↔
      EventKind.ofTag? tag = some kind ∧ 8 ≤ rest.length ∧
        ofBody kind (word64 rest) (rest.drop 8) = .ok event := by
  simp only [decode]
  cases htag : EventKind.ofTag? tag with
  | none =>
    have hunknown : InputEvent.unknown tag ≠ event := by
      rintro rfl
      simp [kind?] at hkind
    simp [hunknown]
  | some read =>
    by_cases hlength : 8 ≤ rest.length
    · have hlong : ¬(tag :: rest).length < headerSize := by
        simp only [List.length_cons, headerSize]
        omega
      simp only [if_neg hlong, Option.some.injEq, hlength, true_and]
      constructor
      · intro hbody
        obtain rfl : read = kind :=
          Option.some.inj ((kind?_of_ofBody hbody).1.symm.trans hkind)
        exact ⟨rfl, hbody⟩
      · rintro ⟨rfl, hbody⟩
        exact hbody
    · have hshort : (tag :: rest).length < headerSize := by
        simp only [List.length_cons, headerSize]
        omega
      simp only [if_pos hshort]
      simp [hlength]

/-- A payload is read as a known event exactly if it begins with the event's header and fields. -/
theorem decode_eq_ok_iff_begins {event : InputEvent} {kind : EventKind} {timestamp : UInt64}
    (hkind : event.kind? = some kind) (htimestamp : event.timestamp? = some timestamp)
    (payload : Octets) :
    decode payload = .ok event ↔ header kind timestamp ++ event.fields <+: payload := by
  cases payload with
  | nil => simp [decode, header]
  | cons tag rest =>
    rw [decode_cons_eq_ok_iff hkind, header_append_prefix_iff]
    refine and_congr_right fun _ ↦ and_congr_right fun _ ↦ ?_
    constructor
    · intro hbody
      have htime : word64 rest = timestamp :=
        Option.some.inj ((kind?_of_ofBody hbody).2.symm.trans htimestamp)
      rw [htime] at hbody
      exact ⟨htime, (ofBody_eq_ok_iff hkind htimestamp _).mp hbody⟩
    · rintro ⟨rfl, hfields⟩
      exact (ofBody_eq_ok_iff hkind htimestamp _).mpr hfields

/-- An event with a payload is known, and a payload is read as it exactly if it begins with the
event's payload. -/
theorem decode_eq_ok_iff_of_encode {event : InputEvent} {octets : Octets}
    (hencode : event.encode = .ok octets) (payload : Octets) :
    decode payload = .ok event ↔ octets <+: payload := by
  obtain ⟨kind, timestamp, hkind, htimestamp, rfl⟩ := encode_eq_ok_iff.mp hencode
  exact decode_eq_ok_iff_begins hkind htimestamp payload

/-- Every event but an unknown one has a payload. -/
theorem exists_encode_eq_ok {event : InputEvent} (hknown : ∀ tag, event ≠ .unknown tag) :
    ∃ octets, event.encode = .ok octets := by
  cases event with
  | key timestamp code press => exact ⟨_, rfl⟩
  | motion timestamp x y => exact ⟨_, rfl⟩
  | button timestamp code press => exact ⟨_, rfl⟩
  | scroll timestamp axis value => exact ⟨_, rfl⟩
  | unknown tag => exact absurd rfl (hknown tag)

/-- A payload is read as a known event exactly if the event can be written and what is written
stands at the front of the payload. So reading undoes writing, whatever octets follow; writing
undoes reading but for the octets that follow; and no payload begins with what is written for two
different events. -/
theorem decode_eq_ok_iff_begins_with_encode (payload : Octets) (event : InputEvent)
    (hknown : ∀ tag, event ≠ .unknown tag) :
    (decode payload = .ok event ↔ ∃ octets, event.encode = .ok octets ∧ octets <+: payload) ∧
    (∃ octets, event.encode = .ok octets ∧
      ∀ trailing, decode (octets ++ trailing) = .ok event) ∧
    (decode payload = .ok event →
      ∃ octets trailing, event.encode = .ok octets ∧ payload = octets ++ trailing) ∧
    ∀ other octets, decode payload = .ok event → other.encode = .ok octets →
      octets <+: payload → other = event := by
  obtain ⟨written, hwritten⟩ := exists_encode_eq_ok hknown
  have hread := decode_eq_ok_iff_of_encode hwritten
  refine ⟨?_, ⟨written, hwritten, fun trailing ↦ ?_⟩, ?_, ?_⟩
  · rw [hread]
    constructor
    · intro hprefix
      exact ⟨written, hwritten, hprefix⟩
    · rintro ⟨octets, hoctets, hprefix⟩
      obtain rfl := Except.ok.inj (hwritten.symm.trans hoctets)
      exact hprefix
  · exact (hread _).mpr (List.prefix_append _ _)
  · intro hdecode
    obtain ⟨trailing, htrailing⟩ := (hread payload).mp hdecode
    exact ⟨written, trailing, hwritten, htrailing.symm⟩
  · intro other octets hdecode hother hprefix
    have hotherRead := (decode_eq_ok_iff_of_encode hother payload).mpr hprefix
    exact Except.ok.inj (hotherRead.symm.trans hdecode)

/-- A motion to a position that is not a number and to a negative zero, with two octets behind. -/
theorem decode_motion_bits :
    let motion : InputEvent := .motion 5 ⟨0x7FF0000000000001⟩ ⟨0x8000000000000000⟩
    (∀ tag, motion ≠ .unknown tag) ∧
      decode ([2, 0, 0, 0, 0, 0, 0, 0, 5, 0x7F, 0xF0, 0, 0, 0, 0, 0, 1, 0x80, 0, 0, 0, 0, 0, 0, 0]
        ++ [0xDE, 0xAD]) = .ok motion := by
  intro motion
  have hknown : ∀ tag, motion ≠ .unknown tag := fun _ ↦ nofun
  refine ⟨hknown, (decode_eq_ok_iff_begins_with_encode _ motion hknown).1.mpr ⟨_, rfl, ?_⟩⟩
  exact ⟨[0xDE, 0xAD], by decide⟩

end InputEvent

end HeadlessDisplay
