import HeadlessDisplay.Proofs.Wire.EventPayload

/-!
# What payloads are read as

Every payload is read as something, without a look at an octet that is not there. `decodeWithin?`
reads a payload as the decoder does but gives up at the first octet it would miss, and it never
gives up (`decodeWithin?_eq`).

`ReadOutcome` has one case for each way through the decoder: the payload is empty, its tag is
unknown, octets of the timestamp are missing, octets of the body are missing, or the body is read.
A body that is long enough is an event of its kind unless its octet for the press or the axis
stands for none (`ofBody_cases`), and no octet behind it matters (`ofBody_append`).
`payload_classified` puts this into conditions on the octets alone.
-/

set_option autoImplicit false
set_option relaxedAutoImplicit false

namespace HeadlessDisplay

/-- The body of a payload is at fault: it ends too early, or an octet of it stands for nothing. -/
def PayloadError.IsMalformed : PayloadError → Prop
  | .bodyTooShort .. | .unknownKeyPress _ | .unknownButtonPress _ | .unknownAxis _ => True
  | .tooShort .. | .unencodable _ => False

/-- An octet of the body stands for nothing. -/
def PayloadError.IsOutOfRange : PayloadError → Prop
  | .unknownKeyPress _ | .unknownButtonPress _ | .unknownAxis _ => True
  | .tooShort .. | .bodyTooShort .. | .unencodable _ => False

theorem PayloadError.IsOutOfRange.isMalformed {error : PayloadError} (herror : error.IsOutOfRange) :
    error.IsMalformed := by
  cases error <;> trivial

/-- The known tags are those from one to four. -/
theorem EventKind.exists_tag_eq_iff {tag : UInt8} :
    (∃ kind : EventKind, tag = kind.tag) ↔ 1 ≤ tag ∧ tag ≤ 4 := by
  constructor
  · rintro ⟨kind, rfl⟩
    cases kind <;> decide
  · rintro ⟨hlower, hupper⟩
    rw [UInt8.le_iff_toNat_le] at hlower hupper
    have hnumber : tag.toNat = 1 ∨ tag.toNat = 2 ∨ tag.toNat = 3 ∨ tag.toNat = 4 := by
      simp only [UInt8.reduceToNat] at hlower hupper
      omega
    rcases hnumber with htag | htag | htag | htag
    · exact ⟨.key, UInt8.toNat_inj.mp htag⟩
    · exact ⟨.motion, UInt8.toNat_inj.mp htag⟩
    · exact ⟨.button, UInt8.toNat_inj.mp htag⟩
    · exact ⟨.scroll, UInt8.toNat_inj.mp htag⟩

theorem EventKind.ofTag?_eq_none_iff {tag : UInt8} : ofTag? tag = none ↔ ¬(1 ≤ tag ∧ tag ≤ 4) := by
  rw [← exists_tag_eq_iff, Option.eq_none_iff_forall_ne_some, not_exists]
  exact forall_congr' fun kind ↦ not_congr ofTag?_eq_some_iff

namespace InputEvent

/-! ### Octets looked at -/

/-- So many octets from a position on; nothing if there are not as many. -/
def slice? (octets : Octets) (position count : Nat) : Option Octets :=
  if position + count ≤ octets.length then some ((octets.drop position).take count) else none

theorem slice?_eq {octets : Octets} {position count : Nat}
    (hinside : position + count ≤ octets.length) :
    slice? octets position count = some ((octets.drop position).take count) :=
  if_pos hinside

/-- Reads a body as `ofBody` does, and gives up at an octet that is not there. -/
def ofBodyWithin? (kind : EventKind) (timestamp : UInt64) (body : Octets) :
    Option (Except PayloadError InputEvent) :=
  if body.length < kind.bodySize then some (.error (.bodyTooShort kind body.length))
  else
    match kind with
    | .key => do
      let code ← slice? body 0 4
      let octet ← body[4]?
      match Press.ofCode? octet with
      | some press => some (.ok (.key timestamp (word32 code) press))
      | none => some (.error (.unknownKeyPress octet))
    | .motion => do
      let x ← slice? body 0 8
      let y ← slice? body 8 8
      some (.ok (.motion timestamp ⟨word64 x⟩ ⟨word64 y⟩))
    | .button => do
      let code ← slice? body 0 4
      let octet ← body[4]?
      match Press.ofCode? octet with
      | some press => some (.ok (.button timestamp (word32 code) press))
      | none => some (.error (.unknownButtonPress octet))
    | .scroll => do
      let octet ← body[0]?
      match ScrollAxis.ofCode? octet with
      | some axis => do
        let value ← slice? body 1 8
        some (.ok (.scroll timestamp axis ⟨word64 value⟩))
      | none => some (.error (.unknownAxis octet))

/-- Reads a payload as `decode` does, and gives up at an octet that is not there. -/
def decodeWithin? (payload : Octets) : Option (Except PayloadError InputEvent) :=
  if payload.isEmpty then some (.error (.tooShort headerSize 0))
  else do
    let tag ← payload[0]?
    match EventKind.ofTag? tag with
    | none => some (.ok (.unknown tag))
    | some kind =>
      if payload.length < headerSize then some (.error (.tooShort headerSize payload.length))
      else do
        let timestamp ← slice? payload 1 8
        let body ← slice? payload headerSize (payload.length - headerSize)
        ofBodyWithin? kind (word64 timestamp) body

theorem word64_take (octets : Octets) : word64 (octets.take 8) = word64 octets := by
  rw [word64, List.take_take, Nat.min_self, word64]

theorem word32_take (octets : Octets) : word32 (octets.take 4) = word32 octets := by
  rw [word32, List.take_take, Nat.min_self, word32]

theorem getElem?_eq_octetAt {octets : Octets} {position : Nat}
    (hinside : position < octets.length) :
    octets[position]? = some (octetAt octets position) := by
  simp [octetAt, hinside]

/-- All octets of a body that are looked at are there. -/
theorem ofBodyWithin?_eq (kind : EventKind) (timestamp : UInt64) (body : Octets) :
    ofBodyWithin? kind timestamp body = some (ofBody kind timestamp body) := by
  unfold ofBodyWithin? ofBody
  by_cases hshort : body.length < kind.bodySize
  · rw [if_pos hshort, if_pos hshort]
  · rw [if_neg hshort, if_neg hshort]
    cases kind with
    | key | button =>
      have hsize : 5 ≤ body.length := Nat.not_lt.mp hshort
      simp only [slice?_eq (show 0 + 4 ≤ body.length by omega),
        getElem?_eq_octetAt (show 4 < body.length by omega), Option.bind_eq_bind,
        Option.bind_some, List.drop_zero, word32_take]
      cases Press.ofCode? (octetAt body 4) <;> rfl
    | motion =>
      have hsize : 16 ≤ body.length := Nat.not_lt.mp hshort
      simp only [slice?_eq (show 0 + 8 ≤ body.length by omega),
        slice?_eq (show 8 + 8 ≤ body.length by omega), Option.bind_eq_bind, Option.bind_some,
        List.drop_zero, word64_take]
    | scroll =>
      have hsize : 9 ≤ body.length := Nat.not_lt.mp hshort
      simp only [slice?_eq (show 1 + 8 ≤ body.length by omega),
        getElem?_eq_octetAt (show 0 < body.length by omega), Option.bind_eq_bind,
        Option.bind_some, word64_take]
      cases ScrollAxis.ofCode? (octetAt body 0) <;> rfl

/-- All octets of a payload that are looked at are there. -/
theorem decodeWithin?_eq (payload : Octets) : decodeWithin? payload = some (decode payload) := by
  cases payload with
  | nil => rfl
  | cons tag rest =>
    simp only [decodeWithin?, decode, List.isEmpty_cons, Bool.false_eq_true, if_false,
      List.getElem?_cons_zero, Option.bind_eq_bind, Option.bind_some]
    cases EventKind.ofTag? tag with
    | none => rfl
    | some kind =>
      by_cases hshort : (tag :: rest).length < headerSize
      · simp only [if_pos hshort]
      · have hsize : 9 ≤ (tag :: rest).length := Nat.not_lt.mp hshort
        have hbody : (rest.drop 8).take ((tag :: rest).length - headerSize) = rest.drop 8 := by
          apply List.take_of_length_le
          simp only [List.length_drop, List.length_cons, headerSize]
          omega
        have htail : headerSize + ((tag :: rest).length - headerSize) ≤ (tag :: rest).length := by
          simp only [headerSize]
          omega
        simp only [if_neg hshort, slice?_eq (show 1 + 8 ≤ (tag :: rest).length by omega),
          slice?_eq htail, Option.bind_some, List.drop_succ_cons, List.drop_zero, word64_take]
        rw [headerSize, List.drop_succ_cons]
        rw [headerSize] at hbody
        rw [hbody, ofBodyWithin?_eq]

/-! ### Bodies -/

/-- A payload with the given tag has a body that ends too early. -/
def BodyCut (tag : UInt8) (body : Octets) : Prop :=
  (tag = 1 ∨ tag = 3) ∧ body.length < 5 ∨ tag = 2 ∧ body.length < 16 ∨ tag = 4 ∧ body.length < 9

/-- A payload with the given tag has a body in which the octet for the press is neither one nor two,
or that for the axis neither zero nor one. -/
def FieldOutOfRange (tag : UInt8) (body : Octets) : Prop :=
  (tag = 1 ∨ tag = 3) ∧ (∃ octet, body[4]? = some octet ∧ octet ≠ 1 ∧ octet ≠ 2) ∨
    tag = 4 ∧ ∃ octet, body[0]? = some octet ∧ octet ≠ 0 ∧ octet ≠ 1

theorem bodyCut_iff {kind : EventKind} {body : Octets} :
    BodyCut kind.tag body ↔ body.length < kind.bodySize := by
  cases kind <;> simp [BodyCut, EventKind.tag, EventKind.bodySize]

/-- A body that is long enough is read as an event of its kind, unless an octet of it stands for
nothing. -/
theorem ofBody_cases {kind : EventKind} {body : Octets} (hsize : kind.bodySize ≤ body.length)
    (timestamp : UInt64) :
    (∃ event, ofBody kind timestamp body = .ok event ∧ event.kind? = some kind ∧
        ¬FieldOutOfRange kind.tag body) ∨
      ∃ error, ofBody kind timestamp body = .error error ∧ error.IsOutOfRange ∧
        FieldOutOfRange kind.tag body := by
  have hlong : ¬body.length < kind.bodySize := Nat.not_lt.mpr hsize
  have hpress (octet : UInt8) : Press.ofCode? octet = none ↔ octet ≠ 1 ∧ octet ≠ 2 := by
    unfold Press.ofCode?
    split <;> simp_all
  have haxis (octet : UInt8) : ScrollAxis.ofCode? octet = none ↔ octet ≠ 0 ∧ octet ≠ 1 := by
    unfold ScrollAxis.ofCode?
    split <;> simp_all
  unfold ofBody
  rw [if_neg hlong]
  cases kind with
  | key | button =>
    have hoctet := getElem?_eq_octetAt (show 4 < body.length from hsize)
    cases hread : Press.ofCode? (octetAt body 4) with
    | some press =>
      refine .inl ⟨_, rfl, rfl, ?_⟩
      simp [FieldOutOfRange, EventKind.tag, hoctet, ← hpress, hread]
    | none =>
      refine .inr ⟨_, rfl, trivial, ?_⟩
      simp [FieldOutOfRange, EventKind.tag, hoctet, ← hpress, hread]
  | motion => exact .inl ⟨_, rfl, rfl, by simp [FieldOutOfRange, EventKind.tag]⟩
  | scroll =>
    have hoctet := getElem?_eq_octetAt (show 0 < body.length from Nat.zero_lt_of_lt hsize)
    cases hread : ScrollAxis.ofCode? (octetAt body 0) with
    | some axis =>
      refine .inl ⟨_, rfl, rfl, ?_⟩
      simp [FieldOutOfRange, EventKind.tag, hoctet, ← haxis, hread]
    | none =>
      refine .inr ⟨_, rfl, trivial, ?_⟩
      simp [FieldOutOfRange, EventKind.tag, hoctet, ← haxis, hread]

/-- A body that is long enough fails for an octet that stands for nothing only. -/
theorem isOutOfRange_of_ofBody {kind : EventKind} {timestamp : UInt64} {body : Octets}
    {error : PayloadError} (hsize : kind.bodySize ≤ body.length)
    (hbody : ofBody kind timestamp body = .error error) : error.IsOutOfRange := by
  rcases ofBody_cases hsize timestamp with ⟨event, hevent, -⟩ | ⟨other, hother, hrange, -⟩
  · simp [hevent] at hbody
  · obtain rfl : other = error := by simpa [hother] using hbody
    exact hrange

theorem word64_append {octets : Octets} (hlength : 8 ≤ octets.length) (more : Octets) :
    word64 (octets ++ more) = word64 octets := by
  rw [word64, List.take_append_of_le_length hlength, word64]

theorem word32_append {octets : Octets} (hlength : 4 ≤ octets.length) (more : Octets) :
    word32 (octets ++ more) = word32 octets := by
  rw [word32, List.take_append_of_le_length hlength, word32]

theorem octetAt_append {octets : Octets} {position : Nat} (hinside : position < octets.length)
    (more : Octets) : octetAt (octets ++ more) position = octetAt octets position := by
  simp [octetAt, List.getElem?_append_left hinside]

/-- Octets behind a body do not matter. -/
theorem ofBody_append {kind : EventKind} {body : Octets} (hsize : kind.bodySize ≤ body.length)
    (timestamp : UInt64) (more : Octets) :
    ofBody kind timestamp (body ++ more) = ofBody kind timestamp body := by
  have hlong : ¬body.length < kind.bodySize := Nat.not_lt.mpr hsize
  have hlonger : ¬(body ++ more).length < kind.bodySize := by
    rw [List.length_append]
    omega
  unfold ofBody
  rw [if_neg hlong, if_neg hlonger]
  cases kind with
  | key | button =>
    have hsize : 5 ≤ body.length := hsize
    simp only [word32_append (show 4 ≤ body.length by omega),
      octetAt_append (show 4 < body.length by omega)]
  | motion =>
    have hsize : 16 ≤ body.length := hsize
    have hsecond : 8 ≤ (body.drop 8).length := by
      rw [List.length_drop]
      omega
    simp only [List.drop_append_of_le_length (show 8 ≤ body.length by omega),
      word64_append (show 8 ≤ body.length by omega), word64_append hsecond]
  | scroll =>
    have hsize : 9 ≤ body.length := hsize
    have hvalue : 8 ≤ (body.drop 1).length := by
      rw [List.length_drop]
      omega
    simp only [List.drop_append_of_le_length (show 1 ≤ body.length by omega),
      octetAt_append (show 0 < body.length by omega), word64_append hvalue]

/-! ### Payloads -/

/-- What reading a payload comes to. -/
inductive ReadOutcome : Octets → Except PayloadError InputEvent → Prop
  /-- There is nothing to read. -/
  | empty : ReadOutcome [] (.error (.tooShort headerSize 0))
  /-- The tag is unknown. -/
  | unknown {tag : UInt8} (htag : EventKind.ofTag? tag = none) (rest : Octets) :
      ReadOutcome (tag :: rest) (.ok (.unknown tag))
  /-- Octets of the timestamp are missing. -/
  | headerCut (kind : EventKind) {rest : Octets} (hcut : rest.length < 8) :
      ReadOutcome (kind.tag :: rest) (.error (.tooShort headerSize (kind.tag :: rest).length))
  /-- Octets of the body are missing. -/
  | bodyCut {kind : EventKind} {rest : Octets} (hheader : 8 ≤ rest.length)
      (hcut : (rest.drop 8).length < kind.bodySize) :
      ReadOutcome (kind.tag :: rest) (.error (.bodyTooShort kind (rest.drop 8).length))
  /-- The body is read. -/
  | bodyRead {kind : EventKind} {rest : Octets} {answer : Except PayloadError InputEvent}
      (hheader : 8 ≤ rest.length) (hsize : kind.bodySize ≤ (rest.drop 8).length)
      (hbody : ofBody kind (word64 rest) (rest.drop 8) = answer) :
      ReadOutcome (kind.tag :: rest) answer

theorem decode_cons_of_unknown {tag : UInt8} (htag : EventKind.ofTag? tag = none) (rest : Octets) :
    decode (tag :: rest) = .ok (.unknown tag) := by
  simp only [decode, htag]

theorem decode_tag_cons (kind : EventKind) (rest : Octets) :
    decode (kind.tag :: rest) =
      if rest.length < 8 then .error (.tooShort headerSize (rest.length + 1))
      else ofBody kind (word64 rest) (rest.drop 8) := by
  have hknown : EventKind.ofTag? kind.tag = some kind := EventKind.ofTag?_eq_some_iff.mpr rfl
  have hshort : (kind.tag :: rest).length < headerSize ↔ rest.length < 8 := by
    rw [List.length_cons, headerSize]
    omega
  simp only [decode, hknown, hshort]
  rfl

/-- Reading comes to one of its outcomes, and to no other. -/
theorem decode_eq_iff {payload : Octets} {answer : Except PayloadError InputEvent} :
    decode payload = answer ↔ ReadOutcome payload answer := by
  constructor
  · rintro rfl
    cases payload with
    | nil => exact .empty
    | cons tag rest =>
      cases htag : EventKind.ofTag? tag with
      | none =>
        rw [decode_cons_of_unknown htag]
        exact .unknown htag rest
      | some kind =>
        obtain rfl := EventKind.ofTag?_eq_some_iff.mp htag
        rw [decode_tag_cons]
        split
        · next hcut => exact .headerCut kind hcut
        · next hheader =>
          by_cases hcut : (rest.drop 8).length < kind.bodySize
          · rw [ofBody.eq_def, if_pos hcut]
            exact .bodyCut (Nat.not_lt.mp hheader) hcut
          · exact .bodyRead (Nat.not_lt.mp hheader) (Nat.not_lt.mp hcut) rfl
  · intro houtcome
    cases houtcome with
    | empty => rfl
    | unknown htag rest => exact decode_cons_of_unknown htag rest
    | headerCut kind hcut => rw [decode_tag_cons, if_pos hcut]; rfl
    | bodyCut hheader hcut =>
      rw [decode_tag_cons, if_neg (Nat.not_lt.mpr hheader), ofBody.eq_def, if_pos hcut]
    | bodyRead hheader hsize hbody =>
      rw [decode_tag_cons, if_neg (Nat.not_lt.mpr hheader), hbody]

/-- What is behind the body that a payload begins with does not matter. -/
theorem decode_append_of_body {kind : EventKind} {rest : Octets} (hheader : 8 ≤ rest.length)
    (hsize : kind.bodySize ≤ (rest.drop 8).length) (more : Octets) :
    decode (kind.tag :: rest ++ more) = decode (kind.tag :: rest) := by
  have hlonger : ¬(rest ++ more).length < 8 := by
    rw [List.length_append]
    omega
  rw [List.cons_append, decode_tag_cons, decode_tag_cons, if_neg hlonger,
    if_neg (Nat.not_lt.mpr hheader), List.drop_append_of_le_length hheader,
    word64_append hheader, ofBody_append hsize]

/-- Octets added to a payload that is read as an event leave it that event. -/
theorem decode_append_of_ok {payload : Octets} {event : InputEvent}
    (hdecode : decode payload = .ok event) (more : Octets) :
    decode (payload ++ more) = .ok event := by
  cases decode_eq_iff.mp hdecode with
  | unknown htag rest => exact decode_cons_of_unknown htag (rest ++ more)
  | bodyRead hheader hsize hbody => rw [decode_append_of_body hheader hsize, hdecode]

/-- Octets added to a payload with an octet that stands for nothing leave it the same failure. -/
theorem decode_append_of_outOfRange {payload : Octets} {error : PayloadError}
    (hdecode : decode payload = .error error) (herror : error.IsOutOfRange) (more : Octets) :
    decode (payload ++ more) = .error error := by
  cases decode_eq_iff.mp hdecode with
  | empty => exact herror.elim
  | headerCut kind hcut => exact herror.elim
  | bodyCut hheader hcut => exact herror.elim
  | bodyRead hheader hsize hbody => rw [decode_append_of_body hheader hsize, hdecode]

/-! ### Conditions on the octets -/

/-- A payload begins with a known tag. -/
def TagKnown (payload : Octets) : Prop :=
  ∃ tag, payload.head? = some tag ∧ 1 ≤ tag ∧ tag ≤ 4

/-- A payload with a known tag and a whole timestamp, and what is behind them. -/
def Headed (payload : Octets) (tag : UInt8) (body : Octets) : Prop :=
  payload.head? = some tag ∧ (1 ≤ tag ∧ tag ≤ 4) ∧ 9 ≤ payload.length ∧ payload.drop 9 = body

theorem tagKnown_tag_cons (kind : EventKind) (rest : Octets) : TagKnown (kind.tag :: rest) :=
  ⟨kind.tag, rfl, EventKind.exists_tag_eq_iff.mp ⟨kind, rfl⟩⟩

theorem TagKnown.exists_kind {payload : Octets} (hknown : TagKnown payload) :
    ∃ (kind : EventKind) (rest : Octets), payload = kind.tag :: rest := by
  obtain ⟨tag, htag, hrange⟩ := hknown
  obtain ⟨kind, rfl⟩ := EventKind.exists_tag_eq_iff.mpr hrange
  obtain ⟨rest, rfl⟩ := List.head?_eq_some_iff.mp htag
  exact ⟨kind, rest, rfl⟩

/-- A payload is read as an unknown event exactly if its first octet is a tag of no kind. -/
theorem decode_eq_unknown_iff {payload : Octets} {tag : UInt8} :
    decode payload = .ok (.unknown tag) ↔ payload.head? = some tag ∧ ¬(1 ≤ tag ∧ tag ≤ 4) := by
  constructor
  · intro hdecode
    cases decode_eq_iff.mp hdecode with
    | unknown htag rest => exact ⟨rfl, EventKind.ofTag?_eq_none_iff.mp htag⟩
    | bodyRead hheader hsize hbody =>
      have hkind := (kind?_of_ofBody hbody).1
      simp [kind?] at hkind
  · rintro ⟨hhead, htag⟩
    obtain ⟨rest, rfl⟩ := List.head?_eq_some_iff.mp hhead
    exact decode_cons_of_unknown (EventKind.ofTag?_eq_none_iff.mpr htag) rest

/-- A payload has no room for a tag and a timestamp exactly if it is empty, or its tag is known and
it has fewer than nine octets; and this is what the failure says. -/
theorem decode_eq_tooShort_iff {payload : Octets} {needed available : Nat} :
    decode payload = .error (.tooShort needed available) ↔
      needed = 9 ∧ available = payload.length ∧
        (payload = [] ∨ TagKnown payload ∧ payload.length < 9) := by
  constructor
  · intro hdecode
    cases decode_eq_iff.mp hdecode with
    | empty => exact ⟨rfl, rfl, .inl rfl⟩
    | headerCut kind hcut =>
      refine ⟨rfl, rfl, .inr ⟨tagKnown_tag_cons kind _, ?_⟩⟩
      rw [List.length_cons]
      omega
    | bodyRead hheader hsize hbody => exact (isOutOfRange_of_ofBody hsize hbody).elim
  · rintro ⟨rfl, rfl, rfl | ⟨hknown, hshort⟩⟩
    · rfl
    · obtain ⟨kind, rest, rfl⟩ := hknown.exists_kind
      rw [List.length_cons] at hshort
      exact decode_eq_iff.mpr (.headerCut kind (by omega))

/-- What becomes of a payload with a known tag and a whole timestamp. -/
theorem Headed.decode_cases {payload body : Octets} {tag : UInt8}
    (hheaded : Headed payload tag body) :
    (∃ error, decode payload = .error error ∧ error.IsMalformed ∧
        (BodyCut tag body ∨ FieldOutOfRange tag body)) ∨
      ∃ event, decode payload = .ok event ∧ (∀ other, event ≠ .unknown other) ∧
        ¬(BodyCut tag body ∨ FieldOutOfRange tag body) := by
  obtain ⟨hhead, hrange, hlength, rfl⟩ := hheaded
  obtain ⟨kind, rfl⟩ := EventKind.exists_tag_eq_iff.mpr hrange
  obtain ⟨rest, rfl⟩ := List.head?_eq_some_iff.mp hhead
  have hheader : 8 ≤ rest.length := Nat.le_of_succ_le_succ hlength
  rw [List.drop_succ_cons, bodyCut_iff]
  by_cases hcut : (rest.drop 8).length < kind.bodySize
  · exact .inl ⟨_, decode_eq_iff.mpr (.bodyCut hheader hcut), trivial, .inl hcut⟩
  · have hsize := Nat.not_lt.mp hcut
    have hread := decode_eq_iff.mpr (.bodyRead hheader hsize rfl)
    rcases ofBody_cases hsize (word64 rest) with
      ⟨event, hbody, hkind, hsound⟩ | ⟨error, hbody, herror, hfault⟩
    · refine .inr ⟨event, hread.trans hbody, ?_, not_or.mpr ⟨hcut, hsound⟩⟩
      rintro other rfl
      simp [kind?] at hkind
    · exact .inl ⟨error, hread.trans hbody, herror.isMalformed, .inr hfault⟩

/-- A malformed payload and a known event both have a known tag and a whole timestamp. -/
theorem exists_headed {payload : Octets} {answer : Except PayloadError InputEvent}
    (hdecode : decode payload = answer)
    (hanswer : (∃ error, answer = .error error ∧ error.IsMalformed) ∨
      ∃ event, answer = .ok event ∧ ∀ tag, event ≠ .unknown tag) :
    ∃ tag body, Headed payload tag body := by
  have hheaded (kind : EventKind) (rest : Octets) (hheader : 8 ≤ rest.length) :
      ∃ tag body, Headed (kind.tag :: rest) tag body := by
    refine ⟨kind.tag, _, rfl, EventKind.exists_tag_eq_iff.mp ⟨kind, rfl⟩, ?_, rfl⟩
    rw [List.length_cons]
    omega
  cases decode_eq_iff.mp hdecode with
  | empty => simp [PayloadError.IsMalformed] at hanswer
  | unknown htag rest => simp at hanswer
  | headerCut kind hcut => simp [PayloadError.IsMalformed] at hanswer
  | bodyCut hheader hcut => exact hheaded _ _ hheader
  | bodyRead hheader hsize hbody => exact hheaded _ _ hheader

/-- Every payload is read as something, and no octet is looked at that is not there. A payload is

* an unknown event exactly if its first octet is not a tag from one to four, whatever its length,
* too short exactly if it is empty, or its tag is known and it has fewer than nine octets, and then
  nine are needed and as many as it has are there,
* malformed exactly if its tag is known, it has nine octets, and the body behind them is shorter
  than its kind asks for or has an octet for a press or an axis that is out of range,
* a known event exactly if its tag is known, it has nine octets, and the body is neither.

Octets that are added leave an event what it is, and also a failure for an octet out of range. -/
theorem payload_classified (payload : Octets) :
    decodeWithin? payload = some (decode payload) ∧
    (∀ tag, decode payload = .ok (.unknown tag) ↔
      payload.head? = some tag ∧ ¬(1 ≤ tag ∧ tag ≤ 4)) ∧
    (∀ needed available, decode payload = .error (.tooShort needed available) ↔
      needed = 9 ∧ available = payload.length ∧
        (payload = [] ∨ TagKnown payload ∧ payload.length < 9)) ∧
    ((∃ error, decode payload = .error error ∧ error.IsMalformed) ↔
      ∃ tag body, Headed payload tag body ∧ (BodyCut tag body ∨ FieldOutOfRange tag body)) ∧
    ((∃ event, decode payload = .ok event ∧ ∀ tag, event ≠ .unknown tag) ↔
      ∃ tag body, Headed payload tag body ∧ ¬(BodyCut tag body ∨ FieldOutOfRange tag body)) ∧
    (∀ tag, decode payload ≠ .error (.unencodable tag)) ∧
    (∀ event, decode payload = .ok event → ∀ more, decode (payload ++ more) = .ok event) ∧
    ∀ error, decode payload = .error error → error.IsOutOfRange →
      ∀ more, decode (payload ++ more) = .error error := by
  refine ⟨decodeWithin?_eq payload, fun tag ↦ decode_eq_unknown_iff,
    fun needed available ↦ decode_eq_tooShort_iff, ⟨?_, ?_⟩, ⟨?_, ?_⟩, ?_,
    fun event ↦ decode_append_of_ok, fun error ↦ decode_append_of_outOfRange⟩
  · rintro ⟨error, hdecode, herror⟩
    obtain ⟨tag, body, hheaded⟩ := exists_headed hdecode (.inl ⟨error, rfl, herror⟩)
    refine ⟨tag, body, hheaded, ?_⟩
    rcases hheaded.decode_cases with ⟨-, -, -, hfault⟩ | ⟨event, hevent, -⟩
    · exact hfault
    · simp [hdecode] at hevent
  · rintro ⟨tag, body, hheaded, hfault⟩
    rcases hheaded.decode_cases with ⟨error, hdecode, herror, -⟩ | ⟨-, -, -, hsound⟩
    · exact ⟨error, hdecode, herror⟩
    · exact absurd hfault hsound
  · rintro ⟨event, hdecode, hevent⟩
    obtain ⟨tag, body, hheaded⟩ := exists_headed hdecode (.inr ⟨event, rfl, hevent⟩)
    refine ⟨tag, body, hheaded, ?_⟩
    rcases hheaded.decode_cases with ⟨error, herror, -⟩ | ⟨-, -, -, hsound⟩
    · simp [hdecode] at herror
    · exact hsound
  · rintro ⟨tag, body, hheaded, hsound⟩
    rcases hheaded.decode_cases with ⟨-, -, -, hfault⟩ | ⟨event, hdecode, hevent, -⟩
    · exact absurd hfault hsound
    · exact ⟨event, hdecode, hevent⟩
  · intro tag hdecode
    cases decode_eq_iff.mp hdecode with
    | bodyRead hheader hsize hbody => exact (isOutOfRange_of_ofBody hsize hbody).elim

end InputEvent

end HeadlessDisplay
