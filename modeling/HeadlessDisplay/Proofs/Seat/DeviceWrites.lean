import HeadlessDisplay.Seat.Uinput
import Mathlib.Data.List.Basic

/-!
# What a virtual device is handed

A virtual device reports what it was registered with, and the kernel drops every other event of a
write without saying so. Each write that is handed to the device is closed by the one report in it,
and its other events are registered exactly if the event behind it has a registered code
(`Passage.Lawful`). Wheels and axes always have one. Of keys and buttons the sink checks only that
the code has sixteen bits, and those that pass without being registered are written and count as
delivered (`unregistered_key_is_delivered`).

`UinputSink.deliver_eq` takes a call apart: the sink composes a write or refuses the call, and
only then the kernel is asked. So the write that was handed over is known where the kernel refused
it, too. A run is read event by event (`UinputSink.passages`), and whatever the kernel answers, what
is on the device in the end is what it took on the way.

Whether a registered event has an effect on the reader of the device is not said here.
-/

set_option autoImplicit false
set_option relaxedAutoImplicit false

namespace HeadlessDisplay

/-- Rounding into an interval from zero on gives a number from zero on. -/
theorem Binary64.roundInto_nonneg {high : Int} (hhigh : 0 ≤ high) (x : Binary64) :
    0 ≤ x.roundInto 0 high := by
  unfold roundInto
  split
  · exact Int.le_refl 0
  · split
    · exact Int.le_refl 0
    · exact hhigh
  · exact Int.le_max_left 0 _

/-! ### Writes -/

/-- The device was registered with the type and the code of the event. -/
def Capabilities.Registers (capabilities : Capabilities) (event : KernelEvent) : Prop :=
  event.type = 1 ∧ event.code ∈ capabilities.keys ∨
    event.type = 2 ∧ event.code ∈ capabilities.wheels ∨
    event.type = 3 ∧ event.code ∈ capabilities.axes.map (·.code)

/-- The value of the event is a signed word of 32 bits. -/
def KernelEvent.HasWord (event : KernelEvent) : Prop :=
  Binary64.minInt32 ≤ event.value ∧ event.value ≤ Binary64.maxInt32

/-- There are events, the last one is a report, and no other is of its type. -/
def ClosedByReport (write : List KernelEvent) : Prop :=
  ∃ events, write = events ++ [.report] ∧ events ≠ [] ∧ ∀ event ∈ events, event.type ≠ 0

/-! ### Events -/

namespace InputEvent

/-- The code of a key or button is one that devices are registered with. -/
def CodeRegistered : InputEvent → Prop
  | .key _ code _ | .button _ code _ => 1 ≤ code.toNat ∧ code.toNat ≤ UinputSink.maxKeyCode
  | .motion .. | .scroll .. | .unknown _ => True

/-- The event is a scroll of less than one step. -/
def IsStill : InputEvent → Prop
  | .scroll _ _ steps => steps.toInt32 = 0
  | .key .. | .motion .. | .button .. | .unknown _ => False

/-- The steps of a scroll can be turned round within 32 bits. -/
def Turns : InputEvent → Prop
  | .scroll _ _ steps => steps.toInt32 ≠ Int32.minValue
  | .key .. | .motion .. | .button .. | .unknown _ => True

end InputEvent

/-- What came of one event at the device. -/
structure Passage where
  event : InputEvent
  answer : Except InjectionError Injection
  /-- The write that the device was handed, whether or not the kernel took it. -/
  handed : Option (List KernelEvent)
  /-- The writes that are on the device since. -/
  taken : List (List KernelEvent)

/-- The event went to a device of these capabilities as it should, but for its code. -/
structure Passage.Lawful (capabilities : Capabilities) (passage : Passage) : Prop where
  closed : ∀ write, passage.handed = some write → ClosedByReport write
  words : ∀ write, passage.handed = some write → ∀ event ∈ write, event.HasWord
  /-- The other events are registered exactly if the code is. -/
  registered_iff : ∀ write, passage.handed = some write →
    ((∀ event ∈ write, event = .report ∨ capabilities.Registers event) ↔
      passage.event.CodeRegistered)
  /-- The kernel takes what it is handed or nothing. -/
  taken_eq : passage.taken = [] ∨ passage.taken = passage.handed.toList
  delivered_iff : passage.answer = .ok .delivered ↔
    (∃ write, passage.handed = some write ∧ passage.taken = [write]) ∨ passage.event.IsStill
  handed_of_still : passage.event.IsStill → passage.handed = none
  taken_of_error : ∀ error, passage.answer = .error error → passage.taken = []
  ignored_iff : ∀ tag, passage.answer = .ok (.ignored tag) ↔ passage.event = .unknown tag
  handed_of_ignored : ∀ tag, passage.answer = .ok (.ignored tag) → passage.handed = none

namespace UinputSink

/-! ### Composing writes -/

/-- The events that a call comes to before the kernel is asked; a scroll of less than one step comes
to none. -/
def composed (sink : UinputSink) : SeatCall → Except InjectionError (List KernelEvent)
  | .key _ code press =>
    if code.toNat < codeBound then .ok [.key code.toNat press]
    else .error (.sink s!"key code {code} out of range")
  | .motion _ x y =>
    .ok [.position 0 (coordinate x sink.width), .position 1 (coordinate y sink.height)]
  | .button _ code press =>
    if code.toNat < codeBound then .ok [.key code.toNat press]
    else .error (.sink s!"button code {code} out of range")
  | .axis _ motion =>
    if motion.discrete = 0 then .ok []
    else .ok [.wheel (wheelCode motion.axis) (-motion.discrete.toInt)]

/-- A call is composed first. -/
theorem deliver_eq (sink : UinputSink) (call : SeatCall) :
    sink.deliver call =
      match sink.composed call with
      | .error error => (.error error, sink)
      | .ok [] => (.ok (), sink)
      | .ok events => sink.emit events := by
  cases call <;> simp only [deliver, composed]
  case key => split <;> rfl
  case button => split <;> rfl
  case axis => split <;> rfl

/-- The write that a call hands to the device, if any. -/
def handed (sink : UinputSink) (call : SeatCall) : Option (List KernelEvent) :=
  match sink.composed call with
  | .ok (first :: others) => some (first :: others ++ [.report])
  | .ok [] | .error _ => none

/-- The pointer buttons are among the keyboard codes. -/
theorem mem_registeredKeys {code : Nat} :
    code ∈ registeredKeys ↔ 1 ≤ code ∧ code ≤ maxKeyCode := by
  simp only [registeredKeys, maxKeyCode, List.mem_append, List.mem_filter, List.mem_range'_1]
  simp
  omega

theorem registers_key_iff {width height : UInt32} {code : Nat} {press : Press} :
    (capabilitiesFor width height).Registers (.key code press) ↔
      1 ≤ code ∧ code ≤ maxKeyCode := by
  simp [Capabilities.Registers, KernelEvent.key, capabilitiesFor, mem_registeredKeys]

theorem registers_wheel {width height : UInt32} (axis : ScrollAxis) (steps : Int) :
    (capabilitiesFor width height).Registers (.wheel (wheelCode axis) steps) := by
  cases axis <;> simp [Capabilities.Registers, KernelEvent.wheel, capabilitiesFor, wheelCode]

theorem registers_position {width height : UInt32} {axis : Nat} (haxis : axis < 2) (value : Int) :
    (capabilitiesFor width height).Registers (.position axis value) := by
  have hcode : axis = 0 ∨ axis = 1 := by omega
  simpa [Capabilities.Registers, KernelEvent.position, capabilitiesFor, axisSetup] using hcode

theorem hasWord_key (code : Nat) (press : Press) : (KernelEvent.key code press).HasWord := by
  cases press <;> simp [KernelEvent.HasWord, KernelEvent.key, Binary64.minInt32, Binary64.maxInt32]

theorem hasWord_position (axis : Nat) (value : Binary64) (extent : UInt32) :
    (KernelEvent.position axis (coordinate value extent)).HasWord := by
  have hextent : 0 ≤ lastCoordinate extent := Int.natCast_nonneg _
  have hwithin := Binary64.roundInto_nonneg hextent value
  simp only [KernelEvent.HasWord, KernelEvent.position, coordinate, Binary64.minInt32,
    Binary64.maxInt32]
  omega

theorem hasWord_wheel (code : Nat) {steps : Int32} (hsteps : steps ≠ Int32.minValue) :
    (KernelEvent.wheel code (-steps.toInt)).HasWord := by
  have hleast : steps.toInt ≠ -2147483648 := fun hsame ↦ hsteps (Int32.toInt_inj.mp hsame)
  have hlow : -2147483648 ≤ steps.toInt := steps.minValue_le_toInt
  have hhigh : steps.toInt ≤ 2147483647 := steps.toInt_le
  simp only [KernelEvent.HasWord, KernelEvent.wheel, Binary64.minInt32, Binary64.maxInt32]
  omega

/-- The events that an event of a session is composed as. -/
structure Composition (event : InputEvent) (capabilities : Capabilities)
    (events : List KernelEvent) : Prop where
  eq_nil_iff : events = [] ↔ event.IsStill
  no_report : ∀ written ∈ events, written.type ≠ 0
  words : event.Turns → ∀ written ∈ events, written.HasWord
  registered_iff : (∀ written ∈ events, capabilities.Registers written) ↔ event.CodeRegistered

variable {sink : UinputSink} {event : InputEvent} {call : SeatCall}

theorem composition_key {width height code : UInt32} {press : Press} (hmoves : ¬event.IsStill)
    (hcode : event.CodeRegistered ↔ 1 ≤ code.toNat ∧ code.toNat ≤ maxKeyCode) :
    Composition event (capabilitiesFor width height) [.key code.toNat press] where
  eq_nil_iff := by simpa using hmoves
  no_report := by simp [KernelEvent.key]
  words := by simp [hasWord_key]
  registered_iff := by simp [registers_key_iff, hcode]

theorem composition_wheel {width height : UInt32} {timestamp : UInt64} {axis : ScrollAxis}
    {steps : Binary64} (hmoves : steps.toInt32 ≠ 0) :
    Composition (.scroll timestamp axis steps) (capabilitiesFor width height)
      [.wheel (wheelCode axis) (-steps.toInt32.toInt)] where
  eq_nil_iff := iff_of_false (by simp) hmoves
  no_report := by simp [KernelEvent.wheel]
  words := by
    intro hturns written hwritten
    obtain rfl := List.mem_singleton.mp hwritten
    exact hasWord_wheel _ hturns
  registered_iff := by simp [registers_wheel, InputEvent.CodeRegistered]

/-- What is composed for an event is as it should be, but for its code. -/
theorem composition (width height : UInt32) {events : List KernelEvent}
    (hcall : event.seatCall = .ok call) (hcomposed : sink.composed call = .ok events) :
    Composition event (capabilitiesFor width height) events := by
  cases event with
  | key timestamp code press | button timestamp code press =>
    obtain rfl := Except.ok.inj hcall
    simp only [composed] at hcomposed
    split at hcomposed
    · obtain rfl := Except.ok.inj hcomposed
      exact composition_key id Iff.rfl
    · simp at hcomposed
  | motion timestamp x y =>
    obtain rfl := Except.ok.inj hcall
    obtain rfl := Except.ok.inj hcomposed
    exact
      { eq_nil_iff := by simp [InputEvent.IsStill]
        no_report := by simp [KernelEvent.position]
        words := by simp [hasWord_position]
        registered_iff := by simp [registers_position, InputEvent.CodeRegistered] }
  | scroll timestamp axis steps =>
    obtain rfl := Except.ok.inj hcall
    simp only [composed] at hcomposed
    split at hcomposed
    · next hstill =>
      obtain rfl := Except.ok.inj hcomposed
      exact
        { eq_nil_iff := iff_of_true rfl hstill
          no_report := by simp
          words := by simp
          registered_iff := by simp [InputEvent.CodeRegistered] }
    · next hmoves =>
      obtain rfl := Except.ok.inj hcomposed
      exact composition_wheel hmoves
  | unknown tag => simp [InputEvent.seatCall] at hcall

/-- A call that is refused is no scroll. -/
theorem not_isStill_of_refused {error : InjectionError} (hcall : event.seatCall = .ok call)
    (hcomposed : sink.composed call = .error error) : ¬event.IsStill := by
  cases event with
  | scroll timestamp axis steps =>
    obtain rfl := Except.ok.inj hcall
    simp only [composed] at hcomposed
    split at hcomposed <;> simp at hcomposed
  | key | motion | button | unknown => exact id

namespace Composition

variable {capabilities : Capabilities} {events : List KernelEvent}

theorem closedByReport (hcomposition : Composition event capabilities events)
    (hsome : events ≠ []) : ClosedByReport (events ++ [.report]) :=
  ⟨events, rfl, hsome, hcomposition.no_report⟩

theorem words_closed (hcomposition : Composition event capabilities events)
    (hturns : event.Turns) : ∀ written ∈ events ++ [.report], written.HasWord := by
  intro written hwritten
  rcases List.mem_append.mp hwritten with hevent | hreport
  · exact hcomposition.words hturns written hevent
  · obtain rfl := List.mem_singleton.mp hreport
    exact ⟨by decide, by decide⟩

/-- The report does not make a difference: no composed event is one. -/
theorem registered_closed_iff (hcomposition : Composition event capabilities events) :
    (∀ written ∈ events ++ [.report], written = .report ∨ capabilities.Registers written) ↔
      event.CodeRegistered := by
  rw [← hcomposition.registered_iff]
  constructor
  · intro hall written hwritten
    refine (hall written (List.mem_append_left _ hwritten)).resolve_left ?_
    rintro rfl
    exact hcomposition.no_report _ hwritten rfl
  · intro hall written hwritten
    rcases List.mem_append.mp hwritten with hevent | hreport
    · exact .inr (hall written hevent)
    · exact .inl (List.mem_singleton.mp hreport)

/-- An event for which a write was handed over went as it should, if the kernel took the write
exactly when the event was delivered. -/
theorem lawful {answer : Except InjectionError Injection} {taken : List (List KernelEvent)}
    (hcomposition : Composition event capabilities events) (hsome : events ≠ [])
    (hturns : event.Turns) (hknown : ∀ tag, event ≠ .unknown tag)
    (hanswered : answer = .ok .delivered ∧ taken = [events ++ [.report]] ∨
      ∃ error, answer = .error error ∧ taken = []) :
    (Passage.mk event answer (some (events ++ [.report])) taken).Lawful capabilities := by
  have hmoves : ¬event.IsStill := mt hcomposition.eq_nil_iff.mpr hsome
  have hof {property : List KernelEvent → Prop} (hholds : property (events ++ [.report])) :
      ∀ write, some (events ++ [.report]) = some write → property write := by
    rintro write ⟨⟩
    exact hholds
  refine
    { closed := hof (hcomposition.closedByReport hsome)
      words := hof (hcomposition.words_closed hturns)
      registered_iff := hof hcomposition.registered_closed_iff
      handed_of_still := fun hstill ↦ absurd hstill hmoves
      taken_eq := ?_, delivered_iff := ?_, taken_of_error := ?_, ignored_iff := ?_
      handed_of_ignored := ?_ }
  all_goals obtain ⟨rfl, rfl⟩ | ⟨error, rfl, rfl⟩ := hanswered <;> simp [hmoves, hknown]

end Composition

/-- An event for which nothing was handed over went as it should, if it was delivered exactly when
there was nothing to write. -/
theorem lawful_of_none {answer : Except InjectionError Injection} (capabilities : Capabilities)
    (hdelivered : answer = .ok .delivered ↔ event.IsStill)
    (hignored : ∀ tag, answer = .ok (.ignored tag) ↔ event = .unknown tag) :
    (Passage.mk event answer none []).Lawful capabilities where
  closed := nofun
  words := nofun
  registered_iff := nofun
  taken_eq := .inl rfl
  delivered_iff := by simpa using hdelivered
  handed_of_still := fun _ ↦ rfl
  taken_of_error := fun _ _ ↦ rfl
  ignored_iff := hignored
  handed_of_ignored := fun _ _ ↦ rfl

/-! ### One event -/

/-- What comes of an event. -/
def passage (sink : UinputSink) (event : InputEvent) : Passage where
  event
  answer := (inject sink event).1
  handed :=
    match event.seatCall with
    | .ok call => sink.handed call
    | .error _ => none
  taken := (inject sink event).2.writes.drop sink.writes.length

/-- The ways an event can go, with the device after it. -/
inductive PassageOutcome (sink : UinputSink) (event : InputEvent) : Passage → UinputSink → Prop
  | ignored {tag : UInt8} (hevent : event = .unknown tag) :
    PassageOutcome sink event ⟨event, .ok (.ignored tag), none, []⟩ sink
  | outOfRange {call : SeatCall} {error : InjectionError} (hcall : event.seatCall = .ok call)
      (hcomposed : sink.composed call = .error error) :
    PassageOutcome sink event ⟨event, .error error, none, []⟩ sink
  | still {call : SeatCall} (hcall : event.seatCall = .ok call)
      (hcomposed : sink.composed call = .ok []) :
    PassageOutcome sink event ⟨event, .ok .delivered, none, []⟩ sink
  | refused {call : SeatCall} {first : KernelEvent} {others : List KernelEvent} {reason : String}
      (hcall : event.seatCall = .ok call) (hcomposed : sink.composed call = .ok (first :: others))
      (hfails : sink.writeFailure sink.attempts = some reason) :
    PassageOutcome sink event
      ⟨event, .error (.sink reason), some (first :: others ++ [.report]), []⟩
      { sink with attempts := sink.attempts + 1 }
  | taken {call : SeatCall} {first : KernelEvent} {others : List KernelEvent}
      (hcall : event.seatCall = .ok call) (hcomposed : sink.composed call = .ok (first :: others))
      (htakes : sink.writeFailure sink.attempts = none) :
    PassageOutcome sink event
      ⟨event, .ok .delivered, some (first :: others ++ [.report]), [first :: others ++ [.report]]⟩
      { sink with
        attempts := sink.attempts + 1
        writes := sink.writes ++ [first :: others ++ [.report]] }

/-- Every event goes in one of these ways. -/
theorem passageOutcome (sink : UinputSink) (event : InputEvent) :
    PassageOutcome sink event (sink.passage event) (inject sink event).2 := by
  cases hcall : event.seatCall with
  | error tag =>
    have hevent : event = .unknown tag := by
      cases event <;> simp_all [InputEvent.seatCall]
    have hinject : inject sink event = (.ok (.ignored tag), sink) := by simp only [inject, hcall]
    simp only [passage, hcall, hinject, List.drop_length]
    exact .ignored hevent
  | ok call =>
    cases hcomposed : sink.composed call with
    | error error =>
      have hinject : inject sink event = (.error error, sink) := by
        simp only [inject, hcall, InputSink.deliver, deliver_eq, hcomposed]
      simp only [passage, hcall, handed, hcomposed, hinject, List.drop_length]
      exact .outOfRange hcall hcomposed
    | ok events =>
      cases events with
      | nil =>
        have hinject : inject sink event = (.ok .delivered, sink) := by
          simp only [inject, hcall, InputSink.deliver, deliver_eq, hcomposed]
        simp only [passage, hcall, handed, hcomposed, hinject, List.drop_length]
        exact .still hcall hcomposed
      | cons first others =>
        cases hfails : sink.writeFailure sink.attempts with
        | some reason =>
          have hinject : inject sink event =
              (.error (.sink reason), { sink with attempts := sink.attempts + 1 }) := by
            simp only [inject, hcall, InputSink.deliver, deliver_eq, hcomposed, emit, hfails]
          simp only [passage, hcall, handed, hcomposed, hinject, List.drop_length]
          exact .refused hcall hcomposed hfails
        | none =>
          have hinject : inject sink event = (.ok .delivered,
              { sink with
                attempts := sink.attempts + 1
                writes := sink.writes ++ [first :: others ++ [.report]] }) := by
            simp only [inject, hcall, InputSink.deliver, deliver_eq, hcomposed, emit, hfails]
          simp only [passage, hcall, handed, hcomposed, hinject, List.drop_left]
          exact .taken hcall hcomposed hfails

namespace PassageOutcome

variable {after : UinputSink} {passage : Passage}

/-- What is on the device after an event is what was there, and what the kernel took of it. -/
theorem device_eq (houtcome : PassageOutcome sink event passage after) :
    after.writes = sink.writes ++ passage.taken ∧
      after.attempts = sink.attempts + [passage].countP (·.handed.isSome) ∧
      after.capabilities = sink.capabilities := by
  cases houtcome <;> simp

/-- However an event goes at a device that was registered for an output, it goes as it should. -/
theorem lawful {width height : UInt32} (houtcome : PassageOutcome sink event passage after)
    (hregistered : sink.capabilities = capabilitiesFor width height) (hturns : event.Turns) :
    passage.Lawful sink.capabilities := by
  rw [hregistered]
  have hknown {call : SeatCall} (hcall : event.seatCall = .ok call) (tag : UInt8) :
      event ≠ .unknown tag := by
    rintro rfl
    simp [InputEvent.seatCall] at hcall
  cases houtcome with
  | ignored hevent =>
    subst hevent
    exact lawful_of_none _ (by simp [InputEvent.IsStill]) (by simp)
  | outOfRange hcall hcomposed =>
    exact lawful_of_none _ (by simpa using not_isStill_of_refused hcall hcomposed)
      (by simpa using hknown hcall)
  | still hcall hcomposed =>
    have hstill := (composition width height hcall hcomposed).eq_nil_iff.mp rfl
    exact lawful_of_none _ (by simpa using hstill) (by simpa using hknown hcall)
  | refused hcall hcomposed hfails =>
    exact (composition width height hcall hcomposed).lawful (by simp) hturns (hknown hcall)
      (.inr ⟨_, rfl, rfl⟩)
  | taken hcall hcomposed htakes =>
    exact (composition width height hcall hcomposed).lawful (by simp) hturns (hknown hcall)
      (.inl ⟨rfl, rfl⟩)

end PassageOutcome

/-! ### Runs -/

/-- The device after some events. -/
def run (sink : UinputSink) (events : List InputEvent) : UinputSink :=
  events.foldl (fun sink event ↦ (inject sink event).2) sink

/-- What comes of some events, one after the other. -/
def passages : UinputSink → List InputEvent → List Passage
  | _, [] => []
  | sink, event :: rest => sink.passage event :: passages (inject sink event).2 rest

theorem map_event_passages (sink : UinputSink) (events : List InputEvent) :
    (sink.passages events).map (·.event) = events := by
  induction events generalizing sink with
  | nil => rfl
  | cons event rest ih => simp [passages, passage, ih]

/-- The device has what the kernel took on the way, and has tried every write it was handed. -/
theorem run_eq (sink : UinputSink) (events : List InputEvent) :
    (sink.run events).writes = sink.writes ++ (sink.passages events).flatMap (·.taken) ∧
      (sink.run events).attempts =
        sink.attempts + (sink.passages events).countP (·.handed.isSome) ∧
      (sink.run events).capabilities = sink.capabilities := by
  induction events generalizing sink with
  | nil => simp [run, passages]
  | cons event rest ih =>
    obtain ⟨hwrites, hattempts, hcapabilities⟩ := ih (inject sink event).2
    obtain ⟨hwrote, htried, hkept⟩ := (passageOutcome sink event).device_eq
    refine ⟨?_, ?_, hcapabilities.trans hkept⟩
    · exact hwrites.trans (by simp [passages, hwrote])
    · exact hattempts.trans (by simp [passages, htried, List.countP_cons]; omega)

/-- Every event of a run goes as it should. -/
theorem lawful_run {width height : UInt32} {sink : UinputSink}
    (hregistered : sink.capabilities = capabilitiesFor width height) {events : List InputEvent}
    (hturns : ∀ event ∈ events, event.Turns) :
    ∀ passage ∈ sink.passages events, passage.Lawful sink.capabilities := by
  induction events generalizing sink with
  | nil => simp [passages]
  | cons event rest ih =>
    obtain ⟨hfirst, hrest⟩ := List.forall_mem_cons.mp hturns
    have houtcome := passageOutcome sink event
    have hkept := houtcome.device_eq.2.2
    refine List.forall_mem_cons.mpr ⟨houtcome.lawful hregistered hfirst, ?_⟩
    rw [← hkept]
    exact ih (hkept.trans hregistered) hrest

/-- A device is made with the capabilities for its output, and nothing was written on it. -/
theorem of_create {kernel : KernelInput} {name : String} {width height : UInt32}
    (hcreate : create kernel name width height = .ok sink) :
    sink.capabilities = capabilitiesFor width height ∧ sink.writes = [] ∧ sink.attempts = 0 := by
  unfold create at hcreate
  split at hcreate
  · simp at hcreate
  · split at hcreate
    · simp at hcreate
    · obtain rfl := Except.ok.inj hcreate
      exact ⟨rfl, rfl, rfl⟩

end UinputSink

/-- Whatever the kernel answers and whatever the device is called and made for, every event goes to
it as it should (`Passage.Lawful`): the write that is handed over is closed by its one report, its
other events are registered exactly if the code of the event is, the event counts as delivered
exactly if the kernel took the write or there was less than a step to scroll, and an error leaves
nothing on the device. What is on the device is what the kernel took, event by event. -/
theorem writes_registered_iff_code_registered {kernel : KernelInput} {name : String}
    {width height : UInt32} {sink : UinputSink}
    (hcreate : UinputSink.create kernel name width height = .ok sink) {events : List InputEvent}
    (hturns : ∀ event ∈ events, event.Turns) :
    (sink.passages events).map (·.event) = events ∧
      (∀ passage ∈ sink.passages events, passage.Lawful sink.capabilities) ∧
      (sink.run events).writes = (sink.passages events).flatMap (·.taken) ∧
      (sink.run events).attempts = (sink.passages events).countP (·.handed.isSome) := by
  obtain ⟨hregistered, hempty, huntried⟩ := UinputSink.of_create hcreate
  obtain ⟨hwrites, hattempts, -⟩ := sink.run_eq events
  rw [hempty, List.nil_append] at hwrites
  rw [huntried, Nat.zero_add] at hattempts
  exact ⟨sink.map_event_passages events, UinputSink.lawful_run hregistered hturns, hwrites,
    hattempts⟩

/-- The kernel takes the first write only. The button of the second is not delivered, the scroll
after it, of half a step, is. -/
theorem second_write_refused :
    let kernel : KernelInput :=
      ⟨true, fun _ ↦ none, fun made ↦ if made = 0 then none else some "refused"⟩
    let half : Binary64 := ⟨0x3fe0000000000000⟩
    let events : List InputEvent :=
      [.key 1 30 .down, .button 2 0x110 .down, .scroll 3 .vertical half]
    ∃ sink, UinputSink.create kernel "pad" 10 10 = .ok sink ∧
      (∀ passage ∈ sink.passages events, passage.Lawful sink.capabilities) ∧
      (sink.passages events).map (·.answer) =
        [.ok .delivered, .error (.sink "refused"), .ok .delivered] ∧
      (sink.run events).writes = [[.key 30 .down, .report]] := by
  intro kernel half events
  let capabilities := UinputSink.capabilitiesFor 10 10
  let sink : UinputSink := ⟨"pad", 10, 10, capabilities, kernel.writeFailure, 0, []⟩
  have hcreate : UinputSink.create kernel "pad" 10 10 = .ok sink := rfl
  have hturns : ∀ event ∈ events, event.Turns := by
    have hhalf : half.toInt32 ≠ Int32.minValue := by decide +kernel
    simpa [events, InputEvent.Turns] using hhalf
  obtain ⟨-, hlawful, hwrites, -⟩ := writes_registered_iff_code_registered hcreate hturns
  exact ⟨sink, hcreate, hlawful, by decide +kernel, hwrites.trans (by decide +kernel)⟩

/-- A key with a code of sixteen bits beyond those registered is written to the device and counts as
delivered, though the device has no such key. -/
theorem unregistered_key_is_delivered :
    ∃ sink, UinputSink.create ⟨true, fun _ ↦ none, fun _ ↦ none⟩ "pad" 10 10 = .ok sink ∧
      sink.passage (.key 1 768 .down) =
        ⟨.key 1 768 .down, .ok .delivered, some [.key 768 .down, .report],
          [[.key 768 .down, .report]]⟩ ∧
      ¬sink.capabilities.Registers (.key 768 .down) := by
  refine ⟨_, rfl, rfl, ?_⟩
  rw [UinputSink.registers_key_iff]
  decide

end HeadlessDisplay
