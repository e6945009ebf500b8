import HeadlessDisplay.Wire.Event

/-!
Delivery of input events to a seat. A known event becomes one call on an input sink, with the
sender's timestamp unchanged; an unknown event is ignored and reaches no sink. A scroll is scaled
to ten units of motion for each wheel step and also counted in whole steps.

`RecordingSink` answers its calls in any prescribed way and keeps them, so that a statement about
all its prescriptions is a statement about all sequences of answers.
-/

set_option autoImplicit false
set_option relaxedAutoImplicit false

namespace HeadlessDisplay

/-- Motion of a scroll axis. -/
structure AxisMotion where
  axis : ScrollAxis
  /-- Ten units for each wheel step. -/
  value : Binary64
  /-- Whole wheel steps, the fraction dropped. -/
  discrete : Int32
deriving DecidableEq

/-- The units of motion in one wheel step. -/
def scrollStep : Nat := 10

/-- The motion that a scroll by a number of wheel steps stands for. -/
def AxisMotion.ofScroll (axis : ScrollAxis) (steps : Binary64) : AxisMotion :=
  ⟨axis, steps.scale scrollStep, steps.toInt32⟩

/-- A call on the seat. -/
inductive SeatCall
  | key (time : UInt64) (code : UInt32) (press : Press)
  | motion (time : UInt64) (x y : Binary64)
  | button (time : UInt64) (code : UInt32) (press : Press)
  | axis (time : UInt64) (motion : AxisMotion)
deriving DecidableEq

/-- Why a sink does not take a call. -/
inductive InjectionError
  /-- The sink failed. -/
  | sink (reason : String)
  /-- There is no sink to take calls. -/
  | unavailable
deriving DecidableEq, Repr

/-- The error in words. -/
def InjectionError.message : InjectionError → String
  | .sink reason => s!"input sink error: {reason}"
  | .unavailable => "input sink is not available"

/-- Where calls for a seat go. -/
class InputSink (κ : Type) where
  /-- Takes one call or refuses it. -/
  deliver : κ → SeatCall → Except InjectionError Unit × κ

/-- What became of an event that no sink refused. -/
inductive Injection
  /-- The sink took it. -/
  | delivered
  /-- It is of an unknown kind and was kept from the sink. -/
  | ignored (tag : UInt8)
deriving DecidableEq

/-- The call that an event stands for; an unknown event gives its tag. -/
def InputEvent.seatCall : InputEvent → Except UInt8 SeatCall
  | .key timestamp code press => .ok (.key timestamp code press)
  | .motion timestamp x y => .ok (.motion timestamp x y)
  | .button timestamp code press => .ok (.button timestamp code press)
  | .scroll timestamp axis value => .ok (.axis timestamp (.ofScroll axis value))
  | .unknown tag => .error tag

/-- Hands one event to a sink. -/
def inject {κ : Type} [InputSink κ] (sink : κ) (event : InputEvent) :
    Except InjectionError Injection × κ :=
  match event.seatCall with
  | .error tag => (.ok (.ignored tag), sink)
  | .ok call =>
    match InputSink.deliver sink call with
    | (.ok (), sink) => (.ok .delivered, sink)
    | (.error error, sink) => (.error error, sink)

/-- How a call is received. -/
inductive Reception
  /-- It is taken and put on record. -/
  | recorded
  /-- It is taken without a record. -/
  | passed
  /-- It is refused. -/
  | refused (error : InjectionError)
deriving DecidableEq

/-- A sink that receives its calls as prescribed and remembers them. -/
structure RecordingSink where
  /-- How the call that follows the given number of calls is received. -/
  reception : Nat → Reception
  /-- The calls so far in order, with their receptions. -/
  attempts : List (SeatCall × Reception)

namespace RecordingSink

/-- A sink without calls that receives all in the same way. -/
def always (reception : Reception) : RecordingSink :=
  ⟨fun _ ↦ reception, []⟩

/-- From the next call on, calls are received in the given way. -/
def receiving (sink : RecordingSink) (reception : Reception) : RecordingSink :=
  { sink with reception := fun _ ↦ reception }

/-- The calls on record. -/
def calls (sink : RecordingSink) : List SeatCall :=
  sink.attempts.filterMap fun attempt ↦
    if attempt.2 = .recorded then some attempt.1 else none

instance : InputSink RecordingSink where
  deliver sink call :=
    let reception := sink.reception sink.attempts.length
    let sink := { sink with attempts := sink.attempts ++ [(call, reception)] }
    match reception with
    | .recorded | .passed => (.ok (), sink)
    | .refused error => (.error error, sink)

end RecordingSink

end HeadlessDisplay
