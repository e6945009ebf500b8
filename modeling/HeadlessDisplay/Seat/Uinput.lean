import HeadlessDisplay.Seat.Sink

/-!
A sink that injects calls through a virtual input device of the kernel. The device is registered
with the keyboard codes, the pointer buttons, two absolute axes that span the output and two
wheels. Each call is one write: the events of the call followed by a report that closes them. A
code of more than sixteen bits is refused, and a scroll of less than one step writes nothing.
-/

set_option autoImplicit false
set_option relaxedAutoImplicit false

namespace HeadlessDisplay

/-- An event as the kernel takes it. -/
structure KernelEvent where
  type : Nat
  code : Nat
  value : Int
deriving DecidableEq

namespace KernelEvent

/-- Closes the events of a write. -/
def report : KernelEvent := ⟨0, 0, 0⟩

/-- A key or button. -/
def key (code : Nat) (press : Press) : KernelEvent :=
  ⟨1, code, if press = .down then 1 else 0⟩

/-- A wheel, turned by a number of steps. -/
def wheel (code : Nat) (steps : Int) : KernelEvent := ⟨2, code, steps⟩

/-- A position on an absolute axis. -/
def position (axis : Nat) (value : Int) : KernelEvent := ⟨3, axis, value⟩

end KernelEvent

/-- The range and resolution of an absolute axis. -/
structure AxisSetup where
  code : Nat
  value : Int
  minimum : Int
  maximum : Int
  fuzz : Int
  flat : Int
  resolution : Int
deriving DecidableEq

/-- What a virtual device can report. -/
structure Capabilities where
  /-- Codes of keys and buttons, in increasing order. -/
  keys : List Nat
  /-- Codes of wheels, in increasing order. -/
  wheels : List Nat
  axes : List AxisSetup
deriving DecidableEq

/-- The keys as ranges of consecutive codes, each from its first to its last. -/
def Capabilities.keyRanges (capabilities : Capabilities) : List (Nat × Nat) :=
  capabilities.keys.foldr
    (fun code ranges ↦
      match ranges with
      | [] => [(code, code)]
      | (first, last) :: others =>
        if code + 1 = first then (code, last) :: others else (code, code) :: ranges)
    []

/-- The steps in which a device is built. -/
inductive BuildStep
  | keys
  | wheels
  | axes
  | build
deriving DecidableEq

/-- How the kernel meets the wish for a device, and then its writes. -/
structure KernelInput where
  /-- Whether devices can be made at all. -/
  available : Bool
  /-- Why a step of the building fails, if it does. -/
  buildFailure : BuildStep → Option String
  /-- Why the write that follows the given number of writes fails, if it does. -/
  writeFailure : Nat → Option String

/-- A virtual device with the writes made on it. -/
structure UinputSink where
  name : String
  width : UInt32
  height : UInt32
  capabilities : Capabilities
  writeFailure : Nat → Option String
  /-- Writes tried so far. -/
  attempts : Nat
  /-- The writes the kernel took, in order. -/
  writes : List (List KernelEvent)

namespace UinputSink

/-- The kernel has no code that is this great or greater. -/
def codeBound : Nat := 0x10000

/-- The greatest keyboard code that is registered. -/
def maxKeyCode : Nat := 0x2ff

/-- The keyboard codes, and the pointer buttons among or beyond them. -/
def registeredKeys : List Nat :=
  let keyboard := List.range' 1 maxKeyCode
  let buttons := List.range' 0x110 8
  keyboard ++ buttons.filter fun code ↦ !keyboard.contains code

/-- The code of the horizontal wheel. -/
def horizontalWheel : Nat := 6

/-- The code of the vertical wheel. -/
def verticalWheel : Nat := 8

/-- The last coordinate of an extent. -/
def lastCoordinate (extent : UInt32) : Int :=
  ((extent.toNat - 1 : Nat) : Int)

/-- The axis that spans an extent. -/
def axisSetup (code : Nat) (extent : UInt32) : AxisSetup where
  code
  value := 0
  minimum := 0
  maximum := min (lastCoordinate extent) Binary64.maxInt32
  fuzz := 0
  flat := 0
  resolution := 1

/-- The capabilities of a device for an output of the given size. -/
def capabilitiesFor (width height : UInt32) : Capabilities where
  keys := registeredKeys
  wheels := [horizontalWheel, verticalWheel]
  axes := [axisSetup 0 width, axisSetup 1 height]

/-- Has a device made. -/
def create (kernel : KernelInput) (name : String) (width height : UInt32) :
    Except InjectionError UinputSink :=
  if !kernel.available then .error .unavailable
  else
    match [BuildStep.keys, .wheels, .axes, .axes, .build].findSome? kernel.buildFailure with
    | some reason => .error (.sink s!"building uinput device: {reason}")
    | none =>
      .ok { name, width, height, capabilities := capabilitiesFor width height,
            writeFailure := kernel.writeFailure, attempts := 0, writes := [] }

/-- Makes one write, closed by a report. -/
def emit (sink : UinputSink) (events : List KernelEvent) : Except InjectionError Unit × UinputSink :=
  let tried := { sink with attempts := sink.attempts + 1 }
  match sink.writeFailure sink.attempts with
  | some reason => (.error (.sink reason), tried)
  | none => (.ok (), { tried with writes := sink.writes ++ [events ++ [.report]] })

/-- A coordinate as a whole number inside an extent. -/
def coordinate (value : Binary64) (extent : UInt32) : Int :=
  min (value.roundInto 0 (lastCoordinate extent)) Binary64.maxInt32

/-- The code of the wheel for an axis. -/
def wheelCode : ScrollAxis → Nat
  | .vertical => verticalWheel
  | .horizontal => horizontalWheel

/-- Makes the write for one call. -/
def deliver (sink : UinputSink) : SeatCall → Except InjectionError Unit × UinputSink
  | .key _ code press =>
    if code.toNat < codeBound then sink.emit [.key code.toNat press]
    else (.error (.sink s!"key code {code} out of range"), sink)
  | .motion _ x y =>
    sink.emit [.position 0 (coordinate x sink.width), .position 1 (coordinate y sink.height)]
  | .button _ code press =>
    if code.toNat < codeBound then sink.emit [.key code.toNat press]
    else (.error (.sink s!"button code {code} out of range"), sink)
  | .axis _ motion =>
    if motion.discrete = 0 then (.ok (), sink)
    else sink.emit [.wheel (wheelCode motion.axis) (-motion.discrete.toInt)]

instance : InputSink UinputSink where
  deliver := deliver

end UinputSink

end HeadlessDisplay
