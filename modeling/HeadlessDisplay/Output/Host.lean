/-!
The host that outputs report to. It has a presentation clock, is told of each finished frame, and
is told of an output that had to be removed. Nothing is assumed about how the clock moves from one
reading to the next.
-/

set_option autoImplicit false
set_option relaxedAutoImplicit false

namespace HeadlessDisplay

/-- Flags that go with a finished frame. -/
structure FrameFlags where
  bits : UInt32
deriving DecidableEq

namespace FrameFlags

/-- The frame was presented at the stated time. -/
def none : FrameFlags := ⟨0⟩

/-- The stated time is not that of a presentation. -/
def invalid : FrameFlags := ⟨1⟩

/-- Whether all flags of the second are among those of the first. -/
def contains (first second : FrameFlags) : Bool :=
  first.bits &&& second.bits == second.bits

end FrameFlags

/-- What a host is told. -/
inductive HostEvent
  /-- A frame of an output is finished. -/
  | finished (output : String) (time : Nat) (flags : FrameFlags)
  /-- An output failed and is gone. -/
  | removed (output : String)
deriving DecidableEq

/-- The output that the host is told about. -/
def HostEvent.output : HostEvent → String
  | .finished output .. => output
  | .removed output => output

/-- A host and what it has been told. -/
structure Host where
  /-- The presentation clock at the reading that follows the given number of readings. -/
  clock : Nat → Nat
  /-- Readings taken so far. -/
  readings : Nat
  /-- What the host was told, in order. -/
  events : List HostEvent

namespace Host

/-- A host that has not been told anything, with its clock at a fixed time. -/
def atTime (time : Nat) : Host :=
  ⟨fun _ ↦ time, 0, []⟩

/-- From the next reading on, the clock shows the given time. -/
def setClock (host : Host) (time : Nat) : Host :=
  { host with clock := fun _ ↦ time }

/-- Reads the clock. -/
def readClock (host : Host) : Nat × Host :=
  (host.clock host.readings, { host with readings := host.readings + 1 })

/-- Tells the host something. -/
def tell (host : Host) (event : HostEvent) : Host :=
  { host with events := host.events ++ [event] }

/-- Reads the clock and tells the host of a frame finished then. -/
def finishFrame (host : Host) (output : String) (flags : FrameFlags) : Host :=
  let (time, host) := host.readClock
  host.tell (.finished output time flags)

/-- How many frames were finished at the time of a presentation. -/
def frames (host : Host) : Nat :=
  host.events.countP fun
    | .finished _ _ flags => !flags.contains .invalid
    | .removed _ => false

/-- The outputs that were removed, in order. -/
def removedOutputs (host : Host) : List String :=
  host.events.filterMap fun
    | .finished .. => none
    | .removed output => some output

end Host

end HeadlessDisplay
