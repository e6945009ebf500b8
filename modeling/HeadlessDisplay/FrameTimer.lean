/-!
The timer that paces the frames of an output. It is armed after each repaint for one refresh period
and fires once; it never arms itself again.

Times are whole ticks of a clock from an arbitrary origin and need not increase from one call to the
next. A timer adds its period to a time and compares times, and its period is a number of whole
milliseconds. So it does not matter what a tick is, as long as it divides a millisecond: only the
period depends on `ticksPerMillisecond`, and what is proved of all times uses no more than that the
period is `refreshInterval`. Runs at fixed times read a tick as a microsecond; with ticks of a
nanosecond and times to match they go the same way.
-/

set_option autoImplicit false
set_option relaxedAutoImplicit false

namespace HeadlessDisplay

/-- The ticks in a millisecond. -/
def ticksPerMillisecond : Nat := 1000

/-- The refresh period, cut to whole milliseconds; a rate of zero counts as one frame in a
second. -/
def refreshInterval (refreshMhz : UInt32) : Nat :=
  (if refreshMhz = 0 then 1000 else 1000000 / refreshMhz.toNat) * ticksPerMillisecond

/-- A timer that fires once for each time it is armed. -/
structure FrameTimer where
  /-- The period for the next arming. -/
  interval : Nat
  /-- When it is due, while it is armed. -/
  deadline : Option Nat
deriving DecidableEq

namespace FrameTimer

/-- A timer at rest. -/
def ofRefresh (refreshMhz : UInt32) : FrameTimer :=
  ⟨refreshInterval refreshMhz, none⟩

/-- Changes the period of later armings and leaves a deadline as it is. -/
def setRefresh (timer : FrameTimer) (refreshMhz : UInt32) : FrameTimer :=
  { timer with interval := refreshInterval refreshMhz }

/-- Sets the deadline one period after `now`, in place of any other. -/
def arm (timer : FrameTimer) (now : Nat) : FrameTimer :=
  { timer with deadline := some (now + timer.interval) }

/-- Whether there is a deadline. -/
def isArmed (timer : FrameTimer) : Bool :=
  timer.deadline.isSome

/-- Whether the deadline has come. -/
def isDue (timer : FrameTimer) (now : Nat) : Bool :=
  timer.deadline.any fun deadline ↦ deadline ≤ now

/-- Fires if the deadline has come, and is then at rest. -/
def poll (timer : FrameTimer) (now : Nat) : Bool × FrameTimer :=
  if timer.isDue now then (true, { timer with deadline := none }) else (false, timer)

end FrameTimer

end HeadlessDisplay
