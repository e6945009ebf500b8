import HeadlessDisplay.Binary64

/-!
Input events of the socket. There are four known kinds, each with a tag octet of its own; an event
with any other tag is carried as `unknown`, so that a reader can pass over it. Key and button codes
are input-event codes of the receiving system and are not translated.
-/

set_option autoImplicit false
set_option relaxedAutoImplicit false

namespace HeadlessDisplay

/-- A key or button going down, or coming back up. -/
inductive Press
  | down
  | up
deriving DecidableEq

/-- The direction of a scroll. -/
inductive ScrollAxis
  | vertical
  | horizontal
deriving DecidableEq

/-- The known kinds of event. -/
inductive EventKind
  | key
  | motion
  | button
  | scroll
deriving DecidableEq, Repr

namespace Press

/-- The presses. -/
def all : List Press :=
  [.down, .up]

/-- The name of a press. -/
def name : Press → String
  | .down => "down"
  | .up => "up"

/-- The press with a name. -/
def ofName? (text : String) : Option Press :=
  all.find? (·.name = text)

/-- The octet for a press. -/
def code : Press → UInt8
  | .down => 1
  | .up => 2

/-- The press that an octet stands for. -/
def ofCode? (octet : UInt8) : Option Press :=
  if octet = 1 then some .down else if octet = 2 then some .up else none

end Press

namespace ScrollAxis

/-- The axes. -/
def all : List ScrollAxis :=
  [.vertical, .horizontal]

/-- The name of an axis. -/
def name : ScrollAxis → String
  | .vertical => "vertical"
  | .horizontal => "horizontal"

/-- The axis with a name. -/
def ofName? (text : String) : Option ScrollAxis :=
  all.find? (·.name = text)

/-- The octet for an axis. -/
def code : ScrollAxis → UInt8
  | .vertical => 0
  | .horizontal => 1

/-- The axis that an octet stands for. -/
def ofCode? (octet : UInt8) : Option ScrollAxis :=
  if octet = 0 then some .vertical else if octet = 1 then some .horizontal else none

end ScrollAxis

namespace EventKind

/-- The tag of a kind. -/
def tag : EventKind → UInt8
  | .key => 1
  | .motion => 2
  | .button => 3
  | .scroll => 4

/-- The kind that a tag stands for. -/
def ofTag? (octet : UInt8) : Option EventKind :=
  if octet = 1 then some .key
  else if octet = 2 then some .motion
  else if octet = 3 then some .button
  else if octet = 4 then some .scroll
  else none

/-- The name of a kind in error messages. -/
def name : EventKind → String
  | .key => "Key"
  | .motion => "PointerMove"
  | .button => "PointerButton"
  | .scroll => "Scroll"

/-- The number of octets after the tag and the timestamp. -/
def bodySize : EventKind → Nat
  | .key => 5
  | .motion => 16
  | .button => 5
  | .scroll => 9

end EventKind

/-- An event with the sender's timestamp. -/
inductive InputEvent
  /-- A key with its code. -/
  | key (timestamp : UInt64) (code : UInt32) (press : Press)
  /-- The pointer moved to a position in output coordinates. -/
  | motion (timestamp : UInt64) (x y : Binary64)
  /-- A pointer button with its code. -/
  | button (timestamp : UInt64) (code : UInt32) (press : Press)
  /-- A scroll by a number of wheel steps. -/
  | scroll (timestamp : UInt64) (axis : ScrollAxis) (value : Binary64)
  /-- An event of a kind that is not known here. -/
  | unknown (tag : UInt8)
deriving DecidableEq

namespace InputEvent

/-- The kind of a known event. -/
def kind? : InputEvent → Option EventKind
  | .key .. => some .key
  | .motion .. => some .motion
  | .button .. => some .button
  | .scroll .. => some .scroll
  | .unknown _ => none

/-- The timestamp of a known event. -/
def timestamp? : InputEvent → Option UInt64
  | .key timestamp .. => some timestamp
  | .motion timestamp .. => some timestamp
  | .button timestamp .. => some timestamp
  | .scroll timestamp .. => some timestamp
  | .unknown _ => none

end InputEvent

end HeadlessDisplay
