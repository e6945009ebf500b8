import HeadlessDisplay.Screen.Descriptor

/-!
Where an output learns its mode. A `ScreenSource` answers each question for the current descriptor,
or fails to; nothing is assumed about how one answer follows from another. A `ConfiguredScreen`
always answers with the descriptor it holds, whose size can be changed while it is in use.
-/

set_option autoImplicit false
set_option relaxedAutoImplicit false

namespace HeadlessDisplay

/-- An answer to the question for the current descriptor; a failure gives its reason. -/
abbrev ScreenAnswer := Except String ScreenDescriptor

/-- A source of descriptors and how often it has been asked. -/
structure ScreenSource where
  /-- The answer to the question that follows the given number of questions. -/
  answer : Nat → ScreenAnswer
  /-- Questions asked so far. -/
  asked : Nat

namespace ScreenSource

/-- A source that has not been asked and always gives the same answer. -/
def always (answer : ScreenAnswer) : ScreenSource :=
  ⟨fun _ ↦ answer, 0⟩

/-- Asks once. -/
def ask (source : ScreenSource) : ScreenAnswer × ScreenSource :=
  (source.answer source.asked, { source with asked := source.asked + 1 })

/-- From the next question on, the answer is the given one. -/
def answering (source : ScreenSource) (answer : ScreenAnswer) : ScreenSource :=
  { source with answer := fun _ ↦ answer }

end ScreenSource

/-- A screen whose descriptor is configured. -/
structure ConfiguredScreen where
  /-- The descriptor that questions are answered with. -/
  current : ScreenDescriptor
deriving DecidableEq

namespace ConfiguredScreen

/-- Changes the size, and the physical size with it; a size with a zero is refused and changes
nothing. -/
def setSize (screen : ConfiguredScreen) (width height : UInt32) :
    Except ScreenError ConfiguredScreen :=
  if width < 1 ∨ height < 1 then .error (.invalidSize width height)
  else .ok ⟨screen.current.resize width height⟩

/-- The answer to every question while the descriptor stays as it is. -/
def answer (screen : ConfiguredScreen) : ScreenAnswer :=
  .ok screen.current

end ConfiguredScreen

end HeadlessDisplay
