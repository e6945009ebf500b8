import HeadlessDisplay.Settings.Basic
import HeadlessDisplay.Toml.Document

/-!
Settings from a TOML document. A setting that is not named takes its default and a name that is not
known is passed over. A section may also be given as an array of its settings in their order; what
is missing at the end takes defaults, and what is too much is passed over. A setting of the wrong
type or out of its range makes the whole document unusable.
-/

set_option autoImplicit false
set_option relaxedAutoImplicit false

namespace HeadlessDisplay.Settings

open Toml

/-- The settings of a section as they are written, each found by its position and its name. -/
abbrev Section := Nat → String → Option Value

/-- The settings that a value lists. A date lists none that is known. -/
def section? : Value → Option Section
  | .table _ entries => some fun _ name ↦ entries.lookup name
  | .array items => some fun position _ ↦ items[position]?
  | .tables elements => some fun position _ ↦ elements[position]?.map (.table .headed)
  | .moment _ => some fun _ _ ↦ none
  | _ => none

/-- A setting, or its default if it is not written. -/
def orDefault {α : Type} (decode : Value → Option α) (default : α) : Option Value → Option α
  | none => some default
  | some value => decode value

/-- A setting that is a text. -/
def text? : Value → Option String
  | .text content => some content
  | _ => none

/-- A setting that is a word of 32 bits. -/
def word? : Value → Option UInt32
  | .integer value => if 0 ≤ value ∧ value < 0x100000000 then some (.ofNat value.toNat) else none
  | _ => none

/-- A setting that is a length. -/
def length? : Value → Option Nat
  | .integer value => if 0 ≤ value then some value.toNat else none
  | _ => none

/-- Whether a value is a table or an array with nothing in it. -/
def isVoid : Value → Bool
  | .table _ entries => entries.isEmpty
  | .array items => items.isEmpty
  | .tables elements => elements.isEmpty
  | _ => false

/-- The name that a setting chooses: a text, or a table with nothing but that name and nothing under
it. -/
def choice? : Value → Option String
  | .text name => some name
  | .table _ [(name, value)] => if isVoid value then some name else none
  | _ => none

/-- A setting that chooses a pixel format. -/
def pixelFormat? (value : Value) : Option PixelFormat :=
  (choice? value).bind PixelFormat.ofName?

/-- A setting that chooses a sink. -/
def sink? (value : Value) : Option SinkChoice :=
  (choice? value).bind SinkChoice.ofName?

/-- The section of the output. -/
def output? (value : Value) : Option OutputSettings := do
  let written ← section? value
  let default := OutputSettings.default
  return {
    name := ← orDefault text? default.name (written 0 "name")
    device := ← orDefault text? default.device (written 1 "device")
    deviceMode := ← orDefault word? default.deviceMode (written 2 "device_mode")
    width := ← orDefault word? default.width (written 3 "width")
    height := ← orDefault word? default.height (written 4 "height")
    pixelFormat := ← orDefault pixelFormat? default.pixelFormat (written 5 "pixel_format")
    refreshMhz := ← orDefault word? default.refreshMhz (written 6 "refresh_mhz")
    id := ← orDefault text? default.id (written 7 "id") }

/-- The section of the socket. -/
def input? (value : Value) : Option InputSettings := do
  let written ← section? value
  let default := InputSettings.default
  return {
    socketPath := ← orDefault text? default.socketPath (written 0 "socket_path")
    socketMode := ← orDefault word? default.socketMode (written 1 "socket_mode")
    maxFrameLen := ← orDefault length? default.maxFrameLen (written 2 "max_frame_len")
    sink := ← orDefault sink? default.sink (written 3 "sink") }

/-- The section of the renderer. -/
def renderer? (value : Value) : Option RendererSettings := do
  let written ← section? value
  let default := RendererSettings.default
  return { background := ← orDefault word? default.background (written 0 "background") }

/-- The section of logging. -/
def logging? (value : Value) : Option LoggingSettings := do
  let written ← section? value
  let default := LoggingSettings.default
  return { logLevel := ← orDefault text? default.logLevel (written 0 "log_level") }

/-- The settings of a document. -/
def ofText? (text : String) : Option Settings := do
  let entries ← Document.read? text
  return {
    output := ← orDefault output? .default (entries.lookup "output")
    input := ← orDefault input? .default (entries.lookup "input")
    renderer := ← orDefault renderer? .default (entries.lookup "renderer")
    logging := ← orDefault logging? .default (entries.lookup "logging") }

end HeadlessDisplay.Settings
