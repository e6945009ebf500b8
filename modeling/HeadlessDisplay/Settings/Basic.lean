import HeadlessDisplay.Fault
import HeadlessDisplay.Listener.Socket
import HeadlessDisplay.Output.FileStorage
import HeadlessDisplay.Output.Renderer
import HeadlessDisplay.Wire.Frame
import HeadlessDisplay.Wire.Payload

/-!
The settings of the display program. Every setting has a default. Settings are sound if the output's
descriptor has a layout and the frame limit admits a greeting; unsound ones are refused with the
first reason, the output's before the frame limit's.
-/

set_option autoImplicit false
set_option relaxedAutoImplicit false

namespace HeadlessDisplay

/-- The output and the file behind it. -/
structure OutputSettings where
  name : String
  /-- Path of the framebuffer file. -/
  device : String
  /-- Permission bits of the framebuffer file. -/
  deviceMode : UInt32
  width : UInt32
  height : UInt32
  pixelFormat : PixelFormat
  refreshMhz : UInt32
  id : String
deriving DecidableEq

/-- Which sink input events go to. -/
inductive SinkChoice
  /-- Events are only logged. -/
  | log
  /-- Events go to a virtual input device. -/
  | uinput
deriving DecidableEq

/-- The socket for input events. -/
structure InputSettings where
  socketPath : String
  /-- Permission bits of the socket. -/
  socketMode : UInt32
  /-- The longest payload that sessions accept. -/
  maxFrameLen : Nat
  sink : SinkChoice
deriving DecidableEq

/-- What outputs are painted with. -/
structure RendererSettings where
  background : UInt32
deriving DecidableEq

/-- What is logged. -/
structure LoggingSettings where
  logLevel : String
deriving DecidableEq

/-- All settings. -/
structure Settings where
  output : OutputSettings
  input : InputSettings
  renderer : RendererSettings
  logging : LoggingSettings
deriving DecidableEq

/-- The name of a sink in configuration texts. -/
def SinkChoice.name : SinkChoice → String
  | .log => "log"
  | .uinput => "uinput"

/-- The sinks. -/
def SinkChoice.all : List SinkChoice :=
  [.log, .uinput]

/-- The sink with a name. -/
def SinkChoice.ofName? (text : String) : Option SinkChoice :=
  all.find? (·.name = text)

namespace OutputSettings

/-- The output if nothing is said about it. -/
def default : OutputSettings where
  name := "image"
  device := FileStorage.defaultPath
  deviceMode := FileStorage.defaultMode
  width := 800
  height := 600
  pixelFormat := .a8b8g8r8
  refreshMhz := ScreenDescriptor.defaultRefreshMhz
  id := ScreenDescriptor.defaultId

/-- The descriptor that the output starts with, one millimetre to a pixel. -/
def descriptor (settings : OutputSettings) : ScreenDescriptor where
  width := settings.width
  height := settings.height
  widthMm := settings.width
  heightMm := settings.height
  bitsPerPixel := settings.pixelFormat.bitsPerPixel
  format := settings.pixelFormat
  refreshMhz := settings.refreshMhz
  id := settings.id

end OutputSettings

/-- The socket if nothing is said about it. -/
def InputSettings.default : InputSettings where
  socketPath := SocketFile.defaultPath
  socketMode := SocketFile.defaultMode
  maxFrameLen := Frame.defaultLimit
  sink := .log

/-- The renderer if nothing is said about it. -/
def RendererSettings.default : RendererSettings where
  background := Renderer.defaultColor

/-- Logging if nothing is said about it. -/
def LoggingSettings.default : LoggingSettings where
  logLevel := "info"

/-- Why settings are unsound. -/
inductive UnsoundSettings
  /-- The output's descriptor has no layout. -/
  | output (error : ScreenError)
  /-- No greeting fits the frame limit. -/
  | frameLimit (limit : Nat)
deriving DecidableEq

/-- The reason in words. -/
def UnsoundSettings.message : UnsoundSettings → String
  | .output error =>
    let text := error.message
    s!"[output]: {text}"
  | .frameLimit limit => s!"[input] max_frame_len {limit} is smaller than the handshake"

namespace Settings

/-- The settings if nothing is said about any. -/
def default : Settings where
  output := .default
  input := .default
  renderer := .default
  logging := .default

/-- Finds the first reason why settings are unsound. -/
def validate (settings : Settings) : Except UnsoundSettings Unit :=
  match settings.output.descriptor.layout with
  | .error error => .error (.output error)
  | .ok _ =>
    if settings.input.maxFrameLen < clientHello.length then
      .error (.frameLimit settings.input.maxFrameLen)
    else .ok ()

end Settings

end HeadlessDisplay
