import HeadlessDisplay.CommandLine.Sending
import HeadlessDisplay.Daemon
import HeadlessDisplay.Session.Run
import Std.Time.DateTime.Timestamp

/-!
The programs at a terminal. The first argument names the program. Standard input and output are the
connection: `vfb-inject` greets and sends on them, and `vfb-backend`, after it has painted its
framebuffer file, serves one session on them. Everything else that the programs do is decided in the
modules imported here; the files that matter are brought in as a tree and written back.
-/

set_option autoImplicit false
set_option relaxedAutoImplicit false

namespace HeadlessDisplay.Terminal

/-- The variables that the programs look at, as far as they are set. -/
def environment : IO Environment := do
  let names := ["XDG_CONFIG_HOME", "HOME", "VFB_SOCKET", "VFB_DEVICE", "VFB_LOG"]
  let found ← names.mapM fun name ↦ return (← IO.getEnv name).map (name, ·)
  return ⟨found.filterMap id⟩

/-- Prints what a program prints instead of running. -/
def announce (program : String) (notice : CommandLine.Notice) : IO UInt32 := do
  IO.print (notice.output program)
  return .ofNat notice.exitCode

/-- Prints why a program gives up. -/
def giveUp (report : Report) : IO UInt32 := do
  IO.eprintln report.text
  return 1

/-- Reads octets until the given number has come or the stream ends. -/
partial def readExactly (stream : IO.FS.Stream) (count : Nat) (soFar : Octets) : IO Octets := do
  if count ≤ soFar.length then return soFar
  let more ← stream.read (.ofNat (count - soFar.length))
  if more.isEmpty then return soFar
  readExactly stream count (soFar ++ more.toList)

/-- Reads the octets of one frame, or as many as come. -/
def readFrame (stream : IO.FS.Stream) (limit : Nat) : IO Octets := do
  let header ← readExactly stream Frame.headerSize []
  match Frame.declaredLength header limit with
  | .ok length => return header ++ (← readExactly stream length [])
  | .error _ => return header

/-- Writes octets at once. -/
def writeOctets (stream : IO.FS.Stream) (octets : Octets) : IO Unit := do
  stream.write ⟨octets.toArray⟩
  stream.flush

/-- The milliseconds since the beginning of 1970, by which events are stamped. -/
def wallClock : IO UInt64 :=
  return .ofNat (← Std.Time.Timestamp.now).toMillisecondsSinceUnixEpoch.toInt.toNat

/-- The ticks by which frames are timed. -/
def frameClock : IO Nat :=
  return (← IO.monoNanosNow) * ticksPerMillisecond / 1000000

/-- Sends one event. -/
def inject (arguments : List String) : IO UInt32 := do
  match CommandLine.Injection.read (← environment) (← wallClock) arguments with
  | .error notice => announce CommandLine.Injection.programName notice
  | .ok injection =>
    let output ← IO.getStdout
    let greeting := (Client.handshake ⟨[], .unlimited⟩).2.outgoing.written
    writeOctets output greeting
    let answer ← readFrame (← IO.getStdin) Frame.defaultLimit
    let (result, client) := injection.send ⟨[.data answer], .unlimited⟩
    writeOctets output (client.outgoing.written.drop greeting.length)
    match result with
    | .ok () => return 0
    | .error error => giveUp error.report

/-- Serves a session, frame by frame. -/
partial def serve (limit : Nat) (session : Session) (sink : RecordingSink) : IO Unit := do
  let frame ← readFrame (← IO.getStdin) limit
  let run := Session.drive limit session sink ⟨[.data frame], .unlimited⟩
  writeOctets (← IO.getStdout) run.transport.outgoing.written
  if run.ending = .peerClosed ∧ !frame.isEmpty then serve limit run.session run.sink

/-- The file at a path, if it can be read. -/
def contentsOf? (path : String) : IO (Option (Array UInt8)) := do
  try return some (← IO.FS.readBinFile path).data
  catch _ => return none

/-- The files that the display program is started with: the document with its settings, and the
directories in which it makes files of its own. -/
def filesFor (environment : Environment) (launch : CommandLine.Launch) : IO FileTree := do
  let mut tree : FileTree := ⟨[], []⟩
  if let some path := launch.config.orElse fun _ ↦ (Settings.defaultPath environment).toOption then
    if let some contents ← contentsOf? path then
      tree := tree.plant path (.file contents FileStorage.defaultMode.toNat)
  let settings := (Settings.load tree environment launch.config).toOption.getD .default
  for path in (settings.override launch.overrides).paths do
    tree := tree.makeParents (tree.placeOf path)
  return tree

/-- Brings up the output and serves a session. -/
def display (arguments : List String) : IO UInt32 := do
  let environment ← environment
  match CommandLine.Launch.read environment arguments with
  | .error notice => announce CommandLine.Launch.programName notice
  | .ok launch =>
    match Daemon.start (← filesFor environment launch) environment launch (← frameClock) with
    | .error error => giveUp error.report
    | .ok daemon =>
      let device := daemon.settings.output.device
      if let some (memory, _) := daemon.files.file? device then
        IO.FS.writeBinFile device ⟨memory⟩
      serve daemon.settings.input.maxFrameLen (.start ConnectionCounter.start.next.1)
        (.always .passed)
      return 0

end HeadlessDisplay.Terminal

open HeadlessDisplay in
/-- Runs the program that the first argument names. -/
def main (arguments : List String) : IO UInt32 :=
  match arguments with
  | "vfb-inject" :: rest => Terminal.inject rest
  | "vfb-backend" :: rest => Terminal.display rest
  | _ => Terminal.announce "" .misuse
