import HeadlessDisplay.Main
import HeadlessDisplay.Listener.Schedule
import HeadlessDisplay.Output.Solo
import HeadlessDisplay.Seat.Uinput
import HeadlessDisplay.Proofs.Output.Coherence
import HeadlessDisplay.Proofs.Screen.Coverage
import HeadlessDisplay.Proofs.Screen.Pixels
import HeadlessDisplay.Proofs.Backend.Laws
import HeadlessDisplay.Proofs.Backend.StorageLife
import HeadlessDisplay.Proofs.Backend.Painted
import HeadlessDisplay.Proofs.Output.DamageKept
import HeadlessDisplay.Proofs.Wire.Reading
import HeadlessDisplay.Proofs.Session.Conversation
import HeadlessDisplay.Proofs.Wire.EventPayload
import HeadlessDisplay.Proofs.Wire.Chunking
import HeadlessDisplay.Proofs.Screen.Drawing
import HeadlessDisplay.Proofs.Listener.OneClient
import HeadlessDisplay.Proofs.Backend.Activation
import HeadlessDisplay.Proofs.Output.CoherentLife
import HeadlessDisplay.Proofs.Output.Custody
import HeadlessDisplay.Proofs.Output.Mappings
import HeadlessDisplay.Proofs.Output.OpenStorage
import HeadlessDisplay.Proofs.Wire.FrameStream
import HeadlessDisplay.Proofs.Session.Delivery
import HeadlessDisplay.Proofs.Backend.Passes
import HeadlessDisplay.Proofs.Backend.Independence
import HeadlessDisplay.Proofs.Backend.Retry
import HeadlessDisplay.Proofs.Backend.Comeback
import HeadlessDisplay.Proofs.Backend.Chronicle
import HeadlessDisplay.Proofs.Session.Dialogue
import HeadlessDisplay.Proofs.Backend.HostReports
import HeadlessDisplay.Proofs.FilePaths
import HeadlessDisplay.Proofs.Output.FileContents
import HeadlessDisplay.Proofs.Wire.FrameGrowth
import HeadlessDisplay.Proofs.Wire.PayloadClasses
import HeadlessDisplay.Proofs.Output.FiringTimes
import HeadlessDisplay.Proofs.Output.FailedAttempts
import HeadlessDisplay.Proofs.Screen.Clipping
import HeadlessDisplay.Proofs.Screen.Layouts
import HeadlessDisplay.Proofs.Screen.WordArithmetic
import HeadlessDisplay.Proofs.Backend.DependableStorage
import HeadlessDisplay.Proofs.Backend.ConfiguredStage
import HeadlessDisplay.Proofs.Backend.Resizing
import HeadlessDisplay.Proofs.Backend.AcceptedSizes
import HeadlessDisplay.Proofs.Backend.FrameDeadlines
import HeadlessDisplay.Proofs.Session.FramingEnds
import HeadlessDisplay.Proofs.Settings.Startup
import HeadlessDisplay.Proofs.Listener.SocketPath
import HeadlessDisplay.Proofs.Seat.DeviceWrites
