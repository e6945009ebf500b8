/-!
Failures of the operating system as a program meets them: a numbered code with its standard
wording, or a described failure that has a kind and a text but no number.
-/

set_option autoImplicit false
set_option relaxedAutoImplicit false

namespace HeadlessDisplay

/-- The kinds that failures are sorted into. -/
inductive FaultKind
  | notFound
  | permissionDenied
  | connectionRefused
  | connectionReset
  | hostUnreachable
  | networkUnreachable
  | connectionAborted
  | notConnected
  | addrInUse
  | addrNotAvailable
  | networkDown
  | brokenPipe
  | alreadyExists
  | wouldBlock
  | notADirectory
  | isADirectory
  | directoryNotEmpty
  | readOnlyFilesystem
  | staleNetworkFileHandle
  | invalidInput
  | invalidData
  | timedOut
  | writeZero
  | storageFull
  | notSeekable
  | quotaExceeded
  | fileTooLarge
  | resourceBusy
  | executableFileBusy
  | deadlock
  | crossesDevices
  | tooManyLinks
  | filesystemLoop
  | invalidFilename
  | argumentListTooLong
  | interrupted
  | unsupported
  | unexpectedEof
  | outOfMemory
  | uncategorized
  | other
deriving DecidableEq, Repr

namespace FaultKind

/-- The kinds with their names. -/
def names : List (FaultKind × String) :=
  [(.notFound, "NotFound"), (.permissionDenied, "PermissionDenied"),
    (.connectionRefused, "ConnectionRefused"), (.connectionReset, "ConnectionReset"),
    (.hostUnreachable, "HostUnreachable"), (.networkUnreachable, "NetworkUnreachable"),
    (.connectionAborted, "ConnectionAborted"), (.notConnected, "NotConnected"),
    (.addrInUse, "AddrInUse"), (.addrNotAvailable, "AddrNotAvailable"),
    (.networkDown, "NetworkDown"), (.brokenPipe, "BrokenPipe"),
    (.alreadyExists, "AlreadyExists"), (.wouldBlock, "WouldBlock"),
    (.notADirectory, "NotADirectory"), (.isADirectory, "IsADirectory"),
    (.directoryNotEmpty, "DirectoryNotEmpty"), (.readOnlyFilesystem, "ReadOnlyFilesystem"),
    (.staleNetworkFileHandle, "StaleNetworkFileHandle"), (.invalidInput, "InvalidInput"),
    (.invalidData, "InvalidData"), (.timedOut, "TimedOut"), (.writeZero, "WriteZero"),
    (.storageFull, "StorageFull"), (.notSeekable, "NotSeekable"),
    (.quotaExceeded, "QuotaExceeded"), (.fileTooLarge, "FileTooLarge"),
    (.resourceBusy, "ResourceBusy"), (.executableFileBusy, "ExecutableFileBusy"),
    (.deadlock, "Deadlock"), (.crossesDevices, "CrossesDevices"),
    (.tooManyLinks, "TooManyLinks"), (.filesystemLoop, "FilesystemLoop"),
    (.invalidFilename, "InvalidFilename"),
    (.argumentListTooLong, "ArgumentListTooLong"), (.interrupted, "Interrupted"),
    (.unsupported, "Unsupported"), (.unexpectedEof, "UnexpectedEof"),
    (.outOfMemory, "OutOfMemory"), (.uncategorized, "Uncategorized"), (.other, "Other")]

/-- The name of a kind. -/
def name (kind : FaultKind) : String :=
  (names.lookup kind).getD ""

/-- The kind with a name; a name of none is read as the kind for everything else. -/
def ofName (text : String) : FaultKind :=
  ((names.find? fun entry ↦ entry.2 == text).map (·.1)).getD .other

end FaultKind

/-- The numbered failures that arise here. -/
inductive SystemCode
  | noSuchEntry
  | noSuchDevice
  | fileExists
  | notADirectory
  | isADirectory
  | invalidArgument
  | brokenPipe
  | nameTooLong
  | linkLoop
  | addressInUse
  | connectionReset
  | connectionRefused
deriving DecidableEq, Repr

namespace SystemCode

/-- The number of a failure. -/
def number : SystemCode → Nat
  | .noSuchEntry => 2
  | .noSuchDevice => 6
  | .fileExists => 17
  | .notADirectory => 20
  | .isADirectory => 21
  | .invalidArgument => 22
  | .brokenPipe => 32
  | .nameTooLong => 36
  | .linkLoop => 40
  | .addressInUse => 98
  | .connectionReset => 104
  | .connectionRefused => 111

/-- The standard wording of a failure. -/
def wording : SystemCode → String
  | .noSuchEntry => "No such file or directory"
  | .noSuchDevice => "No such device or address"
  | .fileExists => "File exists"
  | .notADirectory => "Not a directory"
  | .isADirectory => "Is a directory"
  | .invalidArgument => "Invalid argument"
  | .brokenPipe => "Broken pipe"
  | .nameTooLong => "File name too long"
  | .linkLoop => "Too many levels of symbolic links"
  | .addressInUse => "Address already in use"
  | .connectionReset => "Connection reset by peer"
  | .connectionRefused => "Connection refused"

/-- The kind of a failure. -/
def kind : SystemCode → FaultKind
  | .noSuchEntry => .notFound
  | .noSuchDevice => .uncategorized
  | .fileExists => .alreadyExists
  | .notADirectory => .notADirectory
  | .isADirectory => .isADirectory
  | .invalidArgument => .invalidInput
  | .brokenPipe => .brokenPipe
  | .nameTooLong => .invalidFilename
  | .linkLoop => .filesystemLoop
  | .addressInUse => .addrInUse
  | .connectionReset => .connectionReset
  | .connectionRefused => .connectionRefused

end SystemCode

/-- A failure of the operating system. -/
inductive Fault
  /-- A failure with a number. -/
  | numbered (code : SystemCode)
  /-- A failure in words only. -/
  | described (kind : FaultKind) (text : String)
deriving DecidableEq, Repr

namespace Fault

/-- The kind of the failure. -/
def kind : Fault → FaultKind
  | .numbered code => code.kind
  | .described kind _ => kind

/-- The failure in words. -/
def message : Fault → String
  | .numbered code =>
    let wording := code.wording
    let number := code.number
    s!"{wording} (os error {number})"
  | .described _ text => text

end Fault

end HeadlessDisplay
