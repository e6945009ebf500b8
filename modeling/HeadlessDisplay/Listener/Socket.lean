import HeadlessDisplay.FileTree

/-!
The socket file of a listener. Binding first removes a socket that an earlier run left at the path,
and nothing else; then it makes the socket, listens, sets the permission bits and hands the socket
to the loop that waits for events. Letting a listener go removes what is at its path, unless that is
a directory.

What is at a path is read off the tree. Beyond that the system may refuse any call, for instance to
remove an entry from a directory whose entries only their owner may remove; `SocketSystem` says
which calls it refuses and why. What a call has done before another one is refused stays done, so a
bind can fail after it removed a socket, and it can leave a socket behind on which nobody listens.
`bind` and `unbind` meet a system that refuses nothing.
-/

set_option autoImplicit false
set_option relaxedAutoImplicit false

namespace HeadlessDisplay

/-- The step of binding that failed. -/
inductive BindStep
  /-- Removing what an earlier run left. -/
  | unlink
  /-- Asking for a socket. -/
  | create
  /-- Taking the path as an address. -/
  | address
  /-- Giving the socket its address, which makes the socket file. -/
  | bind
  /-- Listening. -/
  | listen
  /-- Setting the permission bits. -/
  | chmod
  /-- Having the loop wait for the socket. -/
  | register
deriving DecidableEq

/-- The name of a step. -/
def BindStep.name : BindStep → String
  | .unlink => "unlink"
  | .create => "create"
  | .address => "address"
  | .bind => "bind"
  | .listen => "listen"
  | .chmod => "chmod"
  | .register => "register"

/-- What a listener asks of the system. -/
inductive SocketCall
  /-- To say what is at the path. -/
  | inspect
  /-- To remove it. -/
  | remove
  | create
  | bind
  | listen
  | chmod
  | register
deriving DecidableEq

/-- The step of binding that a call belongs to. -/
def SocketCall.step : SocketCall → BindStep
  | .inspect | .remove => .unlink
  | .create => .create
  | .bind => .bind
  | .listen => .listen
  | .chmod => .chmod
  | .register => .register

/-- How the system meets the calls of a listener. -/
structure SocketSystem where
  /-- Why a call is refused, if it is, though what is at the path would allow it. -/
  refusal : SocketCall → Option Fault

namespace SocketSystem

/-- A system that refuses nothing. -/
def willing : SocketSystem := ⟨fun _ ↦ none⟩

/-- What comes of a call that would have the given result. -/
def answer {α : Type} (system : SocketSystem) (call : SocketCall) (result : Except Fault α) :
    Except Fault α :=
  match system.refusal call with
  | some fault => .error fault
  | none => result

/-- The first of some calls that is refused. -/
def firstRefused (system : SocketSystem) (calls : List SocketCall) : Option (SocketCall × Fault) :=
  calls.findSome? fun call ↦ (system.refusal call).map (call, ·)

end SocketSystem

/-- Why a path cannot be bound. -/
structure BindError where
  step : BindStep
  path : String
  fault : Fault
deriving DecidableEq

/-- The error in words. -/
def BindError.message : BindError → String
  | ⟨step, path, fault⟩ =>
    let operation := step.name
    let text := fault.message
    s!"socket {operation} failed on {path}: {text}"

/-- What lies behind the error, in words. -/
def BindError.causes (error : BindError) : List String :=
  [error.fault.message]

namespace SocketFile

/-- The path of a socket for which no other is given. -/
def defaultPath : String := "/tmp/weston_socket"

/-- The permission bits of a socket for which no others are given. -/
def defaultMode : UInt32 := 0o666

/-- The number of octets below which a path is an address. -/
def addressSize : Nat := 108

/-- The permission bits of a socket file before any are set. -/
def freshMode : Nat := 0o755

/-- The socket of a listener. -/
def own (listener mode : Nat) : Entry :=
  .socket (some listener) (FileTree.permissionBits mode)

/-- The socket that a bind leaves which gives up at a call after the socket was made. -/
def abandoned (call : SocketCall) (mode : Nat) : Entry :=
  .socket none (if call = .register then FileTree.permissionBits mode else freshMode)

/-- What the system says is at the path. -/
def found (system : SocketSystem) (tree : FileTree) (path : String) :
    Except Fault FileTree.Location :=
  system.answer .inspect (tree.inspect path)

/-- Removes a socket at the path; anything else there is a failure. -/
def removeStale (system : SocketSystem) (tree : FileTree) (path : String) : Except Fault FileTree :=
  match found system tree path with
  | .error fault => if fault.kind = .notFound then .ok tree else .error fault
  | .ok ⟨_, none, _⟩ => .ok tree
  | .ok ⟨place, some (.socket ..), _⟩ => system.answer .remove (.ok (tree.erase place))
  | .ok ⟨_, some _, _⟩ =>
    .error (.described .alreadyExists "path exists and is not a socket")

/-- Where a socket can be made for the path; nothing may be there. -/
def vacancy (tree : FileTree) (path : String) : Except Fault Place :=
  match tree.locate false path with
  | .error fault => .error fault
  | .ok ⟨_, some _, _⟩ => .error (.numbered .addressInUse)
  | .ok ⟨place, none, slash⟩ => if slash then .error (.numbered .noSuchEntry) else .ok place

/-- Binds a path for a listener, with the tree after it. -/
def bindUnder (system : SocketSystem) (tree : FileTree) (path : String) (mode listener : Nat) :
    Except BindError Unit × FileTree :=
  let fail (step : BindStep) (fault : Fault) (left : FileTree) : Except BindError Unit × FileTree :=
    (.error ⟨step, path, fault⟩, left)
  match removeStale system tree path with
  | .error fault => fail .unlink fault tree
  | .ok cleared =>
    match system.refusal .create with
    | some fault => fail .create fault cleared
    | none =>
      if addressSize ≤ path.utf8ByteSize then fail .address (.numbered .nameTooLong) cleared
      else if path.isEmpty then
        -- For an empty path the system chooses an address of its own, which is no file.
        match system.firstRefused [.bind, .listen] with
        | some (call, fault) => fail call.step fault cleared
        | none => fail .chmod (.numbered .noSuchEntry) cleared
      else
        match system.answer .bind (vacancy cleared path) with
        | .error fault => fail .bind fault cleared
        | .ok place =>
          match system.firstRefused [.listen, .chmod, .register] with
          | some (call, fault) => fail call.step fault (cleared.put place (abandoned call mode))
          | none => (.ok (), cleared.put place (own listener mode))

/-- Binds a path for a listener if the system refuses nothing. -/
def bind (tree : FileTree) (path : String) (mode listener : Nat) : Except BindError FileTree :=
  match bindUnder .willing tree path mode listener with
  | (.error error, _) => .error error
  | (.ok (), bound) => .ok bound

/-- The permission bits of the socket at the path, if one is there. -/
def mode? (tree : FileTree) (path : String) : Option Nat :=
  match tree.inspect path with
  | .ok ⟨_, some (.socket _ mode), _⟩ => some mode
  | _ => none

/-- Lets a listener at the path go. What is at the path is removed; where that is refused, or a
directory is there, everything stays. -/
def unbindUnder (system : SocketSystem) (tree : FileTree) (path : String) : FileTree :=
  match tree.locate false path with
  | .ok ⟨place, some entry, false⟩ =>
    if entry = .directory ∨ (system.refusal .remove).isSome then tree else tree.erase place
  | _ => tree

/-- Lets a listener at the path go if the system refuses nothing. -/
def unbind (tree : FileTree) (path : String) : FileTree :=
  unbindUnder .willing tree path

/-- Why a client reaches nobody under a name that is not a path. Such a name begins with a NUL and
may be as long as an address; listeners have paths, so nobody listens under one. -/
def unreachable (name : String) : Fault :=
  if addressSize < name.utf8ByteSize then
    .described .invalidInput "abstract socket name must be shorter than SUN_LEN"
  else if name.length = 1 then .numbered .invalidArgument
  else .numbered .connectionRefused

/-- The listener that a client reaches which connects to the path. -/
def connect (tree : FileTree) (path : String) : Except Fault Nat :=
  if path.toList.head? = some (Char.ofNat 0) then .error (unreachable path)
  else if path.contains (Char.ofNat 0) then
    .error (.described .invalidInput "paths must not contain interior null bytes")
  else if addressSize ≤ path.utf8ByteSize then
    .error (.described .invalidInput "path must be shorter than SUN_LEN")
  else if path.isEmpty then .error (.numbered .invalidArgument)
  else
    match tree.locate true path with
    | .error fault => .error fault
    | .ok ⟨_, none, _⟩ => .error (.numbered .noSuchEntry)
    | .ok ⟨_, some (.socket (some listener) _), _⟩ => .ok listener
    | .ok ⟨_, some _, _⟩ => .error (.numbered .connectionRefused)

end SocketFile

end HeadlessDisplay
