import HeadlessDisplay.Fault

/-!
A tree of directories, regular files, sockets, links and other entries, as far as a program meets it
through path names. A path is followed name by name from the root or from the working directory.
Every step needs a directory to step from, and a link on the way is followed; whether one at the end
is followed depends on what the path is used for. What an operation leaves behind is a new tree.

Whether the system lets a program do what a tree has room for is not part of the tree.
-/

set_option autoImplicit false
set_option relaxedAutoImplicit false

namespace HeadlessDisplay

/-- The names from the root down to an entry. -/
abbrev Place := List String

/-- What a place can hold. -/
inductive Entry
  /-- A regular file with its contents and permission bits. -/
  | file (contents : Array UInt8) (mode : Nat)
  | directory
  /-- A socket with its permission bits and the listener that it was made for, if one listened. -/
  | socket (listener : Option Nat) (mode : Nat)
  /-- A symbolic link with the path that it holds. -/
  | link (target : String)
  /-- A pipe or a device. Nothing is behind it, so it cannot be opened. -/
  | special
deriving DecidableEq

/-- Whether a way can lead on over the entry. -/
def Entry.isPassage : Entry → Bool
  | .directory | .link _ => true
  | .file .. | .socket .. | .special => false

/-- The entries below the root, and where relative paths start. -/
structure FileTree where
  entries : List (Place × Entry)
  workingDirectory : Place
deriving DecidableEq

namespace FileTree

/-- The permission bits among the bits of a mode. -/
def permissionBits (mode : Nat) : Nat :=
  mode % 4096

/-- What is at a place. -/
def entry? (tree : FileTree) (place : Place) : Option Entry :=
  if place.isEmpty then some .directory else tree.entries.lookup place

/-- Puts an entry at a place, instead of one that is there. -/
def put (tree : FileTree) (place : Place) (entry : Entry) : FileTree :=
  { tree with entries := (place, entry) :: tree.entries.filter fun other ↦ other.1 != place }

/-- Removes what is at a place. -/
def erase (tree : FileTree) (place : Place) : FileTree :=
  { tree with entries := tree.entries.filter fun other ↦ other.1 != place }

/-- The permission bits of a regular file that is made without any being named. -/
def freshMode : Nat := 0o644

/-- Writes a regular file as a whole. One that is there keeps its permission bits. -/
def write (tree : FileTree) (place : Place) (contents : Array UInt8) : FileTree :=
  match tree.entry? place with
  | some (.file _ mode) => tree.put place (.file contents mode)
  | _ => tree.put place (.file contents freshMode)

/-- The names that a path spells. -/
def namesOf (path : String) : List String :=
  (path.splitOn "/").filter fun name ↦ !name.isEmpty

/-- Where a path starts that is met in a directory. -/
def startOf (directory : Place) (path : String) : Place :=
  if path.startsWith "/" then [] else directory

/-- The names that stand for a link; a slash at its end asks for a directory. -/
def linkNames (target : String) : List String :=
  if target.endsWith "/" then namesOf target ++ ["."] else namesOf target

/-- How many links are followed on one way. -/
def linkLimit : Nat := 40

/-- Follows names from a place on, over so many links. What is at the last name does not matter,
unless a link there is to be followed, too. -/
def follow (tree : FileTree) (through : Bool) (links : Nat) (place : Place)
    (names : List String) : Except SystemCode Place :=
  match tree.entry? place with
  | some (.link target) =>
    if names.isEmpty && !through then .ok place
    else
      match links with
      | 0 => .error .linkLoop
      | links + 1 =>
        tree.follow through links (startOf place.dropLast target) (linkNames target ++ names)
  | entry =>
    match names with
    | [] => .ok place
    | name :: rest =>
      match entry with
      | none => .error .noSuchEntry
      | some .directory =>
        if 255 < name.utf8ByteSize then .error .nameTooLong
        else if name = "." then tree.follow through links place rest
        else if name = ".." then tree.follow through links place.dropLast rest
        else tree.follow through links (place ++ [name]) rest
      | some _ => .error .notADirectory
termination_by (links, names.length)

/-- A path that could be followed to its last name. -/
structure Location where
  place : Place
  /-- What is there. -/
  entry : Option Entry
  /-- The path ends in a slash, so that only a directory will do. -/
  slash : Bool

/-- Follows a path, and also a link at its end if asked to. -/
def locate (tree : FileTree) (through : Bool) (path : String) : Except Fault Location :=
  if path.contains (Char.ofNat 0) then
    .error (.described .invalidInput "file name contained an unexpected NUL byte")
  else if path.isEmpty then .error (.numbered .noSuchEntry)
  else if 4096 ≤ path.utf8ByteSize then .error (.numbered .nameTooLong)
  else
    match tree.follow through linkLimit (startOf tree.workingDirectory path) (namesOf path) with
    | .error code => .error (.numbered code)
    | .ok place =>
      let entry := tree.entry? place
      let slash := path.endsWith "/"
      if slash && entry.any fun there ↦ !there.isPassage then .error (.numbered .notADirectory)
      else .ok ⟨place, entry, slash⟩

/-- Looks at what a path names. A link at its end is looked at itself, unless a slash follows. -/
def inspect (tree : FileTree) (path : String) : Except Fault Location :=
  tree.locate (path.endsWith "/") path

/-- Whether there is anything at a path. -/
def occupied (tree : FileTree) (path : String) : Bool :=
  match tree.locate true path with
  | .ok location => location.entry.isSome
  | .error _ => false

/-- The contents of a regular file. -/
def read (tree : FileTree) (path : String) : Except Fault (Array UInt8) :=
  match tree.locate true path with
  | .error fault => .error fault
  | .ok location =>
    match location.entry with
    | none => .error (.numbered .noSuchEntry)
    | some .directory => .error (.numbered .isADirectory)
    | some (.file contents _) => .ok contents
    | some _ => .error (.numbered .noSuchDevice)

/-- The contents of a regular file as text. -/
def readText (tree : FileTree) (path : String) : Except Fault String :=
  match tree.read path with
  | .error fault => .error fault
  | .ok contents =>
    match String.fromUTF8? ⟨contents⟩ with
    | some text => .ok text
    | none => .error (.described .invalidData "stream did not contain valid UTF-8")

/-- Whether and where a regular file can be opened for writing, made first if nothing is there. -/
def writable (tree : FileTree) (path : String) : Except Fault Place :=
  match tree.locate true path with
  | .error fault => .error fault
  | .ok location =>
    match location.entry with
    | some .directory => .error (.numbered .isADirectory)
    | some (.file ..) => .ok location.place
    | some _ => .error (.numbered .noSuchDevice)
    | none =>
      if location.slash then .error (.numbered .isADirectory) else .ok location.place

/-- The regular file a path leads to, with its permission bits. -/
def file? (tree : FileTree) (path : String) : Option (Array UInt8 × Nat) :=
  match tree.locate true path with
  | .ok ⟨_, some (.file contents mode), _⟩ => some (contents, mode)
  | _ => none

/-- Makes the directories that a place lies in. -/
def makeParents (tree : FileTree) (place : Place) : FileTree :=
  ((List.range place.length).map fun depth ↦ place.take depth).foldl
    (fun grown parent ↦ if (grown.entry? parent).isNone then grown.put parent .directory else grown)
    tree

/-- The place that the names of a path spell. -/
def placeOf (tree : FileTree) (path : String) : Place :=
  let start := if path.startsWith "/" then [] else tree.workingDirectory
  (path.splitOn "/").foldl
    (fun place name ↦
      if name.isEmpty || name = "." then place
      else if name = ".." then place.dropLast
      else place ++ [name])
    start

/-- Puts an entry where a path leads, with the directories on the way. -/
def plant (tree : FileTree) (path : String) (entry : Entry) : FileTree :=
  let place := tree.placeOf path
  (tree.makeParents place).put place entry

/-- Writes a regular file where a path leads, with the directories on the way. -/
def plantFile (tree : FileTree) (path : String) (contents : Array UInt8) : FileTree :=
  let place := tree.placeOf path
  (tree.makeParents place).write place contents

/-- A path below a base path; one that starts at the root stands for itself. -/
def join (base path : String) : String :=
  if path.startsWith "/" then path
  else if base.isEmpty || base.endsWith "/" then base ++ path
  else base ++ "/" ++ path

end FileTree

end HeadlessDisplay
