import HeadlessDisplay.Fault
import HeadlessDisplay.Wire.Frame

/-!
Frames on a stream. What a reader meets is a script of arrivals: chunks of octets, failures, and
moments at which nothing is ready; after the script the stream has ended. A frame is read with one
read for the beginning of its header and then exactly the octets that are missing, so a reader never
takes an octet of the next frame. An end before the first octet of a header is a clean end; any
later one cuts a frame short.

A reader that is interrupted while it gathers missing octets tries again; the read that begins a
header reports the interruption.
-/

set_option autoImplicit false
set_option relaxedAutoImplicit false

namespace HeadlessDisplay

/-- One thing that happens to a reader. -/
inductive Arrival
  /-- Octets come in together; none at all means that the stream ends here for one read. -/
  | data (octets : Octets)
  /-- A read fails. -/
  | failure (fault : Fault)
  /-- Nothing is ready yet. -/
  | notReady
deriving DecidableEq

/-- Why no frame could be read or written. -/
inductive StreamError
  /-- The stream ended inside a frame. -/
  | truncated
  /-- The header or the payload is too large. -/
  | framing (error : FrameError)
  /-- The stream failed. -/
  | transport (fault : Fault)
deriving DecidableEq, Repr

/-- The error in words. -/
def StreamError.message : StreamError → String
  | .truncated => "stream ended mid-frame"
  | .framing error =>
    let text := error.message
    s!"framing error: {text}"
  | .transport fault =>
    let text := fault.message
    s!"transport error: {text}"

/-- What lies behind the error, in words. -/
def StreamError.causes : StreamError → List String
  | .truncated => []
  | .framing error => [error.message]
  | .transport fault => [fault.message]

/-- What comes to a reader. -/
abbrev Incoming := List Arrival

namespace Incoming

/-- The octets of a script that has no failures in it, up to its end. -/
def octets : Incoming → Octets
  | [] => []
  | .data [] :: _ => []
  | .data chunk :: rest => chunk ++ octets rest
  | .failure _ :: _ => []
  | .notReady :: rest => octets rest

/-- A bound on the reads that a script can answer. -/
def size : Incoming → Nat
  | [] => 0
  | .data chunk :: rest => chunk.length + 1 + size rest
  | .failure _ :: rest => 1 + size rest
  | .notReady :: rest => 1 + size rest

/-- Puts back what a read left of a chunk. -/
def putBack (left : Octets) (rest : Incoming) : Incoming :=
  if left.isEmpty then rest else .data left :: rest

/-- Why a read gives no octets. -/
inductive Stop
  /-- The stream has ended. -/
  | ended
  /-- The stream failed. -/
  | failed (fault : Fault)
deriving DecidableEq

/-- One read into a buffer of the given capacity. -/
def read (capacity : Nat) : Incoming → Except Stop Octets × Incoming
  | [] => (.error .ended, [])
  | .data chunk :: rest =>
    if chunk.isEmpty then (.error .ended, rest)
    else (.ok (chunk.take capacity), putBack (chunk.drop capacity) rest)
  | .failure fault :: rest => (.error (.failed fault), rest)
  | .notReady :: rest => read capacity rest

/-- Reads until exactly the given number of octets has come. -/
def gather : Nat → Incoming → Except Stop Octets × Incoming
  | 0, script => (.ok [], script)
  | _ + 1, [] => (.error .ended, [])
  | needed + 1, .data chunk :: rest =>
    if chunk.isEmpty then (.error .ended, rest)
    else if needed + 1 ≤ chunk.length then
      (.ok (chunk.take (needed + 1)), putBack (chunk.drop (needed + 1)) rest)
    else
      match gather (needed + 1 - chunk.length) rest with
      | (.ok more, rest) => (.ok (chunk ++ more), rest)
      | (.error stop, rest) => (.error stop, rest)
  | needed + 1, .failure fault :: rest =>
    if fault.kind = .interrupted then gather (needed + 1) rest
    else (.error (.failed fault), rest)
  | needed + 1, .notReady :: rest => gather (needed + 1) rest

/-- The error of a frame that stops before its end. -/
def Stop.insideFrame : Stop → StreamError
  | .ended => .truncated
  | .failed fault => if fault.kind = .unexpectedEof then .truncated else .transport fault

/-- Reads one frame; there is none if the stream ends before its first octet. -/
def readFrame (limit : Nat) (script : Incoming) : Except StreamError (Option Octets) × Incoming :=
  match read Frame.headerSize script with
  | (.error .ended, rest) => (.ok none, rest)
  | (.error (.failed fault), rest) => (.error (.transport fault), rest)
  | (.ok first, rest) =>
    match gather (Frame.headerSize - first.length) rest with
    | (.error stop, rest) => (.error stop.insideFrame, rest)
    | (.ok second, rest) =>
      match Frame.declaredLength (first ++ second) limit with
      | .error error => (.error (.framing error), rest)
      | .ok declared =>
        match gather declared rest with
        | (.error stop, rest) => (.error stop.insideFrame, rest)
        | (.ok payload, rest) => (.ok (some payload), rest)

/-- Putting octets back adds no more than the chunk they make. -/
theorem size_putBack_le (left : Octets) (rest : Incoming) :
    (putBack left rest).size ≤ left.length + 1 + rest.size := by
  unfold putBack
  split
  · omega
  · exact Nat.le_refl _

/-- A read that gives octets uses something up. -/
theorem size_read_lt {capacity : Nat} (positive : 0 < capacity) {script rest : Incoming}
    {first : Octets} (h : read capacity script = (.ok first, rest)) : rest.size < script.size := by
  induction script with
  | nil => simp [read] at h
  | cons arrival script ih =>
    cases arrival with
    | data chunk =>
      simp only [read] at h
      by_cases empty : chunk.isEmpty
      · simp [empty] at h
      · rw [if_neg empty] at h
        simp only [Prod.mk.injEq] at h
        have nonempty : 0 < chunk.length := by
          cases chunk with
          | nil => simp at empty
          | cons octet chunk => simp
        have back := size_putBack_le (chunk.drop capacity) script
        rw [h.2, List.length_drop] at back
        simp only [size]
        omega
    | failure fault => simp [read] at h
    | notReady =>
      simp only [read] at h
      have := ih h
      simp only [size]
      omega

/-- Gathering octets never adds to a script. -/
theorem size_gather_le (needed : Nat) (script : Incoming) :
    (gather needed script).2.size ≤ script.size := by
  induction script generalizing needed with
  | nil => cases needed <;> simp [gather]
  | cons arrival script ih =>
    cases needed with
    | zero => simp [gather]
    | succ needed =>
      cases arrival with
      | data chunk =>
        simp only [gather]
        split
        · simp only [size]; omega
        · split
          · have back := size_putBack_le (chunk.drop (needed + 1)) script
            simp only [size, List.length_drop] at back ⊢
            omega
          · have tail := ih (needed + 1 - chunk.length)
            split <;> simp_all only [size] <;> omega
      | failure fault =>
        simp only [gather]
        split
        · have := ih (needed + 1); simp only [size]; omega
        · simp only [size]; omega
      | notReady =>
        simp only [gather]
        have := ih (needed + 1)
        simp only [size]
        omega

/-- Reading a frame uses something up. -/
theorem size_readFrame_lt {limit : Nat} {script rest : Incoming} {payload : Octets}
    (h : readFrame limit script = (.ok (some payload), rest)) : rest.size < script.size := by
  unfold readFrame at h
  split at h
  · simp at h
  · simp at h
  · rename_i first after begun
    have start := size_read_lt (by simp [Frame.headerSize]) begun
    have middle := size_gather_le (Frame.headerSize - first.length) after
    split at h
    · simp at h
    · rename_i second between header
      rw [header] at middle
      split at h
      · simp at h
      · rename_i declared _
        have body := size_gather_le declared between
        split at h
        · simp at h
        · rename_i whole final gathered
          rw [gathered] at body
          simp only [Prod.mk.injEq] at h
          rw [← h.2]
          simp only at middle body
          omega

/-- Reads frames until there is no further one. -/
def readFrames (limit : Nat) (script : Incoming) : List Octets × Option StreamError :=
  match _found : readFrame limit script with
  | (.ok none, _) => ([], none)
  | (.error error, _) => ([], some error)
  | (.ok (some payload), rest) =>
    let (payloads, ending) := readFrames limit rest
    (payload :: payloads, ending)
termination_by script.size
decreasing_by exact size_readFrame_lt _found

end Incoming

/-- The writing side of a stream: how it takes octets, and what it has taken. -/
structure Outgoing where
  /-- The most octets taken by one write. -/
  chunk : Option Nat
  /-- The number of octets after which writes fail. -/
  room : Option Nat
  /-- How they fail; with no failure given they take nothing. -/
  writeFault : Option Fault
  /-- How flushing fails. -/
  flushFault : Option Fault
  /-- The octets taken. -/
  written : Octets
  /-- How often the stream was flushed. -/
  flushes : Nat
deriving DecidableEq

namespace Outgoing

/-- A stream that takes everything. -/
def unlimited : Outgoing :=
  ⟨none, none, none, none, [], 0⟩

/-- The failure of a write that takes nothing of a buffer. -/
def writeZero : Fault :=
  .described .writeZero "write zero byte into writer"

/-- The octets of a buffer that the stream takes, over as many writes as that needs. -/
def accepted (stream : Outgoing) (buffer : Octets) : Octets :=
  if stream.chunk = some 0 then []
  else
    match stream.room with
    | none => buffer
    | some room => buffer.take (room - stream.written.length)

/-- Whether the room is used up. -/
def isFull (stream : Outgoing) : Bool :=
  stream.room.any (· ≤ stream.written.length)

/-- Writes a buffer as far as the stream takes it. What is not taken makes the write fail: in the
way of the stream if its room is used up, and else for taking nothing. -/
def writeAll (stream : Outgoing) (buffer : Octets) : Except Fault Unit × Outgoing :=
  let taken := stream.accepted buffer
  let stream := { stream with written := stream.written ++ taken }
  if taken.length = buffer.length then (.ok (), stream)
  else if stream.isFull then (.error (stream.writeFault.getD writeZero), stream)
  else (.error writeZero, stream)

/-- Flushes the stream. -/
def flush (stream : Outgoing) : Except Fault Unit × Outgoing :=
  let flushed := { stream with flushes := stream.flushes + 1 }
  match stream.flushFault with
  | some fault => (.error fault, flushed)
  | none => (.ok (), flushed)

/-- Writes a payload as one frame and flushes. -/
def writeFrame (stream : Outgoing) (payload : Octets) : Except StreamError Unit × Outgoing :=
  match Frame.encode payload with
  | .error error => (.error (.framing error), stream)
  | .ok frame =>
    match stream.writeAll frame with
    | (.error fault, stream) => (.error (.transport fault), stream)
    | (.ok (), stream) =>
      match stream.flush with
      | (.error fault, stream) => (.error (.transport fault), stream)
      | (.ok (), stream) => (.ok (), stream)

end Outgoing

end HeadlessDisplay
