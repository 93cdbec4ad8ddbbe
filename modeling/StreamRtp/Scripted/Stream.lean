import StreamRtp.Network

/-!
# Scripted streams

A network without a network: every stream follows a script. A script is a queue of items that say
what the next question about waiting bytes and the next read find, and a list of what becomes of the
next writes. The poller follows prepared answers as long as there are any; after that it reports
what is true.

Scripts make every behaviour of peers and poller reproducible, also the rare ones: short counts,
reads that fail in the middle of a frame, answers of the poller that contradict themselves.
-/

namespace StreamRtp.Scripted

/-- One item of what arrives on a stream. -/
inductive Item where
  /-- Bytes that can be read, and the number of bytes that is claimed to wait, if it is another
  one. -/
  | data (bytes : Bytes) (claimed : Option Nat)
  /-- A failure of the next read, and the number of bytes that is claimed to wait before it. -/
  | readError (cause : IoError) (claimed : Nat)
  /-- A failure of the next question about waiting bytes. -/
  | availableError (cause : IoError)
  deriving DecidableEq, Repr

/-- The script of one stream. -/
structure Script where
  /-- What arrives, next item first. -/
  items : List Item
  /-- Whether the peer has ended the stream. -/
  closed : Bool
  /-- What becomes of the next writes: a failure, or nothing in particular. -/
  nextWrites : List (Option IoError)
  /-- What becomes of every other write, if it fails. -/
  writeFailure : Option IoError
  deriving DecidableEq, Repr

namespace Script

/-- A stream on which nothing has arrived. -/
def fresh : Script := ⟨[], false, [], none⟩

/-- The number of bytes that is claimed to wait. -/
def bytesAvailable (s : Script) : Except IoError Nat × Script :=
  match s.items with
  | [] => (.ok 0, s)
  | .data bytes claimed :: _ => (.ok (claimed.getD bytes.length), s)
  | .readError _ claimed :: _ => (.ok claimed, s)
  | .availableError cause :: items => (.error cause, { s with items })

/-- Read at most so many bytes. What is left of an item stays first. -/
def read (s : Script) (want : Nat) : Except IoError Bytes × Script :=
  match s.items with
  | [] => (.ok [], s)
  | .data bytes _ :: items =>
    let left := bytes.drop want
    (.ok (bytes.take want),
      { s with items := if left.isEmpty then items else .data left none :: items })
  | .readError cause _ :: items | .availableError cause :: items => (.error cause, { s with items })

theorem length_le_of_read (s : Script) {want : Nat} {bytes : Bytes}
    (h : (s.read want).1 = .ok bytes) : bytes.length ≤ want := by
  rw [read] at h
  split at h
  · cases h
    exact Nat.zero_le want
  · cases h
    exact List.length_take_le ..
  all_goals cases h

/-- The failure of a write, or nothing. -/
def verdict : Option IoError → Except IoError Unit
  | some cause => .error cause
  | none => .ok ()

/-- Write. A prepared result for this one write comes before the lasting one. -/
def write (s : Script) : Except IoError Unit × Script :=
  match s.nextWrites with
  | some cause :: nextWrites => (.error cause, { s with nextWrites })
  | none :: nextWrites => (verdict s.writeFailure, { s with nextWrites })
  | [] => (verdict s.writeFailure, s)

/-- Whether a readiness wait finds the stream readable. -/
def isReadable (s : Script) : Bool := !s.items.isEmpty || s.closed

end Script

/-- A scripted stream, by name and identity. -/
structure Stream where
  name : String
  id : ConnectionId
  deriving DecidableEq, Repr

/-- The scripts by the names of their streams, and the prepared answers of the poller. -/
structure World where
  scripts : List (String × Script)
  answers : List (Except IoError Readiness)

namespace World

/-- A world without streams. -/
def empty : World := ⟨[], []⟩

/-- The script of a stream. -/
def script (w : World) (name : String) : Script := (w.scripts.lookup name).getD .fresh

/-- Replace the script of a stream. -/
def setScript (w : World) (name : String) (s : Script) : World :=
  { w with scripts := (name, s) :: w.scripts.filter (·.1 ≠ name) }

/-- Change the script of a stream. -/
def modifyScript (w : World) (name : String) (f : Script → Script) : World :=
  w.setScript name (f (w.script name))

/-- What is true of the handles at the moment. -/
def readiness (w : World) (handles : List (Handle Stream)) : Readiness :=
  .ofFlags (handles.map fun
    | .stream s => (w.script s.name).isReadable
    | .abort raised => raised)

/-- The answer of the poller: a prepared one, or what is true. -/
def waitReady (w : World) (handles : List (Handle Stream)) : Except IoError Readiness × World :=
  match w.answers with
  | answer :: answers => (answer, { w with answers })
  | [] => (.ok (w.readiness handles), w)

end World

instance : Network World Stream where
  id s := s.id
  bytesAvailable s w :=
    let (answer, script) := (w.script s.name).bytesAvailable
    (answer, w.setScript s.name script)
  read s want w :=
    let (answer, script) := (w.script s.name).read want
    (answer, w.setScript s.name script)
  read_le s _ w _ h := (w.script s.name).length_le_of_read h
  writeAll s _ w :=
    let (answer, script) := (w.script s.name).write
    (answer, w.setScript s.name script)
  waitReady handles _ w := w.waitReady handles
  now _ := 0

end StreamRtp.Scripted
