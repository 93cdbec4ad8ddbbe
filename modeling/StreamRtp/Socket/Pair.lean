import StreamRtp.Network

/-!
# Connected pairs of streams

A pair of streams as the operating system makes it: what is written at one end can be read at the
other end at once, in order. The engine has one end, its peer the other. A write fails once the
other end is closed; the end of a stream shows when everything that was written before it has been
read.
-/

namespace StreamRtp.Socket

/-- A connected pair. -/
structure Pair where
  /-- What the peer has written and the engine has not read. -/
  toEngine : Bytes
  /-- What the engine has written and the peer has not read, the last write first. -/
  toPeer : List Bytes
  /-- Whether the peer has its end open. -/
  peerOpen : Bool
  /-- Whether the peer can still write. -/
  peerWrites : Bool
  /-- Whether the end of the engine is open. -/
  engineOpen : Bool
  deriving DecidableEq, Repr

namespace Pair

/-- A new pair. -/
def fresh : Pair := ⟨[], [], true, true, true⟩

/-! ## The end of the engine -/

/-- Whether the peer has ended its stream. -/
def ended (p : Pair) : Bool := !p.peerOpen || !p.peerWrites

/-- The end of the engine as the system sees it. -/
def descriptor (p : Pair) : Descriptor := .stream p.toEngine.length p.ended

/-- Read at most so many bytes. Without any the read says that there are none yet, or none any
more. -/
def read (p : Pair) (want : Nat) : Except IoError Bytes × Pair :=
  if p.toEngine.isEmpty && !p.ended then (.error (.os 11), p)
  else (.ok (p.toEngine.take want), { p with toEngine := p.toEngine.drop want })

theorem length_le_of_read (p : Pair) {want : Nat} {bytes : Bytes}
    (h : (p.read want).1 = .ok bytes) : bytes.length ≤ want := by
  rw [read] at h
  split at h
  · cases h
  · cases h
    exact List.length_take_le ..

/-- Write to the peer. Writing nothing never fails. -/
def write (p : Pair) (data : Bytes) : Except IoError Unit × Pair :=
  if data.isEmpty || p.peerOpen then (.ok (), { p with toPeer := data :: p.toPeer })
  else (.error (.os 32), p)

/-! ## The end of the peer -/

/-- What the engine has written and the peer has not read. -/
def received (p : Pair) : Bytes := p.toPeer.reverse.flatten

/-- Let the peer read everything that waits for it. The answer also says whether the engine has
closed its end. -/
def peerRead (p : Pair) : (Bytes × Bool) × Pair :=
  ((p.received, !p.engineOpen), { p with toPeer := [] })

/-- Let the peer write. Writing nothing never fails. -/
def peerWrite (p : Pair) (data : Bytes) : Except IoError Unit × Pair :=
  if data.isEmpty || p.engineOpen && !p.ended then
    (.ok (), { p with toEngine := p.toEngine ++ data })
  else (.error (.os 32), p)

/-- Let the peer end what it writes. -/
def peerHalfClose (p : Pair) : Pair := { p with peerWrites := false }

/-- Let the peer close its end. -/
def peerClose (p : Pair) : Pair := { p with peerOpen := false }

end Pair

/-- The end of the engine in a pair, by the number of the pair. -/
structure Stream where
  number : Nat
  deriving DecidableEq, Repr

namespace Stream

/-- The identity of a stream: its number. -/
def id (s : Stream) : ConnectionId := ⟨s.number.toUInt64⟩

end Stream

/-- Pairs by number. -/
structure World where
  pairs : List Pair

namespace World

/-- A world without pairs. -/
def empty : World := ⟨[]⟩

/-- The pair of a stream. -/
def pair (w : World) (s : Stream) : Pair := w.pairs.getD s.number .fresh

/-- Replace the pair of a stream. -/
def setPair (w : World) (s : Stream) (p : Pair) : World := ⟨w.pairs.set s.number p⟩

/-- Make a pair. -/
def connect (w : World) (p : Pair) : Stream × World := (⟨w.pairs.length⟩, ⟨w.pairs ++ [p]⟩)

/-- What the system finds behind a handle. -/
def descriptor (w : World) : Handle Stream → Descriptor
  | .stream s => (w.pair s).descriptor
  | .abort raised => .stream (if raised then 1 else 0) false

/-- What is true of the handles. -/
def readiness (w : World) (handles : List (Handle Stream)) : Except IoError Readiness :=
  (PollOutcome.found (handles.map w.descriptor)).report

/-- Close the end of the engine in every pair that nobody has any more. -/
def closeExcept (w : World) (kept : List Stream) : World :=
  ⟨w.pairs.mapIdx fun number p ↦
    if kept.contains ⟨number⟩ then p else { p with engineOpen := false }⟩

end World

instance : Network World Stream where
  id s := s.id
  bytesAvailable s w := ((w.pair s).descriptor.bytesAvailable, w)
  read s want w :=
    let (answer, p) := (w.pair s).read want
    (answer, w.setPair s p)
  read_le s _ w _ h := (w.pair s).length_le_of_read h
  writeAll s data w :=
    let (answer, p) := (w.pair s).write data
    (answer, w.setPair s p)
  waitReady handles _ w := (w.readiness handles, w)
  now _ := 0

end StreamRtp.Socket
