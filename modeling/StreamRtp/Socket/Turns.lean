import StreamRtp.Socket.Pair

/-!
# Clients that take turns

A world of connected pairs whose peers act one after the other: whenever a wait finds nothing that
can be read, the next peer has its turn. In its turn a peer writes its bytes and ends what it
writes; it goes on reading.
-/

namespace StreamRtp.Socket

/-- Pairs, and the peers that have not had their turn, with what they will write. -/
structure Turns where
  world : World
  waiting : List (Stream × Bytes)

namespace Turns

/-- Peers whose bytes wait already and who have closed their end, followed by peers that take
turns. -/
def ofPeers (gone clients : List Bytes) : Turns where
  world := ⟨gone.map (fun data ↦ { Pair.fresh with toEngine := data, peerOpen := false })
    ++ clients.map fun _ ↦ Pair.fresh⟩
  waiting := clients.zipIdx.map fun (data, i) ↦ (⟨gone.length + i⟩, data)

/-- Let a peer write and end its stream. -/
def finish (p : Pair) (data : Bytes) : Pair := (p.peerWrite data).2.peerHalfClose

/-- Give the next peer its turn. -/
def advance (t : Turns) : Turns :=
  match t.waiting with
  | [] => t
  | (s, data) :: waiting => ⟨t.world.setPair s (finish (t.world.pair s) data), waiting⟩

/-- Do something to the pairs. -/
def lift {α : Type} (t : Turns) (out : α × World) : α × Turns := (out.1, { t with world := out.2 })

/-- What is true of the handles. -/
def readiness (t : Turns) (handles : List (Handle Stream)) : Except IoError Readiness :=
  t.world.readiness handles

/-- Whether nothing can be read. -/
def isQuiet (t : Turns) (handles : List (Handle Stream)) : Bool :=
  match t.readiness handles with
  | .ok r => r.count = 0
  | .error _ => false

/-- The bytes that each of the peers has got, from the given number on. -/
def received (t : Turns) (start : Nat) : List Bytes := (t.world.pairs.drop start).map Pair.received

end Turns

instance : Network Turns Stream where
  id s := s.id
  bytesAvailable s t := t.lift (Network.bytesAvailable s t.world)
  read s want t := t.lift (Network.read s want t.world)
  read_le s want t := Network.read_le s want t.world
  writeAll s data t := t.lift (Network.writeAll s data t.world)
  waitReady handles timeout t :=
    let t := if timeout ≠ .zero ∧ t.isQuiet handles then t.advance else t
    (t.readiness handles, t)
  now _ := 0

end StreamRtp.Socket
