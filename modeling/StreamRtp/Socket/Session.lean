import StreamRtp.Engine.Call
import StreamRtp.Socket.Pair

/-!
# Sessions over connected pairs

One engine, created with a hook, whose streams are ends of connected pairs. The session has the
other ends, and it holds the streams that the engine has not got. A stream that neither of them has
any more is closed.
-/

namespace StreamRtp.Socket

/-- What a session can be told to do. -/
inductive Command where
  /-- Make a pair. The end of the engine is held. -/
  | connect
  /-- A call of the engine other than to add a stream. -/
  | call (call : Call Stream)
  /-- Give a held stream to the engine. -/
  | add (s : Stream)
  /-- Take packets until none is left. -/
  | drain
  /-- Ask a held stream how many bytes wait. -/
  | available (s : Stream)
  | peerWrite (s : Stream) (data : Bytes)
  | peerRead (s : Stream)
  | peerHalfClose (s : Stream)
  | peerClose (s : Stream)

/-- What a command came to. -/
inductive Result where
  | done
  | connected (s : Stream)
  | reply (result : Except TransmitError (Reply Stream))
  | notHeld
  | drained (packets : List Packet)
  | counted (result : Except IoError Nat)
  | written (result : Except IoError Unit)
  | peerGot (data : Bytes) (ended : Bool)

/-- The result of a command, what happened, and how the engine stands afterwards. -/
structure Report where
  result : Result
  events : List (Event Stream)
  destinations : Option (List ConnectionId)
  queued : Bool

/-- An engine over pairs, and the streams it has not got. -/
structure Session where
  scene : Scene World Stream
  held : List Stream

namespace Session

/-- A session with a created engine. -/
def new (threadSafe : Bool) (maxPacketSize : Nat) (mode : ReceiveMode) : Session :=
  let scene : Scene World Stream := ⟨.new, [], .empty⟩
  let scene := (scene.init threadSafe).scene
  ⟨(scene.create maxPacketSize ⟨none, true, mode⟩).scene, []⟩

/-- The streams that the engine has. -/
def registered (s : Session) : List Stream :=
  match s.scene.engine.lifecycle with
  | .created core => core.streams
  | _ => []

/-- Change the world. -/
def world (s : Session) (f : World → World) : Session :=
  { s with scene := { s.scene with world := f s.scene.world } }

/-- Change the pair of a stream. -/
def pair (s : Session) (stream : Stream) (f : Pair → Pair) : Session :=
  s.world fun w ↦ w.setPair stream (f (w.pair stream))

/-- Perform a call. A stream that the engine hands back is held again. -/
def call (s : Session) (c : Call Stream) : (Result × List (Event Stream)) × Session :=
  let out := s.scene.perform c
  let held :=
    match out.result with
    | .ok (.stream stream) => stream :: s.held
    | _ => s.held
  ((.reply out.result, out.events), ⟨out.scene, held⟩)

/-- Perform a command, without closing anything. -/
def step (s : Session) : Command → (Result × List (Event Stream)) × Session
  | .connect =>
    let (stream, w) := s.scene.world.connect .fresh
    ((.connected stream, []), { s.world fun _ ↦ w with held := stream :: s.held })
  | .call c => s.call c
  | .add stream =>
    if s.held.contains stream then
      { s with held := s.held.erase stream }.call (.addDestination stream)
    else ((.notHeld, []), s)
  | .drain =>
    let ((packets, _), scene) := s.scene.drain
    ((.drained packets, []), { s with scene })
  | .available stream =>
    ((.counted (s.scene.world.pair stream).descriptor.bytesAvailable, []), s)
  | .peerWrite stream data =>
    let (answer, p) := (s.scene.world.pair stream).peerWrite data
    ((.written answer, []), s.pair stream fun _ ↦ p)
  | .peerRead stream =>
    let ((data, ended), p) := (s.scene.world.pair stream).peerRead
    ((.peerGot data ended, []), s.pair stream fun _ ↦ p)
  | .peerHalfClose stream => ((.done, []), s.pair stream Pair.peerHalfClose)
  | .peerClose stream => ((.done, []), s.pair stream Pair.peerClose)

/-- Perform a command. Streams that nobody has afterwards are closed. -/
def perform (s : Session) (command : Command) : Report × Session :=
  let ((result, events), s) := s.step command
  let s := s.world (·.closeExcept (s.held ++ s.registered))
  (⟨result, events, s.scene.destinations?, s.scene.newDataAvailable⟩, s)

end Session

end StreamRtp.Socket
