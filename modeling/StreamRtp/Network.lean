import StreamRtp.Bytes
import StreamRtp.Log
import StreamRtp.Readiness

/-!
# The network around an engine

The engine never makes, connects or configures a stream. It is given streams that are connected
already and asks a poller which of them can be read. `Network W σ` says what streams of type `σ` and
the poller do in a world of type `W`: every operation answers and leaves the world changed. A read
gives no more bytes than it was asked for. Nothing else is assumed about the answers, so a statement
for every `Network` is a statement about every behaviour of peers, streams and poller.

## Handles

A readiness wait is given handles. The handle of a stream is the stream. The handle of an abort
channel carries what the poller would find out about it: whether it can be read at that moment.

## Events

`Event` is the history of a call: what was asked of the network with the answers, which frames were
completed, what was reported to the error hook, and what was logged besides, in the order in which
it happened. The log is a view of it.
-/

namespace StreamRtp

/-- What can be put among the handles of a wait. -/
inductive Handle (σ : Type) where
  | stream (s : σ)
  /-- The abort channel, and whether it can be read. -/
  | abort (raised : Bool)
  deriving DecidableEq, Repr

/-- The behaviour of the streams `σ` and the poller in a world `W`. -/
class Network (W : Type) (σ : outParam Type) where
  /-- The identity of a stream, which never changes. -/
  id : σ → ConnectionId
  /-- The number of bytes that can be read without waiting. Zero at a readable stream says that the
  peer ended it. -/
  bytesAvailable : σ → W → Except IoError Nat × W
  /-- Read at most so many bytes. No bytes are read at the end of a stream only. -/
  read : σ → Nat → W → Except IoError Bytes × W
  read_le : ∀ s want w bytes, (read s want w).1 = .ok bytes → bytes.length ≤ want
  /-- Write all the bytes. -/
  writeAll : σ → Bytes → W → Except IoError Unit × W
  /-- Wait until a handle can be read or the time is over. -/
  waitReady : List (Handle σ) → Duration → W → Except IoError Readiness × W
  /-- The time of day, in milliseconds since the epoch. -/
  now : W → Nat

/-- One thing that happened during a call. -/
inductive Event (σ : Type) where
  | bytesAvailable (s : σ) (answer : Except IoError Nat)
  | read (s : σ) (want : Nat) (answer : Except IoError Bytes)
  | write (s : σ) (data : Bytes) (answer : Except IoError Unit)
  | waitReady (handles : List (Handle σ)) (timeout : Duration) (answer : Except IoError Readiness)
  /-- A frame was completed and put to the filter. -/
  | frame (source : ConnectionId) (payload : Bytes) (verdict : Verdict)
  /-- The error hook was told that a connection is dropped. -/
  | hook (id : ConnectionId) (reason : DropReason)
  | log (entry : LogEntry)

/-- What is logged of an event. -/
def Event.entry? {σ : Type} : Event σ → Option LogEntry
  | log entry => some entry
  | frame source payload .accept => some (.frameQueued source payload.length)
  | frame source payload .reject => some (.frameRejected source payload.length)
  | _ => none

end StreamRtp
