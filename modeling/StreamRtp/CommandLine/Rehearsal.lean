import StreamRtp.CommandLine.Listener
import StreamRtp.Socket.Turns

/-!
# Rehearsals

A rehearsal runs a command against peers inside the same program, over connected pairs: a sender
against one peer, a listener against clients that take turns.
-/

namespace StreamRtp.CommandLine

open Socket

/-! ## Sending -/

/-- How a peer behaves: what it has written, and what it has closed, before the first packet. -/
structure Peer where
  writes : Bytes
  halfCloses : Bool
  closes : Bool
  deriving DecidableEq, Repr

namespace Peer

/-- The connection to a peer. -/
def pair (p : Peer) : Pair :=
  { Pair.fresh with
    toEngine := p.writes
    peerOpen := !p.closes
    peerWrites := !p.halfCloses }

/-- Send to a peer. The bytes that it got are returned along with the outcome. -/
def rehearse (p : Peer) (options : SendOptions) (ssrc : UInt32) :
    CommandOutcome Sender.Failure World Stream × Bytes :=
  let (stream, w) := World.empty.connect p.pair
  let out := Sender.run options ssrc (.ok stream) w
  (out, (out.world.pair stream).received)

end Peer

/-! ## Serving -/

/-- Who connects: failed attempts, clients that have written and closed already, and clients that
take turns. -/
structure Audience where
  failures : Nat
  gone : List Bytes
  clients : List Bytes
  deriving DecidableEq, Repr

namespace Audience

/-- The world of the clients. -/
def world (a : Audience) : Turns := .ofPeers a.gone a.clients

/-- Everybody arrives before the receive loop begins, the failures first. -/
def arrivals (a : Audience) : List (AcceptStep Stream) :=
  List.replicate a.failures (.arrive (.error (.os 103)))
    ++ ((List.range (a.gone.length + a.clients.length)).map fun i ↦
      .arrive (.ok (⟨i⟩, "client " ++ toString i))) ++ [.wake]

/-- A number of rounds that is enough: the clients that are gone take two of them together, every
other client two of its own. -/
def rounds (a : Audience) : Nat := 2 * (a.clients.length + 2)

/-- Run the receive loop with this audience. What each of the clients got is returned along with the
number of packets. -/
def serve (a : Audience) (echo : Bool) (maxPacketSize : Nat) :
    Except TransmitError Nat × List Bytes × List LogRecord :=
  let start := Listener.State.start maxPacketSize [a.arrivals] a.world
  let (received, s) := start.receive echo a.rounds
  (received, s.scene.world.received a.gone.length, s.journal.log)

/-- Run a whole listener with this audience. If it is not bound to its address, nobody gets
anything. -/
def listen (a : Audience) (options : ListenOptions) (bound : Except IoError Unit)
    (input : Bytes) : Listener.Outcome Turns Stream × List Bytes :=
  let out := Listener.run options bound [a.arrivals] a.rounds input a.world
  (out, out.world.received a.gone.length)

end Audience

end StreamRtp.CommandLine
