import StreamRtp.CommandLine.Arguments
import StreamRtp.CommandLine.Journal
import StreamRtp.Engine.Call
import StreamRtp.Rtp.Source

/-!
# Sending media to a peer

The sender builds the given number of packets, of which the last one carries the marker, and sends
each of them over one connection. After each packet it receives what the peer has sent back, if
anything, and lets the media clock move on by one interval. A failure to send or to receive ends it.

A connection that is lost while receiving is no failure of the call that notices it: the engine
drops the connection and goes on without a destination.

## Overflow

Arithmetic is checked. The ticks of an interval are a product and a quotient of 64 bits, and for
long intervals the product does not fit. The sender panics then: it has a connection by that time,
and it has sent nothing.
-/

namespace StreamRtp.CommandLine

/-- The number of clock ticks in a second. -/
def clockRate : UInt64 := 90000

/-- The ticks of an interval in milliseconds, if the product with the clock rate fits in 64 bits. -/
def timestampStep (interval : UInt64) : Option UInt32 :=
  if clockRate.toNat * interval.toNat < UInt64.size then
    some (clockRate * interval / 1000).toUInt32
  else none

/-- A payload of the given size: the bytes count up, modulo 256. -/
def payload (size : Nat) : Bytes := (List.range size).map UInt8.ofNat

/-- How a command ended: its result, the world, and what happened. -/
structure CommandOutcome (ε W σ : Type) where
  result : Except ε Unit
  world : W
  journal : Journal σ

namespace Sender

/-- Why a sender ended without success. -/
inductive Failure where
  /-- An operation has failed. -/
  | failed (cause : TransmitError)
  /-- A product did not fit. -/
  | panicked
  deriving DecidableEq

variable {W σ : Type}

/-- A sender between two packets. -/
structure State (W σ : Type) where
  scene : Scene W σ
  source : Rtp.Source
  /-- The number of packets received so far, without its bound of 32 bits: nothing but the last
  report looks at it, and it takes `2 ^ 32` packets from the peer to reach the bound. -/
  echoed : Nat
  journal : Journal σ

/-- The packets received from the peer, taken out of the queue and reported. -/
def State.takeEchoes (s : State W σ) : State W σ :=
  let ((packets, _), scene) := s.scene.drain
  { s with
    scene
    echoed := s.echoed + packets.length
    journal := packets.foldl (fun j packet ↦ j.notice (.echoReceived packet)) s.journal }

variable [Network W σ]

/-- Send the next packet and receive what has come back. -/
def State.next (s : State W σ) (last : Bool) (payload : Bytes) (step : UInt32) :
    Except TransmitError Unit × State W σ :=
  let (packet, source) := s.source.packet last payload
  let sent := s.scene.withCore (·.send packet)
  let s := { s with scene := sent.scene, source, journal := s.journal.events sent.events }
  match sent.result with
  | .error e => (.error e, s)
  | .ok () =>
    let polled := s.scene.withCore Core.poll
    let s :=
      { s with
        scene := polled.scene
        source := s.source.advance step
        journal := s.journal.events polled.events }
    match polled.result with
    | .error e => (.error e, s)
    | .ok () => (.ok (), s.takeEchoes)

/-- Send so many packets, unless one fails. The last of them carries the marker. -/
def State.packets (payload : Bytes) (step : UInt32) :
    Nat → State W σ → Except TransmitError Unit × State W σ
  | 0, s => (.ok (), s)
  | remaining + 1, s =>
    match s.next (remaining = 0) payload step with
    | (.error e, s) => (.error e, s)
    | (.ok (), s) => State.packets payload step remaining s

/-- Send over a connected stream, with an engine that exists for this purpose alone. -/
def overStream (options : SendOptions) (ssrc : UInt32) (stream : σ) (w : W) :
    CommandOutcome Failure W σ :=
  let initialized := Scene.init ⟨.new, [], w⟩ false
  let created := initialized.scene.create defaultMaxPacketSize .default
  let added := created.scene.withCore (·.addDestination stream)
  let journal :=
    ((Journal.events [] initialized.events).events created.events).events added.events
  let stopped (e : Failure) (scene : Scene W σ) (journal : Journal σ) :
      CommandOutcome Failure W σ :=
    ⟨.error e, scene.world, journal.events scene.abandon⟩
  match added.result, timestampStep options.interval with
  | .error e, _ => stopped (.failed e) added.scene journal
  | .ok _, none =>
    stopped .panicked added.scene (journal.notice (.sourceCreated options.payloadType ssrc))
  | .ok id, some step =>
    let journal :=
      (journal.notice (.sourceCreated options.payloadType ssrc)).notice
        (.sending id options.connect ssrc options.count)
    let start : State W σ := ⟨added.scene, .new options.payloadType ssrc, 0, journal⟩
    match start.packets (payload options.payloadSize) step options.count with
    | (.error e, s) => stopped (.failed e) s.scene s.journal
    | (.ok (), s) =>
      let destroyed := s.scene.destroy
      ⟨.ok (), destroyed.scene.world,
        (s.journal.notice (.done options.count s.echoed s.source.sequence)).events destroyed.events⟩

/-- Send over the stream that connecting has brought, if it has. -/
def run (options : SendOptions) (ssrc : UInt32) (connected : Except IoError σ) (w : W) :
    CommandOutcome Failure W σ :=
  match connected with
  | .error e => ⟨.error (.failed (.io e)), w, []⟩
  | .ok stream => overStream options ssrc stream w

end Sender

end StreamRtp.CommandLine
