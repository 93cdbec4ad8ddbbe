import StreamRtp.CommandLine.Sender

/-!
# Serving clients

The listener accepts clients, registers each of them with its engine, and receives packets from all
of them until it is stopped. Every packet is reported. With `echo`, media packets are sent back to
every client, its source included; control packets never are.

## Accepting and receiving

Clients are accepted while the receive loop runs. The accept loop registers a client, and then it
wakes the wait of the receive loop, so that the client takes part in the next one. `State.arrivals`
is the plan of these steps: the first entry has those that are taken before the next step of the
receive loop, the second one those before the step after that, and so on. A statement for every plan
is a statement for every interleaving of the two loops.

A failed echo is reported and does not end the loop. A failed wait or a failed receive pass does.
-/

namespace StreamRtp.CommandLine

/-- A client that was accepted, with its address, or the failure of an attempt to accept one. -/
abbrev Arrival (σ : Type) := Except IoError (σ × String)

/-- A step of the accept loop. -/
inductive AcceptStep (σ : Type) where
  /-- Deal with whoever has come. -/
  | arrive (arrival : Arrival σ)
  /-- Wake the receive loop. -/
  | wake

namespace Listener

variable {W σ : Type}

/-- A listener between two steps. -/
structure State (W σ : Type) where
  scene : Scene W σ
  /-- The number of packets taken out of the queue, without its bound of 64 bits: no run gets
  there. -/
  received : Nat
  /-- The steps of the accept loop before the coming steps of the receive loop. -/
  arrivals : List (List (AcceptStep σ))
  /-- Whether the receive loop is still to be woken for a client. -/
  owed : Bool
  journal : Journal σ

variable [Network W σ]

/-! ## Accepting -/

/-- Wake the receive loop, if there is a client that it was not woken for. -/
def State.wake (s : State W σ) : State W σ :=
  if s.owed then
    let woken := s.scene.abortWait
    let journal := s.journal.events woken.events
    { s with
      scene := woken.scene
      owed := false
      journal :=
        match woken.result with
        | .error e => journal.notice (.wakeFailed e)
        | .ok () => journal }
  else s

/-- Register a client. -/
def State.arrive (s : State W σ) : Arrival σ → State W σ
  | .error e => { s with journal := s.journal.notice (.acceptFailed e) }
  | .ok (stream, peer) =>
    let added := s.scene.withCore (·.addDestination stream)
    let s := { s with scene := added.scene, journal := s.journal.events added.events }
    match added.result with
    | .error e => { s with journal := s.journal.notice (.clientRejected peer e) }
    | .ok id => { s with owed := true, journal := s.journal.notice (.clientConnected id peer) }

/-- Take a step of the accept loop. Nobody is accepted before the receive loop was woken for the
client before. -/
def State.accept (s : State W σ) : AcceptStep σ → State W σ
  | .arrive arrival => s.wake.arrive arrival
  | .wake => s.wake

/-- Take the steps of the accept loop before the next step. -/
def State.meanwhile (s : State W σ) : State W σ :=
  match s.arrivals with
  | [] => s
  | now :: later => now.foldl State.accept { s with arrivals := later }

/-! ## Receiving -/

/-- The number of packets in the queue. -/
def State.queued (s : State W σ) : Nat :=
  match s.scene.engine.lifecycle with
  | .created core => core.queue.length
  | _ => 0

/-- Send a packet back to every client. -/
def State.sendBack (s : State W σ) (packet : Packet) : State W σ :=
  let sent := s.scene.withCore (·.send packet.data)
  let journal := s.journal.events sent.events
  { s with
    scene := sent.scene
    journal :=
      match sent.result with
      | .error e => journal.notice (.echoFailed e)
      | .ok () => journal }

/-- Take the oldest packet out of the queue, report it, and send it back if that is asked for. -/
def State.handle (s : State W σ) (echo : Bool) : State W σ :=
  let taken := s.scene.withCore Core.nextPacket
  match taken.result with
  | .error _ => s
  | .ok packet =>
    let s :=
      { s with
        scene := taken.scene
        received := s.received + 1
        journal := s.journal.notice (.packetReceived packet) }
    if echo && packet.isRtp then s.meanwhile.sendBack packet else s

/-- Handle so many packets. -/
def State.handleAll (echo : Bool) : Nat → State W σ → State W σ
  | 0, s => s
  | n + 1, s => State.handleAll echo n (s.meanwhile.handle echo)

/-- Wait at most a second for data. Clients may arrive while the wait blocks. -/
def State.wait (s : State W σ) : Except TransmitError Bool × State W σ :=
  match s.scene.beginWait with
  | (.decided result, scene) => (result, { s with scene })
  | (.asking ticket, scene) =>
    let s := { s with scene }.meanwhile
    let out := s.scene.finishWait ticket (.ofSeconds 1)
    (out.result, { s with scene := out.scene, journal := s.journal.events out.events })

/-- One round of the receive loop: wait, receive, and handle everything that is queued. -/
def State.round (echo : Bool) (s : State W σ) : Except TransmitError Unit × State W σ :=
  match s.meanwhile.wait with
  | (.error e, s) => (.error e, s)
  | (.ok _, s) =>
    let s := s.meanwhile
    let polled := s.scene.withCore Core.poll
    let s := { s with scene := polled.scene, journal := s.journal.events polled.events }
    match polled.result with
    | .error e => (.error e, s)
    | .ok () => (.ok (), s.handleAll echo s.queued)

/-- So many rounds of the receive loop, unless one fails. -/
def State.rounds (echo : Bool) : Nat → State W σ → Except TransmitError Unit × State W σ
  | 0, s => (.ok (), s)
  | n + 1, s =>
    match s.round echo with
    | (.error e, s) => (.error e, s)
    | (.ok (), s) => State.rounds echo n s

/-- The receive loop: the number of packets it has received when it was stopped after so many
rounds. -/
def State.receive (s : State W σ) (echo : Bool) (rounds : Nat) :
    Except TransmitError Nat × State W σ :=
  let (result, s) := s.rounds echo rounds
  (result.map fun () ↦ s.received, s)

/-! ## The command -/

/-- A thread-safe engine with a hook, and nobody connected. -/
def State.start (maxPacketSize : Nat) (arrivals : List (List (AcceptStep σ))) (w : W) :
    State W σ :=
  let initialized := Scene.init ⟨.new, [], w⟩ true
  let created := initialized.scene.create maxPacketSize ⟨none, true, .acceptAll⟩
  ⟨created.scene, 0, arrivals, false,
    (Journal.events [] initialized.events).events created.events⟩

/-- The first line of the input, with its end if there is one. -/
def firstLine : Bytes → Bytes
  | [] => []
  | b :: rest => if b = 10 then [b] else b :: firstLine rest

/-- Wait for a line of input, which has to be text. -/
def awaitLine (input : Bytes) : Except IoError Unit :=
  if (String.fromUTF8? ⟨(firstLine input).toArray⟩).isSome then .ok ()
  else .error (.described .invalidData "stream did not contain valid UTF-8")

/-- How a listener ended, and what it has written. -/
structure Outcome (W σ : Type) extends CommandOutcome TransmitError W σ where
  output : String

/-- What the listener says when it is ready. -/
def greeting (address : String) : String :=
  "Listening on " ++ address ++ " - press Enter to stop\n"

/-- End a listener that was told to stop: the round that is under way is finished first, unless the
receive loop has failed before, and then the accept loop does what it has begun. -/
def State.stop (s : State W σ) (echo : Bool) (result : Except TransmitError Unit) :
    CommandOutcome TransmitError W σ :=
  let woken := s.scene.abortWait
  let s := { s with scene := woken.scene, journal := s.journal.events woken.events }
  let (result, s) : Except TransmitError Unit × State W σ :=
    match result with
    | .error e => (.error e, s)
    | .ok () => s.round echo
  let s := s.meanwhile.wake
  let destroyed := s.scene.destroy
  let packets :=
    match result with
    | .error _ => 0
    | .ok () => s.received
  ⟨result, destroyed.scene.world,
    ((s.journal.notice .acceptLoopEnded).events destroyed.events).notice (.stopped packets)⟩

/-- Serve clients until a line of input arrives, which happens after so many rounds of the receive
loop. -/
def run (options : ListenOptions) (bound : Except IoError Unit)
    (arrivals : List (List (AcceptStep σ))) (rounds : Nat) (input : Bytes) (w : W) : Outcome W σ :=
  let s := State.start options.maxPacketSize arrivals w
  match bound with
  | .error e => ⟨⟨.error (.io e), s.scene.world, s.journal.events s.scene.abandon⟩, ""⟩
  | .ok () =>
    let s :=
      { s with
        journal :=
          s.journal.notice (.listening options.bind options.echo options.maxPacketSize) }
    let (result, s) := s.rounds options.echo rounds
    match awaitLine input with
    | .error e => ⟨⟨.error (.io e), s.scene.world, s.journal⟩, greeting options.bind⟩
    | .ok () => ⟨s.stop options.echo result, greeting options.bind⟩

end Listener

end StreamRtp.CommandLine
