import StreamRtp.Engine.Call
import StreamRtp.Scripted.Stream

/-!
# Sessions over scripted streams

A session has several engines that share abort channels and a world of scripted streams, and it
performs commands: calls of an engine, and preparations, which change a script or ask something of a
shared channel. Every command names an engine, also a preparation: the report on a command says how
that engine stands afterwards.

## A second thread

Two commands show what happens when a thread acts while another one is inside a wait. `wait` can
carry commands that are performed while the poller has the word; they see the engine as it is during
a wait. `blockedWait` lets a wait block until something is ready, has another command performed
meanwhile, and then lets the wait end. If that command destroys a thread-safe engine, the wait ends
between the two steps of the destruction. If it signals the channel of the wait several times, the
first signal ends the wait, and how many of the others still fall into the drain is up to the
threads: that number comes with the command.

A stream is either held by the session or given to an engine. An engine that drops a stream, or
refuses it, does not give it back.
-/

namespace StreamRtp.Scripted

/-- What can be done around the engines. -/
inductive Preparation where
  /-- Make a stream, which is held. -/
  | openStream (s : Stream)
  /-- Let items arrive on a stream. -/
  | feed (name : String) (items : List Item)
  /-- Let the peer end a stream. -/
  | close (name : String)
  /-- Set what becomes of all writes. -/
  | failWrites (name : String) (failure : Option IoError)
  /-- Set what becomes of the next writes. -/
  | failNextWrites (name : String) (failures : List (Option IoError))
  /-- Prepare an answer of the poller. -/
  | preparePoller (answer : Except IoError Readiness)
  /-- Ask something of a shared abort channel. -/
  | channel (index : Nat) (request : AbortChannel.Request)

/-- What a session can be told to do, with the number of the engine that the report is about. -/
inductive Command where
  /-- A call of an engine other than those below. -/
  | call (tx : Nat) (call : Call Stream)
  /-- Give a held stream to an engine. -/
  | add (tx : Nat) (name : String)
  /-- Wait for data, while other commands are performed. -/
  | wait (tx : Nat) (timeout : Duration) (during : List Command)
  /-- Block in a wait until something is ready; perform a command meanwhile, and wake the wait
  afterwards if asked to. If the command signals the channel of the wait, so many of its signals are
  late: they fall into the drain. -/
  | blockedWait (tx : Nat) (meanwhile : Command) (late : Nat) (wake : Bool)
  /-- Take packets until none is left. -/
  | drain (tx : Nat)
  /-- Do something around the engines. -/
  | prepare (tx : Nat) (preparation : Preparation)

instance : Inhabited Command := ⟨.drain 0⟩

mutual

/-- What a command came to. -/
inductive Result where
  | reply (result : Except TransmitError (Reply Stream))
  /-- A stream was to be given away that is not held. -/
  | notHeld
  | channel (result : Except TransmitError AbortChannel.Answer)
  | drained (packets : List Packet) (stop : TransmitError)
  /-- A wait, with the reports of the commands performed during it, if it came to that. -/
  | waited (result : Except TransmitError Bool) (during : Option (List Report))
  /-- A wait that could block: whether it did, its result, and the result of the other command. -/
  | blockedWait (blocked : Bool) (result : Except TransmitError Bool) (meanwhile : Result)

/-- The result of a command, what happened, and how the engine stands afterwards. -/
inductive Report where
  | mk (result : Result) (events : List (Event Stream)) (destinations : Option (List ConnectionId))
    (queued : Bool)

end

namespace Report

/-- What the command came to. -/
def result : Report → Result
  | mk result _ _ _ => result

/-- What happened. -/
def events : Report → List (Event Stream)
  | mk _ events _ _ => events

end Report

/-- Several engines with what they share. -/
structure Session where
  engines : List (Engine Stream)
  /-- The shared abort channels. -/
  channels : List AbortChannel
  world : World
  /-- The streams that no engine has. -/
  held : List Stream

namespace Session

/-- A session of new engines and channels. -/
def ofSizes (engines channels : Nat) : Session :=
  ⟨List.replicate engines .new, List.replicate channels .fresh, .empty, []⟩

/-- An engine with its surroundings. -/
def scene (s : Session) (tx : Nat) : Scene World Stream :=
  ⟨s.engines.getD tx .new, s.channels, s.world⟩

/-- The session after something was done to an engine. -/
def put (s : Session) (tx : Nat) (scene : Scene World Stream) : Session :=
  { s with
    engines := s.engines.set tx scene.engine
    channels := scene.channels
    world := scene.world }

/-- The report on a command that concerned an engine. -/
def report (s : Session) (tx : Nat) (result : Result) (events : List (Event Stream)) :
    Report × Session :=
  (.mk result events (s.scene tx).destinations? (s.scene tx).newDataAvailable, s)

/-- Perform a call of an engine. A stream that the engine hands back is held again. -/
def call (s : Session) (tx : Nat) (c : Call Stream) : Report × Session :=
  let out := (s.scene tx).perform c
  let s := s.put tx out.scene
  let s :=
    match out.result with
    | .ok (.stream stream) => { s with held := stream :: s.held }
    | _ => s
  s.report tx (.reply out.result) out.events

/-- Change the script of a stream. -/
def script (s : Session) (name : String) (f : Script → Script) : Session :=
  { s with world := s.world.modifyScript name f }

/-- Do something around the engines. Only a request to a channel has a result to speak of. -/
def prepare (s : Session) : Preparation → (Result × List (Event Stream)) × Session
  | .openStream stream =>
    ((.reply (.ok .done), []),
      { s with
        held := stream :: s.held.filter (·.name ≠ stream.name)
        world := s.world.setScript stream.name .fresh })
  | .feed name items =>
    ((.reply (.ok .done), []),
      s.script name fun script ↦ { script with items := script.items ++ items })
  | .close name =>
    ((.reply (.ok .done), []), s.script name fun script ↦ { script with closed := true })
  | .failWrites name failure =>
    ((.reply (.ok .done), []), s.script name fun script ↦ { script with writeFailure := failure })
  | .failNextWrites name failures =>
    ((.reply (.ok .done), []),
      s.script name fun script ↦ { script with nextWrites := script.nextWrites ++ failures })
  | .preparePoller answer =>
    ((.reply (.ok .done), []),
      { s with world := { s.world with answers := s.world.answers ++ [answer] } })
  | .channel index request =>
    let (result, c, log) := (s.channels.getD index .fresh).perform request
    ((.channel result, logged log), { s with channels := s.channels.set index c })

/-! ## Blocking waits -/

/-- Let a wait end that was blocked until now: the poller reports what is true. -/
def unblock (s : Session) (tx : Nat) (ticket : WaitTicket Stream) :
    Except TransmitError Bool × Session × List (Event Stream) :=
  let scene := s.scene tx
  let out := scene.concludeWait ticket (s.world.readiness (scene.handlesOf ticket))
  (out.result, s.put tx out.scene.leaveWait, out.events)

/-- The event of a wait that asks the poller, with what is true as the answer. -/
def asked (s : Session) (tx : Nat) (ticket : WaitTicket Stream) (timeout : Duration) :
    Event Stream :=
  let handles := (s.scene tx).handlesOf ticket
  .waitReady handles timeout (.ok (s.world.readiness handles))

/-- Whether a wait would block. -/
def blocks (s : Session) (tx : Nat) (ticket : WaitTicket Stream) : Bool :=
  (s.world.readiness ((s.scene tx).handlesOf ticket)).count = 0

/-- Destroy a thread-safe engine while a wait is blocked: the wait ends between the two steps. -/
def destroyUnderWait (s : Session) (tx : Nat) (ticket : WaitTicket Stream) :
    Except TransmitError Bool × Session × List (Event Stream) :=
  let (former, scene, woke) := (s.scene tx).withdraw
  let (result, s, ended) := (s.put tx scene).unblock tx ticket
  let (scene, released) := (s.scene tx).release former
  (result, s.put tx scene, woke ++ ended ++ released)

/-- Whether a command destroys a given engine, which waits for its waits to end. -/
def awaitsWaiters (s : Session) (tx : Nat) : Command → Bool
  | .call tx' .destroy => tx' = tx && (s.scene tx).engine.threadSafe
  | _ => false

/-- The shared channel that a command signals under a wait that listens to it, and how many of the
signals come before the drain. There is one such signal at least, since it is what ends the wait. -/
def signalsUnderWait (ticket : WaitTicket Stream) (late : Nat) : Command → Option (Nat × Nat)
  | .prepare _ (.channel index (.signal times)) =>
    if ticket.abort = .shared index ∧ 0 < late ∧ late < times then some (index, times - late)
    else none
  | _ => none

/-- Signal a channel before and while a blocked wait drains it. The late signals come after the
drain has lowered the flag and before it looks at the doorbell: the drain reads their byte, and the
flag that they have raised stays. -/
def signalUnderWait (s : Session) (tx : Nat) (ticket : WaitTicket Stream)
    (index early late : Nat) : Except TransmitError Bool × Session × List (Event Stream) :=
  let (_, c, log) := (s.channels.getD index .fresh).signalTimes early
  let (_, c, later) := c.lower.signalTimes late
  let (result, s, ended) := { s with channels := s.channels.set index c }.unblock tx ticket
  let drained := { s.channels.getD index .fresh with pending := c.pending }
  (result, { s with channels := s.channels.set index drained }, logged (log ++ later) ++ ended)

/-- Wake the wait of an engine, if asked to. -/
def wakeIf (s : Session) (tx : Nat) (wake : Bool) : Session × List (Event Stream) :=
  if wake then
    let out := (s.scene tx).abortWait
    (s.put tx out.scene, out.events)
  else (s, [])

/-! ## Commands -/

mutual

/-- Perform a command. -/
def perform (s : Session) : Command → Report × Session
  | .call tx c => s.call tx c
  | .add tx name =>
    match s.held.find? (·.name = name) with
    | none => s.report tx .notHeld []
    | some stream =>
      { s with held := s.held.filter (·.name ≠ name) }.call tx (.addDestination stream)
  | .drain tx =>
    let ((packets, stop), scene) := (s.scene tx).drain
    (s.put tx scene).report tx (.drained packets stop) []
  | .prepare tx preparation =>
    let ((result, events), s) := s.prepare preparation
    s.report tx result events
  | .wait tx timeout during =>
    let (entry, scene) := (s.scene tx).beginWait
    let s := s.put tx scene
    match entry with
    | .decided result => s.report tx (.waited result none) []
    | .asking ticket =>
      let (reports, s) := s.performAll during
      let out := (s.scene tx).finishWait ticket timeout
      (s.put tx out.scene).report tx
        (.waited out.result (some reports)) out.events
  | .blockedWait tx meanwhile late wake =>
    let timeout := Duration.ofSeconds 5
    let (entry, scene) := (s.scene tx).beginWait
    let s := s.put tx scene
    match entry with
    | .decided result =>
      let (other, s) := s.perform meanwhile
      let (s, woke) := s.wakeIf tx wake
      s.report tx (.blockedWait false result other.result) (other.events ++ woke)
    | .asking ticket =>
      let asking := s.asked tx ticket timeout
      if !s.blocks tx ticket then
        let (result, s, ended) := s.unblock tx ticket
        let (other, s) := s.perform meanwhile
        let (s, woke) := s.wakeIf tx wake
        s.report tx (.blockedWait false result other.result)
          (asking :: ended ++ other.events ++ woke)
      else if s.awaitsWaiters tx meanwhile then
        let (result, s, events) := s.destroyUnderWait tx ticket
        let (s, woke) := s.wakeIf tx wake
        s.report tx (.blockedWait true result (.reply (.ok .done))) (asking :: events ++ woke)
      else
        match signalsUnderWait ticket late meanwhile with
        | some (index, early) =>
          let (result, s, events) := s.signalUnderWait tx ticket index early late
          let (s, woke) := s.wakeIf tx wake
          s.report tx (.blockedWait true result (.channel (.ok .done))) (asking :: events ++ woke)
        | none =>
          let (other, s) := s.perform meanwhile
          let (s, woke) := s.wakeIf tx wake
          let (result, s, ended) := s.unblock tx ticket
          s.report tx (.blockedWait true result other.result)
            (asking :: other.events ++ woke ++ ended)

/-- Perform commands one after the other. -/
def performAll (s : Session) : List Command → List Report × Session
  | [] => ([], s)
  | command :: commands =>
    let (report, s) := s.perform command
    let (reports, s) := s.performAll commands
    (report :: reports, s)

end

end Session

end StreamRtp.Scripted
