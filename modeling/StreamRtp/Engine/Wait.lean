import StreamRtp.Engine.Lifecycle

/-!
# Waiting for data

A wait blocks until a destination can be read, the time is over, or somebody wakes it. It reads
nothing: what it found is received by the next receive pass. With packets in the queue it returns at
once and does not look at the abort channel, so a signal is kept for the next wait.

## Steps

A wait is made of steps between which other threads may act: `enterWait` marks the engine as waited
on, `survey` looks at the state and takes the handles, `askPoller` blocks in the poller,
`concludeWait` drains the abort channel and forms the answer, `leaveWait` takes the mark away. Every
way out of a wait that was entered goes through `leaveWait`; a wait that is refused because somebody
else is inside leaves the mark alone.
-/

namespace StreamRtp

variable {W σ : Type}

/-- What a wait takes along into the poller: the destinations of the moment, the abort channel. -/
structure WaitTicket (σ : Type) where
  streams : List σ
  abort : AbortRef

namespace WaitTicket

variable {σ : Type}

/-- The flags for the destinations and, as the last one, for the abort channel. -/
def findings (ticket : WaitTicket σ) (answer : Readiness) : List Bool :=
  Readiness.fit (ticket.streams.length + 1) answer.flags

/-- Whether a destination can be read. -/
def available (ticket : WaitTicket σ) (answer : Readiness) : Bool :=
  ((ticket.findings answer).take ticket.streams.length).any (· = true)

/-- Whether somebody has signalled. -/
def aborted (ticket : WaitTicket σ) (answer : Readiness) : Bool :=
  (ticket.findings answer).getLast? = some true

end WaitTicket

/-- How a wait goes on after its look at the state. -/
inductive WaitEntry (σ : Type) where
  /-- The answer is known. -/
  | decided (result : Except TransmitError Bool)
  /-- The poller has to be asked. -/
  | asking (ticket : WaitTicket σ)

namespace Scene

/-- Mark the engine as waited on. It says whether somebody else is inside. -/
def enterWait (scene : Scene W σ) : Bool × Scene W σ :=
  (scene.engine.waiting, { scene with engine := { scene.engine with waiting := true } })

/-- Take the mark away. -/
def leaveWait (scene : Scene W σ) : Scene W σ :=
  { scene with engine := { scene.engine with waiting := false } }

/-- Look at the state: answer at once, or take the handles. -/
def survey (scene : Scene W σ) : WaitEntry σ :=
  match scene.engine.lifecycle.core with
  | .error e => .decided (.error e)
  | .ok core =>
    if !core.queue.isEmpty then .decided (.ok true)
    else
      match (scene.channel core.abort).readyHandle with
      | .error e => .decided (.error e)
      | .ok () => .asking ⟨core.streams, core.abort⟩

/-- Begin a wait. If it does not go on to the poller it is over. -/
def beginWait (scene : Scene W σ) : WaitEntry σ × Scene W σ :=
  match scene.enterWait with
  | (true, scene) => (.decided (.error .alreadyWaiting), scene)
  | (false, scene) =>
    match scene.survey with
    | .decided result => (.decided result, scene.leaveWait)
    | .asking ticket => (.asking ticket, scene)

/-- The handles of a wait as the poller finds them: the destinations, then the abort channel. -/
def handlesOf (scene : Scene W σ) (ticket : WaitTicket σ) : List (Handle σ) :=
  ticket.streams.map .stream ++ [.abort (scene.channel ticket.abort).wakes]

/-- Ask the poller. -/
def askPoller [Network W σ] (scene : Scene W σ) (ticket : WaitTicket σ) (timeout : Duration) :
    Except IoError Readiness × Scene W σ × List (Event σ) :=
  let handles := scene.handlesOf ticket
  let (answer, world) := Network.waitReady handles timeout scene.world
  (answer, { scene with world }, [.waitReady handles timeout answer])

/-- Form the answer of a wait. If the abort channel was found ready it is drained. -/
def concludeWait (scene : Scene W σ) (ticket : WaitTicket σ) (answer : Readiness)
    (mishaps : Mishaps := []) : Outcome W σ Bool :=
  let available := ticket.available answer
  let finished := LogEntry.waitFinished answer.count (ticket.aborted answer) available
  if ticket.aborted answer then
    match (scene.channel ticket.abort).clearPendingSignals mishaps with
    | (.error e, channel, log) => ⟨.error e, scene.setChannel channel ticket.abort, logged log⟩
    | (.ok (), channel, log) =>
      ⟨.ok available, scene.setChannel channel ticket.abort, logged (log ++ [finished])⟩
  else ⟨.ok available, scene, logged [finished]⟩

/-- Ask the poller and end the wait. -/
def finishWait [Network W σ] (scene : Scene W σ) (ticket : WaitTicket σ) (timeout : Duration)
    (mishaps : Mishaps := []) : Outcome W σ Bool :=
  match scene.askPoller ticket timeout with
  | (.error e, scene, asked) => ⟨.error (.io e), scene.leaveWait, asked⟩
  | (.ok answer, scene, asked) =>
    let out := scene.concludeWait ticket answer mishaps
    { out with scene := out.scene.leaveWait, events := asked ++ out.events }

/-- Wait for data. The result says whether a destination can be read or a packet is queued. -/
def wait [Network W σ] (scene : Scene W σ) (timeout : Duration) (mishaps : Mishaps := []) :
    Outcome W σ Bool :=
  match scene.beginWait with
  | (.decided result, scene) => ⟨result, scene, []⟩
  | (.asking ticket, scene) => scene.finishWait ticket timeout mishaps

end Scene

end StreamRtp
