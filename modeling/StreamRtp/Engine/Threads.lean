import StreamRtp.Engine.Wait

/-!
# Threads that share an engine

Any number of threads wait for data, wake each other and destroy an engine, and their calls
interleave at the steps below. A thread is identified by a number. `EngineThreads.step` lets one
thread take its next step, if nothing blocks it.

## Locks

Three locks order the threads. `guard` protects the stage of the engine: a wait holds it for its
look at the state, which is one step here, and a destruction holds it while it takes the core away.
`turn` is held by the wait of a thread-safe engine from its beginning to its end, so that waits of
such an engine queue up. Nobody asks for the turn while holding the guard.

The third lock is that of the engine's own abort channel. Those who signal or drain the channel
share it, and the destruction that gives the doorbell up has it for itself. Signals and drains are
made of the small steps of `AbortChannel`, and whoever is in the midst of one is among the
`readers`. They never wait for anything there, so it does not matter whether a destruction that
waits for them keeps others out.

## What is left open

The poller may answer anything at any time: the answer is part of the step. So is what the system
answers when a thread turns to a doorbell. Calls that only hold the guard for a moment, such as
sending, are left out.
-/

namespace StreamRtp

/-- What a thread can call. -/
inductive EngineCall where
  | wait
  | abortWait
  | destroy
  deriving DecidableEq, Repr

/-- Where a thread is in its call. -/
inductive EngineStage (σ : Type) where
  /-- In no call. -/
  | idle
  /-- Its wait has returned. -/
  | waited (result : Except TransmitError Bool)
  /-- Its wait asks for the turn. -/
  | queueing
  /-- Its wait is about to mark the engine. -/
  | entering
  /-- Its wait has marked the engine and is about to look at the state. -/
  | surveying
  /-- Its wait is inside the poller. -/
  | polling (ticket : WaitTicket σ)
  /-- Its wait has been answered by the poller. -/
  | concluding (ticket : WaitTicket σ) (answer : Readiness)
  /-- Its wait has lowered the flag of the abort channel and is about to look at the doorbell. -/
  | looking (ticket : WaitTicket σ) (available : Bool)
  /-- Its wait has seen a byte at the doorbell and is about to read one. -/
  | answering (ticket : WaitTicket σ) (available : Bool)
  /-- Its wait is about to take the mark away. The flag says whether it had taken handles. -/
  | leaving (handles : Bool) (result : Except TransmitError Bool)
  /-- Its wait is about to return, and to give the turn back if it has it. -/
  | returning (handles : Bool) (result : Except TransmitError Bool)
  /-- Its call to wake others has found a channel and is about to raise the flag. -/
  | waking (abort : AbortRef)
  /-- Its call to wake others has raised the flag and is about to ring. -/
  | ringing (abort : AbortRef)
  /-- Its destruction asks for the guard. -/
  | arriving
  /-- Its destruction has the guard and is about to take the core away. -/
  | taking
  /-- It is about to see whether somebody waits. -/
  | checking (former : Lifecycle σ)
  /-- It has seen somebody and is about to raise the flag of their channel. -/
  | signalling (former : Lifecycle σ)
  /-- It has raised the flag and is about to ring. -/
  | rousing (former : Lifecycle σ) (abort : AbortRef)
  /-- It is about to take the reference to the abort channel away. -/
  | detaching (former : Lifecycle σ) (waiter : Bool)
  /-- It is about to give the guard back. -/
  | unguarding (former : Lifecycle σ) (waiter : Bool)
  /-- It waits until nobody has the turn. -/
  | awaiting (former : Lifecycle σ)
  /-- It is about to release what the former stage holds. -/
  | releasing (former : Lifecycle σ)

namespace EngineStage

variable {σ : Type}

/-- Whether a wait has marked the engine and not taken the mark away. -/
def isInside : EngineStage σ → Bool
  | surveying | polling _ | concluding .. | looking .. | answering .. | leaving .. => true
  | _ => false

/-- Whether a wait has taken handles from a created engine and not returned. -/
def hasHandles : EngineStage σ → Bool
  | polling _ | concluding .. | looking .. | answering .. => true
  | leaving handles _ | returning handles _ => handles
  | _ => false

/-- Whether a destruction has the guard. -/
def isGuarding : EngineStage σ → Bool
  | taking | checking _ | signalling _ | rousing .. | detaching .. | unguarding .. => true
  | _ => false

/-- Whether a thread is in the midst of a signal or a drain of the own abort channel. -/
def isReading : EngineStage σ → Bool
  | looking ticket _ | answering ticket _ => ticket.abort = .own
  | ringing abort | rousing _ abort => abort = .own
  | _ => false

end EngineStage

/-- An engine with the threads that share it. -/
structure EngineThreads (W σ : Type) where
  scene : Scene W σ
  /-- Who has the turn. -/
  turn : Option Nat
  /-- Who has the guard. -/
  guard : Option Nat
  /-- Who is in the midst of a signal or a drain of the own abort channel. -/
  readers : List Nat
  stage : Nat → EngineStage σ

namespace EngineThreads

variable {W σ : Type}

/-- Nobody is in a call. -/
def ofScene (scene : Scene W σ) : EngineThreads W σ := ⟨scene, none, none, [], fun _ ↦ .idle⟩

/-- A thread goes on to another stage. -/
def move (s : EngineThreads W σ) (thread : Nat) (stage : EngineStage σ) : EngineThreads W σ :=
  { s with stage := fun t ↦ if t = thread then stage else s.stage t }

/-- A thread goes on to another stage and leaves another scene. -/
def moveWith (s : EngineThreads W σ) (scene : Scene W σ) (thread : Nat) (stage : EngineStage σ) :
    EngineThreads W σ :=
  { s with scene }.move thread stage

/-! ## Steps on abort channels -/

/-- Replace the channel behind a reference. -/
def setChannel (s : EngineThreads W σ) (c : AbortChannel) (abort : AbortRef) : EngineThreads W σ :=
  { s with scene := s.scene.setChannel c abort }

/-- A thread begins a signal or a drain. -/
def hold (s : EngineThreads W σ) (abort : AbortRef) (thread : Nat) : EngineThreads W σ :=
  match abort with
  | .own => { s with readers := thread :: s.readers }
  | .shared _ => s

/-- A thread is over with its signal or its drain. -/
def letGo (s : EngineThreads W σ) (thread : Nat) : EngineThreads W σ :=
  { s with readers := s.readers.filter (· ≠ thread) }

/-- The first step of a signal. It goes on if the flag was down. -/
def raise (s : EngineThreads W σ) (abort : AbortRef) (thread : Nat)
    (raised finished : EngineStage σ) : EngineThreads W σ :=
  if (s.scene.channel abort).isInitialized then
    match (s.scene.channel abort).raise with
    | (true, channel) => (s.setChannel channel abort).move thread finished
    | (false, channel) => ((s.setChannel channel abort).hold abort thread).move thread raised
  else s.move thread finished

/-- The second step of a signal. If the byte cannot be written the flag is taken back. -/
def ring (s : EngineThreads W σ) (abort : AbortRef) (thread : Nat) (mishap : Option IoError)
    (finished : EngineStage σ) : EngineThreads W σ :=
  match (s.scene.channel abort).ringDoorbell mishap with
  | (.ok _, channel) => ((s.setChannel channel abort).letGo thread).move thread finished
  | (.error _, channel) => ((s.setChannel channel.lower abort).letGo thread).move thread finished

/-- The first step of a drain. -/
def lower (s : EngineThreads W σ) (ticket : WaitTicket σ) (thread : Nat) (available : Bool) :
    EngineThreads W σ :=
  let channel := s.scene.channel ticket.abort
  if channel.isInitialized then
    ((s.setChannel channel.lower ticket.abort).hold ticket.abort thread).move thread
      (.looking ticket available)
  else s.move thread (.leaving true (.error .abortNotInitialized))

/-- A drain looks at the doorbell. -/
def look (s : EngineThreads W σ) (ticket : WaitTicket σ) (thread : Nat) (mishap : Option IoError)
    (available : Bool) : EngineThreads W σ :=
  match (s.scene.channel ticket.abort).lookAtDoorbell mishap with
  | .error e => (s.letGo thread).move thread (.leaving true (.error (.io e)))
  | .ok false => (s.letGo thread).move thread (.leaving true (.ok available))
  | .ok true => s.move thread (.answering ticket available)

/-- A drain reads a byte. -/
def answer (s : EngineThreads W σ) (ticket : WaitTicket σ) (thread : Nat) (mishap : Option IoError)
    (available : Bool) : EngineThreads W σ :=
  match (s.scene.channel ticket.abort).answerDoorbell mishap with
  | (.error e, channel) =>
    ((s.setChannel channel ticket.abort).letGo thread).move thread
      (.leaving true (.error (.io e)))
  | (.ok (), channel) =>
    (s.setChannel channel ticket.abort).move thread (.looking ticket available)

/-! ## Steps -/

/-- Begin a call. -/
def begin (s : EngineThreads W σ) (thread : Nat) : EngineCall → EngineThreads W σ
  | .wait => s.move thread (if s.scene.engine.threadSafe then .queueing else .entering)
  | .abortWait =>
    match s.scene.engine.activeAbort with
    | none => s.move thread .idle
    | some abort => s.move thread (.waking abort)
  | .destroy => s.move thread .arriving

/-- Let a thread take its next step. A thread that is in no call begins the given one; a thread
inside the poller gets the given answer, and one at a doorbell the given error, if any. A thread
that has to wait for a lock takes no step. -/
def step (s : EngineThreads W σ) (thread : Nat) (call : EngineCall)
    (answer : Except IoError Readiness) (mishap : Option IoError) : Option (EngineThreads W σ) :=
  match s.stage thread with
  | .idle | .waited _ => some (s.begin thread call)
  | .queueing =>
    if s.turn.isNone then some ({ s with turn := some thread }.move thread .entering) else none
  | .entering =>
    match s.scene.enterWait with
    | (true, scene) =>
      some (s.moveWith scene thread (.returning false (.error .alreadyWaiting)))
    | (false, scene) => some (s.moveWith scene thread .surveying)
  | .surveying =>
    if s.guard.isNone then
      match s.scene.survey with
      | .decided result => some (s.move thread (.leaving false result))
      | .asking ticket => some (s.move thread (.polling ticket))
    else none
  | .polling ticket =>
    match answer with
    | .error e => some (s.move thread (.leaving true (.error (.io e))))
    | .ok answer => some (s.move thread (.concluding ticket answer))
  | .concluding ticket answer =>
    if ticket.aborted answer then some (s.lower ticket thread (ticket.available answer))
    else some (s.move thread (.leaving true (.ok (ticket.available answer))))
  | .looking ticket available => some (s.look ticket thread mishap available)
  | .answering ticket available => some (s.answer ticket thread mishap available)
  | .leaving handles result =>
    some (s.moveWith s.scene.leaveWait thread (.returning handles result))
  | .returning _ result =>
    some ({ s with turn := if s.turn = some thread then none else s.turn }.move thread
      (.waited result))
  | .waking abort => some (s.raise abort thread (.ringing abort) .idle)
  | .ringing abort => some (s.ring abort thread mishap .idle)
  | .arriving =>
    if s.guard.isNone then some ({ s with guard := some thread }.move thread .taking) else none
  | .taking =>
    let (former, scene) := s.scene.takeLifecycle
    some (s.moveWith scene thread (.checking former))
  | .checking former =>
    if s.scene.engine.waiting then some (s.move thread (.signalling former))
    else some (s.move thread (.detaching former false))
  | .signalling former =>
    match s.scene.engine.activeAbort with
    | none => some (s.move thread (.detaching former true))
    | some abort => some (s.raise abort thread (.rousing former abort) (.detaching former true))
  | .rousing former abort => some (s.ring abort thread mishap (.detaching former true))
  | .detaching former waiter =>
    some (s.moveWith s.scene.detachAbort thread (.unguarding former waiter))
  | .unguarding former waiter =>
    some ({ s with guard := none }.move thread
      (if waiter && s.scene.engine.threadSafe then .awaiting former else .releasing former))
  | .awaiting former => if s.turn.isNone then some (s.move thread (.releasing former)) else none
  | .releasing .uninitialized => some (s.move thread .idle)
  | .releasing former =>
    if s.readers.isEmpty then some (s.moveWith (s.scene.release former).1 thread .idle) else none

/-- What can come about by steps of the threads. -/
inductive Reachable (start : EngineThreads W σ) : EngineThreads W σ → Prop where
  | refl : Reachable start start
  | step {s s' : EngineThreads W σ} (thread : Nat) (call : EngineCall)
      (answer : Except IoError Readiness) (mishap : Option IoError) :
      Reachable start s → s.step thread call answer mishap = some s' → Reachable start s'

end EngineThreads

end StreamRtp
