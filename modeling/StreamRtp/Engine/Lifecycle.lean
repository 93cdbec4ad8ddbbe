import StreamRtp.Engine.Destinations

/-!
# Initialisation, creation and destruction

Destruction is made of two steps, because a thread may be inside a wait. `withdraw` takes the core
away, so that no later call finds one, and wakes the waiting thread. `release` gives up the
engine's own abort channel. In a thread-safe engine the waiting thread ends its wait between the two
steps, so it never finds its abort channel gone.

Shared abort channels are never destroyed by an engine.

The calls take what the system answers to them when they make, ring or drain a doorbell.
-/

namespace StreamRtp

variable {W σ : Type}

namespace Scene

/-- Give an engine its abort channel. With `threadSafe`, waits queue up instead of being refused. -/
def init (scene : Scene W σ) (threadSafe : Bool) (mishaps : Mishaps := []) : Outcome W σ Unit :=
  match scene.engine.lifecycle with
  | .uninitialized =>
    match scene.engine.ownAbort.init mishaps.first with
    | (.error e, ownAbort, log) =>
      ⟨.error e, { scene with engine := { scene.engine with ownAbort } }, logged log⟩
    | (.ok (), ownAbort, log) =>
      ⟨.ok (),
        { scene with
          engine := { scene.engine with ownAbort, threadSafe, lifecycle := .initialized } },
        logged (log ++ [.transmitterInitialized threadSafe])⟩
  | _ => ⟨.error .alreadyInitialized, scene, []⟩

/-- Give an initialised engine a core. A shared abort channel has to be initialised. -/
def create (scene : Scene W σ) (maxPacketSize : Nat) (params : CreationParams) :
    Outcome W σ Unit :=
  match scene.engine.lifecycle with
  | .uninitialized => ⟨.error .notInitialized, scene, []⟩
  | .created _ => ⟨.error .alreadyCreated, scene, []⟩
  | .initialized =>
    let abort : AbortRef := params.abortChannel.elim .own .shared
    if params.abortChannel.isSome && !(scene.channel abort).isInitialized then
      ⟨.error .abortNotInitialized, scene, []⟩
    else
      ⟨.ok (),
        { scene with
          engine :=
            { scene.engine with
              activeAbort := some abort
              lifecycle := .created (.ofParams maxPacketSize abort params) } },
        logged [.transmitterCreated maxPacketSize params.abortChannel.isSome]⟩

/-! ## Waking -/

/-- Wake the thread that waits, or the next one that will. -/
def abortWait (scene : Scene W σ) (mishaps : Mishaps := []) : Outcome W σ Unit :=
  match scene.engine.activeAbort with
  | none => ⟨.error .notCreated, scene, []⟩
  | some abort =>
    let (result, channel, log) := (scene.channel abort).signal mishaps.first
    ⟨result, scene.setChannel channel abort, logged log⟩

/-! ## Destruction -/

/-- Take the stage away, so that no later call finds a core. -/
def takeLifecycle (scene : Scene W σ) : Lifecycle σ × Scene W σ :=
  (scene.engine.lifecycle,
    { scene with engine := { scene.engine with lifecycle := .uninitialized } })

/-- Take the reference to the abort channel away, so that nobody wakes a wait any more. -/
def detachAbort (scene : Scene W σ) : Scene W σ :=
  { scene with engine := { scene.engine with activeAbort := none } }

/-- Take the core away and wake the thread that waits, if there is one. Whether the signal succeeds
does not matter. The former stage is returned. -/
def withdraw (scene : Scene W σ) (mishaps : Mishaps := []) :
    Lifecycle σ × Scene W σ × List (Event σ) :=
  let (former, scene) := scene.takeLifecycle
  if scene.engine.waiting then
    let woken := scene.abortWait mishaps
    (former, woken.scene.detachAbort, woken.events)
  else (former, scene.detachAbort, [])

/-- Give up what the former stage still holds. -/
def release (scene : Scene W σ) (former : Lifecycle σ) : Scene W σ × List (Event σ) :=
  match former with
  | .uninitialized => (scene, [])
  | _ =>
    let (ownAbort, log) := scene.engine.ownAbort.destroy
    ({ scene with engine := { scene.engine with ownAbort } },
      logged
        ((match former with
          | .created core => [.releasingState core.destinations.size core.queue.length]
          | _ => [])
          ++ log ++ [.transmitterDestroyed]))

/-- Drop every destination and queued packet and give up the abort channel. -/
def destroy (scene : Scene W σ) (mishaps : Mishaps := []) : Outcome W σ Unit :=
  let (former, scene, woke) := scene.withdraw mishaps
  let (scene, released) := scene.release former
  ⟨.ok (), scene, woke ++ released⟩

/-- Give up an engine without destroying it first. Only its abort channel has something to close. -/
def abandon (scene : Scene W σ) : List (Event σ) := logged scene.engine.ownAbort.destroy.2

end Scene

end StreamRtp
