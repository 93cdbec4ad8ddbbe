import StreamRtp.Engine.Call
import StreamRtp.Proofs.Coalescing

/-!
# How a wait ends

A wait is refused if somebody else is inside or if there is no core. Otherwise it has five ways out,
which `Scene.WaitEnds` lists with everything that comes of them. In two of them the poller is not
asked and nothing changes. If it is asked and fails, only the world has changed. If it answers, the
abort channel is drained in case its handle was found ready. The drain may fail, and then the wait
fails with it; the flag of the channel is down all the same.

So a wait takes its mark away whichever way it goes, and the state of the engine is the same after
it as before: destinations, queue, filter and limits are only looked at.
-/

namespace StreamRtp

variable {W σ : Type}

/-- What a wait of a created engine takes along. -/
def Core.ticket (core : Core σ) : WaitTicket σ := ⟨core.streams, core.abort⟩

/-- Whether a destination can be read. -/
def Core.foundAvailable (core : Core σ) (answer : Readiness) : Bool := core.ticket.available answer

/-- Whether somebody has signalled. -/
def Core.foundAborted (core : Core σ) (answer : Readiness) : Bool := core.ticket.aborted answer

theorem Lifecycle.created_or_error (lifecycle : Lifecycle σ) :
    (∃ core, lifecycle = .created core) ∨ ∃ e, lifecycle.core = .error e := by
  cases lifecycle with
  | uninitialized | initialized => exact .inr ⟨_, rfl⟩
  | created core => exact .inl ⟨core, rfl⟩

namespace Scene

variable (scene : Scene W σ)

/-- What a wait of a created engine puts before the poller. -/
def waitHandles (core : Core σ) : List (Handle σ) := scene.handlesOf core.ticket

/-- The scene after the poller has answered a wait and the abort channel was drained if need be. -/
def afterAnswer (core : Core σ) (answer : Readiness) (mishaps : Mishaps := []) : Scene W σ :=
  if core.foundAborted answer then
    scene.setChannel ((scene.channel core.abort).clearPendingSignals mishaps).2.1 core.abort
  else scene

/-- How a wait of a created engine ends. -/
inductive WaitEnds [Network W σ] (core : Core σ) (timeout : Duration) (mishaps : Mishaps) :
    Outcome W σ Bool → Prop
  /-- A packet is queued. -/
  | queued (hqueue : core.queue ≠ []) : WaitEnds core timeout mishaps ⟨.ok true, scene, []⟩
  /-- The abort channel has no doorbell. -/
  | mute (hqueue : core.queue = []) (habort : (scene.channel core.abort).isInitialized = false) :
    WaitEnds core timeout mishaps ⟨.error .abortNotInitialized, scene, []⟩
  /-- The poller fails. -/
  | failed (hqueue : core.queue = []) (habort : (scene.channel core.abort).isInitialized = true)
    (e : IoError) (world : W)
    (hasked : Network.waitReady (scene.waitHandles core) timeout scene.world = (.error e, world)) :
    WaitEnds core timeout mishaps ⟨.error (.io e), { scene with world },
      [.waitReady (scene.waitHandles core) timeout (.error e)]⟩
  /-- The poller answers, the abort channel is among the handles that are ready, and the drain
  fails. -/
  | stuck (hqueue : core.queue = []) (d d' : Doorbell)
    (hd : (scene.channel core.abort).doorbell = some d) (answer : Readiness) (world : W)
    (hasked : Network.waitReady (scene.waitHandles core) timeout scene.world = (.ok answer, world))
    (haborted : core.foundAborted answer = true) (e : IoError)
    (hdrain : d.drain mishaps = (.error e, d')) :
    WaitEnds core timeout mishaps ⟨.error (.io e),
      ({ scene with world } : Scene W σ).setChannel ⟨some d', false⟩ core.abort,
      [.waitReady (scene.waitHandles core) timeout (.ok answer)]⟩
  /-- The poller answers, and the drain goes well if there is one. -/
  | answered (hqueue : core.queue = [])
    (habort : (scene.channel core.abort).isInitialized = true) (answer : Readiness) (world : W)
    (hasked : Network.waitReady (scene.waitHandles core) timeout scene.world = (.ok answer, world))
    (hdrained : core.foundAborted answer = true →
      ((scene.channel core.abort).clearPendingSignals mishaps).1 = .ok ())
    (log : List LogEntry) :
    WaitEnds core timeout mishaps ⟨.ok (core.foundAvailable answer),
      ({ scene with world } : Scene W σ).afterAnswer core answer mishaps,
      .waitReady (scene.waitHandles core) timeout (.ok answer) :: logged log⟩

/-! ## The steps of a wait -/

theorem enterWait_of_unmarked (hunmarked : scene.engine.waiting = false) :
    scene.enterWait = (false, scene.enterWait.2) := by
  rw [← hunmarked]
  rfl

theorem leaveWait_enterWait (hunmarked : scene.engine.waiting = false) :
    scene.enterWait.2.leaveWait = scene := by
  obtain ⟨⟨lifecycle, ownAbort, activeAbort, threadSafe, waiting⟩, channels, world⟩ := scene
  cases hunmarked
  rfl

theorem channel_setChannel {abort : AbortRef}
    (habort : (scene.channel abort).isInitialized = true) (c : AbortChannel) :
    (scene.setChannel c abort).channel abort = c := by
  cases abort with
  | own => rfl
  | shared index =>
    rw [setChannel, channel, List.getD_eq_getElem?_getD]
    by_cases hindex : index < scene.channels.length
    · rw [List.getElem?_set_self hindex, Option.getD_some]
    · rw [channel, List.getD_eq_getElem?_getD,
        List.getElem?_eq_none (Nat.le_of_not_lt hindex)] at habort
      cases habort

theorem leaveWait_setChannel (c : AbortChannel) (abort : AbortRef) :
    (scene.setChannel c abort).leaveWait = scene.leaveWait.setChannel c abort := by
  cases abort <;> rfl

theorem survey_enterWait : scene.enterWait.2.survey = scene.survey := rfl

theorem leaveWait_afterAnswer (core : Core σ) (answer : Readiness) (mishaps : Mishaps) :
    (scene.afterAnswer core answer mishaps).leaveWait
      = scene.leaveWait.afterAnswer core answer mishaps := by
  rw [afterAnswer, afterAnswer]
  split
  · rw [leaveWait_setChannel]
    rfl
  · rfl

/-- A wait that has a doorbell to listen to gets an answer out of every answer of the poller, unless
the drain fails. -/
theorem concludeWait_ends {core : Core σ} (answer : Readiness) (mishaps : Mishaps) {d : Doorbell}
    (hd : (scene.channel core.abort).doorbell = some d) :
    ((core.foundAborted answer = true →
        ((scene.channel core.abort).clearPendingSignals mishaps).1 = .ok ()) ∧
      ∃ log, scene.concludeWait core.ticket answer mishaps
        = ⟨.ok (core.foundAvailable answer), scene.afterAnswer core answer mishaps, logged log⟩) ∨
    core.foundAborted answer = true ∧ ∃ d' e, d.drain mishaps = (.error e, d') ∧
      scene.concludeWait core.ticket answer mishaps
        = ⟨.error (.io e), scene.setChannel ⟨some d', false⟩ core.abort, []⟩ := by
  have hends := (scene.channel core.abort).drainEnds mishaps
  rw [concludeWait, afterAnswer]
  cases hfound : core.foundAborted answer with
  | false =>
    have haborted : core.ticket.aborted answer = false := hfound
    rw [haborted]
    exact .inl ⟨nofun, _, rfl⟩
  | true =>
    have haborted : core.ticket.aborted answer = true := hfound
    have hticket : core.ticket.abort = core.abort := rfl
    rw [haborted, hticket]
    generalize (scene.channel core.abort).clearPendingSignals mishaps = out at hends
    cases hends with
    | mute hc => cases hc.symm.trans (congrArg Option.isSome hd)
    | drained => exact .inl ⟨fun _ ↦ rfl, _, rfl⟩
    | failed d₀ d' e hd₀ hdrain =>
      obtain rfl : d₀ = d := Option.some.inj (hd₀.symm.trans hd)
      exact .inr ⟨rfl, d', e, hdrain, rfl⟩

section Ends

variable [Network W σ] (timeout : Duration) (mishaps : Mishaps)

/-- Somebody else is inside. -/
theorem wait_of_marked (hmarked : scene.engine.waiting = true) :
    scene.wait timeout mishaps = ⟨.error .alreadyWaiting, scene, []⟩ := by
  obtain ⟨⟨lifecycle, ownAbort, activeAbort, threadSafe, waiting⟩, channels, world⟩ := scene
  cases hmarked
  rfl

variable (hunmarked : scene.engine.waiting = false)

include hunmarked

omit [Network W σ] in
/-- A wait that is decided by a look at the state changes nothing. -/
theorem beginWait_of_decided {result : Except TransmitError Bool}
    (hsurvey : scene.survey = .decided result) : scene.beginWait = (.decided result, scene) := by
  rw [beginWait, scene.enterWait_of_unmarked hunmarked]
  dsimp only
  rw [survey_enterWait, hsurvey]
  dsimp only
  rw [scene.leaveWait_enterWait hunmarked]

omit [Network W σ] in
theorem beginWait_of_asking {ticket : WaitTicket σ} (hsurvey : scene.survey = .asking ticket) :
    scene.beginWait = (.asking ticket, scene.enterWait.2) := by
  rw [beginWait, scene.enterWait_of_unmarked hunmarked]
  dsimp only
  rw [survey_enterWait, hsurvey]

/-- There is no core. -/
theorem wait_of_core_error {e : TransmitError} (hcore : scene.engine.lifecycle.core = .error e) :
    scene.wait timeout mishaps = ⟨.error e, scene, []⟩ := by
  have hsurvey : scene.survey = .decided (.error e) := by rw [survey, hcore]
  rw [wait, scene.beginWait_of_decided hunmarked hsurvey]

variable {core : Core σ}

/-- A wait that asks the poller fails with it or gets an answer. -/
theorem waitEnds_finishWait (hqueue : core.queue = [])
    (habort : (scene.channel core.abort).isInitialized = true) :
    scene.WaitEnds core timeout mishaps
      (scene.enterWait.2.finishWait core.ticket timeout mishaps) := by
  have hleave := scene.leaveWait_enterWait hunmarked
  have hhandles : scene.enterWait.2.handlesOf core.ticket = scene.waitHandles core := rfl
  rw [finishWait, askPoller, hhandles]
  dsimp only
  rcases hasked : Network.waitReady (scene.waitHandles core) timeout scene.enterWait.2.world with
    ⟨answer, world⟩
  have hworld : ({ scene.enterWait.2 with world } : Scene W σ).leaveWait
      = { scene with world } := by
    rw [← hleave]
    rfl
  cases answer with
  | error e =>
    dsimp only
    rw [hworld]
    exact .failed hqueue habort e world hasked
  | ok answer =>
    obtain ⟨d, hd⟩ := Option.isSome_iff_exists.1 habort
    obtain ⟨hdrained, log, hconclude⟩ | ⟨haborted, d', e, hdrain, hconclude⟩ :=
      ({ scene.enterWait.2 with world } : Scene W σ).concludeWait_ends answer mishaps hd
    · dsimp only
      rw [hconclude, leaveWait_afterAnswer, hworld]
      exact .answered hqueue habort answer world hasked hdrained log
    · dsimp only
      rw [hconclude, leaveWait_setChannel, hworld]
      exact .stuck hqueue d d' hd answer world hasked haborted e hdrain

/-- Every wait of a created engine ends in one of the five ways. -/
theorem waitEnds_wait (hcreated : scene.engine.lifecycle = .created core) :
    scene.WaitEnds core timeout mishaps (scene.wait timeout mishaps) := by
  have hcore : scene.engine.lifecycle.core = .ok core := by
    rw [hcreated]
    rfl
  by_cases hqueue : core.queue = []
  · cases habort : (scene.channel core.abort).isInitialized with
    | false =>
      have hsurvey : scene.survey = .decided (.error .abortNotInitialized) := by
        simp [survey, hcore, hqueue, AbortChannel.readyHandle, habort]
      rw [wait, scene.beginWait_of_decided hunmarked hsurvey]
      exact .mute hqueue habort
    | true =>
      have hsurvey : scene.survey = .asking core.ticket := by
        simp [survey, hcore, hqueue, AbortChannel.readyHandle, habort, Core.ticket]
      rw [wait, scene.beginWait_of_asking hunmarked hsurvey]
      exact scene.waitEnds_finishWait timeout mishaps hunmarked hqueue habort
  · have hsurvey : scene.survey = .decided (.ok true) := by
      simp [survey, hcore, hqueue]
    rw [wait, scene.beginWait_of_decided hunmarked hsurvey]
    exact .queued hqueue

end Ends

end Scene

end StreamRtp
