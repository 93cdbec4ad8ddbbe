import StreamRtp.Engine.Threads
import StreamRtp.Proofs.SignalEnds

/-!
# What a thread can do to a shared engine

`EngineThreads.Move` says once what each step of a thread does, guards included: where the thread
was, what let it go on, and what it leaves. Everything about threads that share an engine is derived
from it. The facts below look at one lock or one flag each and forget the rest: who is inside a wait
and whether the engine is marked, who has the turn, who has the guard, and who is in the midst of a
signal or a drain of the own abort channel.

Calls that only hold the guard for a moment are not among the steps. A run may have them in between
all the same: `Happening.other` leaves any engine that such a call may leave, as long as it does not
touch the mark and the mode, which only waits and an initialisation do.
-/

namespace StreamRtp

variable {W σ : Type}

namespace EngineStage

/-- Whether a thread is in no call. -/
def isResting : EngineStage σ → Bool
  | idle | waited _ => true
  | _ => false

/-- Whether a wait is past the point at which the wait of a thread-safe engine gets the turn. -/
def isAdmitted : EngineStage σ → Bool
  | entering | surveying | polling _ | concluding .. | looking .. | answering .. | leaving ..
  | returning .. => true
  | _ => false

/-- The result of a wait, from when it is settled until the thread begins another call. -/
def result? : EngineStage σ → Option (Except TransmitError Bool)
  | leaving _ result | returning _ result | waited result => some result
  | _ => none

/-- A thread that is in no call is not inside a wait, was not admitted to one, has not the guard,
and is not in the midst of a signal or a drain. -/
theorem isInside_of_isResting {stage : EngineStage σ} (h : stage.isResting = true) :
    stage.isInside = false := by
  cases stage <;> first | rfl | cases h

theorem isAdmitted_of_isResting {stage : EngineStage σ} (h : stage.isResting = true) :
    stage.isAdmitted = false := by
  cases stage <;> first | rfl | cases h

theorem isGuarding_of_isResting {stage : EngineStage σ} (h : stage.isResting = true) :
    stage.isGuarding = false := by
  cases stage <;> first | rfl | cases h

theorem isReading_of_isResting {stage : EngineStage σ} (h : stage.isResting = true) :
    stage.isReading = false := by
  cases stage <;> first | rfl | cases h

theorem isAdmitted_of_isInside {stage : EngineStage σ} (h : stage.isInside = true) :
    stage.isAdmitted = true := by
  cases stage <;> first | rfl | cases h

end EngineStage

/-! ## What steps leave alone -/

namespace Scene

/-- Two scenes that differ at most in their channels and their world. -/
structure SameState (scene scene' : Scene W σ) : Prop where
  lifecycle : scene'.engine.lifecycle = scene.engine.lifecycle
  activeAbort : scene'.engine.activeAbort = scene.engine.activeAbort
  threadSafe : scene'.engine.threadSafe = scene.engine.threadSafe
  waiting : scene'.engine.waiting = scene.engine.waiting

variable (scene : Scene W σ)

theorem SameState.refl : scene.SameState scene := ⟨rfl, rfl, rfl, rfl⟩

theorem sameState_setChannel (c : AbortChannel) (abort : AbortRef) :
    scene.SameState (scene.setChannel c abort) := by
  cases abort <;> exact ⟨rfl, rfl, rfl, rfl⟩

theorem sameState_abortWait (mishaps : Mishaps := []) :
    scene.SameState (scene.abortWait mishaps).scene := by
  rw [abortWait]
  split
  · exact .refl scene
  · exact scene.sameState_setChannel _ _

theorem sameState_release (former : Lifecycle σ) : scene.SameState (scene.release former).1 := by
  cases former <;> exact ⟨rfl, rfl, rfl, rfl⟩

/-! ## What a wait can come to -/

/-- How a look at the state ends. -/
inductive Surveys : WaitEntry σ → Prop where
  /-- The engine has no core. -/
  | idle (e : TransmitError) (hcore : scene.engine.lifecycle.core = .error e)
    (he : e = .notInitialized ∨ e = .notCreated) : Surveys (.decided (.error e))
  /-- A packet is queued. -/
  | queued (core : Core σ) (hcreated : scene.engine.lifecycle = .created core) :
    Surveys (.decided (.ok true))
  /-- The abort channel is gone. -/
  | gone (core : Core σ) (hcreated : scene.engine.lifecycle = .created core)
    (habort : (scene.channel core.abort).isInitialized = false) :
    Surveys (.decided (.error .abortNotInitialized))
  /-- The poller has to be asked. -/
  | asking (core : Core σ) (hcreated : scene.engine.lifecycle = .created core)
    (habort : (scene.channel core.abort).isInitialized = true) :
    Surveys (.asking ⟨core.streams, core.abort⟩)

theorem surveys_survey : scene.Surveys scene.survey := by
  rw [survey]
  cases hstage : scene.engine.lifecycle with
  | uninitialized => exact .idle _ (by rw [hstage]; rfl) (.inl rfl)
  | initialized => exact .idle _ (by rw [hstage]; rfl) (.inr rfl)
  | created core =>
    simp only [Lifecycle.core]
    split
    · exact .queued core hstage
    · rw [AbortChannel.readyHandle]
      cases habort : (scene.channel core.abort).isInitialized with
      | true => exact .asking core hstage habort
      | false => exact .gone core hstage habort

end Scene

namespace EngineThreads

section Channels

variable (s : EngineThreads W σ) (c : AbortChannel) (abort : AbortRef) (t : Nat)
  (stage : EngineStage σ)

@[simp] theorem stage_setChannel : (s.setChannel c abort).stage = s.stage := rfl

@[simp] theorem stage_letGo : (s.letGo t).stage = s.stage := rfl

@[simp] theorem stage_hold : (s.hold abort t).stage = s.stage := by
  cases abort <;> rfl

@[simp] theorem scene_hold : (s.hold abort t).scene = s.scene := by
  cases abort <;> rfl

@[simp] theorem turn_hold : (s.hold abort t).turn = s.turn := by
  cases abort <;> rfl

@[simp] theorem guard_hold : (s.hold abort t).guard = s.guard := by
  cases abort <;> rfl

/-- Whoever begins a signal or a drain only touches the channel. -/
theorem sameState_hold :
    s.scene.SameState (((s.setChannel c abort).hold abort t).move t stage).scene := by
  rw [move, scene_hold]
  exact s.scene.sameState_setChannel c abort

/-- Whoever goes on with a signal or a drain only touches the channel. -/
theorem sameState_letGo :
    s.scene.SameState (((s.setChannel c abort).letGo t).move t stage).scene :=
  s.scene.sameState_setChannel c abort

end Channels

/-! ## Moves -/

/-- The steps of a thread, with the state that each of them leaves. -/
inductive Move (s : EngineThreads W σ) (t : Nat) : EngineThreads W σ → Prop where
  /-- A wait of a thread-safe engine begins. -/
  | queue (hstage : (s.stage t).isResting = true) (hsafe : s.scene.engine.threadSafe = true) :
    Move s t (s.move t .queueing)
  /-- A wait of any other engine begins. -/
  | approach (hstage : (s.stage t).isResting = true) (hsafe : s.scene.engine.threadSafe = false) :
    Move s t (s.move t .entering)
  /-- A call to wake others finds no channel. -/
  | wakeNobody (hstage : (s.stage t).isResting = true) : Move s t (s.move t .idle)
  /-- A call to wake others finds a channel. -/
  | wake (hstage : (s.stage t).isResting = true) (abort : AbortRef) :
    Move s t (s.move t (.waking abort))
  /-- A destruction begins. -/
  | arrive (hstage : (s.stage t).isResting = true) : Move s t (s.move t .arriving)
  /-- A wait gets the turn. -/
  | takeTurn (hstage : s.stage t = .queueing) (hturn : s.turn = none) :
    Move s t ({ s with turn := some t }.move t .entering)
  /-- A wait finds the engine marked. -/
  | reject (hstage : s.stage t = .entering) (hmarked : s.scene.engine.waiting = true) :
    Move s t (s.move t (.returning false (.error .alreadyWaiting)))
  /-- A wait marks the engine. -/
  | enter (hstage : s.stage t = .entering) (hmarked : s.scene.engine.waiting = false) :
    Move s t (s.moveWith s.scene.enterWait.2 t .surveying)
  /-- A wait finds its answer by looking at the state. -/
  | settle (hstage : s.stage t = .surveying) (hguard : s.guard = none)
    (result : Except TransmitError Bool) (hsurvey : s.scene.survey = .decided result) :
    Move s t (s.move t (.leaving false result))
  /-- A wait takes handles. -/
  | ask (hstage : s.stage t = .surveying) (hguard : s.guard = none) (ticket : WaitTicket σ)
    (hsurvey : s.scene.survey = .asking ticket) : Move s t (s.move t (.polling ticket))
  /-- The poller fails. -/
  | fail (ticket : WaitTicket σ) (hstage : s.stage t = .polling ticket) (e : IoError) :
    Move s t (s.move t (.leaving true (.error (.io e))))
  /-- The poller answers. -/
  | hear (ticket : WaitTicket σ) (hstage : s.stage t = .polling ticket) (answer : Readiness) :
    Move s t (s.move t (.concluding ticket answer))
  /-- A wait was not aborted. -/
  | conclude (ticket : WaitTicket σ) (answer : Readiness)
    (hstage : s.stage t = .concluding ticket answer) (haborted : ticket.aborted answer = false) :
    Move s t (s.move t (.leaving true (.ok (ticket.available answer))))
  /-- A wait that was aborted finds the channel gone. -/
  | miss (ticket : WaitTicket σ) (answer : Readiness)
    (hstage : s.stage t = .concluding ticket answer)
    (hgone : (s.scene.channel ticket.abort).isInitialized = false) :
    Move s t (s.move t (.leaving true (.error .abortNotInitialized)))
  /-- A wait that was aborted lowers the flag of the channel. -/
  | lower (ticket : WaitTicket σ) (answer : Readiness)
    (hstage : s.stage t = .concluding ticket answer)
    (hinit : (s.scene.channel ticket.abort).isInitialized = true) :
    Move s t (((s.setChannel (s.scene.channel ticket.abort).lower ticket.abort).hold ticket.abort
      t).move t (.looking ticket (ticket.available answer)))
  /-- A drain sees a byte. -/
  | see (ticket : WaitTicket σ) (available : Bool) (hstage : s.stage t = .looking ticket available)
    (mishap : Option IoError)
    (hlook : (s.scene.channel ticket.abort).lookAtDoorbell mishap = .ok true) :
    Move s t (s.move t (.answering ticket available))
  /-- A drain sees no byte, or cannot look. -/
  | stop (ticket : WaitTicket σ) (available : Bool) (hstage : s.stage t = .looking ticket available)
    (result : Except TransmitError Bool)
    (hresult : result = .ok available ∨ ∃ e, result = .error (.io e)) :
    Move s t ((s.letGo t).move t (.leaving true result))
  /-- A drain reads a byte. -/
  | read (ticket : WaitTicket σ) (available : Bool)
    (hstage : s.stage t = .answering ticket available) (mishap : Option IoError) :
    Move s t ((s.setChannel ((s.scene.channel ticket.abort).answerDoorbell mishap).2
      ticket.abort).move t (.looking ticket available))
  /-- A drain cannot read. -/
  | choke (ticket : WaitTicket σ) (available : Bool)
    (hstage : s.stage t = .answering ticket available) (mishap : Option IoError) (e : IoError) :
    Move s t (((s.setChannel ((s.scene.channel ticket.abort).answerDoorbell mishap).2
      ticket.abort).letGo t).move t (.leaving true (.error (.io e))))
  /-- A wait takes the mark away. -/
  | leave (handles : Bool) (result : Except TransmitError Bool)
    (hstage : s.stage t = .leaving handles result) :
    Move s t (s.moveWith s.scene.leaveWait t (.returning handles result))
  /-- A wait returns. -/
  | give (handles : Bool) (result : Except TransmitError Bool)
    (hstage : s.stage t = .returning handles result) :
    Move s t ({ s with turn := if s.turn = some t then none else s.turn }.move t (.waited result))
  /-- A call to wake others finds the channel gone, or a signal on its way. -/
  | swallow (abort : AbortRef) (hstage : s.stage t = .waking abort) : Move s t (s.move t .idle)
  /-- A call to wake others raises the flag. -/
  | raise (abort : AbortRef) (hstage : s.stage t = .waking abort)
    (hinit : (s.scene.channel abort).isInitialized = true) :
    Move s t (((s.setChannel (s.scene.channel abort).raise.2 abort).hold abort t).move t
      (.ringing abort))
  /-- A call to wake others rings, or takes the flag back. -/
  | ring (abort : AbortRef) (hstage : s.stage t = .ringing abort) (c : AbortChannel)
    (hc : (s.scene.channel abort).Rings c) :
    Move s t (((s.setChannel c abort).letGo t).move t .idle)
  /-- A destruction gets the guard. -/
  | takeGuard (hstage : s.stage t = .arriving) (hguard : s.guard = none) :
    Move s t ({ s with guard := some t }.move t .taking)
  /-- A destruction takes the core away. -/
  | take (hstage : s.stage t = .taking) :
    Move s t (s.moveWith s.scene.takeLifecycle.2 t (.checking s.scene.engine.lifecycle))
  /-- A destruction sees that somebody waits. -/
  | seeMark (former : Lifecycle σ) (hstage : s.stage t = .checking former)
    (hmarked : s.scene.engine.waiting = true) : Move s t (s.move t (.signalling former))
  /-- A destruction sees that nobody waits. -/
  | seeNobody (former : Lifecycle σ) (hstage : s.stage t = .checking former)
    (hmarked : s.scene.engine.waiting = false) : Move s t (s.move t (.detaching former false))
  /-- A destruction finds no channel to signal, or a signal on its way. -/
  | spare (former : Lifecycle σ) (hstage : s.stage t = .signalling former) :
    Move s t (s.move t (.detaching former true))
  /-- A destruction raises the flag for the thread that waits. -/
  | alert (former : Lifecycle σ) (hstage : s.stage t = .signalling former) (abort : AbortRef)
    (hinit : (s.scene.channel abort).isInitialized = true) :
    Move s t (((s.setChannel (s.scene.channel abort).raise.2 abort).hold abort t).move t
      (.rousing former abort))
  /-- A destruction rings for the thread that waits, or takes the flag back. -/
  | rouse (former : Lifecycle σ) (abort : AbortRef) (hstage : s.stage t = .rousing former abort)
    (c : AbortChannel) (hc : (s.scene.channel abort).Rings c) :
    Move s t (((s.setChannel c abort).letGo t).move t (.detaching former true))
  /-- A destruction takes the reference to the abort channel away. -/
  | detach (former : Lifecycle σ) (waiter : Bool) (hstage : s.stage t = .detaching former waiter) :
    Move s t (s.moveWith s.scene.detachAbort t (.unguarding former waiter))
  /-- A destruction gives the guard back, and the thread it has seen has the turn. -/
  | unguard (former : Lifecycle σ) (hstage : s.stage t = .unguarding former true)
    (hsafe : s.scene.engine.threadSafe = true) :
    Move s t ({ s with guard := none }.move t (.awaiting former))
  /-- A destruction gives the guard back and has nobody to wait for. -/
  | proceed (former : Lifecycle σ) (waiter : Bool) (hstage : s.stage t = .unguarding former waiter)
    (hnobody : waiter = false ∨ s.scene.engine.threadSafe = false) :
    Move s t ({ s with guard := none }.move t (.releasing former))
  /-- A destruction finds that nobody has the turn. -/
  | outwait (former : Lifecycle σ) (hstage : s.stage t = .awaiting former) (hturn : s.turn = none) :
    Move s t (s.move t (.releasing former))
  /-- A destruction finds nothing to release. -/
  | retire (hstage : s.stage t = .releasing .uninitialized) : Move s t (s.move t .idle)
  /-- A destruction releases what the former stage holds. -/
  | release (former : Lifecycle σ) (hstage : s.stage t = .releasing former)
    (hreaders : s.readers = []) : Move s t (s.moveWith (s.scene.release former).1 t .idle)

variable {s s' : EngineThreads W σ} {t u : Nat} {call : EngineCall}
  {answer : Except IoError Readiness} {mishap : Option IoError}

theorem move_of_begin (hstage : (s.stage t).isResting = true) (call : EngineCall) :
    Move s t (s.begin t call) := by
  cases call with
  | wait =>
    rw [begin]
    cases hsafe : s.scene.engine.threadSafe with
    | true => exact .queue hstage hsafe
    | false => exact .approach hstage hsafe
  | abortWait =>
    rw [begin]
    split
    · exact .wakeNobody hstage
    · exact .wake hstage _
  | destroy => exact .arrive hstage

/-- What a ring leaves of a state. -/
theorem ring_eq (s : EngineThreads W σ) (abort : AbortRef) (t : Nat) (mishap : Option IoError)
    (finished : EngineStage σ) : ∃ c, (s.scene.channel abort).Rings c ∧
      s.ring abort t mishap finished = ((s.setChannel c abort).letGo t).move t finished := by
  rw [ring]
  rcases hring : (s.scene.channel abort).ringDoorbell mishap with ⟨⟨e⟩ | ⟨rung⟩, c⟩
  · exact ⟨c.lower, ⟨mishap, .inr (by rw [hring])⟩, rfl⟩
  · exact ⟨c, ⟨mishap, .inl (by rw [hring])⟩, rfl⟩

theorem move_of_look {ticket : WaitTicket σ} {available : Bool}
    (hstage : s.stage t = .looking ticket available) (mishap : Option IoError) :
    Move s t (s.look ticket t mishap available) := by
  rw [look]
  rcases hlook : (s.scene.channel ticket.abort).lookAtDoorbell mishap with ⟨e⟩ | ⟨⟨⟩ | ⟨⟩⟩
  · exact .stop ticket available hstage _ (.inr ⟨e, rfl⟩)
  · exact .stop ticket available hstage _ (.inl rfl)
  · exact .see ticket available hstage mishap hlook

theorem move_of_answer {ticket : WaitTicket σ} {available : Bool}
    (hstage : s.stage t = .answering ticket available) (mishap : Option IoError) :
    Move s t (s.answer ticket t mishap available) := by
  have hchoke := Move.choke ticket available hstage mishap
  have hread := Move.read ticket available hstage mishap
  rw [answer]
  rcases hanswer : (s.scene.channel ticket.abort).answerDoorbell mishap with ⟨⟨e⟩ | ⟨⟨⟩⟩, c⟩
  · rw [hanswer] at hchoke
    exact hchoke e
  · rw [hanswer] at hread
    exact hread

/-- The channel of a signal that goes no further is left as it is. -/
theorem setChannel_raise {abort : AbortRef} (h : (s.scene.channel abort).raise.1 = true) :
    s.setChannel (s.scene.channel abort).raise.2 abort = s := by
  have hsame : (s.scene.channel abort).raise.2 = s.scene.channel abort := by
    rw [AbortChannel.raise] at h ⊢
    generalize s.scene.channel abort = c at h
    obtain ⟨doorbell, pending⟩ := c
    cases h
    rfl
  rw [hsame, setChannel, Scene.setChannel_self]

/-- A signal goes no further or raises the flag. -/
theorem raise_eq (s : EngineThreads W σ) (abort : AbortRef) (t : Nat)
    (raised finished : EngineStage σ) :
    s.raise abort t raised finished = s.move t finished ∨
      (s.scene.channel abort).isInitialized = true ∧ s.raise abort t raised finished
        = ((s.setChannel (s.scene.channel abort).raise.2 abort).hold abort t).move t raised := by
  rw [raise]
  split
  · rename_i hinit
    rcases hraise : (s.scene.channel abort).raise with ⟨⟨⟩ | ⟨⟩, c⟩
    · exact .inr ⟨hinit, rfl⟩
    · have hsame : s.setChannel (s.scene.channel abort).raise.2 abort = s :=
        setChannel_raise (by rw [hraise])
      rw [hraise] at hsame
      exact .inl (congrArg (·.move t finished) hsame)
  · exact .inl rfl

/-- Every step is one of the moves. -/
theorem move_of_step (h : s.step t call answer mishap = some s') : Move s t s' := by
  unfold step at h
  cases hstage : s.stage t with
  | idle | waited result =>
    rw [hstage] at h
    cases h
    exact move_of_begin (by rw [hstage]; rfl) call
  | queueing =>
    simp only [hstage, Option.ite_none_right_eq_some, Option.isNone_iff_eq_none] at h
    obtain ⟨hturn, ⟨⟩⟩ := h
    exact .takeTurn hstage hturn
  | entering =>
    rw [hstage] at h
    cases hmarked : s.scene.engine.waiting with
    | true =>
      have hsame : ({ s.scene with engine := { s.scene.engine with waiting := true } } : Scene W σ)
          = s.scene := by rw [← hmarked]
      simp only [Scene.enterWait, hmarked, hsame] at h
      cases h
      exact .reject hstage hmarked
    | false =>
      simp only [Scene.enterWait, hmarked] at h
      cases h
      exact .enter hstage hmarked
  | surveying =>
    simp only [hstage, Option.ite_none_right_eq_some, Option.isNone_iff_eq_none] at h
    obtain ⟨hguard, h⟩ := h
    cases hsurvey : s.scene.survey with
    | decided result =>
      rw [hsurvey] at h
      cases h
      exact .settle hstage hguard result hsurvey
    | asking ticket =>
      rw [hsurvey] at h
      cases h
      exact .ask hstage hguard ticket hsurvey
  | polling ticket =>
    rw [hstage] at h
    cases answer with
    | error e =>
      cases h
      exact .fail ticket hstage e
    | ok answer =>
      cases h
      exact .hear ticket hstage answer
  | concluding ticket answer =>
    rw [hstage] at h
    cases haborted : ticket.aborted answer with
    | false =>
      simp only [haborted, Bool.false_eq_true, if_false] at h
      cases h
      exact .conclude ticket answer hstage haborted
    | true =>
      simp only [haborted, if_true, lower] at h
      cases hinit : (s.scene.channel ticket.abort).isInitialized with
      | true =>
        simp only [hinit, if_true] at h
        cases h
        exact .lower ticket answer hstage hinit
      | false =>
        simp only [hinit, Bool.false_eq_true, if_false] at h
        cases h
        exact .miss ticket answer hstage hinit
  | looking ticket available =>
    rw [hstage] at h
    cases h
    exact move_of_look hstage mishap
  | answering ticket available =>
    rw [hstage] at h
    cases h
    exact move_of_answer hstage mishap
  | leaving handles result =>
    rw [hstage] at h
    cases h
    exact .leave handles result hstage
  | returning handles result =>
    rw [hstage] at h
    cases h
    exact .give handles result hstage
  | waking abort =>
    rw [hstage] at h
    cases h
    rcases s.raise_eq abort t (.ringing abort) .idle with hraise | ⟨hinit, hraise⟩
    · rw [hraise]
      exact .swallow abort hstage
    · rw [hraise]
      exact .raise abort hstage hinit
  | ringing abort =>
    rw [hstage] at h
    cases h
    obtain ⟨c, hc, hring⟩ := s.ring_eq abort t mishap .idle
    rw [hring]
    exact .ring abort hstage c hc
  | arriving =>
    simp only [hstage, Option.ite_none_right_eq_some, Option.isNone_iff_eq_none] at h
    obtain ⟨hguard, ⟨⟩⟩ := h
    exact .takeGuard hstage hguard
  | taking =>
    rw [hstage] at h
    cases h
    exact .take hstage
  | checking former =>
    rw [hstage] at h
    cases hmarked : s.scene.engine.waiting with
    | true =>
      simp only [hmarked, if_true] at h
      cases h
      exact .seeMark former hstage hmarked
    | false =>
      simp only [hmarked, Bool.false_eq_true, if_false] at h
      cases h
      exact .seeNobody former hstage hmarked
  | signalling former =>
    rw [hstage] at h
    cases hactive : s.scene.engine.activeAbort with
    | none =>
      simp only [hactive] at h
      cases h
      exact .spare former hstage
    | some abort =>
      simp only [hactive] at h
      cases h
      rcases s.raise_eq abort t (.rousing former abort) (.detaching former true) with
        hraise | ⟨hinit, hraise⟩
      · rw [hraise]
        exact .spare former hstage
      · rw [hraise]
        exact .alert former hstage abort hinit
  | rousing former abort =>
    rw [hstage] at h
    cases h
    obtain ⟨c, hc, hring⟩ := s.ring_eq abort t mishap (.detaching former true)
    rw [hring]
    exact .rouse former abort hstage c hc
  | detaching former waiter =>
    rw [hstage] at h
    cases h
    exact .detach former waiter hstage
  | unguarding former waiter =>
    rw [hstage] at h
    cases hawait : waiter && s.scene.engine.threadSafe with
    | true =>
      simp only [hawait, if_true] at h
      cases h
      obtain ⟨rfl, hsafe⟩ := (Bool.and_eq_true _ _).mp hawait
      exact .unguard former hstage hsafe
    | false =>
      simp only [hawait, Bool.false_eq_true, if_false] at h
      cases h
      exact .proceed former waiter hstage (Bool.and_eq_false_iff.1 hawait)
  | awaiting former =>
    simp only [hstage, Option.ite_none_right_eq_some, Option.isNone_iff_eq_none] at h
    obtain ⟨hturn, ⟨⟩⟩ := h
    exact .outwait former hstage hturn
  | releasing former =>
    cases former with
    | uninitialized =>
      rw [hstage] at h
      cases h
      exact .retire hstage
    | initialized | created core =>
      simp only [hstage, Option.ite_none_right_eq_some, List.isEmpty_iff] at h
      obtain ⟨hreaders, ⟨⟩⟩ := h
      exact .release _ hstage hreaders

/-! ## What moves do to a thread, the mark and the locks -/

theorem stage_move (s : EngineThreads W σ) (t u : Nat) (stage : EngineStage σ) :
    (s.move t stage).stage u = if u = t then stage else s.stage u := rfl

@[simp] theorem stage_move_self (s : EngineThreads W σ) (t : Nat) (stage : EngineStage σ) :
    (s.move t stage).stage t = stage := if_pos rfl

@[simp] theorem stage_moveWith_self (s : EngineThreads W σ) (scene : Scene W σ) (t : Nat)
    (stage : EngineStage σ) : (s.moveWith scene t stage).stage t = stage := if_pos rfl

namespace Move

/-- A thread does not move another one. -/
theorem stage_of_ne (h : Move s t s') (hne : u ≠ t) : s'.stage u = s.stage u := by
  cases h <;> simp [stage_move, moveWith, hne]

/-- No step changes the mode. -/
theorem threadSafe_eq (h : Move s t s') :
    s'.scene.engine.threadSafe = s.scene.engine.threadSafe := by
  cases h with
  | lower | raise | alert => exact (s.sameState_hold ..).threadSafe
  | choke | ring | rouse => exact (s.sameState_letGo ..).threadSafe
  | read => exact (s.scene.sameState_setChannel ..).threadSafe
  | release former => exact (s.scene.sameState_release former).threadSafe
  | _ => rfl

/-- A thread changes the mark when it comes to be inside a wait and when it ceases to be, and at no
other time. -/
theorem mark (h : Move s t s') :
    ((s'.stage t).isInside = (s.stage t).isInside ∧
        s'.scene.engine.waiting = s.scene.engine.waiting) ∨
      ((s.stage t).isInside = false ∧ (s'.stage t).isInside = true ∧
        s.scene.engine.waiting = false ∧ s'.scene.engine.waiting = true) ∨
      ((s.stage t).isInside = true ∧ (s'.stage t).isInside = false ∧
        s'.scene.engine.waiting = false) := by
  cases h with
  | queue hstage | approach hstage | wakeNobody hstage | wake hstage | arrive hstage =>
    rw [EngineStage.isInside_of_isResting hstage, stage_move_self]
    exact .inl ⟨rfl, rfl⟩
  | enter hstage hmarked =>
    rw [hstage]
    exact .inr (.inl ⟨rfl, by rw [stage_moveWith_self]; rfl, hmarked, rfl⟩)
  | leave handles result hstage =>
    rw [hstage]
    exact .inr (.inr ⟨rfl, by rw [stage_moveWith_self]; rfl, rfl⟩)
  | lower | raise | alert =>
    exact .inl ⟨by simp [EngineStage.isInside, *], (s.sameState_hold ..).waiting⟩
  | choke | ring | rouse =>
    exact .inl ⟨by simp [EngineStage.isInside, *], (s.sameState_letGo ..).waiting⟩
  | read =>
    exact .inl ⟨by simp [EngineStage.isInside, *], (s.scene.sameState_setChannel ..).waiting⟩
  | release former hstage =>
    rw [hstage, stage_moveWith_self]
    exact .inl ⟨rfl, (s.scene.sameState_release former).waiting⟩
  | _ => exact .inl ⟨by simp [EngineStage.isInside, *], rfl⟩

/-- A thread takes the turn when its wait is admitted, and gives it back when its wait returns. -/
theorem turn (h : Move s t s') :
    ((s'.stage t).isAdmitted = (s.stage t).isAdmitted ∧ s'.turn = s.turn) ∨
      ((s.stage t).isAdmitted = false ∧ (s'.stage t).isAdmitted = true ∧
        (s.turn = none ∧ s'.turn = some t ∨
          s.scene.engine.threadSafe = false ∧ s'.turn = s.turn)) ∨
      ((s.stage t).isAdmitted = true ∧ (s'.stage t).isAdmitted = false ∧
        s'.turn = if s.turn = some t then none else s.turn) := by
  cases h with
  | queue hstage | wakeNobody hstage | wake hstage | arrive hstage =>
    rw [EngineStage.isAdmitted_of_isResting hstage, stage_move_self]
    exact .inl ⟨rfl, rfl⟩
  | approach hstage hsafe =>
    rw [EngineStage.isAdmitted_of_isResting hstage, stage_move_self]
    exact .inr (.inl ⟨rfl, rfl, .inr ⟨hsafe, rfl⟩⟩)
  | takeTurn hstage hturn =>
    rw [hstage, stage_move_self]
    exact .inr (.inl ⟨rfl, rfl, .inl ⟨hturn, rfl⟩⟩)
  | give handles result hstage =>
    rw [hstage, stage_move_self]
    exact .inr (.inr ⟨rfl, rfl, rfl⟩)
  | lower | raise | alert => exact .inl ⟨by simp [EngineStage.isAdmitted, *], turn_hold ..⟩
  | _ => exact .inl ⟨by simp [EngineStage.isAdmitted, *], rfl⟩

/-- A thread takes the guard when nobody has it, and gives it back. -/
theorem guard (h : Move s t s') :
    ((s'.stage t).isGuarding = (s.stage t).isGuarding ∧ s'.guard = s.guard) ∨
      ((s.stage t).isGuarding = false ∧ (s'.stage t).isGuarding = true ∧
        s.guard = none ∧ s'.guard = some t) ∨
      ((s.stage t).isGuarding = true ∧ (s'.stage t).isGuarding = false ∧ s'.guard = none) := by
  cases h with
  | queue hstage | approach hstage | wakeNobody hstage | wake hstage | arrive hstage =>
    rw [EngineStage.isGuarding_of_isResting hstage, stage_move_self]
    exact .inl ⟨rfl, rfl⟩
  | takeGuard hstage hguard =>
    rw [hstage, stage_move_self]
    exact .inr (.inl ⟨rfl, rfl, hguard, rfl⟩)
  | unguard former hstage =>
    rw [hstage, stage_move_self]
    exact .inr (.inr ⟨rfl, rfl, rfl⟩)
  | proceed former waiter hstage =>
    rw [hstage, stage_move_self]
    exact .inr (.inr ⟨rfl, rfl, rfl⟩)
  | lower | raise | alert => exact .inl ⟨by simp [EngineStage.isGuarding, *], guard_hold ..⟩
  | _ => exact .inl ⟨by simp [EngineStage.isGuarding, *], rfl⟩

/-- A thread is among the readers as long as it is in the midst of a signal or a drain of the own
channel. -/
theorem readers (h : Move s t s') :
    ((s'.stage t).isReading = (s.stage t).isReading ∧ s'.readers = s.readers) ∨
      ((s'.stage t).isReading = true ∧ s'.readers = t :: s.readers) ∨
      ((s'.stage t).isReading = false ∧ s'.readers = s.readers.filter (· ≠ t)) := by
  cases h with
  | queue hstage | approach hstage | wakeNobody hstage | wake hstage | arrive hstage =>
    rw [EngineStage.isReading_of_isResting hstage, stage_move_self]
    exact .inl ⟨rfl, rfl⟩
  | lower ticket answer hstage =>
    obtain ⟨streams, abort⟩ := ticket
    cases abort with
    | own => exact .inr (.inl ⟨by simp [EngineStage.isReading], rfl⟩)
    | shared index => exact .inl ⟨by simp [EngineStage.isReading, hstage], rfl⟩
  | raise abort hstage =>
    cases abort with
    | own => exact .inr (.inl ⟨by simp [EngineStage.isReading], rfl⟩)
    | shared index => exact .inl ⟨by simp [EngineStage.isReading, hstage], rfl⟩
  | alert former hstage abort =>
    cases abort with
    | own => exact .inr (.inl ⟨by simp [EngineStage.isReading], rfl⟩)
    | shared index => exact .inl ⟨by simp [EngineStage.isReading, hstage], rfl⟩
  | stop | choke | ring | rouse => exact .inr (.inr ⟨by simp [EngineStage.isReading], rfl⟩)
  | _ => exact .inl ⟨by simp [EngineStage.isReading, *], rfl⟩

/-- Where the result of a wait comes from. -/
theorem result (h : Move s t s') {result : Except TransmitError Bool}
    (hresult : (s'.stage t).result? = some result) :
    (s.stage t).result? = some result ∨
      (s.stage t = .entering ∧ s.scene.engine.waiting = true ∧
        s'.stage t = .returning false (.error .alreadyWaiting)) ∨
      (s.stage t = .surveying ∧ s.scene.Surveys (.decided result)) ∨
      (∃ e, result = .error (.io e)) ∨ (∃ available, result = .ok available) ∨
      ∃ ticket answer, s.stage t = .concluding ticket answer ∧
        (s.scene.channel ticket.abort).isInitialized = false ∧
        result = .error .abortNotInitialized := by
  have hnone : ∀ {stage : EngineStage σ}, stage.result? = none → s'.stage t ≠ stage := by
    rintro stage hstage rfl
    rw [hstage] at hresult
    cases hresult
  cases h with
  | reject hstage hmarked => exact .inr (.inl ⟨hstage, hmarked, stage_move_self ..⟩)
  | settle hstage _ decided hsurvey =>
    rw [stage_move_self] at hresult
    cases hresult
    exact .inr (.inr (.inl ⟨hstage, hsurvey ▸ s.scene.surveys_survey⟩))
  | fail ticket hstage e =>
    rw [stage_move_self] at hresult
    cases hresult
    exact .inr (.inr (.inr (.inl ⟨e, rfl⟩)))
  | conclude =>
    rw [stage_move_self] at hresult
    cases hresult
    exact .inr (.inr (.inr (.inr (.inl ⟨_, rfl⟩))))
  | miss ticket answer hstage hgone =>
    rw [stage_move_self] at hresult
    cases hresult
    exact .inr (.inr (.inr (.inr (.inr ⟨ticket, answer, hstage, hgone, rfl⟩))))
  | stop ticket available hstage ended hended =>
    rw [stage_move_self] at hresult
    cases hresult
    rcases hended with rfl | ⟨e, rfl⟩
    · exact .inr (.inr (.inr (.inr (.inl ⟨_, rfl⟩))))
    · exact .inr (.inr (.inr (.inl ⟨e, rfl⟩)))
  | choke ticket available hstage mishap e =>
    rw [stage_move_self] at hresult
    cases hresult
    exact .inr (.inr (.inr (.inl ⟨e, rfl⟩)))
  | leave handles settled hstage =>
    rw [stage_moveWith_self] at hresult
    rw [hstage]
    exact .inl hresult
  | give handles settled hstage =>
    rw [stage_move_self] at hresult
    rw [hstage]
    exact .inl hresult
  | _ => exact absurd (if_pos rfl) (hnone rfl)

end Move

/-! ## Runs -/

/-- The next step of a thread: the call that it begins if it is in none, the answer that it gets if
it is inside the poller, and the error that the system has for it if it is at a doorbell. -/
structure Stride where
  thread : Nat
  call : EngineCall
  answer : Except IoError Readiness
  mishap : Option IoError

/-- What happens next among threads that share an engine. -/
inductive Happening (W σ : Type) where
  /-- A thread takes a step. -/
  | stride (stride : Stride)
  /-- Some other call of the engine leaves this behind. -/
  | other (scene : Scene W σ)

namespace Happening

/-- Whether it is a step of the given thread. -/
def isOf (t : Nat) : Happening W σ → Bool
  | .stride next => next.thread = t
  | .other _ => false

end Happening

/-- Let something happen, if nothing blocks it. -/
def happen (s : EngineThreads W σ) : Happening W σ → Option (EngineThreads W σ)
  | .stride stride => s.step stride.thread stride.call stride.answer stride.mishap
  | .other scene =>
    if scene.engine.waiting = s.scene.engine.waiting ∧
        scene.engine.threadSafe = s.scene.engine.threadSafe then
      some { s with scene }
    else none

/-- Let one thing happen after the other. -/
def run (s : EngineThreads W σ) : List (Happening W σ) → Option (EngineThreads W σ)
  | [] => some s
  | next :: later => (s.happen next).bind (·.run later)

theorem run_append (s : EngineThreads W σ) (first second : List (Happening W σ)) :
    s.run (first ++ second) = (s.run first).bind (·.run second) := by
  induction first generalizing s with
  | nil => rfl
  | cons next first ih =>
    rw [List.cons_append, run, run]
    cases s.happen next with
    | none => rfl
    | some s' => exact ih s'

theorem run_concat {start : EngineThreads W σ} {happenings : List (Happening W σ)}
    {last : Happening W σ} : start.run (happenings ++ [last]) = some s' ↔
      ∃ s, start.run happenings = some s ∧ s.happen last = some s' := by
  rw [run_append, Option.bind_eq_some_iff]
  simp only [run, Option.bind_fun_some]

/-- What everything preserves that may happen holds at the end of a run. -/
theorem run_induction {P : EngineThreads W σ → Prop}
    (hhappen : ∀ s next s', s.happen next = some s' → P s → P s')
    {happenings : List (Happening W σ)} (hs : P s) (hrun : s.run happenings = some s') : P s' := by
  induction happenings generalizing s with
  | nil =>
    cases hrun
    exact hs
  | cons next later ih =>
    obtain ⟨middle, hnext, hlater⟩ := Option.bind_eq_some_iff.1 hrun
    exact ih (hhappen s next middle hnext hs) hlater

/-- A thread takes one of the moves, or all threads stay where they are. -/
theorem cases_of_happen {next : Happening W σ} (h : s.happen next = some s') :
    (∃ stride, next = .stride stride ∧ Move s stride.thread s') ∨
      ∃ scene, next = .other scene ∧ s' = { s with scene } ∧
        scene.engine.waiting = s.scene.engine.waiting ∧
        scene.engine.threadSafe = s.scene.engine.threadSafe := by
  cases next with
  | stride stride => exact .inl ⟨stride, rfl, move_of_step h⟩
  | other scene =>
    simp only [happen, Option.ite_none_right_eq_some, Option.some.injEq] at h
    exact .inr ⟨scene, rfl, h.2.symm, h.1⟩

end EngineThreads

end StreamRtp
