import StreamRtp.Proofs.Reassembly
import StreamRtp.Proofs.Refusals
import StreamRtp.Proofs.RegistrationOrder
import StreamRtp.Socket.Turns

/-!
# Waits and wake-up calls

One caller makes calls of a created engine whose abort channel nobody else uses, and the poller
tells the truth. Then the abort channel remembers one thing: whether the engine was woken since a
wait last asked the poller. A wait that asks reports it and forgets it; a wait that finds a packet
in the queue does not ask, and the wake-up call is kept for the next one. However often the engine
is woken, one wait reports it.

## One call

`SignalStep` says what a call makes of the signal. Everything that is said of runs follows from it.
-/

namespace StreamRtp

variable {W σ α : Type}

/-! ## The poller -/

/-- Whether a handle can be read, if it is known of streams. -/
def Handle.isReadable (readable : σ → Bool) : Handle σ → Bool
  | .stream s => readable s
  | .abort raised => raised

/-- The poller reports exactly the handles that can be read at the time of its answer. -/
def ReportsReadable [Network W σ] (readable : σ → W → Bool) : Prop :=
  ∀ (handles : List (Handle σ)) (timeout : Duration) (w : W),
    (Network.waitReady handles timeout w).1 = .ok (.ofFlags
      (handles.map (Handle.isReadable (readable · (Network.waitReady handles timeout w).2))))

theorem Readiness.fit_length (flags : List Bool) : fit flags.length flags = flags := by
  induction flags with
  | nil => rfl
  | cons flag flags ih => rw [List.length_cons, fit, ih]

namespace Core

variable {core : Core σ} {flags : List Bool} (hlength : flags.length = core.streams.length)
  (raised : Bool)

include hlength

/-- The flags of a poller that gives one flag for each handle are taken as they are. -/
theorem findings_ofFlags :
    core.ticket.findings (.ofFlags (flags ++ [raised])) = flags ++ [raised] := by
  have hcount : core.ticket.streams.length + 1 = (flags ++ [raised]).length := by
    rw [List.length_append, hlength]
    rfl
  rw [WaitTicket.findings, hcount]
  exact Readiness.fit_length _

theorem foundAvailable_ofFlags :
    core.foundAvailable (.ofFlags (flags ++ [raised])) = decide (true ∈ flags) := by
  have htaken : (flags ++ [raised]).take core.ticket.streams.length = flags :=
    List.take_left' hlength
  rw [foundAvailable, WaitTicket.available, findings_ofFlags hlength, htaken, Bool.eq_iff_iff]
  simp

theorem foundAborted_ofFlags : core.foundAborted (.ofFlags (flags ++ [raised])) = raised := by
  rw [foundAborted, WaitTicket.aborted, findings_ofFlags hlength]
  simp

end Core

/-! ## What a history tells -/

namespace Performed

/-- Whether the engine was woken. -/
def Wakes (p : Performed σ) : Prop := p.call = .abortWait ∧ p.result = .ok .done

/-- Whether a wait has asked the poller. -/
def Asks (p : Performed σ) : Prop :=
  ∃ timeout handles answer, p.call = .wait timeout ∧ .waitReady handles timeout answer ∈ p.events

/-- What the poller has told a wait about the abort channel, whose handle is the last one. -/
def report? (p : Performed σ) : Option Bool :=
  match p.call, p.events with
  | .wait _, .waitReady _ _ (.ok answer) :: _ => answer.flags.getLast?
  | _, _ => none

end Performed

/-- Whether a signal is due: the engine was woken since a wait last asked the poller, or no wait has
asked and a signal was pending in the beginning. -/
def Due (pending : Prop) (history : List (Performed σ)) : Prop :=
  Since Performed.Wakes Performed.Asks history ∨ pending ∧ ∀ p ∈ history, ¬p.Asks

theorem due_concat {pending : Prop} {history : List (Performed σ)} {p : Performed σ} :
    Due pending (history ++ [p]) ↔ p.Wakes ∨ Due pending history ∧ ¬p.Asks := by
  simp only [Due, since_concat, List.forall_mem_append, List.forall_mem_singleton]
  tauto

theorem Performed.report?_of_ne {call : Call σ} (hcall : ∀ timeout, call ≠ .wait timeout)
    (result : Except TransmitError (Reply σ)) (events : List (Event σ)) :
    (⟨call, result, events⟩ : Performed σ).report? = none := by
  cases call with
  | wait timeout => exact absurd rfl (hcall timeout)
  | _ => rfl

/-! ## What a call makes of the signal -/

/-- What a call makes of the signal. -/
inductive SignalStep (raised : Bool) (p : Performed σ) : Bool → Prop
  | woken (hwakes : p.Wakes) (hreport : p.report? = none) : SignalStep raised p true
  | asked (hwakes : ¬p.Wakes) (hasks : p.Asks) (hreport : p.report? = some raised) :
    SignalStep raised p false
  | other (hwakes : ¬p.Wakes) (hasks : ¬p.Asks) (hreport : p.report? = none) :
    SignalStep raised p raised

theorem SignalStep.due {pending : Prop} {history : List (Performed σ)} {raised after : Bool}
    {p : Performed σ} (hstep : SignalStep raised p after)
    (hdue : raised = true ↔ Due pending history) :
    after = true ↔ Due pending (history ++ [p]) := by
  rw [due_concat]
  cases hstep with
  | woken hwakes => simp [hwakes]
  | asked hwakes hasks => simp [hwakes, hasks]
  | other hwakes hasks => simp [hwakes, hasks, hdue]

namespace AbortChannel

/-- A channel that has a doorbell and is used by one caller at a time. -/
def Ready (c : AbortChannel) : Prop := c = silent ∨ c = rung

variable {c : AbortChannel}

theorem Ready.isInitialized (h : c.Ready) : c.isInitialized = true := by
  rcases h with rfl | rfl <;> rfl

theorem Ready.wakes (h : c.Ready) : c.wakes = c.isRung := by
  rcases h with rfl | rfl <;> rfl

theorem Ready.eq_silent (h : c.Ready) (hc : c.isRung = false) : c = silent := by
  rcases h with rfl | rfl
  · rfl
  · cases hc

theorem Ready.clearPendingSignals (h : c.Ready) : c.clearPendingSignals.2.1 = silent := by
  obtain ⟨d, hd⟩ := Option.isSome_iff_exists.1 h.isInitialized
  rw [clearPendingSignals_of_some hd]

theorem Ready.signal (h : c.Ready) : c.signal.1 = .ok () ∧ c.signal.2.1 = rung := by
  rcases h with rfl | rfl <;> exact ⟨rfl, rfl⟩

end AbortChannel

namespace Scene

variable (scene : Scene W σ)

theorem channel_withCore (f : Core σ → W → CoreOutcome W σ α) (abort : AbortRef) :
    (scene.withCore f).scene.channel abort = scene.channel abort := by
  rw [withCore]
  split
  · rfl
  · cases abort <;> rfl

/-- No other call touches an abort channel. -/
theorem channel_perform [Network W σ] {call : Call σ} (hcall : ¬call.UsesAbort)
    (abort : AbortRef) : (scene.perform call).scene.channel abort = scene.channel abort := by
  cases call with
  | init threadSafe | wait timeout => exact absurd trivial hcall
  | destroy | abortWait => exact absurd trivial hcall
  | create size params =>
    rw [perform, Outcome.reply, Outcome.map, create]
    split
    · rfl
    · rfl
    · dsimp only
      split
      · rfl
      · cases abort <;> rfl
  | clearDestinations =>
    rw [perform, Outcome.reply, Outcome.map, clearDestinations]
    split
    · exact scene.channel_withCore _ abort
    · rfl
  | isThreadSafe | newDataAvailable | supportsMulticasting | leaveAllGroups | headerOverhead => rfl
  | joinGroup address | leaveGroup address => rfl
  | _ => exact scene.channel_withCore _ abort

/-- Between two calls of a created engine whose abort channel nobody else uses. -/
structure Listening (abort : AbortRef) : Prop where
  tidy : scene.engine.Tidy
  core : scene.engine.lifecycle.abort? = some abort
  active : scene.engine.activeAbort = some abort
  ready : (scene.channel abort).Ready

/-- A call leaves the abort channel ready and makes one step of the signal. -/
structure Tracks [Network W σ] (abort : AbortRef) (call : Call σ) : Prop where
  ready : ((scene.perform call).scene.channel abort).Ready
  step : SignalStep (scene.channel abort).isRung (scene.performed call)
    ((scene.perform call).scene.channel abort).isRung

namespace Listening

variable {scene} {abort : AbortRef} {core : Core σ}

theorem exists_core (h : scene.Listening abort) :
    ∃ core, scene.engine.lifecycle = .created core ∧ core.abort = abort :=
  Lifecycle.abort?_eq_some.1 h.core

variable [Network W σ]

/-- Until it is destroyed, an engine keeps its abort channel. -/
theorem step (h : scene.Listening abort) {call : Call σ} (hcall : call ≠ .destroy)
    (hready : ((scene.perform call).scene.channel abort).Ready) :
    (scene.perform call).scene.Listening abort := by
  have htidy := tidy_perform h.tidy call
  cases scene.perform_partStep h.tidy call with
  | kept _ _ hcore hactive => exact ⟨htidy, hcore.trans h.core, hactive.trans h.active, hready⟩
  | initialised _ _ _ hnone => cases hnone.symm.trans h.core
  | created _ _ _ hnone => cases hnone.symm.trans h.core
  | destroyed hdestroy => exact absurd hdestroy hcall

/-- A wait that finds a packet leaves everything as it is. -/
theorem wait_of_queued (h : scene.Listening abort)
    (hcreated : scene.engine.lifecycle = .created core) (hqueue : core.queue ≠ [])
    (timeout : Duration) : scene.wait timeout = ⟨.ok true, scene, []⟩ := by
  have hends := scene.waitEnds_wait timeout [] h.tidy.unmarked hcreated
  generalize scene.wait timeout = out at hends
  cases hends with
  | queued => rfl
  | mute hempty | failed hempty | stuck hempty | answered hempty => exact absurd hempty hqueue

/-- A wait that finds no packet is told the truth and leaves the abort channel silent. -/
theorem wait_of_empty (h : scene.Listening abort) {readable : σ → W → Bool}
    (hpoller : ReportsReadable readable) (hcreated : scene.engine.lifecycle = .created core)
    (hqueue : core.queue = []) (timeout : Duration) : ∃ log world,
      let flags := core.streams.map (readable · world)
      let raised := (scene.channel abort).isRung
      scene.wait timeout = ⟨.ok (decide (true ∈ flags)),
        ({ scene with world } : Scene W σ).setChannel .silent abort,
        .waitReady (core.streams.map .stream ++ [.abort raised]) timeout
          (.ok (.ofFlags (flags ++ [raised]))) :: logged log⟩ := by
  have habort : core.abort = abort := by
    have hcore := h.core
    rw [hcreated] at hcore
    exact Option.some.inj hcore
  subst habort
  have hhandles : scene.waitHandles core
      = core.streams.map .stream ++ [.abort (scene.channel core.abort).isRung] := by
    rw [← h.ready.wakes]
    rfl
  have hends := scene.waitEnds_wait timeout [] h.tidy.unmarked hcreated
  generalize scene.wait timeout = out at hends
  cases hends with
  | queued hsome => exact absurd hqueue hsome
  | mute _ hmute => cases hmute.symm.trans h.ready.isInitialized
  | failed _ _ e world hasked =>
    have htruth := hpoller (scene.waitHandles core) timeout scene.world
    rw [hasked] at htruth
    cases htruth
  | stuck _ d d' _ _ _ _ _ e hdrain => cases hdrain.symm.trans d.drain_eq
  | answered _ _ answer world hasked _ log =>
    have htruth := hpoller (scene.waitHandles core) timeout scene.world
    rw [hasked, hhandles, List.map_append, List.map_map] at htruth
    have hflags : (core.streams.map (readable · world)).length = core.streams.length :=
      List.length_map _
    obtain rfl : answer = .ofFlags (core.streams.map (readable · world)
        ++ [(scene.channel core.abort).isRung]) := Except.ok.inj htruth
    refine ⟨log, world, ?_⟩
    have hcleared : (({ scene with world } : Scene W σ).channel core.abort).clearPendingSignals.2.1
        = .silent := h.ready.clearPendingSignals
    rw [Core.foundAvailable_ofFlags hflags, afterAnswer, Core.foundAborted_ofFlags hflags, hhandles,
      hcleared]
    split
    · rfl
    · rename_i hrung
      -- A channel that is not rung is silent already.
      have hsilent : ({ scene with world } : Scene W σ).channel core.abort = .silent :=
        h.ready.eq_silent (Bool.eq_false_iff.2 hrung)
      rw [← hsilent, setChannel_self]

/-! ### The signal along a call -/

/-- A call that leaves the channel alone is none of those that a history is asked for. -/
theorem tracks_of_same (h : scene.Listening abort) {call : Call σ}
    (hsame : (scene.perform call).scene.channel abort = scene.channel abort)
    (hwake : call ≠ .abortWait) (hwait : ∀ timeout, call ≠ .wait timeout) :
    scene.Tracks abort call := by
  refine ⟨hsame ▸ h.ready, ?_⟩
  rw [hsame]
  refine .other ?_ ?_ (Performed.report?_of_ne hwait _ _)
  · rintro ⟨habort, -⟩
    exact hwake habort
  · rintro ⟨timeout, -, -, hask, -⟩
    exact hwait timeout hask

theorem tracks_wait (h : scene.Listening abort) {readable : σ → W → Bool}
    (hpoller : ReportsReadable readable) (timeout : Duration) :
    scene.Tracks abort (.wait timeout) := by
  have hwakes : ¬(scene.performed (.wait timeout)).Wakes := by
    rintro ⟨hcall, -⟩
    cases hcall
  obtain ⟨core, hcreated, -⟩ := h.exists_core
  by_cases hqueue : core.queue = []
  · obtain ⟨log, world, hwait⟩ := h.wait_of_empty hpoller hcreated hqueue timeout
    have hsilent : (scene.perform (.wait timeout)).scene.channel abort = .silent := by
      rw [perform, Outcome.map, hwait]
      exact ({ scene with world } : Scene W σ).channel_setChannel h.ready.isInitialized _
    refine ⟨.inl hsilent, ?_⟩
    rw [hsilent]
    rw [performed, perform, Outcome.map, hwait] at hwakes ⊢
    refine .asked hwakes ⟨_, _, _, rfl, List.mem_cons_self⟩ ?_
    simp [Performed.report?, Readiness.ofFlags]
  · have hwait := h.wait_of_queued hcreated hqueue timeout
    have hsame : (scene.perform (.wait timeout)).scene = scene := by
      rw [perform, Outcome.map, hwait]
    have hready : ((scene.perform (.wait timeout)).scene.channel abort).Ready := by
      rw [hsame]
      exact h.ready
    refine ⟨hready, ?_⟩
    rw [hsame]
    rw [performed, perform, Outcome.map, hwait] at hwakes ⊢
    refine .other hwakes ?_ rfl
    rintro ⟨_, _, _, -, hevent⟩
    cases hevent

omit [Network W σ] in
theorem abortWait_eq (h : scene.Listening abort) :
    scene.abortWait.result = .ok () ∧ scene.abortWait.scene.channel abort = .rung := by
  obtain ⟨hresult, hchannel⟩ := h.ready.signal
  rw [abortWait_of_active h.active, Mishaps.first_nil, hresult, hchannel]
  exact ⟨rfl, scene.channel_setChannel h.ready.isInitialized AbortChannel.rung⟩

/-- Waking succeeds, and leaves a signal. -/
theorem wakes_abortWait (h : scene.Listening abort) :
    (scene.performed .abortWait).Wakes ∧ (scene.perform .abortWait).scene.Listening abort ∧
      ((scene.perform .abortWait).scene.channel abort).isRung = true := by
  obtain ⟨hresult, hchannel⟩ := h.abortWait_eq
  have hrung : (scene.perform .abortWait).scene.channel abort = .rung := hchannel
  have hcall : (.abortWait : Call σ) ≠ .destroy := by simp
  refine ⟨⟨rfl, ?_⟩, h.step hcall (.inr hrung), ?_⟩
  · rw [performed, perform, Outcome.reply, Outcome.map, hresult]
    rfl
  · rw [hrung]
    rfl

/-- What any call but the destruction makes of the signal. -/
theorem tracks (h : scene.Listening abort) {readable : σ → W → Bool}
    (hpoller : ReportsReadable readable) {call : Call σ} (hcall : call ≠ .destroy) :
    scene.Tracks abort call := by
  by_cases huses : call.UsesAbort
  · cases call with
    | init threadSafe =>
      obtain ⟨core, hcreated, -⟩ := h.exists_core
      have hdenies : scene.Denies (.init threadSafe) .alreadyInitialized :=
        .initAgain threadSafe (.inl (by simp [hcreated]))
      exact h.tracks_of_same (by rw [perform_of_denies hdenies]) (by simp) (by simp)
    | destroy => exact absurd rfl hcall
    | wait timeout => exact h.tracks_wait hpoller timeout
    | abortWait =>
      obtain ⟨hwakes, hlistening, hrung⟩ := h.wakes_abortWait
      exact ⟨hlistening.ready, hrung ▸ .woken hwakes rfl⟩
    | _ => exact huses.elim
  · refine h.tracks_of_same (scene.channel_perform huses abort) ?_ ?_
    · rintro rfl
      exact huses trivial
    · rintro timeout rfl
      exact huses trivial

/-! ### The signal along a run -/

/-- Along a run the abort channel says whether a signal is due. -/
theorem run (h : scene.Listening abort) {readable : σ → W → Bool}
    (hpoller : ReportsReadable readable) {pending : Prop} {history : List (Performed σ)}
    (hdue : (scene.channel abort).isRung = true ↔ Due pending history) {calls : List (Call σ)}
    (hcalls : ∀ call ∈ calls, call ≠ .destroy) :
    (scene.run calls).2.Listening abort ∧ (((scene.run calls).2.channel abort).isRung = true ↔
      Due pending (history ++ (scene.run calls).1)) := by
  induction calls generalizing scene history with
  | nil =>
    rw [Scene.run, List.append_nil]
    exact ⟨h, hdue⟩
  | cons call calls ih =>
    obtain ⟨hcall, hcalls⟩ := List.forall_mem_cons.1 hcalls
    obtain ⟨hready, hstep⟩ := h.tracks hpoller hcall
    rw [run_cons, List.append_cons]
    exact ih (h.step hcall hready) (hstep.due hdue) hcalls

end Listening

/-! ## The beginning -/

end Scene

namespace Engine

variable [Network W σ]

end Engine

namespace Scene

variable [Network W σ] (scene : Scene W σ)

end Scene

namespace Scene

end Scene

end StreamRtp
