import StreamRtp.Proofs.Renewal
import StreamRtp.Proofs.WaitEnds

/-!
# The parts of an engine stay in step

Which abort channel an engine listens to is written down twice: in the core, for waits, and outside
of it, for those who want to wake a wait without asking for the core. Whether the engine has a
channel of its own can be read off its stage as well as off the channel. And the mode is kept in a
place of its own. Calls change these parts one after the other, so they might come apart when a call
is refused on the way. They do not.

`PartStep` says what a call makes of the two references and of the mode. It is the only place where
calls are taken apart; that the parts agree with each other and with the history follows from it.
-/

namespace StreamRtp

variable {W σ α : Type}

/-! ## Parts and history -/

/-- The abort channel of the core. -/
def Lifecycle.abort? : Lifecycle σ → Option AbortRef
  | created core => some core.abort
  | _ => none

namespace Performed

/-- The mode that was chosen by an initialisation that succeeded. -/
def mode? (p : Performed σ) : Option Bool :=
  match p.call, p.result with
  | .init threadSafe, .ok _ => some threadSafe
  | _, _ => none

/-- The abort channel that was chosen by a creation that succeeded. -/
def abort? (p : Performed σ) : Option AbortRef :=
  match p.call, p.result with
  | .create _ params, .ok _ => some (params.abortChannel.elim .own .shared)
  | _, _ => none

end Performed

/-- The mode that was chosen last. -/
def lastMode? (history : List (Performed σ)) : Option Bool :=
  (history.filterMap Performed.mode?).getLast?

/-- The abort channel that was chosen last. -/
def lastAbort? (history : List (Performed σ)) : Option AbortRef :=
  (history.filterMap Performed.abort?).getLast?

theorem lastMode?_concat (history : List (Performed σ)) (p : Performed σ) :
    lastMode? (history ++ [p]) = p.mode?.or (lastMode? history) := by
  cases hp : p.mode? <;> simp [lastMode?, hp]

theorem lastAbort?_concat (history : List (Performed σ)) (p : Performed σ) :
    lastAbort? (history ++ [p]) = p.abort?.or (lastAbort? history) := by
  cases hp : p.abort? <;> simp [lastAbort?, hp]

/-- The calls that an engine has answered, with what came of them. -/
def Engine.history [Network W σ] (engine : Engine σ) : List (Occasion W σ) → List (Performed σ)
  | [] => []
  | o :: occasions =>
    let out := engine.meet o
    ⟨o.call, out.result, out.events⟩ :: out.scene.engine.history occasions

/-! ## What a call makes of the parts -/

/-- What a call makes of the two references and of the mode. -/
inductive PartStep (before : Engine σ) (p : Performed σ) (after : Engine σ) : Prop
  | kept (hmode? : p.mode? = none) (habort? : p.abort? = none)
    (habort : after.lifecycle.abort? = before.lifecycle.abort?)
    (hactive : after.activeAbort = before.activeAbort)
    (hmode : after.threadSafe = before.threadSafe)
  | initialised (threadSafe : Bool) (hmode? : p.mode? = some threadSafe) (habort? : p.abort? = none)
    (hbefore : before.lifecycle.abort? = none) (habort : after.lifecycle.abort? = none)
    (hactive : after.activeAbort = before.activeAbort) (hmode : after.threadSafe = threadSafe)
  | created (abort : AbortRef) (hmode? : p.mode? = none) (habort? : p.abort? = some abort)
    (hbefore : before.lifecycle.abort? = none) (habort : after.lifecycle.abort? = some abort)
    (hactive : after.activeAbort = some abort) (hmode : after.threadSafe = before.threadSafe)
  | destroyed (hcall : p.call = .destroy) (hmode? : p.mode? = none) (habort? : p.abort? = none)
    (habort : after.lifecycle.abort? = none) (hactive : after.activeAbort = none)
    (hmode : after.threadSafe = before.threadSafe)

namespace Core

variable [Network W σ] (core : Core σ) (w : W)

theorem abort_addDestination (stream : σ) :
    (core.addDestination stream w).core.abort = core.abort := by
  rw [addDestination]
  dsimp only
  split
  · rfl
  · split
    · rfl
    · split <;> rfl

omit [Network W σ] in
theorem abort_deleteDestination (id : ConnectionId) :
    (core.deleteDestination id w).core.abort = core.abort := by
  rw [deleteDestination]
  split <;> rfl

theorem abort_poll : (core.poll w).core.abort = core.abort := by
  rcases core.poll_cases w with ⟨hcore, -⟩ | ⟨answer, w', -, -, hpoll⟩
  · rw [hcore]
  · rw [hpoll]
    rfl

theorem abort_send (payload : Bytes) : (core.send payload w).core.abort = core.abort := by
  rw [send]
  split
  · rfl
  · split <;> rfl

omit [Network W σ] in
theorem abort_deleteIgnored (id : ConnectionId) :
    (core.deleteIgnored id w).core.abort = core.abort := by
  rw [deleteIgnored]
  split <;> rfl

omit [Network W σ] in
theorem abort_deleteAccepted (id : ConnectionId) :
    (core.deleteAccepted id w).core.abort = core.abort := by
  rw [deleteAccepted]
  split <;> rfl

omit [Network W σ] in
theorem abort_nextPacket : (core.nextPacket w).core.abort = core.abort := by
  rw [nextPacket]
  split <;> rfl

end Core

namespace Scene

variable (scene : Scene W σ)

/-- Two scenes whose engines agree in the two references and the mode. -/
structure SameParts (scene scene' : Scene W σ) : Prop where
  abort : scene'.engine.lifecycle.abort? = scene.engine.lifecycle.abort?
  active : scene'.engine.activeAbort = scene.engine.activeAbort
  mode : scene'.engine.threadSafe = scene.engine.threadSafe

theorem SameState.sameParts {scene scene' : Scene W σ} (h : scene.SameState scene') :
    scene.SameParts scene' :=
  ⟨congrArg Lifecycle.abort? h.lifecycle, h.activeAbort, h.threadSafe⟩

theorem SameParts.partStep {scene scene' : Scene W σ} (h : scene.SameParts scene')
    {p : Performed σ} (hmode? : p.mode? = none) (habort? : p.abort? = none) :
    PartStep scene.engine p scene'.engine :=
  .kept hmode? habort? h.abort h.active h.mode

theorem sameParts_withCore (f : Core σ → W → CoreOutcome W σ α)
    (hf : ∀ core w, (f core w).core.abort = core.abort) :
    scene.SameParts (scene.withCore f).scene := by
  rcases scene.engine.lifecycle.created_or_idle with ⟨core, hcreated⟩ | hidle
  · rw [scene.withCore_of_created hcreated]
    refine ⟨?_, rfl, rfl⟩
    rw [hcreated]
    exact congrArg some (hf core scene.world)
  · obtain ⟨e, hrefused⟩ := scene.withCore_of_idle hidle f
    rw [hrefused]
    exact ⟨rfl, rfl, rfl⟩

theorem sameState_afterAnswer (core : Core σ) (answer : Readiness) (mishaps : Mishaps) :
    scene.SameState (scene.afterAnswer core answer mishaps) := by
  rw [afterAnswer]
  split
  · exact scene.sameState_setChannel _ _
  · exact ⟨rfl, rfl, rfl, rfl⟩

/-- A wait leaves the state of the engine alone, its mark included. -/
theorem sameState_wait [Network W σ] (timeout : Duration) (mishaps : Mishaps := []) :
    scene.SameState (scene.wait timeout mishaps).scene := by
  cases hmarked : scene.engine.waiting with
  | true =>
    rw [scene.wait_of_marked timeout mishaps hmarked]
    exact ⟨rfl, rfl, rfl, rfl⟩
  | false =>
    rcases scene.engine.lifecycle.created_or_error with ⟨core, hcreated⟩ | ⟨e, hcore⟩
    · have hends := scene.waitEnds_wait timeout mishaps hmarked hcreated
      generalize scene.wait timeout mishaps = out at hends
      cases hends with
      | queued | mute | failed => exact ⟨rfl, rfl, rfl, rfl⟩
      | stuck _ _ _ _ _ world =>
        obtain ⟨hlifecycle, hactive, hmode, hmark⟩ :=
          ({ scene with world } : Scene W σ).sameState_setChannel _ core.abort
        exact ⟨hlifecycle, hactive, hmode, hmark⟩
      | answered _ _ answer world =>
        obtain ⟨hlifecycle, hactive, hmode, hmark⟩ :=
          ({ scene with world } : Scene W σ).sameState_afterAnswer core answer mishaps
        exact ⟨hlifecycle, hactive, hmode, hmark⟩
    · rw [scene.wait_of_core_error timeout mishaps hmarked hcore]
      exact ⟨rfl, rfl, rfl, rfl⟩

theorem partStep_init [Network W σ] (threadSafe : Bool) (mishaps : Mishaps) :
    PartStep scene.engine (scene.performed (.init threadSafe) mishaps)
      (scene.perform (.init threadSafe) mishaps).scene.engine := by
  rw [performed, perform, Outcome.reply, Outcome.map, init]
  cases hstage : scene.engine.lifecycle with
  | uninitialized =>
    rcases scene.engine.ownAbort.init mishaps.first with ⟨⟨e⟩ | ⟨⟨⟩⟩, ownAbort, log⟩
    · exact .kept rfl rfl rfl rfl rfl
    · exact .initialised threadSafe rfl rfl (by rw [hstage]; rfl) rfl rfl rfl
  | initialized | created core => exact .kept rfl rfl rfl rfl rfl

theorem partStep_create [Network W σ] (size : Nat) (params : CreationParams) :
    PartStep scene.engine (scene.performed (.create size params))
      (scene.perform (.create size params)).scene.engine := by
  rw [performed, perform, Outcome.reply, Outcome.map, create]
  cases hstage : scene.engine.lifecycle with
  | uninitialized | created core => exact .kept rfl rfl rfl rfl rfl
  | initialized =>
    dsimp only
    split
    · exact .kept rfl rfl rfl rfl rfl
    · exact .created _ rfl rfl (by rw [hstage]; rfl) rfl rfl rfl

variable [Network W σ]

/-- What a call makes of the parts of an engine. -/
theorem perform_partStep (htidy : scene.engine.Tidy) (call : Call σ) (mishaps : Mishaps := []) :
    PartStep scene.engine (scene.performed call mishaps)
      (scene.perform call mishaps).scene.engine := by
  cases call with
  | init threadSafe => exact scene.partStep_init threadSafe mishaps
  | create size params => exact scene.partStep_create size params
  | destroy =>
    have hdestroy : (scene.perform .destroy mishaps).scene = _ := destroy_of_tidy htidy mishaps
    rw [hdestroy]
    exact .destroyed rfl rfl rfl rfl rfl rfl
  | wait timeout => exact (scene.sameState_wait timeout mishaps).sameParts.partStep rfl rfl
  | abortWait => exact (scene.sameState_abortWait mishaps).sameParts.partStep rfl rfl
  | addDestination stream =>
    have hsame := scene.sameParts_withCore _ fun core w ↦ core.abort_addDestination w stream
    exact hsame.partStep rfl rfl
  | deleteDestination id =>
    have hsame := scene.sameParts_withCore _ fun core w ↦ core.abort_deleteDestination w id
    exact hsame.partStep rfl rfl
  | poll => exact (scene.sameParts_withCore _ fun core w ↦ core.abort_poll w).partStep rfl rfl
  | sendRtp payload | sendRtcp payload =>
    exact (scene.sameParts_withCore _ fun core w ↦ core.abort_send w payload).partStep rfl rfl
  | nextPacket =>
    exact (scene.sameParts_withCore _ fun core w ↦ core.abort_nextPacket w).partStep rfl rfl
  | deleteIgnored id =>
    exact (scene.sameParts_withCore _ fun core w ↦ core.abort_deleteIgnored w id).partStep rfl rfl
  | deleteAccepted id =>
    exact (scene.sameParts_withCore _ fun core w ↦ core.abort_deleteAccepted w id).partStep rfl rfl
  | clearDestinations =>
    have hsame : scene.SameParts scene.clearDestinations.scene := by
      rw [clearDestinations]
      split
      · exact scene.sameParts_withCore _ fun core w ↦ rfl
      · exact ⟨rfl, rfl, rfl⟩
    exact hsame.partStep rfl rfl
  | isThreadSafe | newDataAvailable | supportsMulticasting | leaveAllGroups | headerOverhead =>
    exact .kept rfl rfl rfl rfl rfl
  | joinGroup address | leaveGroup address => exact .kept rfl rfl rfl rfl rfl
  | destinations | clearIgnored | clearAccepted | maxPacketSize | droppedPackets =>
    exact (scene.sameParts_withCore _ fun core w ↦ rfl).partStep rfl rfl
  | setReceiveMode mode =>
    exact (scene.sameParts_withCore _ fun core w ↦ rfl).partStep rfl rfl
  | addIgnored id | addAccepted id =>
    exact (scene.sameParts_withCore _ fun core w ↦ rfl).partStep rfl rfl
  | setMaxPacketSize size =>
    exact (scene.sameParts_withCore _ fun core w ↦ rfl).partStep rfl rfl

end Scene

/-! ## What holds between two calls -/

/-- The parts of an engine agree with each other and with its history. -/
structure Engine.InStep (engine : Engine σ) (history : List (Performed σ)) : Prop where
  tidy : engine.Tidy
  active : engine.activeAbort = engine.lifecycle.abort?
  chosen : ∀ abort, engine.lifecycle.abort? = some abort → lastAbort? history = some abort
  mode : engine.threadSafe = (lastMode? history).getD false

namespace Engine

variable {engine : Engine σ} {history : List (Performed σ)}

theorem inStep_new : (new : Engine σ).InStep [] where
  tidy := tidy_new
  active := rfl
  chosen abort h := by cases h
  mode := rfl

theorem InStep.step (h : engine.InStep history) {p : Performed σ} {after : Engine σ}
    (hstep : PartStep engine p after) (htidy : after.Tidy) : after.InStep (history ++ [p]) := by
  obtain ⟨-, hactive, hchosen, hmode⟩ := h
  cases hstep with
  | kept hmode? habort? habort hactive' hmode' =>
    refine ⟨htidy, ?_, fun abort hafter ↦ ?_, ?_⟩
    · rw [hactive', habort, hactive]
    · rw [lastAbort?_concat, habort?, Option.none_or]
      exact hchosen abort (habort ▸ hafter)
    · rw [lastMode?_concat, hmode?, Option.none_or, hmode', hmode]
  | initialised threadSafe hmode? habort? hbefore habort hactive' hmode' =>
    refine ⟨htidy, ?_, fun abort hafter ↦ ?_, ?_⟩
    · rw [hactive', habort, hactive, hbefore]
    · cases habort.symm.trans hafter
    · rw [lastMode?_concat, hmode?, Option.some_or, Option.getD_some, hmode']
  | created chosen hmode? habort? hbefore habort hactive' hmode' =>
    refine ⟨htidy, ?_, fun abort hafter ↦ ?_, ?_⟩
    · rw [hactive', habort]
    · rw [lastAbort?_concat, habort?, Option.some_or, ← habort, hafter]
    · rw [lastMode?_concat, hmode?, Option.none_or, hmode', hmode]
  | destroyed hcall hmode? habort? habort hactive' hmode' =>
    refine ⟨htidy, ?_, fun abort hafter ↦ ?_, ?_⟩
    · rw [hactive', habort]
    · cases habort.symm.trans hafter
    · rw [lastMode?_concat, hmode?, Option.none_or, hmode', hmode]

variable [Network W σ]

theorem InStep.meet (h : engine.InStep history) (o : Occasion W σ) :
    (engine.meet o).scene.engine.InStep
      (history ++ [⟨o.call, (engine.meet o).result, (engine.meet o).events⟩]) := by
  have htidy : (⟨engine, o.channels, o.world⟩ : Scene W σ).engine.Tidy := h.tidy
  exact h.step (Scene.perform_partStep _ htidy o.call o.mishaps)
    (Scene.tidy_perform htidy o.call o.mishaps)

theorem InStep.live (h : engine.InStep history) (occasions : List (Occasion W σ)) :
    (engine.live occasions).2.InStep (history ++ engine.history occasions) := by
  induction occasions generalizing engine history with
  | nil => rwa [Engine.history, List.append_nil]
  | cons o occasions ih =>
    rw [Engine.history, List.append_cons]
    exact ih (h.meet o)

/-- A created engine keeps its abort channel until it is destroyed. -/
theorem abort?_live (htidy : engine.Tidy) {abort : AbortRef}
    (habort : engine.lifecycle.abort? = some abort) {occasions : List (Occasion W σ)}
    (hcalls : ∀ o ∈ occasions, o.call ≠ .destroy) :
    (engine.live occasions).2.lifecycle.abort? = some abort := by
  induction occasions generalizing engine with
  | nil => exact habort
  | cons o occasions ih =>
    obtain ⟨hcall, hcalls⟩ := List.forall_mem_cons.1 hcalls
    have hscene : (⟨engine, o.channels, o.world⟩ : Scene W σ).engine.Tidy := htidy
    refine ih (Scene.tidy_perform hscene o.call o.mishaps) ?_ hcalls
    cases Scene.perform_partStep _ hscene o.call o.mishaps with
    | kept _ _ hkept => exact hkept.trans habort
    | initialised _ _ _ hbefore => cases habort.symm.trans hbefore
    | created _ _ _ hbefore => cases habort.symm.trans hbefore
    | destroyed hdestroy => exact absurd hdestroy hcall

end Engine

/-! ## Waking and waiting -/

theorem Lifecycle.abort?_eq_some {lifecycle : Lifecycle σ} {abort : AbortRef} :
    lifecycle.abort? = some abort ↔ ∃ core, lifecycle = .created core ∧ core.abort = abort := by
  cases lifecycle <;> simp [abort?]

theorem AbortChannel.signal_result (c : AbortChannel) :
    c.signal.1 = .ok () ↔ c.isInitialized = true := by
  have hends := c.signalEnds none
  generalize c.signal = out at hends
  cases hends with
  | mute hc => simp [hc]
  | coalesced hc => simp [hc]
  | rang d hd => simp [isInitialized, hd]
  | full e _ _ hmishap | failed e _ _ hmishap => cases hmishap

namespace Scene

variable {scene : Scene W σ} {core : Core σ}

theorem abortWait_of_active {abort : AbortRef} (hactive : scene.engine.activeAbort = some abort)
    (mishaps : Mishaps := []) :
    scene.abortWait mishaps = ⟨((scene.channel abort).signal mishaps.first).1,
      scene.setChannel ((scene.channel abort).signal mishaps.first).2.1 abort,
      logged ((scene.channel abort).signal mishaps.first).2.2⟩ := by
  rw [abortWait, hactive]

/-- Waking succeeds if there is a core and its abort channel has a doorbell. -/
theorem abortWait_result (hactive : scene.engine.activeAbort = scene.engine.lifecycle.abort?) :
    scene.abortWait.result = .ok () ↔ ∃ core, scene.engine.lifecycle = .created core ∧
      (scene.channel core.abort).isInitialized = true := by
  cases hstage : scene.engine.lifecycle with
  | created core =>
    rw [hstage] at hactive
    rw [abortWait_of_active hactive, Mishaps.first_nil, AbortChannel.signal_result]
    simp
  | uninitialized | initialized =>
    rw [hstage] at hactive
    rw [abortWait, hactive]
    simp [Lifecycle.abort?]

/-- A wait of a created engine puts the handle of the abort channel last, or does not get as far as
the poller. -/
theorem events_wait [Network W σ] (hunmarked : scene.engine.waiting = false)
    (hcreated : scene.engine.lifecycle = .created core) (timeout : Duration) (mishaps : Mishaps) :
    ((core.queue ≠ [] ∨ (scene.channel core.abort).isInitialized = false) ∧
        (scene.wait timeout mishaps).events = []) ∨
      ∃ answer log, (scene.wait timeout mishaps).events = .waitReady
        (core.streams.map .stream ++ [.abort (scene.channel core.abort).wakes]) timeout answer
          :: logged log := by
  have hends := scene.waitEnds_wait timeout mishaps hunmarked hcreated
  generalize scene.wait timeout mishaps = out at hends
  cases hends with
  | queued hqueue => exact .inl ⟨.inl hqueue, rfl⟩
  | mute hqueue habort => exact .inl ⟨.inr habort, rfl⟩
  | failed | stuck => exact .inr ⟨_, [], rfl⟩
  | answered _ _ _ _ _ _ log => exact .inr ⟨_, log, rfl⟩

end Scene

/-! ## The main result -/

namespace Engine

variable [Network W σ]

/-- **The parts stay in step.** Let a new engine answer any calls, whatever becomes of the shared
abort channels and the world in between and whatever the system fails to do for it.

Then it has an abort channel of its own if it is in any stage at all. The reference to a channel for
those who wake is there exactly if the engine is created; it is the one in the core, and that is the
one which the last creation has chosen. The mode is the one of the last initialisation, and no mark
is left.

So waking succeeds exactly if the engine is created and the channel has a doorbell, it signals just
that channel, and until the engine is destroyed every wait listens to that channel if it gets as far
as the poller. -/
theorem parts_in_step (occasions : List (Occasion W σ)) :
    let engine := ((new : Engine σ).live occasions).2
    let history := (new : Engine σ).history occasions
    (engine.ownAbort.isInitialized = true ↔ engine.lifecycle ≠ .uninitialized) ∧
      (∀ abort, engine.activeAbort = some abort ↔
        ∃ core, engine.lifecycle = .created core ∧ core.abort = abort) ∧
      (∀ core, engine.lifecycle = .created core → lastAbort? history = some core.abort) ∧
      engine.threadSafe = (lastMode? history).getD false ∧
      engine.waiting = false ∧
      ∀ (channels : List AbortChannel) (w : W),
        let scene : Scene W σ := ⟨engine, channels, w⟩
        (scene.abortWait.result = .ok () ↔ ∃ core, engine.lifecycle = .created core ∧
          (scene.channel core.abort).isInitialized = true) ∧
        ∀ core, engine.lifecycle = .created core →
          scene.abortWait.scene
            = scene.setChannel (scene.channel core.abort).signal.2.1 core.abort ∧
          ∀ (later : List (Occasion W σ)), (∀ o ∈ later, o.call ≠ .destroy) →
            ∀ (channels' : List AbortChannel) (w' : W) (timeout : Duration) (mishaps : Mishaps),
              let next : Scene W σ := ⟨(scene.abortWait.scene.engine.live later).2, channels', w'⟩
              ∃ core', next.engine.lifecycle = .created core' ∧ core'.abort = core.abort ∧
                (((core'.queue ≠ [] ∨ (next.channel core.abort).isInitialized = false) ∧
                    (next.wait timeout mishaps).events = []) ∨
                  ∃ answer log, (next.wait timeout mishaps).events = .waitReady
                    (core'.streams.map .stream ++ [.abort (next.channel core.abort).wakes]) timeout
                      answer :: logged log) := by
  intro engine history
  obtain ⟨htidy, hactive, hchosen, hmode⟩ : engine.InStep ([] ++ history) :=
    inStep_new.live occasions
  refine ⟨⟨fun harmed hstage ↦ ?_, htidy.armed⟩, fun abort ↦ ?_, fun core hcreated ↦ ?_, hmode,
    htidy.unmarked, fun channels w ↦ ?_⟩
  · rw [htidy.bare hstage] at harmed
    cases harmed
  · rw [hactive, Lifecycle.abort?_eq_some]
  · exact hchosen _ (Lifecycle.abort?_eq_some.2 ⟨core, hcreated, rfl⟩)
  intro scene
  have hscene : scene.engine.Tidy := htidy
  refine ⟨Scene.abortWait_result hactive, fun core hcreated ↦ ?_⟩
  have habort : engine.lifecycle.abort? = some core.abort :=
    Lifecycle.abort?_eq_some.2 ⟨core, hcreated, rfl⟩
  have hsame := scene.sameState_abortWait
  refine ⟨congrArg Outcome.scene (Scene.abortWait_of_active (hactive.trans habort)), ?_⟩
  intro later hcalls channels' w' timeout mishaps next
  have hwoken : scene.abortWait.scene.engine.Tidy := Scene.tidy_perform hscene .abortWait
  have hkept : next.engine.lifecycle.abort? = some core.abort :=
    abort?_live hwoken (hsame.sameParts.abort.trans habort) hcalls
  obtain ⟨core', hcreated', hsame'⟩ := Lifecycle.abort?_eq_some.1 hkept
  refine ⟨core', hcreated', hsame', ?_⟩
  rw [← hsame']
  exact Scene.events_wait (tidy_live hwoken later).unmarked hcreated' timeout mishaps

end Engine

end StreamRtp
