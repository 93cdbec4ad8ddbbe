import Mathlib.Logic.Function.Basic
import StreamRtp.Proofs.Episodes

/-!
# The outline of an engine

The outline of an engine is its stage, with the settings of a created engine, and which of the abort
channels around it have a doorbell. Calls change it in a way that depends on nothing else:
`perform_outline` says that the outline after a call is a function of the outline before it. Neither
the streams nor the poller nor what waits in the queue have a say in it.

Abort channels are part of the outline because they decide whether an engine can be initialised and
created. Whether a signal is pending does depend on the poller, and is left out.
-/

namespace StreamRtp

variable {W σ α : Type}

/-- The stages of an engine, with what calls have set. -/
inductive Stage where
  | uninitialized
  | initialized
  | created (settings : Settings)

/-- The stage of an engine. -/
def Lifecycle.stage : Lifecycle σ → Stage
  | uninitialized => .uninitialized
  | initialized => .initialized
  | created core => .created core.settings

theorem Lifecycle.created_or_idle (lifecycle : Lifecycle σ) :
    (∃ core, lifecycle = .created core) ∨ ∀ core, lifecycle ≠ .created core := by
  cases lifecycle with
  | created core => exact .inl ⟨core, rfl⟩
  | _ => exact .inr fun _ h ↦ by cases h

/-- The stage of an engine, and which abort channels have a doorbell. -/
structure Outline where
  stage : Stage
  armed : AbortRef → Bool

/-- Which abort channels have a doorbell. -/
def Scene.armed (scene : Scene W σ) (abort : AbortRef) : Bool :=
  (scene.channel abort).isInitialized

/-- The outline of an engine and its surroundings. -/
def Scene.outline (scene : Scene W σ) : Outline := ⟨scene.engine.lifecycle.stage, scene.armed⟩

/-- The settings of a new engine. -/
def Settings.initial (size : Nat) (params : CreationParams) : Settings :=
  ⟨.ofMode params.receiveMode, size, params.hasHook⟩

/-- The outline after a call. -/
def Outline.after (o : Outline) : Call σ → Outline
  | .init _ =>
    match o.stage with
    | .uninitialized =>
      if o.armed .own then o else ⟨.initialized, Function.update o.armed .own true⟩
    | _ => o
  | .create size params =>
    match o.stage with
    | .initialized =>
      if params.abortChannel.isSome && !o.armed (params.abortChannel.elim .own .shared) then o
      else { o with stage := .created (.initial size params) }
    | _ => o
  | .destroy =>
    match o.stage with
    | .uninitialized => o
    | _ => ⟨.uninitialized, Function.update o.armed .own false⟩
  | call =>
    match o.stage with
    | .created settings => { o with stage := .created (settings.after call) }
    | _ => o

/-! ## Abort channels -/

namespace AbortChannel

variable (c : AbortChannel)

theorem isInitialized_destroy : c.destroy.1.isInitialized = false := by
  rw [destroy]
  split
  · rfl
  · exact Bool.eq_false_iff.2 ‹_›

end AbortChannel

namespace Scene

variable (scene : Scene W σ)

theorem armed_setChannel {c : AbortChannel} {abort : AbortRef}
    (h : c.isInitialized = scene.armed abort) : (scene.setChannel c abort).armed = scene.armed := by
  funext other
  cases abort with
  | own =>
    cases other with
    | own => exact h
    | shared _ => rfl
  | shared index =>
    cases other with
    | own => rfl
    | shared other =>
      rw [armed, armed, setChannel, channel, channel, List.getD_eq_getElem?_getD,
        List.getD_eq_getElem?_getD, List.getElem?_set]
      split
      · rename_i hsame
        subst hsame
        rw [armed, channel, List.getD_eq_getElem?_getD] at h
        split
        · exact h
        · rename_i hout
          rw [List.getElem?_eq_none (Nat.le_of_not_lt hout)]
      · rfl

theorem armed_withCore (f : Core σ → W → CoreOutcome W σ α) :
    (scene.withCore f).scene.armed = scene.armed := by
  rw [withCore]
  split <;> rfl

theorem armed_abortWait (mishaps : Mishaps := []) :
    (scene.abortWait mishaps).scene.armed = scene.armed := by
  rw [abortWait]
  split
  · rfl
  · exact scene.armed_setChannel (AbortChannel.isInitialized_signal ..)

theorem armed_concludeWait (ticket : WaitTicket σ) (answer : Readiness) (mishaps : Mishaps) :
    (scene.concludeWait ticket answer mishaps).scene.armed = scene.armed := by
  have hclear := (scene.channel ticket.abort).isInitialized_clearPendingSignals mishaps
  rw [concludeWait]
  split
  · split
    · rename_i hcleared
      rw [hcleared] at hclear
      exact scene.armed_setChannel hclear
    · rename_i hcleared
      rw [hcleared] at hclear
      exact scene.armed_setChannel hclear
  · rfl

theorem armed_wait [Network W σ] (timeout : Duration) (mishaps : Mishaps := []) :
    (scene.wait timeout mishaps).scene.armed = scene.armed := by
  have hbegin : scene.beginWait.2.armed = scene.armed := by
    rw [beginWait, enterWait]
    cases scene.engine.waiting with
    | true => rfl
    | false =>
      dsimp only
      split <;> rfl
  rw [wait]
  generalize scene.beginWait = begun at hbegin
  obtain ⟨entry, begun⟩ := begun
  cases entry with
  | decided result => exact hbegin
  | asking ticket =>
    rw [← hbegin]
    dsimp only
    rw [finishWait, askPoller]
    dsimp only
    generalize Network.waitReady (begun.handlesOf ticket) timeout begun.world = out
    obtain ⟨answer, world⟩ := out
    cases answer with
    | error e => rfl
    | ok answer => exact ({ begun with world } : Scene W σ).armed_concludeWait ticket answer mishaps

/-! ## Before creation -/

section Idle

variable [Network W σ] (hidle : ∀ core, scene.engine.lifecycle ≠ .created core)

include hidle

omit [Network W σ] in
theorem withCore_of_idle (f : Core σ → W → CoreOutcome W σ α) : ∃ e,
    scene.withCore f = ⟨.error e, scene, []⟩ := by
  rw [withCore]
  cases hstage : scene.engine.lifecycle with
  | created core => exact absurd hstage (hidle core)
  | uninitialized => exact ⟨_, rfl⟩
  | initialized => exact ⟨_, rfl⟩

/-- Before creation a history is about no connection. -/
theorem perform_impersonal_of_idle (call : Call σ) (mishaps : Mishaps := []) :
    Impersonal W (scene.perform call mishaps).events := by
  have hnone : ∀ {α : Type} (f : Core σ → W → CoreOutcome W σ α),
      Impersonal W (scene.withCore f).events := by
    intro α f
    obtain ⟨e, hrefused⟩ := scene.withCore_of_idle hidle f
    rw [hrefused]
    exact List.forall_mem_nil _
  cases call with
  | init threadSafe =>
    have hown := scene.engine.ownAbort.init_log mishaps.first
    change Impersonal W (scene.init threadSafe mishaps).events
    rw [init]
    split
    · split
      · rename_i hinit
        rw [hinit] at hown
        exact impersonal_logged hown
      · rename_i hinit
        rw [hinit] at hown
        exact impersonal_logged (List.forall_mem_append.2 ⟨hown, List.forall_mem_singleton.2 id⟩)
    · exact List.forall_mem_nil _
  | create size params =>
    change Impersonal W (scene.create size params).events
    rw [create]
    split
    · exact List.forall_mem_nil _
    · exact List.forall_mem_nil _
    · dsimp only
      split
      · exact List.forall_mem_nil _
      · exact List.forall_mem_singleton.2 rfl
  | destroy => exact scene.destroy_impersonal mishaps
  | wait timeout => exact (scene.wait_quiet timeout mishaps).2
  | abortWait => exact (scene.abortWait_quiet mishaps).2
  | clearDestinations =>
    change Impersonal W scene.clearDestinations.events
    rw [clearDestinations]
    split
    · rename_i core hstage
      exact absurd hstage (hidle core)
    · exact List.forall_mem_nil _
  | isThreadSafe | newDataAvailable | supportsMulticasting | leaveAllGroups | headerOverhead =>
    exact List.forall_mem_nil _
  | joinGroup address | leaveGroup address => exact List.forall_mem_nil _
  | _ =>
    simp only [perform, Outcome.reply, Outcome.map]
    exact hnone _

/-- Before creation only three calls have to do with the stage. -/
theorem perform_lifecycle_of_idle (call : Call σ) (hinit : ∀ threadSafe, call ≠ .init threadSafe)
    (hcreate : ∀ size params, call ≠ .create size params) (hdestroy : call ≠ .destroy)
    (mishaps : Mishaps := []) :
    (scene.perform call mishaps).scene.engine.lifecycle = scene.engine.lifecycle := by
  have hsame : ∀ {α : Type} (f : Core σ → W → CoreOutcome W σ α),
      (scene.withCore f).scene.engine.lifecycle = scene.engine.lifecycle := by
    intro α f
    obtain ⟨e, hrefused⟩ := scene.withCore_of_idle hidle f
    rw [hrefused]
  cases call with
  | init threadSafe => exact absurd rfl (hinit threadSafe)
  | create size params => exact absurd rfl (hcreate size params)
  | destroy => exact absurd rfl hdestroy
  | wait timeout => exact (scene.wait_frame timeout mishaps).1
  | abortWait => exact (scene.abortWait_frame mishaps).1
  | clearDestinations =>
    change scene.clearDestinations.scene.engine.lifecycle = _
    rw [clearDestinations]
    split
    · rename_i core hstage
      exact absurd hstage (hidle core)
    · rfl
  | isThreadSafe | newDataAvailable | supportsMulticasting | leaveAllGroups | headerOverhead => rfl
  | joinGroup address | leaveGroup address => rfl
  | _ => exact hsame _

/-- Before creation there are no connections, and no call brings any. -/
theorem perform_entries_of_idle (call : Call σ) :
    (scene.perform call).scene.engine.lifecycle.entries = [] := by
  have hentries : scene.engine.lifecycle.entries = [] := by
    cases hstage : scene.engine.lifecycle with
    | created core => exact absurd hstage (hidle core)
    | _ => rfl
  have heffect := scene.perform_effect (hentries ▸ List.forall_mem_nil _) call
  cases heffect with
  | pass _ _ _ hpasses _ =>
    refine List.eq_nil_iff_forall_not_mem.2 fun e he ↦ ?_
    obtain ⟨e', he', -⟩ := hpasses.origin e he
    rw [hentries] at he'
    cases he'
  | create n _ _ _ _ _ hempty _ => exact hempty
  | limit n _ _ _ _ hlimited _ => rw [hlimited, hentries, relimit, List.map_nil]
  | register n stream _ _ _ _ _ _ hbefore _ =>
    cases hstage : scene.engine.lifecycle with
    | created core => exact absurd hstage (hidle core)
    | _ =>
      rw [hstage] at hbefore
      cases hbefore

end Idle

/-! ## Calls -/

section Calls

variable [Network W σ]

/-- Only two calls give an abort channel a doorbell or take it away. -/
theorem perform_armed (call : Call σ) (hinit : ∀ threadSafe, call ≠ .init threadSafe)
    (hdestroy : call ≠ .destroy) (mishaps : Mishaps := []) :
    (scene.perform call mishaps).scene.armed = scene.armed := by
  cases call with
  | init threadSafe => exact absurd rfl (hinit threadSafe)
  | destroy => exact absurd rfl hdestroy
  | create size params =>
    change (scene.create size params).scene.armed = _
    rw [create]
    split
    · rfl
    · rfl
    · dsimp only
      split <;> rfl
  | wait timeout => exact scene.armed_wait timeout mishaps
  | abortWait => exact scene.armed_abortWait mishaps
  | clearDestinations =>
    change scene.clearDestinations.scene.armed = _
    rw [clearDestinations]
    split
    · exact scene.armed_withCore _
    · rfl
  | isThreadSafe | newDataAvailable | supportsMulticasting | leaveAllGroups | headerOverhead => rfl
  | joinGroup address | leaveGroup address => rfl
  | _ => exact scene.armed_withCore _

omit [Network W σ] in
theorem outline_init (threadSafe : Bool) :
    (scene.init threadSafe).scene.outline = scene.outline.after (.init threadSafe : Call σ) := by
  obtain ⟨⟨lifecycle, ⟨doorbell, pending⟩, activeAbort, wasSafe, waiting⟩, channels, world⟩ := scene
  cases lifecycle with
  | uninitialized =>
    cases doorbell with
    | some d => rfl
    | none =>
      refine congrArg (Outline.mk Stage.initialized) (funext fun abort ↦ ?_)
      cases abort with
      | own => rfl
      | shared index => rfl
  | initialized => rfl
  | created core => rfl

omit [Network W σ] in
theorem outline_create (size : Nat) (params : CreationParams) :
    (scene.create size params).scene.outline
      = scene.outline.after (.create size params : Call σ) := by
  obtain ⟨⟨lifecycle, ownAbort, activeAbort, threadSafe, waiting⟩, channels, world⟩ := scene
  cases lifecycle with
  | uninitialized => rfl
  | created core => rfl
  | initialized =>
    rw [create]
    dsimp only
    split
    · rename_i hmissing
      exact (if_pos hmissing).symm
    · rename_i hready
      exact (if_neg hready).symm

omit [Network W σ] in
theorem withdraw_armed (mishaps : Mishaps) :
    (scene.withdraw mishaps).1 = scene.engine.lifecycle ∧
      (scene.withdraw mishaps).2.1.armed = scene.armed := by
  rw [withdraw]
  dsimp only
  split
  · exact ⟨rfl, scene.takeLifecycle.2.armed_abortWait mishaps⟩
  · exact ⟨rfl, rfl⟩

omit [Network W σ] in
/-- Only the engine's own abort channel is given up, and only if there is one. -/
theorem armed_release (former : Lifecycle σ) : (scene.release former).1.armed =
    match former with
    | .uninitialized => scene.armed
    | _ => Function.update scene.armed .own false := by
  have hown : ({ scene with
      engine := { scene.engine with ownAbort := scene.engine.ownAbort.destroy.1 } } :
        Scene W σ).armed = Function.update scene.armed .own false := by
    funext abort
    cases abort with
    | own => exact scene.engine.ownAbort.isInitialized_destroy
    | shared index => rfl
  cases former with
  | uninitialized => rfl
  | initialized => exact hown
  | created core => exact hown

theorem outline_destroy (mishaps : Mishaps := []) :
    (scene.destroy mishaps).scene.outline = scene.outline.after (.destroy : Call σ) := by
  obtain ⟨hformer, hwithdraw⟩ := scene.withdraw_armed mishaps
  have harmed : (scene.destroy mishaps).scene.armed = _ :=
    (scene.withdraw mishaps).2.1.armed_release (scene.withdraw mishaps).1
  rw [outline, scene.lifecycle_destroy mishaps, harmed, hwithdraw, hformer, Outline.after, outline]
  cases scene.engine.lifecycle <;> rfl

/-- The outline after a call is a function of the outline before it. -/
theorem perform_outline (call : Call σ) :
    (scene.perform call).scene.outline = scene.outline.after call := by
  by_cases hinit : ∃ threadSafe, call = .init threadSafe
  · obtain ⟨threadSafe, rfl⟩ := hinit
    exact scene.outline_init threadSafe
  by_cases hdestroy : call = .destroy
  · subst hdestroy
    exact scene.outline_destroy
  have harmed := scene.perform_armed call (fun threadSafe h ↦ hinit ⟨threadSafe, h⟩) hdestroy
  by_cases hcreate : ∃ size params, call = .create size params
  · obtain ⟨size, params, rfl⟩ := hcreate
    exact scene.outline_create size params
  cases hstage : scene.engine.lifecycle with
  | created core =>
    obtain ⟨after, hafter, hsettings⟩ := scene.perform_settings hstage hdestroy
    rw [outline, outline, hafter, hstage, harmed, Lifecycle.stage, hsettings]
    cases call with
    | destroy => exact absurd rfl hdestroy
    | _ => rfl
  | _ =>
    have hidle : ∀ core, scene.engine.lifecycle ≠ .created core := by
      intro core hcreated
      cases hstage.symm.trans hcreated
    rw [outline, scene.perform_lifecycle_of_idle hidle call
      (fun threadSafe h ↦ hinit ⟨threadSafe, h⟩) (fun size params h ↦ hcreate ⟨size, params, h⟩)
      hdestroy, harmed, outline, hstage]
    cases call with
    | init threadSafe => exact absurd ⟨threadSafe, rfl⟩ hinit
    | create size params => exact absurd ⟨size, params, rfl⟩ hcreate
    | destroy => exact absurd rfl hdestroy
    | _ => rfl

end Calls

end Scene

end StreamRtp
