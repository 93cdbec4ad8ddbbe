import Mathlib.Data.List.Forall2
import StreamRtp.Proofs.Lookalikes
import StreamRtp.Proofs.Outline
import StreamRtp.Proofs.ThreadMoves
import StreamRtp.Scripted.Stream

/-!
# A destroyed engine is a new one

Whatever calls an engine has answered, and whatever happened around it meanwhile: once it is
destroyed, nothing of it is left but its mode, and the mode is set anew by the next initialisation.
So from then on nobody can tell it from an engine that was never used.

What makes this work is that an engine between two calls is tidy. It is not marked; it has its own
abort channel exactly from its initialisation to its destruction; and before the one and after the
other it holds nothing at all.
-/

namespace StreamRtp

variable {W W' σ : Type}

/-! ## Calls in changing surroundings -/

/-- A call, what lies around the engine when it is made, and what the system answers if the call
turns to a doorbell. -/
structure Occasion (W σ : Type) where
  channels : List AbortChannel
  world : W
  call : Call σ
  mishaps : Mishaps

/-- The same call in surroundings that look alike. -/
structure Occasion.Alike (R : W → W' → Prop) (o : Occasion W σ) (o' : Occasion W' σ) : Prop where
  channels : o.channels = o'.channels
  world : R o.world o'.world
  call : o.call = o'.call
  mishaps : o.mishaps = o'.mishaps

namespace Engine

variable [Network W σ]

/-- Answer a call where it is made. -/
def meet (engine : Engine σ) (o : Occasion W σ) : Outcome W σ (Reply σ) :=
  (⟨engine, o.channels, o.world⟩ : Scene W σ).perform o.call o.mishaps

/-- Answer calls one after the other, whatever happens around the engine in between. -/
def live (engine : Engine σ) : List (Occasion W σ) → List (Outcome W σ (Reply σ)) × Engine σ
  | [] => ([], engine)
  | o :: occasions =>
    let out := engine.meet o
    let (later, engine) := out.scene.engine.live occasions
    (out :: later, engine)

end Engine

/-- Equal engines answer alike on occasions that look alike. -/
theorem Engine.live_alike [Network W σ] [Network W' σ] {R : W → W' → Prop} (hR : Lookalikes R)
    (engine : Engine σ) {occasions : List (Occasion W σ)} {occasions' : List (Occasion W' σ)}
    (h : List.Forall₂ (Occasion.Alike R) occasions occasions') :
    List.Forall₂ (Outcome.Alike R) (engine.live occasions).1 (engine.live occasions').1 := by
  induction h generalizing engine with
  | nil => exact .nil
  | @cons o o' occasions occasions' ho _ ih =>
    obtain ⟨channels, w, call, mishaps⟩ := o
    obtain ⟨channels', w', call', mishaps'⟩ := o'
    obtain ⟨hchannels, hw, hcall, hmishaps⟩ := ho
    cases hchannels
    cases hcall
    cases hmishaps
    have hscene : (⟨engine, channels, w⟩ : Scene W σ).Alike R ⟨engine, channels, w'⟩ :=
      ⟨rfl, rfl, hw⟩
    have hout := hscene.perform hR call mishaps
    refine .cons hout ?_
    change List.Forall₂ (Outcome.Alike R)
      (((⟨engine, channels, w⟩ : Scene W σ).perform call mishaps).scene.engine.live occasions).1 _
    rw [hout.scene.engine]
    exact ih _

/-- Whether a call has to do with abort channels. -/
def Call.UsesAbort : Call σ → Prop
  | .init _ | .destroy | .wait _ | .abortWait => True
  | _ => False

/-- What holds of an engine between two calls. -/
structure Engine.Tidy (engine : Engine σ) : Prop where
  unmarked : engine.waiting = false
  /-- Without a stage there is nothing but the mode. -/
  bare : engine.lifecycle = .uninitialized →
    engine = { Engine.new with threadSafe := engine.threadSafe }
  /-- In any other stage the engine has its own channel. -/
  armed : engine.lifecycle ≠ .uninitialized → engine.ownAbort.isInitialized = true

theorem Engine.tidy_new : (Engine.new : Engine σ).Tidy where
  unmarked := rfl
  bare _ := rfl
  armed h := absurd rfl h

namespace Scene

variable [Network W σ] {scene : Scene W σ}

/-- Without a stage only an initialisation changes anything. -/
theorem perform_of_bare
    (h : scene.engine = { Engine.new with threadSafe := scene.engine.threadSafe })
    (call : Call σ) (hinit : ∀ threadSafe, call ≠ .init threadSafe) (mishaps : Mishaps) :
    (scene.perform call mishaps).scene = scene := by
  obtain ⟨engine, channels, w⟩ := scene
  generalize engine.threadSafe = threadSafe at h
  cases h
  cases call with
  | init threadSafe => exact absurd rfl (hinit threadSafe)
  | _ => rfl

omit [Network W σ] in
/-- An initialisation of an engine that holds nothing succeeds, unless there is no doorbell to be
had. -/
theorem engine_init_of_bare
    (h : scene.engine = { Engine.new with threadSafe := scene.engine.threadSafe })
    (threadSafe : Bool) (mishaps : Mishaps) : (scene.init threadSafe mishaps).scene.engine =
      if mishaps.first.isSome then scene.engine
      else ⟨.initialized, ⟨some .fresh, false⟩, none, threadSafe, false⟩ := by
  obtain ⟨engine, channels, w⟩ := scene
  generalize engine.threadSafe = wasSafe at h
  cases h
  rw [init]
  cases mishaps.first <;> rfl

/-- Where there is a stage already, an initialisation is refused. -/
theorem perform_init_of_ne (h : scene.engine.lifecycle ≠ .uninitialized) (threadSafe : Bool)
    (mishaps : Mishaps) : (scene.perform (.init threadSafe) mishaps).scene = scene := by
  change (scene.init threadSafe mishaps).scene = scene
  rw [init]
  split
  · exact absurd ‹_› h
  · rfl

/-- A wait takes its mark away. -/
theorem waiting_wait (hunmarked : scene.engine.waiting = false) (timeout : Duration)
    (mishaps : Mishaps) : (scene.wait timeout mishaps).scene.engine.waiting = false := by
  have hfinish : ∀ (begun : Scene W σ) ticket,
      (begun.finishWait ticket timeout mishaps).scene.engine.waiting = false := by
    intro begun ticket
    rw [finishWait]
    split <;> rfl
  rw [wait, beginWait, enterWait, hunmarked]
  dsimp only
  split
  · rename_i hentered
    split at hentered
    · cases hentered
      rfl
    · cases hentered
  · exact hfinish _ _

omit [Network W σ] in
/-- A destruction leaves nothing but the mode, and does not touch the shared channels. -/
theorem destroy_of_tidy (h : scene.engine.Tidy) (mishaps : Mishaps := []) :
    (scene.destroy mishaps).scene =
      { scene with engine := { Engine.new with threadSafe := scene.engine.threadSafe } } := by
  have hbare := h.bare
  have harmed := h.armed
  have hunmarked := h.unmarked
  obtain ⟨⟨lifecycle, ownAbort, activeAbort, threadSafe, waiting⟩, channels, w⟩ := scene
  cases hunmarked
  have hgone : lifecycle ≠ .uninitialized → ownAbort.destroy.1 = .fresh := by
    intro hstage
    rw [AbortChannel.destroy, if_pos (harmed hstage)]
  cases lifecycle with
  | uninitialized =>
    cases hbare rfl
    rfl
  | initialized | created core =>
    have hgone := hgone (fun h ↦ by cases h)
    rw [destroy, withdraw, takeLifecycle]
    dsimp only
    rw [if_neg Bool.false_ne_true]
    dsimp only [detachAbort, release]
    rw [hgone]
    rfl

/-- A destruction takes no shared channel its doorbell, whoever waits meanwhile. -/
theorem armed_shared_destroy (scene : Scene W σ) (mishaps : Mishaps) (index : Nat) :
    (scene.destroy mishaps).scene.armed (.shared index) = scene.armed (.shared index) := by
  have harmed : (scene.destroy mishaps).scene.armed
      = (scene.outline.after (.destroy : Call σ)).armed :=
    congrArg Outline.armed (scene.outline_destroy mishaps)
  rw [harmed, Outline.after]
  cases scene.outline.stage <;> rfl

/-- Only a destruction takes the stage away. -/
theorem lifecycle_perform_ne (h : scene.engine.lifecycle ≠ .uninitialized) {call : Call σ}
    (hdestroy : call ≠ .destroy) (mishaps : Mishaps) :
    (scene.perform call mishaps).scene.engine.lifecycle ≠ .uninitialized := by
  obtain ⟨core, hcreated⟩ | hidle := scene.engine.lifecycle.created_or_idle
  · by_cases hquiet : call.IsQuiet
    · obtain ⟨⟨after, hafter, -⟩, -⟩ := scene.perform_quiet hcreated hquiet mishaps
      rw [hafter]
      rintro ⟨⟩
    · rw [scene.perform_eq_respond hcreated hquiet hdestroy mishaps]
      rintro ⟨⟩
  by_cases hcreate : ∃ size params, call = .create size params
  · obtain ⟨size, params, rfl⟩ := hcreate
    change (scene.create size params).scene.engine.lifecycle ≠ .uninitialized
    rw [create]
    split
    · exact h
    · exact h
    · dsimp only
      split
      · exact h
      · rintro ⟨⟩
  by_cases hinit : ∃ threadSafe, call = .init threadSafe
  · obtain ⟨threadSafe, rfl⟩ := hinit
    rw [perform_init_of_ne h]
    exact h
  rw [scene.perform_lifecycle_of_idle hidle call (fun threadSafe hcall ↦ hinit ⟨threadSafe, hcall⟩)
    (fun size params hcall ↦ hcreate ⟨size, params, hcall⟩) hdestroy mishaps]
  exact h

/-- No call leaves a mark behind. -/
theorem waiting_perform (hunmarked : scene.engine.waiting = false) (call : Call σ)
    (hdestroy : call ≠ .destroy) (mishaps : Mishaps) :
    (scene.perform call mishaps).scene.engine.waiting = false := by
  have hcore : ∀ {α : Type} (f : Core σ → W → CoreOutcome W σ α),
      (scene.withCore f).scene.engine.waiting = false := by
    intro α f
    rw [withCore]
    split <;> exact hunmarked
  cases call with
  | destroy => exact absurd rfl hdestroy
  | init threadSafe =>
    change (scene.init threadSafe mishaps).scene.engine.waiting = false
    rw [init]
    split
    · split <;> exact hunmarked
    · exact hunmarked
  | create size params =>
    change (scene.create size params).scene.engine.waiting = false
    rw [create]
    split
    · exact hunmarked
    · exact hunmarked
    · dsimp only
      split <;> exact hunmarked
  | wait timeout => exact waiting_wait hunmarked timeout mishaps
  | abortWait => exact (scene.sameState_abortWait mishaps).waiting.trans hunmarked
  | clearDestinations =>
    change scene.clearDestinations.scene.engine.waiting = false
    rw [clearDestinations]
    split
    · exact hcore _
    · exact hunmarked
  | isThreadSafe | newDataAvailable | supportsMulticasting | leaveAllGroups | headerOverhead =>
    exact hunmarked
  | joinGroup address | leaveGroup address => exact hunmarked
  | _ => exact hcore _

/-- A call leaves a tidy engine tidy. -/
theorem tidy_perform (h : scene.engine.Tidy) (call : Call σ) (mishaps : Mishaps := []) :
    (scene.perform call mishaps).scene.engine.Tidy := by
  by_cases hdestroy : call = .destroy
  · subst hdestroy
    change (scene.destroy mishaps).scene.engine.Tidy
    rw [destroy_of_tidy h mishaps]
    exact ⟨rfl, fun _ ↦ rfl, fun hstage ↦ absurd rfl hstage⟩
  by_cases hbare : scene.engine.lifecycle = .uninitialized
  · have hbare := h.bare hbare
    by_cases hinit : ∃ threadSafe, call = .init threadSafe
    · obtain ⟨threadSafe, rfl⟩ := hinit
      change (scene.init threadSafe mishaps).scene.engine.Tidy
      rw [engine_init_of_bare hbare]
      split
      · exact h
      · exact ⟨rfl, fun hstage ↦ (by cases hstage), fun _ ↦ rfl⟩
    · rwa [perform_of_bare hbare call fun threadSafe hcall ↦ hinit ⟨threadSafe, hcall⟩]
  · refine ⟨waiting_perform h.unmarked call hdestroy mishaps,
      fun hgone ↦ absurd hgone (lifecycle_perform_ne hbare hdestroy mishaps), fun _ ↦ ?_⟩
    by_cases hinit : ∃ threadSafe, call = .init threadSafe
    · obtain ⟨threadSafe, rfl⟩ := hinit
      rw [perform_init_of_ne hbare]
      exact h.armed hbare
    · have harmed := scene.perform_armed call (fun threadSafe hcall ↦ hinit ⟨threadSafe, hcall⟩)
        hdestroy mishaps
      exact (congrFun harmed .own).trans (h.armed hbare)

end Scene

namespace Engine

variable [Network W σ]

/-- Whatever calls an engine has answered, it is tidy. -/
theorem tidy_live {engine : Engine σ} (h : engine.Tidy) (occasions : List (Occasion W σ)) :
    (engine.live occasions).2.Tidy := by
  induction occasions generalizing engine with
  | nil => exact h
  | cons o occasions ih =>
    have hscene : (⟨engine, o.channels, o.world⟩ : Scene W σ).engine.Tidy := h
    exact ih (Scene.tidy_perform hscene o.call o.mishaps)

/-! ## The main result -/

/-- An initialisation sets the mode, so it does not matter which one was left. -/
theorem live_bare (threadSafe wasSafe : Bool) (channels : List AbortChannel) (w : W)
    (later : List (Occasion W σ)) :
    ({ new with threadSafe := wasSafe } : Engine σ).live
        (⟨channels, w, .init threadSafe, []⟩ :: later)
      = (new : Engine σ).live (⟨channels, w, .init threadSafe, []⟩ :: later) := rfl

/-- **A destroyed engine is a new one.** Let an engine answer any calls, whatever happens around it
in between and whatever the system fails to do for it, and destroy it. Then nothing is left of it
but its mode, and what lies around it is as it was. Destroying it once more changes nothing. No
shared abort channel ever loses its doorbell to a destruction, not even if somebody waits meanwhile.
From the next initialisation on the engine answers every list of calls as a new engine does that is
asked the same in surroundings that look alike: with the same results and the same history, call by
call, and leaving the surroundings alike. -/
theorem live_after_destroy {W W' σ : Type} [Network W σ] [Network W' σ] {R : W → W' → Prop}
    (hR : Lookalikes R) (history : List (Occasion W σ)) (channels : List AbortChannel) (w : W)
    (mishaps : Mishaps) :
    let used := ((new : Engine σ).live history).2
    let gone := used.meet ⟨channels, w, .destroy, mishaps⟩
    gone.scene = ⟨{ new with threadSafe := used.threadSafe }, channels, w⟩ ∧
      (∀ (channels' : List AbortChannel) (v : W) (mishaps' : Mishaps),
        gone.scene.engine.meet ⟨channels', v, .destroy, mishaps'⟩
          = ⟨.ok .done, ⟨gone.scene.engine, channels', v⟩, []⟩) ∧
      (∀ (scene : Scene W σ) (mishaps' : Mishaps) (index : Nat),
        (scene.destroy mishaps').scene.armed (.shared index) = scene.armed (.shared index)) ∧
      ∀ (threadSafe : Bool) (channels' : List AbortChannel) (v : W) (v' : W')
        (later : List (Occasion W σ)) (later' : List (Occasion W' σ)), R v v' →
          List.Forall₂ (Occasion.Alike R) later later' →
          List.Forall₂ (Outcome.Alike R)
            (gone.scene.engine.live (⟨channels', v, .init threadSafe, []⟩ :: later)).1
            ((new : Engine σ).live (⟨channels', v', .init threadSafe, []⟩ :: later')).1 := by
  intro used gone
  have hgone : gone.scene = ⟨{ new with threadSafe := used.threadSafe }, channels, w⟩ :=
    Scene.destroy_of_tidy (tidy_live tidy_new history) mishaps
  refine ⟨hgone, fun channels' v mishaps' ↦ ?_,
    fun scene mishaps' index ↦ scene.armed_shared_destroy mishaps' index,
    fun threadSafe channels' v v' later later' hv hlater ↦ ?_⟩
  · rw [hgone]
    rfl
  · rw [hgone, live_bare]
    exact live_alike hR new (.cons ⟨rfl, hv, rfl, rfl⟩ hlater)

/-- A stream that has brought half a frame. -/
def halfFrameWorld : Scripted.World := ⟨[("peer", ⟨[.data [0, 2, 5] none], false, [], none⟩)], []⟩

/-- The calls of an engine that ends up with a destination, half a frame and a signal. -/
def usedCalls : List (Call Scripted.Stream) :=
  [.init false, .create 4 ⟨none, true, .acceptListedOnly⟩, .addDestination ⟨"peer", ⟨7⟩⟩, .poll,
    .setMaxPacketSize 2, .abortWait]

/-- The calls of an engine that is set up. -/
def setUpCalls : List (Call Scripted.Stream) :=
  [.create 1400 .default, .destinations, .addDestination ⟨"peer", ⟨7⟩⟩, .poll, .wait .zero]

/-- A used engine becomes a new one, although a signal was pending and a frame was unfinished. -/
theorem live_after_destroy_used :
    let used := ((new : Engine Scripted.Stream).live
      (usedCalls.map fun call ↦ ⟨[], halfFrameWorld, call, []⟩)).2
    let gone := used.meet ⟨[], halfFrameWorld, .destroy, []⟩
    let later : List (Occasion Scripted.World Scripted.Stream) :=
      setUpCalls.map fun call ↦ ⟨[], halfFrameWorld, call, []⟩
    used.ownAbort.pending = true ∧ used.lifecycle.entries.map (·.1) = [⟨7⟩] ∧
      List.Forall₂ (Outcome.Alike Eq)
        (gone.scene.engine.live (⟨[], halfFrameWorld, .init true, []⟩ :: later)).1
        ((new : Engine Scripted.Stream).live
          (⟨[], halfFrameWorld, .init true, []⟩ :: later)).1 := by
  intro used gone later
  obtain ⟨-, -, -, hlive⟩ := live_after_destroy lookalikes_eq
    (usedCalls.map fun call ↦ ⟨[], halfFrameWorld, call, []⟩) [] halfFrameWorld []
  refine ⟨by decide +kernel, by decide +kernel,
    hlive true [] halfFrameWorld halfFrameWorld later later rfl ?_⟩
  exact List.forall₂_same.2 fun o _ ↦ ⟨rfl, rfl, rfl, rfl⟩

end Engine

end StreamRtp
