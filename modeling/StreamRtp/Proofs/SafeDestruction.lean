import StreamRtp.Engine.Call
import StreamRtp.Proofs.ExclusiveWait

/-!
# No abort channel is given up under a waiter

A thread-safe engine with its own abort channel is destroyed while other threads wait on it, are
about to wait, or queue up for it. The destruction takes the core away under the guard, and only
then looks at the mark. What it sees there decides everything:

* The mark is down. Then no wait relies on its handles, and none will, since a wait that marks the
  engine later finds no core.
* The mark is up. Then the destruction rings and waits for the turn, which the wait that it saw has
  until it returns. Whoever gets the turn next finds no core.

Either way nobody relies on handles any more when the channel is given up: `Secure.clear`. A wait
that took its mark away in time may still be on its way out, with the turn in its hands: the
destruction has not seen its mark, so it does not wait for the turn. By then the wait has its answer
and is done with the channel, see `channel_gone_before_return`.

## Signals and drains

Threads are inside the channel while they signal and drain it, step by step, and any of these steps
may fail. The channel is not given up before they are out of it: `Secure.manned`.

## Nobody is stuck

A destruction waits for the turn, so it must not have the guard, which the wait needs for its look
at the state. Then whoever waits for a lock waits for somebody who can go on. That is all that can
be said: whether a wait inside the poller is woken by the destruction depends on the flag of the
channel, which a drain may have left up over an empty doorbell.
-/

namespace StreamRtp

variable {W σ : Type}

namespace EngineStage

/-- Whether a wait relies on the handles it has taken. It does until it takes its mark away; by then
it has its answer and has drained what it had to drain. -/
def relies : EngineStage σ → Bool
  | polling _ | concluding .. | looking .. | answering .. => true
  | leaving handles _ => handles
  | _ => false

/-- The channel whose handle a wait has put before the poller. -/
def abort? : EngineStage σ → Option AbortRef
  | polling ticket | concluding ticket _ => some ticket.abort
  | _ => none

/-- Whether a destruction has taken the core away. -/
def hasTaken : EngineStage σ → Bool
  | checking _ | signalling _ | rousing .. | detaching .. | unguarding .. | awaiting _
  | releasing _ => true
  | _ => false

/-- Whether a destruction knows that no wait relies on its handles. -/
def isClear : EngineStage σ → Bool
  | detaching _ waiter | unguarding _ waiter => !waiter
  | releasing _ => true
  | _ => false

/-- Whether a thread asks for the turn. -/
def asksTurn : EngineStage σ → Bool
  | queueing | awaiting _ => true
  | _ => false

/-- Whether a thread asks for the guard. -/
def asksGuard : EngineStage σ → Bool
  | surveying | arriving => true
  | _ => false

/-- Whether a thread asks for the own channel to give its doorbell up. -/
def asksChannel : EngineStage σ → Bool
  | releasing former => match former with
    | .uninitialized => false
    | _ => true
  | _ => false

theorem isInside_of_relies {stage : EngineStage σ} (h : stage.relies = true) :
    stage.isInside = true := by
  cases stage <;> first | rfl | cases h

theorem hasTaken_of_isClear {stage : EngineStage σ} (h : stage.isClear = true) :
    stage.hasTaken = true := by
  cases stage <;> first | rfl | cases h

/-- Whoever has the guard is in a call and asks for no lock. -/
theorem asks_of_isGuarding {stage : EngineStage σ} (h : stage.isGuarding = true) :
    stage.isResting = false ∧ stage.asksTurn = false ∧ stage.asksGuard = false ∧
      stage.asksChannel = false := by
  cases stage <;> first | exact ⟨rfl, rfl, rfl, rfl⟩ | cases h

/-- Whoever was admitted is in a call and asks for no lock but the guard. -/
theorem asks_of_isAdmitted {stage : EngineStage σ} (h : stage.isAdmitted = true) :
    stage.isResting = false ∧ stage.asksTurn = false ∧ stage.asksChannel = false := by
  cases stage <;> first | exact ⟨rfl, rfl, rfl⟩ | cases h

/-- Whoever is in the midst of a signal or a drain is in a call and asks for no lock. -/
theorem asks_of_isReading {stage : EngineStage σ} (h : stage.isReading = true) :
    stage.isResting = false ∧ stage.asksTurn = false ∧ stage.asksGuard = false ∧
      stage.asksChannel = false := by
  cases stage <;> first | exact ⟨rfl, rfl, rfl, rfl⟩ | cases h

end EngineStage

namespace Scene

theorem isInitialized_setChannel (scene : Scene W σ) {c : AbortChannel} {abort : AbortRef}
    (hc : c.isInitialized = (scene.channel abort).isInitialized) :
    (scene.setChannel c abort).engine.ownAbort.isInitialized
      = scene.engine.ownAbort.isInitialized := by
  cases abort with
  | own => exact hc
  | shared index => rfl

end Scene

namespace EngineThreads

/-! ## What moves do to the state and to the own channel -/

namespace Move

variable {s s' : EngineThreads W σ} {t : Nat}

/-- Only a destruction changes the stage of the engine. -/
theorem lifecycle (h : Move s t s') :
    (s'.scene.engine.lifecycle = s.scene.engine.lifecycle ∧
        ((s.stage t).hasTaken = false → (s'.stage t).hasTaken = false)) ∨
      s'.scene.engine.lifecycle = .uninitialized := by
  cases h with
  | queue hstage | approach hstage | wakeNobody hstage | wake hstage | arrive hstage =>
    refine .inl ⟨rfl, fun _ ↦ ?_⟩
    rw [stage_move_self]
    rfl
  | take => exact .inr rfl
  | lower | raise =>
    exact .inl ⟨(s.sameState_hold ..).lifecycle, by simp [EngineStage.hasTaken]⟩
  | alert former hstage =>
    exact .inl ⟨(s.sameState_hold ..).lifecycle, by simp [EngineStage.hasTaken, hstage]⟩
  | choke | ring =>
    exact .inl ⟨(s.sameState_letGo ..).lifecycle, by simp [EngineStage.hasTaken]⟩
  | rouse former abort hstage =>
    exact .inl ⟨(s.sameState_letGo ..).lifecycle, by simp [EngineStage.hasTaken, hstage]⟩
  | read =>
    exact .inl ⟨(s.scene.sameState_setChannel ..).lifecycle, by simp [EngineStage.hasTaken]⟩
  | release former =>
    refine .inl ⟨(s.scene.sameState_release former).lifecycle, fun _ ↦ ?_⟩
    rw [stage_moveWith_self]
    rfl
  | _ => exact .inl ⟨rfl, by simp [EngineStage.hasTaken, *]⟩

/-- The own channel keeps its doorbell until a destruction releases it, and then nobody is in the
midst of a signal or a drain. -/
theorem isInitialized (h : Move s t s') :
    s'.scene.engine.ownAbort.isInitialized = s.scene.engine.ownAbort.isInitialized ∨
      (∃ former, s.stage t = .releasing former) ∧ s.readers = [] ∧
        ∀ u, (s'.stage u).isReading = true → (s.stage u).isReading = true := by
  cases h with
  | lower ticket =>
    refine .inl ?_
    rw [move, scene_hold]
    exact s.scene.isInitialized_setChannel rfl
  | raise abort | alert _ _ abort =>
    refine .inl ?_
    rw [move, scene_hold]
    exact s.scene.isInitialized_setChannel rfl
  | read | choke =>
    exact .inl (s.scene.isInitialized_setChannel (AbortChannel.isInitialized_answerDoorbell ..))
  | ring _ _ c hc | rouse _ _ _ c hc =>
    exact .inl (s.scene.isInitialized_setChannel hc.isInitialized)
  | release former hstage hreaders =>
    refine .inr ⟨⟨former, hstage⟩, hreaders, fun u hu ↦ ?_⟩
    by_cases hut : u = t
    · rw [hut, stage_moveWith_self] at hu
      cases hu
    · rwa [moveWith, stage_move, if_neg hut] at hu
  | _ => exact .inl rfl

/-- Whoever begins a signal or a drain of the own channel finds its doorbell. -/
theorem isReading (h : Move s t s') (hreading : (s'.stage t).isReading = true) :
    (s.stage t).isReading = true ∨ s.scene.engine.ownAbort.isInitialized = true := by
  cases h with
  | lower ticket answer hstage hinit =>
    obtain ⟨streams, abort⟩ := ticket
    cases abort with
    | own => exact .inr hinit
    | shared index =>
      rw [stage_move_self] at hreading
      cases hreading
  | raise abort hstage hinit | alert former hstage abort hinit =>
    cases abort with
    | own => exact .inr hinit
    | shared index =>
      rw [stage_move_self] at hreading
      cases hreading
  | see ticket available hstage | read ticket available hstage =>
    rw [stage_move_self] at hreading
    rw [hstage]
    exact .inl hreading
  | _ => simp [EngineStage.isReading] at hreading

theorem ne_true_of_stage {p : EngineStage σ → Bool} {stage : EngineStage σ}
    (h : s'.stage t = stage) (hstage : p stage = false) : p (s'.stage t) ≠ true := by
  rw [h, hstage]
  exact Bool.false_ne_true

/-- A wait relies on its handles from its look at a created engine on. -/
theorem relies (h : Move s t s') (hrelies : (s'.stage t).relies = true) :
    ((s.stage t).relies = true ∧ ∀ ticket, s'.stage t ≠ .polling ticket) ∨
      (s'.scene = s.scene ∧ ∃ ticket, s'.stage t = .polling ticket ∧
        s.scene.Surveys (.asking ticket)) := by
  cases h with
  | ask hstage _ ticket hsurvey =>
    exact .inr ⟨rfl, ticket, stage_move_self .., hsurvey ▸ s.scene.surveys_survey⟩
  | fail ticket hstage | hear ticket hstage | conclude ticket answer hstage
  | miss ticket answer hstage | lower ticket answer hstage | see ticket available hstage
  | stop ticket available hstage | read ticket available hstage | choke ticket available hstage =>
    refine .inl ⟨by rw [hstage]; rfl, fun ticket hpolling ↦ ?_⟩
    rw [stage_move_self] at hpolling
    cases hpolling
  | _ => exact absurd hrelies (ne_true_of_stage (if_pos rfl) rfl)

theorem abort? (h : Move s t s') {abort : AbortRef} (habort : (s'.stage t).abort? = some abort) :
    (s.stage t).abort? = some abort ∨
      ∃ ticket, ticket.abort = abort ∧ s.scene.Surveys (.asking ticket) := by
  have hnone : ∀ {stage : EngineStage σ}, s'.stage t = stage → stage.abort? = none →
      (s'.stage t).abort? ≠ some abort := by
    rintro stage rfl hstage
    rw [hstage]
    exact (Option.some_ne_none abort).symm
  cases h with
  | ask hstage _ ticket hsurvey =>
    rw [stage_move_self] at habort
    exact .inr ⟨ticket, Option.some.inj habort, hsurvey ▸ s.scene.surveys_survey⟩
  | hear ticket hstage =>
    rw [stage_move_self] at habort
    rw [hstage]
    exact .inl habort
  | _ => exact absurd habort (hnone (if_pos rfl) rfl)

/-- A destruction that is clear has seen no mark or nobody with the turn. -/
theorem isClear (h : Move s t s') (hclear : (s'.stage t).isClear = true) :
    (s.stage t).isClear = true ∨ s.scene.engine.waiting = false ∨ s.turn = none ∨
      s.scene.engine.threadSafe = false := by
  cases h with
  | seeNobody former hstage hmarked => exact .inr (.inl hmarked)
  | detach former waiter hstage =>
    rw [stage_moveWith_self] at hclear
    rw [hstage]
    exact .inl hclear
  | proceed former waiter hstage hnobody =>
    rcases hnobody with rfl | hrefuses
    · rw [hstage]
      exact .inl rfl
    · exact .inr (.inr (.inr hrefuses))
  | outwait former hstage hturn => exact .inr (.inr (.inl hturn))
  | _ => exact absurd hclear (ne_true_of_stage (if_pos rfl) rfl)

end Move

variable {s s' : EngineThreads W σ} {t u : Nat}

/-! ## The locks -/

/-- Who has which lock in a thread-safe engine. -/
structure Locked (s : EngineThreads W σ) : Prop where
  orderly : s.Orderly
  safe : s.scene.engine.threadSafe = true
  turn : ∀ t, s.turn = some t → (s.stage t).isAdmitted = true
  guard : ∀ t, (s.stage t).isGuarding = true ↔ s.guard = some t
  readers : ∀ t, (s.stage t).isReading = true ↔ t ∈ s.readers

/-- No wait relies on its handles. -/
def Unrelied (s : EngineThreads W σ) : Prop := ∀ t, (s.stage t).relies = false

namespace Locked

theorem move (h : s.Locked) (hmove : Move s t s') : s'.Locked where
  orderly := h.orderly.move hmove
  safe := hmove.threadSafe_eq.trans h.safe
  turn u hu := by
    rcases hmove.turn with ⟨hsame, hturn⟩ | ⟨-, hin, ⟨-, hturn⟩ | ⟨hrefuses, -⟩⟩ | ⟨-, -, hturn⟩
    · have hadmitted := h.turn u (hturn ▸ hu)
      by_cases hut : u = t
      · rw [hut] at hadmitted ⊢
        rwa [hsame]
      · rwa [hmove.stage_of_ne hut]
    · rw [hturn] at hu
      cases hu
      exact hin
    · rw [h.safe] at hrefuses
      cases hrefuses
    · -- The turn was given back, or it belongs to somebody else.
      rw [hturn] at hu
      split at hu
      · cases hu
      · rename_i hother
        have hut : u ≠ t := fun hut ↦ hother (hut ▸ hu)
        rw [hmove.stage_of_ne hut]
        exact h.turn u hu
  guard u := by
    have hbefore := h.guard u
    by_cases hut : u = t
    · rw [hut] at hbefore ⊢
      rcases hmove.guard with ⟨hsame, hguard⟩ | ⟨-, hin, -, hguard⟩ | ⟨-, hout, hguard⟩
      · rw [hsame, hguard, hbefore]
      · exact iff_of_true hin hguard
      · rw [hout, hguard]
        exact iff_of_false Bool.false_ne_true (Option.some_ne_none t).symm
    · rw [hmove.stage_of_ne hut]
      rcases hmove.guard with ⟨-, hguard⟩ | ⟨-, -, hnone, hguard⟩ | ⟨hin, -, hguard⟩
      · rw [hguard, hbefore]
      · rw [hbefore, hnone, hguard]
        exact iff_of_false (Option.some_ne_none u).symm fun h ↦ hut (Option.some.inj h).symm
      · rw [hbefore, (h.guard t).1 hin, hguard]
        exact iff_of_false (fun h ↦ hut (Option.some.inj h).symm) (Option.some_ne_none u).symm
  readers u := by
    have hbefore := h.readers u
    by_cases hut : u = t
    · rw [hut] at hbefore ⊢
      rcases hmove.readers with ⟨hsame, hreaders⟩ | ⟨hin, hreaders⟩ | ⟨hout, hreaders⟩
      · rw [hsame, hreaders, hbefore]
      · exact iff_of_true hin (hreaders ▸ List.mem_cons_self)
      · rw [hout, hreaders]
        exact iff_of_false Bool.false_ne_true (by simp)
    · rw [hmove.stage_of_ne hut, hbefore]
      rcases hmove.readers with ⟨-, hreaders⟩ | ⟨-, hreaders⟩ | ⟨-, hreaders⟩
      · rw [hreaders]
      · rw [hreaders, List.mem_cons, or_iff_right hut]
      · rw [hreaders, List.mem_filter, and_iff_left (decide_eq_true hut)]

theorem unrelied_of_unmarked (h : s.Locked) (hmarked : s.scene.engine.waiting = false) :
    s.Unrelied := by
  intro t
  rw [← Bool.not_eq_true]
  intro hrelies
  have hmark := h.orderly.mark.2 ⟨t, EngineStage.isInside_of_relies hrelies⟩
  rw [hmarked] at hmark
  cases hmark

theorem unrelied_of_turn (h : s.Locked) (hturn : s.turn = none) : s.Unrelied := by
  intro t
  rw [← Bool.not_eq_true]
  intro hrelies
  have hadmitted := EngineStage.isAdmitted_of_isInside (EngineStage.isInside_of_relies hrelies)
  have hheld := h.orderly.turn h.safe t hadmitted
  rw [hturn] at hheld
  cases hheld

end Locked

/-! ## The channel -/

/-- No destruction has taken the core away. -/
structure Intact (s : EngineThreads W σ) : Prop where
  created : ∃ core, s.scene.engine.lifecycle = .created core ∧ core.abort = .own
  initialized : s.scene.engine.ownAbort.isInitialized = true
  untaken : ∀ t, (s.stage t).hasTaken = false

/-- The core was taken away. -/
def Withdrawn (s : EngineThreads W σ) : Prop := s.scene.engine.lifecycle = .uninitialized

/-- What the threads of a thread-safe engine with its own abort channel keep to. -/
structure Secure (s : EngineThreads W σ) : Prop where
  locked : s.Locked
  stage : s.Intact ∨ s.Withdrawn
  /-- All handles in use are handles of the own channel. -/
  own : ∀ t abort, (s.stage t).abort? = some abort → abort = .own
  /-- As long as a wait relies on its handles, the own channel is there. -/
  kept : ∀ t, (s.stage t).relies = true → s.scene.engine.ownAbort.isInitialized = true
  /-- As long as a thread is in the midst of a signal or a drain of the own channel, it is there. -/
  manned : ∀ t, (s.stage t).isReading = true → s.scene.engine.ownAbort.isInitialized = true
  /-- A destruction is right about the waits. -/
  clear : ∀ t, (s.stage t).isClear = true → s.Unrelied
  /-- No wait finds the own channel gone. -/
  served : ∀ t, (s.stage t).result? ≠ some (.error .abortNotInitialized)

theorem Withdrawn.move (h : s.Withdrawn) (hmove : Move s t s') : s'.Withdrawn := by
  rcases hmove.lifecycle with ⟨hsame, -⟩ | hgone
  · exact hsame.trans h
  · exact hgone

theorem Intact.move (h : s.Intact) (hmove : Move s t s') : s'.Intact ∨ s'.Withdrawn := by
  have huntaken := h.untaken t
  rcases hmove.lifecycle with ⟨hsame, htaken⟩ | hgone
  · refine .inl ⟨?_, ?_, fun u ↦ ?_⟩
    · rw [hsame]
      exact h.created
    · rcases hmove.isInitialized with hkept | ⟨⟨former, hstage⟩, -⟩
      · exact hkept.trans h.initialized
      · rw [hstage] at huntaken
        cases huntaken
    · by_cases hut : u = t
      · rw [hut]
        exact htaken huntaken
      · rw [hmove.stage_of_ne hut]
        exact h.untaken u
  · exact .inr hgone

/-- Once the core is gone nobody takes handles any more. -/
theorem Move.relies_of_withdrawn (hmove : Move s t s') (hgone : s'.Withdrawn)
    (hrelies : (s'.stage t).relies = true) :
    (s.stage t).relies = true ∧ ∀ ticket, s'.stage t ≠ .polling ticket := by
  rcases hmove.relies hrelies with hbefore | ⟨hscene, ticket, -, hsurveys⟩
  · exact hbefore
  · rw [Withdrawn, hscene] at hgone
    cases hsurveys with
    | asking core hcreated =>
      rw [hgone] at hcreated
      cases hcreated

theorem Unrelied.move (h : s.Unrelied) (hmove : Move s t s') (hgone : s'.Withdrawn) :
    s'.Unrelied := by
  intro u
  by_cases hut : u = t
  · rw [hut, ← Bool.not_eq_true]
    intro hrelies
    have hbefore := (hmove.relies_of_withdrawn hgone hrelies).1
    rw [h t] at hbefore
    cases hbefore
  · rw [hmove.stage_of_ne hut]
    exact h u

namespace Secure

theorem withdrawn_of_hasTaken (h : s.Secure) (htaken : (s.stage t).hasTaken = true) :
    s.Withdrawn := by
  rcases h.stage with hintact | hgone
  · rw [hintact.untaken t] at htaken
    cases htaken
  · exact hgone

theorem stage_move (h : s.Secure) (hmove : Move s t s') : s'.Intact ∨ s'.Withdrawn := by
  rcases h.stage with hintact | hgone
  · exact hintact.move hmove
  · exact .inr (hgone.move hmove)

/-- The handles that a wait takes are handles of the own channel, and the channel is there. -/
theorem own_of_asking (h : s.Secure) {ticket : WaitTicket σ}
    (hsurveys : s.scene.Surveys (.asking ticket)) :
    ticket.abort = .own ∧ s.scene.engine.ownAbort.isInitialized = true := by
  cases hsurveys with
  | asking core hcreated habort =>
    rcases h.stage with hintact | hgone
    · obtain ⟨core', hcreated', hown⟩ := hintact.created
      cases hcreated.symm.trans hcreated'
      exact ⟨hown, hintact.initialized⟩
    · rw [hgone] at hcreated
      cases hcreated

theorem clear_move (h : s.Secure) (hmove : Move s t s') (hgone : s'.Withdrawn) {u : Nat}
    (hclear : (s'.stage u).isClear = true) : s'.Unrelied := by
  refine Unrelied.move ?_ hmove hgone
  by_cases hut : u = t
  · rw [hut] at hclear
    rcases hmove.isClear hclear with hbefore | hunmarked | hturn | hrefuses
    · exact h.clear t hbefore
    · exact h.locked.unrelied_of_unmarked hunmarked
    · exact h.locked.unrelied_of_turn hturn
    · rw [h.locked.safe] at hrefuses
      cases hrefuses
  · rw [hmove.stage_of_ne hut] at hclear
    exact h.clear u hclear

theorem kept_move (h : s.Secure) (hmove : Move s t s') {u : Nat}
    (hrelies : (s'.stage u).relies = true) :
    s'.scene.engine.ownAbort.isInitialized = true := by
  rcases hmove.isInitialized with hkept | ⟨⟨former, hstage⟩, -⟩
  · rw [hkept]
    by_cases hut : u = t
    · rw [hut] at hrelies
      rcases hmove.relies hrelies with ⟨hbefore, -⟩ | ⟨-, ticket, -, hsurveys⟩
      · exact h.kept t hbefore
      · exact (h.own_of_asking hsurveys).2
    · rw [hmove.stage_of_ne hut] at hrelies
      exact h.kept u hrelies
  · have hgone := (h.withdrawn_of_hasTaken (by rw [hstage]; rfl)).move hmove
    have hunrelied := (h.clear t (by rw [hstage]; rfl)).move hmove hgone u
    rw [hrelies] at hunrelied
    cases hunrelied

theorem manned_move (h : s.Secure) (hmove : Move s t s') {u : Nat}
    (hreading : (s'.stage u).isReading = true) :
    s'.scene.engine.ownAbort.isInitialized = true := by
  rcases hmove.isInitialized with hkept | ⟨-, hreaders, hbefore⟩
  · rw [hkept]
    by_cases hut : u = t
    · rw [hut] at hreading
      exact (hmove.isReading hreading).elim (h.manned t) id
    · rw [hmove.stage_of_ne hut] at hreading
      exact h.manned u hreading
  · have hreader := (h.locked.readers u).1 (hbefore u hreading)
    rw [hreaders] at hreader
    cases hreader

theorem served_move (h : s.Secure) (hmove : Move s t s') :
    (s'.stage t).result? ≠ some (.error .abortNotInitialized) := by
  intro hresult
  rcases hmove.result hresult with hbefore | ⟨-, -, hstage⟩ | ⟨-, hsurveys⟩ | ⟨e, he⟩ | ⟨_, he⟩ |
    ⟨ticket, answer, hstage, hgone, -⟩
  · exact h.served t hbefore
  · rw [hstage] at hresult
    cases hresult
  · cases hsurveys with
    | idle _ _ he => rcases he with he | he <;> cases he
    | gone core hcreated habort =>
      rcases h.stage with hintact | hgone
      · obtain ⟨core', hcreated', hown⟩ := hintact.created
        cases hcreated.symm.trans hcreated'
        rw [hown, Scene.channel, hintact.initialized] at habort
        cases habort
      · rw [hgone] at hcreated
        cases hcreated
  · cases he
  · cases he
  · have hown := h.own t ticket.abort (by rw [hstage]; rfl)
    rw [hown, Scene.channel, h.kept t (by rw [hstage]; rfl)] at hgone
    cases hgone

theorem move (h : s.Secure) (hmove : Move s t s') : s'.Secure := by
  have hstage := h.stage_move hmove
  have hgone : ∀ u, (s'.stage u).hasTaken = true → s'.Withdrawn := by
    intro u htaken
    refine hstage.resolve_left fun hintact ↦ ?_
    rw [hintact.untaken u] at htaken
    cases htaken
  refine ⟨h.locked.move hmove, hstage, fun u abort habort ↦ ?_, fun u ↦ h.kept_move hmove,
    fun u ↦ h.manned_move hmove, fun u hclear ↦ ?_, fun u ↦ ?_⟩
  · by_cases hut : u = t
    · rw [hut] at habort
      rcases hmove.abort? habort with hbefore | ⟨ticket, rfl, hsurveys⟩
      · exact h.own t abort hbefore
      · exact (h.own_of_asking hsurveys).1
    · rw [hmove.stage_of_ne hut] at habort
      exact h.own u abort habort
  · exact h.clear_move hmove (hgone u (EngineStage.hasTaken_of_isClear hclear)) hclear
  · by_cases hut : u = t
    · rw [hut]
      exact h.served_move hmove
    · rw [hmove.stage_of_ne hut]
      exact h.served u

theorem reachable (h : s.Secure) (hreachable : Reachable s s') : s'.Secure := by
  induction hreachable with
  | refl => exact h
  | step thread call answer mishap _ hstep ih => exact ih.move (move_of_step hstep)

end Secure

/-- An initialisation that succeeds leaves a channel without signals. -/
theorem init_of_ok {scene : Scene W σ} {threadSafe : Bool}
    (hinit : (scene.init threadSafe).result = .ok ()) : (scene.init threadSafe).scene.engine =
      { scene.engine with
        lifecycle := .initialized, ownAbort := ⟨some .fresh, false⟩, threadSafe } := by
  rw [Scene.init] at hinit ⊢
  cases hstage : scene.engine.lifecycle with
  | uninitialized =>
    rw [hstage] at hinit
    have hends := scene.engine.ownAbort.initEnds (Mishaps.first [])
    dsimp only at hinit ⊢
    generalize scene.engine.ownAbort.init (Mishaps.first []) = out at hends hinit
    cases hends with
    | made => rfl
    | again | failed => cases hinit
  | initialized | created core =>
    rw [hstage] at hinit
    cases hinit

/-- Nobody is in a call, and the engine was just created. -/
theorem secure_ofScene {scene : Scene W σ} (hunmarked : scene.engine.waiting = false)
    (hinit : (scene.init true).result = .ok ()) (size : Nat) (params : CreationParams)
    (hown : params.abortChannel = none) :
    (ofScene ((scene.init true).scene.create size params).scene).Secure := by
  have hengine : ((scene.init true).scene.create size params).scene.engine =
      { scene.engine with
        lifecycle := .created (.ofParams size .own params), ownAbort := ⟨some .fresh, false⟩,
        activeAbort := some .own, threadSafe := true } := by
    rw [Scene.create, init_of_ok hinit]
    dsimp only
    rw [hown]
    rfl
  generalize ((scene.init true).scene.create size params).scene = begun at hengine
  obtain ⟨engine, channels, world⟩ := begun
  cases hengine
  exact {
    locked :=
      { orderly := orderly_ofScene hunmarked
        safe := rfl
        turn := fun t ht ↦ absurd ht (Option.some_ne_none t).symm
        guard := fun t ↦ iff_of_false Bool.false_ne_true (Option.some_ne_none t).symm
        readers := fun t ↦ iff_of_false Bool.false_ne_true List.not_mem_nil }
    stage := .inl ⟨⟨_, rfl, rfl⟩, rfl, fun _ ↦ rfl⟩
    own := fun t abort habort ↦ absurd habort (Option.some_ne_none abort).symm
    kept := fun t ht ↦ absurd ht Bool.false_ne_true
    manned := fun t ht ↦ absurd ht Bool.false_ne_true
    clear := fun t ht ↦ absurd ht Bool.false_ne_true
    served := fun t ht ↦ absurd ht (Option.some_ne_none _).symm }

namespace Secure

/-- When a destruction is about to give the channel up, the waits that still have handles have
nothing left to do but return. -/
theorem returning_of_releasing (h : s.Secure) {former : Lifecycle σ}
    (ht : s.stage t = .releasing former) (hu : (s.stage u).hasHandles = true) :
    ∃ result, s.stage u = .returning true result := by
  have hunrelied := h.clear t (by rw [ht]; rfl) u
  cases hstage : s.stage u with
  | returning handles result =>
    rw [hstage] at hu
    exact ⟨result, by rw [show handles = true from hu]⟩
  | polling | concluding | looking | answering | leaving =>
    rw [hstage] at hu hunrelied
    exact absurd (hunrelied.symm.trans hu) Bool.false_ne_true
  | _ =>
    rw [hstage] at hu
    cases hu

end Secure

/-! ## Nobody is stuck -/

/-- A thread can go on if nobody has the lock that it asks for. -/
theorem isSome_step (hturn : (s.stage t).asksTurn = true → s.turn = none)
    (hguard : (s.stage t).asksGuard = true → s.guard = none)
    (hchannel : (s.stage t).asksChannel = true → s.readers = []) (call : EngineCall)
    (answer : Except IoError Readiness) (mishap : Option IoError) :
    (s.step t call answer mishap).isSome = true := by
  unfold step
  cases hstage : s.stage t with
  | queueing | awaiting former =>
    rw [hstage] at hturn
    simp only [hturn rfl, Option.isNone_none, if_true, Option.isSome_some]
  | surveying =>
    rw [hstage] at hguard
    simp only [hguard rfl, Option.isNone_none, if_true]
    split <;> rfl
  | arriving =>
    rw [hstage] at hguard
    simp only [hguard rfl, Option.isNone_none, if_true, Option.isSome_some]
  | releasing former =>
    rw [hstage] at hchannel
    cases former with
    | uninitialized => rfl
    | initialized | created core =>
      simp only [hchannel rfl, List.isEmpty_nil, if_true, Option.isSome_some]
  | entering | concluding ticket answer | checking former | signalling former =>
    dsimp only
    split <;> rfl
  | polling ticket => cases answer <;> rfl
  | _ => rfl

namespace Secure

/-- Some thread that is in a call can go on: whoever waits for a lock waits for it. -/
theorem exists_step (h : s.Secure) (hbusy : (s.stage t).isResting = false) :
    ∃ u, (s.stage u).isResting = false ∧
      ∀ call answer mishap, (s.step u call answer mishap).isSome = true := by
  have hnever : ∀ {b : Bool} {p : Prop}, b = false → b = true → p := by
    rintro _ _ rfl h
    cases h
  cases hguard : s.guard with
  | some g =>
    obtain ⟨hcall, hturn, hnoguard, hchannel⟩ :=
      EngineStage.asks_of_isGuarding ((h.locked.guard g).2 hguard)
    exact ⟨g, hcall, isSome_step (hnever hturn) (hnever hnoguard) (hnever hchannel)⟩
  | none =>
    cases hturn : s.turn with
    | some w =>
      -- Whoever has the turn was admitted, and nobody has the guard.
      obtain ⟨hcall, hnoturn, hchannel⟩ := EngineStage.asks_of_isAdmitted (h.locked.turn w hturn)
      exact ⟨w, hcall, isSome_step (hnever hnoturn) (fun _ ↦ hguard) (hnever hchannel)⟩
    | none =>
      cases hreaders : s.readers with
      | cons r readers =>
        have hreading := (h.locked.readers r).2 (hreaders ▸ List.mem_cons_self)
        obtain ⟨hcall, hnoturn, hnoguard, hchannel⟩ := EngineStage.asks_of_isReading hreading
        exact ⟨r, hcall, isSome_step (hnever hnoturn) (hnever hnoguard) (hnever hchannel)⟩
      | nil =>
        exact ⟨t, hbusy, isSome_step (fun _ ↦ hturn) (fun _ ↦ hguard) fun _ ↦ hreaders⟩

end Secure

/-! ## Waits that come too late -/

/-- Where a wait is that finds no core, by the number of its steps from the look at the state on. -/
def refusal : Nat → EngineStage σ
  | 0 => .surveying
  | 1 => .leaving false (.error .notInitialized)
  | 2 => .returning false (.error .notInitialized)
  | _ => .waited (.error .notInitialized)

theorem Withdrawn.run (h : s.Withdrawn) {schedule : List Stride}
    (hrun : s.run (schedule.map .stride) = some s') : s'.Withdrawn := by
  induction schedule generalizing s with
  | nil =>
    cases hrun
    exact h
  | cons stride schedule ih =>
    obtain ⟨middle, hstep, hlater⟩ := Option.bind_eq_some_iff.1 hrun
    exact ih (h.move (move_of_step hstep)) hlater

/-- A wait that finds no core takes the next step on its way out. -/
theorem Withdrawn.step_refusal (h : s.Withdrawn) {steps : Nat} (hsteps : steps < 3)
    (hstage : s.stage t = refusal steps) {call : EngineCall} {answer : Except IoError Readiness}
    {mishap : Option IoError} (hstep : s.step t call answer mishap = some s') :
    s'.stage t = refusal (steps + 1) := by
  have hsurvey : s.scene.survey = .decided (.error .notInitialized) := by
    rw [Scene.survey, h]
    rfl
  rw [step, hstage] at hstep
  obtain _ | _ | _ | steps := steps
  · simp only [refusal, hsurvey, Option.ite_none_right_eq_some] at hstep
    obtain ⟨-, ⟨⟩⟩ := hstep
    exact stage_move_self ..
  · cases hstep
    exact stage_moveWith_self ..
  · cases hstep
    exact stage_move_self ..
  · omega

/-- A wait that finds no core fails in three steps. -/
theorem Withdrawn.stage_run (h : s.Withdrawn) {steps : Nat} (hsteps : steps ≤ 3)
    (hstage : s.stage t = refusal steps) {schedule : List Stride}
    (hcount : schedule.countP (·.thread = t) = 3 - steps)
    (hrun : s.run (schedule.map .stride) = some s') :
    s'.stage t = .waited (.error .notInitialized) := by
  induction schedule generalizing s steps with
  | nil =>
    cases hrun
    have hlast : steps = 3 := by
      rw [List.countP_nil] at hcount
      omega
    rw [hstage, hlast]
    rfl
  | cons stride schedule ih =>
    obtain ⟨middle, hstep, hlater⟩ := Option.bind_eq_some_iff.1 hrun
    have hmove := move_of_step hstep
    have hgone := h.move hmove
    rw [List.countP_cons] at hcount
    by_cases hthread : stride.thread = t
    · rw [if_pos (decide_eq_true hthread)] at hcount
      have hown : s.step t stride.call stride.answer stride.mishap = some middle :=
        hthread ▸ hstep
      have hstage' : middle.stage t = refusal (steps + 1) := h.step_refusal (by omega) hstage hown
      exact ih hgone (by omega) hstage' (by omega) hlater
    · rw [if_neg (by rwa [decide_eq_true_eq])] at hcount
      refine ih hgone hsteps ?_ hcount hlater
      rw [hmove.stage_of_ne (Ne.symm hthread), hstage]

/-! ## The main result -/

/-- A run by steps of the threads leads to a reachable state. -/
theorem reachable_of_run {start : EngineThreads W σ} {schedule : List Stride}
    (hrun : start.run (schedule.map .stride) = some s) : Reachable start s := by
  induction schedule using List.reverseRecOn generalizing s with
  | nil =>
    cases hrun
    exact .refl
  | append_singleton schedule last ih =>
    rw [List.map_append, List.map_singleton] at hrun
    obtain ⟨middle, hmiddle, hlast⟩ := run_concat.1 hrun
    exact .step last.thread last.call last.answer last.mishap (ih hmiddle) hlast

/-- **No abort channel is given up under a waiter.** Initialise an engine as a thread-safe one,
create it with its own abort channel, and let any number of threads wait on it, wake each other and
destroy it, in any order of their steps, whatever the poller answers and whichever calls to the
doorbell fail. In every state that can come about:

* If the next step of a thread gives the channel up, then it is a destruction that has taken the
  core away. A wait that has taken handles has its answer by then, has taken its mark away, and has
  nothing left to do but return; and nobody is in the midst of a signal or a drain.
* As long as a wait has handles and has not taken its mark away, and as long as a thread is in the
  midst of a signal or a drain, the channel is there.
* No wait has failed because the channel was gone.
* Once a destruction has taken the core away it stays away, and a wait that looks at the state from
  then on is over after three steps of its own, and says that the engine is not initialised.
* Whoever has the guard does not ask for the turn. If some thread is in a call then some thread in a
  call can go on. -/
theorem channel_outlives_waits (scene : Scene W σ) (hunmarked : scene.engine.waiting = false)
    (hinit : (scene.init true).result = .ok ()) (size : Nat) (params : CreationParams)
    (hown : params.abortChannel = none) (s : EngineThreads W σ)
    (hreachable : Reachable (ofScene ((scene.init true).scene.create size params).scene) s) :
    (∀ t call answer mishap s', s.step t call answer mishap = some s' →
        s'.scene.engine.ownAbort.isInitialized ≠ s.scene.engine.ownAbort.isInitialized →
          (∃ former, s.stage t = .releasing former) ∧ (∀ u, (s.stage u).isReading = false) ∧
            ∀ u, (s.stage u).hasHandles = true → ∃ result, s.stage u = .returning true result) ∧
      (∀ t, (s.stage t).relies = true ∨ (s.stage t).isReading = true →
        s.scene.engine.ownAbort.isInitialized = true) ∧
      (∀ t, s.stage t ≠ .waited (.error .abortNotInitialized)) ∧
      ((∃ t, (s.stage t).hasTaken = true) → ∀ (schedule : List Stride) (s' : EngineThreads W σ),
        s.run (schedule.map .stride) = some s' → s'.Withdrawn ∧
          ∀ u, s'.stage u = .surveying → ∀ (later : List Stride) (s'' : EngineThreads W σ),
            s'.run (later.map .stride) = some s'' → later.countP (·.thread = u) = 3 →
              s''.stage u = .waited (.error .notInitialized)) ∧
      (∀ t, s.guard = some t → (s.stage t).asksTurn = false) ∧
      ∀ t, (s.stage t).isResting = false → ∃ u, (s.stage u).isResting = false ∧
        ∀ call answer mishap, (s.step u call answer mishap).isSome = true := by
  have h := (secure_ofScene hunmarked hinit size params hown).reachable hreachable
  refine ⟨fun t call answer mishap s' hstep hlost ↦ ?_, fun t ht ↦ ht.elim (h.kept t) (h.manned t),
    fun t ht ↦ ?_, fun ⟨t, ht⟩ schedule s' hrun ↦ ?_, fun t ht ↦ ?_, fun t ↦ h.exists_step⟩
  · rcases (move_of_step hstep).isInitialized with hkept | ⟨⟨former, hstage⟩, hreaders, -⟩
    · exact absurd hkept hlost
    · refine ⟨⟨former, hstage⟩, fun u ↦ ?_, fun u ↦ h.returning_of_releasing hstage⟩
      rw [← Bool.not_eq_true, h.locked.readers, hreaders]
      exact List.not_mem_nil
  · refine h.served t ?_
    rw [ht]
    rfl
  · have hgone := (h.withdrawn_of_hasTaken ht).run hrun
    exact ⟨hgone, fun u hu later s'' hlater hcount ↦
      hgone.stage_run (Nat.zero_le 3) hu hcount hlater⟩
  · exact (EngineStage.asks_of_isGuarding ((h.locked.guard t).2 ht)).2.1

/-- An engine that nobody has used. -/
def unusedScene : Scene Scripted.World Scripted.Stream := ⟨.new, [], .empty⟩

/-- Steps of the given threads. Thread 1 destroys, the others wait, and the poller finds that the
abort channel was signalled. -/
def strides (threads : List Nat) : List Stride :=
  threads.map fun t ↦ ⟨t, if t = 1 then .destroy else .wait, .ok ⟨1, [true]⟩, none⟩

/-- Thread 0 is inside the poller and thread 2 queues up when thread 1 destroys the engine. Thread 0
is woken and returns, and thread 2 marks the engine before the channel is given up. -/
def queuedWaits : List Stride :=
  strides [0, 0, 0, 0, 2, 1, 1, 1, 1, 1, 1, 1, 1, 0, 0, 0, 0, 0, 0, 0, 1, 2, 2]

/-- The wait that was inside succeeds, the channel is given up, and the wait that had queued up
finds no core. -/
theorem channel_outlives_waits_queued :
    (unusedScene.init true).result = .ok () ∧ CreationParams.default.abortChannel = none ∧
      ∃ s s' s'', Reachable (ofScene ((unusedScene.init true).scene.create 1400 .default).scene) s ∧
        s.stage 0 = .waited (.ok false) ∧ s.step 1 .destroy (.ok ⟨0, []⟩) none = some s' ∧
        s.scene.engine.ownAbort.isInitialized = true ∧
        s'.scene.engine.ownAbort.isInitialized = false ∧
        (∀ u, (s.stage u).hasHandles = true → ∃ result, s.stage u = .returning true result) ∧
        s.run ((strides [1, 2, 2, 2]).map .stride) = some s'' ∧
        s''.stage 2 = .waited (.error .notInitialized) := by
  refine ⟨rfl, rfl, ?_⟩
  obtain ⟨s, hrun⟩ : ∃ s, (ofScene ((unusedScene.init true).scene.create 1400 .default).scene).run
      (queuedWaits.map .stride) = some s := ⟨_, rfl⟩
  have hstages : s.stage 0 = .waited (.ok false) ∧ (∃ former, s.stage 1 = .releasing former) ∧
      s.stage 2 = .surveying ∧ s.scene.engine.ownAbort.isInitialized = true := by
    cases hrun
    exact ⟨rfl, ⟨_, rfl⟩, rfl, rfl⟩
  obtain ⟨s', hstep, hgone⟩ : ∃ s', s.step 1 .destroy (.ok ⟨0, []⟩) none = some s' ∧
      s'.scene.engine.ownAbort.isInitialized = false := by
    cases hrun
    exact ⟨_, rfl, rfl⟩
  obtain ⟨s'', hlater⟩ : ∃ s'', s.run ((strides [1, 2, 2, 2]).map .stride) = some s'' := by
    cases hrun
    exact ⟨_, rfl⟩
  have hreachable := reachable_of_run hrun
  obtain ⟨hzero, ⟨former, hone⟩, htwo, hthere⟩ := hstages
  obtain ⟨hgiven, -, -, hlate, -⟩ :=
    channel_outlives_waits unusedScene rfl rfl 1400 .default rfl s hreachable
  obtain ⟨-, -, hkept⟩ := hgiven 1 _ _ _ s' hstep (by rw [hthere, hgone]; exact Bool.false_ne_true)
  refine ⟨s, s', s'', hreachable, hzero, hstep, hthere, hgone, hkept, hlater, ?_⟩
  exact (hlate ⟨1, by rw [hone]; rfl⟩ [] s rfl).2 2 htwo _ s'' hlater rfl

/-- Thread 0 waits and has taken its mark away when thread 1 looks for it. -/
def unseenReturn : List Stride := strides [0, 0, 0, 0, 0, 0, 0, 0, 1, 1, 1, 1, 1, 1]

/-- A destruction that comes between the end of a mark and the return of the wait does not see that
somebody waits, and gives the channel up while the wait has still to return. -/
theorem channel_gone_before_return :
    ∃ s s', Reachable (ofScene ((unusedScene.init true).scene.create 1400 .default).scene) s ∧
      s.stage 0 = .returning true (.ok false) ∧ s.turn = some 0 ∧
      s.step 1 .destroy (.ok ⟨0, []⟩) none = some s' ∧
      s.scene.engine.ownAbort.isInitialized = true ∧
      s'.scene.engine.ownAbort.isInitialized = false ∧
      s'.stage 0 = .returning true (.ok false) ∧ s'.turn = some 0 := by
  obtain ⟨s, hrun⟩ : ∃ s, (ofScene ((unusedScene.init true).scene.create 1400 .default).scene).run
      (unseenReturn.map .stride) = some s := ⟨_, rfl⟩
  have hreachable := reachable_of_run hrun
  cases hrun
  exact ⟨_, _, hreachable, rfl, rfl, rfl, rfl, rfl, rfl, rfl⟩

end EngineThreads

end StreamRtp
