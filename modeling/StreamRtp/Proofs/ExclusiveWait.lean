import Mathlib.Data.List.Induction
import StreamRtp.Engine.Call
import StreamRtp.Proofs.ThreadMoves
import StreamRtp.Scripted.Stream

/-!
# One thread waits at a time

Any number of threads wait for data on one engine. The mark on the engine is up exactly when a
thread is between marking it and taking the mark away, and then there is one such thread. So a
thread that finds the mark up has met another one inside, and it leaves the mark alone on its way
out; whoever was inside takes it away, whatever the wait has come to.

In a thread-safe engine a wait is admitted only with the turn, and the turn is not given back before
the wait returns. So nobody finds the mark up: `Orderly.turn` is what makes the difference between
the two modes.
-/

namespace StreamRtp

variable {W σ : Type}

namespace EngineThreads

/-- What the threads of an engine keep to. -/
structure Orderly (s : EngineThreads W σ) : Prop where
  /-- No two threads are inside a wait. -/
  one : ∀ t u, (s.stage t).isInside = true → (s.stage u).isInside = true → t = u
  /-- The engine is marked as long as one is. -/
  mark : s.scene.engine.waiting = true ↔ ∃ t, (s.stage t).isInside = true
  /-- In a thread-safe engine, a wait that was admitted has the turn. -/
  turn : s.scene.engine.threadSafe = true →
    ∀ t, (s.stage t).isAdmitted = true → s.turn = some t

variable {start s s' : EngineThreads W σ} {t : Nat}

/-- Nobody is in a call, and the engine is not marked. -/
theorem orderly_ofScene {scene : Scene W σ} (hunmarked : scene.engine.waiting = false) :
    (ofScene scene).Orderly where
  one t u ht := by cases ht
  mark := by
    refine iff_of_false (Bool.eq_false_iff.1 hunmarked) ?_
    rintro ⟨t, ht⟩
    cases ht
  turn _ t ht := by cases ht

namespace Orderly

/-- Who is inside after a step. -/
theorem isInside_of_move (h : s.Orderly) (hmove : Move s t s') :
    ((∀ u, (s'.stage u).isInside = (s.stage u).isInside) ∧
        s'.scene.engine.waiting = s.scene.engine.waiting) ∨
      ((∀ u, (s'.stage u).isInside = true ↔ u = t) ∧ s'.scene.engine.waiting = true) ∨
      (∀ u, (s'.stage u).isInside = false) ∧ s'.scene.engine.waiting = false := by
  rcases hmove.mark with ⟨hsame, hmark⟩ | ⟨-, hinside, hunmarked, hmark⟩ | ⟨hwas, houtside, hmark⟩
  · refine .inl ⟨fun u ↦ ?_, hmark⟩
    by_cases hu : u = t
    · rw [hu, hsame]
    · rw [hmove.stage_of_ne hu]
  · -- The engine was not marked, so nobody was inside.
    refine .inr (.inl ⟨fun u ↦ ⟨fun hu ↦ ?_, fun hu ↦ hu ▸ hinside⟩, hmark⟩)
    by_cases hut : u = t
    · exact hut
    · rw [hmove.stage_of_ne hut] at hu
      have hmarked := h.mark.2 ⟨u, hu⟩
      rw [hunmarked] at hmarked
      cases hmarked
  · -- The thread was the one inside.
    refine .inr (.inr ⟨fun u ↦ ?_, hmark⟩)
    by_cases hu : u = t
    · rw [hu, houtside]
    · rw [hmove.stage_of_ne hu, ← Bool.not_eq_true]
      exact fun hinside ↦ hu (h.one u t hinside hwas)

theorem move (h : s.Orderly) (hmove : Move s t s') : s'.Orderly where
  one u v hu hv := by
    rcases h.isInside_of_move hmove with ⟨hsame, -⟩ | ⟨honly, -⟩ | ⟨hnobody, -⟩
    · rw [hsame] at hu hv
      exact h.one u v hu hv
    · rw [(honly u).1 hu, (honly v).1 hv]
    · rw [hnobody] at hu
      cases hu
  mark := by
    rcases h.isInside_of_move hmove with ⟨hsame, hmark⟩ | ⟨honly, hmark⟩ | ⟨hnobody, hmark⟩
    · rw [hmark, h.mark]
      simp only [hsame]
    · exact iff_of_true hmark ⟨t, (honly t).2 rfl⟩
    · rw [hmark]
      refine iff_of_false Bool.false_ne_true ?_
      rintro ⟨u, hu⟩
      rw [hnobody] at hu
      cases hu
  turn hsafe u hu := by
    rw [hmove.threadSafe_eq] at hsafe
    have hbefore := h.turn hsafe
    rcases hmove.turn with ⟨hsame, hturn⟩ | ⟨-, -, ⟨hnobody, hturn⟩ | ⟨hrefuses, -⟩⟩ |
      ⟨hin, hout, hturn⟩
    · rw [hturn]
      refine hbefore u ?_
      by_cases hut : u = t
      · rw [hut] at hu ⊢
        rwa [← hsame]
      · rwa [← hmove.stage_of_ne hut]
    · -- Nobody had the turn, so nobody else was admitted.
      by_cases hut : u = t
      · rw [hturn, hut]
      · rw [hmove.stage_of_ne hut] at hu
        have hheld := hbefore u hu
        rw [hnobody] at hheld
        cases hheld
    · rw [hsafe] at hrefuses
      cases hrefuses
    · by_cases hut : u = t
      · rw [hut, hout] at hu
        cases hu
      · -- The thread that returns had the turn, so nobody else was admitted.
        rw [hmove.stage_of_ne hut] at hu
        exact absurd (Option.some.inj ((hbefore u hu).symm.trans (hbefore t hin))) hut

theorem happen (h : s.Orderly) {next : Happening W σ} (hnext : s.happen next = some s') :
    s'.Orderly := by
  rcases cases_of_happen hnext with ⟨stride, -, hmove⟩ | ⟨scene, -, rfl, hmark, hsafe⟩
  · exact h.move hmove
  · exact ⟨h.one, hmark ▸ h.mark, fun hscene ↦ h.turn (hsafe ▸ hscene)⟩

theorem run (h : start.Orderly) {happenings : List (Happening W σ)}
    (hrun : start.run happenings = some s) : s.Orderly :=
  run_induction (fun _ _ _ hnext h ↦ happen h hnext) h hrun

end Orderly

/-! ## Rejected waits -/

/-- A wait of the thread has found the engine marked while another thread was inside, and since then
the thread has taken the given number of steps. -/
def Rejected (start : EngineThreads W σ) (happenings : List (Happening W σ)) (t steps : Nat) :
    Prop :=
  ∃ before stride after middle, happenings = before ++ .stride stride :: after ∧
    stride.thread = t ∧ start.run before = some middle ∧ middle.stage t = .entering ∧
    (∃ u, u ≠ t ∧ (middle.stage u).isInside = true) ∧ after.countP (·.isOf t) = steps

theorem Rejected.concat {happenings : List (Happening W σ)} {steps : Nat}
    (h : Rejected start happenings t steps) (last : Happening W σ) :
    Rejected start (happenings ++ [last]) t (steps + if last.isOf t then 1 else 0) := by
  obtain ⟨before, stride, after, middle, rfl, hthread, hbefore, hentering, hother, rfl⟩ := h
  refine ⟨before, stride, after ++ [last], middle, ?_, hthread, hbefore, hentering, hother, ?_⟩
  · rw [List.append_assoc, List.cons_append]
  · rw [List.countP_append, List.countP_singleton]

/-- A call that begins has no result yet. -/
theorem result?_begin (s : EngineThreads W σ) (t : Nat) (call : EngineCall) :
    ((s.begin t call).stage t).result? = none := by
  cases call with
  | wait =>
    rw [begin, stage_move_self]
    split <;> rfl
  | abortWait =>
    rw [begin]
    split <;> rw [stage_move_self] <;> rfl
  | destroy =>
    rw [begin, stage_move_self]
    rfl

/-- Neither a look at the state nor the answer of the poller says that somebody else is waiting. -/
theorem rejects_of_result (hmove : Move s t s')
    (hresult : (s'.stage t).result? = some (.error .alreadyWaiting)) :
    (s.stage t).result? = some (.error .alreadyWaiting) ∨
      (s.stage t = .entering ∧ s.scene.engine.waiting = true ∧
        s'.stage t = .returning false (.error .alreadyWaiting)) := by
  rcases hmove.result hresult with h | h | ⟨-, h⟩ | ⟨e, h⟩ | ⟨available, h⟩ | ⟨_, _, -, -, h⟩
  · exact .inl h
  · exact .inr h
  · cases h with
    | idle _ _ he => rcases he with he | he <;> cases he
  · cases h
  · cases h
  · cases h

/-- A wait says that somebody else is waiting only if it has met somebody inside. -/
theorem rejected_of_result {scene : Scene W σ} (hunmarked : scene.engine.waiting = false)
    {happenings : List (Happening W σ)} (hrun : (ofScene scene).run happenings = some s)
    (hresult : (s.stage t).result? = some (.error .alreadyWaiting)) :
    (s.stage t = .returning false (.error .alreadyWaiting) ∧
        Rejected (ofScene scene) happenings t 0) ∨
      s.stage t = .waited (.error .alreadyWaiting) ∧ Rejected (ofScene scene) happenings t 1 := by
  -- From the end: the last thing that happened is a step of the thread or of no concern to it.
  induction happenings using List.reverseRecOn generalizing s with
  | nil =>
    cases hrun
    cases hresult
  | append_singleton happenings last ih =>
    obtain ⟨middle, hmiddle, hlast⟩ := run_concat.1 hrun
    have hcarry : ∀ {steps}, Rejected (ofScene scene) happenings t steps →
        Rejected (ofScene scene) (happenings ++ [last]) t (steps + if last.isOf t then 1 else 0) :=
      fun h ↦ h.concat last
    by_cases hof : last.isOf t = true
    · simp only [hof, if_true] at hcarry
      cases last with
      | other scene => cases hof
      | stride stride =>
        have hthread : stride.thread = t := of_decide_eq_true hof
        have hstep : middle.step t stride.call stride.answer stride.mishap = some s :=
          hthread ▸ hlast
        rcases rejects_of_result (move_of_step hstep) hresult with
          hbefore | ⟨hentering, hmarked, hreturning⟩
        · rcases ih hmiddle hbefore with ⟨hstage, hrejected⟩ | ⟨hstage, -⟩
          · -- The step is the return.
            rw [step, hstage] at hstep
            cases hstep
            exact .inr ⟨stage_move_self .., hcarry hrejected⟩
          · -- The step begins another call.
            rw [step, hstage] at hstep
            cases hstep
            rw [result?_begin] at hresult
            cases hresult
        · -- The step is the one that finds the mark.
          obtain ⟨u, hu⟩ := ((orderly_ofScene hunmarked).run hmiddle).mark.1 hmarked
          refine .inl ⟨hreturning, happenings, stride, [], middle, rfl, hthread, hmiddle, hentering,
            ⟨u, ?_, hu⟩, rfl⟩
          rintro rfl
          rw [hentering] at hu
          cases hu
    · simp only [hof, if_false, Bool.false_eq_true, Nat.add_zero] at hcarry
      have hstage : s.stage t = middle.stage t := by
        rcases cases_of_happen hlast with ⟨stride, rfl, hmove⟩ | ⟨scene, -, rfl, -⟩
        · exact hmove.stage_of_ne fun h ↦ hof (decide_eq_true h.symm)
        · rfl
      rw [hstage] at hresult ⊢
      exact (ih hmiddle hresult).imp (And.imp_right hcarry) (And.imp_right hcarry)

/-- Nothing that may happen changes the mode. -/
theorem threadSafe_run {happenings : List (Happening W σ)} (hrun : start.run happenings = some s) :
    s.scene.engine.threadSafe = start.scene.engine.threadSafe := by
  refine run_induction
    (P := fun s ↦ s.scene.engine.threadSafe = start.scene.engine.threadSafe) ?_ rfl hrun
  intro s next s' hnext hs
  rcases cases_of_happen hnext with ⟨stride, -, hmove⟩ | ⟨scene, -, rfl, -, hsafe⟩
  · exact hmove.threadSafe_eq.trans hs
  · exact hsafe.trans hs

/-- In a thread-safe engine nobody finds the mark up. -/
theorem not_rejected_of_threadSafe {happenings : List (Happening W σ)} {steps : Nat}
    {scene : Scene W σ} (hunmarked : scene.engine.waiting = false)
    (hsafe : scene.engine.threadSafe = true) :
    ¬Rejected (ofScene scene) happenings t steps := by
  rintro ⟨before, stride, after, middle, -, -, hbefore, hentering, ⟨u, hne, hu⟩, -⟩
  have horderly := (orderly_ofScene hunmarked).run hbefore
  have hsafe : middle.scene.engine.threadSafe = true := (threadSafe_run hbefore).trans hsafe
  have ht : middle.turn = some t := horderly.turn hsafe t (by rw [hentering]; rfl)
  have hu' := horderly.turn hsafe u (EngineStage.isAdmitted_of_isInside hu)
  exact hne (Option.some.inj (hu'.symm.trans ht))

/-! ## The main result -/

/-- **Waiting is exclusive.** Let threads share an engine that nobody is waiting on, let them take
steps in any order, and let any other call that leaves the mark and the mode alone come in between.
Then at most one thread is between marking the engine and taking the mark away, and the mark is up
exactly when one is. A wait that returned `alreadyWaiting` has found another thread inside when it
tried to mark the engine, and then has done nothing but return; if the engine is thread-safe there
is no such wait. A thread that is not inside never takes the mark away, and a thread that ceases to
be inside has taken it away, whatever its result. -/
theorem exclusive_wait (scene : Scene W σ) (hunmarked : scene.engine.waiting = false)
    (happenings : List (Happening W σ)) (s : EngineThreads W σ)
    (hrun : (ofScene scene).run happenings = some s) :
    (∀ t u, (s.stage t).isInside = true → (s.stage u).isInside = true → t = u) ∧
      (s.scene.engine.waiting = true ↔ ∃ t, (s.stage t).isInside = true) ∧
      (∀ t, s.stage t = .waited (.error .alreadyWaiting) →
        scene.engine.threadSafe = false ∧ Rejected (ofScene scene) happenings t 1) ∧
      ∀ t call answer mishap s', s.step t call answer mishap = some s' →
        ((s.stage t).isInside = false → s.scene.engine.waiting = true →
          s'.scene.engine.waiting = true) ∧
        ((s.stage t).isInside = true → (s'.stage t).isInside = false →
          s'.scene.engine.waiting = false) := by
  have horderly := (orderly_ofScene hunmarked).run hrun
  refine ⟨horderly.one, horderly.mark, fun t ht ↦ ?_, fun t call answer mishap s' hstep ↦ ?_⟩
  · have hresult : (s.stage t).result? = some (.error .alreadyWaiting) := by
      rw [ht]
      rfl
    rcases rejected_of_result hunmarked hrun hresult with ⟨hstage, -⟩ | ⟨-, hrejected⟩
    · rw [ht] at hstage
      cases hstage
    · refine ⟨?_, hrejected⟩
      rw [← Bool.not_eq_true]
      exact fun hsafe ↦ not_rejected_of_threadSafe hunmarked hsafe hrejected
  · rcases (move_of_step hstep).mark with ⟨hsame, hmark⟩ | ⟨-, hin, -, hmark⟩ | ⟨hin, -, hmark⟩
    · refine ⟨fun _ hmarked ↦ hmark.trans hmarked, fun hin hout ↦ ?_⟩
      rw [hsame, hin] at hout
      cases hout
    · refine ⟨fun _ _ ↦ hmark, fun _ hout ↦ ?_⟩
      rw [hin] at hout
      cases hout
    · refine ⟨fun hout ↦ ?_, fun _ _ ↦ hmark⟩
      rw [hin] at hout
      cases hout

/-- A created engine whose waits do not queue up. -/
def contestedScene : Scene Scripted.World Scripted.Stream :=
  ((⟨.new, [], .empty⟩ : Scene Scripted.World Scripted.Stream).run
    [.init false, .create 1400 .default]).2

/-- Thread 0 marks the engine, thread 1 finds the mark and returns, and thread 0 asks the poller. -/
def contest : List (Happening Scripted.World Scripted.Stream) :=
  [0, 0, 1, 1, 1, 0].map fun t ↦ .stride ⟨t, .wait, .ok ⟨0, []⟩, none⟩

/-- The second of two waits is rejected, and the first one goes on. -/
theorem exclusive_wait_contest : ∃ s, (ofScene contestedScene).run contest = some s ∧
    s.stage 1 = .waited (.error .alreadyWaiting) ∧ Rejected (ofScene contestedScene) contest 1 1 ∧
    s.scene.engine.waiting = true ∧ ∃ ticket, s.stage 0 = .polling ticket := by
  obtain ⟨s, hrun⟩ : ∃ s, (ofScene contestedScene).run contest = some s := ⟨_, rfl⟩
  have hrejected : s.stage 1 = .waited (.error .alreadyWaiting) := by
    cases hrun
    rfl
  have hpolling : ∃ ticket, s.stage 0 = .polling ticket := by
    cases hrun
    exact ⟨_, rfl⟩
  obtain ⟨-, hmark, hother, -⟩ := exclusive_wait contestedScene rfl contest s hrun
  obtain ⟨ticket, hticket⟩ := hpolling
  exact ⟨s, hrun, hrejected, (hother 1 hrejected).2, hmark.2 ⟨0, by rw [hticket]; rfl⟩, ticket,
    hticket⟩

end EngineThreads

end StreamRtp
