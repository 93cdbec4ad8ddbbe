import Mathlib.Data.List.Induction
import StreamRtp.Abort.Threads
import StreamRtp.Proofs.SignalEnds

/-!
# Signals that race with a drain

A drain lowers the flag before it looks at the doorbell, so that a signal which comes in between
rings anew. But the drain goes on until it finds no byte, and so it takes the byte of that signal,
too, if the byte is there in time. Then the flag is up although no byte waits, and every later
signal takes the flag for a byte under way and writes none: the channel is stranded until somebody
drains it.

## Exactly when

After the last return of a drain no drain is at work any more, see `undrained_of_run`. What becomes
of the signals from then on is decided at that moment: if a byte waits or a signal is about to write
one, it stays so; if the flag is down, the first signal writes a byte; and if the flag is up and no
byte is to come, all signals are lost.
-/

namespace StreamRtp

namespace AbortThreads

/-- A channel that has just been initialised, and nobody in a call. -/
def initial : AbortThreads := ofChannel AbortChannel.fresh.init.2.1

/-- A byte waits at the doorbell, or a signal is about to write one. -/
def Armed (s : AbortThreads) : Prop := s.channel.isRung = true ∨ ∃ t, s.stage t = .ringing

/-- The flag is up, but no byte waits and none is to come. -/
def Stranded (s : AbortThreads) : Prop := s.channel.pending = true ∧ ¬s.Armed

/-- No drain is at work. -/
def Undrained (s : AbortThreads) : Prop := ∀ t, s.stage t = .idle ∨ s.stage t = .ringing

/-! ## What a step can do -/

/-- The steps of a thread: the channel and the stage that they lead to, and what they record. -/
inductive Move (s : AbortThreads) (thread : Nat) :
    AbortChannel → AbortStage → List AbortMark → Prop where
  /-- A signal finds the flag up. -/
  | swallowed (hstage : s.stage thread = .idle) (hpending : s.channel.pending = true) :
    Move s thread s.channel .idle [.began thread .signal, .returned thread .signal]
  /-- A signal raises the flag. -/
  | raised (hstage : s.stage thread = .idle) (hpending : s.channel.pending = false) :
    Move s thread { s.channel with pending := true } .ringing [.began thread .signal]
  /-- A drain lowers the flag. -/
  | lowered (hstage : s.stage thread = .idle) :
    Move s thread s.channel.lower .looking [.began thread .clear]
  /-- A signal writes its byte. -/
  | rang (hstage : s.stage thread = .ringing) :
    Move s thread s.channel.ringDoorbell.2 .idle [.returned thread .signal]
  /-- A drain finds a byte. -/
  | saw (hstage : s.stage thread = .looking) (hrung : s.channel.isRung = true) :
    Move s thread s.channel .answering []
  /-- A drain finds no byte. -/
  | cleared (hstage : s.stage thread = .looking) (hrung : s.channel.isRung = false) :
    Move s thread s.channel .idle [.returned thread .clear]
  /-- A drain reads a byte. -/
  | answered (hstage : s.stage thread = .answering) :
    Move s thread s.channel.answerDoorbell.2 .looking []

variable {s : AbortThreads} {thread t : Nat} {call : AbortCall} {c : AbortChannel}
  {stage : AbortStage} {marks : List AbortMark} {schedule : List (Nat × AbortCall)}

theorem step_eq_move (s : AbortThreads) (thread : Nat) (call : AbortCall) :
    ∃ c stage marks, Move s thread c stage marks ∧
      s.step thread call = s.move c thread stage marks := by
  unfold step
  cases hstage : s.stage thread with
  | idle =>
    cases call with
    | clear => exact ⟨_, _, _, .lowered hstage, rfl⟩
    | signal =>
      cases hpending : s.channel.pending with
      | false =>
        refine ⟨_, _, _, .raised hstage hpending, ?_⟩
        simp only [AbortChannel.raise, hpending]
      | true =>
        have hsame : { s.channel with pending := true } = s.channel := by
          rw [← hpending]
        refine ⟨_, _, _, .swallowed hstage hpending, ?_⟩
        simp only [AbortChannel.raise, hpending, hsame]
  | ringing => exact ⟨_, _, _, .rang hstage, rfl⟩
  | looking =>
    cases hrung : s.channel.isRung with
    | true => exact ⟨_, _, _, .saw hstage hrung, rfl⟩
    | false => exact ⟨_, _, _, .cleared hstage hrung, rfl⟩
  | answering => exact ⟨_, _, _, .answered hstage, rfl⟩

theorem stage_move (t : Nat) : (s.move c thread stage marks).stage t =
    if t = thread then stage else s.stage t := rfl

theorem stage_move_self : (s.move c thread stage marks).stage thread = stage := if_pos rfl

theorem run_cons (s : AbortThreads) (thread : Nat) (call : AbortCall)
    (schedule : List (Nat × AbortCall)) :
    s.run ((thread, call) :: schedule) = (s.step thread call).run schedule := rfl

/-- A run adds to the record. -/
theorem record_run (s : AbortThreads) (schedule : List (Nat × AbortCall)) :
    ∃ marks, (s.run schedule).record = s.record ++ marks := by
  induction schedule generalizing s with
  | nil => exact ⟨[], (List.append_nil _).symm⟩
  | cons entry schedule ih =>
    obtain ⟨thread, call⟩ := entry
    obtain ⟨c, stage, marks, -, hstep⟩ := s.step_eq_move thread call
    obtain ⟨later, hlater⟩ := ih (s.step thread call)
    refine ⟨marks ++ later, ?_⟩
    rw [run_cons, hlater, hstep, ← List.append_assoc]
    rfl

/-- The entries of the record that a step and the rest of a run add. -/
theorem marks_run_cons (hmove : s.step thread call = s.move c thread stage marks)
    {all : List AbortMark}
    (hrecord : (s.run ((thread, call) :: schedule)).record = s.record ++ all) :
    ∃ later, all = marks ++ later ∧
      ((s.step thread call).run schedule).record = (s.step thread call).record ++ later := by
  obtain ⟨later, hlater⟩ := record_run (s.step thread call) schedule
  refine ⟨later, ?_, hlater⟩
  have hstep : (s.step thread call).record = s.record ++ marks := by
    rw [hmove]
    rfl
  rw [run_cons, hlater, hstep, List.append_assoc] at hrecord
  exact (List.append_cancel_left hrecord).symm

/-! ## After the last drain -/

/-- If no drain returns in a run that ends quietly, none is at work at its beginning. -/
theorem undrained_of_run {all : List AbortMark} (hquiet : (s.run schedule).Quiet)
    (hrecord : (s.run schedule).record = s.record ++ all)
    (hnone : ∀ mark ∈ all, mark.isDrained = false) : s.Undrained := by
  -- Backwards from the end: what holds after a step held before it.
  induction schedule generalizing s all with
  | nil => exact fun t ↦ .inl (hquiet t)
  | cons entry schedule ih =>
    obtain ⟨thread, call⟩ := entry
    obtain ⟨c, stage, marks, hmove, hstep⟩ := s.step_eq_move thread call
    obtain ⟨later, hall, hlater⟩ := marks_run_cons hstep hrecord
    subst hall
    rw [List.forall_mem_append] at hnone
    have hnext : (s.step thread call).Undrained := ih hquiet hlater hnone.2
    intro t
    have ht := hnext t
    rw [hstep, stage_move] at ht
    by_cases htt : t = thread
    · -- A thread that is in a drain stays in it or records its return.
      subst htt
      rw [if_pos rfl] at ht
      cases hmove with
      | swallowed hstage => exact .inl hstage
      | raised hstage => exact .inl hstage
      | lowered hstage => exact .inl hstage
      | rang hstage => exact .inr hstage
      | saw hstage => cases ht <;> contradiction
      | cleared hstage => cases hnone.1 _ List.mem_cons_self
      | answered hstage => cases ht <;> contradiction
    · rwa [if_neg htt] at ht

/-- The steps that a thread takes while no drain is at work are those of a signal. -/
theorem move_of_undrained (hmove : Move s thread c stage marks) (h : s.Undrained)
    (hnext : (s.move c thread stage marks).Undrained) :
    (s.stage thread = .idle ∧ s.channel.pending = true ∧ c = s.channel ∧ stage = .idle) ∨
      (s.channel.pending = false ∧ stage = .ringing) ∨
      (s.stage thread = .ringing ∧ c = s.channel.ringDoorbell.2) := by
  have hthread := h thread
  have hself := hnext thread
  rw [stage_move_self] at hself
  cases hmove with
  | swallowed hstage hpending => exact .inl ⟨hstage, hpending, rfl, rfl⟩
  | raised hstage hpending => exact .inr (.inl ⟨hpending, rfl⟩)
  | rang hstage => exact .inr (.inr ⟨hstage, rfl⟩)
  | lowered hstage => cases hself <;> contradiction
  | saw hstage => cases hself <;> contradiction
  | cleared hstage => rw [hstage] at hthread; cases hthread <;> contradiction
  | answered hstage => cases hself <;> contradiction

theorem isRung_ringDoorbell {c : AbortChannel} (h : c.isInitialized = true) :
    c.ringDoorbell.2.isRung = true := by
  obtain ⟨d, hd⟩ := Option.isSome_iff_exists.1 h
  rw [AbortChannel.ringDoorbell, hd, AbortChannel.isRung]
  simp only [Option.any_some, Doorbell.isReadable, Doorbell.ring, decide_eq_true_eq]
  exact Nat.succ_pos _

/-- A byte that waits or is to come is there until a drain takes it. -/
theorem armed_move (hinit : s.channel.isInitialized = true) (hmove : Move s thread c stage marks)
    (h : s.Undrained) (hnext : (s.move c thread stage marks).Undrained) (harmed : s.Armed) :
    (s.move c thread stage marks).Armed := by
  rcases move_of_undrained hmove h hnext with ⟨hstage, -, rfl, rfl⟩ | ⟨-, rfl⟩ | ⟨-, rfl⟩
  · rcases harmed with hrung | ⟨t, ht⟩
    · exact .inl hrung
    · -- The thread that is about to ring is another one, since this one was in no call.
      have htt : t ≠ thread := by
        rintro rfl
        rw [hstage] at ht
        cases ht
      exact .inr ⟨t, by rw [stage_move, if_neg htt, ht]⟩
  · exact .inr ⟨thread, stage_move_self⟩
  · exact .inl (isRung_ringDoorbell hinit)

/-- Signals change nothing about a stranded channel. -/
theorem stranded_move (hmove : Move s thread c stage marks) (h : s.Undrained)
    (hnext : (s.move c thread stage marks).Undrained) (hstranded : s.Stranded) :
    (s.move c thread stage marks).Stranded := by
  obtain ⟨hpending, harmed⟩ := hstranded
  rcases move_of_undrained hmove h hnext with ⟨hstage, -, rfl, rfl⟩ | ⟨hnot, -⟩ | ⟨hring, -⟩
  · refine ⟨hpending, ?_⟩
    rintro (hrung | ⟨t, ht⟩)
    · exact harmed (.inl hrung)
    · rw [stage_move] at ht
      split at ht
      · cases ht
      · exact harmed (.inr ⟨t, ht⟩)
  · rw [hpending] at hnot
    cases hnot
  · exact absurd (.inr ⟨thread, hring⟩) harmed

/-- If the flag is down and no byte waits or is to come, the next step makes one come. -/
theorem armed_move_of_lowered (hmove : Move s thread c stage marks) (h : s.Undrained)
    (hnext : (s.move c thread stage marks).Undrained) (hpending : s.channel.pending = false)
    (harmed : ¬s.Armed) : (s.move c thread stage marks).Armed := by
  rcases move_of_undrained hmove h hnext with ⟨-, hup, -, -⟩ | ⟨-, rfl⟩ | ⟨hring, -⟩
  · rw [hpending] at hup
    cases hup
  · exact .inr ⟨thread, stage_move_self⟩
  · exact absurd (.inr ⟨thread, hring⟩) harmed

/-! ## Runs after the last drain -/

theorem isInitialized_move (hmove : Move s thread c stage marks)
    (h : s.channel.isInitialized = true) : c.isInitialized = true := by
  cases hmove with
  | swallowed | raised | lowered | saw | cleared => exact h
  | rang => rwa [AbortChannel.isInitialized_ringDoorbell]
  | answered => rwa [AbortChannel.isInitialized_answerDoorbell]

theorem isInitialized_run (h : s.channel.isInitialized = true)
    (schedule : List (Nat × AbortCall)) : (s.run schedule).channel.isInitialized = true := by
  induction schedule generalizing s with
  | nil => exact h
  | cons entry schedule ih =>
    obtain ⟨thread, call⟩ := entry
    obtain ⟨c, stage, marks, hmove, hstep⟩ := s.step_eq_move thread call
    rw [run_cons]
    refine ih ?_
    rw [hstep]
    exact isInitialized_move hmove h

section LastDrain

variable {all : List AbortMark} (hquiet : (s.run schedule).Quiet)
  (hrecord : (s.run schedule).record = s.record ++ all)
  (hnone : ∀ mark ∈ all, mark.isDrained = false)

include hquiet hrecord hnone

/-- What every step of a signal preserves holds at the end of a run in which no drain returns. -/
theorem run_induction {P : AbortThreads → Prop} (hs : P s)
    (hmove : ∀ (s : AbortThreads) (thread : Nat) (c : AbortChannel) (stage : AbortStage)
      (marks : List AbortMark), Move s thread c stage marks → s.Undrained →
      (s.move c thread stage marks).Undrained → P s → P (s.move c thread stage marks)) :
    P (s.run schedule) := by
  induction schedule generalizing s all with
  | nil => exact hs
  | cons entry schedule ih =>
    obtain ⟨thread, call⟩ := entry
    obtain ⟨c, stage, marks, hmarks, hstep⟩ := s.step_eq_move thread call
    obtain ⟨later, hall, hlater⟩ := marks_run_cons hstep hrecord
    have h := undrained_of_run hquiet hrecord hnone
    have hlast : ∀ mark ∈ later, mark.isDrained = false := fun mark hmark ↦
      hnone mark (hall ▸ List.mem_append_right marks hmark)
    rw [run_cons] at hquiet ⊢
    have hnext := undrained_of_run hquiet hlater hlast
    refine ih hquiet hlater hlast ?_
    rw [hstep] at hnext ⊢
    exact hmove s thread c stage marks hmarks h hnext hs

theorem armed_run (hinit : s.channel.isInitialized = true) (harmed : s.Armed) :
    (s.run schedule).Armed := by
  have hboth := run_induction hquiet hrecord hnone
    (P := fun s ↦ s.channel.isInitialized = true ∧ s.Armed) ⟨hinit, harmed⟩
    fun s thread c stage marks hmove h hnext hs ↦
      ⟨isInitialized_move hmove hs.1, armed_move hs.1 hmove h hnext hs.2⟩
  exact hboth.2

theorem stranded_run (hstranded : s.Stranded) : (s.run schedule).Stranded :=
  run_induction hquiet hrecord hnone hstranded fun _ _ _ _ _ ↦ stranded_move

/-- A channel that is not stranded is armed by a step of any thread. -/
theorem armed_run_of_not_stranded (hinit : s.channel.isInitialized = true)
    (hstranded : ¬s.Stranded) (hall : all ≠ []) : (s.run schedule).Armed := by
  by_cases harmed : s.Armed
  · exact armed_run hquiet hrecord hnone hinit harmed
  -- Neither armed nor stranded: the flag is down, and the first step raises it.
  have hpending : s.channel.pending = false := by
    rw [← Bool.not_eq_true]
    exact fun h ↦ hstranded ⟨h, harmed⟩
  cases schedule with
  | nil => exact absurd (List.append_right_eq_self.1 hrecord.symm) hall
  | cons entry schedule =>
    obtain ⟨thread, call⟩ := entry
    obtain ⟨c, stage, marks, hmove, hstep⟩ := s.step_eq_move thread call
    obtain ⟨later, hsplit, hlater⟩ := marks_run_cons hstep hrecord
    have h := undrained_of_run hquiet hrecord hnone
    have hlast : ∀ mark ∈ later, mark.isDrained = false := fun mark hmark ↦
      hnone mark (hsplit ▸ List.mem_append_right marks hmark)
    rw [run_cons] at hquiet ⊢
    have hnext := undrained_of_run hquiet hlater hlast
    refine armed_run hquiet hlater hlast ?_ ?_
    · rw [hstep]
      exact isInitialized_move hmove hinit
    · rw [hstep] at hnext ⊢
      exact armed_move_of_lowered hmove h hnext hpending harmed

end LastDrain

/-! ## The last return of a drain -/

theorem isDrained_of_mem_sinceDrained {mark : AbortMark} (h : mark ∈ s.sinceDrained) :
    mark.isDrained = false := by
  have hmark := List.all_eq_true.1 List.all_takeWhile mark (List.mem_reverse.1 h)
  simpa using hmark

/-- A step records a drain's return and nothing else, or no such return. -/
theorem isDrained_of_move (hmove : Move s thread c stage marks) :
    (∀ mark ∈ marks, mark.isDrained = false) ∨ marks = [.returned thread .clear] := by
  cases hmove with
  | cleared => exact .inr rfl
  | _ => exact .inl (by simp [AbortMark.isDrained])

theorem sinceDrained_move (hnone : ∀ mark ∈ marks, mark.isDrained = false) :
    (s.move c thread stage marks).sinceDrained = s.sinceDrained ++ marks := by
  have hall : ∀ mark ∈ marks.reverse, (!mark.isDrained) = true := fun mark hmark ↦ by
    rw [hnone mark (List.mem_reverse.1 hmark)]
    rfl
  rw [sinceDrained, move, List.reverse_append, List.takeWhile_append_of_pos hall,
    List.reverse_append, List.reverse_reverse, sinceDrained]

theorem sinceDrained_move_cleared :
    (s.move c thread stage [.returned thread .clear]).sinceDrained = [] := by
  rw [sinceDrained, move, List.reverse_append]
  rfl

/-- The record up to the last return of a drain was the whole record at some moment of the run. -/
theorem exists_lastDrain (hempty : s.record = []) (schedule : List (Nat × AbortCall)) :
    ∃ before after, schedule = before ++ after ∧
      (s.run schedule).record = (s.run before).record ++ (s.run schedule).sinceDrained := by
  -- The moment stays what it was until a further drain returns, and then it is that return.
  induction schedule using List.reverseRecOn with
  | nil =>
    refine ⟨[], [], rfl, ?_⟩
    rw [run_nil, sinceDrained, hempty]
    rfl
  | append_singleton schedule entry ih =>
    obtain ⟨before, after, rfl, hrecord⟩ := ih
    obtain ⟨thread, call⟩ := entry
    obtain ⟨c, stage, marks, hmove, hstep⟩ := (s.run (before ++ after)).step_eq_move thread call
    have hlast : s.run ((before ++ after) ++ [(thread, call)])
        = (s.run (before ++ after)).move c thread stage marks := by
      rw [run_append, run_cons, run_nil, hstep]
    rw [hlast]
    rcases isDrained_of_move hmove with hnone | rfl
    · refine ⟨before, after ++ [(thread, call)], List.append_assoc .., ?_⟩
      rw [sinceDrained_move hnone, ← List.append_assoc, ← hrecord]
      rfl
    · refine ⟨before ++ after ++ [(thread, call)], [], (List.append_nil _).symm, ?_⟩
      rw [sinceDrained_move_cleared, hlast, List.append_nil]

theorem isInitialized_initial : initial.channel.isInitialized = true := rfl

/-- When nobody is in a call, the signals since the last return of a drain can be seen at the
doorbell, unless the channel was stranded at the moment of that return. -/
theorem wakes_iff_not_stranded (schedule : List (Nat × AbortCall))
    (hquiet : (initial.run schedule).Quiet) (hsignalled : (initial.run schedule).Signalled) :
    (initial.run schedule).channel.isPending = .ok true ∧
        (initial.run schedule).channel.wakes = true ↔
      ¬∃ before after, schedule = before ++ after ∧
        (initial.run schedule).record
          = (initial.run before).record ++ (initial.run schedule).sinceDrained ∧
        (initial.run before).Stranded := by
  have hinit := isInitialized_run isInitialized_initial schedule
  obtain ⟨d, hd⟩ := Option.isSome_iff_exists.1 hinit
  have hseen : ((initial.run schedule).channel.isPending = .ok true ∧
      (initial.run schedule).channel.wakes = true) ↔ (initial.run schedule).Armed := by
    have harmed : (initial.run schedule).Armed ↔ (initial.run schedule).channel.isRung = true := by
      refine or_iff_left ?_
      rintro ⟨t, ht⟩
      rw [hquiet t] at ht
      cases ht
    rw [harmed, AbortChannel.isPending, AbortChannel.wakes, AbortChannel.isRung, hd]
    simp [Except.mapError]
  rw [hseen]
  constructor
  · rintro harmed ⟨before, after, rfl, hrecord, hstranded⟩
    rw [run_append] at harmed hquiet hrecord
    have hend := stranded_run hquiet hrecord (fun _ ↦ isDrained_of_mem_sinceDrained) hstranded
    exact hend.2 harmed
  · intro hnever
    obtain ⟨before, after, rfl, hrecord⟩ := exists_lastDrain (s := initial) rfl schedule
    have hstranded : ¬(initial.run before).Stranded := fun h ↦
      hnever ⟨before, after, rfl, hrecord, h⟩
    -- The signal has left something in the record, so at least one step came after the drain.
    have hbegun : (initial.run (before ++ after)).sinceDrained ≠ [] := by
      obtain ⟨thread, first, second, hsplit, hbegan, -⟩ := hsignalled
      rw [hsplit]
      exact List.append_ne_nil_of_left_ne_nil (List.ne_nil_of_mem hbegan) second
    rw [run_append] at hquiet hrecord hbegun ⊢
    exact armed_run_of_not_stranded hquiet hrecord (fun _ ↦ isDrained_of_mem_sinceDrained)
      (isInitialized_run isInitialized_initial before) hstranded hbegun

/-! ## A signal that is lost -/

/-- A thread that is never let go on stays where it is. -/
theorem stage_run_of_forall_ne (s : AbortThreads) (h : ∀ entry ∈ schedule, entry.1 ≠ t) :
    (s.run schedule).stage t = s.stage t := by
  induction schedule generalizing s with
  | nil => rfl
  | cons entry schedule ih =>
    obtain ⟨thread, call⟩ := entry
    obtain ⟨hthread, hschedule⟩ := List.forall_mem_cons.1 h
    obtain ⟨c, stage, marks, -, hstep⟩ := s.step_eq_move thread call
    rw [run_cons, ih _ hschedule, hstep, stage_move, if_neg (Ne.symm hthread)]

/-- Two signals of thread 0 and a drain of thread 1, which the first signal has woken. The second
signal raises the flag after the drain has lowered it, and rings before the drain has looked for the
last time. -/
def signalUnderDrain : List (Nat × AbortCall) :=
  [(0, .signal), (0, .signal), (1, .clear), (0, .signal), (0, .signal),
    (1, .clear), (1, .clear), (1, .clear), (1, .clear), (1, .clear)]

/-- A signal under a drain, and another one when the drain is over. -/
def signalAfterDrain : List (Nat × AbortCall) := signalUnderDrain ++ [(0, .signal)]

theorem quiet_signalAfterDrain : (initial.run signalAfterDrain).Quiet := by
  intro t
  -- Only the two threads of the schedule ever leave their place.
  by_cases h : t < 2
  · have hthreads : ∀ t < 2, (initial.run signalAfterDrain).stage t = .idle := by decide
    exact hthreads t h
  · refine stage_run_of_forall_ne initial fun entry hentry ↦ ?_
    have hthreads : ∀ entry ∈ signalAfterDrain, entry.1 < 2 := by decide
    have hlt := hthreads entry hentry
    omega

theorem signalled_signalAfterDrain : (initial.run signalAfterDrain).Signalled :=
  ⟨0, [.began 0 .signal], [.returned 0 .signal], by decide, by decide, by decide⟩

/-- The channel is stranded by a signal under a drain: the signal that comes after the drain cannot
be seen at the doorbell. -/
theorem not_wakes_signalAfterDrain :
    (initial.run signalAfterDrain).Quiet ∧ (initial.run signalAfterDrain).Signalled ∧
      (initial.run signalAfterDrain).channel.isPending = .ok false ∧
      (initial.run signalAfterDrain).channel.wakes = false :=
  ⟨quiet_signalAfterDrain, signalled_signalAfterDrain, rfl, rfl⟩

/-- The moment at which the channel of `signalAfterDrain` was stranded. -/
theorem stranded_signalAfterDrain :
    (initial.run signalAfterDrain).Quiet ∧ (initial.run signalAfterDrain).Signalled ∧
      ∃ before after, signalAfterDrain = before ++ after ∧
        (initial.run signalAfterDrain).record
          = (initial.run before).record ++ (initial.run signalAfterDrain).sinceDrained ∧
        (initial.run before).Stranded := by
  refine ⟨quiet_signalAfterDrain, signalled_signalAfterDrain, ?_⟩
  have hiff := wakes_iff_not_stranded signalAfterDrain quiet_signalAfterDrain
    signalled_signalAfterDrain
  by_contra hnever
  exact absurd (hiff.2 hnever).1 (by decide)

end AbortThreads

end StreamRtp
