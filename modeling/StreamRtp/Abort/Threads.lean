import StreamRtp.Abort.Channel

/-!
# Threads that share an abort channel

Any number of threads signal a channel and drain it, and their calls interleave at the steps of
`AbortChannel`. A thread is identified by a number. `AbortThreads.step` lets one thread take its
next step; a schedule is the list of who goes next. Every schedule is possible, since no step of
these calls ever blocks. The system does what it is asked for: every byte is written and read.

## The record of calls

A call begins with its first step and returns with its last one. The record keeps the beginnings and
the returns in order, so that one can say of two calls whether one of them was over before the other
began.
-/

namespace StreamRtp

/-- What a thread can call. -/
inductive AbortCall where
  | signal
  | clear
  deriving DecidableEq, Repr

/-- Where a thread is in its call. -/
inductive AbortStage where
  /-- In no call. -/
  | idle
  /-- Its signal has raised the flag and is about to ring. -/
  | ringing
  /-- Its drain is about to look at the doorbell. -/
  | looking
  /-- Its drain has seen a byte and is about to read one. -/
  | answering
  deriving DecidableEq, Repr

/-- An entry of the record of calls. -/
inductive AbortMark where
  | began (thread : Nat) (call : AbortCall)
  | returned (thread : Nat) (call : AbortCall)
  deriving DecidableEq, Repr

/-- Whether an entry says that a drain returned. -/
def AbortMark.isDrained : AbortMark → Bool
  | .returned _ .clear => true
  | _ => false

/-- A channel with the threads that share it. -/
structure AbortThreads where
  channel : AbortChannel
  stage : Nat → AbortStage
  /-- What has begun and returned so far, oldest first. -/
  record : List AbortMark

namespace AbortThreads

/-- Nobody is in a call. -/
def ofChannel (c : AbortChannel) : AbortThreads := ⟨c, fun _ ↦ .idle, []⟩

/-- A thread goes on to another stage, with entries for the record. -/
def move (s : AbortThreads) (c : AbortChannel) (thread : Nat) (stage : AbortStage)
    (marks : List AbortMark) : AbortThreads :=
  ⟨c, fun t ↦ if t = thread then stage else s.stage t, s.record ++ marks⟩

/-- Let a thread take its next step. A thread that is in no call begins the given one. -/
def step (s : AbortThreads) (thread : Nat) (call : AbortCall) : AbortThreads :=
  match s.stage thread, call with
  | .idle, .signal =>
    match s.channel.raise with
    | (true, c) => s.move c thread .idle [.began thread .signal, .returned thread .signal]
    | (false, c) => s.move c thread .ringing [.began thread .signal]
  | .idle, .clear => s.move s.channel.lower thread .looking [.began thread .clear]
  | .ringing, _ => s.move s.channel.ringDoorbell.2 thread .idle [.returned thread .signal]
  | .looking, _ =>
    if s.channel.isRung then s.move s.channel thread .answering []
    else s.move s.channel thread .idle [.returned thread .clear]
  | .answering, _ => s.move s.channel.answerDoorbell.2 thread .looking []

/-- Let threads take steps in the order of a schedule. -/
def run (s : AbortThreads) (schedule : List (Nat × AbortCall)) : AbortThreads :=
  schedule.foldl (fun s (thread, call) ↦ s.step thread call) s

/-- Whether no thread is in a call. -/
def Quiet (s : AbortThreads) : Prop := ∀ t, s.stage t = .idle

/-- The part of the record after the last return of a drain. -/
def sinceDrained (s : AbortThreads) : List AbortMark :=
  (s.record.reverse.takeWhile (!AbortMark.isDrained ·)).reverse

/-- Whether some signal began and returned after the last return of a drain. -/
def Signalled (s : AbortThreads) : Prop :=
  ∃ thread before after, s.sinceDrained = before ++ after
    ∧ AbortMark.began thread .signal ∈ before ∧ AbortMark.returned thread .signal ∈ after

@[simp] theorem run_nil (s : AbortThreads) : s.run [] = s := rfl

theorem run_append (s : AbortThreads) (first second : List (Nat × AbortCall)) :
    s.run (first ++ second) = (s.run first).run second := by
  simp [run]

end AbortThreads

end StreamRtp
