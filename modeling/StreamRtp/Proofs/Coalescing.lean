import StreamRtp.Proofs.SignalEnds

/-!
# Signals that coalesce

As long as nobody interrupts anybody, an abort channel is in one of three conditions: it has no
doorbell, its doorbell is silent and the flag is down, or one byte waits and the flag is up. So the
flag tells how many bytes wait, and both tell whether somebody has signalled since the channel was
initialised or drained.

## What a request can do

`Turn` lists what can come of a request in each of the conditions, and `Settled.turn` shows that
nothing else can. What is said of whole histories follows from it alone.
-/

namespace StreamRtp

/-! ## What has happened since -/

section Since

variable {α : Type} {p q : α → Prop} {history : List α} {e : α}

/-- Something of the kind `p` has happened, and after it nothing of the kind `q`. -/
def Since (p q : α → Prop) (history : List α) : Prop :=
  ∃ before e after, history = before ++ e :: after ∧ p e ∧ ∀ later ∈ after, ¬q later

theorem not_since_nil : ¬Since p q ([] : List α) := by
  rintro ⟨before, e, after, h, -⟩
  simp at h

theorem since_concat : Since p q (history ++ [e]) ↔ p e ∨ Since p q history ∧ ¬q e := by
  constructor
  · rintro ⟨before, e', after, h, hp, hq⟩
    rcases List.eq_nil_or_concat after with rfl | ⟨after, last, rfl⟩
    · obtain ⟨rfl, rfl⟩ := List.append_singleton_inj.1 h
      exact .inl hp
    · rw [List.concat_eq_append, ← List.cons_append, ← List.append_assoc] at h
      obtain ⟨rfl, rfl⟩ := List.append_singleton_inj.1 h
      simp only [List.concat_eq_append, List.forall_mem_append, List.forall_mem_singleton] at hq
      exact .inr ⟨⟨before, e', after, rfl, hp, hq.1⟩, hq.2⟩
  · rintro (hp | ⟨⟨before, e', after, rfl, hp, hq⟩, he⟩)
    · exact ⟨history, e, [], rfl, hp, List.forall_mem_nil _⟩
    · refine ⟨before, e', after ++ [e], by simp, hp, ?_⟩
      exact List.forall_mem_append.2 ⟨hq, List.forall_mem_singleton.2 he⟩

end Since

namespace AbortChannel

/-! ## Histories -/

/-- A request with the answer to it. -/
structure Exchange where
  request : Request
  answer : Except TransmitError Answer

/-- Answer requests one after the other. -/
def run (c : AbortChannel) : List Request → List Exchange × AbortChannel
  | [] => ([], c)
  | q :: requests =>
    let (answer, c, _) := c.perform q
    let (later, c) := c.run requests
    (⟨q, answer⟩ :: later, c)

theorem run_cons (c : AbortChannel) (q : Request) (requests : List Request) :
    c.run (q :: requests) = (⟨q, (c.perform q).1⟩ :: ((c.perform q).2.1.run requests).1,
      ((c.perform q).2.1.run requests).2) := rfl

theorem run_append (c : AbortChannel) (first second : List Request) :
    c.run (first ++ second) = ((c.run first).1 ++ ((c.run first).2.run second).1,
      ((c.run first).2.run second).2) := by
  induction first generalizing c with
  | nil => rfl
  | cons q first ih => rw [List.cons_append, run_cons, ih, run_cons, List.cons_append]

namespace Exchange

/-- Whether a channel got a doorbell. -/
def Inits (e : Exchange) : Prop := e.request = .init ∧ e.answer = .ok .done

/-- Whether a channel was destroyed. -/
def Destroys (e : Exchange) : Prop := e.request = .destroy

/-- Whether at least one signal succeeded. -/
def Signals (e : Exchange) : Prop := ∃ n, e.request = .signal (n + 1) ∧ e.answer = .ok .done

/-- Whether a channel was initialised or drained. -/
def Resets (e : Exchange) : Prop := e.Inits ∨ e.request = .clear ∧ e.answer = .ok .done

end Exchange

/-! ## The three conditions -/

/-- A channel whose doorbell is silent. -/
def silent : AbortChannel := ⟨some .fresh, false⟩

/-- A channel at whose doorbell one byte waits. -/
def rung : AbortChannel := ⟨some ⟨1⟩, true⟩

@[simp] theorem isInitialized_fresh : fresh.isInitialized = false := rfl

@[simp] theorem isInitialized_silent : silent.isInitialized = true := rfl

@[simp] theorem isInitialized_rung : rung.isInitialized = true := rfl

/-- The conditions of a channel between two calls. -/
inductive Settled : AbortChannel → Prop where
  | gone : Settled fresh
  | quiet : Settled silent
  | pending : Settled rung

/-- What can come of a request: the answer, and the channel afterwards. -/
inductive Turn : AbortChannel → Request → Except TransmitError Answer → AbortChannel → Prop where
  | init : Turn fresh .init (.ok .done) silent
  | initAgain {c : AbortChannel} (hc : c.isInitialized = true) :
    Turn c .init (.error .alreadyInitialized) c
  | destroy (c : AbortChannel) : Turn c .destroy (.ok .done) fresh
  /-- No signal at all. -/
  | signalNone (c : AbortChannel) : Turn c (.signal 0) (.ok .done) c
  | signal {c : AbortChannel} (n : Nat) (hc : c.isInitialized = true) :
    Turn c (.signal (n + 1)) (.ok .done) rung
  | clear {c : AbortChannel} (hc : c.isInitialized = true) : Turn c .clear (.ok .done) silent
  /-- A question. -/
  | ask {c : AbortChannel} {q : Request} {answer : Answer} (hc : c.isInitialized = true)
    (hq : q = .readyHandle ∨ q = .isPending ∨ q = .buffered) : Turn c q (.ok answer) c
  | refuse {q : Request} (hinit : q ≠ .init) (hdestroy : q ≠ .destroy) (hsignal : q ≠ .signal 0) :
    Turn fresh q (.error .abortNotInitialized) fresh

theorem Settled.eq_fresh {c : AbortChannel} (h : c.Settled) (hc : c.isInitialized ≠ true) :
    c = fresh := by
  cases h with
  | gone => rfl
  | quiet | pending => exact absurd rfl hc

theorem Settled.of_isInitialized {c : AbortChannel} (h : c.Settled) (hc : c.isInitialized = true) :
    c = silent ∨ c = rung := by
  cases h with
  | gone => cases hc
  | quiet => exact .inl rfl
  | pending => exact .inr rfl

/-- However many signals come, one byte waits. -/
theorem signalTimes_go_rung (n : Nat) (log : List LogEntry) :
    (signalTimes.go rung n log).1 = .ok () ∧ (signalTimes.go rung n log).2.1 = rung := by
  induction n generalizing log with
  | zero => exact ⟨rfl, rfl⟩
  | succ n ih => exact ih _

theorem Settled.signalTimes {c : AbortChannel} (h : c.Settled) (hc : c.isInitialized = true)
    (n : Nat) : (c.signalTimes (n + 1)).1 = .ok () ∧ (c.signalTimes (n + 1)).2.1 = rung := by
  rcases h.of_isInitialized hc with rfl | rfl
  · exact signalTimes_go_rung n _
  · exact signalTimes_go_rung (n + 1) _

/-- A drain says how many bytes it has read. -/
theorem clearPendingSignals_of_some {c : AbortChannel} {d : Doorbell} (h : c.doorbell = some d) :
    c.clearPendingSignals =
      (.ok (), silent, if d.buffered = 0 then [] else [.signalsCleared d.buffered]) := by
  rw [clearPendingSignals, h]
  simp only [d.drain_eq]
  rfl

/-- What comes of a request is one of the turns. -/
theorem Settled.turn {c : AbortChannel} (h : c.Settled) (q : Request) :
    Turn c q (c.perform q).1 (c.perform q).2.1 := by
  by_cases hc : c.isInitialized = true
  · obtain ⟨d, hd⟩ := Option.isSome_iff_exists.1 hc
    cases q with
    | init =>
      rw [perform, AbortChannel.init, if_pos hc]
      exact .initAgain hc
    | destroy =>
      rw [perform, AbortChannel.destroy, if_pos hc]
      exact .destroy c
    | signal times =>
      cases times with
      | zero => exact .signalNone c
      | succ n =>
        obtain ⟨hresult, hafter⟩ := h.signalTimes hc n
        rw [perform, hresult, hafter]
        exact .signal n hc
    | clear =>
      rw [perform, clearPendingSignals_of_some hd]
      exact .clear hc
    | readyHandle =>
      rw [perform, AbortChannel.readyHandle, if_pos hc]
      exact .ask hc (.inl rfl)
    | isPending =>
      rw [perform, AbortChannel.isPending, hd]
      exact .ask hc (.inr (.inl rfl))
    | buffered =>
      rw [perform, AbortChannel.buffered, hd]
      exact .ask hc (.inr (.inr rfl))
  · cases h.eq_fresh hc
    cases q with
    | init => exact .init
    | destroy => exact .destroy fresh
    | signal times =>
      cases times with
      | zero => exact .signalNone fresh
      | succ n => exact .refuse (by simp) (by simp) (by simp)
    | clear | readyHandle | isPending | buffered => exact .refuse (by simp) (by simp) (by simp)

theorem Turn.settled {c c' : AbortChannel} {q : Request} {answer : Except TransmitError Answer}
    (h : Turn c q answer c') (hc : c.Settled) : c'.Settled := by
  cases h with
  | init | clear => exact .quiet
  | signal => exact .pending
  | destroy => exact .gone
  | initAgain | signalNone | ask | refuse => exact hc

/-! ## What a history tells -/

/-- A channel is what its history says. -/
structure Tells (history : List Exchange) (c : AbortChannel) : Prop where
  settled : c.Settled
  isInitialized : c.isInitialized = true ↔ Since Exchange.Inits Exchange.Destroys history
  pending : c.isInitialized = true →
    (c.pending = true ↔ Since Exchange.Signals Exchange.Resets history)

theorem Tells.nil : Tells [] fresh where
  settled := .gone
  isInitialized := by simp [not_since_nil]
  pending h := by cases h

/-- A turn is told by the exchange that is added for it. -/
theorem Tells.concat {history : List Exchange} {c c' : AbortChannel} {q : Request}
    {answer : Except TransmitError Answer} (h : Tells history c) (hturn : Turn c q answer c') :
    Tells (history ++ [⟨q, answer⟩]) c' := by
  obtain ⟨hsettled, hinit, hpending⟩ := h
  refine ⟨hturn.settled hsettled, ?_, ?_⟩
  · rw [since_concat, ← hinit]
    cases hturn with
    | init => simp [Exchange.Inits]
    | destroy => simp [Exchange.Inits, Exchange.Destroys]
    | signal n hc | clear hc => simp [Exchange.Destroys, hc]
    | initAgain hc => simp [Exchange.Destroys, hc]
    | signalNone => simp [Exchange.Inits, Exchange.Destroys]
    | refuse hq => simp [Exchange.Inits, hq]
    | ask hc hq => rcases hq with rfl | rfl | rfl <;> simp [Exchange.Destroys, hc]
  · intro hc'
    rw [since_concat]
    cases hturn with
    | init => simp [Exchange.Signals, Exchange.Resets, Exchange.Inits, silent]
    | destroy => cases hc'
    | signal n hc => simp [Exchange.Signals, rung]
    | clear hc => simp [Exchange.Signals, Exchange.Resets, silent]
    | initAgain | signalNone =>
      rw [hpending hc']
      simp [Exchange.Signals, Exchange.Resets, Exchange.Inits]
    | ask hc hq =>
      rw [hpending hc']
      rcases hq with rfl | rfl | rfl <;>
        simp [Exchange.Signals, Exchange.Resets, Exchange.Inits]
    | refuse => cases hc'

theorem Tells.run {history : List Exchange} {c : AbortChannel} (h : Tells history c)
    (requests : List Request) : Tells (history ++ (c.run requests).1) (c.run requests).2 := by
  induction requests generalizing history c with
  | nil => rwa [AbortChannel.run, List.append_nil]
  | cons q requests ih =>
    rw [run_cons, List.append_cons]
    exact ih (h.concat (h.settled.turn q))

/-- The flag of a settled channel says how many bytes wait. -/
theorem Settled.buffered_eq {c : AbortChannel} (h : c.Settled) (hc : c.isInitialized = true) :
    c.buffered = .ok (if c.pending then 1 else 0) ∧ c.isPending = .ok c.pending := by
  rcases h.of_isInitialized hc with rfl | rfl <;> exact ⟨rfl, rfl⟩

theorem perform_init_of_isInitialized {c : AbortChannel} (hc : c.isInitialized = true) :
    c.perform .init = (.error .alreadyInitialized, c, []) := by
  rw [perform, init, if_pos hc]
  rfl

theorem Settled.exists_answer {c : AbortChannel} (h : c.Settled) (hc : c.isInitialized = true)
    {q : Request} (hq : q ≠ .init) : ∃ answer, (c.perform q).1 = .ok answer := by
  have hturn := h.turn q
  generalize (c.perform q).1 = result, (c.perform q).2.1 = c' at hturn
  cases hturn with
  | init | initAgain => exact absurd rfl hq
  | refuse => cases hc
  | _ => exact ⟨_, rfl⟩

theorem perform_fresh {q : Request} (hinit : q ≠ .init) (hdestroy : q ≠ .destroy)
    (hsignal : q ≠ .signal 0) : fresh.perform q = (.error .abortNotInitialized, fresh, []) := by
  cases q with
  | init => exact absurd rfl hinit
  | destroy => exact absurd rfl hdestroy
  | signal times =>
    cases times with
    | zero => exact absurd rfl hsignal
    | succ n => rfl
  | clear | readyHandle | isPending | buffered => rfl

theorem Settled.perform_destroy {c : AbortChannel} (h : c.Settled) :
    (c.perform .destroy).1 = .ok .done ∧ (c.perform .destroy).2.1 = fresh := by
  cases h <;> exact ⟨rfl, rfl⟩

/-- **Signals coalesce.** Let a new channel answer any requests, one at a time.

It has a doorbell if it was initialised and not destroyed since. Then it cannot be initialised
again, and nothing else fails; the flag says whether a byte waits, there is at most one, and it
waits if somebody has signalled since the channel was initialised or drained. A drain reads just
that byte. Without a doorbell the channel is as new, and only an initialisation and a destruction
succeed. A destruction makes it as new in any case, so that what was before does not matter. -/
theorem signals_coalesce (requests : List Request) :
    let history := (fresh.run requests).1
    let c := (fresh.run requests).2
    (c.isInitialized = true ↔ Since Exchange.Inits Exchange.Destroys history) ∧
      (c.isInitialized = true →
        c.buffered = .ok (if c.pending then 1 else 0) ∧ c.isPending = .ok c.pending ∧
          (c.pending = true ↔ Since Exchange.Signals Exchange.Resets history) ∧
          c.perform .init = (.error .alreadyInitialized, c, []) ∧
          (∀ q, q ≠ .init → ∃ answer, (c.perform q).1 = .ok answer) ∧
          ∃ d, c.doorbell = some d ∧ d.drain = (.ok d.buffered, .fresh) ∧
            (c.perform .clear).2.1 = silent) ∧
      (c.isInitialized = false →
        c = fresh ∧ (c.perform .init).1 = .ok .done ∧ (c.perform .destroy).1 = .ok .done ∧
          ∀ q, q ≠ .init → q ≠ .destroy → q ≠ .signal 0 →
            c.perform q = (.error .abortNotInitialized, c, [])) ∧
      ∀ later, fresh.run (requests ++ .destroy :: later) =
        (history ++ ⟨.destroy, .ok .done⟩ :: (fresh.run later).1, (fresh.run later).2) := by
  intro history c
  obtain ⟨hsettled, hinit, hpending⟩ := Tells.nil.run requests
  rw [List.nil_append] at hinit hpending
  refine ⟨hinit, fun hc ↦ ?_, fun hc ↦ ?_, fun later ↦ ?_⟩
  · obtain ⟨hbuffered, hasked⟩ := hsettled.buffered_eq hc
    refine ⟨hbuffered, hasked, hpending hc, perform_init_of_isInitialized hc,
      fun q ↦ hsettled.exists_answer hc, ?_⟩
    obtain ⟨d, hd⟩ := Option.isSome_iff_exists.1 hc
    refine ⟨d, hd, d.drain_eq, ?_⟩
    have hclear : c.clearPendingSignals = _ := clearPendingSignals_of_some hd
    rw [perform, hclear]
  · have hfresh : c = fresh := hsettled.eq_fresh (by simp [c, hc])
    rw [hfresh]
    exact ⟨rfl, rfl, rfl, fun q ↦ perform_fresh⟩
  · obtain ⟨hanswer, hafter⟩ := hsettled.perform_destroy
    rw [run_append, run_cons, hanswer, hafter]

end AbortChannel

end StreamRtp
