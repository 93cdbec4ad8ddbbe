import StreamRtp.Abort.Channel

/-!
# How signals and drains end

What can come of the operations of an abort channel that turn to the system, whatever the system
answers. An initialisation and a signal that fail leave the channel as it was. A drain that fails
does not: the flag is down by then, and some of the bytes may have been read.

`InitEnds`, `SignalEnds` and `DrainEnds` list the cases. Nothing else about the three operations is
needed by those who use them.
-/

namespace StreamRtp

namespace Doorbell

/-- In a system without failures a drain reads every byte that waits and leaves none. -/
theorem drain_eq (d : Doorbell) : d.drain = (.ok d.buffered, .fresh) := by
  obtain ⟨n⟩ := d
  induction n with
  | zero => exact drain_of_silent rfl
  | succ n ih =>
    have hread : (⟨n + 1⟩ : Doorbell).answer = (.ok (), ⟨n⟩) := rfl
    rw [drain_of_read rfl hread, Mishaps.rest_nil, Mishaps.rest_nil, ih]
    rfl

theorem buffered_answer_le (d : Doorbell) (mishap : Option IoError) :
    (d.answer mishap).2.buffered ≤ d.buffered := by
  cases mishap with
  | none => exact Nat.sub_le ..
  | some e => exact Nat.le_refl _

/-- A drain writes nothing. -/
theorem buffered_drain_le (d : Doorbell) (mishaps : Mishaps) :
    (d.drain mishaps).2.buffered ≤ d.buffered := by
  -- Every round uses up two answers of the system, or a byte.
  induction d, mishaps using drain.induct with
  | case1 d mishaps e hlook => exact Nat.le_of_eq (by rw [drain_of_blind hlook])
  | case2 d mishaps hlook => exact Nat.le_of_eq (by rw [drain_of_silent hlook])
  | case3 d mishaps hlook read e hread =>
    rw [drain_of_stuck hlook (Prod.ext hread rfl)]
    exact d.buffered_answer_le _
  | case4 d mishaps hlook read hread ih =>
    rw [drain_of_read hlook (Prod.ext hread rfl)]
    exact Nat.le_trans ih (d.buffered_answer_le _)

end Doorbell

namespace AbortChannel

variable {c : AbortChannel} {mishap : Option IoError} {mishaps : Mishaps}

/-- What can come of an initialisation: its result, the channel afterwards, and what was logged. -/
inductive InitEnds (c : AbortChannel) (mishap : Option IoError) :
    Except TransmitError Unit × AbortChannel × List LogEntry → Prop
  /-- There is a doorbell already. -/
  | again (hc : c.isInitialized = true) : InitEnds c mishap (.error .alreadyInitialized, c, [])
  | made (hc : c.isInitialized = false) (hmishap : mishap = none) :
    InitEnds c mishap (.ok (), ⟨some .fresh, false⟩, [.abortChannelInitialized])
  /-- There is no pair to be had. -/
  | failed (e : IoError) (hc : c.isInitialized = false) (hmishap : mishap = some e) :
    InitEnds c mishap (.error (.initialization e), c, [])

theorem initEnds (c : AbortChannel) (mishap : Option IoError) :
    InitEnds c mishap (c.init mishap) := by
  obtain ⟨doorbell, pending⟩ := c
  cases doorbell with
  | some d => exact .again rfl
  | none =>
    cases mishap with
    | none => exact .made rfl rfl
    | some e => exact .failed e rfl rfl

/-- What can come of a signal: its result, the channel afterwards, and what was logged. -/
inductive SignalEnds (c : AbortChannel) (mishap : Option IoError) :
    Except TransmitError Unit × AbortChannel × List LogEntry → Prop
  /-- There is no doorbell. -/
  | mute (hc : c.isInitialized = false) : SignalEnds c mishap (.error .abortNotInitialized, c, [])
  /-- Another signal is on its way. -/
  | coalesced (hc : c.isInitialized = true) (hpending : c.pending = true) :
    SignalEnds c mishap (.ok (), c, [.signalCoalesced])
  | rang (d : Doorbell) (hd : c.doorbell = some d) (hpending : c.pending = false)
    (hmishap : mishap = none) : SignalEnds c mishap (.ok (), ⟨some ⟨d.buffered + 1⟩, true⟩, [])
  /-- The pair is full. -/
  | full (e : IoError) (hc : c.isInitialized = true) (hpending : c.pending = false)
    (hmishap : mishap = some e) (he : e.kind = .wouldBlock) :
    SignalEnds c mishap (.ok (), { c with pending := true }, [.signalBufferFull])
  /-- The byte cannot be written, and the flag is taken back. -/
  | failed (e : IoError) (hc : c.isInitialized = true) (hpending : c.pending = false)
    (hmishap : mishap = some e) (he : e.kind ≠ .wouldBlock) :
    SignalEnds c mishap (.error (.io e), c, [])

theorem signalEnds (c : AbortChannel) (mishap : Option IoError) :
    SignalEnds c mishap (c.signal mishap) := by
  obtain ⟨doorbell, pending⟩ := c
  cases doorbell with
  | none => exact .mute rfl
  | some d =>
    cases pending with
    | true => exact .coalesced rfl rfl
    | false =>
      cases mishap with
      | none => exact .rang d rfl rfl rfl
      | some e =>
        by_cases he : e.kind = .wouldBlock
        · have hring : d.ring (some e) = (.ok false, d) := by rw [Doorbell.ring, if_pos he]
          have hfull := SignalEnds.full (c := ⟨some d, false⟩) e rfl rfl rfl he
          simpa [signal, isInitialized, raise, ringDoorbell, hring] using hfull
        · have hring : d.ring (some e) = (.error e, d) := by rw [Doorbell.ring, if_neg he]
          have hfailed := SignalEnds.failed (c := ⟨some d, false⟩) e rfl rfl rfl he
          simpa [signal, isInitialized, raise, ringDoorbell, hring, lower] using hfailed

/-- What can come of a drain: its result, the channel afterwards, and what was logged. -/
inductive DrainEnds (c : AbortChannel) (mishaps : Mishaps) :
    Except TransmitError Unit × AbortChannel × List LogEntry → Prop
  /-- There is no doorbell. -/
  | mute (hc : c.isInitialized = false) : DrainEnds c mishaps (.error .abortNotInitialized, c, [])
  | drained (d d' : Doorbell) (n : Nat) (hd : c.doorbell = some d)
    (hdrain : d.drain mishaps = (.ok n, d')) :
    DrainEnds c mishaps (.ok (), ⟨some d', false⟩, if n = 0 then [] else [.signalsCleared n])
  /-- A call fails in the midst of the drain. -/
  | failed (d d' : Doorbell) (e : IoError) (hd : c.doorbell = some d)
    (hdrain : d.drain mishaps = (.error e, d')) :
    DrainEnds c mishaps (.error (.io e), ⟨some d', false⟩, [])

theorem drainEnds (c : AbortChannel) (mishaps : Mishaps) :
    DrainEnds c mishaps (c.clearPendingSignals mishaps) := by
  obtain ⟨doorbell, pending⟩ := c
  cases doorbell with
  | none => exact .mute rfl
  | some d =>
    rw [clearPendingSignals]
    dsimp only
    rcases hdrain : d.drain mishaps with ⟨⟨e⟩ | ⟨n⟩, d'⟩
    · exact .failed d d' e rfl hdrain
    · exact .drained d d' n rfl hdrain

/-- What the second step of a signal can leave: the doorbell has been rung, or the flag was taken
back. -/
def Rings (c c' : AbortChannel) : Prop :=
  ∃ mishap, c' = (c.ringDoorbell mishap).2 ∨ c' = (c.ringDoorbell mishap).2.lower

theorem isInitialized_ringDoorbell (c : AbortChannel) (mishap : Option IoError) :
    (c.ringDoorbell mishap).2.isInitialized = c.isInitialized := by
  obtain ⟨doorbell, pending⟩ := c
  cases doorbell <;> rfl

theorem Rings.isInitialized {c c' : AbortChannel} (h : c.Rings c') :
    c'.isInitialized = c.isInitialized := by
  obtain ⟨mishap, rfl | rfl⟩ := h
  · exact c.isInitialized_ringDoorbell mishap
  · exact c.isInitialized_ringDoorbell mishap

theorem isInitialized_answerDoorbell (c : AbortChannel) (mishap : Option IoError) :
    (c.answerDoorbell mishap).2.isInitialized = c.isInitialized := by
  obtain ⟨doorbell, pending⟩ := c
  cases doorbell <;> rfl

/-- A signal neither makes a doorbell nor gives one up. -/
theorem isInitialized_signal (c : AbortChannel) (mishap : Option IoError) :
    (c.signal mishap).2.1.isInitialized = c.isInitialized := by
  have hends := c.signalEnds mishap
  generalize c.signal mishap = out at hends
  cases hends with
  | mute | coalesced | full | failed => rfl
  | rang d hd => exact (congrArg Option.isSome hd).symm

/-- A drain neither makes a doorbell nor gives one up. -/
theorem isInitialized_clearPendingSignals (c : AbortChannel) (mishaps : Mishaps) :
    (c.clearPendingSignals mishaps).2.1.isInitialized = c.isInitialized := by
  have hends := c.drainEnds mishaps
  generalize c.clearPendingSignals mishaps = out at hends
  cases hends with
  | mute => rfl
  | drained d d' n hd | failed d d' e hd => exact (congrArg Option.isSome hd).symm

end AbortChannel

end StreamRtp
