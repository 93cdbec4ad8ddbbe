import StreamRtp.Abort.Doorbell
import StreamRtp.Log

/-!
# Abort channels

An abort channel wakes a thread that is blocked in a readiness wait. Its doorbell is among the
handles of the wait; a signal rings it, and the thread that was woken drains it, so that its next
wait blocks again. One channel may serve several engines.

## Coalescing

Signals that nobody has answered yet count as one. The flag `pending` says that a signal is on its
way: only the signal that raises it rings the doorbell. Draining lowers the flag first and empties
the doorbell afterwards, so a signal that comes in between rings anew. If the same drain still reads
the byte, the flag stays up over an empty doorbell, and no later signal rings.

## Steps

`signal` and `clearPendingSignals` are each made of the small steps `raise`, `ringDoorbell`,
`lower`, `lookAtDoorbell` and `answerDoorbell`. Threads that share a channel may interleave at these
steps, and nowhere else.

## Failures

Every call to the doorbell may fail. A signal whose byte cannot be written takes the flag back. A
drain does not: it has lowered the flag for good when it begins to read.
-/

namespace StreamRtp

/-- A reusable wake-up call for readiness waits. -/
structure AbortChannel where
  /-- The doorbell, from `init` to `destroy`. -/
  doorbell : Option Doorbell
  /-- Whether a signal is outstanding. -/
  pending : Bool
  deriving DecidableEq, Repr

namespace AbortChannel

/-- A channel that was never initialised. -/
def fresh : AbortChannel := ⟨none, false⟩

/-- Whether the channel has a doorbell. -/
def isInitialized (c : AbortChannel) : Bool := c.doorbell.isSome

/-! ## Steps -/

/-- Raise the flag. It says whether the flag was up already. -/
def raise (c : AbortChannel) : Bool × AbortChannel := (c.pending, { c with pending := true })

/-- Lower the flag. -/
def lower (c : AbortChannel) : AbortChannel := { c with pending := false }

/-- Ring the doorbell. It says whether there was room for the byte. -/
def ringDoorbell (c : AbortChannel) (mishap : Option IoError := none) :
    Except IoError Bool × AbortChannel :=
  match c.doorbell with
  | some d => ((d.ring mishap).1, { c with doorbell := some (d.ring mishap).2 })
  | none => (.ok false, c)

/-- Whether a byte waits at the doorbell. -/
def isRung (c : AbortChannel) : Bool := c.doorbell.any (·.isReadable)

/-- Ask whether a byte waits at the doorbell. -/
def lookAtDoorbell (c : AbortChannel) (mishap : Option IoError := none) : Except IoError Bool :=
  match c.doorbell with
  | some d => d.look mishap
  | none => .ok false

/-- Read a byte from the doorbell. -/
def answerDoorbell (c : AbortChannel) (mishap : Option IoError := none) :
    Except IoError Unit × AbortChannel :=
  match c.doorbell with
  | some d => ((d.answer mishap).1, { c with doorbell := some (d.answer mishap).2 })
  | none => (.ok (), c)

/-! ## Operations

An operation returns its result, the channel afterwards, and what it logged. -/

/-- Make a doorbell. A channel that has one is left as it is. -/
def init (c : AbortChannel) (mishap : Option IoError := none) :
    Except TransmitError Unit × AbortChannel × List LogEntry :=
  if c.isInitialized then (.error .alreadyInitialized, c, [])
  else
    match mishap with
    | some e => (.error (.initialization e), c, [])
    | none => (.ok (), ⟨some .fresh, false⟩, [.abortChannelInitialized])

/-- Give the doorbell up. Nothing happens if there is none. -/
def destroy (c : AbortChannel) : AbortChannel × List LogEntry :=
  if c.isInitialized then (fresh, [.abortChannelDestroyed]) else (c, [])

/-- Make the channel pending. -/
def signal (c : AbortChannel) (mishap : Option IoError := none) :
    Except TransmitError Unit × AbortChannel × List LogEntry :=
  if c.isInitialized then
    match c.raise with
    | (true, c) => (.ok (), c, [.signalCoalesced])
    | (false, c) =>
      match c.ringDoorbell mishap with
      | (.ok true, c) => (.ok (), c, [])
      | (.ok false, c) => (.ok (), c, [.signalBufferFull])
      | (.error e, c) => (.error (.io e), c.lower, [])
  else (.error .abortNotInitialized, c, [])

/-- Signal several times, up to the first failure. -/
def signalTimes (c : AbortChannel) (times : Nat) :
    Except TransmitError Unit × AbortChannel × List LogEntry :=
  go c times []
where
  /-- Signal so many times more, with what has been logged so far, the latest first. -/
  go (c : AbortChannel) :
      Nat → List LogEntry → Except TransmitError Unit × AbortChannel × List LogEntry
    | 0, log => (.ok (), c, log.reverse)
    | n + 1, log =>
      match c.signal with
      | (.error e, c, more) => (.error e, c, (more.reverse ++ log).reverse)
      | (.ok (), c, more) => go c n (more.reverse ++ log)

/-- Lower the flag and empty the doorbell. -/
def clearPendingSignals (c : AbortChannel) (mishaps : Mishaps := []) :
    Except TransmitError Unit × AbortChannel × List LogEntry :=
  match c.doorbell with
  | none => (.error .abortNotInitialized, c, [])
  | some d =>
    match d.drain mishaps with
    | (.error e, d) => (.error (.io e), { c.lower with doorbell := some d }, [])
    | (.ok drained, d) =>
      (.ok (), { c.lower with doorbell := some d },
        if drained = 0 then [] else [.signalsCleared drained])

/-- Whether a signal waits to be drained. -/
def isPending (c : AbortChannel) (mishap : Option IoError := none) : Except TransmitError Bool :=
  match c.doorbell with
  | none => .error .abortNotInitialized
  | some d => (d.look mishap).mapError .io

/-- The bytes that wait at the doorbell. -/
def buffered (c : AbortChannel) : Except TransmitError Nat :=
  match c.doorbell with
  | none => .error .abortNotInitialized
  | some d => .ok d.buffered

/-- Whether the channel can be put among the handles of a wait. -/
def readyHandle (c : AbortChannel) : Except TransmitError Unit :=
  if c.isInitialized then .ok () else .error .abortNotInitialized

/-- How the handle of the channel looks to a wait that took it earlier: rung, or given up in the
meantime, which counts as readable too. -/
def wakes (c : AbortChannel) : Bool := c.doorbell.all (·.isReadable)

/-! ## Requests

The operations as data, so that a history of a channel is a list. The system does what it is asked
for. -/

/-- What can be asked of a channel. -/
inductive Request where
  | init
  | destroy
  | signal (times : Nat)
  | clear
  | readyHandle
  | isPending
  | buffered
  deriving DecidableEq, Repr

/-- The answer to a request that did not fail. -/
inductive Answer where
  | done
  | flag (value : Bool)
  | number (value : Nat)
  deriving DecidableEq, Repr

/-- Answer a request. -/
def perform (c : AbortChannel) :
    Request → Except TransmitError Answer × AbortChannel × List LogEntry
  | .init => (c.init.1.map fun _ ↦ .done, c.init.2)
  | .destroy => (.ok .done, c.destroy)
  | .signal times => ((c.signalTimes times).1.map fun _ ↦ .done, (c.signalTimes times).2)
  | .clear => (c.clearPendingSignals.1.map fun _ ↦ .done, c.clearPendingSignals.2)
  | .readyHandle => (c.readyHandle.map fun _ ↦ .done, c, [])
  | .isPending => (c.isPending.map .flag, c, [])
  | .buffered => (c.buffered.map .number, c, [])

end AbortChannel

end StreamRtp
