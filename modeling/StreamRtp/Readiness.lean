import StreamRtp.Io.Error

/-!
# Waiting for readiness

A readiness wait is given handles and a timeout, and says which handles can be read. Everything that
makes a read return at once counts as readable: waiting bytes, the end of the stream, an error, and
a number that is no open descriptor, so that the following read brings the failure to light.

## Timeouts

The system waits for a whole number of milliseconds. `Duration.pollMilliseconds` cuts a timeout to
microseconds and rounds these up, so that a short timeout of at least one microsecond does not turn
a wait into a spin, and stays below the largest number that the system takes.
-/

namespace StreamRtp

/-- A span of time. -/
structure Duration where
  nanoseconds : Nat
  deriving DecidableEq, Repr

namespace Duration

/-- No time at all. -/
def zero : Duration := ⟨0⟩

/-- The given number of microseconds. -/
def ofMicroseconds (n : Nat) : Duration := ⟨1000 * n⟩

/-- The given number of milliseconds. -/
def ofMilliseconds (n : Nat) : Duration := ⟨1000000 * n⟩

/-- The given number of seconds. -/
def ofSeconds (n : Nat) : Duration := ⟨1000000000 * n⟩

/-- The whole microseconds of a duration. -/
def microseconds (d : Duration) : Nat := d.nanoseconds / 1000

/-- The whole milliseconds of a duration. -/
def milliseconds (d : Duration) : Nat := d.nanoseconds / 1000000

/-- The largest timeout the system takes, in milliseconds. -/
def maxPollMilliseconds : Nat := 2147483647

/-- The timeout handed to the system for a duration. -/
def pollMilliseconds (d : Duration) : Nat :=
  min ((d.microseconds + 999) / 1000) maxPollMilliseconds

end Duration

/-- The answer of a readiness wait: how many handles are ready, and a flag per handle. -/
structure Readiness where
  count : Nat
  flags : List Bool
  deriving DecidableEq, Repr

namespace Readiness

/-- The answer that counts its flags. -/
def ofFlags (flags : List Bool) : Readiness := ⟨flags.count true, flags⟩

/-- A list of exactly `n` flags: what is missing is not ready, what is too much is dropped. -/
def fit : (n : Nat) → List Bool → List Bool
  | 0, _ => []
  | n + 1, [] => false :: fit n []
  | n + 1, flag :: flags => flag :: fit n flags

@[simp] theorem length_fit (n : Nat) (flags : List Bool) : (fit n flags).length = n := by
  induction n generalizing flags with
  | zero => rfl
  | succ n ih => cases flags <;> simp [fit, ih]

end Readiness

/-! ## Descriptors -/

/-- What a number stands for that is handed to the system as a handle. -/
inductive Descriptor where
  /-- An open stream: the bytes that wait to be read, and whether the peer has ended it. -/
  | stream (pending : Nat) (ended : Bool)
  /-- No open descriptor. -/
  | unknown
  /-- A negative number, which a wait passes over. -/
  | passedOver
  deriving DecidableEq, Repr

namespace Descriptor

/-- Whether a wait reports a descriptor as readable. -/
def isReadable : Descriptor → Bool
  | stream pending ended => 0 < pending || ended
  | unknown => true
  | passedOver => false

/-- The number of bytes that can be read without waiting. -/
def bytesAvailable : Descriptor → Except IoError Nat
  | stream pending _ => .ok pending
  | unknown | passedOver => .error (.os 9)

end Descriptor

/-- How a wait of the system ends. -/
inductive PollOutcome where
  /-- It found the handles in these conditions. -/
  | found (handles : List Descriptor)
  /-- It was interrupted while it looked at so many handles. -/
  | interrupted (handles : Nat)
  | failed (cause : IoError)

/-- What a wait of the system reports. An interrupted wait reports that nothing is ready. -/
def PollOutcome.report : PollOutcome → Except IoError Readiness
  | found handles => .ok (.ofFlags (handles.map (·.isReadable)))
  | interrupted handles => .ok (.ofFlags (List.replicate handles false))
  | failed cause => .error cause

end StreamRtp
