import StreamRtp.Error
import StreamRtp.Filter

/-!
# What is logged

Everything that the library reports for the log is a value, so that a run can be compared by what it
logged. The wording is kept apart in `LogEntry.record`: a level, a message and named fields.
-/

namespace StreamRtp

/-- How important a record is. -/
inductive LogLevel where
  | trace
  | debug
  | info
  | warn
  deriving DecidableEq, Repr

/-- The name of a level. -/
def LogLevel.name : LogLevel → String
  | trace => "TRACE"
  | debug => "DEBUG"
  | info => "INFO"
  | warn => "WARN"

/-- A log record in its final form. -/
structure LogRecord where
  level : LogLevel
  message : String
  fields : List (String × String)
  deriving DecidableEq, Repr

/-- What the engine and the abort channels report. -/
inductive LogEntry where
  | abortChannelInitialized
  | abortChannelDestroyed
  /-- A signal met one that is still outstanding. -/
  | signalCoalesced
  /-- A signal met a full buffer. -/
  | signalBufferFull
  | signalsCleared (drained : Nat)
  | oversizedFrame (declared limit : Nat)
  | transmitterInitialized (threadSafe : Bool)
  | transmitterCreated (maxPacketSize : Nat) (externalAbort : Bool)
  | releasingState (destinations queued : Nat)
  | transmitterDestroyed
  | destinationAdded (id : ConnectionId) (total : Nat)
  | destinationRemoved (id : ConnectionId) (total : Nat)
  | destinationsCleared
  | frameQueued (id : ConnectionId) (length : Nat)
  | frameRejected (id : ConnectionId) (length : Nat)
  | droppingConnection (id : ConnectionId) (reason : DropReason)
  | receiveModeChanged (mode : ReceiveMode)
  | maximumChanged (size : Nat)
  | waitFinished (ready : Nat) (aborted available : Bool)
  deriving DecidableEq, Repr

namespace LogEntry

/-- The wording of an entry. -/
def record : LogEntry → LogRecord
  | abortChannelInitialized => ⟨.debug, "abort channel initialized", []⟩
  | abortChannelDestroyed => ⟨.debug, "abort channel destroyed", []⟩
  | signalCoalesced => ⟨.trace, "abort signal coalesced", []⟩
  | signalBufferFull => ⟨.trace, "abort channel buffer full, already signalled", []⟩
  | signalsCleared drained => ⟨.trace, "abort signals cleared", [("drained", toString drained)]⟩
  | oversizedFrame declared limit =>
    ⟨.trace, "oversized frame announced",
      [("declared", toString declared), ("max", toString limit)]⟩
  | transmitterInitialized threadSafe =>
    ⟨.debug, "transmitter initialized", [("thread_safe", toString threadSafe)]⟩
  | transmitterCreated maxPacketSize externalAbort =>
    ⟨.debug, "transmitter created",
      [("max_packet_size", toString maxPacketSize), ("external_abort", toString externalAbort)]⟩
  | releasingState destinations queued =>
    ⟨.debug, "releasing transmitter state",
      [("destinations", toString destinations), ("queued", toString queued)]⟩
  | transmitterDestroyed => ⟨.debug, "transmitter destroyed", []⟩
  | destinationAdded id total =>
    ⟨.debug, "destination added", [("id", id.text), ("total", toString total)]⟩
  | destinationRemoved id total =>
    ⟨.debug, "destination removed", [("id", id.text), ("total", toString total)]⟩
  | destinationsCleared => ⟨.debug, "destinations cleared", []⟩
  | frameQueued id length =>
    ⟨.trace, "frame queued", [("id", id.text), ("len", toString length)]⟩
  | frameRejected id length =>
    ⟨.trace, "frame rejected by receive filter", [("id", id.text), ("len", toString length)]⟩
  | droppingConnection id reason =>
    ⟨.warn, "dropping connection", [("id", id.text), ("error", reason.message)]⟩
  | receiveModeChanged mode => ⟨.debug, "receive mode changed", [("mode", mode.name)]⟩
  | maximumChanged size => ⟨.debug, "maximum packet size changed", [("size", toString size)]⟩
  | waitFinished ready aborted available =>
    ⟨.trace, "wait finished",
      [("ready", toString ready), ("aborted", toString aborted),
       ("available", toString available)]⟩

end LogEntry

end StreamRtp
