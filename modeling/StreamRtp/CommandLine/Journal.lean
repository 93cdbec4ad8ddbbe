import StreamRtp.Network
import StreamRtp.Packet
import StreamRtp.Rtp.Source

/-!
# The journal of a command

Everything that happens while a command runs, in order: the events of its engine and what the
command itself reports. The part of it that is logged is a list of records.
-/

namespace StreamRtp.CommandLine

/-- What a command reports for the log. -/
inductive Notice where
  /-- A source of media packets was set up. -/
  | sourceCreated (payloadType : UInt8) (ssrc : UInt32)
  | sending (id : ConnectionId) (address : String) (ssrc : UInt32) (count : Nat)
  /-- A packet came back from the peer. -/
  | echoReceived (packet : Packet)
  /-- All packets have been sent. -/
  | done (sent echoed : Nat) (nextSequence : UInt16)
  | listening (address : String) (echo : Bool) (maxPacketSize : Nat)
  | clientConnected (id : ConnectionId) (peer : String)
  | wakeFailed (cause : TransmitError)
  | clientRejected (peer : String) (cause : TransmitError)
  | acceptFailed (cause : IoError)
  /-- A packet was taken out of the queue. -/
  | packetReceived (packet : Packet)
  | echoFailed (cause : TransmitError)
  | stopped (packets : Nat)
  | clientDisconnected (id : ConnectionId) (reason : DropReason)
  | acceptLoopEnded
  deriving DecidableEq, Repr

namespace Notice

/-- The hexadecimal digits of a source identifier. -/
def hexadecimal (ssrc : UInt32) : String :=
  let digits := (Nat.toDigits 16 ssrc.toNat).map Char.toUpper
  "0x" ++ String.ofList (List.replicate (8 - digits.length) '0' ++ digits)

/-- How a sequence number shows that may be missing. -/
def optional : Option UInt16 → String
  | none => "None"
  | some n => "Some(" ++ toString n.toNat ++ ")"

/-- The wording of a report. Only media packets are shown with a number, but whatever comes back to
a sender is taken for one. -/
def record : Notice → LogRecord
  | sourceCreated payloadType ssrc =>
    ⟨.debug, "RTP source created",
      [("pt", toString payloadType.toNat), ("ssrc", hexadecimal ssrc)]⟩
  | sending id address ssrc count =>
    ⟨.info, "sending",
      [("id", id.text), ("addr", address), ("ssrc", hexadecimal ssrc), ("count", toString count)]⟩
  | echoReceived packet =>
    ⟨.debug, "echo received",
      [("len", toString packet.length), ("seq", optional (Rtp.sequenceOf packet.data))]⟩
  | done sent echoed nextSequence =>
    ⟨.info, "done",
      [("sent", toString sent), ("echoed", toString echoed),
       ("next_seq", toString nextSequence.toNat)]⟩
  | listening address echo maxPacketSize =>
    ⟨.info, "listening",
      [("addr", address), ("echo", toString echo), ("max_packet_size", toString maxPacketSize)]⟩
  | clientConnected id peer => ⟨.info, "client connected", [("id", id.text), ("peer", peer)]⟩
  | wakeFailed cause => ⟨.warn, "failed to wake receiver", [("error", cause.message)]⟩
  | clientRejected peer cause =>
    ⟨.warn, "rejecting client", [("peer", peer), ("error", cause.message)]⟩
  | acceptFailed cause => ⟨.warn, "TCP accept error", [("error", cause.message)]⟩
  | packetReceived packet =>
    ⟨.info, "packet received",
      [("source", packet.source.text), ("len", toString packet.length),
       ("kind", packet.kind.name),
       ("seq", optional ((Rtp.sequenceOf packet.data).filter fun _ ↦ packet.isRtp))]⟩
  | echoFailed cause => ⟨.warn, "echo failed", [("error", cause.message)]⟩
  | stopped packets => ⟨.info, "stopped", [("packets", toString packets)]⟩
  | clientDisconnected id reason =>
    ⟨.info, "client disconnected", [("id", id.text), ("reason", reason.message)]⟩
  | acceptLoopEnded => ⟨.debug, "accept loop exited", []⟩

end Notice

/-- One thing that happens while a command runs. -/
inductive Activity (σ : Type) where
  /-- An event of the engine. -/
  | event (e : Event σ)
  /-- A report of the command. -/
  | notice (n : Notice)

namespace Activity

variable {σ : Type}

/-- What is logged of it. A dropped connection is logged by the error hook. -/
def record? : Activity σ → Option LogRecord
  | event (.hook id reason) => some (Notice.clientDisconnected id reason).record
  | event e => e.entry?.map LogEntry.record
  | notice n => some n.record

end Activity

/-- A journal, the last activity first. -/
abbrev Journal (σ : Type) := List (Activity σ)

namespace Journal

variable {σ : Type}

/-- Add the events of a call. -/
def events (j : Journal σ) (es : List (Event σ)) : Journal σ :=
  es.foldl (fun j e ↦ .event e :: j) j

/-- Add a report. -/
def notice (j : Journal σ) (n : Notice) : Journal σ := .notice n :: j

/-- What was logged, in order. -/
def log (j : Journal σ) : List LogRecord := j.reverse.filterMap Activity.record?

@[simp] theorem events_eq (j : Journal σ) (es : List (Event σ)) :
    j.events es = (es.map Activity.event).reverse ++ j := by
  simp [events]

end Journal

end StreamRtp.CommandLine
