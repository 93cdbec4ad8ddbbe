import StreamRtp.Engine.Send

/-!
# Destinations, filter, limits and queue

The calls on a created engine that concern what it keeps: which streams are registered, which
sources are accepted, how long packets may be, and which packets are waiting.
-/

namespace StreamRtp

variable {W σ : Type}

namespace Core

/-- A call that succeeded without touching the world. -/
def done {α : Type} (core : Core σ) (w : W) (a : α) (log : List LogEntry) : CoreOutcome W σ α :=
  ⟨.ok a, core, w, logged log⟩

/-- A call that was refused. -/
def refused {α : Type} (core : Core σ) (w : W) (e : TransmitError) : CoreOutcome W σ α :=
  ⟨.error e, core, w, []⟩

/-! ## Destinations -/

/-- Register a stream. It is refused if its identity is registered already, and then nothing is
asked of it, or if it cannot say how many bytes wait. -/
def addDestination [Network W σ] (core : Core σ) (stream : σ) (w : W) :
    CoreOutcome W σ ConnectionId :=
  let id := Network.id W stream
  if core.destinations.contains id then core.refused w (.duplicateDestination id)
  else
    match Network.bytesAvailable stream w with
    | (.error e, w) =>
      ⟨.error (.invalidTransport id e), core, w, [.bytesAvailable stream (.error e)]⟩
    | (.ok available, w) =>
      let asked := Event.bytesAvailable stream (.ok available)
      match core.destinations.add id ⟨stream, .ofLimit core.maxPacketSize⟩ with
      | .error e => ⟨.error (.registry e), core, w, [asked]⟩
      | .ok destinations =>
        ⟨.ok id, { core with destinations }, w,
          [asked, .log (.destinationAdded id destinations.size)]⟩

/-- Unregister a stream and hand it back. -/
def deleteDestination (core : Core σ) (id : ConnectionId) (w : W) : CoreOutcome W σ σ :=
  match core.destinations.remove id with
  | .ok (c, destinations) =>
    { core with destinations }.done w c.stream [.destinationRemoved id destinations.size]
  | .error .keyNotFound => core.refused w (.destinationNotFound id)
  | .error e => core.refused w (.registry e)

/-- Drop every destination along with its unfinished frame. Queued packets stay. -/
def clearDestinations (core : Core σ) (w : W) : CoreOutcome W σ Unit :=
  { core with destinations := core.destinations.clear }.done w () [.destinationsCleared]

/-- The registered destinations in the order of registration. -/
def listDestinations (core : Core σ) (w : W) : CoreOutcome W σ (List ConnectionId) :=
  core.done w core.destinations.keys []

/-! ## Limits -/

/-- Change the limit for outgoing payloads and for lengths that have not been accepted yet. -/
def setMaxPacketSize (core : Core σ) (size : Nat) (w : W) : CoreOutcome W σ Unit :=
  let (destinations, _) := core.destinations.scan
    (fun _ c (_ : Unit) ↦ (some { c with assembler := c.assembler.setLimit size }, ())) ()
  { core with maxPacketSize := size, destinations }.done w () [.maximumChanged size]

/-! ## Filter -/

/-- Select the list that decides which sources are accepted. -/
def setReceiveMode (core : Core σ) (mode : ReceiveMode) (w : W) : CoreOutcome W σ Unit :=
  { core with filter := core.filter.setMode mode }.done w () [.receiveModeChanged mode]

/-- Put a source on the ignore list. -/
def addIgnored (core : Core σ) (id : ConnectionId) (w : W) : CoreOutcome W σ Unit :=
  { core with filter := (core.filter.ignore id).2 }.done w () []

/-- Take a source off the ignore list. -/
def deleteIgnored (core : Core σ) (id : ConnectionId) (w : W) : CoreOutcome W σ Unit :=
  match core.filter.unignore id with
  | (true, filter) => { core with filter }.done w () []
  | (false, _) => core.refused w (.noSuchFilterEntry id)

/-- Empty the ignore list. -/
def clearIgnored (core : Core σ) (w : W) : CoreOutcome W σ Unit :=
  { core with filter := core.filter.clearIgnored }.done w () []

/-- Put a source on the accept list. -/
def addAccepted (core : Core σ) (id : ConnectionId) (w : W) : CoreOutcome W σ Unit :=
  { core with filter := (core.filter.allow id).2 }.done w () []

/-- Take a source off the accept list. -/
def deleteAccepted (core : Core σ) (id : ConnectionId) (w : W) : CoreOutcome W σ Unit :=
  match core.filter.disallow id with
  | (true, filter) => { core with filter }.done w () []
  | (false, _) => core.refused w (.noSuchFilterEntry id)

/-- Empty the accept list. -/
def clearAccepted (core : Core σ) (w : W) : CoreOutcome W σ Unit :=
  { core with filter := core.filter.clearAccepted }.done w () []

/-! ## Queue -/

/-- Take the oldest queued packet. -/
def nextPacket (core : Core σ) (w : W) : CoreOutcome W σ Packet :=
  match core.queue with
  | [] => core.refused w .queueEmpty
  | packet :: queue => { core with queue }.done w packet []

end Core

end StreamRtp
