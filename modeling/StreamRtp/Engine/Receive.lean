import StreamRtp.Engine.State

/-!
# Receiving

A receive pass asks the poller once which destinations can be read, without waiting, and then visits
the destinations in the order of registration. The answer of the poller has one flag per
destination, so the flags and the destinations are walked side by side: a destination that is
dropped on the way takes its own flag with it.

At each ready destination everything that waits there is read with one read, cut into frames and put
to the filter. Frames that were completed before a failure are delivered all the same.

All destinations are read into one buffer. It is as large as the last read was told, and what is
reassembled is the part in front that the read has filled.
-/

namespace StreamRtp

variable {W σ : Type}

/-- What came of reading a connection: the completed frames, the failure that ends the connection if
there is one, and how things stand afterwards. -/
structure Reception (W σ : Type) where
  frames : List Bytes
  failure : Option DropReason
  assembler : Assembler
  buffer : Bytes
  world : W
  events : List (Event σ)

/-- Read what waits at a connection and reassemble it. A read that says "not now" is no failure. -/
def Connection.receive [Network W σ] (c : Connection σ) (buffer : Bytes) (w : W) : Reception W σ :=
  match Network.bytesAvailable c.stream w with
  | (.error e, w) =>
    ⟨[], some (.receive e), c.assembler, buffer, w, [.bytesAvailable c.stream (.error e)]⟩
  | (.ok 0, w) =>
    ⟨[], some .closed, c.assembler, buffer, w, [.bytesAvailable c.stream (.ok 0)]⟩
  | (.ok available, w) =>
    let asked := Event.bytesAvailable c.stream (.ok available)
    let buffer := resize available buffer
    match Network.read c.stream available w with
    | (.error e, w) =>
      ⟨[], if e.isTransient then none else some (.receive e), c.assembler, buffer, w,
        [asked, .read c.stream available (.error e)]⟩
    | (.ok [], w) =>
      ⟨[], some .closed, c.assembler, buffer, w, [asked, .read c.stream available (.ok [])]⟩
    | (.ok bytes, w) =>
      let buffer := overwrite bytes buffer
      let (intake, assembler) := c.assembler.push (buffer.take bytes.length)
      ⟨intake.frames, intake.error.map .assembly, assembler, buffer, w,
        [asked, .read c.stream available (.ok bytes)]
          ++ match intake.error with
            | some (.frameTooLarge declared limit) => [.log (.oversizedFrame declared limit)]
            | none => []⟩

namespace Core

/-- What is reported when a connection is dropped: a log entry, then the hook. -/
def reportDrop (core : Core σ) (id : ConnectionId) (reason : DropReason) : List (Event σ) :=
  .log (.droppingConnection id reason) :: if core.hasHook then [.hook id reason] else []

end Core

/-- How far a receive pass has come: the world, the buffer, the queue, the number of rejected
frames, and what has happened. -/
structure ReceivePass (W σ : Type) where
  world : W
  buffer : Bytes
  queue : List Packet
  dropped : Nat
  events : List (Event σ)

namespace ReceivePass

/-- Put completed frames of one source to the filter. -/
def deliver (pass : ReceivePass W σ) (filter : ReceiveFilter ConnectionId) (now : Nat)
    (id : ConnectionId) (frames : List Bytes) : ReceivePass W σ :=
  let verdict := filter.decision id
  let events := pass.events ++ frames.map (.frame id · verdict)
  match verdict with
  | .accept =>
    { pass with queue := pass.queue ++ frames.map fun payload ↦ ⟨payload, id, now⟩, events }
  | .reject => { pass with dropped := pass.dropped + frames.length, events }

end ReceivePass

namespace Core

variable [Network W σ]

/-- Visit one destination of a receive pass, with the flags of this and all later destinations. A
ready destination is read; it is given up if that fails. -/
def visitReady (core : Core σ) (now : Nat) (id : ConnectionId) (c : Connection σ) :
    List Bool × ReceivePass W σ → Option (Connection σ) × List Bool × ReceivePass W σ
  | (true :: flags, pass) =>
    let got := c.receive pass.buffer pass.world
    let pass : ReceivePass W σ :=
      { pass with world := got.world, buffer := got.buffer, events := pass.events ++ got.events }
    let pass := pass.deliver core.filter now id got.frames
    match got.failure with
    | none => (some { c with assembler := got.assembler }, flags, pass)
    | some reason =>
      (none, flags, { pass with events := pass.events ++ core.reportDrop id reason })
  | (flags, pass) => (some c, flags.tail, pass)

/-- The receive pass over all destinations that the flags call ready. -/
def receiveReady (core : Core σ) (flags : List Bool) (w : W) : Core σ × W × List (Event σ) :=
  let start : ReceivePass W σ := ⟨w, core.readBuffer, core.queue, core.dropped, []⟩
  let (destinations, _, pass) :=
    core.destinations.scan (core.visitReady (Network.now w)) (flags, start)
  ({ core with
      destinations, queue := pass.queue, dropped := pass.dropped, readBuffer := pass.buffer },
    pass.world, pass.events)

/-- Receive what waits at the destinations, without waiting for more. -/
def poll (core : Core σ) (w : W) : CoreOutcome W σ Unit :=
  if core.destinations.isEmpty then ⟨.ok (), core, w, []⟩
  else
    let handles := core.streams.map Handle.stream
    match Network.waitReady handles .zero w with
    | (.error e, w) => ⟨.error (.io e), core, w, [.waitReady handles .zero (.error e)]⟩
    | (.ok answer, w) =>
      let asked := Event.waitReady handles .zero (.ok answer)
      if answer.count = 0 then ⟨.ok (), core, w, [asked]⟩
      else
        let (core, w, events) := core.receiveReady (Readiness.fit handles.length answer.flags) w
        ⟨.ok (), core, w, asked :: events⟩

end Core

end StreamRtp
