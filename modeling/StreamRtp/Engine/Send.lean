import StreamRtp.Engine.Receive

/-!
# Sending

A payload is framed once and written to every destination in the order of registration. A
destination whose write fails is reported and dropped; the others are still written. The first
failure is the result of the call. Media and control packets are sent alike.
-/

namespace StreamRtp

variable {W σ : Type}

/-- How far a fan-out has come: the world, the first failure, and what has happened. -/
structure SendPass (W σ : Type) where
  world : W
  failure : Option (ConnectionId × IoError)
  events : List (Event σ)

namespace Core

variable [Network W σ]

/-- Write a frame to one destination, which is given up if that fails. The hook is told of a second
report of the error, the caller of the error itself. -/
def visitWrite (core : Core σ) (frame : Bytes) (id : ConnectionId) (c : Connection σ)
    (pass : SendPass W σ) : Option (Connection σ) × SendPass W σ :=
  match Network.writeAll c.stream frame pass.world with
  | (.ok (), world) =>
    (some c, { pass with world, events := pass.events ++ [.write c.stream frame (.ok ())] })
  | (.error e, world) =>
    (none,
      { world
        failure := pass.failure.or (some (id, e))
        events := pass.events ++ .write c.stream frame (.error e)
          :: core.reportDrop id (.send e.duplicate) })

/-- The largest payload that is sent. -/
def sendLimit (core : Core σ) : Nat := min core.maxPacketSize Frame.maxPayload

/-- Send a payload to every destination. A payload that is too big is refused before any write. -/
def send (core : Core σ) (payload : Bytes) (w : W) : CoreOutcome W σ Unit :=
  if core.sendLimit < payload.length then
    ⟨.error (.packetTooBig payload.length core.sendLimit), core, w, []⟩
  else
    match Frame.encode payload with
    | .error e => ⟨.error e, core, w, []⟩
    | .ok frame =>
      let (destinations, pass) := core.destinations.scan (core.visitWrite frame) ⟨w, none, []⟩
      ⟨match pass.failure with
        | some (id, e) => .error (.send id e)
        | none => .ok (),
        { core with destinations }, pass.world, pass.events⟩

end Core

end StreamRtp
