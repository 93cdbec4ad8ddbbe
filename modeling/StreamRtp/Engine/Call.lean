import StreamRtp.Engine.Wait

/-!
# Calls

Everything that can be asked of an engine, as data. `Scene.perform` answers a call; a run of an
engine is a list of calls that are performed one after the other. Whatever concerns groups of
receivers has no meaning for point-to-point streams and is refused in every stage.
-/

namespace StreamRtp

/-- A call of an engine whose streams are of type `σ`. -/
inductive Call (σ : Type) where
  | init (threadSafe : Bool)
  | create (maxPacketSize : Nat) (params : CreationParams)
  | destroy
  | isThreadSafe
  | addDestination (stream : σ)
  | deleteDestination (id : ConnectionId)
  | clearDestinations
  | destinations
  | poll
  | wait (timeout : Duration)
  | abortWait
  | sendRtp (payload : Bytes)
  | sendRtcp (payload : Bytes)
  | nextPacket
  | newDataAvailable
  | supportsMulticasting
  | joinGroup (address : String)
  | leaveGroup (address : String)
  | leaveAllGroups
  | setReceiveMode (mode : ReceiveMode)
  | addIgnored (id : ConnectionId)
  | deleteIgnored (id : ConnectionId)
  | clearIgnored
  | addAccepted (id : ConnectionId)
  | deleteAccepted (id : ConnectionId)
  | clearAccepted
  | setMaxPacketSize (size : Nat)
  | maxPacketSize
  | droppedPackets
  | headerOverhead

/-- The answer of a call that did not fail. -/
inductive Reply (σ : Type) where
  | done
  | flag (value : Bool)
  | number (value : Nat)
  | id (value : ConnectionId)
  | ids (value : List ConnectionId)
  | stream (value : σ)
  | packet (value : Packet)

/-- A call that was made, with what came of it. -/
structure Performed (σ : Type) where
  call : Call σ
  result : Except TransmitError (Reply σ)
  events : List (Event σ)

namespace Outcome

variable {W σ α β : Type}

/-- The same outcome with another form of the answer. -/
def map (f : α → β) (out : Outcome W σ α) : Outcome W σ β :=
  ⟨out.result.map f, out.scene, out.events⟩

/-- An outcome whose answer only says that the call succeeded. -/
def reply (out : Outcome W σ Unit) : Outcome W σ (Reply σ) := out.map fun _ ↦ .done

end Outcome

namespace Scene

variable {W σ : Type}

/-- Whether a packet is queued. There is none before creation. -/
def newDataAvailable (scene : Scene W σ) : Bool :=
  match scene.engine.lifecycle with
  | .created core => !core.queue.isEmpty
  | _ => false

/-- Drop every destination. Before creation there is nothing to drop. -/
def clearDestinations (scene : Scene W σ) : Outcome W σ Unit :=
  match scene.engine.lifecycle with
  | .created _ => scene.withCore Core.clearDestinations
  | _ => ⟨.ok (), scene, []⟩

/-- The registered destinations, if the engine is created. -/
def destinations? (scene : Scene W σ) : Option (List ConnectionId) :=
  match scene.engine.lifecycle with
  | .created core => some core.destinations.keys
  | _ => none

/-- Answer at once, whatever the stage. -/
def answer (scene : Scene W σ) (reply : Except TransmitError (Reply σ)) : Outcome W σ (Reply σ) :=
  ⟨reply, scene, []⟩

/-- Answer a call. What the system answers when the call turns to a doorbell is given. -/
def perform [Network W σ] (scene : Scene W σ) (call : Call σ) (mishaps : Mishaps := []) :
    Outcome W σ (Reply σ) :=
  match call with
  | .init threadSafe => (scene.init threadSafe mishaps).reply
  | .create maxPacketSize params => (scene.create maxPacketSize params).reply
  | .destroy => (scene.destroy mishaps).reply
  | .isThreadSafe => scene.answer (.ok (.flag scene.engine.threadSafe))
  | .addDestination stream => (scene.withCore (·.addDestination stream)).map .id
  | .deleteDestination id => (scene.withCore (·.deleteDestination id)).map .stream
  | .clearDestinations => scene.clearDestinations.reply
  | .destinations => (scene.withCore Core.listDestinations).map .ids
  | .poll => (scene.withCore Core.poll).reply
  | .wait timeout => (scene.wait timeout mishaps).map .flag
  | .abortWait => (scene.abortWait mishaps).reply
  | .sendRtp payload => (scene.withCore (·.send payload)).reply
  | .sendRtcp payload => (scene.withCore (·.send payload)).reply
  | .nextPacket => (scene.withCore Core.nextPacket).map .packet
  | .newDataAvailable => scene.answer (.ok (.flag scene.newDataAvailable))
  | .supportsMulticasting => scene.answer (.ok (.flag false))
  | .joinGroup _ => scene.answer (.error (.notSupported "multicast"))
  | .leaveGroup _ => scene.answer (.error (.notSupported "multicast"))
  | .leaveAllGroups => scene.answer (.ok .done)
  | .setReceiveMode mode => (scene.withCore (·.setReceiveMode mode)).reply
  | .addIgnored id => (scene.withCore (·.addIgnored id)).reply
  | .deleteIgnored id => (scene.withCore (·.deleteIgnored id)).reply
  | .clearIgnored => (scene.withCore Core.clearIgnored).reply
  | .addAccepted id => (scene.withCore (·.addAccepted id)).reply
  | .deleteAccepted id => (scene.withCore (·.deleteAccepted id)).reply
  | .clearAccepted => (scene.withCore Core.clearAccepted).reply
  | .setMaxPacketSize size => (scene.withCore (·.setMaxPacketSize size)).reply
  | .maxPacketSize => (scene.withCore fun core w ↦ core.done w (.number core.maxPacketSize) [])
  | .droppedPackets => (scene.withCore fun core w ↦ core.done w (.number core.dropped) [])
  | .headerOverhead => scene.answer (.ok (.number headerOverhead))

/-- Make calls one after the other. The system never fails them. -/
def run [Network W σ] (scene : Scene W σ) : List (Call σ) → List (Performed σ) × Scene W σ
  | [] => ([], scene)
  | call :: calls =>
    let out := scene.perform call
    let (later, scene) := out.scene.run calls
    (⟨call, out.result, out.events⟩ :: later, scene)

/-- Take packets until none is left. The packets and the error that ended it are returned. -/
def drain (scene : Scene W σ) : (List Packet × TransmitError) × Scene W σ :=
  match scene.engine.lifecycle with
  | .created core =>
    let lifecycle := Lifecycle.created { core with queue := [] }
    ((core.queue, .queueEmpty), { scene with engine := { scene.engine with lifecycle } })
  | .initialized => (([], .notCreated), scene)
  | .uninitialized => (([], .notInitialized), scene)

end Scene

end StreamRtp
