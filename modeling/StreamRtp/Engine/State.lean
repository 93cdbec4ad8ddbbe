import StreamRtp.Abort.Channel
import StreamRtp.Frame.Assembler
import StreamRtp.Network
import StreamRtp.Packet
import StreamRtp.Registry.Cursor

/-!
# The state of an engine

An engine goes through three stages: it is initialised, which gives it an abort channel of its own;
then created, which gives it destinations, a queue and a filter; and destroyed, which takes both
away. `Core` is what exists between creation and destruction.

The abort channel that a wait of the engine listens to is the engine's own one or a channel shared
with other engines. Shared channels live outside of the engines and are referred to by number.
-/

namespace StreamRtp

/-- The packet size limit that is used where nothing else is said. -/
def defaultMaxPacketSize : Nat := 1400

/-- The bytes added to a packet on the way: network header, transport header, length field. -/
def headerOverhead : Nat := 20 + 20 + Frame.lengthFieldSize

/-- The number of buckets for destinations. -/
def destinationBucketCount : Nat := 1024

/-- Destinations are spread by the remainder of their number, so every identity has a bucket. -/
def destinationBuckets : BucketTable ConnectionId :=
  ⟨destinationBucketCount, fun id ↦ id.value.toNat % destinationBucketCount⟩

/-- The abort channel of an engine: its own, or one of the shared channels. -/
inductive AbortRef where
  | own
  | shared (index : Nat)
  deriving DecidableEq, Repr

/-- A registered stream with its reassembly state. -/
structure Connection (σ : Type) where
  stream : σ
  assembler : Assembler

/-- What an engine is created with, apart from the size limit. -/
structure CreationParams where
  /-- The number of a shared abort channel to be used instead of the engine's own one. -/
  abortChannel : Option Nat
  /-- Whether dropped connections are reported to an error hook. -/
  hasHook : Bool
  /-- The mode the filter starts with. -/
  receiveMode : ReceiveMode
  deriving DecidableEq, Repr

namespace CreationParams

/-- An own abort channel, no hook, every source accepted. -/
def default : CreationParams := ⟨none, false, .acceptAll⟩

/-- The parameters as a text, for diagnosis. -/
def text (p : CreationParams) : String :=
  "TransmissionParams \x7b abort_channel: "
    ++ (match p.abortChannel with
        | none => "None"
        | some _ => "Some(..)")
    ++ ", error_hook: " ++ toString p.hasHook
    ++ ", receive_mode: " ++ p.receiveMode.name ++ ", .. \x7d"

end CreationParams

/-- What an engine has between creation and destruction. -/
structure Core (σ : Type) where
  /-- The registered streams in the order of registration. -/
  destinations : Registry ConnectionId (Connection σ) destinationBuckets
  /-- The received packets that nobody has taken, oldest first. -/
  queue : List Packet
  filter : ReceiveFilter ConnectionId
  /-- The limit for outgoing payloads and for announced lengths. -/
  maxPacketSize : Nat
  /-- The abort channel of waits. -/
  abort : AbortRef
  /-- Whether dropped connections are reported to an error hook. -/
  hasHook : Bool
  /-- The number of frames that the filter has rejected, without its bound of 64 bits: no run gets
  there. -/
  dropped : Nat
  /-- Where the reads of all destinations put their bytes, with what the last one has left. -/
  readBuffer : Bytes

namespace Core

variable {σ : Type}

/-- The state right after creation. -/
def ofParams (maxPacketSize : Nat) (abort : AbortRef) (params : CreationParams) : Core σ where
  destinations := .empty
  queue := []
  filter := .ofMode params.receiveMode
  maxPacketSize
  abort
  hasHook := params.hasHook
  dropped := 0
  readBuffer := []

/-- The registered streams in the order of registration. -/
def streams (core : Core σ) : List σ := core.destinations.toList.map (·.2.stream)

end Core

/-- The stages of an engine. -/
inductive Lifecycle (σ : Type) where
  | uninitialized
  | initialized
  | created (core : Core σ)

/-- An engine. The core and the reference `activeAbort` speak of the same channel; the reference is
what a thread uses that wants to wake another one. -/
structure Engine (σ : Type) where
  lifecycle : Lifecycle σ
  ownAbort : AbortChannel
  /-- The channel of waits, from creation to destruction. -/
  activeAbort : Option AbortRef
  /-- Whether waits queue up instead of being refused. -/
  threadSafe : Bool
  /-- Whether a thread is inside a wait. -/
  waiting : Bool

/-- A new engine. -/
def Engine.new {σ : Type} : Engine σ := ⟨.uninitialized, .fresh, none, false, false⟩

namespace Lifecycle

variable {σ : Type}

/-- The core, or the error of a call that needs one. -/
def core : Lifecycle σ → Except TransmitError (Core σ)
  | uninitialized => .error .notInitialized
  | initialized => .error .notCreated
  | created core => .ok core

end Lifecycle

/-- An engine with what lies around it: the shared abort channels and the world of the streams. -/
structure Scene (W σ : Type) where
  engine : Engine σ
  channels : List AbortChannel
  world : W

namespace Scene

variable {W σ : Type}

/-- The abort channel behind a reference. -/
def channel (scene : Scene W σ) : AbortRef → AbortChannel
  | .own => scene.engine.ownAbort
  | .shared index => scene.channels.getD index .fresh

/-- Replace the abort channel behind a reference. -/
def setChannel (scene : Scene W σ) (c : AbortChannel) : AbortRef → Scene W σ
  | .own => { scene with engine := { scene.engine with ownAbort := c } }
  | .shared index => { scene with channels := scene.channels.set index c }

theorem setChannel_self (scene : Scene W σ) (abort : AbortRef) :
    scene.setChannel (scene.channel abort) abort = scene := by
  cases abort with
  | own => rfl
  | shared index =>
    have hset : scene.channels.set index (scene.channels.getD index .fresh) = scene.channels := by
      by_cases hindex : index < scene.channels.length
      · rw [List.getD_eq_getElem?_getD, List.getElem?_eq_getElem hindex, Option.getD_some,
          List.set_getElem_self]
      · exact List.set_eq_of_length_le (Nat.le_of_not_lt hindex)
    rw [setChannel, channel, hset]

end Scene

/-- What a call on a core came to. -/
structure CoreOutcome (W σ α : Type) where
  result : Except TransmitError α
  core : Core σ
  world : W
  events : List (Event σ)

/-- What a call on an engine came to. -/
structure Outcome (W σ α : Type) where
  result : Except TransmitError α
  scene : Scene W σ
  events : List (Event σ)

/-- What is logged, as events. -/
def logged {σ : Type} (entries : List LogEntry) : List (Event σ) := entries.map .log

namespace Scene

variable {W σ α : Type}

/-- Run a call that needs a core. Before creation it fails and changes nothing. -/
def withCore (scene : Scene W σ) (f : Core σ → W → CoreOutcome W σ α) : Outcome W σ α :=
  match scene.engine.lifecycle.core with
  | .error e => ⟨.error e, scene, []⟩
  | .ok core =>
    let out := f core scene.world
    ⟨out.result,
      { scene with
        engine := { scene.engine with lifecycle := .created out.core }
        world := out.world },
      out.events⟩

end Scene

end StreamRtp
