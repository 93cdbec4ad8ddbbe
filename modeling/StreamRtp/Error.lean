import StreamRtp.Connection.Id
import StreamRtp.Io.Error

/-!
# Errors of the library

Each error is a cause with what is needed to explain it; the wording is in one `message` function
per type. An error that was caused by another one names it in `source`.
-/

namespace StreamRtp

/-! ## Parts -/

/-- Why a byte stream could not be cut into frames. -/
inductive AssemblyError where
  /-- A length field announced more bytes than the limit allows. -/
  | frameTooLarge (declared limit : Nat)
  deriving DecidableEq, Repr

/-- The wording of an assembly error. -/
def AssemblyError.message : AssemblyError → String
  | frameTooLarge declared limit =>
    "declared frame length " ++ toString declared ++ " exceeds maximum " ++ toString limit

/-- Why a registry refused an operation. -/
inductive RegistryError where
  | duplicateKey
  | keyNotFound
  /-- The cursor is empty. -/
  | noCurrentElement
  /-- The bucket of a key lies outside the table. -/
  | invalidBucketIndex (index buckets : Nat)
  deriving DecidableEq, Repr

/-- The wording of a registry error. -/
def RegistryError.message : RegistryError → String
  | duplicateKey => "key already present"
  | keyNotFound => "key not found"
  | noCurrentElement => "cursor does not point at an element"
  | invalidBucketIndex index buckets =>
    "bucket index " ++ toString index ++ " out of range (table has " ++ toString buckets
      ++ " buckets)"

/-- Why the engine dropped a connection on its own. -/
inductive DropReason where
  /-- Writing a frame failed. -/
  | send (cause : IoError)
  /-- Reading failed. -/
  | receive (cause : IoError)
  /-- The peer ended the stream. -/
  | closed
  /-- What arrived is no sequence of acceptable frames. -/
  | assembly (cause : AssemblyError)
  deriving DecidableEq, Repr

namespace DropReason

/-- The wording of a reason. -/
def message : DropReason → String
  | send cause => "send failed: " ++ cause.message
  | receive cause => "receive failed: " ++ cause.message
  | closed => "closed by peer"
  | assembly cause => cause.message

/-- The text of the error behind a reason. -/
def source : DropReason → Option String
  | send cause | receive cause => some cause.message
  | closed => none
  | assembly cause => some cause.message

end DropReason

/-! ## Calls -/

/-- Why a call of the engine or of an abort channel failed. -/
inductive TransmitError where
  /-- An I/O failure outside of a single connection, such as a failed readiness wait. -/
  | io (cause : IoError)
  /-- A resource could not be allocated. -/
  | initialization (cause : IoError)
  | alreadyInitialized
  | notInitialized
  | alreadyCreated
  | notCreated
  | abortNotInitialized
  /-- Somebody else is inside a wait of an engine without thread safety. -/
  | alreadyWaiting
  | duplicateDestination (id : ConnectionId)
  | destinationNotFound (id : ConnectionId)
  /-- The stream failed its check when it was registered. -/
  | invalidTransport (id : ConnectionId) (cause : IoError)
  /-- A payload does not fit into one frame. -/
  | packetTooBig (length limit : Nat)
  | assembly (cause : AssemblyError)
  | queueEmpty
  /-- The operation has no meaning for point-to-point streams. -/
  | notSupported (what : String)
  | noSuchFilterEntry (id : ConnectionId)
  /-- The first failed write of a fan-out. -/
  | send (id : ConnectionId) (cause : IoError)
  | registry (cause : RegistryError)
  deriving DecidableEq, Repr

namespace TransmitError

/-- The wording of an error. -/
def message : TransmitError → String
  | io cause => "I/O error: " ++ cause.message
  | initialization cause => "initialization failed: " ++ cause.message
  | alreadyInitialized => "already initialized"
  | notInitialized => "not initialized"
  | alreadyCreated => "already created"
  | notCreated => "not created"
  | abortNotInitialized => "abort channel not initialized"
  | alreadyWaiting => "already waiting for incoming data"
  | duplicateDestination id => "destination already registered: " ++ id.text
  | destinationNotFound id => "destination not found: " ++ id.text
  | invalidTransport id cause => "invalid transport for " ++ id.text ++ ": " ++ cause.message
  | packetTooBig length limit =>
    "packet too big: " ++ toString length ++ " bytes (max " ++ toString limit ++ ")"
  | assembly cause => "frame assembly failed: " ++ cause.message
  | queueEmpty => "no packet queued"
  | notSupported what => "not supported: " ++ what
  | noSuchFilterEntry id => "no such filter entry: " ++ id.text
  | send id cause => "send to " ++ id.text ++ " failed: " ++ cause.message
  | registry cause => "registry error: " ++ cause.message

/-- The text of the error behind an error. -/
def source : TransmitError → Option String
  | io cause | initialization cause | invalidTransport _ cause | send _ cause => some cause.message
  | assembly cause => some cause.message
  | registry cause => some cause.message
  | _ => none

end TransmitError

end StreamRtp
