import StreamRtp.Bytes

/-!
# A source of media packets

A synthetic source numbers its packets and stamps them with a media clock. Both counters wrap, the
number at 16 bits and the stamp at 32 bits, and neither has an influence on the other.

The fixed header has twelve bytes: the version, the marker bit with the payload type, the sequence
number, the timestamp and the identifier of the source. It is followed by the payload.
-/

namespace StreamRtp.Rtp

/-- The number of bytes in a header. -/
def headerLength : Nat := 12

/-- The first byte of a header: version two, nothing else. -/
def versionByte : UInt8 := 0x80

/-- A source of packets. -/
structure Source where
  /-- The payload type, seven bits. -/
  payloadType : UInt8
  /-- The identifier of the source. -/
  ssrc : UInt32
  /-- The number that the next packet carries. -/
  sequence : UInt16
  /-- The time that the next packet is stamped with. -/
  timestamp : UInt32
  deriving DecidableEq, Repr

namespace Source

/-- A new source. Only the low seven bits of the payload type count. -/
def new (payloadType : UInt8) (ssrc : UInt32) : Source := ⟨payloadType &&& 0x7f, ssrc, 0, 0⟩

/-- The header of the next packet. -/
def header (s : Source) (marker : Bool) : Bytes :=
  [versionByte, (if marker then 0x80 else 0) ||| s.payloadType]
    ++ bigEndian 2 s.sequence.toNat
    ++ bigEndian 4 s.timestamp.toNat
    ++ bigEndian 4 s.ssrc.toNat

/-- Build the next packet. The sequence number moves on by one. -/
def packet (s : Source) (marker : Bool) (payload : Bytes) : Bytes × Source :=
  (s.header marker ++ payload, { s with sequence := s.sequence + 1 })

/-- Let the media clock move on. -/
def advance (s : Source) (increment : UInt32) : Source :=
  { s with timestamp := s.timestamp + increment }

/-- Build packets without payload and forget them. -/
def skip (s : Source) : Nat → Source
  | 0 => s
  | n + 1 => (s.packet false []).2.skip n

@[simp] theorem length_header (s : Source) (marker : Bool) :
    (s.header marker).length = headerLength := by
  simp [header, headerLength]

end Source

/-- The sequence number of a packet, if it is long enough to have one. -/
def sequenceOf : Bytes → Option UInt16
  | _ :: _ :: high :: low :: _ => some (UInt16.ofNat (ofBigEndian [high, low]))
  | _ => none

end StreamRtp.Rtp
