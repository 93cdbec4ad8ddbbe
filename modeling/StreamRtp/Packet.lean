import StreamRtp.Bytes
import StreamRtp.Connection.Id

/-!
# Received packets

Media packets and control packets share one stream, so the kind of a packet has to be read off the
packet itself. The second byte of a control packet is its type; a packet that is no longer than the
common header of control packets is never taken for one.
-/

namespace StreamRtp

/-- Whether a packet carries media or control data. -/
inductive PacketKind where
  | rtp
  | rtcp
  deriving DecidableEq, Repr

namespace PacketKind

/-- Whether a byte is one of the types of control packets: sender report, receiver report, source
description, goodbye, application-defined. -/
def isControlType (b : UInt8) : Bool := 200 ≤ b && b ≤ 204

/-- The kind of a packet. A control packet is longer than its four-byte common header. -/
def classify : Bytes → PacketKind
  | _ :: type :: _ :: _ :: _ :: _ => if isControlType type then rtcp else rtp
  | _ => rtp

/-- The name of a kind. -/
def name : PacketKind → String
  | rtp => "Rtp"
  | rtcp => "Rtcp"

end PacketKind

/-- One received frame payload with where it came from and when. -/
structure Packet where
  /-- The payload. -/
  data : Bytes
  /-- The connection it arrived on. -/
  source : ConnectionId
  /-- The time of the receive pass that completed it, in milliseconds since the epoch. -/
  receivedAt : Nat
  deriving DecidableEq, Repr

namespace Packet

/-- The kind of a packet. -/
def kind (p : Packet) : PacketKind := .classify p.data

/-- Whether a packet carries media. -/
def isRtp (p : Packet) : Bool := p.kind = .rtp

/-- The number of payload bytes. -/
def length (p : Packet) : Nat := p.data.length

/-- Whether a packet has no payload. -/
def isEmpty (p : Packet) : Bool := p.data.isEmpty

end Packet

end StreamRtp
