import StreamRtp.Bytes
import StreamRtp.Error

/-!
# Frames

On a byte stream every packet is preceded by its length, a 16-bit number, most significant byte
first. The length counts the payload only, so an empty payload is the two bytes `0 0`.
-/

namespace StreamRtp

namespace Frame

/-- The number of bytes in the length field. -/
def lengthFieldSize : Nat := 2

/-- The largest payload a length field can announce. -/
def maxPayload : Nat := 65535

/-- The bytes of a frame: the length of the payload, then the payload. -/
def wire (payload : Bytes) : Bytes :=
  bigEndian lengthFieldSize payload.length ++ payload

/-- The frame of a payload that a length field can describe. -/
def encode (payload : Bytes) : Except TransmitError Bytes :=
  if payload.length ≤ maxPayload then .ok (wire payload)
  else .error (.packetTooBig payload.length maxPayload)

@[simp] theorem length_wire (payload : Bytes) :
    (wire payload).length = lengthFieldSize + payload.length := by
  simp [wire]

theorem encode_of_le {payload : Bytes} (h : payload.length ≤ maxPayload) :
    encode payload = .ok (wire payload) := if_pos h

end Frame

end StreamRtp
