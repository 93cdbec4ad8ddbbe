import Mathlib.Algebra.GroupWithZero.Nat
import StreamRtp.Proofs.StreamGrammar
import StreamRtp.Rtp.Source

/-!
# Runs of a source

A source is asked for packets and told to let its clock move on, in any order. Its state after a run
is known from two numbers: how many packets were built, and how many ticks went by. Each of the two
counters shows one of the numbers modulo its range, so both wrap independently of each other.

The main statement gives every packet of a run byte by byte. The bytes are spelled out there, so
that the order of the fields and of the bytes in a field can be read off.
-/

namespace StreamRtp

/-! ## Fields of two and of four bytes -/

theorem bigEndian_two (n : Nat) : bigEndian 2 n = [.ofNat (n / 256), .ofNat n] := by
  simp [bigEndian]

theorem bigEndian_four (n : Nat) : bigEndian 4 n
    = [.ofNat (n / 16777216), .ofNat (n / 65536), .ofNat (n / 256), .ofNat n] := by
  simp [bigEndian, Nat.div_div_eq_div_mul]

namespace Rtp

/-- What a source is asked to do. -/
inductive SourceRequest where
  | packet (marker : Bool) (payload : Bytes)
  | advance (increment : UInt32)
  deriving DecidableEq, Repr

namespace SourceRequest

/-- Whether a packet is asked for. -/
def isPacket : SourceRequest → Bool
  | packet .. => true
  | advance _ => false

/-- The ticks by which the clock moves on. -/
def ticks : SourceRequest → Nat
  | packet .. => 0
  | advance increment => increment.toNat

end SourceRequest

open SourceRequest

namespace Source

/-! ## Runs -/

/-- Carry a request out. A packet that is built is handed out. -/
def perform (s : Source) : SourceRequest → Option Bytes × Source
  | .packet marker payload => (some (s.packet marker payload).1, (s.packet marker payload).2)
  | .advance increment => (none, s.advance increment)

/-- The source after requests, one after the other. -/
def after (s : Source) (requests : List SourceRequest) : Source :=
  requests.foldl (fun s q ↦ (s.perform q).2) s

/-- The packets that are built for requests. -/
def built (s : Source) : List SourceRequest → List Bytes
  | [] => []
  | q :: requests => (s.perform q).1.toList ++ (s.perform q).2.built requests

variable (s : Source) (earlier later : List SourceRequest)

theorem built_append :
    s.built (earlier ++ later) = s.built earlier ++ (s.after earlier).built later := by
  induction earlier generalizing s with
  | nil => rfl
  | cons q earlier ih => simp [built, after, ih]

/-- As many packets are built as are asked for. -/
theorem length_built : (s.built earlier).length = earlier.countP isPacket := by
  induction earlier generalizing s with
  | nil => rfl
  | cons q earlier ih =>
    rw [built, List.length_append, ih, List.countP_cons, Nat.add_comm]
    cases q <;> simp [perform, isPacket]

/-! ## The counters -/

/-- A source with its counters moved on. -/
def moved (s : Source) (packets ticks : Nat) : Source :=
  { s with sequence := s.sequence + .ofNat packets, timestamp := s.timestamp + .ofNat ticks }

theorem moved_moved (packets ticks packets' ticks' : Nat) :
    (s.moved packets ticks).moved packets' ticks'
      = s.moved (packets + packets') (ticks + ticks') := by
  simp [moved, UInt16.ofNat_add, UInt32.ofNat_add, UInt16.add_assoc, UInt32.add_assoc]

/-- A request moves one of the counters and leaves the other one alone. -/
theorem perform_eq_moved (q : SourceRequest) :
    (s.perform q).2 = s.moved (if q.isPacket then 1 else 0) q.ticks := by
  cases q with
  | packet marker payload => simp [perform, packet, moved, isPacket, ticks]
  | advance increment => simp [perform, advance, moved, isPacket, ticks]

theorem after_eq_moved (requests : List SourceRequest) :
    s.after requests = s.moved (requests.countP isPacket) (requests.map ticks).sum := by
  induction requests generalizing s with
  | nil => simp [after, moved]
  | cons q requests ih =>
    have hafter : s.after (q :: requests) = (s.perform q).2.after requests := rfl
    rw [hafter, ih, perform_eq_moved, moved_moved, List.countP_cons, List.map_cons, List.sum_cons,
      Nat.add_comm (requests.countP isPacket)]

/-! ## One packet -/

/-- A packet byte by byte: the header for so many packets and ticks before it, and the payload.
`UInt8.ofNat` keeps the low eight bits. -/
def image (payloadType : UInt8) (ssrc : UInt32) (packets ticks : Nat) (marker : Bool)
    (payload : Bytes) : Bytes :=
  let number := packets % 65536
  let stamp := ticks % 4294967296
  let name := ssrc.toNat
  [0x80, .ofNat (marker.toNat * 128 + payloadType.toNat % 128),
    .ofNat (number / 256), .ofNat number,
    .ofNat (stamp / 16777216), .ofNat (stamp / 65536), .ofNat (stamp / 256), .ofNat stamp,
    .ofNat (name / 16777216), .ofNat (name / 65536), .ofNat (name / 256), .ofNat name] ++ payload

/-- The marker has the top bit of its byte, and the payload type has the others. -/
theorem marker_or_payloadType (payloadType : UInt8) (marker : Bool) :
    (if marker then 0x80 else 0) ||| (payloadType &&& 0x7f)
      = UInt8.ofNat (marker.toNat * 128 + payloadType.toNat % 128) := by
  have hmask : payloadType.toNat &&& 127 = payloadType.toNat % 128 :=
    Nat.and_two_pow_sub_one_eq_mod payloadType.toNat 7
  have hlt : payloadType.toNat % 128 < 128 := Nat.mod_lt _ (by decide)
  apply UInt8.toNat_inj.1
  rw [UInt8.toNat_or, UInt8.toNat_and, UInt8.toNat_ofNat']
  cases marker with
  | false =>
    simp [hmask]
    omega
  | true =>
    have hor : 128 + payloadType.toNat % 128 = 128 ||| payloadType.toNat % 128 :=
      Nat.two_pow_add_eq_or_of_lt (i := 7) hlt 1
    simp [hmask, ← hor]
    omega

theorem packet_moved_new (payloadType : UInt8) (ssrc : UInt32) (packets ticks : Nat)
    (marker : Bool) (payload : Bytes) :
    (((new payloadType ssrc).moved packets ticks).packet marker payload).1
      = image payloadType ssrc packets ticks marker payload := by
  have hnumber : (0 + UInt16.ofNat packets).toNat = packets % 65536 := by simp
  have hstamp : (0 + UInt32.ofNat ticks).toNat = ticks % 4294967296 := by simp
  rw [packet, header, moved, new, hnumber, hstamp, marker_or_payloadType, bigEndian_two,
    bigEndian_four, bigEndian_four]
  rfl

/-- What is read back from a packet is the number that it was built with. -/
theorem sequenceOf_packet (marker : Bool) (payload : Bytes) :
    sequenceOf (s.packet marker payload).1 = some s.sequence := by
  have hread := ofBigEndian_bigEndian (Nat.le_of_lt_succ s.sequence.toNat_lt)
  rw [Frame.lengthFieldSize, bigEndian_two] at hread
  rw [packet, header, bigEndian_two]
  simp only [List.cons_append, List.nil_append, sequenceOf, hread, UInt16.ofNat_toNat]

end Source

theorem sequenceOf_eq_none_iff (bytes : Bytes) : sequenceOf bytes = none ↔ bytes.length < 4 := by
  rcases bytes with _ | ⟨_, _ | ⟨_, _ | ⟨_, _ | ⟨_, _⟩⟩⟩⟩ <;> simp [sequenceOf]

/-! ## The main result -/

namespace Source

/-- **The packets of a run.** A packet that is built after so many others and so many ticks, in a
run of a new source, is the one with these numbers. Before it is built, its number is what the
source says, and it can be read back from the packet. Only what is shorter than four bytes has no
number. -/
theorem built_image (payloadType : UInt8) (ssrc : UInt32) (earlier later : List SourceRequest)
    (marker : Bool) (payload : Bytes) :
    let start := new payloadType ssrc
    let source := start.after earlier
    let packets := earlier.countP isPacket
    let ticks := (earlier.map SourceRequest.ticks).sum
    let packet := image payloadType ssrc packets ticks marker payload
    (start.built (earlier ++ .packet marker payload :: later))[packets]? = some packet ∧
      source.sequence.toNat = packets % 65536 ∧
      sequenceOf packet = some source.sequence ∧
      ∀ bytes, sequenceOf bytes = none ↔ bytes.length < 4 := by
  intro start source packets ticks packet
  have hsource : source = start.moved packets ticks := start.after_eq_moved earlier
  have hpacket : (source.packet marker payload).1 = packet := by
    rw [hsource]
    exact packet_moved_new ..
  refine ⟨?_, ?_, ?_, sequenceOf_eq_none_iff⟩
  · rw [built_append, List.getElem?_append_right (Nat.le_of_eq (start.length_built earlier)),
      length_built, Nat.sub_self]
    exact congrArg some hpacket
  · rw [hsource]
    simp [start, moved, new]
  · rw [← hpacket]
    exact source.sequenceOf_packet marker payload

-- Both counters have wrapped, the first one to 1 and the second one to 0.
example : image 255 0xaabbccdd 65537 4294967296 true [1]
    = [0x80, 0xff, 0, 1, 0, 0, 0, 0, 0xaa, 0xbb, 0xcc, 0xdd, 1] := by
  decide

end Source

end Rtp

end StreamRtp
